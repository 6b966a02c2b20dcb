namespace StaticSemantics

/-!
# Handles for code generation

The checker does not generate code, but it decides what code will need: a
frame for every function, a label for its entry point and a slot for every
variable.  It asks an allocator for these handles and records them in its
bindings without ever looking into them.

The allocator numbers things in the order in which they are asked for.  A
frame is the number of its place in a list of slot counts.  A slot may also be
asked for in a frame that was never handed out; the list then grows up to that
frame, and later frames come after it, so no two requests share a slot.
-/

/-- The frame of a function. -/
structure Frame where
  number : Nat
  deriving DecidableEq, Repr

/-- The entry point of a function. -/
structure Label where
  number : Nat
  deriving DecidableEq, Repr

/-- The place of a variable: a frame, and the place in it. -/
structure Slot where
  frame : Frame
  index : Nat
  deriving DecidableEq, Repr

/-- The name of an entry point in generated code. -/
def Label.text (label : Label) : String :=
  "L" ++ toString label.number

/-- The state of the allocator. -/
structure Storage where
  /-- The frame that encloses the whole program. -/
  outermost : Frame
  /-- How many slots of each frame are taken. -/
  taken : Array Nat
  /-- How many labels are taken. -/
  labels : Nat
  deriving DecidableEq, Repr

namespace Storage

/-- A request together with its answer. -/
inductive Call where
  | label (label : Label)
  | frame (parent : Frame) (label : Label) (parameters : Nat) (frame : Frame)
  | slot (slot : Slot)
  deriving DecidableEq, Repr

/-- An allocator that has been asked for nothing.  The first frame is there
from the start. -/
def new (outermost : Frame) : Storage :=
  ⟨outermost, #[0], 0⟩

/-- The slots of a frame that are taken. -/
def slots (storage : Storage) (frame : Frame) : Nat :=
  storage.taken[frame.number]?.getD 0

/-- Take the next label. -/
def takeLabel (storage : Storage) : Label × Storage :=
  (⟨storage.labels⟩, { storage with labels := storage.labels + 1 })

/-- Take the next frame. -/
def takeFrame (storage : Storage) : Frame × Storage :=
  (⟨storage.taken.size⟩, { storage with taken := storage.taken.push 0 })

/-- Take the next slot of a frame, which need not have been handed out. -/
def takeSlot (storage : Storage) (frame : Frame) : Slot × Storage :=
  let grown := storage.taken ++ Array.replicate (frame.number + 1 - storage.taken.size) 0
  (⟨frame, storage.slots frame⟩, { storage with taken := grown.modify frame.number (· + 1) })

@[simp] theorem outermost_takeLabel (storage : Storage) :
    storage.takeLabel.2.outermost = storage.outermost :=
  rfl

@[simp] theorem outermost_takeFrame (storage : Storage) :
    storage.takeFrame.2.outermost = storage.outermost :=
  rfl

@[simp] theorem outermost_takeSlot (storage : Storage) (frame : Frame) :
    (storage.takeSlot frame).2.outermost = storage.outermost :=
  rfl

/-- Taking a slot uses up one slot of its own frame and none of another. -/
theorem slots_takeSlot (storage : Storage) (frame other : Frame) :
    (storage.takeSlot frame).2.slots other =
      if other = frame then storage.slots frame + 1 else storage.slots other := by
  obtain ⟨number⟩ := frame
  obtain ⟨otherNumber⟩ := other
  simp only [takeSlot, slots, Array.getElem?_modify, Frame.mk.injEq]
  by_cases inside : otherNumber < storage.taken.size
  · rw [Array.getElem?_append_left inside, Array.getElem?_eq_getElem inside]
    by_cases same : otherNumber = number
    · subst same
      simp [Array.getElem?_eq_getElem inside]
    · simp [same, Ne.symm same]
  · have outside : storage.taken.size ≤ otherNumber := Nat.le_of_not_lt inside
    rw [Array.getElem?_append_right outside, Array.getElem?_replicate]
    by_cases same : otherNumber = number
    · subst same
      have room : otherNumber - storage.taken.size < otherNumber + 1 - storage.taken.size := by
        omega
      simp [room, Array.getElem?_eq_none outside]
    · have apart : ¬ number = otherNumber := Ne.symm same
      simp only [same, apart, if_false, Array.getElem?_eq_none outside]
      split <;> rfl

end Storage
end StaticSemantics
