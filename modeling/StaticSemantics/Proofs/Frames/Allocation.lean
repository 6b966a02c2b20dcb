import Mathlib.Data.List.Nodup
import StaticSemantics.Storage

namespace StaticSemantics
namespace Storage

/-!
# What an allocator hands out

Whatever an allocator is asked for, the slots of every frame are handed out in their
order, as many as were asked for.  So no slot is ever handed out twice.

A check asks for a label and a frame together, once for every function, and for
slots in a frame that it has got before.  If an allocator is asked for nothing
else, its answers can be told from the number of requests alone.  The functions
get the next labels and the next frames, one after another.
-/

/-- The label and the frame of a function, if this is the request for its frame. -/
def Call.function? : Call → Option (Label × Frame)
  | .frame _ entryPoint _ handed => some (entryPoint, handed)
  | _ => none

/-- The slot that is handed out, if this is a request for one. -/
def Call.slot? : Call → Option Slot
  | .slot handed => some handed
  | _ => none

/-- The labels and frames of the functions among some requests. -/
def functionsOf (calls : List Call) : List (Label × Frame) :=
  calls.filterMap Call.function?

/-- The slots among the answers to some requests. -/
def slotsOf (calls : List Call) : List Slot :=
  calls.filterMap Call.slot?

/-- The slots of one frame among the answers to some requests. -/
def slotsIn (frame : Frame) (calls : List Call) : List Slot :=
  (slotsOf calls).filter (·.frame = frame)

theorem functionsOf_append (first second : List Call) :
    functionsOf (first ++ second) = functionsOf first ++ functionsOf second :=
  List.filterMap_append

theorem slotsIn_append (frame : Frame) (first second : List Call) :
    slotsIn frame (first ++ second) = slotsIn frame first ++ slotsIn frame second := by
  rw [slotsIn, slotsOf, List.filterMap_append, List.filter_append]
  rfl

/-!
## Any requests
-/

/-- What an allocator can be asked for. -/
inductive Query where
  | label
  | frame (parent : Frame) (label : Label) (parameters : Nat)
  /-- The frame need not have been handed out. -/
  | slot (frame : Frame)
  deriving DecidableEq, Repr

/-- What was asked for. -/
def Call.query : Call → Query
  | .label _ => .label
  | .frame parent entryPoint parameters _ => .frame parent entryPoint parameters
  | .slot handed => .slot handed.frame

/-- Answer one request. -/
def answer (storage : Storage) : Query → Call × Storage
  | .label => (.label storage.takeLabel.1, storage.takeLabel.2)
  | .frame parent label parameters =>
    (.frame parent label parameters storage.takeFrame.1, storage.takeFrame.2)
  | .slot frame => (.slot (storage.takeSlot frame).1, (storage.takeSlot frame).2)

/-- Answer many requests, the first one first. -/
def answerAll (storage : Storage) : List Query → List Call × Storage
  | [] => ([], storage)
  | query :: rest =>
    let (call, next) := storage.answer query
    let (calls, last) := next.answerAll rest
    (call :: calls, last)

/-- The next slots of a frame. -/
def nextSlots (storage : Storage) (frame : Frame) (count : Nat) : List Slot :=
  (List.range' (storage.slots frame) count).map (⟨frame, ·⟩)

theorem answerAll_cons (storage : Storage) (query : Query) (rest : List Query) :
    storage.answerAll (query :: rest) =
      ((storage.answer query).1 :: ((storage.answer query).2.answerAll rest).1,
        ((storage.answer query).2.answerAll rest).2) :=
  rfl

@[simp] theorem query_answer (storage : Storage) (query : Query) :
    (storage.answer query).1.query = query := by
  cases query <;> rfl

/-- Every request is answered, in its turn. -/
theorem map_query_answerAll (storage : Storage) (queries : List Query) :
    (storage.answerAll queries).1.map Call.query = queries := by
  induction queries generalizing storage with
  | nil => rfl
  | cons query rest inductionHypothesis =>
    rw [answerAll_cons, List.map_cons, query_answer, inductionHypothesis]

@[simp] theorem length_nextSlots (storage : Storage) (frame : Frame) (count : Nat) :
    (storage.nextSlots frame count).length = count := by
  rw [nextSlots, List.length_map, List.length_range']

theorem nodup_nextSlots (storage : Storage) (frame : Frame) (count : Nat) :
    (storage.nextSlots frame count).Nodup := by
  refine (List.nodup_range' : (List.range' (storage.slots frame) count).Nodup).map ?_
  intro first second same
  exact congrArg Slot.index same

/-- A new frame has no slots. -/
@[simp] theorem slots_takeFrame (storage : Storage) (frame : Frame) :
    storage.takeFrame.2.slots frame = storage.slots frame := by
  simp only [takeFrame, slots, Array.getElem?_push]
  split
  · rename_i last
    simp [last]
  · rfl

/-- Handles of one sort are numbered.  A request for one is answered with the next
number, and no other request uses up a number. -/
structure Numbers {Handle : Type} (asked : Query) (handed? : Call → Option Handle)
    (handle : Nat → Handle) (taken : Storage → Nat) : Prop where
  answer : ∀ (storage : Storage) (query : Query), handed? (storage.answer query).1 =
    if query = asked then some (handle (taken storage)) else none
  next : ∀ (storage : Storage) (query : Query), taken (storage.answer query).2 =
    taken storage + if query = asked then 1 else 0

namespace Numbers

variable {Handle : Type} {asked : Query} {handed? : Call → Option Handle}
  {handle : Nat → Handle} {taken : Storage → Nat}

/-- As many numbers are taken as are asked for. -/
theorem taken_answerAll (numbers : Numbers asked handed? handle taken) (storage : Storage)
    (queries : List Query) :
    taken (storage.answerAll queries).2 = taken storage + queries.count asked := by
  induction queries generalizing storage with
  | nil => rfl
  | cons query rest inductionHypothesis =>
    rw [answerAll_cons, inductionHypothesis, numbers.next, List.count_cons, Nat.add_assoc,
      Nat.add_comm (ite _ _ _)]
    simp only [beq_iff_eq]

/-- They are handed out in their order, whatever else is asked for in between. -/
theorem handed_answerAll (numbers : Numbers asked handed? handle taken) (storage : Storage)
    (queries : List Query) :
    (storage.answerAll queries).1.filterMap handed? =
      (List.range' (taken storage) (queries.count asked)).map handle := by
  induction queries generalizing storage with
  | nil => rfl
  | cons query rest inductionHypothesis =>
    have later := inductionHypothesis (storage.answer query).2
    have first := numbers.answer storage query
    rw [numbers.next] at later
    rw [answerAll_cons]
    by_cases own : query = asked
    · rw [if_pos own] at first later
      rw [List.filterMap_cons_some first, later, own, List.count_cons_self, List.range'_succ,
        List.map_cons]
    · rw [if_neg own] at first later
      rw [List.filterMap_cons_none first, later, List.count_cons_of_ne own]
      rfl

end Numbers

/-- The slots of a frame are numbered. -/
theorem numbers_slots (frame : Frame) :
    Numbers (.slot frame) (fun call => call.slot?.filter (·.frame = frame)) (⟨frame, ·⟩)
      (·.slots frame) where
  answer := by
    intro storage query
    cases query with
    | label | frame => rfl
    | slot other =>
      by_cases own : other = frame
      · subst own
        simp [answer, takeSlot, Call.slot?]
      · simp [answer, takeSlot, Call.slot?, own]
  next := by
    intro storage query
    cases query with
    | label => rfl
    | frame parent label parameters => exact slots_takeFrame storage frame
    | slot other =>
      rw [answer, slots_takeSlot]
      by_cases own : frame = other
      · rw [if_pos own, if_pos (congrArg Query.slot own.symm), own]
      · rw [if_neg own, if_neg fun same => own (Query.slot.inj same).symm, Nat.add_zero]

theorem slotsIn_answerAll (storage : Storage) (queries : List Query) (frame : Frame) :
    slotsIn frame (storage.answerAll queries).1 =
      storage.nextSlots frame (queries.count (.slot frame)) := by
  rw [slotsIn, slotsOf, List.filter_filterMap]
  exact (numbers_slots frame).handed_answerAll storage queries

/-- No slot is handed out twice. -/
theorem nodup_slotsOf_answerAll (storage : Storage) (queries : List Query) :
    (slotsOf (storage.answerAll queries).1).Nodup := by
  rw [List.nodup_iff_count_le_one]
  intro slot
  -- A slot is handed out as often as among the slots of its own frame.
  have alone : (slotsIn slot.frame (storage.answerAll queries).1).Nodup := by
    rw [slotsIn_answerAll]
    exact nodup_nextSlots storage slot.frame _
  have counted : (slotsIn slot.frame (storage.answerAll queries).1).count slot =
      (slotsOf (storage.answerAll queries).1).count slot :=
    List.count_filter (decide_eq_true rfl)
  rw [← counted]
  exact List.nodup_iff_count_le_one.mp alone slot

/-- An allocator knows as many frames as are needed for the frame of a slot. -/
theorem size_takeSlot_eq (storage : Storage) (frame : Frame) :
    (storage.takeSlot frame).2.taken.size = max storage.taken.size (frame.number + 1) := by
  simp only [takeSlot, Array.size_modify, Array.size_append, Array.size_replicate]
  omega

/-!
## Requests for functions
-/

/-- The next labels and frames, for some functions. -/
def nextFunctions (storage : Storage) (count : Nat) : List (Label × Frame) :=
  (List.range count).map fun index =>
    (⟨storage.labels + index⟩, ⟨storage.taken.size + index⟩)

/-- The allocator from which a function has got its label and its frame. -/
def takeFunction (storage : Storage) : Storage :=
  storage.takeLabel.2.takeFrame.2

@[simp] theorem labels_takeFunction (storage : Storage) :
    storage.takeFunction.labels = storage.labels + 1 :=
  rfl

@[simp] theorem size_takeFunction (storage : Storage) :
    storage.takeFunction.taken.size = storage.taken.size + 1 :=
  Array.size_push _

/-- No frame is added for a slot in a frame that is there. -/
theorem size_takeSlot {storage : Storage} {frame : Frame}
    (handed : frame.number < storage.taken.size) :
    (storage.takeSlot frame).2.taken.size = storage.taken.size := by
  rw [size_takeSlot_eq]
  exact Nat.max_eq_left handed

theorem nextFunctions_succ (storage : Storage) (count : Nat) :
    storage.nextFunctions (count + 1) =
      (⟨storage.labels⟩, ⟨storage.taken.size⟩) :: storage.takeFunction.nextFunctions count := by
  simp [nextFunctions, List.range_succ_eq_map, Function.comp_def, Nat.add_comm,
    Nat.add_left_comm]

theorem nextFunctions_takeSlot {storage : Storage} {frame : Frame}
    (handed : frame.number < storage.taken.size) (count : Nat) :
    (storage.takeSlot frame).2.nextFunctions count = storage.nextFunctions count := by
  unfold nextFunctions
  rw [size_takeSlot handed]
  rfl

/-- Requests for functions and for slots in frames that are there, with the answers
of an allocator and what it becomes. -/
inductive Serves : Storage → List Call → Storage → Prop
  | nothing (storage : Storage) : Serves storage [] storage
  | function {storage last : Storage} {calls : List Call} (parent : Frame) (parameters : Nat)
    (rest : Serves storage.takeFunction calls last) :
    Serves storage
      (.label ⟨storage.labels⟩ ::
        .frame parent ⟨storage.labels⟩ parameters ⟨storage.taken.size⟩ :: calls) last
  | slot {storage last : Storage} {calls : List Call} {frame : Frame}
    (handed : frame.number < storage.taken.size)
    (rest : Serves (storage.takeSlot frame).2 calls last) :
    Serves storage (.slot ⟨frame, storage.slots frame⟩ :: calls) last

namespace Serves

variable {storage middle last : Storage} {calls further : List Call}

theorem append (first : storage.Serves calls middle) (second : middle.Serves further last) :
    storage.Serves (calls ++ further) last := by
  induction first with
  | nothing => exact second
  | function parent parameters _ inductionHypothesis =>
    exact .function parent parameters (inductionHypothesis second)
  | slot handed _ inductionHypothesis => exact .slot handed (inductionHypothesis second)

/-- As many frames are added as there are functions. -/
theorem size_eq (serves : storage.Serves calls last) :
    last.taken.size = storage.taken.size + (functionsOf calls).length := by
  induction serves with
  | nothing => rfl
  | @function storage last calls parent parameters _ inductionHypothesis =>
    rw [inductionHypothesis, size_takeFunction, Nat.add_right_comm]
    rfl
  | slot handed _ inductionHypothesis =>
    rw [inductionHypothesis, size_takeSlot handed]
    rfl

/-- The functions get the next labels and frames in their order. -/
theorem functionsOf_eq (serves : storage.Serves calls last) :
    functionsOf calls = storage.nextFunctions (functionsOf calls).length := by
  induction serves with
  | nothing => rfl
  | @function storage last calls parent parameters _ inductionHypothesis =>
    change _ :: functionsOf calls = storage.nextFunctions ((functionsOf calls).length + 1)
    rw [nextFunctions_succ, ← inductionHypothesis]
  | @slot storage last calls frame handed _ inductionHypothesis =>
    rw [nextFunctions_takeSlot handed] at inductionHypothesis
    exact inductionHypothesis

/-- These are some of the requests that can be made. -/
theorem answerAll_eq (serves : storage.Serves calls last) :
    storage.answerAll (calls.map Call.query) = (calls, last) := by
  induction serves with
  | nothing => rfl
  | @function storage last calls parent parameters _ inductionHypothesis =>
    rw [List.map_cons, List.map_cons, answerAll_cons, answerAll_cons]
    exact congrArg (fun answers : List Call × Storage =>
      (.label ⟨storage.labels⟩ ::
        .frame parent ⟨storage.labels⟩ parameters ⟨storage.taken.size⟩ :: answers.1, answers.2))
      inductionHypothesis
  | @slot storage last calls frame handed _ inductionHypothesis =>
    rw [List.map_cons, answerAll_cons]
    exact congrArg (fun answers : List Call × Storage =>
      (.slot ⟨frame, storage.slots frame⟩ :: answers.1, answers.2)) inductionHypothesis

/-- The slots of a frame are handed out in their order. -/
theorem slotsIn_eq (serves : storage.Serves calls last) (frame : Frame) :
    slotsIn frame calls = storage.nextSlots frame (slotsIn frame calls).length := by
  have handed := storage.slotsIn_answerAll (calls.map Call.query) frame
  rw [serves.answerAll_eq] at handed
  rw [handed, length_nextSlots]

/-- In a frame from which no slot is asked for, no slot is taken. -/
theorem slots_eq (serves : storage.Serves calls last) {frame : Frame}
    (untouched : ∀ slot ∈ slotsOf calls, slot.frame ≠ frame) :
    last.slots frame = storage.slots frame := by
  have handed := storage.slotsIn_answerAll (calls.map Call.query) frame
  have taken := (numbers_slots frame).taken_answerAll storage (calls.map Call.query)
  rw [serves.answerAll_eq] at handed taken
  have none : slotsIn frame calls = [] :=
    List.filter_eq_nil_iff.mpr fun slot member own => untouched slot member (of_decide_eq_true own)
  rwa [← storage.length_nextSlots frame (List.count _ _), ← handed, none] at taken

/-- No frame is given to two functions. -/
theorem nodup_frames (serves : storage.Serves calls last) :
    ((functionsOf calls).map (·.2)).Nodup := by
  rw [serves.functionsOf_eq, nextFunctions, List.map_map]
  refine List.nodup_range.map fun first second same => ?_
  exact Nat.add_left_cancel (congrArg Frame.number same)

/-- No function gets a label or a frame that was there before, and its frame is
there afterwards. -/
theorem new_of_mem (serves : storage.Serves calls last) {label : Label} {frame : Frame}
    (member : (label, frame) ∈ functionsOf calls) :
    storage.labels ≤ label.number ∧ storage.taken.size ≤ frame.number ∧
      frame.number < last.taken.size := by
  have size := serves.size_eq
  rw [serves.functionsOf_eq] at member
  rcases List.mem_map.mp member with ⟨index, inside, same⟩
  cases same
  have bound := List.mem_range.mp inside
  exact ⟨Nat.le_add_right _ _, Nat.le_add_right _ _, by simp only; omega⟩

end Serves
end Storage
end StaticSemantics
