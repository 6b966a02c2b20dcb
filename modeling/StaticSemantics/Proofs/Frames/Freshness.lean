import Mathlib.Order.Bounds.Defs
import StaticSemantics.Proofs.Frames.Allocation

namespace StaticSemantics
namespace Storage

/-!
# Fresh handles under any use

An allocator need not be used with care.  It may be asked for a slot in a frame that
was never handed out, and then later frames have to keep out of its way.  They do,
because a new frame has the least number, other than that of the first frame, that is
beyond all frames so far, those included from which a slot was asked for.  Numbers in
between are passed over.  So the first slot of a new frame is always its slot 0.

The numbers here have no end.  Where they are kept in words of some size, nothing goes
round as long as there are fewer requests than words, and the frames from which slots
are asked for leave room for the frames that are handed out.
-/

/-- The label that is handed out, if this is the request for one. -/
def Call.label? : Call → Option Label
  | .label handed => some handed
  | _ => none

/-- The frame that is handed out, or in which a slot is. -/
def Call.touched? : Call → Option Frame
  | .label _ => none
  | .frame _ _ _ handed => some handed
  | .slot handed => some handed.frame

/-- The labels among the answers to some requests. -/
def labelsOf (calls : List Call) : List Label :=
  calls.filterMap Call.label?

/-- The frames that are handed out or asked for. -/
def touchedBy (calls : List Call) : List Frame :=
  calls.filterMap Call.touched?

/-- Whether this is a request for a frame. -/
def Query.isFrame : Query → Bool
  | .frame .. => true
  | _ => false

/-- Every number that is handed out or kept is less than a bound. -/
structure Within (bound : Nat) (calls : List Call) (last : Storage) : Prop where
  labels : ∀ label ∈ labelsOf calls, label.number < bound
  frames : ∀ frame ∈ touchedBy calls, frame.number < bound
  slots : ∀ slot ∈ slotsOf calls, slot.index < bound
  labelCount : last.labels < bound
  slotCounts : ∀ frame, last.slots frame < bound

/-!
## Labels
-/

/-- Labels are numbered, like the slots of a frame. -/
theorem numbers_labels : Numbers .label Call.label? Label.mk Storage.labels where
  answer := by
    intro storage query
    cases query with
    | label | frame | slot => rfl
  next := by
    intro storage query
    cases query with
    | label | frame | slot => rfl

/-!
## Frames
-/

/-- The frames that an allocator knows are those that it knew, and all up to the one that
is touched. -/
theorem size_answer_le_iff (storage : Storage) (query : Query) (bound : Nat) :
    (storage.answer query).2.taken.size ≤ bound ↔
      storage.taken.size ≤ bound ∧
        ∀ frame ∈ touchedBy [(storage.answer query).1], frame.number < bound := by
  cases query with
  | label =>
    have untouched : touchedBy [(storage.answer .label).1] = [] := rfl
    rw [untouched, answer, takeLabel]
    simp
  | frame parent label parameters =>
    have touched : touchedBy [(storage.answer (.frame parent label parameters)).1] =
        [⟨storage.taken.size⟩] := rfl
    rw [touched, List.forall_mem_singleton, answer, takeFrame, Array.size_push]
    exact ⟨fun more => ⟨Nat.le_of_succ_le more, more⟩, And.right⟩
  | slot frame =>
    have touched : touchedBy [(storage.answer (.slot frame)).1] = [frame] := rfl
    rw [touched, List.forall_mem_singleton, answer, size_takeSlot_eq, Nat.max_le]
    exact Iff.rfl

theorem size_answerAll_le_iff (storage : Storage) (queries : List Query) (bound : Nat) :
    (storage.answerAll queries).2.taken.size ≤ bound ↔
      storage.taken.size ≤ bound ∧
        ∀ frame ∈ touchedBy (storage.answerAll queries).1, frame.number < bound := by
  induction queries generalizing storage with
  | nil => simp [answerAll, touchedBy]
  | cons query rest inductionHypothesis =>
    have touched : touchedBy (storage.answerAll (query :: rest)).1 =
        touchedBy [(storage.answer query).1] ++
          touchedBy ((storage.answer query).2.answerAll rest).1 := by
      rw [touchedBy, answerAll_cons, ← List.singleton_append, List.filterMap_append]
      rfl
    rw [touched, List.forall_mem_append, ← and_assoc, ← size_answer_le_iff]
    exact inductionHypothesis (storage.answer query).2

/-- Every request for a frame adds one frame, and a slot may bring in all frames up to its
own. -/
theorem size_answerAll_le {storage : Storage} {queries : List Query} {bound : Nat}
    (known : storage.taken.size ≤ bound)
    (asked : ∀ frame, .slot frame ∈ queries → frame.number < bound) :
    (storage.answerAll queries).2.taken.size ≤ bound + queries.countP Query.isFrame := by
  -- The bound grows with every frame that is handed out.
  induction queries generalizing storage bound with
  | nil => exact known
  | cons query rest inductionHypothesis =>
    rw [answerAll_cons]
    have others : ∀ frame, .slot frame ∈ rest → frame.number < bound :=
      fun frame member => asked frame (List.mem_cons_of_mem _ member)
    cases query with
    | label =>
      have size : storage.takeLabel.2.taken.size ≤ bound := known
      exact inductionHypothesis size others
    | frame parent label parameters =>
      have size : storage.takeFrame.2.taken.size ≤ bound + 1 := by
        rw [takeFrame, Array.size_push]
        exact Nat.succ_le_succ known
      rw [List.countP_cons_of_pos rfl, Nat.add_comm _ 1, ← Nat.add_assoc]
      exact inductionHypothesis size fun frame member => Nat.lt_succ_of_lt (others frame member)
    | slot frame =>
      have size : (storage.takeSlot frame).2.taken.size ≤ bound := by
        rw [size_takeSlot_eq]
        exact Nat.max_le.mpr ⟨known, asked frame List.mem_cons_self⟩
      exact inductionHypothesis size others

/-- A request in the middle is answered by an allocator that has answered those before
it. -/
theorem answerAll_split {storage : Storage} {queries : List Query} {before after : List Call}
    {call : Call} (split : (storage.answerAll queries).1 = before ++ call :: after) :
    ∃ asked middle, storage.answerAll asked = (before, middle) ∧
      (middle.answer call.query).1 = call := by
  induction before generalizing storage queries with
  | nil =>
    cases queries with
    | nil => cases split
    | cons query rest =>
      rw [answerAll_cons, List.nil_append] at split
      have first := (List.cons.inj split).1
      refine ⟨[], storage, rfl, ?_⟩
      rw [← first, query_answer]
  | cons first before inductionHypothesis =>
    cases queries with
    | nil => cases split
    | cons query rest =>
      rw [answerAll_cons, List.cons_append] at split
      rcases inductionHypothesis (List.cons.inj split).2 with ⟨asked, middle, answers, last⟩
      refine ⟨query :: asked, middle, ?_, last⟩
      rw [answerAll_cons, answers, (List.cons.inj split).1]

/-- A frame is handed out under the least number, other than that of the first frame, that
is beyond all frames so far. -/
theorem isLeast_of_split {outermost : Frame} {queries : List Query} {before after : List Call}
    {parent handed : Frame} {label : Label} {parameters : Nat}
    (split : ((new outermost).answerAll queries).1 =
      before ++ .frame parent label parameters handed :: after) :
    IsLeast {number | 0 < number ∧ ∀ frame ∈ touchedBy before, frame.number < number}
      handed.number := by
  rcases answerAll_split split with ⟨asked, middle, answers, last⟩
  cases last
  have size := (new outermost).size_answerAll_le_iff asked
  rw [answers] at size
  constructor
  · exact (size middle.taken.size).mp (Nat.le_refl _)
  · intro number beyond
    exact (size number).mpr beyond

/-- All slots of a frame are handed out after the frame. -/
theorem slotsIn_of_split {outermost : Frame} {queries : List Query} {before after : List Call}
    {parent handed : Frame} {label : Label} {parameters : Nat}
    (split : ((new outermost).answerAll queries).1 =
      before ++ .frame parent label parameters handed :: after) :
    slotsIn handed after = slotsIn handed ((new outermost).answerAll queries).1 := by
  -- With a slot of this frame among the earlier ones, its number would not be beyond them.
  have beyond := (isLeast_of_split split).1.2
  have none : slotsIn handed before = [] := by
    refine List.filter_eq_nil_iff.mpr fun slot member own => ?_
    rcases List.mem_filterMap.mp member with ⟨call, listed, slotOf⟩
    have touched : slot.frame ∈ touchedBy before := by
      refine List.mem_filterMap.mpr ⟨call, listed, ?_⟩
      cases call <;> cases slotOf
      rfl
    have less := beyond slot.frame touched
    rw [of_decide_eq_true own] at less
    exact Nat.lt_irrefl _ less
  rw [split, slotsIn_append, none, List.nil_append]
  rfl

/-!
## Words
-/

/-- A new allocator has handed out no slots. -/
theorem slots_new (outermost frame : Frame) : (new outermost).slots frame = 0 := by
  rcases frame with ⟨number⟩
  cases number <;> rfl

/-- No number needs more than a word if there are fewer requests than words, and the frames
that are asked for leave room for those that are handed out. -/
theorem within_of_room (outermost : Frame) {queries : List Query} {words : Nat}
    (few : queries.length < words)
    (room : ∀ frame, .slot frame ∈ queries →
      frame.number + queries.countP Query.isFrame < words) :
    Within words ((new outermost).answerAll queries).1 ((new outermost).answerAll queries).2 where
  labels := by
    intro label member
    rw [labelsOf, numbers_labels.handed_answerAll] at member
    rcases List.mem_map.mp member with ⟨number, inside, rfl⟩
    have below := (List.mem_range'_1.mp inside).2
    rw [new, Nat.zero_add] at below
    exact Nat.lt_trans (Nat.lt_of_lt_of_le below List.count_le_length) few
  frames := by
    have frames : queries.countP Query.isFrame < words :=
      Nat.lt_of_le_of_lt List.countP_le_length few
    have first : (new outermost).taken.size ≤ words - queries.countP Query.isFrame :=
      Nat.sub_pos_of_lt frames
    have size := size_answerAll_le first fun frame member =>
      Nat.lt_sub_of_add_lt (room frame member)
    rw [Nat.sub_add_cancel (Nat.le_of_lt frames)] at size
    exact ((size_answerAll_le_iff _ queries words).mp size).2
  slots := by
    intro slot member
    have own : slot ∈ slotsIn slot.frame ((new outermost).answerAll queries).1 :=
      List.mem_filter.mpr ⟨member, decide_eq_true rfl⟩
    rw [slotsIn_answerAll, nextSlots, slots_new] at own
    rcases List.mem_map.mp own with ⟨index, inside, same⟩
    rw [← same]
    have below := (List.mem_range'_1.mp inside).2
    rw [Nat.zero_add] at below
    exact Nat.lt_trans (Nat.lt_of_lt_of_le below List.count_le_length) few
  labelCount := by
    rw [numbers_labels.taken_answerAll, new, Nat.zero_add]
    exact Nat.lt_of_le_of_lt List.count_le_length few
  slotCounts := by
    intro frame
    rw [(numbers_slots frame).taken_answerAll, slots_new, Nat.zero_add]
    exact Nat.lt_of_le_of_lt List.count_le_length few

/-- Whatever a new allocator is asked for, labels and the slots of every frame are handed
out in their order from 0 on, and no slot twice.  A new frame has the least number that
is beyond the first frame and all frames that were handed out or asked for, so its slots
begin with slot 0 after it.  In words of 32 bits no number goes round, as long as there
is room. -/
theorem handles_fresh_under_any_use (outermost : Frame) (queries : List Query) :
    let calls := ((new outermost).answerAll queries).1
    calls.map Call.query = queries ∧
    labelsOf calls = (List.range (queries.count .label)).map Label.mk ∧
    (∀ frame, slotsIn frame calls =
      (List.range (queries.count (.slot frame))).map (⟨frame, ·⟩)) ∧
    (slotsOf calls).Nodup ∧
    (∀ before parent label parameters handed after,
      calls = before ++ .frame parent label parameters handed :: after →
      IsLeast {number | 0 < number ∧ ∀ frame ∈ touchedBy before, frame.number < number}
        handed.number ∧
      slotsIn handed after = (List.range (queries.count (.slot handed))).map (⟨handed, ·⟩)) ∧
    (queries.length < UInt32.size →
      (∀ frame, .slot frame ∈ queries →
        frame.number + queries.countP Query.isFrame < UInt32.size) →
      Within UInt32.size calls ((new outermost).answerAll queries).2) := by
  intro calls
  have slots : ∀ frame, slotsIn frame calls =
      (List.range (queries.count (.slot frame))).map (⟨frame, ·⟩) := by
    intro frame
    rw [slotsIn_answerAll, nextSlots, slots_new, List.range_eq_range']
  refine ⟨map_query_answerAll _ queries, ?_, slots, nodup_slotsOf_answerAll _ queries, ?_,
    within_of_room outermost⟩
  · rw [labelsOf, numbers_labels.handed_answerAll, List.range_eq_range']
    rfl
  · intro before parent label parameters handed after split
    exact ⟨isLeast_of_split split, (slotsIn_of_split split).trans (slots handed)⟩

/-- A slot is asked for beyond all frames, then a frame, a slot in it, and another
frame. -/
def beyondAllFrames : List Query :=
  [.slot ⟨5⟩, .label, .frame ⟨0⟩ ⟨0⟩ 2, .slot ⟨6⟩, .frame ⟨6⟩ ⟨0⟩ 1]

/-- The frames are 6 and 7. -/
theorem handles_fresh_under_any_use_beyondAllFrames :
    ((new ⟨0⟩).answerAll beyondAllFrames).1 =
      [.slot ⟨⟨5⟩, 0⟩, .label ⟨0⟩] ++ .frame ⟨0⟩ ⟨0⟩ 2 ⟨6⟩ ::
        [.slot ⟨⟨6⟩, 0⟩, .frame ⟨6⟩ ⟨0⟩ 1 ⟨7⟩] ∧
    IsLeast {number | 0 < number ∧
      ∀ frame ∈ touchedBy [.slot ⟨⟨5⟩, 0⟩, .label ⟨0⟩], frame.number < number} 6 ∧
    slotsIn ⟨6⟩ [.slot ⟨⟨6⟩, 0⟩, .frame ⟨6⟩ ⟨0⟩ 1 ⟨7⟩] = [⟨⟨6⟩, 0⟩] ∧
    beyondAllFrames.length < UInt32.size ∧
    (∀ frame, .slot frame ∈ beyondAllFrames →
      frame.number + beyondAllFrames.countP Query.isFrame < UInt32.size) ∧
    Within UInt32.size ((new ⟨0⟩).answerAll beyondAllFrames).1
      ((new ⟨0⟩).answerAll beyondAllFrames).2 := by
  have split : ((new ⟨0⟩).answerAll beyondAllFrames).1 =
      [.slot ⟨⟨5⟩, 0⟩, .label ⟨0⟩] ++ .frame ⟨0⟩ ⟨0⟩ 2 ⟨6⟩ ::
        [.slot ⟨⟨6⟩, 0⟩, .frame ⟨6⟩ ⟨0⟩ 1 ⟨7⟩] := by decide
  have few : beyondAllFrames.length < UInt32.size := by decide
  have room : ∀ frame, .slot frame ∈ beyondAllFrames →
      frame.number + beyondAllFrames.countP Query.isFrame < UInt32.size := by
    intro frame asked
    simp only [beyondAllFrames, List.mem_cons, List.not_mem_nil, Query.slot.injEq, reduceCtorEq,
      or_false, false_or] at asked
    rcases asked with rfl | rfl <;> decide
  rcases handles_fresh_under_any_use ⟨0⟩ beyondAllFrames with ⟨_, _, _, _, frames, within⟩
  have new := frames _ _ _ _ _ _ split
  exact ⟨split, new.1, new.2, few, room, within few room⟩

end Storage
end StaticSemantics
