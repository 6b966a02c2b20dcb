import StaticSemantics.Proofs.Comparison.Trees
import StaticSemantics.Proofs.WellFormed

namespace StaticSemantics

/-!
# The error type only suppresses reports

A value of the error type agrees with everything, so that one mistake is
reported once.  Here it is proved that this is all it does.  If some types of
variables, parameters and results are replaced by the error type, a check ends
as it did, builds the same types and answers with the same type or with the
error type.  It reports nothing that it did not report before, and nothing in
another place or in other words.
-/

/-- The type of a value, or the error type in its place. -/
def TypeId.Forgets (id other : TypeId) : Prop :=
  other = id ∨ other = .error

/-- An entry of which some types may have been forgotten.  Names of types and
all handles are kept. -/
inductive Entry.Forgets : Entry → Entry → Prop
  | type (id : TypeId) : Forgets (.type id) (.type id)
  | variable {type other : TypeId} (slot : Slot) (value : type.Forgets other) :
    Forgets (.variable ⟨type, slot⟩) (.variable ⟨other, slot⟩)
  | function {parameters others : List TypeId} {result other : TypeId} (frame : Frame)
    (label : Label) (arguments : parameters.Forall₂ TypeId.Forgets others)
    (value : result.Forgets other) :
    Forgets (.function ⟨parameters, result, frame, label⟩)
      (.function ⟨others, other, frame, label⟩)

/-- A state in which less is known of the values in scope, and nothing else is
different. -/
structure State.Forgets (state other : State) : Prop where
  types_eq : other.types = state.types
  typeNames_eq : other.typeNames = state.typeNames
  marks_eq : other.valueNames.marks = state.valueNames.marks
  bindings : state.valueNames.bindings.Forall₂
    (fun binding other => other.name = binding.name ∧ binding.entry.Forgets other.entry)
    other.valueNames.bindings
  frame_eq : other.frame = state.frame
  storage_eq : other.storage = state.storage

/-- Forget the types of all values. -/
def Entry.forget : Entry → Entry
  | type id => .type id
  | .variable entry => .variable { entry with type := .error }
  | function entry =>
    .function { entry with parameters := entry.parameters.map fun _ => .error, result := .error }

/-- Forget the types of all values in scope. -/
def State.forget (state : State) : State :=
  { state with valueNames := { state.valueNames with
      bindings := state.valueNames.bindings.map fun binding =>
        { binding with entry := binding.entry.forget } } }

theorem Entry.forgets_forget (entry : Entry) : entry.Forgets entry.forget := by
  cases entry with
  | type id => exact .type id
  | «variable» entry => exact .variable entry.slot (.inr rfl)
  | function entry =>
      refine .function entry.frame entry.label ?_ (.inr rfl)
      rw [List.forall₂_map_right_iff]
      exact List.forall₂_same.mpr fun _ _ => .inr rfl

theorem State.forgets_forget (state : State) : state.Forgets state.forget where
  types_eq := rfl
  typeNames_eq := rfl
  marks_eq := rfl
  bindings := by
    rw [State.forget, List.forall₂_map_right_iff]
    exact List.forall₂_same.mpr fun binding _ => ⟨rfl, binding.entry.forgets_forget⟩
  frame_eq := rfl
  storage_eq := rfl

/-- How a state is compared with one in which less is known. -/
def State.WellFormed.forgetting {state : State} (wellFormed : state.WellFormed) : Comparison :=
  ⟨wellFormed.types.room 0, True, fun _ => wellFormed.types.five_le_size⟩

namespace State.Forgets

variable {state other : State}

/-- Types that have not been forgotten are the same. -/
theorem value (wellFormed : state.WellFormed) {id forgotten : TypeId}
    (forgets : id.Forgets forgotten) : wellFormed.forgetting.Value id forgotten := by
  rcases forgets with rfl | rfl
  · exact .inl (Shift.apply_eq_self rfl _).symm
  · exact .inr ⟨trivial, rfl⟩

theorem entries (wellFormed : state.WellFormed) {entry forgotten : Entry}
    (forgets : entry.Forgets forgotten) : wellFormed.forgetting.Entries entry forgotten := by
  cases forgets with
  | type id => exact (Shift.apply_eq_self rfl id).symm
  | «variable» slot forgets => exact value wellFormed forgets
  | function frame label arguments result =>
      exact ⟨arguments.imp fun _ _ => value wellFormed, value wellFormed result⟩

theorem linked (wellFormed : state.WellFormed) (forgets : state.Forgets other) :
    wellFormed.forgetting.Linked state other where
  types := by
    have shifted := wellFormed.types.shifted_extend []
    rw [Types.extend_nil] at shifted
    rw [forgets.types_eq]
    exact shifted
  typeNames := by
    rw [forgets.typeNames_eq]
    exact .refl fun binding _ id _ => Shift.apply_eq_self rfl id
  valueNames :=
    ⟨forgets.bindings.imp fun _ _ related => ⟨related.1, entries wellFormed related.2⟩,
      forgets.marks_eq⟩

end State.Forgets

/-- In every history, if some types of values in scope are forgotten, a check of
an expression ends as it did, with the same table of types and with the same
type or the error type, and what it reports is a part of what it reported, in
the same order. -/
theorem History.forgetting_only_suppresses (outermost : Frame) (requests : List Request)
    (forgetful : State) (forgets : (ofRequests outermost requests).state.Forgets forgetful)
    (expression : Expression) :
    let run := (Check.inferExpression expression).run (ofRequests outermost requests).state
    let forgetfulRun := (Check.inferExpression expression).run forgetful
    SameOutcome TypeId.Forgets run.outcome forgetfulRun.outcome ∧
    forgetfulRun.state.types = run.state.types ∧
    (diagnosticsOf forgetfulRun.events).Sublist (diagnosticsOf run.events) := by
  intro run forgetfulRun
  have wellFormed := (Discipline.wellFormed_ofRequests outermost requests).wellFormed
  have runs := Comparison.parallel_inferExpression expression _ forgetful
    (forgets.linked wellFormed)
  -- No number has been moved, so tables that correspond are equal.
  refine ⟨runs.outcomes.imp ?_, runs.linked.types.eq rfl, runs.reports.sublist⟩
  rintro id other (rfl | ⟨_, rfl⟩)
  · exact .inl (Shift.apply_eq_self rfl id)
  · exact .inr rfl

/-- A variable that holds a text is added to a number. -/
def Expression.textAndNumber : Expression :=
  let here : Span := ⟨1, 1, 1, 1⟩
  .binary .plus (.place (.name ⟨"x", here⟩ here) here) (.string "y" here) here

def Request.textVariable : Request :=
  let here : Span := ⟨1, 1, 1, 1⟩
  .declaration (.variable ⟨"x", here⟩ none (.string "x" here) here)

/-- Of two reports one is left when the type of the variable is forgotten. -/
theorem History.forgetting_only_suppresses_textVariable :
    (ofRequests outermostFrame [Request.textVariable]).state.Forgets
      (ofRequests outermostFrame [Request.textVariable]).state.forget ∧
    (diagnosticsOf ((Check.inferExpression Expression.textAndNumber).run
      (ofRequests outermostFrame [Request.textVariable]).state).events).length = 2 ∧
    (diagnosticsOf ((Check.inferExpression Expression.textAndNumber).run
      (ofRequests outermostFrame [Request.textVariable]).state.forget).events).length = 1 ∧
    (diagnosticsOf ((Check.inferExpression Expression.textAndNumber).run
        (ofRequests outermostFrame [Request.textVariable]).state.forget).events).Sublist
      (diagnosticsOf ((Check.inferExpression Expression.textAndNumber).run
        (ofRequests outermostFrame [Request.textVariable]).state).events) := by
  have forgets := (ofRequests outermostFrame [Request.textVariable]).state.forgets_forget
  have suppresses := forgetting_only_suppresses outermostFrame [Request.textVariable] _ forgets
    Expression.textAndNumber
  exact ⟨forgets, by decide, by decide, suppresses.2.2⟩

end StaticSemantics
