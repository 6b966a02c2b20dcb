import StaticSemantics.Check.TypeGroup

namespace StaticSemantics

/-!
# Checks that only observe

Most rules compare types and look up names.  They may report something, but
they never end a check and never change the state.  What is said here once
about all of them is what allows the theorems about whole trees to speak of
scopes, declarations and definitions only.

What these rules emit is ordinary.  Types are declared in groups only, broken
chains of aliases are spoken of nowhere but at the end of a group, and a
malformed tree is never reported, because it ends the check.  Nor do these rules
ask for handles.
-/

/-- Anything but the beginning of a group of types, what is said about a broken
chain of aliases, and the report of a malformed tree. -/
def Event.IsOrdinary : Event → Prop
  | typesGrouped _ => False
  | reported _ (.aliasCycle _) => False
  | reported _ (.malformed _) => False
  | aliasBroken _ _ => False
  | _ => True

/-- An ordinary event that makes no request of the allocator. -/
structure Event.IsRemark (event : Event) : Prop where
  ordinary : event.IsOrdinary
  unrequested : event.call? = none

namespace Check

variable {α β : Type}

/-- A computation that ends well and leaves the state as it was. -/
def Observes (check : Check α) : Prop :=
  ∀ state, ∃ value events, check.run state = ⟨.ok value, state, events⟩ ∧
    ∀ event ∈ events, event.IsRemark

namespace Observes

theorem pure (value : α) : Observes (pure value : Check α) :=
  fun _ => ⟨value, [], rfl, by simp⟩

theorem bind {check : Check α} {next : α → Check β} (first : Observes check)
    (second : ∀ value, Observes (next value)) : Observes (check >>= next) := by
  intro state
  rcases first state with ⟨value, events, ran, remarks⟩
  rcases second value state with ⟨last, further, ranOn, remarksOn⟩
  refine ⟨last, events ++ further, ?_, ?_⟩
  · rw [run_bind_of_ok ran, ranOn]
  · intro event member
    rcases List.mem_append.mp member with early | late
    · exact remarks event early
    · exact remarksOn event late

theorem mapM {γ : Type} {check : γ → Check β} (each : ∀ item, Observes (check item))
    (items : List γ) : Observes (items.mapM check) := by
  induction items with
  | nil => exact .pure []
  | cons item rest inductionHypothesis =>
      rw [List.mapM_cons]
      exact (each item).bind fun _ => inductionHypothesis.bind fun _ => .pure _

theorem state : Observes Check.state :=
  fun state => ⟨state, [], rfl, by simp⟩

theorem types : Observes Check.types :=
  fun state => ⟨state.types, [], rfl, by simp⟩

theorem frame : Observes Check.frame :=
  fun state => ⟨state.frame, [], rfl, by simp⟩

theorem emit {event : Event} (remark : event.IsRemark) : Observes (emit event) :=
  fun _ => ⟨(), [event], rfl, by simpa using remark⟩

theorem report (span : Span) {problem : Problem}
    (ordinary : problem.kind ∉ [.typeCycle, .unexpectedNode]) :
    Observes (report span problem) := by
  refine .emit ⟨?_, rfl⟩
  cases problem with
  | aliasCycle name | malformed node => exact ordinary (by simp [Problem.kind])
  | _ => trivial

end Observes

theorem run_state (state : State) : Check.state.run state = ⟨.ok state, state, []⟩ :=
  rfl

theorem run_types (state : State) : Check.types.run state = ⟨.ok state.types, state, []⟩ :=
  rfl

/-!
## The rules
-/

theorem kind_lookupProblem_notMem (error : LookupError) (what : String) :
    (error.problem what).kind ∉ [.typeCycle, .unexpectedNode] := by
  cases error <;> simp [LookupError.problem, Problem.kind]

/-- The comparison of two types, all at once. -/
theorem run_expectCompatible (expected found : TypeId) (span : Span) (name : Option String)
    (state : State) :
    (expectCompatible expected found span name).run state =
      ⟨.ok (), state, if state.types.compatible expected found then [] else
        [.reported span (.typeMismatch (state.types.describeApart expected found).1
          (state.types.describeApart expected found).2 name)]⟩ := by
  change (if state.types.compatible expected found then Pure.pure () else
    report span (.typeMismatch (state.types.describeApart expected found).1
      (state.types.describeApart expected found).2 name) : Check Unit).run state = _
  by_cases agrees : state.types.compatible expected found = true
  · rw [if_pos agrees, if_pos agrees]
    rfl
  · rw [if_neg agrees, if_neg agrees]
    rfl

theorem observes_expectCompatible (expected found : TypeId) (span : Span) (name : Option String) :
    Observes (expectCompatible expected found span name) := by
  apply Observes.bind .types
  intro types
  by_cases agrees : types.compatible expected found = true
  · rw [if_pos agrees]
    exact .pure ()
  · rw [if_neg agrees]
    exact .report span (by simp [Problem.kind])

theorem observes_expectInteger (found : TypeId) (span : Span) (name : Option String) :
    Observes (expectInteger found span name) := by
  apply Observes.bind .types
  intro types
  by_cases integer : types.isInteger found = true
  · rw [if_pos integer]
    exact .pure ()
  · rw [if_neg integer]
    exact observes_expectCompatible .int found span name

theorem observes_reportKind (expected : String) (found : TypeId) (span : Span) :
    Observes (reportKind expected found span) :=
  .bind .types fun _ => .report span (by simp [Problem.kind])

theorem observes_reportSort (expected : String) (declared : TypeId) (span : Span) :
    Observes (reportSort expected declared span) := by
  apply Observes.bind .types
  intro types
  by_cases unknown : types.isError declared = true
  · rw [if_pos unknown]
    exact .pure ()
  · rw [if_neg unknown]
    exact observes_reportKind expected declared span

theorem observes_typeNamed? (name : Ident) : Observes (typeNamed? name) := by
  apply Observes.bind .state
  intro state
  split
  · exact .pure _
  · exact (Observes.report _ (kind_lookupProblem_notMem _ _)).bind fun _ => .pure none

theorem observes_typeNamed (name : Ident) : Observes (typeNamed name) :=
  (observes_typeNamed? name).bind fun _ => .pure _

theorem observes_variableNamed (name : Ident) : Observes (variableNamed name) := by
  apply Observes.bind .state
  intro state
  split
  · exact .pure _
  · exact (Observes.report _ (kind_lookupProblem_notMem _ _)).bind fun _ => .pure _

theorem observes_functionNamed? (name : Ident) : Observes (functionNamed? name) := by
  apply Observes.bind .state
  intro state
  split
  · exact .pure _
  · exact (Observes.report _ (kind_lookupProblem_notMem _ _)).bind fun _ => .pure none

theorem observes_selectField (base : TypeId) (baseSpan : Span) (field : Ident) :
    Observes (selectField base baseSpan field) := by
  apply Observes.bind .types
  intro types
  by_cases unknown : types.isError base = true
  · rw [if_pos unknown]
    exact .pure _
  · rw [if_neg unknown]
    split
    · exact (observes_reportKind _ _ _).bind fun _ => .pure _
    · split
      · exact .pure _
      · exact (Observes.report _ (by simp [Problem.kind])).bind fun _ => .pure _

theorem observes_selectElement (base : TypeId) (baseSpan : Span) :
    Observes (selectElement base baseSpan) := by
  apply Observes.bind .types
  intro types
  by_cases unknown : types.isError base = true
  · rw [if_pos unknown]
    exact .pure _
  · rw [if_neg unknown]
    split
    · exact (observes_reportKind _ _ _).bind fun _ => .pure _
    · exact .pure _

theorem observes_expectNext (expected : Expectations) (found : TypeId) (span : Span) :
    Observes (expectNext expected found span) := by
  cases expected with
  | nil => exact .pure ()
  | cons first rest => exact observes_expectCompatible _ _ _ _

theorem observes_expectCall (function : Ident) (arguments : Nat) (span : Span) :
    Observes (expectCall function arguments span) := by
  apply (observes_functionNamed? function).bind
  intro found
  cases found with
  | none => exact .pure _
  | some entry =>
      by_cases fits : entry.parameters.length = arguments
      · simp only [if_pos fits]
        exact .pure _
      · simp only [if_neg fits]
        exact (Observes.report _ (by simp [Problem.kind])).bind fun _ => .pure _

theorem observes_expectRecord (type : Ident) (fields : Nat) (span : Span) :
    Observes (expectRecord type fields span) := by
  apply (observes_typeNamed? type).bind
  intro found
  cases found with
  | none => exact .pure _
  | some declared =>
      apply Observes.bind .types
      intro types
      split
      · exact (observes_reportSort _ _ _).bind fun _ => .pure _
      · rename_i declaredFields _
        by_cases fits : declaredFields.length = fields
        · rw [if_pos fits]
          exact .pure _
        · rw [if_neg fits]
          exact (Observes.report _ (by simp [Problem.kind])).bind fun _ => .pure _

theorem observes_expectArray (type : Ident) (initial : TypeId) (initialSpan : Span) :
    Observes (expectArray type initial initialSpan) := by
  apply (observes_typeNamed? type).bind
  intro found
  cases found with
  | none => exact .pure _
  | some declared =>
      apply Observes.bind .types
      intro types
      split
      · exact (observes_reportSort _ _ _).bind fun _ => .pure _
      · exact (observes_expectCompatible _ _ _ _).bind fun _ => .pure _

theorem observes_joinBranches (positive negative : TypeId) (negativeSpan : Span) :
    Observes (joinBranches positive negative negativeSpan) :=
  (observes_expectCompatible _ _ _ _).bind fun _ => .bind .types fun _ => .pure _

theorem observes_expectOperands (operator : Operator) (left : TypeId) (leftSpan : Span)
    (right : TypeId) (rightSpan : Span) :
    Observes (expectOperands operator left leftSpan right rightSpan) := by
  unfold expectOperands
  by_cases arithmetic : operator.isArithmetic = true
  · rw [if_pos arithmetic]
    exact (observes_expectInteger _ _ _).bind fun _ => observes_expectInteger _ _ _
  · rw [if_neg arithmetic]
    exact observes_expectCompatible _ _ _ _

theorem observes_variableType (name : Ident) (ascribed : Option Ident) (initial : TypeId)
    (initialSpan : Span) : Observes (variableType name ascribed initial initialSpan) := by
  cases ascribed with
  | some ascribed =>
      apply (observes_typeNamed? ascribed).bind
      intro found
      cases found with
      | none => exact .pure _
      | some declared => exact (observes_expectCompatible _ _ _ _).bind fun _ => .pure _
  | none =>
      apply Observes.bind .types
      intro types
      split
      · exact (Observes.report _ (by simp [Problem.kind])).bind fun _ => .pure _
      · split
        · exact (Observes.report _ (by simp [Problem.kind])).bind fun _ => .pure _
        · exact .pure _

theorem observes_interpretType (body : TypeExpression) (name : String) :
    Observes (interpretType body name) := by
  cases body with
  | name target span =>
      apply (observes_typeNamed? target).bind
      intro found
      cases found with
      | none => exact .pure _
      | some id => exact .pure _
  | record fields span =>
      refine .bind (.mapM (fun field => ?_) fields) fun _ => .pure _
      exact (observes_typeNamed _).bind fun _ => .pure _
  | array element span => exact (observes_typeNamed element).bind fun _ => .pure _

end Check
end StaticSemantics
