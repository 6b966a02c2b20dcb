import StaticSemantics.Proofs.ErrorTypes
import StaticSemantics.Proofs.Scopes
import StaticSemantics.Proofs.Typing.Agreement

namespace StaticSemantics

/-!
# Acceptance

A check accepts a tree if it ends well and reports nothing.  What has to hold
for that is found by taking the check apart: a check is accepted exactly if all
its steps are, one after another, and for every rule there are conditions on
the types and names at hand.

Some of these conditions still mention the error type.  That it does not come
up is no matter of the single rules.
-/

/-- What an entry means, as far as values and their types go. -/
def Entry.meaning? : Entry → Option Meaning
  | type _ => none
  | .variable entry => some (.variable entry.type)
  | function entry => some (.function ⟨entry.parameters, entry.result⟩)

/-- What names stand for in a state. -/
def State.scope (state : State) : Scope where
  types name := state.typeNames.typeOf? name
  values name := (state.valueNames.newest? name).bind Entry.meaning?

namespace State

theorem scope_eq {state other : State} (typeNames : other.typeNames = state.typeNames)
    (valueNames : other.valueNames = state.valueNames) : other.scope = state.scope := by
  rw [scope, scope, typeNames, valueNames]

theorem typeOf?_bind (env : Environment) (name sought : String) (id : TypeId) :
    (env.bind name (.type id)).typeOf? sought =
      if name = sought then some id else env.typeOf? sought := by
  by_cases same : name = sought
  · simp [Environment.typeOf?, Environment.lookUpType, Environment.newest?_bind, same]
    rfl
  · simp [Environment.typeOf?, Environment.lookUpType, Environment.newest?_bind, same]

/-- A name stands for a variable if its newest binding is one. -/
theorem scope_variable_iff {state : State} {name : String} {type : TypeId} :
    state.scope.values name = some (.variable type) ↔
      ∃ entry, state.valueNames.lookUpVariable name = .ok entry ∧ entry.type = type := by
  simp only [Environment.lookUpVariable_eq_ok_iff, scope]
  cases state.valueNames.newest? name with
  | none => simp
  | some entry => cases entry <;> simp [Entry.meaning?]

theorem scope_function_iff {state : State} {name : String} {signature : Signature} :
    state.scope.values name = some (.function signature) ↔
      ∃ entry, state.valueNames.lookUpFunction name = .ok entry ∧
        signature = ⟨entry.parameters, entry.result⟩ := by
  simp only [Environment.lookUpFunction_eq_ok_iff, scope]
  cases state.valueNames.newest? name with
  | none => simp
  | some entry => cases entry <;> simp [Entry.meaning?, eq_comm]

theorem scope_bindValue (state : State) (name : String) {entry : Entry} {meaning : Meaning}
    (means : entry.meaning? = some meaning) :
    { state with valueNames := state.valueNames.bind name entry }.scope =
      state.scope.bindValue name meaning := by
  simp only [scope, Scope.bindValue, Environment.newest?_bind, Scope.mk.injEq, true_and]
  funext sought
  by_cases same : name = sought
  · simp [same, means]
  · simp [same]

/-- Inside a group its names are bound to the numbers of its members. -/
theorem scope_groupNames (state : State) (first : Nat) (members : List TypeDeclaration) :
    { state with typeNames := state.typeNames.bindAll (groupBindings first members) }.scope =
      state.scope.bindGroup first members := by
  induction members generalizing state first with
  | nil => rfl
  | cons member rest inductionHypothesis =>
      rw [groupBindings_cons, Environment.bindAll_cons, Scope.bindGroup]
      have bound : { state with
            typeNames := state.typeNames.bind member.name.name (.type ⟨first⟩) }.scope =
          state.scope.bindType member.name.name ⟨first⟩ := by
        simp only [scope, Scope.bindType, typeOf?_bind]
      rw [← bound]
      exact inductionHypothesis
        { state with typeNames := state.typeNames.bind member.name.name (.type ⟨first⟩) }
        (first + 1)

end State

namespace Check

variable {α β : Type}

/-- A check ends well with an answer and a state, and reports nothing. -/
def Accepts (check : Check α) (state : State) (answer : α) (reached : State) : Prop :=
  ∃ events, check.run state = ⟨.ok answer, reached, events⟩ ∧ Quiet events

section Steps

variable {state reached : State}

theorem accepts_bind {check : Check α} {next : α → Check β} {answer : β} :
    (check >>= next).Accepts state answer reached ↔
      ∃ value middle, check.Accepts state value middle ∧
        (next value).Accepts middle answer reached := by
  constructor
  · rintro ⟨events, ran, quiet⟩
    rcases first : check.run state with ⟨outcome, middle, early⟩
    cases outcome with
    | error problem =>
        rw [run_bind_of_error first] at ran
        cases ran
    | ok value =>
        rw [run_bind_of_ok first] at ran
        rcases second : (next value).run middle with ⟨outcome, last, late⟩
        rw [second] at ran
        cases ran
        rcases Quiet.append_iff.mp quiet with ⟨quietEarly, quietLate⟩
        exact ⟨value, middle, ⟨early, first, quietEarly⟩, ⟨late, second, quietLate⟩⟩
  · rintro ⟨value, middle, ⟨early, first, quietEarly⟩, ⟨late, second, quietLate⟩⟩
    refine ⟨early ++ late, ?_, Quiet.append_iff.mpr ⟨quietEarly, quietLate⟩⟩
    rw [run_bind_of_ok first, second]

/-- A step that is known to end well is accepted if it reports nothing. -/
theorem accepts_of_run {check : Check α} {value answer : α} {next : State} {events : List Event}
    (ran : check.run state = ⟨.ok value, next, events⟩) :
    check.Accepts state answer reached ↔ (answer = value ∧ reached = next) ∧ Quiet events := by
  constructor
  · rintro ⟨others, again, quiet⟩
    rw [ran] at again
    cases again
    exact ⟨⟨rfl, rfl⟩, quiet⟩
  · rintro ⟨⟨rfl, rfl⟩, quiet⟩
    exact ⟨events, ran, quiet⟩

/-- A step that ends well and never reports anything. -/
theorem accepts_of_quiet {check : Check α} {value answer : α} {next : State} {events : List Event}
    (ran : check.run state = ⟨.ok value, next, events⟩) (quiet : Quiet events) :
    check.Accepts state answer reached ↔ answer = value ∧ reached = next := by
  rw [accepts_of_run ran]
  exact and_iff_left quiet

/-- A check is accepted with one answer and one state only. -/
theorem Accepts.unique {check : Check α} {answer other : α} {last : State}
    (accepted : check.Accepts state answer reached) (again : check.Accepts state other last) :
    answer = other ∧ reached = last := by
  rcases accepted with ⟨events, ran, _⟩
  rcases again with ⟨others, ranAgain, _⟩
  rw [ran] at ranAgain
  cases ranAgain
  exact ⟨rfl, rfl⟩

/-- What leaves the environments as they were does not change the scope. -/
theorem Balanced.scope_eq {check : Check α} {answer : α} (balanced : check.Balanced)
    (accepted : check.Accepts state answer reached) : reached.scope = state.scope := by
  rcases accepted with ⟨events, ran, _⟩
  have ends := balanced state
  unfold Ends at ends
  rw [ran] at ends
  exact State.scope_eq ends.typeNames ends.valueNames

/-- A check is accepted, with an answer and a state as they are wanted. -/
def Passes (check : Check α) (state : State) (wanted : α → State → Prop) : Prop :=
  ∃ answer reached, check.Accepts state answer reached ∧ wanted answer reached

namespace Passes

variable {check : Check α} {next : α → Check β}

/-- After a step of which it is known what it answers, the rest has to pass. -/
theorem step {value : α} {middle : State} {wanted : β → State → Prop}
    (accepted : check.Accepts state value middle)
    (rest : (next value).Passes middle wanted) : (check >>= next).Passes state wanted := by
  rcases rest with ⟨answer, last, acceptedOn, good⟩
  exact ⟨answer, last, accepts_bind.mpr ⟨value, middle, accepted, acceptedOn⟩, good⟩

theorem bind {middle : α → State → Prop} {wanted : β → State → Prop}
    (first : check.Passes state middle)
    (second : ∀ value reached, middle value reached → (next value).Passes reached wanted) :
    (check >>= next).Passes state wanted := by
  rcases first with ⟨value, between, accepted, holds⟩
  exact .step accepted (second value between holds)

theorem pure {value : α} {wanted : α → State → Prop} (holds : wanted value state) :
    (Pure.pure value : Check α).Passes state wanted :=
  ⟨value, state, ⟨[], rfl, rfl⟩, holds⟩

/-- What is wanted holds of every answer and state. -/
theorem holds {wanted : α → State → Prop} {answer : α} (passes : check.Passes state wanted)
    (accepted : check.Accepts state answer reached) : wanted answer reached := by
  rcases passes with ⟨value, last, surely, holds⟩
  rcases accepted.unique surely with ⟨rfl, rfl⟩
  exact holds

/-- A step that ends well and never reports anything. -/
theorem of_run {value : α} {next : State} {events : List Event} {wanted : α → State → Prop}
    (ran : check.run state = ⟨.ok value, next, events⟩) (quiet : Quiet events)
    (holds : wanted value next) : check.Passes state wanted :=
  ⟨value, next, ⟨events, ran, quiet⟩, holds⟩

end Passes

theorem accepts_pure {value answer : α} :
    (pure value : Check α).Accepts state answer reached ↔ answer = value ∧ reached = state :=
  accepts_of_quiet rfl rfl

theorem not_accepts_abort {problem : Problem} {answer : α} :
    ¬ (abort problem : Check α).Accepts state answer reached := by
  rintro ⟨events, ran, _⟩
  cases ran

theorem not_accepts_report {span : Span} {problem : Problem} {answer : Unit} :
    ¬ (report span problem).Accepts state answer reached := by
  rintro ⟨events, ran, quiet⟩
  cases ran
  exact quiet.not_reported span problem (List.mem_singleton_self _)

theorem accepts_state {answer : State} :
    Check.state.Accepts state answer reached ↔ answer = state ∧ reached = state :=
  accepts_of_quiet rfl rfl

theorem accepts_types {answer : Types} :
    types.Accepts state answer reached ↔ answer = state.types ∧ reached = state :=
  accepts_of_quiet rfl rfl

theorem accepts_frame {answer : Frame} :
    frame.Accepts state answer reached ↔ answer = state.frame ∧ reached = state :=
  accepts_of_quiet rfl rfl

theorem accepts_update {change : State → State} {answer : Unit} :
    (update change).Accepts state answer reached ↔ reached = change state := by
  rw [accepts_of_quiet (show (update change).run state = ⟨.ok (), change state, []⟩ from rfl) rfl]
  exact and_iff_right rfl

theorem accepts_emit {event : Event} {answer : Unit} (silent : event.diagnostic? = none) :
    (emit event).Accepts state answer reached ↔ reached = state := by
  have quiet : Quiet [event] := Quiet.iff_forall.mpr (by simpa using silent)
  rw [accepts_of_quiet (show (emit event).run state = ⟨.ok (), state, [event]⟩ from rfl) quiet]
  exact and_iff_right rfl

/-- A check for every item of a list, where all of them leave the state alone. -/
theorem accepts_mapM {γ : Type} {check : γ → Check β} {relation : γ → β → Prop}
    (each : ∀ item answer reached,
      (check item).Accepts state answer reached ↔ relation item answer ∧ reached = state)
    {items : List γ} {answers : List β} :
    (items.mapM check).Accepts state answers reached ↔
      items.Forall₂ relation answers ∧ reached = state := by
  induction items generalizing answers reached with
  | nil => simp [accepts_pure]
  | cons item rest inductionHypothesis =>
      rw [List.mapM_cons, accepts_bind]
      constructor
      · rintro ⟨first, middle, accepted, restAccepted⟩
        rcases (each item first middle).mp accepted with ⟨related, rfl⟩
        rcases accepts_bind.mp restAccepted with ⟨others, last, othersAccepted, done⟩
        rcases inductionHypothesis.mp othersAccepted with ⟨allRelated, rfl⟩
        rcases accepts_pure.mp done with ⟨rfl, rfl⟩
        exact ⟨.cons related allRelated, rfl⟩
      · rintro ⟨related | ⟨first, others⟩, rfl⟩
        refine ⟨_, _, (each item _ _).mpr ⟨first, rfl⟩, accepts_bind.mpr ?_⟩
        exact ⟨_, _, inductionHypothesis.mpr ⟨others, rfl⟩, accepts_pure.mpr ⟨rfl, rfl⟩⟩

end Steps

/-!
## The rules
-/

section Rules

variable {state reached : State}

theorem accepts_seeing_state {next : State → Check α} {answer : α} :
    (Check.state >>= next).Accepts state answer reached ↔
      (next state).Accepts state answer reached := by
  rw [accepts_bind]
  constructor
  · rintro ⟨_, _, seen, accepted⟩
    rcases accepts_state.mp seen with ⟨rfl, rfl⟩
    exact accepted
  · exact fun accepted => ⟨_, _, accepts_state.mpr ⟨rfl, rfl⟩, accepted⟩

theorem accepts_seeing_types {next : Types → Check α} {answer : α} :
    (types >>= next).Accepts state answer reached ↔
      (next state.types).Accepts state answer reached := by
  rw [accepts_bind]
  constructor
  · rintro ⟨_, _, seen, accepted⟩
    rcases accepts_types.mp seen with ⟨rfl, rfl⟩
    exact accepted
  · exact fun accepted => ⟨_, _, accepts_types.mpr ⟨rfl, rfl⟩, accepted⟩

/-- What is not accepted is not accepted either if more follows. -/
theorem not_accepts_bind {check : Check α} {next : α → Check β} {answer : β}
    (never : ∀ value middle, ¬ check.Accepts state value middle) :
    ¬ (check >>= next).Accepts state answer reached := by
  intro accepted
  rcases accepts_bind.mp accepted with ⟨value, middle, first, _⟩
  exact never value middle first

theorem not_accepts_after_report {span : Span} {problem : Problem} {next : Unit → Check α}
    {answer : α} : ¬ (report span problem >>= next).Accepts state answer reached :=
  not_accepts_bind fun _ _ => not_accepts_report

theorem accepts_expectCompatible {expected found : TypeId} {span : Span} {name : Option String}
    {answer : Unit} : (expectCompatible expected found span name).Accepts state answer reached ↔
      state.types.compatible expected found = true ∧ reached = state := by
  unfold expectCompatible
  rw [accepts_seeing_types]
  by_cases agrees : state.types.compatible expected found = true
  · rw [if_pos agrees, accepts_pure]
    simp [agrees]
  · rw [if_neg agrees]
    simp [agrees, not_accepts_report]

theorem accepts_expectInteger (wellFormed : state.types.WellFormed) {found : TypeId} {span : Span}
    {name : Option String} {answer : Unit} :
    (expectInteger found span name).Accepts state answer reached ↔
      state.types.isInteger found = true ∧ reached = state := by
  unfold expectInteger
  rw [accepts_seeing_types]
  by_cases integer : state.types.isInteger found = true
  · rw [if_pos integer, accepts_pure]
    simp [integer]
  · rw [if_neg integer, accepts_expectCompatible]
    have apart : ¬ state.types.compatible .int found = true :=
      fun compatible => integer (wellFormed.isInteger_of_compatible compatible)
    simp [integer, apart]

theorem not_accepts_reportKind {expected : String} {found : TypeId} {span : Span} {answer : Unit} :
    ¬ (reportKind expected found span).Accepts state answer reached := by
  unfold reportKind
  rw [accepts_seeing_types]
  exact not_accepts_report

theorem accepts_typeNamed? {name : Ident} {answer : Option TypeId} :
    (typeNamed? name).Accepts state answer reached ↔
      (∃ id, state.scope.types name.name = some id ∧ answer = some id) ∧ reached = state := by
  rw [accepts_of_run (run_typeNamed? name state), Environment.quiet_typeReports_iff]
  constructor
  · rintro ⟨⟨rfl, rfl⟩, id, found⟩
    exact ⟨⟨id, found, found⟩, rfl⟩
  · rintro ⟨⟨id, found, rfl⟩, rfl⟩
    exact ⟨⟨found.symm, rfl⟩, id, found⟩

theorem accepts_typeNamed {name : Ident} {answer : TypeId} :
    (typeNamed name).Accepts state answer reached ↔
      state.scope.types name.name = some answer ∧ reached = state := by
  rw [accepts_of_run (run_typeNamed name state), Environment.quiet_typeReports_iff]
  constructor
  · rintro ⟨⟨rfl, rfl⟩, id, found⟩
    rw [found]
    exact ⟨found, rfl⟩
  · rintro ⟨found, rfl⟩
    have known : reached.typeNames.typeOf? name.name = some answer := found
    rw [known]
    exact ⟨⟨rfl, rfl⟩, answer, rfl⟩

theorem accepts_variableNamed {name : Ident} {answer : TypeId} :
    (variableNamed name).Accepts state answer reached ↔
      state.scope.values name.name = some (.variable answer) ∧ reached = state := by
  unfold variableNamed
  rw [accepts_seeing_state, State.scope_variable_iff]
  cases found : state.valueNames.lookUpVariable name.name with
  | error error => exact iff_of_false not_accepts_after_report (by simp)
  | ok entry => simp [accepts_pure, eq_comm]

theorem accepts_functionNamed? {name : Ident} {answer : Option FunctionEntry} :
    (functionNamed? name).Accepts state answer reached ↔
      (∃ entry, state.valueNames.lookUpFunction name.name = .ok entry ∧ answer = some entry) ∧
        reached = state := by
  unfold functionNamed?
  rw [accepts_seeing_state]
  cases found : state.valueNames.lookUpFunction name.name with
  | error error => exact iff_of_false not_accepts_after_report (by simp)
  | ok entry => simp [accepts_pure]

theorem accepts_selectField {base : TypeId} {baseSpan : Span} {field : Ident} {answer : TypeId}
    (known : state.types.isError base = false) :
    (selectField base baseSpan field).Accepts state answer reached ↔
      (∃ fields selected, state.types.fieldsOf? base = some fields ∧
        fields.find? (·.name == field.name) = some selected ∧ answer = selected.type) ∧
        reached = state := by
  unfold selectField
  rw [accepts_seeing_types, if_neg (by simp [known])]
  cases found : state.types.fieldsOf? base with
  | none =>
      exact iff_of_false (not_accepts_bind fun _ _ => not_accepts_reportKind) (by simp)
  | some fields =>
      cases first : fields.find? (·.name == field.name) with
      | none =>
          simp only [first]
          exact iff_of_false not_accepts_after_report (by simp [first])
      | some selected => simp [first, accepts_pure]

theorem accepts_selectElement {base : TypeId} {baseSpan : Span} {answer : TypeId}
    (known : state.types.isError base = false) :
    (selectElement base baseSpan).Accepts state answer reached ↔
      state.types.elementOf? base = some answer ∧ reached = state := by
  unfold selectElement
  rw [accepts_seeing_types, if_neg (by simp [known])]
  cases found : state.types.elementOf? base with
  | none =>
      exact iff_of_false (not_accepts_bind fun _ _ => not_accepts_reportKind) (by simp)
  | some element => simp [accepts_pure, eq_comm]

theorem accepts_expectNext {expected : TypeId} {rest : Expectations} {name : String}
    {found : TypeId} {span : Span} {answer : Unit} :
    (expectNext ((expected, name) :: rest) found span).Accepts state answer reached ↔
      state.types.compatible expected found = true ∧ reached = state :=
  accepts_expectCompatible

theorem accepts_expectCall {function : Ident} {arguments : Nat} {span : Span}
    {answer : Expectations × TypeId} :
    (expectCall function arguments span).Accepts state answer reached ↔
      (∃ signature, state.scope.values function.name = some (.function signature) ∧
        signature.parameters.length = arguments ∧
        answer = (signature.parameters.map fun type => (type, function.name), signature.result)) ∧
        reached = state := by
  unfold expectCall
  rw [accepts_bind]
  constructor
  · rintro ⟨found, middle, named, rest⟩
    rcases accepts_functionNamed?.mp named with ⟨⟨entry, bound, rfl⟩, rfl⟩
    by_cases fits : entry.parameters.length = arguments
    · simp only [if_pos fits] at rest
      rcases accepts_pure.mp rest with ⟨rfl, rfl⟩
      exact ⟨⟨_, State.scope_function_iff.mpr ⟨entry, bound, rfl⟩, fits, rfl⟩, rfl⟩
    · simp only [if_neg fits] at rest
      exact absurd rest not_accepts_after_report
  · rintro ⟨⟨signature, known, fits, rfl⟩, rfl⟩
    rcases State.scope_function_iff.mp known with ⟨entry, bound, rfl⟩
    refine ⟨_, _, accepts_functionNamed?.mpr ⟨⟨entry, bound, rfl⟩, rfl⟩, ?_⟩
    simp only [if_pos fits]
    exact accepts_pure.mpr ⟨rfl, rfl⟩

theorem accepts_expectRecord {type : Ident} {fields : Nat} {span : Span}
    {answer : Expectations × TypeId}
    (known : ∀ declared, state.scope.types type.name = some declared →
      state.types.isError declared = false) :
    (expectRecord type fields span).Accepts state answer reached ↔
      (∃ declared declaredFields, state.scope.types type.name = some declared ∧
        state.types.fieldsOf? declared = some declaredFields ∧
        declaredFields.length = fields ∧
        answer = (declaredFields.map fun field => (field.type, field.name),
          state.types.representative declared)) ∧ reached = state := by
  unfold expectRecord
  rw [accepts_bind]
  constructor
  · rintro ⟨found, middle, named, rest⟩
    rcases accepts_typeNamed?.mp named with ⟨⟨declared, bound, rfl⟩, rfl⟩
    simp only [accepts_seeing_types] at rest
    cases record : middle.types.fieldsOf? declared with
    | none =>
        simp only [record, reportSort] at rest
        rcases accepts_bind.mp rest with ⟨_, _, reported, _⟩
        rw [accepts_seeing_types, known declared bound] at reported
        exact absurd reported not_accepts_reportKind
    | some declaredFields =>
        simp only [record] at rest
        by_cases fits : declaredFields.length = fields
        · rw [if_pos fits] at rest
          rcases accepts_pure.mp rest with ⟨rfl, rfl⟩
          exact ⟨⟨declared, declaredFields, bound, record, fits, rfl⟩, rfl⟩
        · rw [if_neg fits] at rest
          exact absurd rest not_accepts_after_report
  · rintro ⟨⟨declared, declaredFields, bound, record, fits, rfl⟩, rfl⟩
    refine ⟨_, _, accepts_typeNamed?.mpr ⟨⟨declared, bound, rfl⟩, rfl⟩, ?_⟩
    simp only [accepts_seeing_types, record, if_pos fits]
    exact accepts_pure.mpr ⟨rfl, rfl⟩

theorem accepts_expectArray {type : Ident} {initial : TypeId} {initialSpan : Span}
    {answer : TypeId}
    (known : ∀ declared, state.scope.types type.name = some declared →
      state.types.isError declared = false) :
    (expectArray type initial initialSpan).Accepts state answer reached ↔
      (∃ declared element, state.scope.types type.name = some declared ∧
        state.types.elementOf? declared = some element ∧
        state.types.compatible element initial = true ∧
        answer = state.types.representative declared) ∧ reached = state := by
  unfold expectArray
  rw [accepts_bind]
  constructor
  · rintro ⟨found, middle, named, rest⟩
    rcases accepts_typeNamed?.mp named with ⟨⟨declared, bound, rfl⟩, rfl⟩
    simp only [accepts_seeing_types] at rest
    cases array : middle.types.elementOf? declared with
    | none =>
        simp only [array, reportSort] at rest
        rcases accepts_bind.mp rest with ⟨_, _, reported, _⟩
        rw [accepts_seeing_types, known declared bound] at reported
        exact absurd reported not_accepts_reportKind
    | some element =>
        simp only [array] at rest
        rcases accepts_bind.mp rest with ⟨_, _, compared, done⟩
        rcases accepts_expectCompatible.mp compared with ⟨compatible, rfl⟩
        rcases accepts_pure.mp done with ⟨rfl, rfl⟩
        exact ⟨⟨declared, element, bound, array, compatible, rfl⟩, rfl⟩
  · rintro ⟨⟨declared, element, bound, array, compatible, rfl⟩, rfl⟩
    refine ⟨_, _, accepts_typeNamed?.mpr ⟨⟨declared, bound, rfl⟩, rfl⟩, ?_⟩
    simp only [accepts_seeing_types, array]
    exact accepts_bind.mpr ⟨(), _, accepts_expectCompatible.mpr ⟨compatible, rfl⟩,
      accepts_pure.mpr ⟨rfl, rfl⟩⟩

theorem accepts_joinBranches {positive negative : TypeId} {negativeSpan : Span}
    {answer : TypeId} :
    (joinBranches positive negative negativeSpan).Accepts state answer reached ↔
      (state.types.compatible positive negative = true ∧
        answer = if state.types.isNil positive then negative else positive) ∧
        reached = state := by
  unfold joinBranches
  rw [accepts_bind]
  constructor
  · rintro ⟨_, middle, compared, rest⟩
    rcases accepts_expectCompatible.mp compared with ⟨compatible, rfl⟩
    rw [accepts_seeing_types, accepts_pure] at rest
    exact ⟨⟨compatible, rest.1⟩, rest.2⟩
  · rintro ⟨⟨compatible, rfl⟩, rfl⟩
    refine ⟨(), _, accepts_expectCompatible.mpr ⟨compatible, rfl⟩, ?_⟩
    exact accepts_seeing_types.mpr (accepts_pure.mpr ⟨rfl, rfl⟩)

theorem accepts_expectOperands (wellFormed : state.types.WellFormed) {operator : Operator}
    {left right : TypeId} {leftSpan rightSpan : Span} {answer : Unit} :
    (expectOperands operator left leftSpan right rightSpan).Accepts state answer reached ↔
      (if operator.isArithmetic = true then
        state.types.isInteger left = true ∧ state.types.isInteger right = true
      else state.types.compatible left right = true) ∧ reached = state := by
  unfold expectOperands
  by_cases arithmetic : operator.isArithmetic = true
  · rw [if_pos arithmetic, if_pos arithmetic, accepts_bind]
    constructor
    · rintro ⟨_, middle, leftChecked, rightChecked⟩
      rcases (accepts_expectInteger wellFormed).mp leftChecked with ⟨leftInteger, rfl⟩
      rcases (accepts_expectInteger wellFormed).mp rightChecked with ⟨rightInteger, rfl⟩
      exact ⟨⟨leftInteger, rightInteger⟩, rfl⟩
    · rintro ⟨⟨leftInteger, rightInteger⟩, rfl⟩
      exact ⟨(), _, (accepts_expectInteger wellFormed).mpr ⟨leftInteger, rfl⟩,
        (accepts_expectInteger wellFormed).mpr ⟨rightInteger, rfl⟩⟩
  · rw [if_neg arithmetic, if_neg arithmetic]
    exact accepts_expectCompatible

/-- An annotation decides on the type of a variable. -/
theorem accepts_variableType_some {name ascribed : Ident} {initial : TypeId} {initialSpan : Span}
    {answer : TypeId} :
    (variableType name (some ascribed) initial initialSpan).Accepts state answer reached ↔
      (state.scope.types ascribed.name = some answer ∧
        state.types.compatible answer initial = true) ∧ reached = state := by
  unfold variableType
  simp only [accepts_bind]
  constructor
  · rintro ⟨found, middle, named, rest⟩
    rcases accepts_typeNamed?.mp named with ⟨⟨declared, bound, rfl⟩, rfl⟩
    rcases accepts_bind.mp rest with ⟨_, _, compared, done⟩
    rcases accepts_expectCompatible.mp compared with ⟨compatible, rfl⟩
    rcases accepts_pure.mp done with ⟨rfl, rfl⟩
    exact ⟨⟨bound, compatible⟩, rfl⟩
  · rintro ⟨⟨bound, compatible⟩, rfl⟩
    refine ⟨_, _, accepts_typeNamed?.mpr ⟨⟨answer, bound, rfl⟩, rfl⟩, accepts_bind.mpr ?_⟩
    exact ⟨(), _, accepts_expectCompatible.mpr ⟨compatible, rfl⟩, accepts_pure.mpr ⟨rfl, rfl⟩⟩

theorem accepts_variableType_none {name : Ident} {initial : TypeId} {initialSpan : Span}
    {answer : TypeId} :
    (variableType name none initial initialSpan).Accepts state answer reached ↔
      (answer = initial ∧ state.types.isNil initial = false ∧
        state.types.isVoid initial = false) ∧ reached = state := by
  unfold variableType
  rw [accepts_seeing_types]
  by_cases isNil : state.types.isNil initial = true
  · rw [if_pos isNil]
    exact iff_of_false not_accepts_after_report (by simp [isNil])
  · rw [if_neg isNil]
    by_cases isVoid : state.types.isVoid initial = true
    · rw [if_pos isVoid]
      exact iff_of_false not_accepts_after_report (by simp [isVoid])
    · rw [if_neg isVoid, accepts_pure]
      simp [isNil, isVoid]

end Rules

end Check
end StaticSemantics
