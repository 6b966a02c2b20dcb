import StaticSemantics.Proofs.Compatibility
import StaticSemantics.Proofs.ErrorTypes
import StaticSemantics.Proofs.Scopes

namespace StaticSemantics

/-!
# Variables without a value

A procedure gives no value, and neither does a loop or an assignment.  Where such
a thing is the initial value of a variable, its type `void` is refused: the
variable is reported and becomes one of the error type.

That is asked only where there is no annotation.  `void` is a name like others
in the environment of types, so a variable may be annotated with it, or with
another name for it, and then the initial value agrees with the annotation.
Such a variable is of type `void` with nothing said about it.  Here it is proved
that this is the only way to one.
-/

namespace Types.WellFormed

variable {types : Types}

/-- What has no value agrees with what has none either, and with what is not
known. -/
theorem compatible_void_iff (wellFormed : types.WellFormed) {declared value : TypeId}
    (isVoid : types.isVoid value = true) :
    types.compatible declared value = true ↔
      types.isVoid declared = true ∨ types.isError declared = true := by
  rw [isVoid_iff] at isVoid
  rw [compatible_iff, agree_iff, isVoid, isVoid_iff, isError_iff]
  constructor
  · rintro (same | unknown | impossible | ⟨_, _, impossible⟩ | ⟨_, impossible⟩)
    · left
      rw [concrete, same]
      exact isVoid
    · exact .inr unknown
    · cases impossible
    · cases impossible
    · cases impossible
  · rintro (declaredVoid | unknown)
    · exact .inl (wellFormed.keepsPrimitives.representative_eq declaredVoid isVoid trivial)
    · exact .inr (.inl unknown)

end Types.WellFormed

/-- A variable is annotated with a name for a type that has a property. -/
def Environment.Annotates (env : Environment) (ascribed : Option Ident)
    (property : TypeId → Bool) : Prop :=
  ∃ ascription declared, ascribed = some ascription ∧
    env.lookUpType ascription.name = .ok declared ∧ property declared = true

namespace Environment

variable {env : Environment} {property : TypeId → Bool} {ascription : Ident}

theorem not_annotates_none : ¬ env.Annotates none property := by
  rintro ⟨_, _, impossible, _⟩
  cases impossible

theorem annotates_iff_of_ok {declared : TypeId}
    (known : env.lookUpType ascription.name = .ok declared) :
    env.Annotates (some ascription) property ↔ property declared = true := by
  constructor
  · rintro ⟨_, _, ⟨⟩, found, holds⟩
    cases known.symm.trans found
    exact holds
  · exact fun holds => ⟨ascription, declared, rfl, known, holds⟩

theorem not_annotates_of_error {error : LookupError}
    (unknown : env.lookUpType ascription.name = .error error) :
    ¬ env.Annotates (some ascription) property := by
  rintro ⟨_, _, ⟨⟩, found, _⟩
  cases unknown.symm.trans found

end Environment

namespace Check

variable {state : State} {name : Ident} {value : TypeId} {span : Span}

/-- What a variable's declaration makes of the type of its initial value: the type
that the variable gets, and what is reported. -/
inductive Stores (state : State) (name : Ident) (value : TypeId) (span : Span) :
    Option Ident → TypeId → List Event → Prop
  | annotated {ascription : Ident} {declared : TypeId}
      (known : state.typeNames.lookUpType ascription.name = .ok declared)
      (agrees : state.types.compatible declared value = true) :
      Stores state name value span (some ascription) declared []
  | mismatched {ascription : Ident} {declared : TypeId}
      (known : state.typeNames.lookUpType ascription.name = .ok declared)
      (differs : state.types.compatible declared value = false) :
      Stores state name value span (some ascription) declared
        [.reported span (.typeMismatch (state.types.describeApart declared value).1
          (state.types.describeApart declared value).2 (some name.name))]
  | misnamed {ascription : Ident} {error : LookupError}
      (unknown : state.typeNames.lookUpType ascription.name = .error error) :
      Stores state name value span (some ascription) .error
        [.reported ascription.span (error.problem "type")]
  | nil (isNil : state.types.isNil value = true) :
      Stores state name value span none .error
        [.reported span (.badInitializer name.name "nil needs a record type annotation")]
  | void (notNil : state.types.isNil value = false) (isVoid : state.types.isVoid value = true) :
      Stores state name value span none .error
        [.reported span (.badInitializer name.name "a void value cannot be stored")]
  | inferred (notNil : state.types.isNil value = false)
      (notVoid : state.types.isVoid value = false) :
      Stores state name value span none value []

theorem run_variableType (state : State) (name : Ident) (ascribed : Option Ident) (value : TypeId)
    (span : Span) : ∃ type reports,
      (variableType name ascribed value span).run state = ⟨.ok type, state, reports⟩ ∧
        Stores state name value span ascribed type reports := by
  cases ascribed with
  | some ascription =>
      have named := run_typeNamed? ascription state
      unfold variableType
      rw [run_bind_of_ok named]
      unfold Environment.typeOf? Environment.typeReports
      cases known : state.typeNames.lookUpType ascription.name with
      | error error => exact ⟨_, _, rfl, .misnamed known⟩
      | ok declared =>
          simp only [Except.toOption]
          rw [run_bind_of_ok (run_expectCompatible declared value span _ state)]
          cases agrees : state.types.compatible declared value with
          | true => exact ⟨_, _, rfl, .annotated known agrees⟩
          | false => exact ⟨_, _, rfl, .mismatched known agrees⟩
  | none =>
      unfold variableType
      rw [run_bind_of_ok (run_types state)]
      cases isNil : state.types.isNil value with
      | true => exact ⟨_, _, rfl, .nil isNil⟩
      | false =>
          cases isVoid : state.types.isVoid value with
          | true => exact ⟨_, _, rfl, .void isNil isVoid⟩
          | false => exact ⟨_, _, rfl, .inferred isNil isVoid⟩

section Stores

variable {ascribed : Option Ident} {type : TypeId} {reports : List Event}

/-- An initial value is never the reason why a variable is of type `void`. -/
theorem Stores.isVoid_iff (stores : Stores state name value span ascribed type reports)
    (wellFormed : state.types.WellFormed) :
    state.types.isVoid type = true ↔
      state.typeNames.Annotates ascribed state.types.isVoid := by
  have error : state.types.isVoid .error = false :=
    Types.isVoid_error (wellFormed.get_of_lt (by decide))
  cases stores with
  | annotated known _ | mismatched known _ => exact (Environment.annotates_iff_of_ok known).symm
  | misnamed unknown =>
      exact iff_of_false (by simp [error]) (Environment.not_annotates_of_error unknown)
  | nil | void => exact iff_of_false (by simp [error]) Environment.not_annotates_none
  | inferred _ notVoid => exact iff_of_false (by simp [notVoid]) Environment.not_annotates_none

/-- What has no value passes only where no value is asked for, or where it is not
known what is asked for. -/
theorem Stores.quiet_iff (stores : Stores state name value span ascribed type reports)
    (wellFormed : state.types.WellFormed) (isVoid : state.types.isVoid value = true) :
    Quiet reports ↔ state.typeNames.Annotates ascribed
      fun id => state.types.isVoid id || state.types.isError id := by
  have reported : ∀ place problem, ¬ Quiet [.reported place problem] :=
    fun place problem quiet => quiet.not_reported place problem (List.mem_singleton_self _)
  cases stores with
  | annotated known agrees =>
      rw [Environment.annotates_iff_of_ok known, Bool.or_eq_true]
      exact iff_of_true rfl ((wellFormed.compatible_void_iff isVoid).mp agrees)
  | mismatched known differs =>
      rw [Environment.annotates_iff_of_ok known, Bool.or_eq_true]
      refine iff_of_false (reported _ _) fun fits => ?_
      rw [(wellFormed.compatible_void_iff isVoid).mpr fits] at differs
      cases differs
  | misnamed unknown =>
      exact iff_of_false (reported _ _) (Environment.not_annotates_of_error unknown)
  | nil | void => exact iff_of_false (reported _ _) Environment.not_annotates_none
  | inferred _ notVoid =>
      rw [isVoid] at notVoid
      cases notVoid

/-- Without an annotation it is refused. -/
theorem Stores.refused (stores : Stores state name value span none type reports)
    (isVoid : state.types.isVoid value = true) :
    type = .error ∧ reports =
      [.reported span (.badInitializer name.name "a void value cannot be stored")] := by
  cases stores with
  | nil isNil =>
      rw [Types.isNil_iff, Types.isVoid_iff.mp isVoid] at isNil
      cases isNil
  | void => exact ⟨rfl, rfl⟩
  | inferred _ notVoid =>
      rw [isVoid] at notVoid
      cases notVoid

end Stores

theorem run_bindVariable (name : String) (type : TypeId) (state : State) :
    ∃ slot storage, (bindVariable name type).run state =
      ⟨.ok (), { state with
        valueNames := state.valueNames.bind name (.variable ⟨type, slot⟩), storage },
        [.requested (.slot slot), .bound name .variable state.valueNames.depth]⟩ :=
  ⟨_, _, rfl⟩

/-- All that a declaration of a variable does if it is not aborted: the initial
value is checked, the type of the variable is decided on, and the name is bound. -/
theorem run_makeVariable {ascribed : Option Ident} {initial : Expression} {place : Span}
    (succeeds : ((makeDeclaration (.variable name ascribed initial place)).run state).outcome =
      .ok ()) :
    ∃ value reached events type reports slot storage,
      (inferExpression initial).run state = ⟨.ok value, reached, events⟩ ∧
      Stores reached name value initial.span ascribed type reports ∧
      (makeDeclaration (.variable name ascribed initial place)).run state =
        ⟨.ok (), { reached with
          valueNames := reached.valueNames.bind name.name (.variable ⟨type, slot⟩), storage },
          events ++ (reports ++ [.requested (.slot slot),
            .bound name.name .variable reached.valueNames.depth])⟩ := by
  rw [makeDeclaration] at succeeds ⊢
  rcases ran : (inferExpression initial).run state with ⟨outcome, reached, events⟩
  cases outcome with
  | error problem =>
      rw [run_bind_of_error ran] at succeeds
      cases succeeds
  | ok value =>
      rcases run_variableType reached name ascribed value initial.span with
        ⟨type, reports, decided, stores⟩
      rcases run_bindVariable name.name type reached with ⟨slot, storage, bound⟩
      refine ⟨value, reached, events, type, reports, slot, storage, rfl, stores, ?_⟩
      rw [run_bind_of_ok ran, run_bind_of_ok decided, bound]

end Check

/-- In every history, a variable that is declared is of type `void` exactly if it
is annotated with a name for that type.  An initial value that is none is reported,
unless the annotation is such a name, or a name for a type that is not known.
Without an annotation there is one report, and the variable is of the error type. -/
theorem History.void_stored_only_as_annotated (outermost : Frame) (requests : List Request)
    {name : Ident} {ascribed : Option Ident} {initial : Expression} {span : Span}
    (succeeds : ((Check.makeDeclaration (.variable name ascribed initial span)).run
      (ofRequests outermost requests).state).outcome = .ok ()) :
    let state := (ofRequests outermost requests).state
    let valued := (Check.inferExpression initial).run state
    let run := (Check.makeDeclaration (.variable name ascribed initial span)).run state
    let types := run.state.types
    ∃ value entry own,
      valued.outcome = .ok value ∧ run.events = valued.events ++ own ∧
      run.state.valueNames.lookUpVariable name.name = .ok entry ∧
      (types.isVoid entry.type = true ↔ state.typeNames.Annotates ascribed types.isVoid) ∧
      (types.isVoid value = true →
        (diagnosticsOf own = [] ↔ state.typeNames.Annotates ascribed
          fun id => types.isVoid id || types.isError id) ∧
        (ascribed = none → entry.type = .error ∧ diagnosticsOf own =
          [.ofProblem initial.span
            (.badInitializer name.name "a void value cannot be stored")])) := by
  intro state valued run types
  rcases Check.run_makeVariable succeeds with
    ⟨value, reached, events, type, reports, slot, storage, ran, stores, declared⟩
  have holds : Discipline.wellFormed.Holds (ofRequests outermost requests) :=
    Discipline.wellFormed_ofRequests outermost requests
  have wellFormed : reached.types.WellFormed := by
    have kept := (Discipline.keeps_inferExpression Discipline.wellFormed_lawful initial _ holds).1
    have sound := kept.sound.1
    rwa [History.after, ran] at sound
  have names : reached.typeNames = state.typeNames := by
    have balanced := Check.balanced_inferExpression initial state
    rw [Check.Ends, ran] at balanced
    exact balanced.typeNames
  have own : diagnosticsOf (reports ++ [.requested (.slot slot),
      .bound name.name .variable reached.valueNames.depth]) = diagnosticsOf reports := by
    rw [diagnosticsOf_append]
    exact List.append_nil _
  have bound : (reached.valueNames.bind name.name (.variable ⟨type, slot⟩)).lookUpVariable
      name.name = .ok ⟨type, slot⟩ := by
    rw [Environment.lookUpVariable_eq_ok_iff, Environment.newest?_bind, if_pos rfl]
  have valuedBy : valued = ⟨.ok value, reached, events⟩ := ran
  have runBy : run = _ := declared
  simp only [types, valuedBy, runBy, ← names]
  refine ⟨value, ⟨type, slot⟩, _, rfl, rfl, bound, stores.isVoid_iff wellFormed,
    fun isVoid => ⟨?_, ?_⟩⟩
  · rw [own]
    exact stores.quiet_iff wellFormed isVoid
  · rintro rfl
    rcases stores.refused isVoid with ⟨rfl, reported⟩
    rw [own, reported]
    exact ⟨rfl, rfl⟩

/-- Another name for `void`. -/
def Request.unitType : Request :=
  let here : Span := ⟨1, 1, 1, 1⟩
  .declaration (.types [⟨⟨"unit", here⟩, .name ⟨"void", here⟩ here, here⟩] here)

/-- A variable with that name as its annotation, and a call of a procedure as its
initial value. -/
def Declaration.unitVariable : Declaration :=
  let here : Span := ⟨2, 1, 2, 1⟩
  .variable ⟨"done", here⟩ (some ⟨"unit", here⟩)
    (.call ⟨"print", here⟩ [.string "a" here] here) here

/-- That variable is of type `void`, and nothing is reported. -/
theorem History.void_stored_only_as_annotated_unitVariable :
    ((Check.makeDeclaration .unitVariable).run
      (ofRequests outermostFrame [.unitType]).state).outcome = .ok () ∧
    diagnosticsOf ((Check.makeDeclaration .unitVariable).run
      (ofRequests outermostFrame [.unitType]).state).events = [] ∧
    ∃ entry, ((Check.makeDeclaration .unitVariable).run
        (ofRequests outermostFrame [.unitType]).state).state.valueNames.lookUpVariable "done" =
          .ok entry ∧
      ((Check.makeDeclaration .unitVariable).run
        (ofRequests outermostFrame [.unitType]).state).state.types.isVoid entry.type = true := by
  have succeeds : ((Check.makeDeclaration .unitVariable).run
      (ofRequests outermostFrame [.unitType]).state).outcome = .ok () := by rfl
  have quiet : diagnosticsOf ((Check.makeDeclaration .unitVariable).run
      (ofRequests outermostFrame [.unitType]).state).events = [] := by decide
  have known : (ofRequests outermostFrame [.unitType]).state.typeNames.newest? "unit" =
      some (.type ⟨5⟩) := by decide
  have isVoid : ((Check.makeDeclaration .unitVariable).run
      (ofRequests outermostFrame [.unitType]).state).state.types.isVoid ⟨5⟩ = true := by decide
  rcases void_stored_only_as_annotated outermostFrame [.unitType] succeeds with
    ⟨_, entry, _, _, _, bound, annotated, _⟩
  refine ⟨succeeds, quiet, entry, bound, annotated.mpr ⟨_, ⟨5⟩, rfl, ?_, isVoid⟩⟩
  exact Environment.lookUpType_eq_ok_iff.mpr known

/-- So it is not the case that a variable without a value is always refused. -/
theorem History.void_variable_declared :
    let state := (ofRequests outermostFrame []).state
    let here : Span := ⟨1, 1, 1, 1⟩
    let run := (Check.makeDeclaration (.variable ⟨"x", here⟩ (some ⟨"void", here⟩)
      (.sequence [] here) here)).run state
    run.outcome = .ok () ∧ diagnosticsOf run.events = [] ∧
    ∃ entry, run.state.valueNames.lookUpVariable "x" = .ok entry ∧
      run.state.types.isVoid entry.type = true :=
  ⟨rfl, rfl, _, rfl, rfl⟩

end StaticSemantics
