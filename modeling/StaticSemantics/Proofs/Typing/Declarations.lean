import StaticSemantics.Proofs.Typing.Acceptance

namespace StaticSemantics

/-!
# Declarations and the scope

Binding a name is always accepted.  What has to be known about it is its effect
on the scope, which is the one that the typing rules name.  For a group of
types the table comes out as the rules want it, if all names are known.
-/

/-- The types in the header of a function. -/
def Check.FunctionHeader.signature (header : Check.FunctionHeader) : Signature :=
  ⟨header.parameters, header.result⟩

/-- The heading of a function reads names of types and nothing else. -/
theorem FunctionDeclaration.HasSignature.of_types {member : FunctionDeclaration}
    {signature : Signature} {scope other : Scope} (heading : member.HasSignature scope signature)
    (same : other.types = scope.types) : member.HasSignature other signature where
  parameters := by
    rw [same]
    exact heading.parameters
  result := by
    rw [same]
    exact heading.result

/-- The names of functions do not change what the names of types stand for. -/
theorem Scope.types_bindFunctions (scope : Scope) (members : List FunctionDeclaration)
    (signatures : List Signature) :
    (scope.bindFunctions members signatures).types = scope.types := by
  induction members generalizing scope signatures with
  | nil => rfl
  | cons member rest inductionHypothesis =>
      cases signatures with
      | nil => rfl
      | cons signature signatures =>
          exact inductionHypothesis (scope.bindValue member.name.name (.function signature))
            signatures

theorem State.scope_openValues (state : State) : state.openValues.scope = state.scope :=
  rfl

/-- Only names have been bound on the way to a state. -/
structure State.Rescoped (state : State) (scope : Scope) (reached : State) : Prop where
  types : reached.types = state.types
  scope : reached.scope = scope

namespace State.Rescoped

variable {state middle reached : State} {scope inner : Scope}

theorem refl (state : State) : state.Rescoped state.scope state :=
  ⟨rfl, rfl⟩

theorem trans (first : state.Rescoped scope middle) (second : middle.Rescoped inner reached) :
    state.Rescoped inner reached :=
  ⟨second.types.trans first.types, second.scope⟩

end State.Rescoped

namespace Check

variable {state reached : State}

theorem accepts_openValueScope {answer : Unit} :
    openValueScope.Accepts state answer reached ↔ reached = state.openValues :=
  accepts_update

theorem passes_bindVariable (state : State) (name : String) (type : TypeId) :
    (bindVariable name type).Passes state
      fun _ reached => state.Rescoped (state.scope.bindValue name (.variable type)) reached :=
  .of_run rfl rfl ⟨rfl, State.scope_bindValue (takeSlot.run state).state name rfl⟩

theorem passes_bindParameters (state : State) (parameters : List TypedName)
    (types : List TypeId) :
    (bindParameters parameters types).Passes state
      fun _ reached => state.Rescoped (state.scope.bindParameters parameters types) reached := by
  unfold bindParameters
  induction parameters generalizing state types with
  | nil => exact .pure (.refl state)
  | cons parameter rest inductionHypothesis =>
      cases types with
      | nil => exact .pure (.refl state)
      | cons type types =>
          apply Passes.bind (passes_bindVariable state parameter.name.name type)
          intro _ middle first
          have others := inductionHypothesis middle types
          rw [first.scope] at others
          rcases others with ⟨answer, last, accepted, rescoped⟩
          exact ⟨answer, last, accepted, first.trans rescoped⟩

/-!
## Functions
-/

theorem accepts_resultType {result : Option Ident} {answer : TypeId} :
    (resultType result).Accepts state answer reached ↔
      (match result with
        | some name => state.scope.types name.name = some answer
        | none => answer = .void) ∧ reached = state := by
  cases result with
  | none => exact accepts_pure
  | some name => exact accepts_typeNamed

theorem accepts_parameterTypes {parameters : List TypedName} {answer : List TypeId} :
    (parameters.mapM fun parameter => typeNamed parameter.type).Accepts state answer reached ↔
      parameters.Forall₂ (fun parameter type => state.scope.types parameter.type.name = some type)
        answer ∧ reached = state :=
  accepts_mapM fun _ _ _ => accepts_typeNamed

/-- The part of the first pass that comes after the names of the types. -/
theorem passes_bindFunction (state : State) (name : String) (parameters : List TypeId)
    (result : TypeId) :
    (do
      let label ← takeLabel
      let frame ← takeFrame (← frame) label parameters.length
      bindValue name (.function ⟨parameters, result, frame, label⟩)
      pure ⟨parameters, result, frame⟩ : Check FunctionHeader).Passes state
      fun header reached => header.signature = ⟨parameters, result⟩ ∧
        state.Rescoped (state.scope.bindValue name (.function ⟨parameters, result⟩)) reached := by
  refine .of_run rfl rfl ⟨rfl, rfl, ?_⟩
  exact State.scope_bindValue { state with storage := _ } name rfl

/-- A function whose heading names known types is announced with these types. -/
theorem passes_announceFunction {member : FunctionDeclaration} {signature : Signature}
    (heading : member.HasSignature state.scope signature) :
    (announceFunction member).Passes state fun header reached =>
      header.signature = signature ∧
        state.Rescoped (state.scope.bindValue member.name.name (.function signature)) reached := by
  rcases passes_bindFunction state member.name.name signature.parameters signature.result with
    ⟨header, reached, accepted, bound⟩
  have result : (resultType member.result).Accepts state signature.result state :=
    accepts_resultType.mpr ⟨heading.result, rfl⟩
  have parameters : (member.parameters.mapM fun parameter => typeNamed parameter.type).Accepts state
      signature.parameters state :=
    accepts_parameterTypes.mpr ⟨heading.parameters, rfl⟩
  refine ⟨header, reached, accepts_bind.mpr ⟨_, _, result, ?_⟩, bound⟩
  exact accepts_bind.mpr ⟨_, _, parameters, accepted⟩

theorem hasSignature_of_accepts {member : FunctionDeclaration} {header : FunctionHeader}
    (accepted : (announceFunction member).Accepts state header reached) :
    member.HasSignature state.scope header.signature := by
  rcases accepts_bind.mp accepted with ⟨result, _, resultNamed, parametersNext⟩
  rcases accepts_resultType.mp resultNamed with ⟨resultKnown, rfl⟩
  rcases accepts_bind.mp parametersNext with ⟨parameters, _, named, bound⟩
  rcases accepts_parameterTypes.mp named with ⟨parametersKnown, rfl⟩
  have same := ((passes_bindFunction _ member.name.name parameters result).holds bound).1
  rw [same]
  exact ⟨parametersKnown, resultKnown⟩

theorem passes_announceFunctions {members : List FunctionDeclaration}
    {signatures : List Signature}
    (headings : members.Forall₂ (·.HasSignature state.scope) signatures) :
    (members.mapM announceFunction).Passes state fun headers reached =>
      headers.map (·.signature) = signatures ∧
        state.Rescoped (state.scope.bindFunctions members signatures) reached := by
  induction members generalizing state signatures with
  | nil =>
      cases headings
      exact .pure ⟨rfl, .refl state⟩
  | cons member rest inductionHypothesis =>
      rcases headings with _ | ⟨heading, others⟩
      rw [List.mapM_cons]
      apply Passes.bind (passes_announceFunction heading)
      rintro header middle ⟨rfl, bound⟩
      have names : middle.scope.types = state.scope.types := by
        rw [bound.scope]
        rfl
      have stillKnown : rest.Forall₂ (·.HasSignature middle.scope) _ :=
        others.imp fun _ _ known => known.of_types names
      apply Passes.bind (inductionHypothesis stillKnown)
      rintro headers last ⟨rfl, allBound⟩
      rw [bound.scope] at allBound
      exact .pure ⟨rfl, bound.trans allBound⟩

theorem hasSignatures_of_accepts {members : List FunctionDeclaration}
    {headers : List FunctionHeader}
    (accepted : (members.mapM announceFunction).Accepts state headers reached) :
    members.Forall₂ (·.HasSignature state.scope) (headers.map (·.signature)) := by
  induction members generalizing state headers with
  | nil =>
      rcases accepts_pure.mp accepted with ⟨rfl, rfl⟩
      exact .nil
  | cons member rest inductionHypothesis =>
      rw [List.mapM_cons] at accepted
      rcases accepts_bind.mp accepted with ⟨header, middle, first, othersNext⟩
      rcases accepts_bind.mp othersNext with ⟨headers, last, others, done⟩
      rcases accepts_pure.mp done with ⟨rfl, rfl⟩
      have heading := hasSignature_of_accepts first
      have bound := ((passes_announceFunction heading).holds first).2
      have names : state.scope.types = middle.scope.types := by
        rw [bound.scope]
        rfl
      have known : rest.Forall₂ (·.HasSignature state.scope) _ :=
        (inductionHypothesis others).imp fun _ _ known => known.of_types names
      exact .cons heading known

end Check

/-!
## Groups of types
-/

/-- Items are related to values by a function where something is known of them. -/
theorem forall₂_iff_map {α β : Type} {relation : α → β → Prop} {known : α → Prop} {f : α → β}
    (each : ∀ item value, relation item value ↔ known item ∧ value = f item) {items : List α}
    {values : List β} :
    items.Forall₂ relation values ↔ (∀ item ∈ items, known item) ∧ values = items.map f := by
  induction items generalizing values with
  | nil => cases values <;> simp
  | cons item rest inductionHypothesis =>
      cases values with
      | nil => simp
      | cons value values =>
          rw [List.forall₂_cons, each, inductionHypothesis]
          simp only [List.forall_mem_cons, List.map_cons, List.cons.injEq]
          exact and_and_and_comm

/-- A type expression stands for its meaning if all names in it are known. -/
theorem TypeExpression.means_iff {env : Environment} {scope : Scope} {declared : String}
    {body : TypeExpression} {type : Ty} (same : scope.types = env.typeOf?) :
    body.Means scope declared type ↔
      (∀ name ∈ body.used, ∃ id, env.typeOf? name.name = some id) ∧
        type = body.meaning env declared := by
  cases body with
  | name target span =>
      constructor
      · intro means
        cases means with
        | name known =>
            rw [same] at known
            simp [used, meaning, known]
      · rintro ⟨known, rfl⟩
        rcases known target (List.mem_singleton_self target) with ⟨id, found⟩
        simp only [meaning, found]
        exact .name (same ▸ found)
  | record written span =>
      have each : ∀ (field : TypedName) (meant : Field),
          (meant.name = field.name.name ∧ scope.types field.type.name = some meant.type) ↔
            (∃ id, env.typeOf? field.type.name = some id) ∧
              meant = ⟨field.name.name, (env.typeOf? field.type.name).getD .error⟩ := by
        rintro field ⟨name, type⟩
        rw [same]
        cases env.typeOf? field.type.name <;> simp [eq_comm]
      constructor
      · intro means
        cases means with
        | record known =>
            rcases (forall₂_iff_map each).mp known with ⟨all, rfl⟩
            exact ⟨by simpa [used] using all, rfl⟩
      · rintro ⟨known, rfl⟩
        exact .record ((forall₂_iff_map each).mpr ⟨by simpa [used] using known, rfl⟩)
  | array element span =>
      constructor
      · intro means
        cases means with
        | array known =>
            rw [same] at known
            simp [used, meaning, known]
      · rintro ⟨known, rfl⟩
        rcases known element (List.mem_singleton_self element) with ⟨id, found⟩
        simp only [meaning, found]
        exact .array (same ▸ found)

theorem TypeDeclaration.fills_iff {env : Environment} {scope : Scope}
    (same : scope.types = env.typeOf?) (member : TypeDeclaration) (cell : TypeCell) :
    member.Fills scope cell ↔
      (∀ name ∈ member.body.used, ∃ id, env.typeOf? name.name = some id) ∧
        cell = member.cell env := by
  rw [Fills, TypeExpression.means_iff same, TypeDeclaration.cell, and_assoc]
  obtain ⟨type, site⟩ := cell
  simp

/-- Nothing is reported about a group if all names in it are known, and all
chains of its members arrive. -/
theorem quiet_groupEvents {state : State} {members : List TypeDeclaration}
    (known : ∀ member ∈ members, ∀ name ∈ member.body.used,
      ∃ id, (state.groupNames members).typeOf? name.name = some id)
    (grounded : ∀ id ∈ groupIds state.types.size members,
      ∃ concrete, (state.groupTypes members).StandsFor id concrete) :
    Quiet (state.groupEvents members) := by
  rw [Quiet.iff_forall]
  intro event happened
  rw [State.groupEvents, List.mem_append, List.mem_append, List.mem_cons] at happened
  rcases happened with ((rfl | bound) | reported) | chain
  · rfl
  · rcases List.mem_map.mp bound with ⟨member, _, rfl⟩
    rfl
  · rcases List.mem_flatMap.mp reported with ⟨member, listed, inside⟩
    rcases List.mem_flatMap.mp inside with ⟨name, used, said⟩
    have quiet := Environment.quiet_typeReports_iff.mpr (known member listed name used)
    exact Quiet.iff_forall.mp quiet event said
  · rcases List.mem_flatMap.mp chain with ⟨⟨member, id⟩, listed, said⟩
    rcases grounded id (List.of_mem_zip listed).2 with ⟨concrete, stands⟩
    simp [Types.chainReports, stands.unalias_eq] at said

namespace Check

variable {state reached : State}

theorem accepts_makeTypes {members : List TypeDeclaration} {answer : Unit} :
    (makeTypes members).Accepts state answer reached ↔
      reached = { state with
        types := state.groupTypes members
        typeNames := state.groupNames members } ∧ Quiet (state.groupEvents members) := by
  rw [accepts_of_run (run_makeTypes members state)]
  simp

/-- A group that is accepted is well typed, where every older name stands for a
known type. -/
theorem declared_of_accepts_makeTypes {members : List TypeDeclaration} {span : Span}
    {answer : Unit} (wellFormed : state.types.WellFormed) (errorFree : state.types.ErrorFree)
    (named : state.typeNames.Fits (· = .type) fun id => state.types.Holds id ∧ id ≠ .error)
    (accepted : (makeTypes members).Accepts state answer reached) :
    Declared state.types state.scope (.types members span) reached.types reached.scope := by
  rcases accepts_makeTypes.mp accepted with ⟨rfl, quiet⟩
  have scope : { state with
      types := state.groupTypes members, typeNames := state.groupNames members }.scope =
      state.scope.bindGroup state.types.size members :=
    State.scope_groupNames state state.types.size members
  have names : (state.scope.bindGroup state.types.size members).types =
      (state.groupNames members).typeOf? := by
    rw [← scope]
    rfl
  rw [scope]
  refine .types ((forall₂_iff_map (TypeDeclaration.fills_iff names)).mpr ⟨?_, rfl⟩) ?_
  · exact fun member listed name used => quiet.exists_typeOf? listed used
  · intro id new
    have free := errorFree.groupTypes wellFormed named quiet
    exact free.standsFor id (State.holds_groupTypes_iff.mpr (.inr new))
      (wellFormed.ne_error_of_mem_groupIds new)

theorem passes_makeTypes {members : List TypeDeclaration} {cells : List TypeCell}
    (filled : members.Forall₂ (·.Fills (state.scope.bindGroup state.types.size members)) cells)
    (grounded : ∀ id ∈ groupIds state.types.size members,
      ∃ concrete, (state.types.extend cells).StandsFor id concrete) :
    (makeTypes members).Passes state fun _ reached =>
      reached.types = state.types.extend cells ∧
        reached.scope = state.scope.bindGroup state.types.size members := by
  have scope : { state with
      types := state.groupTypes members, typeNames := state.groupNames members }.scope =
      state.scope.bindGroup state.types.size members :=
    State.scope_groupNames state state.types.size members
  have names : (state.scope.bindGroup state.types.size members).types =
      (state.groupNames members).typeOf? := by
    rw [← scope]
    rfl
  rcases (forall₂_iff_map (TypeDeclaration.fills_iff names)).mp filled with ⟨known, rfl⟩
  refine ⟨(), _, accepts_makeTypes.mpr ⟨rfl, quiet_groupEvents known grounded⟩, rfl, scope⟩

end Check
end StaticSemantics
