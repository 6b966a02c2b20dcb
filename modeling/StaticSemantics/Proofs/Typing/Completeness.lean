import StaticSemantics.Proofs.Typing.Declarations

namespace StaticSemantics

/-!
# What is well typed is accepted

This holds in every well-formed state, also if something has been reported
before.  A derivation tells what every part of a tree answers and which table
it leaves, so the parts can be checked one after another along the derivation.
-/

/-- A check between two states that does not touch the scope. -/
structure State.Settled (state reached : State) : Prop where
  scope : reached.scope = state.scope
  wellFormed : reached.WellFormed
  grows : ∀ {id}, state.types.Holds id → reached.types.Holds id

namespace State.WellFormed

variable {state reached : State} {α : Type} {check : Check α} {answer : α}

theorem holds (wellFormed : state.WellFormed) : Discipline.wellFormed.Holds ⟨state, []⟩ :=
  ⟨⟨wellFormed.types, nofun⟩, wellFormed.typeNames, wellFormed.valueNames⟩

theorem openValues (wellFormed : state.WellFormed) : state.openValues.WellFormed :=
  ⟨wellFormed.types, wellFormed.typeNames, wellFormed.valueNames.openScope⟩

theorem openBlock (wellFormed : state.WellFormed) : state.openBlock.WellFormed :=
  ⟨wellFormed.types, wellFormed.typeNames.openScope, wellFormed.valueNames.openScope⟩

theorem step {wanted : History → α → Prop} (wellFormed : state.WellFormed)
    (accepted : check.Accepts state answer reached)
    (keeps : Discipline.wellFormed.Keeps ⟨state, []⟩ check wanted) :
    reached.WellFormed ∧ (∀ {id}, state.types.Holds id → reached.types.Holds id) ∧
      ∃ past, wanted ⟨reached, past⟩ answer := by
  rcases accepted with ⟨events, ran, _⟩
  rcases keeps wellFormed.holds with ⟨holds, later, answered⟩
  rw [ran] at holds later answered
  exact ⟨holds.wellFormed, later.named, events, answered answer rfl⟩

theorem bindVariable (wellFormed : state.WellFormed) {name : String} {type : TypeId}
    (held : state.types.Holds type) :
    (Check.bindVariable name type).Passes state fun _ reached =>
      state.Rescoped (state.scope.bindValue name (.variable type)) reached ∧
        reached.WellFormed := by
  rcases Check.passes_bindVariable state name type with ⟨answer, reached, accepted, bound⟩
  exact ⟨answer, reached, accepted, bound, (wellFormed.step accepted
    (Discipline.keeps_bindVariable Discipline.wellFormed_lawful name held)).1⟩

theorem bindParameters (wellFormed : state.WellFormed) (parameters : List TypedName)
    {types : List TypeId} (held : ∀ type ∈ types, state.types.Holds type) :
    (Check.bindParameters parameters types).Passes state fun _ reached =>
      state.Rescoped (state.scope.bindParameters parameters types) reached ∧
        reached.WellFormed := by
  rcases Check.passes_bindParameters state parameters types with ⟨answer, reached, accepted, bound⟩
  exact ⟨answer, reached, accepted, bound, (wellFormed.step accepted
    (Discipline.keeps_bindParameters Discipline.wellFormed_lawful parameters types held)).1⟩

theorem functions (wellFormed : state.WellFormed) {members : List FunctionDeclaration}
    {signatures : List Signature}
    (headings : members.Forall₂ (·.HasSignature state.scope) signatures) :
    (members.mapM Check.announceFunction).Passes state fun headers reached =>
      (headers.map (·.signature) = signatures ∧
        state.Rescoped (state.scope.bindFunctions members signatures) reached) ∧
      reached.WellFormed ∧
      ∀ header ∈ headers, ∀ type ∈ header.parameters, reached.types.Holds type := by
  rcases Check.passes_announceFunctions headings with ⟨headers, reached, accepted, announced⟩
  rcases wellFormed.step accepted
    (Discipline.keeps_announceFunctions Discipline.wellFormed_lawful members) with
    ⟨wellFormedOn, _, past, held⟩
  exact ⟨headers, reached, accepted, announced, wellFormedOn, held⟩

end State.WellFormed

namespace Check

/-- What passes and does not touch the scope leaves a state to go on from. -/
theorem Passes.settled {α : Type} {check : Check α} {state : State} {wanted : α → State → Prop}
    {kept : History → α → Prop} (passes : check.Passes state wanted)
    (wellFormed : state.WellFormed) (balanced : check.Balanced)
    (keeps : Discipline.wellFormed.Keeps ⟨state, []⟩ check kept) :
    check.Passes state fun answer reached => wanted answer reached ∧ state.Settled reached := by
  rcases passes with ⟨answer, reached, accepted, holds⟩
  rcases wellFormed.step accepted keeps with ⟨wellFormedOn, grows, _⟩
  exact ⟨answer, reached, accepted, holds, balanced.scope_eq accepted, wellFormedOn, grows⟩

theorem Passes.place {place : Place} {state : State} {wanted : TypeId → State → Prop}
    (passes : (inferPlace place).Passes state wanted) (wellFormed : state.WellFormed) :
    (inferPlace place).Passes state fun answer reached =>
      wanted answer reached ∧ state.Settled reached :=
  passes.settled wellFormed (balanced_inferPlace place)
    (Discipline.keeps_inferPlace Discipline.wellFormed_lawful place _)

theorem Passes.expression {expression : Expression} {state : State}
    {wanted : TypeId → State → Prop} (passes : (inferExpression expression).Passes state wanted)
    (wellFormed : state.WellFormed) :
    (inferExpression expression).Passes state fun answer reached =>
      wanted answer reached ∧ state.Settled reached :=
  passes.settled wellFormed (balanced_inferExpression expression)
    (Discipline.keeps_inferExpression Discipline.wellFormed_lawful expression _)

end Check

namespace Check

variable {state : State} {α : Type}

theorem Passes.update {change : State → State} {next : Unit → Check α}
    {wanted : α → State → Prop} (rest : (next ()).Passes (change state) wanted) :
    (Check.update change >>= next).Passes state wanted :=
  .step (accepts_update.mpr rfl) rest

theorem Passes.emit {event : Event} (silent : event.diagnostic? = none) {next : Unit → Check α}
    {wanted : α → State → Prop} (rest : (next ()).Passes state wanted) :
    (Check.emit event >>= next).Passes state wanted :=
  .step ((accepts_emit silent).mpr rfl) rest

theorem accepts_of_isInteger (wellFormed : state.WellFormed) {found : TypeId} {span : Span}
    {name : Option String} (isInteger : state.types.IsInteger found) :
    (expectInteger found span name).Accepts state () state :=
  (accepts_expectInteger wellFormed.types).mpr ⟨wellFormed.types.isInteger isInteger, rfl⟩

/-- An expression that has to be an integer, and what comes after it. -/
theorem Passes.number {expression : Expression} {span : Span} {type : TypeId} {later : Types}
    {next : Check α} {wanted : α → State → Prop}
    (passes : (inferExpression expression).Passes state fun answer reached =>
      answer = type ∧ reached.types = later)
    (wellFormed : state.WellFormed) (isInteger : later.IsInteger type)
    (onward : ∀ reached, reached.types = later → state.Settled reached →
      next.Passes reached wanted) :
    (do
      let type ← inferExpression expression
      expectInteger type span none
      next).Passes state wanted := by
  apply (passes.expression wellFormed).bind
  rintro found reached ⟨⟨rfl, rfl⟩, settled⟩
  apply Passes.step (accepts_of_isInteger settled.wellFormed isInteger)
  exact onward _ rfl settled

theorem accepts_of_matches {expected found : TypeId} {span : Span} {name : Option String}
    (agree : state.types.Matches expected found) :
    (expectCompatible expected found span name).Accepts state () state :=
  accepts_expectCompatible.mpr ⟨agree.compatible, rfl⟩

theorem accepts_of_isStorable {name : Ident} {initial : TypeId} {span : Span}
    (storable : state.types.IsStorable initial) :
    (variableType name none initial span).Accepts state initial state :=
  accepts_variableType_none.mpr ⟨⟨rfl, storable.isNil_eq, storable.isVoid_eq⟩, rfl⟩

theorem accepts_of_ascribed {name ascribed : Ident} {initial declared : TypeId} {span : Span}
    (known : state.scope.types ascribed.name = some declared)
    (agree : state.types.Matches declared initial) :
    (variableType name (some ascribed) initial span).Accepts state declared state :=
  accepts_variableType_some.mpr ⟨⟨known, agree.compatible⟩, rfl⟩

theorem Passes.declaration {declaration : Declaration} {wanted : Unit → State → Prop}
    (passes : (makeDeclaration declaration).Passes state wanted) (wellFormed : state.WellFormed) :
    (makeDeclaration declaration).Passes state fun answer reached =>
      wanted answer reached ∧ reached.WellFormed := by
  rcases passes with ⟨answer, reached, accepted, holds⟩
  exact ⟨answer, reached, accepted, holds, (wellFormed.step accepted
    (Discipline.keeps_makeDeclaration Discipline.wellFormed_lawful declaration _)).1⟩

end Check

theorem ListTyped.length_eq {arguments : List Expression} {types later : Types} {scope : Scope}
    {expected : List TypeId} (typed : ListTyped types scope arguments expected later) :
    expected.length = arguments.length := by
  induction arguments generalizing types expected with
  | nil =>
      cases typed
      rfl
  | cons argument rest inductionHypothesis =>
      cases typed with
      | cons _ _ restTyped => exact congrArg (· + 1) (inductionHypothesis restTyped)

theorem ListTyped.types_eq {types later : Types} {scope : Scope} {expected : List TypeId}
    (typed : ListTyped types scope [] expected later) : later = types := by
  cases typed
  rfl

namespace Check

mutual

theorem passes_inferPlace (place : Place) {state : State} {type : TypeId} {later : Types}
    (wellFormed : state.WellFormed)
    (typed : PlaceTyped state.types state.scope place type later) :
    (inferPlace place).Passes state fun answer reached =>
      answer = type ∧ reached.types = later := by
  cases place with
  | name name span =>
      cases typed with
      | name bound =>
          rw [inferPlace]
          exact ⟨type, state, accepts_variableNamed.mpr ⟨bound, rfl⟩, rfl, rfl⟩
  | field base field span =>
      cases typed with
      | field baseTyped isRecord first =>
          rw [inferPlace]
          apply Passes.bind ((passes_inferPlace base wellFormed baseTyped).place wellFormed)
          rintro baseType s1 ⟨⟨rfl, rfl⟩, _⟩
          exact ⟨_, s1, (accepts_selectField isRecord.1.isError_eq).mpr
            ⟨⟨_, _, isRecord.fieldsOf?_eq, first, rfl⟩, rfl⟩, rfl, rfl⟩
  | element base index span =>
      cases typed with
      | element baseTyped indexTyped isInteger isArray =>
          rw [inferPlace]
          apply Passes.bind ((passes_inferPlace base wellFormed baseTyped).place wellFormed)
          rintro baseType s1 ⟨⟨rfl, rfl⟩, one⟩
          rw [← one.scope] at indexTyped
          apply (passes_inferExpression index one.wellFormed indexTyped).number one.wellFormed
            isInteger
          rintro s2 rfl two
          exact ⟨type, _, (accepts_selectElement isArray.1.isError_eq).mpr
            ⟨isArray.elementOf?_eq, rfl⟩, rfl, rfl⟩
termination_by structural place

theorem passes_inferExpression (expression : Expression) {state : State} {type : TypeId}
    {later : Types} (wellFormed : state.WellFormed)
    (typed : Typed state.types state.scope expression type later) :
    (inferExpression expression).Passes state fun answer reached =>
      answer = type ∧ reached.types = later := by
  cases expression with
  | nil span =>
      cases typed
      exact .pure ⟨rfl, rfl⟩
  | integer value span =>
      cases typed
      exact .pure ⟨rfl, rfl⟩
  | string value span =>
      cases typed
      exact .pure ⟨rfl, rfl⟩
  | breakLoop span =>
      cases typed
      exact .pure ⟨rfl, rfl⟩
  | malformed span => cases typed
  | place place span =>
      cases typed with
      | place placeTyped =>
          rw [inferExpression]
          exact passes_inferPlace place wellFormed placeTyped
  | call function arguments span =>
      cases typed with
      | @call _ _ _ _ _ _ signature bound argumentsTyped =>
          rw [inferExpression]
          have called : (expectCall function arguments.length span).Accepts state _ state :=
            accepts_expectCall.mpr ⟨⟨signature, bound, argumentsTyped.length_eq, rfl⟩, rfl⟩
          have parameters : (signature.parameters.map fun type => (type, function.name)).map (·.1) =
              signature.parameters := by
            simp [Function.comp_def]
          rw [← parameters] at argumentsTyped
          rcases passes_checkArguments arguments wellFormed argumentsTyped with
            ⟨_, s1, checked, rfl⟩
          exact ⟨_, s1, accepts_bind.mpr ⟨_, _, called, accepts_bind.mpr
            ⟨_, _, checked, accepts_pure.mpr ⟨rfl, rfl⟩⟩⟩, rfl, rfl⟩
  | binary operator left right span =>
      rw [inferExpression]
      cases typed with
      | arithmetic isArithmetic leftTyped rightTyped leftInteger rightInteger =>
          apply Passes.bind ((passes_inferExpression left wellFormed leftTyped).expression
            wellFormed)
          rintro leftType s1 ⟨⟨rfl, rfl⟩, one⟩
          rw [← one.scope] at rightTyped
          apply Passes.bind ((passes_inferExpression right one.wellFormed rightTyped).expression
            one.wellFormed)
          rintro rightType s2 ⟨⟨rfl, rfl⟩, two⟩
          unfold expectOperands
          rw [if_pos isArithmetic, bind_assoc]
          apply Passes.step (accepts_of_isInteger two.wellFormed leftInteger)
          apply Passes.step (accepts_of_isInteger two.wellFormed rightInteger)
          exact .pure ⟨rfl, rfl⟩
      | comparison notArithmetic leftTyped rightTyped agree =>
          apply Passes.bind ((passes_inferExpression left wellFormed leftTyped).expression
            wellFormed)
          rintro leftType s1 ⟨⟨rfl, rfl⟩, one⟩
          rw [← one.scope] at rightTyped
          apply Passes.bind ((passes_inferExpression right one.wellFormed rightTyped).expression
            one.wellFormed)
          rintro rightType s2 ⟨⟨rfl, rfl⟩, two⟩
          unfold expectOperands
          rw [if_neg (by simp [notArithmetic])]
          apply Passes.step (accepts_of_matches agree)
          exact .pure ⟨rfl, rfl⟩
  | record type fields span =>
      cases typed with
      | @record _ _ _ _ _ _ declared record declaredFields known isRecord fieldsTyped =>
          rw [inferExpression]
          have certain : ∀ other, state.scope.types type.name = some other →
              state.types.isError other = false := by
            intro other found
            cases known.symm.trans found
            exact isRecord.1.isError_eq
          have count : declaredFields.length = fields.length := by
            simpa using fieldsTyped.length_eq
          have named : (expectRecord type fields.length span).Accepts state _ state :=
            (accepts_expectRecord certain).mpr
              ⟨⟨declared, declaredFields, known, isRecord.fieldsOf?_eq, count, rfl⟩, rfl⟩
          have expected : (declaredFields.map fun field => (field.type, field.name)).map (·.1) =
              declaredFields.map (·.type) := by
            simp [Function.comp_def]
          rw [← expected] at fieldsTyped
          rcases passes_checkInitializers fields wellFormed fieldsTyped with ⟨_, s1, checked, rfl⟩
          exact ⟨_, s1, accepts_bind.mpr ⟨_, _, named, accepts_bind.mpr
            ⟨_, _, checked, accepts_pure.mpr ⟨rfl, rfl⟩⟩⟩, isRecord.1.representative_eq, rfl⟩
  | array type size initial span =>
      cases typed with
      | array sizeTyped isInteger initialTyped known isArray agree =>
          rw [inferExpression]
          apply (passes_inferExpression size wellFormed sizeTyped).number wellFormed isInteger
          rintro s1 rfl one
          rw [← one.scope] at initialTyped known
          apply Passes.bind ((passes_inferExpression initial one.wellFormed initialTyped).expression
            one.wellFormed)
          rintro initialType s2 ⟨⟨rfl, rfl⟩, two⟩
          rw [← two.scope] at known
          have certain : ∀ other, s2.scope.types type.name = some other →
              s2.types.isError other = false := by
            intro other found
            cases known.symm.trans found
            exact isArray.1.isError_eq
          exact ⟨_, s2, (accepts_expectArray certain).mpr
            ⟨⟨_, _, known, isArray.elementOf?_eq, agree.compatible, rfl⟩, rfl⟩,
            isArray.1.representative_eq, rfl⟩
  | sequence members span =>
      cases typed with
      | sequence membersTyped =>
          rw [inferExpression]
          exact passes_inferSequence members wellFormed membersTyped
  | assign target value span =>
      cases typed with
      | assign targetTyped valueTyped agree =>
          rw [inferExpression]
          apply Passes.bind ((passes_inferPlace target wellFormed targetTyped).place wellFormed)
          rintro targetType s1 ⟨⟨rfl, rfl⟩, one⟩
          rw [← one.scope] at valueTyped
          apply Passes.bind ((passes_inferExpression value one.wellFormed valueTyped).expression
            one.wellFormed)
          rintro valueType s2 ⟨⟨rfl, rfl⟩, two⟩
          apply Passes.step (accepts_of_matches agree)
          exact .pure ⟨rfl, rfl⟩
  | ifThen test body span =>
      cases typed with
      | ifThen testTyped isInteger bodyTyped =>
          rw [inferExpression]
          apply (passes_inferExpression test wellFormed testTyped).number wellFormed isInteger
          rintro s1 rfl one
          rw [← one.scope] at bodyTyped
          apply Passes.bind (passes_inferExpression body one.wellFormed bodyTyped)
          rintro bodyType s2 ⟨rfl, rfl⟩
          exact .pure ⟨rfl, rfl⟩
  | whileLoop test body span =>
      cases typed with
      | whileLoop testTyped isInteger bodyTyped =>
          rw [inferExpression]
          apply (passes_inferExpression test wellFormed testTyped).number wellFormed isInteger
          rintro s1 rfl one
          rw [← one.scope] at bodyTyped
          apply Passes.bind (passes_inferExpression body one.wellFormed bodyTyped)
          rintro bodyType s2 ⟨rfl, rfl⟩
          exact .pure ⟨rfl, rfl⟩
  | ifThenElse test positive negative span =>
      cases typed with
      | ifThenElse testTyped isInteger positiveTyped negativeTyped agree joins =>
          rw [inferExpression]
          apply (passes_inferExpression test wellFormed testTyped).number wellFormed isInteger
          rintro s1 rfl one
          rw [← one.scope] at positiveTyped negativeTyped
          apply Passes.bind ((passes_inferExpression positive one.wellFormed
            positiveTyped).expression one.wellFormed)
          rintro positiveType s2 ⟨⟨rfl, rfl⟩, two⟩
          rw [← two.scope] at negativeTyped
          apply Passes.bind (passes_inferExpression negative two.wellFormed negativeTyped)
          rintro negativeType s3 ⟨rfl, rfl⟩
          exact ⟨type, s3, accepts_joinBranches.mpr ⟨⟨agree.compatible, joins.eq⟩, rfl⟩, rfl, rfl⟩
  | forLoop counter low high body span =>
      cases typed with
      | @forLoop _ _ _ _ _ _ _ _ _ _ _ _ bodyType lowTyped lowInteger highTyped highInteger
          bodyTyped =>
          rw [inferExpression]
          apply (passes_inferExpression low wellFormed lowTyped).number wellFormed lowInteger
          rintro s1 rfl one
          rw [← one.scope] at highTyped bodyTyped
          apply (passes_inferExpression high one.wellFormed highTyped).number one.wellFormed
            highInteger
          rintro s2 rfl two
          rw [← two.scope] at bodyTyped
          apply Passes.update
          have inside := two.wellFormed.openValues
          apply Passes.bind (inside.bindVariable (inside.types.holds_of_lt (by decide)))
          rintro _ s3 ⟨bound, wellFormedInside⟩
          have placed : Typed s3.types s3.scope body bodyType later := by
            rw [bound.types, bound.scope]
            exact bodyTyped
          apply Passes.bind (passes_inferExpression body wellFormedInside placed)
          rintro _ s4 ⟨rfl, rfl⟩
          apply Passes.update
          exact .pure ⟨rfl, rfl⟩
  | block declarations body span =>
      cases typed with
      | block declared bodyTyped =>
          rw [inferExpression]
          apply Passes.update
          apply Passes.update
          apply Passes.emit rfl
          apply Passes.bind (passes_makeDeclarations declarations wellFormed.openBlock declared)
          rintro _ s1 ⟨⟨rfl, rfl⟩, wellFormedInside⟩
          apply Passes.bind (passes_inferExpression body wellFormedInside bodyTyped)
          rintro bodyType s2 ⟨rfl, rfl⟩
          apply Passes.step (accepts_state.mpr ⟨rfl, rfl⟩)
          apply Passes.emit rfl
          apply Passes.update
          apply Passes.update
          exact .pure ⟨rfl, rfl⟩
termination_by structural expression

theorem passes_checkArguments (arguments : List Expression) {expected : Expectations}
    {state : State} {later : Types} (wellFormed : state.WellFormed)
    (typed : ListTyped state.types state.scope arguments (expected.map (·.1)) later) :
    (checkArguments arguments expected).Passes state fun _ reached => reached.types = later := by
  match arguments, expected with
  | [], _ => exact .pure typed.types_eq.symm
  | argument :: rest, [] => cases typed
  | argument :: rest, (expected, name) :: others =>
      cases typed with
      | cons argumentTyped agree restTyped =>
          rw [checkArguments]
          apply Passes.bind ((passes_inferExpression argument wellFormed argumentTyped).expression
            wellFormed)
          rintro type s1 ⟨⟨rfl, rfl⟩, one⟩
          apply Passes.step (accepts_of_matches agree)
          rw [← one.scope] at restTyped
          exact passes_checkArguments rest one.wellFormed restTyped
termination_by structural arguments

theorem passes_checkInitializers (initializers : List Initializer) {expected : Expectations}
    {state : State} {later : Types} (wellFormed : state.WellFormed)
    (typed : ListTyped state.types state.scope (initializers.map (·.value)) (expected.map (·.1))
      later) :
    (checkInitializers initializers expected).Passes state
      fun _ reached => reached.types = later := by
  match initializers, expected with
  | [], _ => exact .pure typed.types_eq.symm
  | ⟨_, value, _⟩ :: rest, [] => cases typed
  | ⟨_, value, _⟩ :: rest, (expected, name) :: others =>
      cases typed with
      | cons valueTyped agree restTyped =>
          rw [checkInitializers]
          apply Passes.bind ((passes_inferExpression value wellFormed valueTyped).expression
            wellFormed)
          rintro type s1 ⟨⟨rfl, rfl⟩, one⟩
          apply Passes.step (accepts_of_matches agree)
          rw [← one.scope] at restTyped
          exact passes_checkInitializers rest one.wellFormed restTyped
termination_by structural initializers

theorem passes_inferSequence (members : List Expression) {last type : TypeId} {state : State}
    {later : Types} (wellFormed : state.WellFormed)
    (typed : SequenceTyped state.types state.scope members last type later) :
    (inferSequence members last).Passes state fun answer reached =>
      answer = type ∧ reached.types = later := by
  cases members with
  | nil =>
      cases typed
      exact .pure ⟨rfl, rfl⟩
  | cons member rest =>
      cases typed with
      | cons memberTyped restTyped =>
          rw [inferSequence]
          apply Passes.bind ((passes_inferExpression member wellFormed memberTyped).expression
            wellFormed)
          rintro type s1 ⟨⟨rfl, rfl⟩, one⟩
          rw [← one.scope] at restTyped
          exact passes_inferSequence rest one.wellFormed restTyped
termination_by structural members

theorem passes_makeDeclaration (declaration : Declaration) {state : State} {later : Types}
    {inner : Scope} (wellFormed : state.WellFormed)
    (declared : Declared state.types state.scope declaration later inner) :
    (makeDeclaration declaration).Passes state fun _ reached =>
      reached.types = later ∧ reached.scope = inner := by
  match declaration with
  | .variable name none initial span =>
      cases declared with
      | «variable» initialTyped storable =>
          rw [makeDeclaration]
          apply Passes.bind ((passes_inferExpression initial wellFormed initialTyped).expression
            wellFormed)
          rintro initialType s1 ⟨⟨rfl, rfl⟩, one⟩
          apply Passes.step (accepts_of_isStorable storable)
          rcases passes_bindVariable _ name.name _ with ⟨answer, reached, accepted, bound⟩
          exact ⟨answer, reached, accepted, bound.types, by rw [bound.scope, one.scope]⟩
  | .variable name (some ascribed) initial span =>
      cases declared with
      | ascribed initialTyped known agree =>
          rw [makeDeclaration]
          apply Passes.bind ((passes_inferExpression initial wellFormed initialTyped).expression
            wellFormed)
          rintro initialType s1 ⟨⟨rfl, rfl⟩, one⟩
          rw [← one.scope] at known
          apply Passes.step (accepts_of_ascribed known agree)
          rcases passes_bindVariable _ name.name _ with ⟨answer, reached, accepted, bound⟩
          exact ⟨answer, reached, accepted, bound.types, by rw [bound.scope, one.scope]⟩
  | .functions members span =>
      cases declared with
      | functions headings bodies =>
          rw [makeDeclaration]
          apply Passes.emit rfl
          apply Passes.bind (wellFormed.functions headings)
          rintro headers s1 ⟨⟨rfl, rescoped⟩, wellFormedInside, held⟩
          rw [← rescoped.scope, ← rescoped.types] at bodies
          rcases passes_checkBodies members wellFormedInside held bodies with
            ⟨answer, reached, accepted, rfl⟩
          have balanced := (balanced_checkBodies members headers).scope_eq accepted
          exact ⟨answer, reached, accepted, rfl, balanced.trans rescoped.scope⟩
  | .types members span =>
      cases declared with
      | types filled grounded =>
          rw [makeDeclaration]
          exact passes_makeTypes filled grounded
termination_by structural declaration

theorem passes_makeDeclarations (declarations : List Declaration) {state : State} {later : Types}
    {inner : Scope} (wellFormed : state.WellFormed)
    (declared : AllDeclared state.types state.scope declarations later inner) :
    (makeDeclarations declarations).Passes state fun _ reached =>
      (reached.types = later ∧ reached.scope = inner) ∧ reached.WellFormed := by
  cases declarations with
  | nil =>
      cases declared
      exact .pure ⟨⟨rfl, rfl⟩, wellFormed⟩
  | cons declaration rest =>
      cases declared with
      | cons first others =>
          rw [makeDeclarations]
          apply Passes.bind ((passes_makeDeclaration declaration wellFormed first).declaration
            wellFormed)
          rintro _ s1 ⟨⟨rfl, rfl⟩, wellFormedOn⟩
          exact passes_makeDeclarations rest wellFormedOn others
termination_by structural declarations

theorem passes_checkBodies (members : List FunctionDeclaration) {headers : List FunctionHeader}
    {state : State} {later : Types} (wellFormed : state.WellFormed)
    (held : ∀ header ∈ headers, ∀ type ∈ header.parameters, state.types.Holds type)
    (typed : BodiesTyped state.types state.scope members (headers.map (·.signature)) later) :
    (checkBodies members headers).Passes state fun _ reached => reached.types = later := by
  match members, headers with
  | [], [] =>
      cases typed
      exact .pure rfl
  | [], header :: headers => cases typed
  | ⟨name, parameters, result, body, span⟩ :: rest, [] => cases typed
  | ⟨name, parameters, result, body, span⟩ :: rest, header :: headers =>
      cases typed with
      | @cons _ next _ _ _ _ _ _ _ _ _ _ type bodyTyped agree restTyped =>
          rcases List.forall_mem_cons.mp held with ⟨parametersHeld, othersHeld⟩
          have member : (checkBodies [⟨name, parameters, result, body, span⟩] [header]).Passes state
              fun _ reached => reached.types = next := by
            rw [checkBodies]
            apply Passes.update
            apply Passes.step (accepts_frame.mpr ⟨rfl, rfl⟩)
            apply Passes.update
            have inside : ({ state.openValues with frame := header.frame } : State).WellFormed :=
              ⟨wellFormed.types, wellFormed.typeNames, wellFormed.valueNames.openScope⟩
            apply Passes.bind (inside.bindParameters parameters parametersHeld)
            rintro _ s1 ⟨bound, wellFormedInside⟩
            have placed : Typed s1.types s1.scope body type next := by
              rw [bound.types, bound.scope]
              exact bodyTyped
            apply Passes.bind (passes_inferExpression body wellFormedInside placed)
            rintro bodyType s2 ⟨rfl, rfl⟩
            apply Passes.step (accepts_of_matches agree)
            apply Passes.update
            apply Passes.update
            exact .pure rfl
          rw [checkBodies_cons]
          apply Passes.bind (member.settled wellFormed (balanced_checkBodies _ _)
            (Discipline.keeps_checkBodies Discipline.wellFormed_lawful _ _ _
              (List.forall_mem_singleton.mpr parametersHeld)))
          rintro _ s1 ⟨rfl, one⟩
          rw [← one.scope] at restTyped
          exact passes_checkBodies rest one.wellFormed
            (fun other listed type parameter => one.grows (othersHeld other listed type parameter))
            restTyped
termination_by structural members

end

end Check
end StaticSemantics
