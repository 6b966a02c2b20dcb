import StaticSemantics.Proofs.Typing.Declarations

namespace StaticSemantics

/-!
# What is accepted is well typed

The error type lets everything pass, so a check that starts where an error type
is in scope may accept what has no type.  A state is clean if there is none.
An accepted check leads from a clean state to a clean one and answers with a
known type, so the rules that let the error type pass are never used.
-/

/-- A number that is taken, and not by the error type. -/
def Types.Known (types : Types) (id : TypeId) : Prop :=
  types.Holds id ∧ id ≠ .error

/-- A well-formed state in which nothing is of the error type. -/
def State.Clean (state : State) : Prop :=
  Discipline.errorFree.Holds ⟨state, []⟩

/-- From a clean state an accepted check leads on, and answers with a type. -/
structure State.Yields (state : State) (type : TypeId) (reached : State) : Prop where
  clean : reached.Clean
  scope : reached.scope = state.scope
  later : ∀ {id}, state.types.Known id → reached.types.Known id
  known : reached.types.Known type

namespace State.Clean

variable {state reached : State} {α : Type} {check : Check α} {answer : α}

theorem holds (clean : state.Clean) : Discipline.errorFree.Holds ⟨state, []⟩ :=
  clean

theorem wellFormed (clean : state.Clean) : state.types.WellFormed :=
  clean.holds.sound.1

theorem errorFree (clean : state.Clean) : state.types.ErrorFree :=
  clean.holds.sound.2 rfl

theorem isError_eq (clean : state.Clean) {id : TypeId} (known : state.types.Known id) :
    state.types.isError id = false :=
  clean.errorFree.isError_eq known.1 known.2

theorem part (clean : state.Clean) (id : TypeId) {part : TypeId}
    (member : part ∈ (state.types.get id).parts) : state.types.Known part :=
  ⟨clean.wellFormed.parts id part member, clean.errorFree.parts id part member⟩

theorem typeNames (clean : state.Clean) : state.typeNames.Fits (· = .type) state.types.Known :=
  clean.holds.typeNames.mono fun _ allowed => ⟨allowed.1, allowed.2 rfl⟩

theorem valueNames (clean : state.Clean) :
    state.valueNames.Fits (· ≠ .type) state.types.Known :=
  clean.holds.valueNames.mono fun _ allowed => ⟨allowed.1, allowed.2 rfl⟩

theorem known_type (clean : state.Clean) {name : String} {id : TypeId}
    (found : state.scope.types name = some id) : state.types.Known id :=
  clean.typeNames.typeOf? found

/-- As long as nothing has been reported, a state is clean. -/
theorem of_quiet {history : History} (holds : Discipline.errorFree.Holds history)
    (quiet : Quiet history.past) : history.state.Clean where
  sound := ⟨holds.sound.1, fun _ => holds.sound.2 quiet⟩
  typeNames := holds.typeNames.mono fun _ allowed => ⟨allowed.1, fun _ => allowed.2 quiet⟩
  valueNames := holds.valueNames.mono fun _ allowed => ⟨allowed.1, fun _ => allowed.2 quiet⟩

/-- What is kept in all histories is kept by an accepted check, and nothing is
reported on the way. -/
theorem step {wanted : History → α → Prop} (clean : state.Clean)
    (accepted : check.Accepts state answer reached)
    (keeps : Discipline.errorFree.Keeps ⟨state, []⟩ check wanted) :
    reached.Clean ∧ (∀ {id}, state.types.Known id → reached.types.Known id) ∧
      ∃ events, Quiet events ∧ wanted ⟨reached, events⟩ answer := by
  rcases accepted with ⟨events, ran, quiet⟩
  rcases keeps clean with ⟨holds, later, answered⟩
  rw [ran] at holds later answered
  refine ⟨.of_quiet holds quiet, ?_, events, quiet, answered _ rfl⟩
  intro id known
  have allowed : Discipline.errorFree.IsNamed ⟨reached, [] ++ events⟩ id :=
    later.named ⟨known.1, fun _ => known.2⟩
  exact ⟨allowed.1, allowed.2 quiet⟩

variable {type : TypeId}

theorem yields {check : Check TypeId} (clean : state.Clean)
    (accepted : check.Accepts state type reached) (balanced : check.Balanced)
    (keeps : Discipline.errorFree.Keeps ⟨state, []⟩ check Discipline.errorFree.IsValue) :
    state.Yields type reached := by
  rcases clean.step accepted keeps with ⟨cleanOn, later, events, quiet, known⟩
  exact ⟨cleanOn, balanced.scope_eq accepted, later, known.1, known.2 quiet⟩

theorem place (clean : state.Clean) {place : Place}
    (accepted : (Check.inferPlace place).Accepts state type reached) : state.Yields type reached :=
  clean.yields accepted (Check.balanced_inferPlace place)
    (Discipline.keeps_inferPlace Discipline.errorFree_lawful place _)

theorem expression (clean : state.Clean) {expression : Expression}
    (accepted : (Check.inferExpression expression).Accepts state type reached) :
    state.Yields type reached :=
  clean.yields accepted (Check.balanced_inferExpression expression)
    (Discipline.keeps_inferExpression Discipline.errorFree_lawful expression _)

theorem integer (clean : state.Clean) {id : TypeId} (known : state.types.Known id)
    (isInteger : state.types.isInteger id = true) : state.types.IsInteger id :=
  clean.wellFormed.isInteger_of_known (clean.isError_eq known) isInteger

/-- An accepted expression that has to be an integer, and what is accepted
after it. -/
theorem number (clean : state.Clean) {expression : Expression} {span : Span}
    (accepted : (do
      let type ← Check.inferExpression expression
      Check.expectInteger type span none
      check).Accepts state answer reached) :
    ∃ type middle, (Check.inferExpression expression).Accepts state type middle ∧
      state.Yields type middle ∧ middle.types.IsInteger type ∧
      check.Accepts middle answer reached := by
  rcases Check.accepts_bind.mp accepted with ⟨type, middle, inferred, comparedNext⟩
  rcases Check.accepts_bind.mp comparedNext with ⟨_, _, compared, following⟩
  have one := clean.expression inferred
  rcases (Check.accepts_expectInteger one.clean.wellFormed).mp compared with ⟨isInteger, rfl⟩
  exact ⟨type, _, inferred, one, one.clean.integer one.known isInteger, following⟩

theorem agree (clean : state.Clean) {first second : TypeId}
    (firstKnown : state.types.Known first) (secondKnown : state.types.Known second)
    (compatible : state.types.compatible first second = true) :
    state.types.Matches first second :=
  clean.wellFormed.matches_of_compatible (clean.isError_eq firstKnown)
    (clean.isError_eq secondKnown) compatible

/-- The types of a function are known. -/
theorem known_function (clean : state.Clean) {name : String} {signature : Signature}
    (found : state.scope.values name = some (.function signature)) :
    state.types.Known signature.result ∧ ∀ type ∈ signature.parameters, state.types.Known type := by
  rcases State.scope_function_iff.mp found with ⟨entry, bound, rfl⟩
  have parts := (clean.valueNames.newest? (Environment.lookUpFunction_eq_ok_iff.mp bound)).2
  exact ⟨parts _ List.mem_cons_self, fun type member => parts type (List.mem_cons_of_mem _ member)⟩

theorem known_int (clean : state.Clean) : state.types.Known .int :=
  ⟨clean.wellFormed.holds_of_lt (by decide), nofun⟩

theorem openValues (clean : state.Clean) : state.openValues.Clean :=
  ⟨clean.holds.sound, clean.holds.typeNames, clean.holds.valueNames.openScope⟩

theorem openBlock (clean : state.Clean) : state.openBlock.Clean :=
  ⟨clean.holds.sound, clean.holds.typeNames.openScope, clean.holds.valueNames.openScope⟩

theorem withFrame (clean : state.Clean) (frame : Frame) : { state with frame }.Clean :=
  ⟨clean.holds.sound, clean.holds.typeNames, clean.holds.valueNames⟩

theorem bindVariable (clean : state.Clean) {name : String} (known : state.types.Known type)
    {answer : Unit} (accepted : (Check.bindVariable name type).Accepts state answer reached) :
    reached.Clean :=
  (clean.step accepted (Discipline.keeps_bindVariable Discipline.errorFree_lawful name
    ⟨known.1, fun _ => known.2⟩)).1

theorem bindParameters (clean : state.Clean) {parameters : List TypedName} {types : List TypeId}
    (known : ∀ type ∈ types, state.types.Known type) {answer : Unit}
    (accepted : (Check.bindParameters parameters types).Accepts state answer reached) :
    reached.Clean :=
  (clean.step accepted (Discipline.keeps_bindParameters Discipline.errorFree_lawful parameters types
    fun type member => ⟨(known type member).1, fun _ => (known type member).2⟩)).1

theorem declaration (clean : state.Clean) {declaration : Declaration} {answer : Unit}
    (accepted : (Check.makeDeclaration declaration).Accepts state answer reached) :
    reached.Clean :=
  (clean.step accepted
    (Discipline.keeps_makeDeclaration Discipline.errorFree_lawful declaration _)).1

theorem declarations (clean : state.Clean) {declarations : List Declaration} {answer : Unit}
    (accepted : (Check.makeDeclarations declarations).Accepts state answer reached) :
    reached.Clean :=
  (clean.step accepted
    (Discipline.keeps_makeDeclarations Discipline.errorFree_lawful declarations _)).1

theorem functions (clean : state.Clean) {members : List FunctionDeclaration}
    {headers : List Check.FunctionHeader}
    (accepted : (members.mapM Check.announceFunction).Accepts state headers reached) :
    reached.Clean :=
  (clean.step accepted (Discipline.keeps_announceFunctions Discipline.errorFree_lawful members)).1

theorem bodies (clean : state.Clean) {members : List FunctionDeclaration}
    {headers : List Check.FunctionHeader}
    (known : ∀ header ∈ headers, ∀ type ∈ header.parameters, state.types.Known type) {answer : Unit}
    (accepted : (Check.checkBodies members headers).Accepts state answer reached) :
    reached.Clean :=
  (clean.step accepted (Discipline.keeps_checkBodies Discipline.errorFree_lawful members headers _
    fun header listed type member => ⟨(known header listed type member).1,
      fun _ => (known header listed type member).2⟩)).1

/-- So are the types in the heading of one. -/
theorem known_heading (clean : state.Clean) {member : FunctionDeclaration} {signature : Signature}
    (heading : member.HasSignature state.scope signature) :
    state.types.Known signature.result ∧ ∀ type ∈ signature.parameters, state.types.Known type := by
  constructor
  · have result := heading.result
    split at result
    · exact clean.known_type result
    · rw [result]
      exact ⟨clean.wellFormed.holds_of_lt (by decide), nofun⟩
  · have named := heading.parameters
    generalize member.parameters = written, signature.parameters = types at named
    induction named with
    | nil => simp
    | cons first others inductionHypothesis =>
        exact List.forall_mem_cons.mpr ⟨clean.known_type first, inductionHypothesis⟩

end State.Clean

namespace Check

theorem listTyped_nil {types : Types} {scope : Scope} {expected : Expectations}
    (none : expected.length = 0) : ListTyped types scope [] (expected.map (·.1)) types := by
  rw [List.length_eq_zero_iff.mp none]
  exact .nil

mutual

theorem placeTyped_of_accepts (place : Place) {state reached : State} {type : TypeId}
    (clean : state.Clean) (accepted : (inferPlace place).Accepts state type reached) :
    PlaceTyped state.types state.scope place type reached.types := by
  cases place with
  | name name span =>
      rw [inferPlace] at accepted
      rcases accepts_variableNamed.mp accepted with ⟨bound, rfl⟩
      exact .name bound
  | field base field span =>
      rw [inferPlace] at accepted
      rcases accepts_bind.mp accepted with ⟨baseType, s1, baseAccepted, selected⟩
      have typed := placeTyped_of_accepts base clean baseAccepted
      have one := clean.place baseAccepted
      rcases (accepts_selectField (one.clean.isError_eq one.known)).mp selected with
        ⟨⟨fields, found, record, first, rfl⟩, rfl⟩
      exact .field typed (one.clean.wellFormed.isRecord_of_fieldsOf? record) first
  | element base index span =>
      rw [inferPlace] at accepted
      rcases accepts_bind.mp accepted with ⟨baseType, s1, baseAccepted, indexNext⟩
      have typed := placeTyped_of_accepts base clean baseAccepted
      have one := clean.place baseAccepted
      rcases one.clean.number indexNext with
        ⟨indexType, s2, indexAccepted, two, isInteger, selected⟩
      have indexTyped := typed_of_accepts index one.clean indexAccepted
      rcases (accepts_selectElement (two.clean.isError_eq (two.later one.known))).mp selected with
        ⟨array, rfl⟩
      rw [one.scope] at indexTyped
      exact .element typed indexTyped isInteger (two.clean.wellFormed.isArray_of_elementOf? array)
termination_by structural place

theorem typed_of_accepts (expression : Expression) {state reached : State} {type : TypeId}
    (clean : state.Clean) (accepted : (inferExpression expression).Accepts state type reached) :
    Typed state.types state.scope expression type reached.types := by
  cases expression with
  | nil span =>
      rcases accepts_pure.mp accepted with ⟨rfl, rfl⟩
      exact .nil
  | integer value span =>
      rcases accepts_pure.mp accepted with ⟨rfl, rfl⟩
      exact .integer
  | string value span =>
      rcases accepts_pure.mp accepted with ⟨rfl, rfl⟩
      exact .string
  | breakLoop span =>
      rcases accepts_pure.mp accepted with ⟨rfl, rfl⟩
      exact .breakLoop
  | malformed span => exact absurd accepted not_accepts_abort
  | place place span =>
      rw [inferExpression] at accepted
      exact .place (placeTyped_of_accepts place clean accepted)
  | call function arguments span =>
      rw [inferExpression] at accepted
      rcases accepts_bind.mp accepted with ⟨⟨expected, result⟩, s1, called, argumentsNext⟩
      rcases accepts_bind.mp argumentsNext with ⟨_, s2, checked, done⟩
      rcases accepts_pure.mp done with ⟨rfl, rfl⟩
      rcases accepts_expectCall.mp called with ⟨⟨signature, bound, fits, same⟩, rfl⟩
      rcases Prod.mk.inj same with ⟨rfl, rfl⟩
      have known : ∀ pair ∈ signature.parameters.map fun type => (type, function.name),
          s1.types.Known pair.1 := by
        simpa using (clean.known_function bound).2
      have typed := listTyped_of_checkArguments arguments clean known (by simpa using fits) checked
      have parameters : (signature.parameters.map fun type => (type, function.name)).map (·.1) =
          signature.parameters := by
        simp [Function.comp_def]
      rw [parameters] at typed
      exact .call bound typed
  | binary operator left right span =>
      rw [inferExpression] at accepted
      rcases accepts_bind.mp accepted with ⟨leftType, s1, leftAccepted, rightNext⟩
      rcases accepts_bind.mp rightNext with ⟨rightType, s2, rightAccepted, operandsNext⟩
      rcases accepts_bind.mp operandsNext with ⟨_, s3, operands, done⟩
      rcases accepts_pure.mp done with ⟨rfl, rfl⟩
      have leftTyped := typed_of_accepts left clean leftAccepted
      have one := clean.expression leftAccepted
      have rightTyped := typed_of_accepts right one.clean rightAccepted
      have two := one.clean.expression rightAccepted
      rw [one.scope] at rightTyped
      rcases (accepts_expectOperands two.clean.wellFormed).mp operands with ⟨fits, rfl⟩
      by_cases arithmetic : operator.isArithmetic = true
      · rw [if_pos arithmetic] at fits
        exact .arithmetic arithmetic leftTyped rightTyped
          (two.clean.integer (two.later one.known) fits.1) (two.clean.integer two.known fits.2)
      · rw [if_neg arithmetic] at fits
        exact .comparison (eq_false_of_ne_true arithmetic) leftTyped rightTyped
          (two.clean.agree (two.later one.known) two.known fits)
  | record type fields span =>
      rw [inferExpression] at accepted
      rcases accepts_bind.mp accepted with ⟨⟨expected, result⟩, s1, named, initializersNext⟩
      rcases accepts_bind.mp initializersNext with ⟨_, s2, checked, done⟩
      rcases accepts_pure.mp done with ⟨rfl, rfl⟩
      rcases (accepts_expectRecord fun declared bound =>
        clean.isError_eq (clean.known_type bound)).mp named with
        ⟨⟨declared, declaredFields, bound, record, fits, same⟩, rfl⟩
      rcases Prod.mk.inj same with ⟨rfl, rfl⟩
      have isRecord := clean.wellFormed.isRecord_of_fieldsOf? record
      have known : ∀ pair ∈ declaredFields.map fun field => (field.type, field.name),
          s1.types.Known pair.1 := by
        intro pair member
        rcases List.mem_map.mp member with ⟨field, listed, rfl⟩
        refine clean.part (s1.types.representative declared) ?_
        rw [isRecord.2]
        exact List.mem_map_of_mem listed
      have typed := listTyped_of_checkInitializers fields clean known (by simpa using fits) checked
      rw [List.map_map] at typed
      exact .record bound isRecord typed
  | array type size initial span =>
      rw [inferExpression] at accepted
      rcases clean.number accepted with
        ⟨sizeType, s1, sizeAccepted, one, isInteger, initialNext⟩
      rcases accepts_bind.mp initialNext with ⟨initialType, s2, initialAccepted, made⟩
      have sizeTyped := typed_of_accepts size clean sizeAccepted
      have initialTyped := typed_of_accepts initial one.clean initialAccepted
      have two := one.clean.expression initialAccepted
      rcases (accepts_expectArray fun declared bound =>
        two.clean.isError_eq (two.clean.known_type bound)).mp made with
        ⟨⟨declared, element, bound, array, compatible, rfl⟩, rfl⟩
      have isArray := two.clean.wellFormed.isArray_of_elementOf? array
      have known : reached.types.Known element := by
        refine two.clean.part (reached.types.representative declared) ?_
        rw [isArray.2]
        exact List.mem_singleton_self element
      rw [one.scope] at initialTyped
      rw [two.scope, one.scope] at bound
      exact .array sizeTyped isInteger initialTyped bound isArray
        (two.clean.agree known two.known compatible)
  | sequence members span =>
      rw [inferExpression] at accepted
      exact .sequence (sequenceTyped_of_accepts members clean accepted)
  | assign target value span =>
      rw [inferExpression] at accepted
      rcases accepts_bind.mp accepted with ⟨targetType, s1, targetAccepted, valueNext⟩
      rcases accepts_bind.mp valueNext with ⟨valueType, s2, valueAccepted, comparedNext⟩
      rcases accepts_bind.mp comparedNext with ⟨_, s3, compared, done⟩
      rcases accepts_pure.mp done with ⟨rfl, rfl⟩
      have targetTyped := placeTyped_of_accepts target clean targetAccepted
      have one := clean.place targetAccepted
      have valueTyped := typed_of_accepts value one.clean valueAccepted
      have two := one.clean.expression valueAccepted
      rcases accepts_expectCompatible.mp compared with ⟨compatible, rfl⟩
      rw [one.scope] at valueTyped
      exact .assign targetTyped valueTyped
        (two.clean.agree (two.later one.known) two.known compatible)
  | ifThen test body span =>
      rw [inferExpression] at accepted
      rcases clean.number accepted with ⟨testType, s1, testAccepted, one, isInteger, bodyNext⟩
      rcases accepts_bind.mp bodyNext with ⟨bodyType, s2, bodyAccepted, done⟩
      rcases accepts_pure.mp done with ⟨rfl, rfl⟩
      have testTyped := typed_of_accepts test clean testAccepted
      have bodyTyped := typed_of_accepts body one.clean bodyAccepted
      rw [one.scope] at bodyTyped
      exact .ifThen testTyped isInteger bodyTyped
  | whileLoop test body span =>
      rw [inferExpression] at accepted
      rcases clean.number accepted with ⟨testType, s1, testAccepted, one, isInteger, bodyNext⟩
      rcases accepts_bind.mp bodyNext with ⟨bodyType, s2, bodyAccepted, done⟩
      rcases accepts_pure.mp done with ⟨rfl, rfl⟩
      have testTyped := typed_of_accepts test clean testAccepted
      have bodyTyped := typed_of_accepts body one.clean bodyAccepted
      rw [one.scope] at bodyTyped
      exact .whileLoop testTyped isInteger bodyTyped
  | ifThenElse test positive negative span =>
      rw [inferExpression] at accepted
      rcases clean.number accepted with
        ⟨testType, s1, testAccepted, one, isInteger, positiveNext⟩
      rcases accepts_bind.mp positiveNext with ⟨positiveType, s2, positiveAccepted, negativeNext⟩
      rcases accepts_bind.mp negativeNext with ⟨negativeType, s3, negativeAccepted, joined⟩
      have testTyped := typed_of_accepts test clean testAccepted
      have positiveTyped := typed_of_accepts positive one.clean positiveAccepted
      have two := one.clean.expression positiveAccepted
      have negativeTyped := typed_of_accepts negative two.clean negativeAccepted
      have three := two.clean.expression negativeAccepted
      rcases accepts_joinBranches.mp joined with ⟨⟨compatible, rfl⟩, rfl⟩
      have positiveKnown := three.later two.known
      rw [one.scope] at positiveTyped
      rw [two.scope, one.scope] at negativeTyped
      exact .ifThenElse testTyped isInteger positiveTyped negativeTyped
        (three.clean.agree positiveKnown three.known compatible)
        (three.clean.wellFormed.joins_of_known negativeType (three.clean.isError_eq positiveKnown))
  | forLoop counter low high body span =>
      rw [inferExpression] at accepted
      rcases clean.number accepted with ⟨lowType, s1, lowAccepted, one, lowInteger, highNext⟩
      rcases one.clean.number highNext with
        ⟨highType, s2, highAccepted, two, highInteger, openedNext⟩
      rcases accepts_bind.mp openedNext with ⟨_, s3, opened, boundNext⟩
      rcases accepts_bind.mp boundNext with ⟨_, s4, bound, bodyNext⟩
      rcases accepts_bind.mp bodyNext with ⟨bodyType, s5, bodyAccepted, closedNext⟩
      rcases accepts_bind.mp closedNext with ⟨_, s6, closed, done⟩
      rcases accepts_pure.mp done with ⟨rfl, rfl⟩
      have lowTyped := typed_of_accepts low clean lowAccepted
      have highTyped := typed_of_accepts high one.clean highAccepted
      have inside := two.clean.openValues
      rcases accepts_openValueScope.mp opened with rfl
      have rescoped := (passes_bindVariable _ counter.name .int).holds bound
      have within := inside.bindVariable inside.known_int bound
      have bodyTyped := typed_of_accepts body within bodyAccepted
      rcases accepts_update.mp closed with rfl
      rw [rescoped.types, rescoped.scope, State.scope_openValues, two.scope, one.scope] at bodyTyped
      rw [one.scope] at highTyped
      exact .forLoop lowTyped lowInteger highTyped highInteger bodyTyped
  | block declarations body span =>
      rw [inferExpression] at accepted
      rcases accepts_bind.mp accepted with ⟨_, s1, typesOpened, valuesNext⟩
      rcases accepts_bind.mp valuesNext with ⟨_, s2, valuesOpened, emittedNext⟩
      rcases accepts_bind.mp emittedNext with ⟨_, s3, emitted, declaredNext⟩
      rcases accepts_bind.mp declaredNext with ⟨_, s4, declaredAccepted, bodyNext⟩
      rcases accepts_bind.mp bodyNext with ⟨bodyType, s5, bodyAccepted, seenNext⟩
      rcases accepts_bind.mp (accepts_seeing_state.mp seenNext) with ⟨_, s6, listed, closedNext⟩
      rcases accepts_bind.mp closedNext with ⟨_, s7, valuesClosed, typesNext⟩
      rcases accepts_bind.mp typesNext with ⟨_, s8, typesClosed, done⟩
      rcases accepts_pure.mp done with ⟨rfl, rfl⟩
      rcases accepts_update.mp typesOpened with rfl
      rcases accepts_update.mp valuesOpened with rfl
      rcases (accepts_emit rfl).mp emitted with rfl
      have declared := allDeclared_of_accepts declarations clean.openBlock declaredAccepted
      have within := clean.openBlock.declarations declaredAccepted
      have typed := typed_of_accepts body within bodyAccepted
      rcases (accepts_emit rfl).mp listed with rfl
      rcases accepts_update.mp valuesClosed with rfl
      rcases accepts_update.mp typesClosed with rfl
      exact .block declared typed
termination_by structural expression

theorem listTyped_of_checkArguments (arguments : List Expression) {expected : Expectations}
    {state reached : State} {answer : Unit} (clean : state.Clean)
    (known : ∀ pair ∈ expected, state.types.Known pair.1)
    (fits : expected.length = arguments.length)
    (accepted : (checkArguments arguments expected).Accepts state answer reached) :
    ListTyped state.types state.scope arguments (expected.map (·.1)) reached.types := by
  match arguments, expected with
  | [], expected =>
      rcases accepts_pure.mp accepted with ⟨_, rfl⟩
      exact listTyped_nil fits
  | argument :: rest, (expected, name) :: others =>
      rw [checkArguments] at accepted
      rcases accepts_bind.mp accepted with ⟨type, s1, argumentAccepted, comparedNext⟩
      rcases accepts_bind.mp comparedNext with ⟨_, s2, compared, restAccepted⟩
      have typed := typed_of_accepts argument clean argumentAccepted
      have one := clean.expression argumentAccepted
      rcases accepts_expectNext.mp compared with ⟨compatible, rfl⟩
      rcases List.forall_mem_cons.mp known with ⟨firstKnown, othersKnown⟩
      have restTyped := listTyped_of_checkArguments rest one.clean
        (fun pair member => one.later (othersKnown pair member)) (Nat.succ.inj fits) restAccepted
      rw [one.scope] at restTyped
      exact .cons typed (one.clean.agree (one.later firstKnown) one.known compatible) restTyped
termination_by structural arguments

theorem listTyped_of_checkInitializers (initializers : List Initializer) {expected : Expectations}
    {state reached : State} {answer : Unit} (clean : state.Clean)
    (known : ∀ pair ∈ expected, state.types.Known pair.1)
    (fits : expected.length = initializers.length)
    (accepted : (checkInitializers initializers expected).Accepts state answer reached) :
    ListTyped state.types state.scope (initializers.map (·.value)) (expected.map (·.1))
      reached.types := by
  match initializers, expected with
  | [], expected =>
      rcases accepts_pure.mp accepted with ⟨_, rfl⟩
      exact listTyped_nil fits
  | ⟨_, value, _⟩ :: rest, (expected, name) :: others =>
      rw [checkInitializers] at accepted
      rcases accepts_bind.mp accepted with ⟨type, s1, valueAccepted, comparedNext⟩
      rcases accepts_bind.mp comparedNext with ⟨_, s2, compared, restAccepted⟩
      have typed := typed_of_accepts value clean valueAccepted
      have one := clean.expression valueAccepted
      rcases accepts_expectNext.mp compared with ⟨compatible, rfl⟩
      rcases List.forall_mem_cons.mp known with ⟨firstKnown, othersKnown⟩
      have restTyped := listTyped_of_checkInitializers rest one.clean
        (fun pair member => one.later (othersKnown pair member)) (Nat.succ.inj fits) restAccepted
      rw [one.scope] at restTyped
      exact .cons typed (one.clean.agree (one.later firstKnown) one.known compatible) restTyped
termination_by structural initializers

theorem sequenceTyped_of_accepts (members : List Expression) {last type : TypeId}
    {state reached : State} (clean : state.Clean)
    (accepted : (inferSequence members last).Accepts state type reached) :
    SequenceTyped state.types state.scope members last type reached.types := by
  cases members with
  | nil =>
      rcases accepts_pure.mp accepted with ⟨rfl, rfl⟩
      exact .nil
  | cons member rest =>
      rw [inferSequence] at accepted
      rcases accepts_bind.mp accepted with ⟨memberType, s1, memberAccepted, restAccepted⟩
      have typed := typed_of_accepts member clean memberAccepted
      have one := clean.expression memberAccepted
      have restTyped := sequenceTyped_of_accepts rest one.clean restAccepted
      rw [one.scope] at restTyped
      exact .cons typed restTyped
termination_by structural members

theorem declared_of_accepts (declaration : Declaration) {state reached : State} {answer : Unit}
    (clean : state.Clean) (accepted : (makeDeclaration declaration).Accepts state answer reached) :
    Declared state.types state.scope declaration reached.types reached.scope := by
  match declaration with
  | .variable name ascribed initial span =>
      rw [makeDeclaration] at accepted
      rcases accepts_bind.mp accepted with ⟨initialType, s1, initialAccepted, typeNext⟩
      rcases accepts_bind.mp typeNext with ⟨type, s2, chosen, bound⟩
      have typed := typed_of_accepts initial clean initialAccepted
      have one := clean.expression initialAccepted
      have rescoped := (passes_bindVariable _ name.name type).holds bound
      rw [rescoped.types, rescoped.scope]
      cases ascribed with
      | none =>
          rcases accepts_variableType_none.mp chosen with ⟨⟨rfl, notNil, notVoid⟩, rfl⟩
          rw [one.scope]
          have storable := one.clean.wellFormed.isStorable_of_known
            (one.clean.isError_eq one.known) notNil notVoid
          exact .variable typed storable
      | some ascribed =>
          rcases accepts_variableType_some.mp chosen with ⟨⟨found, compatible⟩, rfl⟩
          have agree := one.clean.agree (one.clean.known_type found) one.known compatible
          rw [one.scope] at found ⊢
          exact .ascribed typed found agree
  | .functions members span =>
      rw [makeDeclaration] at accepted
      rcases accepts_bind.mp accepted with ⟨_, s1, emitted, announcedNext⟩
      rcases accepts_bind.mp announcedNext with ⟨headers, s2, announced, bodiesAccepted⟩
      rcases (accepts_emit rfl).mp emitted with rfl
      have headings := hasSignatures_of_accepts announced
      have rescoped := ((passes_announceFunctions headings).holds announced).2
      have names : s2.scope.types = s1.scope.types := by
        rw [rescoped.scope, Scope.types_bindFunctions]
      have bodies := bodiesTyped_of_accepts members (clean.functions announced)
        (headings.imp fun _ _ heading => heading.of_types names) bodiesAccepted
      have balanced := (balanced_checkBodies members headers).scope_eq bodiesAccepted
      rw [rescoped.types, rescoped.scope] at bodies
      rw [balanced, rescoped.scope]
      exact .functions headings bodies
  | .types members span =>
      rw [makeDeclaration] at accepted
      exact declared_of_accepts_makeTypes clean.wellFormed clean.errorFree clean.typeNames accepted
termination_by structural declaration

theorem allDeclared_of_accepts (declarations : List Declaration) {state reached : State}
    {answer : Unit} (clean : state.Clean)
    (accepted : (makeDeclarations declarations).Accepts state answer reached) :
    AllDeclared state.types state.scope declarations reached.types reached.scope := by
  cases declarations with
  | nil =>
      rcases accepts_pure.mp accepted with ⟨_, rfl⟩
      exact .nil
  | cons declaration rest =>
      rw [makeDeclarations] at accepted
      rcases accepts_bind.mp accepted with ⟨_, s1, first, others⟩
      exact .cons (declared_of_accepts declaration clean first)
        (allDeclared_of_accepts rest (clean.declaration first) others)
termination_by structural declarations

theorem bodiesTyped_of_accepts (members : List FunctionDeclaration) {headers : List FunctionHeader}
    {state reached : State} {answer : Unit} (clean : state.Clean)
    (headings : members.Forall₂ (·.HasSignature state.scope) (headers.map (·.signature)))
    (accepted : (checkBodies members headers).Accepts state answer reached) :
    BodiesTyped state.types state.scope members (headers.map (·.signature)) reached.types := by
  match members, headers with
  | [], [] =>
      rcases accepts_pure.mp accepted with ⟨_, rfl⟩
      exact .nil
  | ⟨name, parameters, result, body, span⟩ :: rest, header :: headers =>
      rcases headings with _ | ⟨heading, others⟩
      rw [checkBodies_cons] at accepted
      rcases accepts_bind.mp accepted with ⟨_, s1, member, restAccepted⟩
      rcases clean.known_heading heading with ⟨resultKnown, parametersKnown⟩
      have balanced := (balanced_checkBodies _ _).scope_eq member
      have after : s1.Clean :=
        clean.bodies (List.forall_mem_singleton.mpr parametersKnown) member
      have restTyped := bodiesTyped_of_accepts rest after
        (others.imp fun _ _ known => known.of_types (congrArg Scope.types balanced)) restAccepted
      rw [balanced] at restTyped
      rw [checkBodies] at member
      rcases accepts_bind.mp member with ⟨_, s2, opened, frameNext⟩
      rcases accepts_bind.mp frameNext with ⟨outer, s3, seen, frameSetNext⟩
      rcases accepts_bind.mp frameSetNext with ⟨_, s4, frameSet, boundNext⟩
      rcases accepts_bind.mp boundNext with ⟨_, s5, bound, bodyNext⟩
      rcases accepts_bind.mp bodyNext with ⟨bodyType, s6, bodyAccepted, comparedNext⟩
      rcases accepts_bind.mp comparedNext with ⟨_, s7, compared, frameResetNext⟩
      rcases accepts_bind.mp frameResetNext with ⟨_, s8, frameReset, closedNext⟩
      rcases accepts_bind.mp closedNext with ⟨_, s9, closed, done⟩
      rcases accepts_pure.mp done with ⟨_, rfl⟩
      rcases accepts_update.mp opened with rfl
      rcases accepts_frame.mp seen with ⟨_, rfl⟩
      rcases accepts_update.mp frameSet with rfl
      have inside := clean.openValues.withFrame header.frame
      have rescoped := (passes_bindParameters _ parameters header.parameters).holds bound
      have within := inside.bindParameters parametersKnown bound
      have typed := typed_of_accepts body within bodyAccepted
      have one := within.expression bodyAccepted
      rcases accepts_expectCompatible.mp compared with ⟨compatible, rfl⟩
      rcases accepts_update.mp frameReset with rfl
      rcases accepts_update.mp closed with rfl
      have agree := one.clean.agree (one.later (rescoped.types ▸ resultKnown)) one.known compatible
      rw [rescoped.types, rescoped.scope] at typed
      exact .cons typed agree restTyped
termination_by structural members

end

end Check
end StaticSemantics
