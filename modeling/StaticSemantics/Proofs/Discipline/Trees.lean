import StaticSemantics.Proofs.Discipline.Basic

namespace StaticSemantics
namespace Discipline

/-!
# Checks keep every lawful discipline

First the rules that answer with a type, then the trees.  A rule answers with
the type of a value or with a type for names.  The error type comes up in it
after a report, or where a value is of the error type already; in both cases
the discipline allows it.
-/

open Check

variable {discipline : Discipline} {history : History}

section Rules

variable (lawful : discipline.Lawful)

include lawful

theorem keeps_typeNamed? (name : Ident) :
    discipline.Keeps history (typeNamed? name) fun later answer =>
      match answer with
      | some id => discipline.IsNamed later id
      | none => discipline.IsNamed later .error := by
  apply Keeps.state
  apply Keeps.assume
  intro holds
  split
  · rename_i id found
    apply Keeps.pure
    intro _
    have bound := holds.typeNames.newest? (Environment.lookUpType_eq_ok_iff.mp found)
    exact bound.2 id (List.mem_singleton_self id)
  · apply (keeps_report lawful _ (kind_lookupProblem_notMem _ _)).bind
    intro _ _ _ unknown
    exact .pure fun _ => unknown

theorem keeps_typeNamed (name : Ident) :
    discipline.Keeps history (typeNamed name) discipline.IsNamed := by
  apply (keeps_typeNamed? lawful name).bind
  intro answer later _ named
  apply Keeps.pure
  intro _
  cases answer <;> exact named

theorem keeps_variableNamed (name : Ident) :
    discipline.Keeps history (variableNamed name) discipline.IsValue := by
  apply Keeps.state
  apply Keeps.assume
  intro holds
  split
  · rename_i entry found
    apply Keeps.pure
    intro _
    have bound := holds.valueNames.newest? (Environment.lookUpVariable_eq_ok_iff.mp found)
    exact lawful.value_of_named (bound.2 _ (List.mem_singleton_self _))
  · apply (keeps_report lawful _ (kind_lookupProblem_notMem _ _)).bind
    intro _ later _ _
    exact .pure fun kept => lawful.value_of_named (lawful.named_int kept.sound)

theorem keeps_functionNamed? (name : Ident) :
    discipline.Keeps history (functionNamed? name) fun later answer =>
      match answer with
      | some entry => discipline.IsValue later entry.result
      | none => discipline.IsValue later .error := by
  apply Keeps.state
  apply Keeps.assume
  intro holds
  split
  · rename_i entry found
    apply Keeps.pure
    intro _
    have bound := holds.valueNames.newest? (Environment.lookUpFunction_eq_ok_iff.mp found)
    exact lawful.value_of_named (bound.2 _ List.mem_cons_self)
  · apply (keeps_report lawful _ (kind_lookupProblem_notMem _ _)).bind
    intro _ _ _ unknown
    exact .pure fun _ => lawful.value_of_named unknown

/-- Parts of the type that a value has may be used as types of names. -/
theorem Holds.parts_concrete (holds : discipline.Holds history) {id part : TypeId}
    (value : discipline.IsValue history id)
    (member : part ∈ (history.state.types.concrete id).parts) : discipline.IsNamed history part :=
  lawful.parts holds.sound (lawful.representative holds.sound value) member

theorem Holds.error_of_isError (holds : discipline.Holds history) {id : TypeId}
    (value : discipline.IsValue history id) (unknown : history.state.types.isError id = true) :
    discipline.IsNamed history .error :=
  lawful.unknown holds.sound (lawful.representative holds.sound value)
    (by simpa [Types.isError, Types.concrete] using unknown)

theorem keeps_reportKind (expected : String) (found : TypeId) (span : Span) :
    discipline.Keeps history (reportKind expected found span)
      fun later _ => discipline.IsNamed later .error :=
  Keeps.types (keeps_report lawful span (by simp [Problem.kind]))

theorem keeps_selectField {base : TypeId} (value : discipline.IsValue history base)
    (baseSpan : Span) (field : Ident) :
    discipline.Keeps history (selectField base baseSpan field) discipline.IsValue := by
  apply Keeps.types
  apply Keeps.assume
  intro holds
  by_cases unknown : history.state.types.isError base = true
  · rw [if_pos unknown]
    exact .pure fun _ => lawful.value_of_named (holds.error_of_isError lawful value unknown)
  · rw [if_neg unknown]
    split
    · apply (keeps_reportKind lawful _ _ _).bind
      intro _ _ _ unknown
      exact .pure fun _ => lawful.value_of_named unknown
    · rename_i fields found
      split
      · rename_i selected first
        refine .pure fun _ => lawful.value_of_named (holds.parts_concrete lawful value ?_)
        rw [Types.fieldsOf?_eq_some_iff.mp found]
        exact List.mem_map_of_mem (List.mem_of_find?_eq_some first)
      · apply (keeps_report lawful _ (by simp [Problem.kind])).bind
        intro _ _ _ unknown
        exact .pure fun _ => lawful.value_of_named unknown

theorem keeps_selectElement {base : TypeId} (value : discipline.IsValue history base)
    (baseSpan : Span) :
    discipline.Keeps history (selectElement base baseSpan) discipline.IsValue := by
  apply Keeps.types
  apply Keeps.assume
  intro holds
  by_cases unknown : history.state.types.isError base = true
  · rw [if_pos unknown]
    exact .pure fun _ => lawful.value_of_named (holds.error_of_isError lawful value unknown)
  · rw [if_neg unknown]
    split
    · apply (keeps_reportKind lawful _ _ _).bind
      intro _ _ _ unknown
      exact .pure fun _ => lawful.value_of_named unknown
    · rename_i element found
      refine .pure fun _ => lawful.value_of_named (holds.parts_concrete lawful value ?_)
      rw [Types.elementOf?_eq_some_iff.mp found]
      exact List.mem_singleton_self _

theorem keeps_expectCall (function : Ident) (arguments : Nat) (span : Span) :
    discipline.Keeps history (expectCall function arguments span)
      fun later answer => discipline.IsValue later answer.2 := by
  apply (keeps_functionNamed? lawful function).bind
  intro found next _ value
  cases found with
  | none => exact .pure fun _ => value
  | some entry =>
      by_cases fits : entry.parameters.length = arguments
      · simp only [if_pos fits]
        exact .pure fun _ => value
      · simp only [if_neg fits]
        apply (keeps_report lawful _ (by simp [Problem.kind])).bind
        intro _ _ later _
        exact .pure fun _ => later.value value

theorem keeps_reportSort {declared : TypeId} (value : discipline.IsValue history declared)
    (expected : String) (span : Span) :
    discipline.Keeps history (reportSort expected declared span)
      fun later _ => discipline.IsNamed later .error := by
  apply Keeps.types
  apply Keeps.assume
  intro holds
  by_cases unknown : history.state.types.isError declared = true
  · rw [if_pos unknown]
    exact .pure fun _ => holds.error_of_isError lawful value unknown
  · rw [if_neg unknown]
    exact keeps_reportKind lawful _ _ _

theorem keeps_expectRecord (type : Ident) (fields : Nat) (span : Span) :
    discipline.Keeps history (expectRecord type fields span)
      fun later answer => discipline.IsValue later answer.2 := by
  apply (keeps_typeNamed? lawful type).bind
  intro found next _ named
  cases found with
  | none => exact .pure fun _ => lawful.value_of_named named
  | some declared =>
      have value := lawful.value_of_named named
      apply Keeps.types
      split
      · apply (keeps_reportSort lawful value _ _).bind
        intro _ _ _ unknown
        exact .pure fun _ => lawful.value_of_named unknown
      · rename_i declaredFields _
        by_cases fits : declaredFields.length = fields
        · rw [if_pos fits]
          exact .pure fun holds => lawful.representative holds.sound value
        · rw [if_neg fits]
          apply Keeps.assume
          intro holds
          have record := lawful.representative holds.sound value
          apply (keeps_report lawful _ (by simp [Problem.kind])).bind
          intro _ _ later _
          exact .pure fun _ => later.value record

theorem keeps_expectArray (type : Ident) (initial : TypeId) (initialSpan : Span) :
    discipline.Keeps history (expectArray type initial initialSpan) discipline.IsValue := by
  apply (keeps_typeNamed? lawful type).bind
  intro found next _ named
  cases found with
  | none => exact .pure fun _ => lawful.value_of_named named
  | some declared =>
      have value := lawful.value_of_named named
      apply Keeps.types
      split
      · apply (keeps_reportSort lawful value _ _).bind
        intro _ _ _ unknown
        exact .pure fun _ => lawful.value_of_named unknown
      · apply Keeps.assume
        intro holds
        have array := lawful.representative holds.sound value
        apply (keeps_of_observes lawful (observes_expectCompatible _ _ _ _)).bind
        intro _ _ later _
        exact .pure fun _ => later.value array

theorem keeps_joinBranches {positive negative : TypeId}
    (positiveValue : discipline.IsValue history positive)
    (negativeValue : discipline.IsValue history negative) (negativeSpan : Span) :
    discipline.Keeps history (joinBranches positive negative negativeSpan) discipline.IsValue := by
  apply (keeps_of_observes lawful (observes_expectCompatible _ _ _ _)).bind
  intro _ next later _
  refine Keeps.types (.pure fun _ => ?_)
  split
  · exact later.value negativeValue
  · exact later.value positiveValue

theorem keeps_variableType (name : Ident) (ascribed : Option Ident) {initial : TypeId}
    (value : discipline.IsValue history initial) (initialSpan : Span) :
    discipline.Keeps history (variableType name ascribed initial initialSpan)
      discipline.IsNamed := by
  cases ascribed with
  | some ascribed =>
      apply (keeps_typeNamed? lawful ascribed).bind
      intro found next _ named
      cases found with
      | none => exact .pure fun _ => named
      | some declared =>
          apply (keeps_of_observes lawful (observes_expectCompatible _ _ _ _)).bind
          intro _ _ later _
          exact .pure fun _ => later.named named
  | none =>
      apply Keeps.types
      split
      · apply (keeps_report lawful _ (by simp [Problem.kind])).bind
        intro _ _ _ unknown
        exact .pure fun _ => unknown
      · rename_i notNil
        split
        · apply (keeps_report lawful _ (by simp [Problem.kind])).bind
          intro _ _ _ unknown
          exact .pure fun _ => unknown
        · rename_i notVoid
          exact .pure fun holds => lawful.storable holds.sound value
            (eq_false_of_ne_true notNil) (eq_false_of_ne_true notVoid)

theorem keeps_interpretFields (fields : List TypedName) :
    discipline.Keeps history (interpretFields fields)
      fun later answer => ∀ field ∈ answer, discipline.IsNamed later field.type := by
  refine .mapM (fun later (field : Field) => discipline.IsNamed later field.type)
    (fun _ _ on _ => on.named) (fun field _ => ?_) fields
  apply (keeps_typeNamed lawful field.type).bind
  intro id _ _ named
  exact .pure fun _ => named

theorem keeps_interpretType (body : TypeExpression) (name : String) :
    discipline.Keeps history (interpretType body name)
      fun later answer => ∀ part ∈ answer.parts, discipline.IsNamed later part := by
  cases body with
  | name target span =>
      apply (keeps_typeNamed? lawful target).bind
      intro found _ _ named
      cases found with
      | none => exact .pure fun _ => by simp [Ty.parts]
      | some id => exact .pure fun _ => by simpa [Ty.parts] using named
  | record fields span =>
      apply (keeps_interpretFields lawful fields).bind
      intro answer _ _ named
      exact .pure fun _ => by simpa [Ty.parts] using named
  | array element span =>
      apply (keeps_typeNamed lawful element).bind
      intro id _ _ named
      exact .pure fun _ => by simpa [Ty.parts] using named

theorem keeps_makeTypes (members : List TypeDeclaration) :
    discipline.Keeps history (makeTypes members) fun _ _ => True := by
  intro holds
  rcases lawful.group members holds with ⟨sound, later, new⟩
  refine ⟨⟨sound, ?_, ?_⟩, later, fun _ _ => trivial⟩
  · have names : (history.after ((makeTypes members).run history.state)).state.typeNames =
        history.state.groupNames members := by
      rw [run_makeTypes]
      rfl
    rw [names]
    exact (holds.typeNames.mono fun _ => later.named).groupNames new
  · have names : (history.after ((makeTypes members).run history.state)).state.valueNames =
        history.state.valueNames := by
      rw [run_makeTypes]
      rfl
    rw [names]
    exact holds.valueNames.mono fun _ => later.named

theorem keeps_resultType (result : Option Ident) :
    discipline.Keeps history (resultType result) discipline.IsNamed := by
  cases result with
  | none => exact .pure fun holds => lawful.named_void holds.sound
  | some name => exact keeps_typeNamed lawful name

theorem keeps_announceFunction (member : FunctionDeclaration) :
    discipline.Keeps history (announceFunction member)
      fun later header => ∀ type ∈ header.parameters, discipline.IsNamed later type := by
  apply (keeps_resultType lawful member.result).bind
  intro result h1 _ named
  refine Keeps.bind (.mapM discipline.IsNamed (fun _ _ on _ => on.named)
    (fun parameter _ => keeps_typeNamed lawful parameter.type) member.parameters)
    fun parameters h2 l2 allNamed => ?_
  apply (keeps_takeLabel lawful).bind
  intro label h3 l3 _
  apply (keeps_of_observes lawful .frame).bind
  intro parent h4 l4 _
  apply (keeps_takeFrame lawful parent label parameters.length).bind
  intro frame h5 l5 _
  have later := l3.trans (l4.trans l5)
  refine (keeps_bindValue lawful _ (by simp [Entry.kind]) ?_).bind fun _ h6 l6 _ => ?_
  · intro id member
    rcases List.mem_cons.mp member with rfl | parameter
    · exact later.named (l2.named named)
    · exact later.named (allNamed id parameter)
  · exact .pure fun _ type member => l6.named (later.named (allNamed type member))

theorem keeps_announceFunctions (members : List FunctionDeclaration) :
    discipline.Keeps history (members.mapM announceFunction)
      fun later headers => ∀ header ∈ headers, ∀ type ∈ header.parameters,
        discipline.IsNamed later type :=
  .mapM (fun later (header : FunctionHeader) => ∀ type ∈ header.parameters,
      discipline.IsNamed later type)
    (fun _ _ on _ named type member => on.named (named type member))
    (fun member _ => keeps_announceFunction lawful member) members

theorem keeps_bindParameters (parameters : List TypedName) (types : List TypeId)
    (named : ∀ type ∈ types, discipline.IsNamed history type) :
    discipline.Keeps history (bindParameters parameters types) fun _ _ => True := by
  unfold bindParameters
  have pairs : ∀ pair ∈ parameters.zip types, discipline.IsNamed history pair.2 :=
    fun pair member => named pair.2 (List.of_mem_zip member).2
  generalize parameters.zip types = bindings at pairs
  clear named
  induction bindings generalizing history with
  | nil => exact .pure fun _ => trivial
  | cons pair rest inductionHypothesis =>
      apply Keeps.bind (keeps_bindVariable lawful _ (pairs pair List.mem_cons_self))
      intro _ next later _
      exact inductionHypothesis fun other member =>
        later.named (pairs other (List.mem_cons_of_mem _ member))

end Rules

/-!
## Trees
-/

mutual

theorem keeps_inferPlace (lawful : discipline.Lawful) (place : Place) (history : History) :
    discipline.Keeps history (inferPlace place) discipline.IsValue := by
  cases place with
  | name name span =>
      rw [inferPlace]
      exact keeps_variableNamed lawful name
  | field base field span =>
      rw [inferPlace]
      apply (keeps_inferPlace lawful base history).bind
      intro baseType h1 _ value
      exact keeps_selectField lawful value _ _
  | element base index span =>
      rw [inferPlace]
      apply (keeps_inferPlace lawful base history).bind
      intro baseType h1 _ value
      apply (keeps_inferExpression lawful index h1).bind
      intro indexType h2 l2 _
      apply (keeps_of_observes lawful (observes_expectInteger _ _ _)).bind
      intro _ h3 l3 _
      exact keeps_selectElement lawful (l3.value (l2.value value)) _
termination_by structural place

theorem keeps_inferExpression (lawful : discipline.Lawful) (expression : Expression)
    (history : History) :
    discipline.Keeps history (inferExpression expression) discipline.IsValue := by
  cases expression with
  | nil span => exact .pure fun holds => lawful.value_nil holds.sound
  | integer value span =>
      exact .pure fun holds => lawful.value_of_named (lawful.named_int holds.sound)
  | string value span =>
      exact .pure fun holds => lawful.value_of_named (lawful.named_string holds.sound)
  | breakLoop span =>
      exact .pure fun holds => lawful.value_of_named (lawful.named_void holds.sound)
  | malformed span => exact keeps_abort _
  | place place span =>
      rw [inferExpression]
      exact keeps_inferPlace lawful place history
  | call function arguments span =>
      rw [inferExpression]
      apply (keeps_expectCall lawful _ _ _).bind
      intro expected h1 _ value
      apply (keeps_checkArguments lawful arguments expected.1 h1).bind
      intro _ h2 l2 _
      exact .pure fun _ => l2.value value
  | binary operator left right span =>
      rw [inferExpression]
      apply (keeps_inferExpression lawful left history).bind
      intro leftType h1 _ _
      apply (keeps_inferExpression lawful right h1).bind
      intro rightType h2 _ _
      apply (keeps_of_observes lawful (observes_expectOperands _ _ _ _ _)).bind
      intro _ h3 _ _
      exact .pure fun holds => lawful.value_of_named (lawful.named_int holds.sound)
  | record type fields span =>
      rw [inferExpression]
      apply (keeps_expectRecord lawful _ _ _).bind
      intro expected h1 _ value
      apply (keeps_checkInitializers lawful fields expected.1 h1).bind
      intro _ h2 l2 _
      exact .pure fun _ => l2.value value
  | array type size initial span =>
      rw [inferExpression]
      apply (keeps_inferExpression lawful size history).bind
      intro sizeType h1 _ _
      apply (keeps_of_observes lawful (observes_expectInteger _ _ _)).bind
      intro _ h2 _ _
      apply (keeps_inferExpression lawful initial h2).bind
      intro initialType h3 _ _
      exact keeps_expectArray lawful _ _ _
  | sequence members span =>
      rw [inferExpression]
      exact keeps_inferSequence lawful members .void history fun holds =>
        lawful.value_of_named (lawful.named_void holds.sound)
  | assign target value span =>
      rw [inferExpression]
      apply (keeps_inferPlace lawful target history).bind
      intro targetType h1 _ _
      apply (keeps_inferExpression lawful value h1).bind
      intro valueType h2 _ _
      apply (keeps_of_observes lawful (observes_expectCompatible _ _ _ _)).bind
      intro _ h3 _ _
      exact .pure fun holds => lawful.value_of_named (lawful.named_void holds.sound)
  | ifThen test body span | whileLoop test body span =>
      rw [inferExpression]
      apply (keeps_inferExpression lawful test history).bind
      intro testType h1 _ _
      apply (keeps_of_observes lawful (observes_expectInteger _ _ _)).bind
      intro _ h2 _ _
      apply (keeps_inferExpression lawful body h2).bind
      intro _ h3 _ _
      exact .pure fun holds => lawful.value_of_named (lawful.named_void holds.sound)
  | ifThenElse test positive negative span =>
      rw [inferExpression]
      apply (keeps_inferExpression lawful test history).bind
      intro testType h1 _ _
      apply (keeps_of_observes lawful (observes_expectInteger _ _ _)).bind
      intro _ h2 _ _
      apply (keeps_inferExpression lawful positive h2).bind
      intro positiveType h3 _ one
      apply (keeps_inferExpression lawful negative h3).bind
      intro negativeType h4 l4 two
      exact keeps_joinBranches lawful (l4.value one) two _
  | forLoop counter low high body span =>
      rw [inferExpression]
      apply (keeps_inferExpression lawful low history).bind
      intro lowType h1 _ _
      apply (keeps_of_observes lawful (observes_expectInteger _ _ _)).bind
      intro _ h2 _ _
      apply (keeps_inferExpression lawful high h2).bind
      intro highType h3 _ _
      apply (keeps_of_observes lawful (observes_expectInteger _ _ _)).bind
      intro _ h4 _ _
      apply (keeps_openValueScope lawful).bind
      intro _ h5 _ _
      apply Keeps.assume
      intro holds
      apply (keeps_bindVariable lawful _ (lawful.named_int holds.sound)).bind
      intro _ h6 _ _
      apply (keeps_inferExpression lawful body h6).bind
      intro _ h7 _ _
      apply (keeps_closeValueScope lawful).bind
      intro _ h8 _ _
      exact .pure fun holds => lawful.value_of_named (lawful.named_void holds.sound)
  | block declarations body span =>
      rw [inferExpression]
      apply (keeps_openTypeScope lawful).bind
      intro _ h1 _ _
      apply (keeps_openValueScope lawful).bind
      intro _ h2 _ _
      apply (keeps_of_observes lawful (.emit ⟨by trivial, by rfl⟩)).bind
      intro _ h3 _ _
      apply (keeps_makeDeclarations lawful declarations h3).bind
      intro _ h4 _ _
      apply (keeps_inferExpression lawful body h4).bind
      intro result h5 _ value
      apply (keeps_of_observes lawful .state).bind
      intro shown h6 l6 _
      apply (keeps_of_observes lawful (.emit ⟨by trivial, by rfl⟩)).bind
      intro _ h7 l7 _
      apply (keeps_closeValueScope lawful).bind
      intro _ h8 l8 _
      apply (keeps_closeTypeScope lawful).bind
      intro _ h9 l9 _
      have later := l6.trans (l7.trans (l8.trans l9))
      exact .pure fun _ => later.value value
termination_by structural expression

theorem keeps_checkArguments (lawful : discipline.Lawful) (arguments : List Expression)
    (expected : Expectations) (history : History) :
    discipline.Keeps history (checkArguments arguments expected) fun _ _ => True := by
  cases arguments with
  | nil => exact .pure fun _ => trivial
  | cons argument rest =>
      rw [checkArguments]
      apply (keeps_inferExpression lawful argument history).bind
      intro type h1 _ _
      apply (keeps_of_observes lawful (observes_expectNext _ _ _)).bind
      intro _ h2 _ _
      exact keeps_checkArguments lawful rest expected.tail h2
termination_by structural arguments

theorem keeps_checkInitializers (lawful : discipline.Lawful) (initializers : List Initializer)
    (expected : Expectations) (history : History) :
    discipline.Keeps history (checkInitializers initializers expected) fun _ _ => True := by
  match initializers with
  | [] => exact .pure fun _ => trivial
  | ⟨name, value, span⟩ :: rest =>
      rw [checkInitializers]
      apply (keeps_inferExpression lawful value history).bind
      intro type h1 _ _
      apply (keeps_of_observes lawful (observes_expectNext _ _ _)).bind
      intro _ h2 _ _
      exact keeps_checkInitializers lawful rest expected.tail h2
termination_by structural initializers

theorem keeps_inferSequence (lawful : discipline.Lawful) (members : List Expression)
    (last : TypeId) (history : History)
    (value : discipline.Holds history → discipline.IsValue history last) :
    discipline.Keeps history (inferSequence members last) discipline.IsValue := by
  cases members with
  | nil => exact .pure value
  | cons member rest =>
      rw [inferSequence]
      apply (keeps_inferExpression lawful member history).bind
      intro type h1 _ value
      exact keeps_inferSequence lawful rest type h1 fun _ => value
termination_by structural members

theorem keeps_makeDeclaration (lawful : discipline.Lawful) (declaration : Declaration)
    (history : History) :
    discipline.Keeps history (makeDeclaration declaration) fun _ _ => True := by
  match declaration with
  | .variable name ascribed initial span =>
      rw [makeDeclaration]
      apply (keeps_inferExpression lawful initial history).bind
      intro initialType h1 _ value
      apply (keeps_variableType lawful name ascribed value _).bind
      intro type h2 _ named
      exact keeps_bindVariable lawful name.name named
  | .functions members span =>
      rw [makeDeclaration]
      apply (keeps_of_observes lawful (.emit ⟨by trivial, by rfl⟩)).bind
      intro _ h1 _ _
      apply (keeps_announceFunctions lawful members).bind
      intro headers h2 _ named
      exact keeps_checkBodies lawful members headers h2 named
  | .types members span =>
      rw [makeDeclaration]
      exact keeps_makeTypes lawful members
termination_by structural declaration

theorem keeps_makeDeclarations (lawful : discipline.Lawful) (declarations : List Declaration)
    (history : History) :
    discipline.Keeps history (makeDeclarations declarations) fun _ _ => True := by
  cases declarations with
  | nil => exact .pure fun _ => trivial
  | cons declaration rest =>
      rw [makeDeclarations]
      apply (keeps_makeDeclaration lawful declaration history).bind
      intro _ h1 _ _
      exact keeps_makeDeclarations lawful rest h1
termination_by structural declarations

theorem keeps_checkBodies (lawful : discipline.Lawful) (members : List FunctionDeclaration)
    (headers : List FunctionHeader) (history : History)
    (named : ∀ header ∈ headers, ∀ type ∈ header.parameters, discipline.IsNamed history type) :
    discipline.Keeps history (checkBodies members headers) fun _ _ => True := by
  match members, headers with
  | [], _ => exact keeps_of_observes lawful (.pure ())
  | ⟨_, _, _, _, _⟩ :: _, [] => exact keeps_of_observes lawful (.pure ())
  | ⟨name, parameters, result, body, span⟩ :: rest, header :: headers =>
      rw [checkBodies]
      apply (keeps_openValueScope lawful).bind
      intro _ h1 l1 _
      apply (keeps_of_observes lawful .frame).bind
      intro outer h2 l2 _
      apply (keeps_setFrame lawful header.frame).bind
      intro _ h3 l3 _
      have l13 := l1.trans (l2.trans l3)
      apply (keeps_bindParameters lawful parameters header.parameters
        fun type member => l13.named (named header List.mem_cons_self type member)).bind
      intro _ h4 l4 _
      apply (keeps_inferExpression lawful body h4).bind
      intro bodyType h5 l5 _
      apply (keeps_of_observes lawful (observes_expectCompatible _ _ _ _)).bind
      intro _ h6 l6 _
      apply (keeps_setFrame lawful outer).bind
      intro _ h7 l7 _
      apply (keeps_closeValueScope lawful).bind
      intro _ h8 l8 _
      have later := l13.trans (l4.trans (l5.trans (l6.trans (l7.trans l8))))
      exact keeps_checkBodies lawful rest headers h8 fun other member type parameter =>
        later.named (named other (List.mem_cons_of_mem _ member) type parameter)
termination_by structural members

end

theorem keeps_inferProgram (lawful : discipline.Lawful) (program : Expression)
    (history : History) :
    discipline.Keeps history (inferProgram program) discipline.IsValue := by
  apply (keeps_inferExpression lawful program history).bind
  intro type h1 _ value
  apply (keeps_of_observes lawful .types).bind
  intro types h2 l2 _
  apply (keeps_of_observes lawful (.emit ⟨by trivial, by rfl⟩)).bind
  intro _ h3 l3 _
  exact .pure fun _ => (l2.trans l3).value value

/-!
## Histories
-/

/-- What a discipline says about an answer. -/
def Answers (discipline : Discipline) (history : History) : Answer → Prop
  | .type id => discipline.IsValue history id
  | .declared => True
  | .meaning type => ∀ part ∈ type.parts, discipline.IsNamed history part

theorem keeps_request (lawful : discipline.Lawful) (request : Request) (history : History) :
    discipline.Keeps history request.check discipline.Answers := by
  cases request with
  | program root =>
      exact (keeps_inferProgram lawful root history).bind fun _ _ _ value =>
        .pure fun _ => value
  | expression root =>
      exact (keeps_inferExpression lawful root history).bind fun _ _ _ value =>
        .pure fun _ => value
  | place root =>
      exact (keeps_inferPlace lawful root history).bind fun _ _ _ value => .pure fun _ => value
  | declaration root =>
      exact (keeps_makeDeclaration lawful root history).bind fun _ _ _ _ =>
        .pure fun _ => trivial
  | meaning body name =>
      exact (keeps_interpretType lawful body name).bind fun _ _ _ named => .pure fun _ => named

/-- At the start all types that names are bound to are base types. -/
theorem holds_start (lawful : discipline.Lawful) (sound : discipline.Sound .basic [])
    (outermost : Frame) : discipline.Holds (.start outermost) := by
  have base : ∀ id ∈ [TypeId.int, .string, .void],
      discipline.IsNamed (.start outermost) id := by
    simpa using ⟨lawful.named_int sound, lawful.named_string sound, lawful.named_void sound⟩
  refine ⟨sound, ⟨?_, .nil, nofun⟩, ⟨?_, .nil, nofun⟩⟩
  · have names : (State.initial outermost).typeNames.bindings.map (·.entry) =
        [.type .void, .type .string, .type .int] := rfl
    have allowed : ∀ entry ∈ [Entry.type .void, .type .string, .type .int],
        entry.kind = .type ∧ ∀ id ∈ entry.parts, id ∈ [TypeId.int, .string, .void] := by
      decide
    intro binding member
    have entry := allowed binding.entry (names ▸ List.mem_map_of_mem member)
    exact ⟨entry.1, fun id part => base id (entry.2 id part)⟩
  · have signatures : (State.initial outermost).valueNames.bindings.map
        (fun binding => (binding.entry.kind, binding.entry.parts)) =
        Predefined.all.reverse.map
          (fun predefined => (.function, predefined.result :: predefined.parameters)) := rfl
    have allowed : ∀ signature ∈ Predefined.all.reverse.map
          (fun predefined => (EntryKind.function, predefined.result :: predefined.parameters)),
        signature.1 ≠ .type ∧ ∀ id ∈ signature.2, id ∈ [TypeId.int, .string, .void] := by
      decide
    intro binding member
    have entry := allowed (binding.entry.kind, binding.entry.parts)
      (signatures ▸ List.mem_map_of_mem member)
    exact ⟨entry.1, fun id part => base id (entry.2 id part)⟩

/-- A lawful discipline holds in all histories. -/
theorem holds_ofRequests (lawful : discipline.Lawful) (sound : discipline.Sound .basic [])
    (outermost : Frame) (requests : List Request) :
    discipline.Holds (.ofRequests outermost requests) := by
  refine History.ofRequests_induction discipline.Holds (holds_start lawful sound outermost)
    (fun history request holds => ?_) requests
  exact (keeps_request lawful request history holds).1

end Discipline
end StaticSemantics
