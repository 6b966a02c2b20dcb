import StaticSemantics.Proofs.Scopes

namespace StaticSemantics

/-!
# Malformed trees

A check is aborted by a part of the tree that could not be parsed, and by
nothing else.  Every part of a tree is visited whatever goes wrong around it,
so it does not matter where in the tree the malformed part is, or in which
state the check begins.
-/

mutual

/-- Whether no part of a place is malformed. -/
def Place.isParsed : Place → Bool
  | .name _ _ => true
  | .field base _ _ => base.isParsed
  | .element base index _ => base.isParsed && index.isParsed
termination_by structural place => place

/-- Whether no part of an expression is malformed. -/
def Expression.isParsed : Expression → Bool
  | .nil _ | .integer _ _ | .string _ _ | .breakLoop _ => true
  | .place place _ => place.isParsed
  | .call _ arguments _ => Expression.areParsed arguments
  | .binary _ left right _ => left.isParsed && right.isParsed
  | .record _ fields _ => Initializer.areParsed fields
  | .array _ size initial _ => size.isParsed && initial.isParsed
  | .sequence members _ => Expression.areParsed members
  | .assign target value _ => target.isParsed && value.isParsed
  | .ifThen test body _ | .whileLoop test body _ => test.isParsed && body.isParsed
  | .ifThenElse test positive negative _ =>
    test.isParsed && (positive.isParsed && negative.isParsed)
  | .forLoop _ low high body _ => low.isParsed && (high.isParsed && body.isParsed)
  | .block declarations body _ => Declaration.areParsed declarations && body.isParsed
  | .malformed _ => false
termination_by structural expression => expression

def Expression.areParsed : List Expression → Bool
  | [] => true
  | expression :: rest => expression.isParsed && Expression.areParsed rest
termination_by structural expressions => expressions

def Initializer.areParsed : List Initializer → Bool
  | [] => true
  | ⟨_, value, _⟩ :: rest => value.isParsed && Initializer.areParsed rest
termination_by structural initializers => initializers

/-- Whether no part of a declaration is malformed. -/
def Declaration.isParsed : Declaration → Bool
  | .variable _ _ initial _ => initial.isParsed
  | .functions members _ => FunctionDeclaration.areParsed members
  | .types _ _ => true
termination_by structural declaration => declaration

def Declaration.areParsed : List Declaration → Bool
  | [] => true
  | declaration :: rest => declaration.isParsed && Declaration.areParsed rest
termination_by structural declarations => declarations

def FunctionDeclaration.areParsed : List FunctionDeclaration → Bool
  | [] => true
  | ⟨_, _, _, body, _⟩ :: rest => body.isParsed && FunctionDeclaration.areParsed rest
termination_by structural members => members

end

namespace Check

variable {α β γ : Type}

/-- From every state a check ends well exactly if `parsed` says so.  Otherwise
it is aborted by a malformed tree. -/
def Completes (check : Check α) (parsed : Bool) : Prop :=
  ∀ state, match (check.run state).outcome with
    | .ok _ => parsed = true
    | .error problem => parsed = false ∧ problem = .malformed "expression"

namespace Completes

variable {check : Check α} {next : α → Check β} {parsed others : Bool}

/-- A step that never fails. -/
theorem step (succeeds : ∀ state, ∃ value, (check.run state).outcome = .ok value) :
    check.Completes true := by
  intro state
  rcases succeeds state with ⟨value, outcome⟩
  rw [outcome]

theorem pure (value : α) : (Pure.pure value : Check α).Completes true :=
  .step fun _ => ⟨value, rfl⟩

/-- Two checks in a row end well if both do. -/
theorem bind (first : check.Completes parsed) (second : ∀ value, (next value).Completes others) :
    (check >>= next).Completes (parsed && others) := by
  intro state
  have early := first state
  rcases ran : check.run state with ⟨outcome, reached, events⟩
  rw [ran] at early
  cases outcome with
  | error problem =>
      rw [run_bind_of_error ran]
      exact ⟨by rw [early.1, Bool.false_and], early.2⟩
  | ok value =>
      have late := second value reached
      rw [run_bind_of_ok ran]
      simpa only [show parsed = true from early, Bool.true_and] using late

/-- What follows may be something that never fails. -/
theorem andThen (first : check.Completes parsed) (second : ∀ value, (next value).Completes true) :
    (check >>= next).Completes parsed := by
  have both := first.bind second
  rwa [Bool.and_true] at both

/-- A step in a row for every item gives as many answers as there are items. -/
theorem mapM_bind {check : γ → Check α} (each : ∀ item, (check item).Completes true)
    (items : List γ) {next : List α → Check β}
    (second : ∀ answers, answers.length = items.length → (next answers).Completes parsed) :
    (items.mapM check >>= next).Completes parsed := by
  induction items generalizing next with
  | nil =>
      rw [List.mapM_nil, pure_bind]
      exact second [] rfl
  | cons item rest inductionHypothesis =>
      rw [List.mapM_cons, bind_assoc]
      apply (each item).bind
      intro answer
      rw [bind_assoc]
      apply inductionHypothesis
      intro answers length
      rw [pure_bind]
      exact second (answer :: answers) (congrArg (· + 1) length)

end Completes

/-!
## Steps
-/

theorem Observes.completes {check : Check α} (observes : check.Observes) :
    check.Completes true := by
  apply Completes.step
  intro state
  rcases observes state with ⟨value, events, ran, _⟩
  exact ⟨value, by rw [ran]⟩

theorem completes_update (change : State → State) : (update change).Completes true :=
  .step fun _ => ⟨(), rfl⟩

theorem completes_bindVariable (name : String) (type : TypeId) :
    (bindVariable name type).Completes true :=
  .step fun _ => ⟨(), rfl⟩

theorem completes_bindParameters (parameters : List TypedName) (types : List TypeId) :
    (bindParameters parameters types).Completes true := by
  unfold bindParameters
  induction parameters.zip types with
  | nil => exact .pure ()
  | cons pair rest inductionHypothesis =>
      exact (completes_bindVariable _ _).bind fun _ => inductionHypothesis

theorem completes_announceFunction (member : FunctionDeclaration) :
    (announceFunction member).Completes true := by
  apply (observes_resultType member.result).completes.bind
  intro result
  apply (Observes.mapM (fun _ => observes_typeNamed _) member.parameters).completes.bind
  intro parameters
  exact .step fun _ => ⟨_, rfl⟩

theorem completes_makeTypes (members : List TypeDeclaration) :
    (makeTypes members).Completes true :=
  .step fun state => ⟨(), by rw [run_makeTypes]⟩

/-!
## Trees
-/

mutual

theorem completes_inferPlace (place : Place) : (inferPlace place).Completes place.isParsed := by
  cases place with
  | name name span =>
      rw [inferPlace, Place.isParsed]
      exact (observes_variableNamed name).completes
  | field base field span =>
      rw [inferPlace, Place.isParsed]
      apply (completes_inferPlace base).andThen
      intro baseType
      exact (observes_selectField _ _ _).completes
  | element base index span =>
      rw [inferPlace, Place.isParsed]
      apply (completes_inferPlace base).bind
      intro baseType
      apply (completes_inferExpression index).andThen
      intro indexType
      apply (observes_expectInteger _ _ _).completes.bind
      intro _
      exact (observes_selectElement _ _).completes
termination_by structural place

theorem completes_inferExpression (expression : Expression) :
    (inferExpression expression).Completes expression.isParsed := by
  cases expression with
  | nil | integer | string | breakLoop => exact .pure _
  | malformed span => exact fun _ => ⟨rfl, rfl⟩
  | place place span =>
      rw [inferExpression, Expression.isParsed]
      exact completes_inferPlace place
  | call function arguments span =>
      rw [inferExpression, Expression.isParsed]
      apply (observes_expectCall _ _ _).completes.bind
      intro expected
      apply (completes_checkArguments arguments expected.1).andThen
      intro _
      exact .pure _
  | binary operator left right span =>
      rw [inferExpression, Expression.isParsed]
      apply (completes_inferExpression left).bind
      intro leftType
      apply (completes_inferExpression right).andThen
      intro rightType
      apply (observes_expectOperands _ _ _ _ _).completes.bind
      intro _
      exact .pure _
  | record type fields span =>
      rw [inferExpression, Expression.isParsed]
      apply (observes_expectRecord _ _ _).completes.bind
      intro expected
      apply (completes_checkInitializers fields expected.1).andThen
      intro _
      exact .pure _
  | array type size initial span =>
      rw [inferExpression, Expression.isParsed]
      apply (completes_inferExpression size).bind
      intro sizeType
      apply (observes_expectInteger _ _ _).completes.bind
      intro _
      apply (completes_inferExpression initial).andThen
      intro initialType
      exact (observes_expectArray _ _ _).completes
  | sequence members span =>
      rw [inferExpression, Expression.isParsed]
      exact completes_inferSequence members .void
  | assign target value span =>
      rw [inferExpression, Expression.isParsed]
      apply (completes_inferPlace target).bind
      intro targetType
      apply (completes_inferExpression value).andThen
      intro valueType
      apply (observes_expectCompatible _ _ _ _).completes.bind
      intro _
      exact .pure _
  | ifThen test body span | whileLoop test body span =>
      rw [inferExpression, Expression.isParsed]
      apply (completes_inferExpression test).bind
      intro testType
      apply (observes_expectInteger _ _ _).completes.bind
      intro _
      apply (completes_inferExpression body).andThen
      intro _
      exact .pure _
  | ifThenElse test positive negative span =>
      rw [inferExpression, Expression.isParsed]
      apply (completes_inferExpression test).bind
      intro testType
      apply (observes_expectInteger _ _ _).completes.bind
      intro _
      apply (completes_inferExpression positive).bind
      intro positiveType
      apply (completes_inferExpression negative).andThen
      intro negativeType
      exact (observes_joinBranches _ _ _).completes
  | forLoop counter low high body span =>
      rw [inferExpression, Expression.isParsed]
      apply (completes_inferExpression low).bind
      intro lowType
      apply (observes_expectInteger _ _ _).completes.bind
      intro _
      apply (completes_inferExpression high).bind
      intro highType
      apply (observes_expectInteger _ _ _).completes.bind
      intro _
      apply (completes_update _).bind
      intro _
      apply (completes_bindVariable _ _).bind
      intro _
      apply (completes_inferExpression body).andThen
      intro _
      apply (completes_update _).bind
      intro _
      exact .pure _
  | block declarations body span =>
      rw [inferExpression, Expression.isParsed]
      apply (completes_update _).bind
      intro _
      apply (completes_update _).bind
      intro _
      apply (Observes.emit ⟨by trivial, by rfl⟩).completes.bind
      intro _
      apply (completes_makeDeclarations declarations).bind
      intro _
      apply (completes_inferExpression body).andThen
      intro result
      exact .step fun _ => ⟨result, rfl⟩
termination_by structural expression

theorem completes_checkArguments (arguments : List Expression) (expected : Expectations) :
    (checkArguments arguments expected).Completes (Expression.areParsed arguments) := by
  cases arguments with
  | nil => exact .pure _
  | cons argument rest =>
      rw [checkArguments, Expression.areParsed]
      apply (completes_inferExpression argument).bind
      intro type
      apply (observes_expectNext _ _ _).completes.bind
      intro _
      exact completes_checkArguments rest expected.tail
termination_by structural arguments

theorem completes_checkInitializers (initializers : List Initializer) (expected : Expectations) :
    (checkInitializers initializers expected).Completes (Initializer.areParsed initializers) := by
  match initializers with
  | [] => exact .pure _
  | ⟨name, value, span⟩ :: rest =>
      rw [checkInitializers, Initializer.areParsed]
      apply (completes_inferExpression value).bind
      intro type
      apply (observes_expectNext _ _ _).completes.bind
      intro _
      exact completes_checkInitializers rest expected.tail
termination_by structural initializers

theorem completes_inferSequence (members : List Expression) (last : TypeId) :
    (inferSequence members last).Completes (Expression.areParsed members) := by
  cases members with
  | nil => exact .pure _
  | cons member rest =>
      rw [inferSequence, Expression.areParsed]
      apply (completes_inferExpression member).bind
      intro type
      exact completes_inferSequence rest type
termination_by structural members

theorem completes_makeDeclaration (declaration : Declaration) :
    (makeDeclaration declaration).Completes declaration.isParsed := by
  match declaration with
  | .variable name ascribed initial span =>
      rw [makeDeclaration, Declaration.isParsed]
      apply (completes_inferExpression initial).andThen
      intro initialType
      apply (observes_variableType _ _ _ _).completes.bind
      intro type
      exact completes_bindVariable _ _
  | .functions members span =>
      rw [makeDeclaration, Declaration.isParsed]
      apply (Observes.emit ⟨by trivial, by rfl⟩).completes.bind
      intro _
      apply Completes.mapM_bind completes_announceFunction
      intro headers length
      exact completes_checkBodies members headers length
  | .types members span =>
      rw [makeDeclaration, Declaration.isParsed]
      exact completes_makeTypes members
termination_by structural declaration

theorem completes_makeDeclarations (declarations : List Declaration) :
    (makeDeclarations declarations).Completes (Declaration.areParsed declarations) := by
  cases declarations with
  | nil => exact .pure _
  | cons declaration rest =>
      rw [makeDeclarations, Declaration.areParsed]
      apply (completes_makeDeclaration declaration).bind
      intro _
      exact completes_makeDeclarations rest
termination_by structural declarations

theorem completes_checkBodies (members : List FunctionDeclaration)
    (headers : List FunctionHeader) (length : headers.length = members.length) :
    (checkBodies members headers).Completes (FunctionDeclaration.areParsed members) := by
  match members, headers with
  | [], _ =>
      rw [FunctionDeclaration.areParsed]
      exact (Observes.pure ()).completes
  | ⟨name, parameters, result, body, span⟩ :: rest, header :: headers =>
      rw [checkBodies, FunctionDeclaration.areParsed]
      apply (completes_update _).bind
      intro _
      apply Observes.frame.completes.bind
      intro outer
      apply (completes_update _).bind
      intro _
      apply (completes_bindParameters _ _).bind
      intro _
      apply (completes_inferExpression body).bind
      intro bodyType
      apply (observes_expectCompatible _ _ _ _).completes.bind
      intro _
      apply (completes_update _).bind
      intro _
      apply (completes_update _).bind
      intro _
      exact completes_checkBodies rest headers (Nat.succ.inj length)
termination_by structural members

end

theorem completes_inferProgram (program : Expression) :
    (inferProgram program).Completes program.isParsed := by
  apply (completes_inferExpression program).andThen
  intro type
  exact .step fun _ => ⟨type, rfl⟩

/-- A check of a tree in which nothing is malformed ends well. -/
theorem Completes.succeeds {check : Check α} {parsed : Bool} (completes : check.Completes parsed)
    (whole : parsed = true) (state : State) :
    ∃ value reached events, check.run state = ⟨.ok value, reached, events⟩ := by
  have ends := completes state
  rcases ran : check.run state with ⟨outcome, reached, events⟩
  rw [ran, whole] at ends
  cases outcome with
  | ok value => exact ⟨value, reached, events, rfl⟩
  | error problem => cases ends.1

/-- Whether a check ends well can be told from the tree alone. -/
theorem Completes.iff_ok {check : Check α} {parsed : Bool} (completes : check.Completes parsed)
    (state : State) : parsed = true ↔ ∃ value, (check.run state).outcome = .ok value := by
  have ends := completes state
  cases outcome : (check.run state).outcome with
  | ok value =>
      rw [outcome] at ends
      exact ⟨fun _ => ⟨value, rfl⟩, fun _ => ends⟩
  | error problem =>
      rw [outcome] at ends
      simp [ends.1]

/-- Whether a check is aborted can be told from the tree alone, and so can the
reason. -/
theorem Completes.iff_error {check : Check α} {parsed : Bool} (completes : check.Completes parsed)
    (state : State) :
    parsed = false ↔ (check.run state).outcome = .error (.malformed "expression") := by
  have ends := completes state
  cases outcome : (check.run state).outcome with
  | ok value =>
      rw [outcome] at ends
      simp [show parsed = true from ends]
  | error problem =>
      rw [outcome] at ends
      rw [ends.2]
      exact ⟨fun _ => rfl, fun _ => ends.1⟩

end Check
end StaticSemantics
