import StaticSemantics.Proofs.Comparison.Rules

namespace StaticSemantics
namespace Comparison

/-!
# Checks run alike

The same tree is walked on both sides.  No step of the walk depends on what may
differ, so the two runs go through the same rules in the same order, and end in
the same way.
-/

open Check

variable {comparison : Comparison}

section Steps

theorem parallel_openTypeScope :
    comparison.Parallel openTypeScope openTypeScope fun _ _ => True :=
  .update fun _ _ linked => ⟨linked.types, linked.typeNames.openScope, linked.valueNames⟩

theorem parallel_closeTypeScope :
    comparison.Parallel closeTypeScope closeTypeScope fun _ _ => True :=
  .update fun _ _ linked => ⟨linked.types, linked.typeNames.closeScope, linked.valueNames⟩

theorem parallel_openValueScope :
    comparison.Parallel openValueScope openValueScope fun _ _ => True :=
  .update fun _ _ linked => ⟨linked.types, linked.typeNames, linked.valueNames.openScope⟩

theorem parallel_closeValueScope :
    comparison.Parallel closeValueScope closeValueScope fun _ _ => True :=
  .update fun _ _ linked => ⟨linked.types, linked.typeNames, linked.valueNames.closeScope⟩

theorem parallel_setFrame (frame other : Frame) :
    comparison.Parallel (setFrame frame) (setFrame other) fun _ _ => True :=
  .update fun _ _ linked => ⟨linked.types, linked.typeNames, linked.valueNames⟩

end Steps

mutual

theorem parallel_inferPlace (place : Place) :
    comparison.Parallel (inferPlace place) (inferPlace place) comparison.Value := by
  cases place with
  | name name span =>
      rw [inferPlace]
      exact parallel_variableNamed name
  | field base field span =>
      rw [inferPlace]
      apply (parallel_inferPlace base).bind
      intro baseType otherBase value
      exact parallel_selectField value _ _
  | element base index span =>
      rw [inferPlace]
      apply (parallel_inferPlace base).bind
      intro baseType otherBase value
      apply (parallel_inferExpression index).bind
      intro indexType otherIndex indexValue
      apply (parallel_expectInteger indexValue _ _).bind
      intro _ _ _
      exact parallel_selectElement value _
termination_by structural place

theorem parallel_inferExpression (expression : Expression) :
    comparison.Parallel (inferExpression expression) (inferExpression expression)
      comparison.Value := by
  cases expression with
  | nil span => exact .pure value_nil
  | integer value span => exact .pure value_int
  | string value span => exact .pure value_string
  | breakLoop span => exact .pure value_void
  | malformed span => exact .abort _
  | place place span =>
      rw [inferExpression]
      exact parallel_inferPlace place
  | call function arguments span =>
      rw [inferExpression]
      apply (parallel_expectCall _ _ _).bind
      intro expected otherExpected expecting
      apply (parallel_checkArguments arguments expecting.expected).bind
      intro _ _ _
      exact .pure expecting.value
  | binary operator left right span =>
      rw [inferExpression]
      apply (parallel_inferExpression left).bind
      intro leftType otherLeft leftValue
      apply (parallel_inferExpression right).bind
      intro rightType otherRight rightValue
      apply (parallel_expectOperands operator leftValue rightValue _ _).bind
      intro _ _ _
      exact .pure value_int
  | record type fields span =>
      rw [inferExpression]
      apply (parallel_expectRecord _ _ _).bind
      intro expected otherExpected expecting
      apply (parallel_checkInitializers fields expecting.expected).bind
      intro _ _ _
      exact .pure expecting.value
  | array type size initial span =>
      rw [inferExpression]
      apply (parallel_inferExpression size).bind
      intro sizeType otherSize sizeValue
      apply (parallel_expectInteger sizeValue _ _).bind
      intro _ _ _
      apply (parallel_inferExpression initial).bind
      intro initialType otherInitial initialValue
      exact parallel_expectArray type initialValue _
  | sequence members span =>
      rw [inferExpression]
      exact parallel_inferSequence members value_void
  | assign target value span =>
      rw [inferExpression]
      apply (parallel_inferPlace target).bind
      intro targetType otherTarget targetValue
      apply (parallel_inferExpression value).bind
      intro valueType otherType valueValue
      apply (parallel_expectCompatible targetValue valueValue _ _).bind
      intro _ _ _
      exact .pure value_void
  | ifThen test body span | whileLoop test body span =>
      rw [inferExpression]
      apply (parallel_inferExpression test).bind
      intro testType otherTest testValue
      apply (parallel_expectInteger testValue _ _).bind
      intro _ _ _
      apply (parallel_inferExpression body).bind
      intro _ _ _
      exact .pure value_void
  | ifThenElse test positive negative span =>
      rw [inferExpression]
      apply (parallel_inferExpression test).bind
      intro testType otherTest testValue
      apply (parallel_expectInteger testValue _ _).bind
      intro _ _ _
      apply (parallel_inferExpression positive).bind
      intro positiveType otherPositive positiveValue
      apply (parallel_inferExpression negative).bind
      intro negativeType otherNegative negativeValue
      exact parallel_joinBranches positiveValue negativeValue _
  | forLoop counter low high body span =>
      rw [inferExpression]
      apply (parallel_inferExpression low).bind
      intro lowType otherLow lowValue
      apply (parallel_expectInteger lowValue _ _).bind
      intro _ _ _
      apply (parallel_inferExpression high).bind
      intro highType otherHigh highValue
      apply (parallel_expectInteger highValue _ _).bind
      intro _ _ _
      apply parallel_openValueScope.bind
      intro _ _ _
      apply (parallel_bindVariable counter.name value_int).bind
      intro _ _ _
      apply (parallel_inferExpression body).bind
      intro _ _ _
      apply parallel_closeValueScope.bind
      intro _ _ _
      exact .pure value_void
  | block declarations body span =>
      rw [inferExpression]
      apply parallel_openTypeScope.bind
      intro _ _ _
      apply parallel_openValueScope.bind
      intro _ _ _
      apply (Parallel.emit rfl rfl).bind
      intro _ _ _
      apply (parallel_makeDeclarations declarations).bind
      intro _ _ _
      apply (parallel_inferExpression body).bind
      intro result otherResult value
      apply Parallel.state
      intro shown otherShown _
      apply (Parallel.emit rfl rfl).bind
      intro _ _ _
      apply parallel_closeValueScope.bind
      intro _ _ _
      apply parallel_closeTypeScope.bind
      intro _ _ _
      exact .pure value
termination_by structural expression

theorem parallel_checkArguments (arguments : List Expression) {expected others : Expectations}
    (alike : expected.Forall₂ comparison.Expected others) :
    comparison.Parallel (checkArguments arguments expected) (checkArguments arguments others)
      fun _ _ => True := by
  cases arguments with
  | nil => exact .pure trivial
  | cons argument rest =>
      rw [checkArguments, checkArguments]
      apply (parallel_inferExpression argument).bind
      intro type otherType value
      apply (parallel_expectNext alike value _).bind
      intro _ _ _
      exact parallel_checkArguments rest (forall₂_tail alike)
termination_by structural arguments

theorem parallel_checkInitializers (initializers : List Initializer)
    {expected others : Expectations} (alike : expected.Forall₂ comparison.Expected others) :
    comparison.Parallel (checkInitializers initializers expected)
      (checkInitializers initializers others) fun _ _ => True := by
  match initializers with
  | [] => exact .pure trivial
  | ⟨name, value, span⟩ :: rest =>
      rw [checkInitializers, checkInitializers]
      apply (parallel_inferExpression value).bind
      intro type otherType value
      apply (parallel_expectNext alike value _).bind
      intro _ _ _
      exact parallel_checkInitializers rest (forall₂_tail alike)
termination_by structural initializers

theorem parallel_inferSequence (members : List Expression) {last other : TypeId}
    (value : comparison.Value last other) :
    comparison.Parallel (inferSequence members last) (inferSequence members other)
      comparison.Value := by
  cases members with
  | nil => exact .pure value
  | cons member rest =>
      rw [inferSequence, inferSequence]
      apply (parallel_inferExpression member).bind
      intro type otherType value
      exact parallel_inferSequence rest value
termination_by structural members

theorem parallel_makeDeclaration (declaration : Declaration) :
    comparison.Parallel (makeDeclaration declaration) (makeDeclaration declaration)
      fun _ _ => True := by
  match declaration with
  | .variable name ascribed initial span =>
      rw [makeDeclaration]
      apply (parallel_inferExpression initial).bind
      intro initialType otherInitial initialValue
      apply (parallel_variableType name ascribed initialValue _).bind
      intro type otherType value
      exact parallel_bindVariable name.name value
  | .functions members span =>
      rw [makeDeclaration]
      apply (Parallel.emit rfl rfl).bind
      intro _ _ _
      apply (Parallel.mapM parallel_announceFunction members).bind
      intro headers others alike
      exact parallel_checkBodies members alike
  | .types members span =>
      rw [makeDeclaration]
      exact parallel_makeTypes members
termination_by structural declaration

theorem parallel_makeDeclarations (declarations : List Declaration) :
    comparison.Parallel (makeDeclarations declarations) (makeDeclarations declarations)
      fun _ _ => True := by
  cases declarations with
  | nil => exact .pure trivial
  | cons declaration rest =>
      rw [makeDeclarations]
      apply (parallel_makeDeclaration declaration).bind
      intro _ _ _
      exact parallel_makeDeclarations rest
termination_by structural declarations

theorem parallel_checkBodies (members : List FunctionDeclaration)
    {headers others : List FunctionHeader} (alike : headers.Forall₂ comparison.Headers others) :
    comparison.Parallel (checkBodies members headers) (checkBodies members others)
      fun _ _ => True := by
  match members, headers, others, alike with
  | [], _, _, _ =>
      unfold checkBodies
      exact .pure trivial
  | ⟨_, _, _, _, _⟩ :: _, [], [], .nil => exact .pure trivial
  | ⟨name, parameters, result, body, span⟩ :: rest, header :: headers, otherHeader :: others,
      .cons same alike =>
      rw [checkBodies, checkBodies]
      apply parallel_openValueScope.bind
      intro _ _ _
      apply Parallel.frame.bind
      intro outer otherOuter _
      apply (parallel_setFrame _ _).bind
      intro _ _ _
      apply (parallel_bindParameters parameters same.parameters).bind
      intro _ _ _
      apply (parallel_inferExpression body).bind
      intro bodyType otherBody value
      apply (parallel_expectCompatible same.result value _ _).bind
      intro _ _ _
      apply (parallel_setFrame _ _).bind
      intro _ _ _
      apply parallel_closeValueScope.bind
      intro _ _ _
      exact parallel_checkBodies rest alike
termination_by structural members

end

theorem parallel_inferProgram (program : Expression) :
    comparison.Parallel (inferProgram program) (inferProgram program) comparison.Value := by
  apply (parallel_inferExpression program).bind
  intro type otherType value
  apply Parallel.types
  intro types other _
  apply (Parallel.emit rfl rfl).bind
  intro _ _ _
  exact .pure value

end Comparison
end StaticSemantics
