import StaticSemantics.Proofs.Simulation.Rules

namespace StaticSemantics
namespace Simulation

/-!
# Checks are simulated

A tree and its relabeled copy are walked side by side.  Wherever a scope is
opened, the walk goes on inside it, and what is known of the environments after
it is what was known before: on both sides they are put back.

The only thing asked of a tree is that its names are among those for which the
same is found on both sides.
-/

open Check

variable {simulation : Simulation}

section Steps

variable {sides : Sides}

theorem parallel_openTypeScope :
    simulation.Parallel sides openTypeScope openTypeScope fun _ _ _ => True :=
  .update fun linked => ⟨fun _ _ => id,
    ⟨linked.tables, linked.handles⟩, linked.typeNames.openScope, linked.valueNames⟩

theorem parallel_openValueScope :
    simulation.Parallel sides openValueScope openValueScope fun _ _ _ => True :=
  .update fun linked => ⟨fun _ _ => id,
    ⟨linked.tables, linked.handles⟩, linked.typeNames, linked.valueNames.openScope⟩

theorem parallel_setFrame {frame other : Frame} (same : simulation.literal → other = frame) :
    simulation.Parallel sides (setFrame frame) (setFrame other) fun _ _ _ => True :=
  .update fun linked => ⟨fun _ _ => id,
    ⟨linked.tables, fun literal => ⟨same literal, (linked.handles literal).2⟩⟩,
    linked.typeNames, linked.valueNames⟩

/-- Of the environments nothing is known once a scope is closed. -/
theorem simulates_closeValues {value other : TypeId} (fits : simulation.Value sides value other) :
    simulation.Simulates sides
      (do
        closeValueScope
        pure value)
      (do
        closeValueScope
        pure other) simulation.Value :=
  .of_runs rfl rfl fun linked =>
    ⟨⟨linked.tables, linked.handles⟩, fun _ _ => id, .nil, fits⟩

theorem simulates_closeBlock {value other : TypeId} (fits : simulation.Value sides value other) :
    simulation.Simulates sides
      (do
        emit (.listed (← state).valueNames)
        closeValueScope
        closeTypeScope
        pure value)
      (do
        emit (.listed (← state).valueNames)
        closeValueScope
        closeTypeScope
        pure other) simulation.Value :=
  .of_runs rfl rfl fun linked =>
    ⟨⟨linked.tables, linked.handles⟩, fun _ _ => id, ⟨.nil, fun _ => rfl⟩, fits⟩

theorem simulates_closeBody {frame other : Frame} (same : simulation.literal → other = frame) :
    simulation.Simulates sides
      (do
        setFrame frame
        closeValueScope)
      (do
        setFrame other
        closeValueScope) fun _ _ _ => True :=
  .of_runs rfl rfl fun linked =>
    ⟨⟨linked.tables, fun literal => ⟨same literal, (linked.handles literal).2⟩⟩, fun _ _ => id,
      .nil, trivial⟩

end Steps

theorem parallel_announceFunctions {sides : Sides} {members : List FunctionDeclaration}
    (visible : ∀ name ∈ FunctionDeclaration.allNames members, simulation.Visible name) :
    simulation.Parallel sides (members.mapM announceFunction)
      ((FunctionDeclaration.relabelAll simulation.relabeling members).mapM announceFunction)
      fun later headers others => headers.Forall₂ (simulation.Headers later) others := by
  induction members generalizing sides with
  | nil => exact .pure .nil
  | cons member rest inductionHypothesis =>
      obtain ⟨name, parameters, result, body, span⟩ := member
      obtain ⟨_, visible⟩ := List.forall_mem_cons.mp visible
      obtain ⟨parameterNames, visible⟩ := List.forall_mem_append.mp visible
      obtain ⟨resultName, visible⟩ := List.forall_mem_append.mp visible
      obtain ⟨_, others⟩ := List.forall_mem_append.mp visible
      rw [FunctionDeclaration.relabelAll, List.mapM_cons, List.mapM_cons]
      have typeNames : ∀ parameter ∈ parameters, simulation.Visible parameter.type.name :=
        fun parameter listed => parameterNames _
          (List.mem_flatMap.mpr ⟨parameter, listed, by simp [TypedName.names]⟩)
      have resultType : ∀ type ∈ result.toList, simulation.Visible type.name :=
        fun type listed => resultName _ (List.mem_map_of_mem listed)
      apply (parallel_announceFunction typeNames resultType _ _ _ _).bind
      intro between header other _ alike
      apply (inductionHypothesis others).bind
      intro last headers otherHeaders onward allAlike
      exact .pure (.cons (headers_later onward alike) allAlike)

mutual

theorem parallel_inferPlace {sides : Sides} (place : Place)
    (visible : ∀ name ∈ place.names, simulation.Visible name) :
    simulation.Parallel sides (inferPlace place)
      (inferPlace (place.relabel simulation.relabeling)) simulation.Value := by
  cases place with
  | name name span =>
      rw [Place.relabel, inferPlace, inferPlace]
      exact parallel_variableNamed (visible name.name (List.mem_singleton_self _))
  | field base field span =>
      rw [Place.relabel, inferPlace, inferPlace, Place.span_relabel]
      apply (parallel_inferPlace base (List.forall_mem_cons.mp visible).2).bind
      intro later baseType otherBase _ value
      exact parallel_selectField value base.span field
  | element base index span =>
      obtain ⟨baseNames, indexNames⟩ := List.forall_mem_append.mp visible
      rw [Place.relabel, inferPlace, inferPlace, Place.span_relabel, Expression.span_relabel]
      apply (parallel_inferPlace base baseNames).bind
      intro s1 baseType otherBase _ baseValue
      apply (parallel_inferExpression index indexNames).bind
      intro s2 indexType otherIndex onward2 indexValue
      apply (parallel_expectInteger indexValue index.span none).bind
      intro s3 _ _ onward3 _
      exact parallel_selectElement (onward3 (onward2 baseValue)) base.span
termination_by structural place

theorem parallel_inferExpression {sides : Sides} (expression : Expression)
    (visible : ∀ name ∈ expression.names, simulation.Visible name) :
    simulation.Parallel sides (inferExpression expression)
      (inferExpression (expression.relabel simulation.relabeling)) simulation.Value := by
  cases expression with
  | nil | integer | string | breakLoop => exact .given fun linked => .pure linked.builtIn
  | malformed span => exact .abort _
  | place place span =>
      rw [Expression.relabel, inferExpression, inferExpression]
      exact parallel_inferPlace place visible
  | call function arguments span =>
      obtain ⟨functionName, argumentNames⟩ := List.forall_mem_cons.mp visible
      rw [Expression.relabel, inferExpression, inferExpression, Expression.length_relabelAll]
      apply (parallel_expectCall functionName arguments.length span).bind
      intro s1 answer other _ expecting
      apply (parallel_checkArguments arguments argumentNames expecting.expected).bind
      intro s2 _ _ onward _
      exact .pure (onward expecting.value)
  | binary operator left right span =>
      obtain ⟨leftNames, rightNames⟩ := List.forall_mem_append.mp visible
      rw [Expression.relabel, inferExpression, inferExpression, Expression.span_relabel,
        Expression.span_relabel]
      apply (parallel_inferExpression left leftNames).bind
      intro s1 leftType otherLeft _ leftValue
      apply (parallel_inferExpression right rightNames).bind
      intro s2 rightType otherRight onward rightValue
      apply (parallel_expectOperands operator (onward leftValue) rightValue left.span
        right.span).bind
      intro s3 _ _ _ _
      exact .given fun linked => .pure linked.builtIn
  | record type fields span =>
      obtain ⟨typeName, fieldNames⟩ := List.forall_mem_cons.mp visible
      rw [Expression.relabel, inferExpression, inferExpression, Initializer.length_relabelAll]
      apply (parallel_expectRecord typeName fields.length span).bind
      intro s1 answer other _ expecting
      apply (parallel_checkInitializers fields fieldNames expecting.expected).bind
      intro s2 _ _ onward _
      exact .pure (onward expecting.value)
  | array type size initial span =>
      obtain ⟨typeName, visible⟩ := List.forall_mem_cons.mp visible
      obtain ⟨sizeNames, initialNames⟩ := List.forall_mem_append.mp visible
      rw [Expression.relabel, inferExpression, inferExpression, Expression.span_relabel,
        Expression.span_relabel]
      apply (parallel_inferExpression size sizeNames).bind
      intro s1 sizeType otherSize _ sizeValue
      apply (parallel_expectInteger sizeValue size.span none).bind
      intro s2 _ _ _ _
      apply (parallel_inferExpression initial initialNames).bind
      intro s3 initialType otherInitial _ initialValue
      exact parallel_expectArray typeName initialValue initial.span
  | sequence members span =>
      rw [Expression.relabel, inferExpression, inferExpression]
      exact .given fun linked => parallel_inferSequence members visible linked.builtIn
  | assign target value span =>
      obtain ⟨targetNames, valueNames⟩ := List.forall_mem_append.mp visible
      rw [Expression.relabel, inferExpression, inferExpression, Expression.span_relabel]
      apply (parallel_inferPlace target targetNames).bind
      intro s1 targetType otherTarget _ targetValue
      apply (parallel_inferExpression value valueNames).bind
      intro s2 valueType otherValue onward valueValue
      apply (parallel_expectCompatible (onward targetValue) valueValue value.span
        fun _ => rfl).bind
      intro s3 _ _ _ _
      exact .given fun linked => .pure linked.builtIn
  | ifThen test body span | whileLoop test body span =>
      obtain ⟨testNames, bodyNames⟩ := List.forall_mem_append.mp visible
      rw [Expression.relabel, inferExpression, inferExpression, Expression.span_relabel]
      apply (parallel_inferExpression test testNames).bind
      intro s1 testType otherTest _ testValue
      apply (parallel_expectInteger testValue test.span none).bind
      intro s2 _ _ _ _
      apply (parallel_inferExpression body bodyNames).bind
      intro s3 _ _ _ _
      exact .given fun linked => .pure linked.builtIn
  | ifThenElse test positive negative span =>
      obtain ⟨testNames, visible⟩ := List.forall_mem_append.mp visible
      obtain ⟨positiveNames, negativeNames⟩ := List.forall_mem_append.mp visible
      rw [Expression.relabel, inferExpression, inferExpression, Expression.span_relabel,
        Expression.span_relabel]
      apply (parallel_inferExpression test testNames).bind
      intro s1 testType otherTest _ testValue
      apply (parallel_expectInteger testValue test.span none).bind
      intro s2 _ _ _ _
      apply (parallel_inferExpression positive positiveNames).bind
      intro s3 positiveType otherPositive _ positiveValue
      apply (parallel_inferExpression negative negativeNames).bind
      intro s4 negativeType otherNegative onward negativeValue
      exact parallel_joinBranches (onward positiveValue) negativeValue negative.span
  | forLoop counter low high body span =>
      obtain ⟨_, visible⟩ := List.forall_mem_cons.mp visible
      obtain ⟨lowNames, visible⟩ := List.forall_mem_append.mp visible
      obtain ⟨highNames, bodyNames⟩ := List.forall_mem_append.mp visible
      refine .inScope ?_ (balanced_inferExpression _) (balanced_inferExpression _)
      rw [Expression.relabel, inferExpression, inferExpression, Expression.span_relabel,
        Expression.span_relabel]
      apply (parallel_inferExpression low lowNames).bind
      intro s1 lowType otherLow _ lowValue
      apply (parallel_expectInteger lowValue low.span none).bind
      intro s2 _ _ _ _
      apply (parallel_inferExpression high highNames).bind
      intro s3 highType otherHigh _ highValue
      apply (parallel_expectInteger highValue high.span none).bind
      intro s4 _ _ _ _
      apply parallel_openValueScope.bind
      intro s5 _ _ _ _
      refine .given fun linked => ?_
      apply (parallel_bindVariable counter.name linked.builtIn).bind
      intro s6 _ _ _ _
      apply (parallel_inferExpression body bodyNames).bind
      intro s7 _ _ _ _
      exact .given fun linked => simulates_closeValues linked.builtIn
  | block declarations body span =>
      obtain ⟨declaredNames, bodyNames⟩ := List.forall_mem_append.mp visible
      refine .inScope ?_ (balanced_inferExpression _) (balanced_inferExpression _)
      rw [Expression.relabel, inferExpression, inferExpression]
      apply parallel_openTypeScope.bind
      intro s1 _ _ _ _
      apply parallel_openValueScope.bind
      intro s2 _ _ _ _
      apply (Simulates.emit ⟨rfl, rfl⟩ ⟨rfl, rfl⟩).bind
      intro s3 _ _ _ _
      apply (parallel_makeDeclarations declarations declaredNames).bind
      intro s4 _ _ _ _
      apply (parallel_inferExpression body bodyNames).bind
      intro s5 result other _ value
      exact simulates_closeBlock value
termination_by structural expression

theorem parallel_checkArguments {sides : Sides} (arguments : List Expression)
    (visible : ∀ name ∈ Expression.allNames arguments, simulation.Visible name)
    {expected others : Expectations} (alike : expected.Forall₂ (simulation.Expected sides) others) :
    simulation.Parallel sides (checkArguments arguments expected)
      (checkArguments (Expression.relabelAll simulation.relabeling arguments) others)
      fun _ _ _ => True := by
  cases arguments with
  | nil => exact .pure trivial
  | cons argument rest =>
      obtain ⟨argumentNames, restNames⟩ := List.forall_mem_append.mp visible
      rw [Expression.relabelAll, checkArguments, checkArguments, Expression.span_relabel]
      apply (parallel_inferExpression argument argumentNames).bind
      intro s1 type other onward1 value
      have now := expected_later onward1 alike
      apply (parallel_expectNext now value argument.span).bind
      intro s2 _ _ onward2 _
      exact parallel_checkArguments rest restNames (expected_tail (expected_later onward2 now))
termination_by structural arguments

theorem parallel_checkInitializers {sides : Sides} (initializers : List Initializer)
    (visible : ∀ name ∈ Initializer.allNames initializers, simulation.Visible name)
    {expected others : Expectations} (alike : expected.Forall₂ (simulation.Expected sides) others) :
    simulation.Parallel sides (checkInitializers initializers expected)
      (checkInitializers (Initializer.relabelAll simulation.relabeling initializers) others)
      fun _ _ _ => True := by
  match initializers with
  | [] => exact .pure trivial
  | ⟨name, value, span⟩ :: rest =>
      obtain ⟨_, visible⟩ := List.forall_mem_cons.mp visible
      obtain ⟨valueNames, restNames⟩ := List.forall_mem_append.mp visible
      rw [Initializer.relabelAll, checkInitializers, checkInitializers, Expression.span_relabel]
      apply (parallel_inferExpression value valueNames).bind
      intro s1 type other onward1 typeValue
      have now := expected_later onward1 alike
      apply (parallel_expectNext now typeValue value.span).bind
      intro s2 _ _ onward2 _
      exact parallel_checkInitializers rest restNames (expected_tail (expected_later onward2 now))
termination_by structural initializers

theorem parallel_inferSequence {sides : Sides} (members : List Expression)
    (visible : ∀ name ∈ Expression.allNames members, simulation.Visible name)
    {last other : TypeId} (value : simulation.Value sides last other) :
    simulation.Parallel sides (inferSequence members last)
      (inferSequence (Expression.relabelAll simulation.relabeling members) other)
      simulation.Value := by
  cases members with
  | nil => exact .pure value
  | cons member rest =>
      obtain ⟨memberNames, restNames⟩ := List.forall_mem_append.mp visible
      rw [Expression.relabelAll, inferSequence, inferSequence]
      apply (parallel_inferExpression member memberNames).bind
      intro later type otherType _ typeValue
      exact parallel_inferSequence rest restNames typeValue
termination_by structural members

theorem parallel_makeDeclaration {sides : Sides} (declaration : Declaration)
    (visible : ∀ name ∈ declaration.names, simulation.Visible name) :
    simulation.Parallel sides (makeDeclaration declaration)
      (makeDeclaration (declaration.relabel simulation.relabeling)) fun _ _ _ => True := by
  match declaration with
  | .variable name ascribed initial span =>
      obtain ⟨_, visible⟩ := List.forall_mem_cons.mp visible
      obtain ⟨ascribedName, initialNames⟩ := List.forall_mem_append.mp visible
      have typeName : ∀ type ∈ ascribed.toList, simulation.Visible type.name :=
        fun type listed => ascribedName _ (List.mem_map_of_mem listed)
      rw [Declaration.relabel, makeDeclaration, makeDeclaration, Expression.span_relabel]
      apply (parallel_inferExpression initial initialNames).bind
      intro s1 initialType otherInitial _ initialValue
      apply (parallel_variableType name typeName initialValue initial.span).bind
      intro s2 type other _ value
      exact parallel_bindVariable name.name value
  | .functions members span =>
      rw [Declaration.relabel, makeDeclaration, makeDeclaration]
      apply (Simulates.emit ⟨rfl, rfl⟩ ⟨rfl, rfl⟩).bind
      intro s1 _ _ _ _
      apply (parallel_announceFunctions visible).bind
      intro s2 headers others _ alike
      exact parallel_checkBodies members visible alike
  | .types members span =>
      rw [Declaration.relabel, makeDeclaration, makeDeclaration]
      refine parallel_makeTypes fun member listed name used => visible name.name ?_
      exact List.mem_flatMap.mpr ⟨member, listed,
        List.mem_cons_of_mem _ (TypeExpression.mem_names_of_mem_used used)⟩
termination_by structural declaration

theorem parallel_makeDeclarations {sides : Sides} (declarations : List Declaration)
    (visible : ∀ name ∈ Declaration.allNames declarations, simulation.Visible name) :
    simulation.Parallel sides (makeDeclarations declarations)
      (makeDeclarations (Declaration.relabelAll simulation.relabeling declarations))
      fun _ _ _ => True := by
  cases declarations with
  | nil => exact .pure trivial
  | cons declaration rest =>
      obtain ⟨firstNames, restNames⟩ := List.forall_mem_append.mp visible
      rw [Declaration.relabelAll, makeDeclarations, makeDeclarations]
      apply (parallel_makeDeclaration declaration firstNames).bind
      intro later _ _ _ _
      exact parallel_makeDeclarations rest restNames
termination_by structural declarations

theorem parallel_checkBodies {sides : Sides} (members : List FunctionDeclaration)
    (visible : ∀ name ∈ FunctionDeclaration.allNames members, simulation.Visible name)
    {headers others : List FunctionHeader}
    (alike : headers.Forall₂ (simulation.Headers sides) others) :
    simulation.Parallel sides (checkBodies members headers)
      (checkBodies (FunctionDeclaration.relabelAll simulation.relabeling members) others)
      fun _ _ _ => True := by
  match members, headers, others, alike with
  | [], _, _, _ =>
      rw [FunctionDeclaration.relabelAll]
      unfold checkBodies
      exact .pure trivial
  | ⟨_, _, _, _, _⟩ :: _, [], [], .nil => exact .pure trivial
  | ⟨name, parameters, result, body, span⟩ :: rest, header :: headers, other :: others,
      .cons same alike =>
      obtain ⟨_, visible⟩ := List.forall_mem_cons.mp visible
      obtain ⟨_, visible⟩ := List.forall_mem_append.mp visible
      obtain ⟨_, visible⟩ := List.forall_mem_append.mp visible
      obtain ⟨bodyNames, restNames⟩ := List.forall_mem_append.mp visible
      rw [FunctionDeclaration.relabelAll, checkBodies_cons _ rest,
        checkBodies_cons _ (FunctionDeclaration.relabelAll simulation.relabeling rest)]
      have first : simulation.Parallel sides
          (checkBodies [⟨name, parameters, result, body, span⟩] [header])
          (checkBodies [⟨name.relabel simulation.relabeling,
            parameters.map (·.relabel simulation.relabeling),
            result.map (·.relabel simulation.relabeling), body.relabel simulation.relabeling,
            simulation.relabeling.span span⟩] [other]) fun _ _ _ => True := by
        refine .inScope ?_ (balanced_checkBodies _ _) (balanced_checkBodies _ _)
        rw [checkBodies, checkBodies]
        apply parallel_openValueScope.bind
        intro s1 _ _ onward1 _
        apply parallel_frame.bind
        intro s2 outer otherOuter onward2 sameOuter
        apply (parallel_setFrame same.frame).bind
        intro s3 _ _ onward3 _
        have inside := headers_later ((onward1.trans onward2).trans onward3) same
        apply (parallel_bindParameters parameters inside.parameters).bind
        intro s4 _ _ onward4 _
        apply (parallel_inferExpression body bodyNames).bind
        intro s5 bodyType otherBody onward5 value
        apply (parallel_expectCompatible (onward5 (onward4 inside.result)) value span
          fun literal => congrArg some (name_of_literal literal name.name)).bind
        intro s6 _ _ _ _
        exact simulates_closeBody sameOuter
      apply first.bind
      intro later _ _ onward _
      exact parallel_checkBodies rest restNames (alike.imp fun _ _ => headers_later onward)
termination_by structural members

end

theorem parallel_inferProgram {sides : Sides} (program : Expression)
    (visible : ∀ name ∈ program.names, simulation.Visible name) :
    simulation.Parallel sides (inferProgram program)
      (inferProgram (program.relabel simulation.relabeling)) simulation.Value := by
  apply (parallel_inferExpression program visible).bind
  intro s1 type other _ value
  apply Simulates.types
  intro _
  apply (Simulates.emit ⟨rfl, rfl⟩ ⟨rfl, rfl⟩).bind
  intro s2 _ _ onward _
  exact .pure (onward value)

/-!
## One tree on both sides
-/

section OneTree

variable {sides : Sides} (unchanged : simulation.relabeling = .none)
include unchanged

theorem parallel_same (expression : Expression)
    (visible : ∀ name ∈ expression.names, simulation.Visible name) :
    simulation.Parallel sides (inferExpression expression) (inferExpression expression)
      simulation.Value := by
  have simulated : simulation.Parallel sides (inferExpression expression)
      (inferExpression (expression.relabel simulation.relabeling)) simulation.Value :=
    parallel_inferExpression expression visible
  rwa [unchanged, Expression.relabel_none] at simulated

theorem parallel_sameDeclarations (declarations : List Declaration)
    (visible : ∀ name ∈ Declaration.allNames declarations, simulation.Visible name) :
    simulation.Parallel sides (makeDeclarations declarations) (makeDeclarations declarations)
      fun _ _ _ => True := by
  have simulated : simulation.Parallel sides (makeDeclarations declarations)
      (makeDeclarations (Declaration.relabelAll simulation.relabeling declarations))
      fun _ _ _ => True := parallel_makeDeclarations declarations visible
  rwa [unchanged, Declaration.relabelAll_none] at simulated

theorem parallel_sameBodies (members : List FunctionDeclaration)
    (visible : ∀ name ∈ FunctionDeclaration.allNames members, simulation.Visible name)
    {headers others : List FunctionHeader}
    (alike : headers.Forall₂ (simulation.Headers sides) others) :
    simulation.Parallel sides (checkBodies members headers) (checkBodies members others)
      fun _ _ _ => True := by
  have simulated : simulation.Parallel sides (checkBodies members headers)
      (checkBodies (FunctionDeclaration.relabelAll simulation.relabeling members) others)
      fun _ _ _ => True := parallel_checkBodies members visible alike
  rwa [unchanged, FunctionDeclaration.relabelAll_none] at simulated

end OneTree

end Simulation
end StaticSemantics
