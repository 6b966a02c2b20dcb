import StaticSemantics.Check.Expression
import StaticSemantics.Proofs.Comparison.Basic
import StaticSemantics.Proofs.Compatibility

namespace StaticSemantics

/-!
# The rules run alike

Every rule is taken through the two ways in which a value may differ on the
second side.  If its type corresponds, all questions are answered alike and the
same is reported.  If it has been forgotten, the second side is content with
the error type, reports nothing about it and answers with the error type where
the answer depends on it.
-/

namespace Comparison

open Check

variable {comparison : Comparison}

/-!
## Comparing types
-/

theorem run_expectCompatible_of_compatible {expected found : TypeId} {state : State}
    (agrees : state.types.compatible expected found = true) (span : Span) (name : Option String) :
    (expectCompatible expected found span name).run state = ⟨.ok (), state, []⟩ := by
  rw [run_expectCompatible, if_pos agrees]

theorem parallel_expectCompatible {expected otherExpected found otherFound : TypeId}
    (expectedValue : comparison.Value expected otherExpected)
    (foundValue : comparison.Value found otherFound) (span : Span) (name : Option String) :
    comparison.Parallel (expectCompatible expected found span name)
      (expectCompatible otherExpected otherFound span name) fun _ _ => True := by
  rcases expectedValue with rfl | ⟨forgets, rfl⟩
  · rcases foundValue with rfl | ⟨forgets, rfl⟩
    · apply Parallel.types
      intro types other shifted
      rw [shifted.renamed.compatible_rename, shifted.renamed.describeApart_rename]
      by_cases agrees : types.compatible expected found = true
      · rw [if_pos agrees]
        exact .pure trivial
      · rw [if_neg agrees]
        exact .report _ _
    · exact .forgotten forgets (observes_expectCompatible _ _ _ _)
        (fun other error => run_expectCompatible_of_compatible
          (Types.compatible_error_right error _) span name) fun _ => trivial
  · exact .forgotten forgets (observes_expectCompatible _ _ _ _)
      (fun other error => run_expectCompatible_of_compatible
        (Types.compatible_error_left error _) span name) fun _ => trivial

theorem parallel_expectInteger {found other : TypeId} (value : comparison.Value found other)
    (span : Span) (name : Option String) :
    comparison.Parallel (expectInteger found span name) (expectInteger other span name)
      fun _ _ => True := by
  rcases value with rfl | ⟨forgets, rfl⟩
  · apply Parallel.types
    intro types other shifted
    rw [shifted.renamed.isInteger_rename]
    by_cases integer : types.isInteger found = true
    · rw [if_pos integer, if_pos integer]
      exact .pure trivial
    · rw [if_neg integer, if_neg integer]
      exact parallel_expectCompatible value_int (value_apply found) _ _
  · have content : ∀ other : State, other.types.get .error = .error →
        (expectInteger .error span name).run other = ⟨.ok (), other, []⟩ := by
      intro other error
      rw [expectInteger, run_bind_of_ok (run_types other), if_pos (Types.isInteger_error error)]
      rfl
    exact .forgotten forgets (observes_expectInteger _ _ _) content fun _ => trivial

theorem parallel_reportKind (expected : String) (found : TypeId) (span : Span) :
    comparison.Parallel (reportKind expected found span)
      (reportKind expected (comparison.shift.apply found) span) fun _ _ => True := by
  apply Parallel.types
  intro types other shifted
  rw [shifted.renamed.describe_rename]
  exact .report _ _

theorem parallel_reportSort (expected : String) (declared : TypeId) (span : Span) :
    comparison.Parallel (reportSort expected declared span)
      (reportSort expected (comparison.shift.apply declared) span) fun _ _ => True := by
  apply Parallel.types
  intro types other shifted
  rw [shifted.renamed.isError_rename]
  by_cases unknown : types.isError declared = true
  · rw [if_pos unknown, if_pos unknown]
    exact .pure trivial
  · rw [if_neg unknown, if_neg unknown]
    exact parallel_reportKind _ _ _

theorem parallel_expectOperands (operator : Operator) {left otherLeft right otherRight : TypeId}
    (leftValue : comparison.Value left otherLeft)
    (rightValue : comparison.Value right otherRight) (leftSpan rightSpan : Span) :
    comparison.Parallel (expectOperands operator left leftSpan right rightSpan)
      (expectOperands operator otherLeft leftSpan otherRight rightSpan) fun _ _ => True := by
  unfold expectOperands
  by_cases arithmetic : operator.isArithmetic = true
  · rw [if_pos arithmetic, if_pos arithmetic]
    apply (parallel_expectInteger leftValue _ _).bind
    intro _ _ _
    exact parallel_expectInteger rightValue _ _
  · rw [if_neg arithmetic, if_neg arithmetic]
    exact parallel_expectCompatible leftValue rightValue _ _

/-- Where the type of the first branch is forgotten, so is the type of the
whole.  `nil` is never forgotten alone: then the other branch decides on both
sides. -/
theorem parallel_joinBranches {positive otherPositive negative otherNegative : TypeId}
    (positiveValue : comparison.Value positive otherPositive)
    (negativeValue : comparison.Value negative otherNegative) (negativeSpan : Span) :
    comparison.Parallel (joinBranches positive negative negativeSpan)
      (joinBranches otherPositive otherNegative negativeSpan) comparison.Value := by
  apply (parallel_expectCompatible positiveValue negativeValue _ _).bind
  intro _ _ _
  rcases positiveValue with rfl | ⟨forgets, rfl⟩
  · apply Parallel.types
    intro types other shifted
    rw [shifted.renamed.isNil_rename]
    by_cases isNil : types.isNil positive = true
    · rw [if_pos isNil, if_pos isNil]
      exact .pure negativeValue
    · rw [if_neg isNil, if_neg isNil]
      exact .pure (value_apply positive)
  · refine .forgotten forgets (.bind .types fun _ => .pure _) (fun other error => ?_)
      fun _ => .inr ⟨forgets, rfl⟩
    change (⟨.ok (if other.types.isNil .error then otherNegative else .error), other, []⟩ :
      Run TypeId) = _
    rw [Types.isNil_error error]
    rfl

/-!
## Parts of values
-/

theorem parallel_selectField {base other : TypeId} (value : comparison.Value base other)
    (baseSpan : Span) (field : Ident) :
    comparison.Parallel (selectField base baseSpan field) (selectField other baseSpan field)
      comparison.Value := by
  rcases value with rfl | ⟨forgets, rfl⟩
  · apply Parallel.types
    intro types other shifted
    rw [shifted.renamed.isError_rename, shifted.renamed.fieldsOf?_rename]
    by_cases unknown : types.isError base = true
    · rw [if_pos unknown, if_pos unknown]
      exact .pure value_error
    · rw [if_neg unknown, if_neg unknown]
      cases types.fieldsOf? base with
      | none =>
          apply (parallel_reportKind _ _ _).bind
          intro _ _ _
          exact .pure value_error
      | some fields =>
          simp only [Option.map_some, List.find?_map, Function.comp_def]
          cases fields.find? (·.name == field.name) with
          | some found => exact .pure (value_apply found.type)
          | none =>
              apply (Parallel.report _ _).bind
              intro _ _ _
              exact .pure value_error
  · refine .forgotten forgets (observes_selectField _ _ _) (fun other error => ?_)
      fun _ => .inr ⟨forgets, rfl⟩
    rw [selectField, run_bind_of_ok (run_types other), if_pos (Types.isError_error error)]
    rfl

theorem parallel_selectElement {base other : TypeId} (value : comparison.Value base other)
    (baseSpan : Span) :
    comparison.Parallel (selectElement base baseSpan) (selectElement other baseSpan)
      comparison.Value := by
  rcases value with rfl | ⟨forgets, rfl⟩
  · apply Parallel.types
    intro types other shifted
    rw [shifted.renamed.isError_rename, shifted.renamed.elementOf?_rename]
    by_cases unknown : types.isError base = true
    · rw [if_pos unknown, if_pos unknown]
      exact .pure value_error
    · rw [if_neg unknown, if_neg unknown]
      cases types.elementOf? base with
      | none =>
          apply (parallel_reportKind _ _ _).bind
          intro _ _ _
          exact .pure value_error
      | some element => exact .pure (value_apply element)
  · refine .forgotten forgets (observes_selectElement _ _) (fun other error => ?_)
      fun _ => .inr ⟨forgets, rfl⟩
    rw [selectElement, run_bind_of_ok (run_types other), if_pos (Types.isError_error error)]
    rfl

/-!
## Names
-/

theorem parallel_typeNamed? (name : Ident) :
    comparison.Parallel (typeNamed? name) (typeNamed? name)
      fun found other => other = found.map comparison.shift.apply := by
  intro state other linked
  rw [run_typeNamed?, run_typeNamed?, linked.typeNames.typeReports_eq]
  exact ⟨linked, .refl _, .ok (linked.typeNames.typeOf?_eq name.name)⟩

theorem parallel_typeNamed (name : Ident) :
    comparison.Parallel (typeNamed name) (typeNamed name) comparison.Value := by
  apply (parallel_typeNamed? name).bind
  rintro found _ rfl
  cases found with
  | none => exact .pure value_error
  | some id => exact .pure (value_apply id)

theorem parallel_variableNamed (name : Ident) :
    comparison.Parallel (variableNamed name) (variableNamed name) comparison.Value := by
  apply Parallel.state
  intro state other linked
  have found := linked.valueNames.lookUpVariable name.name
  generalize state.valueNames.lookUpVariable name.name = answer at found
  generalize other.valueNames.lookUpVariable name.name = otherAnswer at found
  cases found with
  | ok value => exact .pure value
  | error error =>
      apply (Parallel.report _ _).bind
      intro _ _ _
      exact .pure value_int

/-- What a function is known by on the two sides. -/
def Signatures (comparison : Comparison) (entry other : FunctionEntry) : Prop :=
  entry.parameters.Forall₂ comparison.Value other.parameters ∧
    comparison.Value entry.result other.result

theorem parallel_functionNamed? (name : Ident) :
    comparison.Parallel (functionNamed? name) (functionNamed? name)
      (Option.Rel comparison.Signatures) := by
  apply Parallel.state
  intro state other linked
  have found := linked.valueNames.lookUpFunction name.name
  generalize state.valueNames.lookUpFunction name.name = answer at found
  generalize other.valueNames.lookUpFunction name.name = otherAnswer at found
  cases found with
  | ok signatures => exact .pure (.some signatures)
  | error error =>
      apply (Parallel.report _ _).bind
      intro _ _ _
      exact .pure .none

/-!
## What is expected
-/

/-- Expectations of one member on the two sides. -/
structure Expected (comparison : Comparison) (expected other : TypeId × String) : Prop where
  value : comparison.Value expected.1 other.1
  name_eq : other.2 = expected.2

theorem parallel_expectNext {expected others : Expectations}
    (alike : expected.Forall₂ comparison.Expected others) {found other : TypeId}
    (value : comparison.Value found other) (span : Span) :
    comparison.Parallel (expectNext expected found span) (expectNext others other span)
      fun _ _ => True := by
  cases alike with
  | nil => exact .pure trivial
  | @cons first otherFirst rest otherRest first rest =>
      rw [expectNext, expectNext, first.name_eq]
      exact parallel_expectCompatible first.value value _ _

theorem forall₂_tail {expected others : Expectations}
    (alike : expected.Forall₂ comparison.Expected others) :
    expected.tail.Forall₂ comparison.Expected others.tail := by
  cases alike with
  | nil => exact .nil
  | cons first rest => exact rest

/-- What a rule expects of a list, with the type of the whole. -/
structure Expecting (comparison : Comparison) (answer other : Expectations × TypeId) : Prop where
  expected : answer.1.Forall₂ comparison.Expected other.1
  value : comparison.Value answer.2 other.2

theorem expecting_nothing {id other : TypeId} (value : comparison.Value id other) :
    comparison.Expecting ([], id) ([], other) :=
  ⟨.nil, value⟩

theorem parallel_expectCall (function : Ident) (arguments : Nat) (span : Span) :
    comparison.Parallel (expectCall function arguments span) (expectCall function arguments span)
      comparison.Expecting := by
  apply (parallel_functionNamed? function).bind
  intro found other signatures
  cases signatures with
  | none => exact .pure (expecting_nothing value_error)
  | @some entry otherEntry signatures =>
      simp only [← signatures.1.length_eq]
      by_cases fits : entry.parameters.length = arguments
      · rw [if_pos fits, if_pos fits]
        refine .pure ⟨?_, signatures.2⟩
        rw [List.forall₂_map_left_iff, List.forall₂_map_right_iff]
        exact signatures.1.imp fun _ _ value => ⟨value, rfl⟩
      · rw [if_neg fits, if_neg fits]
        apply (Parallel.report _ _).bind
        intro _ _ _
        exact .pure (expecting_nothing signatures.2)

theorem parallel_expectRecord (type : Ident) (fields : Nat) (span : Span) :
    comparison.Parallel (expectRecord type fields span) (expectRecord type fields span)
      comparison.Expecting := by
  apply (parallel_typeNamed? type).bind
  rintro found _ rfl
  cases found with
  | none => exact .pure (expecting_nothing value_error)
  | some declared =>
      apply Parallel.types
      intro types other shifted
      rw [shifted.renamed.fieldsOf?_rename, shifted.renamed.representative_rename]
      cases types.fieldsOf? declared with
      | none =>
          apply (parallel_reportSort _ _ _).bind
          intro _ _ _
          exact .pure (expecting_nothing value_error)
      | some declaredFields =>
          simp only [Option.map_some, List.length_map, List.map_map]
          by_cases fits : declaredFields.length = fields
          · rw [if_pos fits, if_pos fits]
            refine .pure ⟨?_, value_apply _⟩
            rw [List.forall₂_map_left_iff, List.forall₂_map_right_iff]
            exact List.forall₂_same.mpr fun field _ => ⟨value_apply field.type, rfl⟩
          · rw [if_neg fits, if_neg fits]
            apply (Parallel.report _ _).bind
            intro _ _ _
            exact .pure (expecting_nothing (value_apply _))

theorem parallel_expectArray (type : Ident) {initial other : TypeId}
    (value : comparison.Value initial other) (initialSpan : Span) :
    comparison.Parallel (expectArray type initial initialSpan) (expectArray type other initialSpan)
      comparison.Value := by
  apply (parallel_typeNamed? type).bind
  rintro found _ rfl
  cases found with
  | none => exact .pure value_error
  | some declared =>
      apply Parallel.types
      intro types other shifted
      rw [shifted.renamed.elementOf?_rename, shifted.renamed.representative_rename]
      cases types.elementOf? declared with
      | none =>
          apply (parallel_reportSort _ _ _).bind
          intro _ _ _
          exact .pure value_error
      | some element =>
          apply (parallel_expectCompatible (value_apply element) value _ _).bind
          intro _ _ _
          exact .pure (value_apply _)

/-!
## Declarations
-/

/-- A forgotten initial value makes a variable of the error type, even where
the first side complains that the value cannot be stored. -/
theorem parallel_variableType (name : Ident) (ascribed : Option Ident) {initial other : TypeId}
    (value : comparison.Value initial other) (initialSpan : Span) :
    comparison.Parallel (variableType name ascribed initial initialSpan)
      (variableType name ascribed other initialSpan) comparison.Value := by
  cases ascribed with
  | some ascribed =>
      apply (parallel_typeNamed? ascribed).bind
      rintro found _ rfl
      cases found with
      | none => exact .pure value_error
      | some declared =>
          apply (parallel_expectCompatible (value_apply declared) value _ _).bind
          intro _ _ _
          exact .pure (value_apply declared)
  | none =>
      rcases value with rfl | ⟨forgets, rfl⟩
      · apply Parallel.types
        intro types other shifted
        rw [shifted.renamed.isNil_rename, shifted.renamed.isVoid_rename]
        by_cases isNil : types.isNil initial = true
        · rw [if_pos isNil, if_pos isNil]
          apply (Parallel.report _ _).bind
          intro _ _ _
          exact .pure value_error
        · rw [if_neg isNil, if_neg isNil]
          by_cases isVoid : types.isVoid initial = true
          · rw [if_pos isVoid, if_pos isVoid]
            apply (Parallel.report _ _).bind
            intro _ _ _
            exact .pure value_error
          · rw [if_neg isVoid, if_neg isVoid]
            exact .pure (value_apply initial)
      · refine .forgotten forgets (observes_variableType _ none _ _) (fun other error => ?_)
          fun _ => .inr ⟨forgets, rfl⟩
        have isNil := ne_true_of_eq_false (Types.isNil_error error)
        have isVoid := ne_true_of_eq_false (Types.isVoid_error error)
        simp only [variableType]
        rw [run_bind_of_ok (run_types other), if_neg isNil, if_neg isVoid]
        rfl

theorem parallel_bindValue (name : String) {entry other : Entry}
    (entries : comparison.Entries entry other) :
    comparison.Parallel (bindValue name entry) (bindValue name other) fun _ _ => True :=
  fun _ _ linked =>
    ⟨⟨linked.types, linked.typeNames, linked.valueNames.bind name entries⟩, .refl [], .ok trivial⟩

theorem parallel_takeSlot : comparison.Parallel takeSlot takeSlot fun _ _ => True :=
  fun _ _ linked => ⟨⟨linked.types, linked.typeNames, linked.valueNames⟩, .refl [], .ok trivial⟩

theorem parallel_bindVariable (name : String) {type other : TypeId}
    (value : comparison.Value type other) :
    comparison.Parallel (bindVariable name type) (bindVariable name other) fun _ _ => True := by
  apply parallel_takeSlot.bind
  intro _ _ _
  exact parallel_bindValue name value

theorem parallel_resultType (result : Option Ident) :
    comparison.Parallel (resultType result) (resultType result) comparison.Value := by
  cases result with
  | none => exact .pure value_void
  | some name => exact parallel_typeNamed name

/-- What is known of a function before its body is checked, on the two sides. -/
structure Headers (comparison : Comparison) (header other : FunctionHeader) : Prop where
  parameters : header.parameters.Forall₂ comparison.Value other.parameters
  result : comparison.Value header.result other.result

theorem parallel_takeLabel : comparison.Parallel takeLabel takeLabel fun _ _ => True :=
  fun _ _ linked => ⟨⟨linked.types, linked.typeNames, linked.valueNames⟩, .refl [], .ok trivial⟩

theorem parallel_takeFrame (parent otherParent : Frame) (label otherLabel : Label)
    (parameters otherParameters : Nat) :
    comparison.Parallel (takeFrame parent label parameters)
      (takeFrame otherParent otherLabel otherParameters) fun _ _ => True :=
  fun _ _ linked => ⟨⟨linked.types, linked.typeNames, linked.valueNames⟩, .refl [], .ok trivial⟩

theorem parallel_typesNamed (parameters : List TypedName) :
    comparison.Parallel (parameters.mapM fun parameter => typeNamed parameter.type)
      (parameters.mapM fun parameter => typeNamed parameter.type)
      fun types others => types.Forall₂ comparison.Value others := by
  apply Parallel.mapM
  intro parameter
  exact parallel_typeNamed parameter.type

theorem parallel_announceFunction (member : FunctionDeclaration) :
    comparison.Parallel (announceFunction member) (announceFunction member)
      comparison.Headers := by
  apply (parallel_resultType member.result).bind
  intro result otherResult resultValue
  apply (parallel_typesNamed member.parameters).bind
  intro parameters otherParameters parameterValues
  apply parallel_takeLabel.bind
  intro label otherLabel _
  apply Parallel.frame.bind
  intro parent otherParent _
  apply (parallel_takeFrame _ _ _ _ _ _).bind
  intro frame otherFrame _
  have entries : comparison.Entries (.function ⟨parameters, result, frame, label⟩)
      (.function ⟨otherParameters, otherResult, otherFrame, otherLabel⟩) :=
    ⟨parameterValues, resultValue⟩
  apply (parallel_bindValue member.name.name entries).bind
  intro _ _ _
  exact .pure ⟨parameterValues, resultValue⟩

theorem parallel_bindParameters (parameters : List TypedName) {types others : List TypeId}
    (values : types.Forall₂ comparison.Value others) :
    comparison.Parallel (bindParameters parameters types) (bindParameters parameters others)
      fun _ _ => True := by
  unfold bindParameters
  induction values generalizing parameters with
  | nil =>
      rw [List.zip_nil_right]
      exact .pure trivial
  | cons value _ inductionHypothesis =>
      cases parameters with
      | nil => exact .pure trivial
      | cons parameter rest =>
          exact (parallel_bindVariable parameter.name.name value).bind fun _ _ _ =>
            inductionHypothesis rest

/-!
## Groups of types
-/

theorem Environments.bindAll {env other : Environment}
    (environments : comparison.Environments env other) {bindings others : List Binding}
    (related : bindings.Forall₂ comparison.Bindings others) :
    comparison.Environments (env.bindAll bindings) (other.bindAll others) := by
  induction related generalizing env other with
  | nil => exact environments
  | cons first rest inductionHypothesis =>
      rw [Environment.bindAll_cons, Environment.bindAll_cons, first.name_eq]
      exact inductionHypothesis (environments.bind _ first.entries)

/-- The names of a group are bound to numbers that correspond. -/
theorem bindings_groupBindings {size : Nat} (large : comparison.shift.start ≤ size)
    (members : List TypeDeclaration) :
    (groupBindings size members).Forall₂ comparison.Bindings
      (groupBindings (size + comparison.shift.distance) members) := by
  induction members generalizing size with
  | nil => exact .nil
  | cons member rest inductionHypothesis =>
      rw [groupBindings_cons, groupBindings_cons, Nat.add_right_comm]
      refine .cons ⟨rfl, ?_⟩ (inductionHypothesis (Nat.le_succ_of_le large))
      have moved : comparison.shift.apply ⟨size⟩ = ⟨size + comparison.shift.distance⟩ :=
        Shift.apply_of_le large
      exact moved.symm

/-- The same group on both sides takes numbers that correspond, so it means the
same and breaks in the same places. -/
theorem parallel_makeTypes (members : List TypeDeclaration) :
    comparison.Parallel (makeTypes members) (makeTypes members) fun _ _ => True := by
  intro state other linked
  have names : comparison.Environments (state.groupNames members) (other.groupNames members) := by
    refine linked.typeNames.bindAll ?_
    rw [linked.types.size_eq]
    exact bindings_groupBindings linked.types.start_le members
  have shifted : (state.groupTypes members).Shifted comparison.shift (other.groupTypes members) :=
    linked.types.extend members _ _ (fun member => ⟨member.name.name, member.span⟩)
      fun member _ => member.body.meaning_rename _ Shift.apply_error names.typeOf?_eq
  rw [run_makeTypes, run_makeTypes]
  refine ⟨⟨shifted, names, linked.valueNames⟩, ?_, .ok trivial⟩
  have reads : ∀ member : TypeDeclaration, member.body.reports (other.groupNames members) =
      member.body.reports (state.groupNames members) := by
    intro member
    rw [TypeExpression.reports, TypeExpression.reports, funext names.typeReports_eq]
  have same : diagnosticsOf (other.groupEvents members) =
      diagnosticsOf (state.groupEvents members) := by
    have depth : other.typeNames.depth = state.typeNames.depth :=
      congrArg List.length linked.typeNames.marks_eq
    have ids : groupIds other.types.size members =
        (groupIds state.types.size members).map comparison.shift.apply := by
      rw [linked.types.size_eq, groupIds_add linked.types.start_le]
    rw [State.groupEvents, State.groupEvents, depth, ids, funext reads, List.zip_map_right,
      diagnosticsOf_append, diagnosticsOf_append, diagnosticsOf_append, diagnosticsOf_append,
      shifted.renamed.diagnosticsOf_chains fun _ => shifted.renamed.mem_map]
  rw [same]
  exact .refl _

end Comparison
end StaticSemantics
