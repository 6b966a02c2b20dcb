import StaticSemantics.Proofs.Simulation.Basic

namespace StaticSemantics

/-!
# The rules are simulated

A rule branches on what it finds in scope and on the answers to its questions
about types.  Both correspond on the two sides, so the same branch is taken, and
a report in that branch is made on both sides.  Only the words may differ, and
they do not if the two sides are literally the same.
-/

/-- A failed lookup of another name. -/
def LookupError.relabel (relabeling : Relabeling) : LookupError → LookupError
  | notFound name => .notFound (relabeling.name name)
  | wrongKind name expected found => .wrongKind (relabeling.name name) expected found

/-- Two lookups with corresponding answers, or that fail in the same way. -/
inductive Found (relabeling : Relabeling) {α β : Type} (wanted : α → β → Prop) :
    Except LookupError α → Except LookupError β → Prop
  | ok {value : α} {other : β} (fits : wanted value other) :
    Found relabeling wanted (.ok value) (.ok other)
  | error (error : LookupError) :
    Found relabeling wanted (.error error) (.error (error.relabel relabeling))

namespace Ty.Alike

variable {rename : String → String} {related : TypeId → TypeId → Prop}
  {type other second otherSecond : Ty}

theorem agree_eq (first : Ty.Alike rename related type other)
    (alike : Ty.Alike rename related second otherSecond) :
    Types.agree other otherSecond = Types.agree type second := by
  cases first <;> cases alike <;> rfl

end Ty.Alike

/-- Of two types, each in its own table, the same can be said. -/
@[mk_iff]
structure Types.SameAnswers (types other : Types) (id otherId : TypeId) : Prop where
  isInteger_eq : other.isInteger otherId = types.isInteger id
  isNil_eq : other.isNil otherId = types.isNil id
  isVoid_eq : other.isVoid otherId = types.isVoid id
  isError_eq : other.isError otherId = types.isError id

namespace Simulation

open Check

variable {simulation : Simulation} {sides : Sides}

theorem name_of_literal (literal : simulation.literal) (name : String) :
    simulation.relabeling.name name = name := by
  rw [simulation.relabeling_of_literal literal]
  rfl

/-!
## Questions about types
-/

section Questions

variable {types other : Types} {id otherId second otherSecond : TypeId}

/-- What is asked of a single type has the same answer on both sides. -/
theorem answers_eq (tables : simulation.Tables types other)
    (value : simulation.Values types other id otherId) :
    types.SameAnswers other id otherId := by
  have alike := simulation.concrete tables value
  rw [Types.sameAnswers_iff]
  unfold Types.isInteger Types.isNil Types.isVoid Types.isError
  generalize types.concrete id = type at alike
  generalize other.concrete otherId = otherType at alike
  cases alike <;> exact ⟨rfl, rfl, rfl, rfl⟩

theorem fieldsOf?_alike (tables : simulation.Tables types other)
    (value : simulation.Values types other id otherId) :
    Option.Rel (fun fields others => fields.Forall₂
        (Field.Alike simulation.relabeling.name (simulation.Values types other)) others)
      (types.fieldsOf? id) (other.fieldsOf? otherId) := by
  have alike := simulation.concrete tables value
  unfold Types.fieldsOf?
  generalize types.concrete id = type at alike
  generalize other.concrete otherId = otherType at alike
  cases alike with
  | record alike => exact .some alike
  | _ => exact .none

theorem elementOf?_alike (tables : simulation.Tables types other)
    (value : simulation.Values types other id otherId) :
    Option.Rel (simulation.Values types other) (types.elementOf? id)
      (other.elementOf? otherId) := by
  have alike := simulation.concrete tables value
  unfold Types.elementOf?
  generalize types.concrete id = type at alike
  generalize other.concrete otherId = otherType at alike
  cases alike with
  | array elements => exact .some elements
  | _ => exact .none

theorem compatible_eq (tables : simulation.Tables types other)
    (value : simulation.Values types other id otherId)
    (secondValue : simulation.Values types other second otherSecond) :
    other.compatible otherId otherSecond = types.compatible id second := by
  have same : (other.representative otherId == other.representative otherSecond) =
      (types.representative id == types.representative second) := by
    rw [Bool.eq_iff_iff, beq_iff_eq, beq_iff_eq]
    exact (simulation.identity tables value secondValue).symm
  rw [Types.compatible, Types.compatible, same,
    (simulation.concrete tables value).agree_eq (simulation.concrete tables secondValue)]

end Questions

/-!
## Comparing types
-/

theorem parallel_expectCompatible {expected otherExpected found otherFound : TypeId}
    (expectedValue : simulation.Value sides expected otherExpected)
    (foundValue : simulation.Value sides found otherFound) (span : Span)
    {name otherName : Option String} (names : simulation.literal → otherName = name) :
    simulation.Parallel sides (expectCompatible expected found span name)
      (expectCompatible otherExpected otherFound (simulation.relabeling.span span) otherName)
      fun _ _ _ => True := by
  apply Simulates.types
  intro tables
  rw [compatible_eq tables expectedValue foundValue]
  by_cases agrees : sides.first.types.compatible expected found = true
  · rw [if_pos agrees, if_pos agrees]
    exact .pure trivial
  · rw [if_neg agrees, if_neg agrees]
    refine .report span ⟨rfl, fun literal => ?_⟩
    rw [simulation.tables_of_literal literal tables, names literal,
      simulation.values_of_literal literal expectedValue,
      simulation.values_of_literal literal foundValue]

theorem parallel_expectInteger {found other : TypeId}
    (value : simulation.Value sides found other) (span : Span) (name : Option String) :
    simulation.Parallel sides (expectInteger found span name)
      (expectInteger other (simulation.relabeling.span span) name) fun _ _ _ => True := by
  refine .given fun linked => ?_
  apply Simulates.types
  intro tables
  rw [(answers_eq tables value).isInteger_eq]
  by_cases integer : sides.first.types.isInteger found = true
  · rw [if_pos integer, if_pos integer]
    exact .pure trivial
  · rw [if_neg integer, if_neg integer]
    exact parallel_expectCompatible linked.builtIn value span fun _ => rfl

theorem parallel_reportKind (expected : String) {found other : TypeId}
    (value : simulation.Value sides found other) (span : Span) :
    simulation.Parallel sides (reportKind expected found span)
      (reportKind expected other (simulation.relabeling.span span)) fun _ _ _ => True := by
  apply Simulates.types
  intro tables
  refine .report span ⟨rfl, fun literal => ?_⟩
  rw [simulation.tables_of_literal literal tables, simulation.values_of_literal literal value]

theorem parallel_reportSort (expected : String) {declared other : TypeId}
    (value : simulation.Value sides declared other) (span : Span) :
    simulation.Parallel sides (reportSort expected declared span)
      (reportSort expected other (simulation.relabeling.span span)) fun _ _ _ => True := by
  apply Simulates.types
  intro tables
  rw [(answers_eq tables value).isError_eq]
  by_cases unknown : sides.first.types.isError declared = true
  · rw [if_pos unknown, if_pos unknown]
    exact .pure trivial
  · rw [if_neg unknown, if_neg unknown]
    exact parallel_reportKind expected value span

theorem parallel_expectOperands (operator : Operator) {left otherLeft right otherRight : TypeId}
    (leftValue : simulation.Value sides left otherLeft)
    (rightValue : simulation.Value sides right otherRight) (leftSpan rightSpan : Span) :
    simulation.Parallel sides (expectOperands operator left leftSpan right rightSpan)
      (expectOperands operator otherLeft (simulation.relabeling.span leftSpan) otherRight
        (simulation.relabeling.span rightSpan)) fun _ _ _ => True := by
  unfold expectOperands
  by_cases arithmetic : operator.isArithmetic = true
  · rw [if_pos arithmetic, if_pos arithmetic]
    apply (parallel_expectInteger leftValue leftSpan _).bind
    intro later _ _ onward _
    exact parallel_expectInteger (onward rightValue) rightSpan _
  · rw [if_neg arithmetic, if_neg arithmetic]
    exact parallel_expectCompatible leftValue rightValue rightSpan fun _ => rfl

theorem parallel_joinBranches {positive otherPositive negative otherNegative : TypeId}
    (positiveValue : simulation.Value sides positive otherPositive)
    (negativeValue : simulation.Value sides negative otherNegative) (negativeSpan : Span) :
    simulation.Parallel sides (joinBranches positive negative negativeSpan)
      (joinBranches otherPositive otherNegative (simulation.relabeling.span negativeSpan))
      simulation.Value := by
  apply (parallel_expectCompatible positiveValue negativeValue negativeSpan fun _ => rfl).bind
  intro later _ _ onward _
  apply Simulates.types
  intro tables
  rw [(answers_eq tables (onward positiveValue)).isNil_eq]
  by_cases isNil : later.first.types.isNil positive = true
  · rw [if_pos isNil, if_pos isNil]
    exact .pure (onward negativeValue)
  · rw [if_neg isNil, if_neg isNil]
    exact .pure (onward positiveValue)

/-!
## Parts of values
-/

/-- Fields are told apart by their names, and different names stay different. -/
theorem find?_alike {related : TypeId → TypeId → Prop} {fields others : List Field}
    (alike : fields.Forall₂ (Field.Alike simulation.relabeling.name related) others)
    (name : String) :
    Option.Rel (Field.Alike simulation.relabeling.name related) (fields.find? (·.name == name))
      (others.find? (·.name == simulation.relabeling.name name)) := by
  induction alike with
  | nil => exact .none
  | @cons field other rest others first _ inductionHypothesis =>
      rw [List.find?_cons, List.find?_cons, first.name_eq]
      by_cases same : field.name = name
      · rw [beq_iff_eq.mpr same, beq_iff_eq.mpr (congrArg simulation.relabeling.name same)]
        exact .some first
      · rw [beq_false_of_ne same, beq_false_of_ne (mt simulation.relabeling.injective same)]
        exact inductionHypothesis

theorem parallel_selectField {base other : TypeId} (value : simulation.Value sides base other)
    (baseSpan : Span) (field : Ident) :
    simulation.Parallel sides (selectField base baseSpan field)
      (selectField other (simulation.relabeling.span baseSpan)
        (field.relabel simulation.relabeling)) simulation.Value := by
  apply Simulates.types
  intro tables
  rw [(answers_eq tables value).isError_eq]
  by_cases unknown : sides.first.types.isError base = true
  · rw [if_pos unknown, if_pos unknown]
    exact .given fun linked => .pure linked.builtIn
  · rw [if_neg unknown, if_neg unknown]
    have found := fieldsOf?_alike tables value
    generalize sides.first.types.fieldsOf? base = fields at found
    generalize sides.second.types.fieldsOf? other = otherFields at found
    cases found with
    | none =>
        apply (parallel_reportKind _ value baseSpan).bind
        intro later _ _ _ _
        exact .given fun linked => .pure linked.builtIn
    | @some fields otherFields alike =>
        have selected := find?_alike alike field.name
        simp only [Ident.relabel]
        generalize fields.find? (·.name == field.name) = answer at selected
        generalize otherFields.find? (·.name == simulation.relabeling.name field.name) =
          otherAnswer at selected
        cases selected with
        | some alike => exact .pure alike.types
        | none =>
            have problems : simulation.Matches (.undefined "field" field.name)
                (.undefined "field" (simulation.relabeling.name field.name)) :=
              ⟨rfl, fun literal => by rw [name_of_literal literal]⟩
            apply (Simulates.report field.span problems).bind
            intro later _ _ _ _
            exact .given fun linked => .pure linked.builtIn

theorem parallel_selectElement {base other : TypeId} (value : simulation.Value sides base other)
    (baseSpan : Span) :
    simulation.Parallel sides (selectElement base baseSpan)
      (selectElement other (simulation.relabeling.span baseSpan)) simulation.Value := by
  apply Simulates.types
  intro tables
  rw [(answers_eq tables value).isError_eq]
  by_cases unknown : sides.first.types.isError base = true
  · rw [if_pos unknown, if_pos unknown]
    exact .given fun linked => .pure linked.builtIn
  · rw [if_neg unknown, if_neg unknown]
    have found := elementOf?_alike tables value
    generalize sides.first.types.elementOf? base = element at found
    generalize sides.second.types.elementOf? other = otherElement at found
    cases found with
    | none =>
        apply (parallel_reportKind _ value baseSpan).bind
        intro later _ _ _ _
        exact .given fun linked => .pure linked.builtIn
    | some elements => exact .pure elements

/-!
## Names
-/

theorem Environments.lookUpType {related : TypeId → TypeId → Prop} {env other : Environment}
    (environments : simulation.Environments related env other) {name : String}
    (visible : simulation.Visible name) :
    Found simulation.relabeling related (env.lookUpType name)
      (other.lookUpType (simulation.relabeling.name name)) := by
  unfold Environment.lookUpType
  have found := environments name visible
  generalize env.newest? name = entry at found
  generalize other.newest? (simulation.relabeling.name name) = otherEntry at found
  cases found with
  | none => exact .error (.notFound name)
  | some alike =>
      cases alike with
      | type types => exact .ok types
      | «variable» | function => exact .error (.wrongKind name _ _)

theorem Environments.lookUpVariable {related : TypeId → TypeId → Prop} {env other : Environment}
    (environments : simulation.Environments related env other) {name : String}
    (visible : simulation.Visible name) :
    Found simulation.relabeling (fun entry answer => related entry.type answer.type)
      (env.lookUpVariable name) (other.lookUpVariable (simulation.relabeling.name name)) := by
  unfold Environment.lookUpVariable
  have found := environments name visible
  generalize env.newest? name = entry at found
  generalize other.newest? (simulation.relabeling.name name) = otherEntry at found
  cases found with
  | none => exact .error (.notFound name)
  | some alike =>
      cases alike with
      | «variable» types => exact .ok types
      | type | function => exact .error (.wrongKind name _ _)

/-- What a function is known by on the two sides. -/
structure Signatures (related : TypeId → TypeId → Prop) (entry other : FunctionEntry) : Prop where
  parameters : entry.parameters.Forall₂ related other.parameters
  results : related entry.result other.result

theorem Environments.lookUpFunction {related : TypeId → TypeId → Prop} {env other : Environment}
    (environments : simulation.Environments related env other) {name : String}
    (visible : simulation.Visible name) :
    Found simulation.relabeling (Signatures related)
      (env.lookUpFunction name) (other.lookUpFunction (simulation.relabeling.name name)) := by
  unfold Environment.lookUpFunction
  have found := environments name visible
  generalize env.newest? name = entry at found
  generalize other.newest? (simulation.relabeling.name name) = otherEntry at found
  cases found with
  | none => exact .error (.notFound name)
  | some alike =>
      cases alike with
      | function parameters results => exact .ok ⟨parameters, results⟩
      | type | «variable» => exact .error (.wrongKind name _ _)

theorem matches_lookupProblem (error : LookupError) (what : String) :
    simulation.Matches (error.problem what)
      ((error.relabel simulation.relabeling).problem what) where
  kind_eq := by cases error <;> rfl
  same := by
    intro literal
    cases error <;> simp only [LookupError.relabel, name_of_literal literal]

theorem Environments.typeOf? {related : TypeId → TypeId → Prop} {env other : Environment}
    (environments : simulation.Environments related env other) {name : String}
    (visible : simulation.Visible name) :
    Option.Rel related (env.typeOf? name) (other.typeOf? (simulation.relabeling.name name)) := by
  unfold Environment.typeOf?
  have found := environments.lookUpType visible
  generalize env.lookUpType name = answer at found
  generalize other.lookUpType (simulation.relabeling.name name) = otherAnswer at found
  cases found with
  | ok types => exact .some types
  | error error => exact .none

theorem Environments.typeReports {related : TypeId → TypeId → Prop} {env other : Environment}
    (environments : simulation.Environments related env other) {name : Ident}
    (visible : simulation.Visible name.name) :
    simulation.Reports (env.typeReports name)
      (other.typeReports (name.relabel simulation.relabeling)) := by
  unfold Environment.typeReports
  have found := environments.lookUpType visible
  simp only [Ident.relabel]
  generalize env.lookUpType name.name = answer at found
  generalize other.lookUpType (simulation.relabeling.name name.name) = otherAnswer at found
  cases found with
  | ok types => exact .nil
  | error error =>
      exact ⟨.cons ((matches_lookupProblem error "type").reported name.span) .nil, fun _ => rfl⟩

theorem parallel_typeNamed? {name : Ident} (visible : simulation.Visible name.name) :
    simulation.Parallel sides (typeNamed? name)
      (typeNamed? (name.relabel simulation.relabeling))
      fun later => Option.Rel (simulation.Value later) := by
  refine .of_runs (run_typeNamed? name _) (run_typeNamed? _ _) fun linked => ?_
  exact ⟨linked.toAligned, .refl sides, linked.typeNames.typeReports visible, linked.toScopes,
    linked.typeNames.typeOf? visible⟩

theorem parallel_typeNamed {name : Ident} (visible : simulation.Visible name.name) :
    simulation.Parallel sides (typeNamed name) (typeNamed (name.relabel simulation.relabeling))
      simulation.Value := by
  apply (parallel_typeNamed? visible).bind
  intro later found other _ values
  cases values with
  | none => exact .given fun linked => .pure linked.builtIn
  | some value => exact .pure value

theorem parallel_variableNamed {name : Ident} (visible : simulation.Visible name.name) :
    simulation.Parallel sides (variableNamed name)
      (variableNamed (name.relabel simulation.relabeling)) simulation.Value := by
  apply Simulates.state
  intro linked
  have found := linked.valueNames.lookUpVariable visible
  simp only [Ident.relabel]
  generalize sides.first.valueNames.lookUpVariable name.name = answer at found
  generalize sides.second.valueNames.lookUpVariable (simulation.relabeling.name name.name) =
    otherAnswer at found
  cases found with
  | ok value => exact .pure value
  | error error =>
      apply (Simulates.report name.span (matches_lookupProblem error _)).bind
      intro later _ _ _ _
      exact .given fun linked => .pure linked.builtIn

theorem parallel_functionNamed? {name : Ident} (visible : simulation.Visible name.name) :
    simulation.Parallel sides (functionNamed? name)
      (functionNamed? (name.relabel simulation.relabeling))
      fun later => Option.Rel (Signatures (simulation.Value later)) := by
  apply Simulates.state
  intro linked
  have found := linked.valueNames.lookUpFunction visible
  simp only [Ident.relabel]
  generalize sides.first.valueNames.lookUpFunction name.name = answer at found
  generalize sides.second.valueNames.lookUpFunction (simulation.relabeling.name name.name) =
    otherAnswer at found
  cases found with
  | ok signatures => exact .pure (.some signatures)
  | error error =>
      apply (Simulates.report name.span (matches_lookupProblem error _)).bind
      intro later _ _ _ _
      exact .pure .none

/-!
## What is expected
-/

/-- Expectations of one member on the two sides. -/
structure Expected (simulation : Simulation) (sides : Sides)
    (expected other : TypeId × String) : Prop where
  value : simulation.Value sides expected.1 other.1
  name_eq : simulation.literal → other.2 = expected.2

theorem expected_later {later : Sides} (onward : simulation.Later sides later)
    {expected others : Expectations} (alike : expected.Forall₂ (simulation.Expected sides) others) :
    expected.Forall₂ (simulation.Expected later) others :=
  alike.imp fun _ _ first => ⟨onward first.value, first.name_eq⟩

theorem expected_tail {expected others : Expectations}
    (alike : expected.Forall₂ (simulation.Expected sides) others) :
    expected.tail.Forall₂ (simulation.Expected sides) others.tail := by
  cases alike with
  | nil => exact .nil
  | cons first rest => exact rest

theorem parallel_expectNext {expected others : Expectations}
    (alike : expected.Forall₂ (simulation.Expected sides) others) {found other : TypeId}
    (value : simulation.Value sides found other) (span : Span) :
    simulation.Parallel sides (expectNext expected found span)
      (expectNext others other (simulation.relabeling.span span)) fun _ _ _ => True := by
  cases alike with
  | nil => exact .pure trivial
  | cons first rest =>
      exact parallel_expectCompatible first.value value span fun literal =>
        congrArg some (first.name_eq literal)

/-- What a rule expects of a list, with the type of the whole. -/
structure Expecting (simulation : Simulation) (sides : Sides)
    (answer other : Expectations × TypeId) : Prop where
  expected : answer.1.Forall₂ (simulation.Expected sides) other.1
  value : simulation.Value sides answer.2 other.2

theorem expecting_nothing {id other : TypeId} (value : simulation.Value sides id other) :
    simulation.Expecting sides ([], id) ([], other) :=
  ⟨.nil, value⟩

theorem parallel_expectCall {function : Ident} (visible : simulation.Visible function.name)
    (arguments : Nat) (span : Span) :
    simulation.Parallel sides (expectCall function arguments span)
      (expectCall (function.relabel simulation.relabeling) arguments
        (simulation.relabeling.span span)) simulation.Expecting := by
  apply (parallel_functionNamed? visible).bind
  intro later found other _ signatures
  cases signatures with
  | none => exact .given fun linked => .pure (expecting_nothing linked.builtIn)
  | @some entry otherEntry signatures =>
      simp only [← signatures.parameters.length_eq]
      by_cases fits : entry.parameters.length = arguments
      · rw [if_pos fits, if_pos fits]
        refine .pure ⟨?_, signatures.results⟩
        rw [List.forall₂_map_left_iff, List.forall₂_map_right_iff]
        exact signatures.parameters.imp fun _ _ value => ⟨value, (name_of_literal · function.name)⟩
      · rw [if_neg fits, if_neg fits]
        apply (Simulates.report span ⟨rfl, fun _ => rfl⟩).bind
        intro last _ _ onward _
        exact .pure (expecting_nothing (onward signatures.results))

theorem parallel_expectRecord {type : Ident} (visible : simulation.Visible type.name)
    (fields : Nat) (span : Span) :
    simulation.Parallel sides (expectRecord type fields span)
      (expectRecord (type.relabel simulation.relabeling) fields
        (simulation.relabeling.span span)) simulation.Expecting := by
  apply (parallel_typeNamed? visible).bind
  intro later declared other _ values
  cases values with
  | none => exact .given fun linked => .pure (expecting_nothing linked.builtIn)
  | @some declared other value =>
      apply Simulates.types
      intro tables
      have whole := simulation.representative tables value
      have found := fieldsOf?_alike tables value
      generalize later.first.types.fieldsOf? declared = declaredFields at found
      generalize later.second.types.fieldsOf? other = otherFields at found
      cases found with
      | none =>
          apply (parallel_reportSort _ value type.span).bind
          intro last _ _ _ _
          exact .given fun linked => .pure (expecting_nothing linked.builtIn)
      | @some declaredFields otherFields alike =>
          simp only [← alike.length_eq]
          by_cases fits : declaredFields.length = fields
          · rw [if_pos fits, if_pos fits]
            refine .pure ⟨?_, whole⟩
            rw [List.forall₂_map_left_iff, List.forall₂_map_right_iff]
            refine alike.imp fun field _ fields => ⟨fields.types, fun literal => ?_⟩
            exact fields.name_eq.trans (name_of_literal literal field.name)
          · rw [if_neg fits, if_neg fits]
            apply (Simulates.report span ⟨rfl, fun _ => rfl⟩).bind
            intro last _ _ onward _
            exact .pure (expecting_nothing (onward whole))

theorem parallel_expectArray {type : Ident} (visible : simulation.Visible type.name)
    {initial other : TypeId} (value : simulation.Value sides initial other) (initialSpan : Span) :
    simulation.Parallel sides (expectArray type initial initialSpan)
      (expectArray (type.relabel simulation.relabeling) other
        (simulation.relabeling.span initialSpan)) simulation.Value := by
  apply (parallel_typeNamed? visible).bind
  intro later declared otherDeclared onward values
  cases values with
  | none => exact .given fun linked => .pure linked.builtIn
  | @some declared otherDeclared declaredValue =>
      apply Simulates.types
      intro tables
      have whole := simulation.representative tables declaredValue
      have found := elementOf?_alike tables declaredValue
      generalize later.first.types.elementOf? declared = element at found
      generalize later.second.types.elementOf? otherDeclared = otherElement at found
      cases found with
      | none =>
          apply (parallel_reportSort _ declaredValue type.span).bind
          intro last _ _ _ _
          exact .given fun linked => .pure linked.builtIn
      | some elements =>
          apply (parallel_expectCompatible elements (onward value) initialSpan
            fun literal => congrArg some (name_of_literal literal type.name)).bind
          intro last _ _ onward _
          exact .pure (onward whole)

/-!
## Declarations
-/

theorem parallel_variableType (name : Ident) {ascribed : Option Ident}
    (visible : ∀ type ∈ ascribed.toList, simulation.Visible type.name) {initial other : TypeId}
    (value : simulation.Value sides initial other) (initialSpan : Span) :
    simulation.Parallel sides (variableType name ascribed initial initialSpan)
      (variableType (name.relabel simulation.relabeling)
        (ascribed.map (·.relabel simulation.relabeling)) other
        (simulation.relabeling.span initialSpan)) simulation.Value := by
  cases ascribed with
  | some ascribed =>
      apply (parallel_typeNamed? (visible ascribed (List.mem_singleton_self _))).bind
      intro later declared otherDeclared onward values
      cases values with
      | none => exact .given fun linked => .pure linked.builtIn
      | some declaredValue =>
          apply (parallel_expectCompatible declaredValue (onward value) initialSpan
            fun literal => congrArg some (name_of_literal literal name.name)).bind
          intro last _ _ onward _
          exact .pure (onward declaredValue)
  | none =>
      have problems : ∀ reason, simulation.Matches (.badInitializer name.name reason)
          (.badInitializer (simulation.relabeling.name name.name) reason) :=
        fun reason => ⟨rfl, fun literal => by rw [name_of_literal literal]⟩
      apply Simulates.types
      intro tables
      rw [(answers_eq tables value).isNil_eq, (answers_eq tables value).isVoid_eq]
      by_cases isNil : sides.first.types.isNil initial = true
      · rw [if_pos isNil, if_pos isNil]
        apply (Simulates.report initialSpan (problems _)).bind
        intro later _ _ _ _
        exact .given fun linked => .pure linked.builtIn
      · rw [if_neg isNil, if_neg isNil]
        by_cases isVoid : sides.first.types.isVoid initial = true
        · rw [if_pos isVoid, if_pos isVoid]
          apply (Simulates.report initialSpan (problems _)).bind
          intro later _ _ _ _
          exact .given fun linked => .pure linked.builtIn
        · rw [if_neg isVoid, if_neg isVoid]
          exact .pure value

theorem parallel_frame : simulation.Parallel sides frame frame
    fun _ outer other => simulation.literal → other = outer :=
  fun linked => ⟨linked.toAligned, .refl sides, .nil,
    .ok ⟨linked.toScopes, fun literal => (linked.handles literal).1⟩⟩

theorem parallel_takeLabel : simulation.Parallel sides takeLabel takeLabel
    fun _ label other => simulation.literal → other = label := by
  refine .of_runs rfl rfl fun linked => ?_
  have same := fun literal => congrArg Storage.takeLabel (linked.handles literal).2
  refine ⟨⟨linked.tables, fun literal => ⟨(linked.handles literal).1, ?_⟩⟩, fun _ _ => id,
    ⟨.nil, fun literal => ?_⟩, ⟨linked.typeNames, linked.valueNames⟩, fun literal => ?_⟩
  · exact congrArg Prod.snd (same literal)
  · exact congrArg (fun taken => [Storage.Call.label taken.1]) (same literal)
  · exact congrArg Prod.fst (same literal)

theorem parallel_takeFrame {parent otherParent : Frame} {label otherLabel : Label}
    {parameters otherParameters : Nat}
    (same : simulation.literal →
      otherParent = parent ∧ otherLabel = label ∧ otherParameters = parameters) :
    simulation.Parallel sides (takeFrame parent label parameters)
      (takeFrame otherParent otherLabel otherParameters)
      fun _ frame other => simulation.literal → other = frame := by
  refine .of_runs rfl rfl fun linked => ?_
  have taken := fun literal => congrArg Storage.takeFrame (linked.handles literal).2
  refine ⟨⟨linked.tables, fun literal => ⟨(linked.handles literal).1, ?_⟩⟩, fun _ _ => id,
    ⟨.nil, fun literal => ?_⟩, ⟨linked.typeNames, linked.valueNames⟩, fun literal => ?_⟩
  · exact congrArg Prod.snd (taken literal)
  · obtain ⟨rfl, rfl, rfl⟩ := same literal
    exact congrArg (fun taken => [Storage.Call.frame _ _ _ taken.1]) (taken literal)
  · exact congrArg Prod.fst (taken literal)

theorem parallel_takeSlot : simulation.Parallel sides takeSlot takeSlot fun _ _ _ => True := by
  refine .of_runs rfl rfl fun linked => ?_
  have same : simulation.literal → sides.second.storage.takeSlot sides.second.frame =
      sides.first.storage.takeSlot sides.first.frame := by
    intro literal
    rw [(linked.handles literal).1, (linked.handles literal).2]
  refine ⟨⟨linked.tables, fun literal => ⟨(linked.handles literal).1, ?_⟩⟩, fun _ _ => id,
    ⟨.nil, fun literal => ?_⟩, ⟨linked.typeNames, linked.valueNames⟩, trivial⟩
  · exact congrArg Prod.snd (same literal)
  · exact congrArg (fun taken => [Storage.Call.slot taken.1]) (same literal)

theorem parallel_bindValue (name : String) {entry other : Entry}
    (alike : Entry.Alike (simulation.Value sides) entry other) :
    simulation.Parallel sides (bindValue name entry)
      (bindValue (simulation.relabeling.name name) other) fun _ _ _ => True := by
  refine .of_runs rfl rfl fun linked => ?_
  exact ⟨⟨linked.tables, linked.handles⟩, fun _ _ => id, ⟨.nil, fun _ => rfl⟩,
    ⟨linked.typeNames, linked.valueNames.bind name alike⟩, trivial⟩

theorem parallel_bindVariable (name : String) {type other : TypeId}
    (value : simulation.Value sides type other) :
    simulation.Parallel sides (bindVariable name type)
      (bindVariable (simulation.relabeling.name name) other) fun _ _ _ => True := by
  apply parallel_takeSlot.bind
  intro later _ _ onward _
  exact parallel_bindValue name (.variable (onward value))

theorem parallel_resultType {result : Option Ident}
    (visible : ∀ type ∈ result.toList, simulation.Visible type.name) :
    simulation.Parallel sides (resultType result)
      (resultType (result.map (·.relabel simulation.relabeling))) simulation.Value := by
  cases result with
  | none => exact .given fun linked => .pure linked.builtIn
  | some name => exact parallel_typeNamed (visible name (List.mem_singleton_self _))

theorem parallel_typesNamed {parameters : List TypedName}
    (visible : ∀ parameter ∈ parameters, simulation.Visible parameter.type.name) :
    simulation.Parallel sides (parameters.mapM fun parameter => typeNamed parameter.type)
      ((parameters.map (·.relabel simulation.relabeling)).mapM fun parameter =>
        typeNamed parameter.type)
      fun later types others => types.Forall₂ (simulation.Value later) others := by
  have paired : parameters.Forall₂ (fun parameter other =>
      simulation.Visible parameter.type.name ∧ other = parameter.relabel simulation.relabeling)
      (parameters.map (·.relabel simulation.relabeling)) :=
    List.forall₂_map_right_iff.mpr (List.forall₂_same.mpr fun parameter listed =>
      ⟨visible parameter listed, rfl⟩)
  have lasting : ∀ ⦃earlier later value answer⦄, simulation.Later earlier later →
      simulation.Value earlier value answer → simulation.Value later value answer :=
    fun _ _ _ _ onward value => onward value
  refine .mapM lasting ?_ paired
  rintro later parameter _ ⟨visible, rfl⟩
  exact parallel_typeNamed visible

theorem parallel_bindParameters (parameters : List TypedName) {types others : List TypeId}
    (values : types.Forall₂ (simulation.Value sides) others) :
    simulation.Parallel sides (bindParameters parameters types)
      (bindParameters (parameters.map (·.relabel simulation.relabeling)) others)
      fun _ _ _ => True := by
  unfold bindParameters
  induction parameters generalizing sides types others with
  | nil => exact .pure trivial
  | cons parameter rest inductionHypothesis =>
      cases values with
      | nil => exact .pure trivial
      | cons value values =>
          apply (parallel_bindVariable parameter.name.name value).bind
          intro later _ _ onward _
          exact inductionHypothesis (onward.forall₂ values)

/-- What is known of a function before its body is checked, on the two sides. -/
structure Headers (simulation : Simulation) (sides : Sides)
    (header other : FunctionHeader) : Prop where
  parameters : header.parameters.Forall₂ (simulation.Value sides) other.parameters
  result : simulation.Value sides header.result other.result
  frame : simulation.literal → other.frame = header.frame

theorem headers_later {later : Sides} (onward : simulation.Later sides later)
    {header other : FunctionHeader} (headers : simulation.Headers sides header other) :
    simulation.Headers later header other :=
  ⟨onward.forall₂ headers.parameters, onward headers.result, headers.frame⟩

theorem parallel_announceFunction {name : Ident} {parameters : List TypedName}
    {result : Option Ident}
    (parameterNames : ∀ parameter ∈ parameters, simulation.Visible parameter.type.name)
    (resultName : ∀ type ∈ result.toList, simulation.Visible type.name)
    (body otherBody : Expression) (span otherSpan : Span) :
    simulation.Parallel sides (announceFunction ⟨name, parameters, result, body, span⟩)
      (announceFunction ⟨name.relabel simulation.relabeling,
        parameters.map (·.relabel simulation.relabeling),
        result.map (·.relabel simulation.relabeling), otherBody, otherSpan⟩)
      simulation.Headers := by
  apply (parallel_resultType resultName).bind
  intro s1 result otherResult _ resultValue
  apply (parallel_typesNamed parameterNames).bind
  intro s2 types otherTypes onward2 typeValues
  apply parallel_takeLabel.bind
  intro s3 label otherLabel onward3 sameLabel
  apply parallel_frame.bind
  intro s4 parent otherParent onward4 sameParent
  apply (parallel_takeFrame fun literal =>
    ⟨sameParent literal, sameLabel literal, typeValues.length_eq.symm⟩).bind
  intro s5 frame otherFrame onward5 sameFrame
  have onward : simulation.Later s2 s5 := (onward3.trans onward4).trans onward5
  have headers : simulation.Headers s5 ⟨types, result, frame⟩
      ⟨otherTypes, otherResult, otherFrame⟩ :=
    ⟨onward.forall₂ typeValues, onward (onward2 resultValue), sameFrame⟩
  apply (parallel_bindValue name.name (.function headers.parameters headers.result)).bind
  intro s6 _ _ onward6 _
  exact .pure (headers_later onward6 headers)

/-!
## Groups of types
-/

theorem Environments.bindAll {related : TypeId → TypeId → Prop} {env other : Environment}
    (environments : simulation.Environments related env other) {size : Nat}
    (members : List TypeDeclaration)
    (values : ∀ id ∈ groupIds size members, related id id) :
    simulation.Environments related (env.bindAll (groupBindings size members))
      (other.bindAll (groupBindings size (members.map (·.relabel simulation.relabeling)))) := by
  induction members generalizing size env other with
  | nil => exact environments
  | cons member rest inductionHypothesis =>
      rw [List.map_cons, groupBindings_cons, groupBindings_cons, Environment.bindAll_cons,
        Environment.bindAll_cons]
      have first : related ⟨size⟩ ⟨size⟩ := values _ List.mem_cons_self
      exact inductionHypothesis (environments.bind member.name.name (.type first))
        fun id later => values id (List.mem_cons_of_mem _ later)

theorem meaning_alike {related : TypeId → TypeId → Prop} {env other : Environment}
    (environments : simulation.Environments related env other)
    (unknown : related .error .error) (declared : String) {body : TypeExpression}
    (visible : ∀ name ∈ body.used, simulation.Visible name.name) :
    Ty.Alike simulation.relabeling.name related (body.meaning env declared)
      ((body.relabel simulation.relabeling).meaning other
        (simulation.relabeling.name declared)) := by
  have known : ∀ name ∈ body.used, related ((env.typeOf? name.name).getD .error)
      ((other.typeOf? (simulation.relabeling.name name.name)).getD .error) := by
    intro name used
    have found := environments.typeOf? (visible name used)
    generalize env.typeOf? name.name = answer at found
    generalize other.typeOf? (simulation.relabeling.name name.name) = otherAnswer at found
    cases found with
    | none => exact unknown
    | some value => exact value
  cases body with
  | name target span =>
      have found := environments.typeOf? (visible target (List.mem_singleton_self target))
      simp only [TypeExpression.relabel, TypeExpression.meaning, Ident.relabel]
      generalize env.typeOf? target.name = answer at found
      generalize other.typeOf? (simulation.relabeling.name target.name) = otherAnswer at found
      cases found with
      | none => exact .error
      | some value => exact .alias declared (.some value)
  | record fields span =>
      refine .record ?_
      rw [List.map_map, List.forall₂_map_left_iff, List.forall₂_map_right_iff]
      exact List.forall₂_same.mpr fun field listed =>
        ⟨rfl, known field.type (List.mem_map_of_mem listed)⟩
  | array element span => exact .array (known element (List.mem_singleton_self element))

theorem Reports.flatMap {ι κ : Type} {pair : ι → κ} {events : ι → List Event}
    {others : κ → List Event} {items : List ι}
    (each : ∀ item ∈ items, simulation.Reports (events item) (others (pair item))) :
    simulation.Reports (items.flatMap events) ((items.map pair).flatMap others) := by
  induction items with
  | nil => exact .nil
  | cons item rest inductionHypothesis =>
      rw [List.map_cons, List.flatMap_cons, List.flatMap_cons]
      exact (each item List.mem_cons_self).append
        (inductionHypothesis fun item later => each item (List.mem_cons_of_mem _ later))

theorem reports_reports {related : TypeId → TypeId → Prop} {env other : Environment}
    (environments : simulation.Environments related env other) {body : TypeExpression}
    (visible : ∀ name ∈ body.used, simulation.Visible name.name) :
    simulation.Reports (body.reports env)
      ((body.relabel simulation.relabeling).reports other) := by
  rw [TypeExpression.reports, TypeExpression.reports, TypeExpression.used_relabel]
  exact .flatMap fun name used => environments.typeReports (visible name used)

theorem groupIds_map (relabel : TypeDeclaration → TypeDeclaration) (size : Nat)
    (members : List TypeDeclaration) :
    groupIds size (members.map relabel) = groupIds size members := by
  rw [groupIds, groupIds, List.length_map]

section Groups

variable {state other : State} {members : List TypeDeclaration}

/-- The same members of a group are circular on both sides. -/
theorem circularMembers_map
    (size_eq : other.types.size = state.types.size)
    (breaks : ∀ id ∈ groupIds state.types.size members,
      (other.groupTypes (members.map (·.relabel simulation.relabeling))).stopsWithin
          (groupIds state.types.size members) id =
        (state.groupTypes members).stopsWithin (groupIds state.types.size members) id) :
    other.circularMembers (members.map (·.relabel simulation.relabeling)) =
      (state.circularMembers members).map (Prod.map (·.relabel simulation.relabeling) id) := by
  rw [State.circularMembers, State.circularMembers, groupIds_map, size_eq, List.zip_map_left,
    List.filter_map]
  refine congrArg (List.map _) (List.filter_congr fun entry listed => ?_)
  exact breaks entry.2 (List.of_mem_zip listed).2

theorem reports_groupEvents
    (environments : simulation.Environments
      (simulation.Values (state.groupTypes members)
        (other.groupTypes (members.map (·.relabel simulation.relabeling))))
      (state.groupNames members) (other.groupNames (members.map (·.relabel simulation.relabeling))))
    (visible : ∀ member ∈ members, ∀ name ∈ member.body.used, simulation.Visible name.name)
    (circular : other.circularMembers (members.map (·.relabel simulation.relabeling)) =
      (state.circularMembers members).map (Prod.map (·.relabel simulation.relabeling) id)) :
    simulation.Reports (state.groupEvents members)
      (other.groupEvents (members.map (·.relabel simulation.relabeling))) where
  calls := fun _ => (State.callsOf_groupEvents _ _).trans (State.callsOf_groupEvents _ _).symm
  diagnostics := by
    have read : simulation.Reports
        (members.flatMap fun member => member.body.reports (state.groupNames members))
        ((members.map (·.relabel simulation.relabeling)).flatMap fun member =>
          member.body.reports
            (other.groupNames (members.map (·.relabel simulation.relabeling)))) :=
      .flatMap fun member listed => reports_reports environments (visible member listed)
    rw [State.diagnosticsOf_groupEvents, State.diagnosticsOf_groupEvents, circular, List.map_map]
    refine List.rel_append read.diagnostics ?_
    rw [List.forall₂_map_left_iff, List.forall₂_map_right_iff]
    refine List.forall₂_same.mpr fun entry _ => ?_
    have problems : simulation.Matches (.aliasCycle entry.1.name.name)
        (.aliasCycle (simulation.relabeling.name entry.1.name.name)) :=
      ⟨rfl, fun literal => by rw [name_of_literal literal]⟩
    exact problems.reported entry.1.span

end Groups

/-- The same group takes the same numbers on both sides.  The law about groups
says of the two tables after it what is needed. -/
theorem parallel_makeTypes {members : List TypeDeclaration}
    (visible : ∀ member ∈ members, ∀ name ∈ member.body.used, simulation.Visible name.name) :
    simulation.Parallel sides (makeTypes members)
      (makeTypes (members.map (·.relabel simulation.relabeling))) fun _ _ _ => True := by
  refine .of_runs (run_makeTypes members _) (run_makeTypes _ _) fun linked => ?_
  obtain ⟨state, other⟩ := sides
  have size_eq : other.types.size = state.types.size := simulation.size_eq linked.tables
  have inGroup : ∀ id, id ∈ groupIds state.types.size members ↔
      state.types.size ≤ id.number ∧ id.number < state.types.size +
        (members.map (·.cell (state.groupNames members))).length := by
    intro id
    rw [mem_groupIds, List.length_map]
  have targets : simulation.Environments
      (simulation.Targets state.types other.types (groupIds state.types.size members))
      (state.groupNames members)
      (other.groupNames (members.map (·.relabel simulation.relabeling))) := by
    rw [State.groupNames, State.groupNames, size_eq]
    exact (linked.typeNames.imp fun _ _ => .inl).bindAll members fun id new => .inr ⟨rfl, new⟩
  have cells : (members.map (·.cell (state.groupNames members))).Forall₂
      (TypeCell.Alike simulation.relabeling
        (simulation.Targets state.types other.types (groupIds state.types.size members)))
      ((members.map (·.relabel simulation.relabeling)).map
        (·.cell (other.groupNames (members.map (·.relabel simulation.relabeling))))) := by
    rw [List.map_map, List.forall₂_map_left_iff, List.forall₂_map_right_iff]
    exact List.forall₂_same.mpr fun member listed =>
      ⟨member.body.isDeclared_meaning _ _,
        meaning_alike targets (.inl linked.builtIn) _ (visible member listed), _, rfl, rfl⟩
  have grown := simulation.extend linked.tables inGroup cells
  have names : simulation.Environments
      (simulation.Values (state.groupTypes members)
        (other.groupTypes (members.map (·.relabel simulation.relabeling))))
      (state.groupNames members)
      (other.groupNames (members.map (·.relabel simulation.relabeling))) := by
    refine targets.imp fun id otherId target => ?_
    rcases target with value | ⟨rfl, new⟩
    · exact grown.kept value
    · exact grown.members _ new
  refine ⟨⟨grown.tables, linked.handles⟩, grown.kept, ?_, ⟨names, ?_⟩, trivial⟩
  · exact reports_groupEvents names visible (circularMembers_map size_eq grown.breaks)
  · exact linked.valueNames.imp grown.kept

end Simulation
end StaticSemantics
