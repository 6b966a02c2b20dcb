import Mathlib.Data.List.Forall2
import StaticSemantics.Proofs.Discipline.Trees
import StaticSemantics.Proofs.Malformed
import StaticSemantics.Proofs.WellFormed

namespace StaticSemantics

/-!
# Up to a malformed part

A malformed part ends a check and is never reported.  What was reported before
it is no matter of what stands in its place: put any expressions there, and the
reports of the mended tree begin with those of the malformed one.

So a tree is compared with a mended one, step by step.  The two checks do the
same until the first of them is aborted.  From there on only the second one
goes on, and events that have happened stay.
-/

/-!
## Mending trees
-/

mutual

/-- The second place comes from the first by putting any expressions where parts
of it are malformed. -/
inductive Place.MendedTo : Place → Place → Prop
  | name {name : Ident} {span : Span} : Place.MendedTo (.name name span) (.name name span)
  | field {base whole : Place} {field : Ident} {span : Span} (bases : base.MendedTo whole) :
      Place.MendedTo (.field base field span) (.field whole field span)
  | element {base whole : Place} {index wholeIndex : Expression} {span : Span}
      (bases : base.MendedTo whole) (indexes : index.MendedTo wholeIndex) :
      Place.MendedTo (.element base index span) (.element whole wholeIndex span)

/-- The second expression comes from the first by putting any expressions where
parts of it are malformed. -/
inductive Expression.MendedTo : Expression → Expression → Prop
  | malformed {span : Span} (whole : Expression) : Expression.MendedTo (.malformed span) whole
  | nil {span : Span} : Expression.MendedTo (.nil span) (.nil span)
  | integer {value : Int64} {span : Span} :
      Expression.MendedTo (.integer value span) (.integer value span)
  | string {value : String} {span : Span} :
      Expression.MendedTo (.string value span) (.string value span)
  | place {place whole : Place} {span : Span} (places : place.MendedTo whole) :
      Expression.MendedTo (.place place span) (.place whole span)
  | call {function : Ident} {arguments wholes : List Expression} {span : Span}
      (all : arguments.Forall₂ Expression.MendedTo wholes) :
      Expression.MendedTo (.call function arguments span) (.call function wholes span)
  | binary {operator : Operator} {left right wholeLeft wholeRight : Expression} {span : Span}
      (lefts : left.MendedTo wholeLeft) (rights : right.MendedTo wholeRight) :
      Expression.MendedTo (.binary operator left right span)
        (.binary operator wholeLeft wholeRight span)
  | record {type : Ident} {fields wholes : List Initializer} {span : Span}
      (all : fields.Forall₂ Initializer.MendedTo wholes) :
      Expression.MendedTo (.record type fields span) (.record type wholes span)
  | array {type : Ident} {size initial wholeSize wholeInitial : Expression} {span : Span}
      (sizes : size.MendedTo wholeSize) (initials : initial.MendedTo wholeInitial) :
      Expression.MendedTo (.array type size initial span)
        (.array type wholeSize wholeInitial span)
  | sequence {members wholes : List Expression} {span : Span}
      (all : members.Forall₂ Expression.MendedTo wholes) :
      Expression.MendedTo (.sequence members span) (.sequence wholes span)
  | assign {target wholeTarget : Place} {value wholeValue : Expression} {span : Span}
      (targets : target.MendedTo wholeTarget) (values : value.MendedTo wholeValue) :
      Expression.MendedTo (.assign target value span) (.assign wholeTarget wholeValue span)
  | ifThen {test body wholeTest wholeBody : Expression} {span : Span}
      (tests : test.MendedTo wholeTest) (bodies : body.MendedTo wholeBody) :
      Expression.MendedTo (.ifThen test body span) (.ifThen wholeTest wholeBody span)
  | ifThenElse {test positive negative wholeTest wholePositive wholeNegative : Expression}
      {span : Span} (tests : test.MendedTo wholeTest) (positives : positive.MendedTo wholePositive)
      (negatives : negative.MendedTo wholeNegative) :
      Expression.MendedTo (.ifThenElse test positive negative span)
        (.ifThenElse wholeTest wholePositive wholeNegative span)
  | whileLoop {test body wholeTest wholeBody : Expression} {span : Span}
      (tests : test.MendedTo wholeTest) (bodies : body.MendedTo wholeBody) :
      Expression.MendedTo (.whileLoop test body span) (.whileLoop wholeTest wholeBody span)
  | forLoop {counter : Ident} {low high body wholeLow wholeHigh wholeBody : Expression}
      {span : Span} (lows : low.MendedTo wholeLow) (highs : high.MendedTo wholeHigh)
      (bodies : body.MendedTo wholeBody) :
      Expression.MendedTo (.forLoop counter low high body span)
        (.forLoop counter wholeLow wholeHigh wholeBody span)
  | breakLoop {span : Span} : Expression.MendedTo (.breakLoop span) (.breakLoop span)
  | block {declarations wholes : List Declaration} {body wholeBody : Expression} {span : Span}
      (all : declarations.Forall₂ Declaration.MendedTo wholes) (bodies : body.MendedTo wholeBody) :
      Expression.MendedTo (.block declarations body span) (.block wholes wholeBody span)

inductive Initializer.MendedTo : Initializer → Initializer → Prop
  | value {name : Ident} {value whole : Expression} {span : Span}
      (values : value.MendedTo whole) :
      Initializer.MendedTo ⟨name, value, span⟩ ⟨name, whole, span⟩

/-- The same for a declaration.  Declarations of types have no parts that could
be malformed. -/
inductive Declaration.MendedTo : Declaration → Declaration → Prop
  | variable {name : Ident} {ascribed : Option Ident} {initial whole : Expression} {span : Span}
      (initials : initial.MendedTo whole) :
      Declaration.MendedTo (.variable name ascribed initial span)
        (.variable name ascribed whole span)
  | functions {members wholes : List FunctionDeclaration} {span : Span}
      (all : members.Forall₂ FunctionDeclaration.MendedTo wholes) :
      Declaration.MendedTo (.functions members span) (.functions wholes span)
  | types {members : List TypeDeclaration} {span : Span} :
      Declaration.MendedTo (.types members span) (.types members span)

/-- Functions keep their headings. -/
inductive FunctionDeclaration.MendedTo : FunctionDeclaration → FunctionDeclaration → Prop
  | body {name : Ident} {parameters : List TypedName} {result : Option Ident}
      {body whole : Expression} {span : Span} (bodies : body.MendedTo whole) :
      FunctionDeclaration.MendedTo ⟨name, parameters, result, body, span⟩
        ⟨name, parameters, result, whole, span⟩

end

/-- Mending a place leaves it where it is. -/
theorem Place.MendedTo.span_eq {place whole : Place} (mended : place.MendedTo whole) :
    whole.span = place.span := by
  cases mended <;> rfl

/-- Mending an expression leaves it where it is, unless all of it is replaced. -/
theorem Expression.MendedTo.span_eq_or {expression whole : Expression}
    (mended : expression.MendedTo whole) :
    whole.span = expression.span ∨ ∃ span, expression = .malformed span := by
  cases mended with
  | malformed whole => exact .inr ⟨_, rfl⟩
  | _ => exact .inl rfl

/-- The first pass over a group of functions looks at headings only. -/
theorem announceFunctions_of_mendedTo {members wholes : List FunctionDeclaration}
    (all : members.Forall₂ FunctionDeclaration.MendedTo wholes) :
    wholes.map (·.name.name) = members.map (·.name.name) ∧
      wholes.mapM Check.announceFunction = members.mapM Check.announceFunction := by
  induction all with
  | nil => exact ⟨rfl, rfl⟩
  | cons first _ inductionHypothesis =>
      cases first
      rw [List.mapM_cons, List.mapM_cons, inductionHypothesis.2]
      exact ⟨congrArg (_ :: ·) inductionHypothesis.1, rfl⟩

namespace Check

variable {α β : Type}

/-!
## Checks that foretell others
-/

/-- From every state two checks do the same, or the first one is aborted when it
has done a first part of what the second one does. -/
def Foretells (check whole : Check α) : Prop :=
  ∀ state, check.run state = whole.run state ∨
    (∃ problem, (check.run state).outcome = .error problem) ∧
      (check.run state).events <+: (whole.run state).events

namespace Foretells

variable {check whole : Check α} {next wholeNext : α → Check β}

theorem refl (check : Check α) : check.Foretells check :=
  fun _ => .inl rfl

/-- What is aborted at once foretells anything. -/
theorem abort (problem : Problem) (whole : Check α) : (Check.abort problem).Foretells whole :=
  fun _ => .inr ⟨⟨problem, rfl⟩, List.nil_prefix⟩

theorem bind (first : check.Foretells whole)
    (second : ∀ value, (next value).Foretells (wholeNext value)) :
    (check >>= next).Foretells (whole >>= wholeNext) := by
  intro state
  rcases wholeRan : whole.run state with ⟨wholeOutcome, wholeReached, wholeEvents⟩
  rcases first state with same | ⟨⟨problem, aborted⟩, early⟩
  · -- Up to here both have done the same, so only what follows can differ.
    rw [wholeRan] at same
    cases wholeOutcome with
    | error problem =>
        rw [run_bind_of_error same, run_bind_of_error wholeRan]
        exact .inl rfl
    | ok value =>
        rw [run_bind_of_ok same, run_bind_of_ok wholeRan]
        rcases second value wholeReached with alike | ⟨aborted, early⟩
        · rw [alike]
          exact .inl rfl
        · exact .inr ⟨aborted, (List.prefix_append_right_inj _).mpr early⟩
  · rcases ran : check.run state with ⟨outcome, reached, events⟩
    rw [ran] at aborted early
    cases aborted
    rw [wholeRan] at early
    rw [run_bind_of_error ran]
    refine .inr ⟨⟨problem, rfl⟩, ?_⟩
    cases wholeOutcome with
    | error problem =>
        rw [run_bind_of_error wholeRan]
        exact early
    | ok value =>
        rw [run_bind_of_ok wholeRan]
        exact early.trans (List.prefix_append _ _)

/-- A step that both sides share. -/
theorem after {check : Check α} (second : ∀ value, (next value).Foretells (wholeNext value)) :
    (check >>= next).Foretells (check >>= wholeNext) :=
  (refl check).bind second

/-- The place of an expression counts only where the expression has been checked
to its end, and there it is the same on both sides. -/
theorem inferExpression_bind {expression whole : Expression} (mended : expression.MendedTo whole)
    (first : (inferExpression expression).Foretells (inferExpression whole))
    {next wholeNext : TypeId → Check β}
    (second : whole.span = expression.span → ∀ type, (next type).Foretells (wholeNext type)) :
    (inferExpression expression >>= next).Foretells (inferExpression whole >>= wholeNext) := by
  rcases mended.span_eq_or with same | ⟨span, rfl⟩
  · exact first.bind (second same)
  · exact abort (.malformed "expression") _

theorem diagnosticsOf_begins (foretells : check.Foretells whole) (state : State) :
    diagnosticsOf (check.run state).events <+: diagnosticsOf (whole.run state).events := by
  rcases foretells state with same | ⟨_, early⟩
  · exact ⟨[], by rw [same, List.append_nil]⟩
  · exact early.filterMap _

end Foretells

/-!
## Trees
-/

mutual

theorem foretells_inferPlace (place : Place) {whole : Place} (mended : place.MendedTo whole) :
    (inferPlace place).Foretells (inferPlace whole) := by
  cases place with
  | name name span =>
      cases mended
      exact .refl _
  | field base field span =>
      cases mended with
      | field bases =>
          rw [inferPlace, inferPlace, bases.span_eq]
          exact (foretells_inferPlace base bases).bind fun baseType => .refl _
  | element base index span =>
      cases mended with
      | element bases indexes =>
          rw [inferPlace, inferPlace, bases.span_eq]
          apply (foretells_inferPlace base bases).bind
          intro baseType
          apply Foretells.inferExpression_bind indexes (foretells_inferExpression index indexes)
          intro same indexType
          rw [same]
          exact .refl _
termination_by structural place

theorem foretells_inferExpression (expression : Expression) {whole : Expression}
    (mended : expression.MendedTo whole) :
    (inferExpression expression).Foretells (inferExpression whole) := by
  cases expression with
  | nil | integer | string | breakLoop =>
      cases mended
      exact .refl _
  | malformed span => exact .abort _ _
  | place place span =>
      cases mended with
      | place places =>
          rw [inferExpression, inferExpression]
          exact foretells_inferPlace place places
  | call function arguments span =>
      cases mended with
      | call all =>
          rw [inferExpression, inferExpression, ← all.length_eq]
          apply Foretells.after
          intro expected
          exact (foretells_checkArguments arguments all expected.1).bind fun _ => .refl _
  | binary operator left right span =>
      cases mended with
      | binary lefts rights =>
          rw [inferExpression, inferExpression]
          apply Foretells.inferExpression_bind lefts (foretells_inferExpression left lefts)
          intro sameLeft leftType
          apply Foretells.inferExpression_bind rights (foretells_inferExpression right rights)
          intro sameRight rightType
          rw [sameLeft, sameRight]
          exact .refl _
  | record type fields span =>
      cases mended with
      | record all =>
          rw [inferExpression, inferExpression, ← all.length_eq]
          apply Foretells.after
          intro expected
          exact (foretells_checkInitializers fields all expected.1).bind fun _ => .refl _
  | array type size initial span =>
      cases mended with
      | array sizes initials =>
          rw [inferExpression, inferExpression]
          apply Foretells.inferExpression_bind sizes (foretells_inferExpression size sizes)
          intro sameSize sizeType
          rw [sameSize]
          apply Foretells.after
          intro _
          apply Foretells.inferExpression_bind initials (foretells_inferExpression initial initials)
          intro sameInitial initialType
          rw [sameInitial]
          exact .refl _
  | sequence members span =>
      cases mended with
      | sequence all =>
          rw [inferExpression, inferExpression]
          exact foretells_inferSequence members all .void
  | assign target value span =>
      cases mended with
      | assign targets values =>
          rw [inferExpression, inferExpression]
          apply (foretells_inferPlace target targets).bind
          intro targetType
          apply Foretells.inferExpression_bind values (foretells_inferExpression value values)
          intro same valueType
          rw [same]
          exact .refl _
  | ifThen test body span =>
      cases mended with
      | ifThen tests bodies =>
          rw [inferExpression, inferExpression]
          apply Foretells.inferExpression_bind tests (foretells_inferExpression test tests)
          intro same testType
          rw [same]
          apply Foretells.after
          intro _
          exact (foretells_inferExpression body bodies).bind fun _ => .refl _
  | whileLoop test body span =>
      cases mended with
      | whileLoop tests bodies =>
          rw [inferExpression, inferExpression]
          apply Foretells.inferExpression_bind tests (foretells_inferExpression test tests)
          intro same testType
          rw [same]
          apply Foretells.after
          intro _
          exact (foretells_inferExpression body bodies).bind fun _ => .refl _
  | ifThenElse test positive negative span =>
      cases mended with
      | ifThenElse tests positives negatives =>
          rw [inferExpression, inferExpression]
          apply Foretells.inferExpression_bind tests (foretells_inferExpression test tests)
          intro sameTest testType
          rw [sameTest]
          apply Foretells.after
          intro _
          apply (foretells_inferExpression positive positives).bind
          intro positiveType
          apply Foretells.inferExpression_bind negatives
            (foretells_inferExpression negative negatives)
          intro sameNegative negativeType
          rw [sameNegative]
          exact .refl _
  | forLoop counter low high body span =>
      cases mended with
      | forLoop lows highs bodies =>
          rw [inferExpression, inferExpression]
          apply Foretells.inferExpression_bind lows (foretells_inferExpression low lows)
          intro sameLow lowType
          rw [sameLow]
          apply Foretells.after
          intro _
          apply Foretells.inferExpression_bind highs (foretells_inferExpression high highs)
          intro sameHigh highType
          rw [sameHigh]
          apply Foretells.after
          intro _
          apply Foretells.after
          intro _
          apply Foretells.after
          intro _
          exact (foretells_inferExpression body bodies).bind fun _ => .refl _
  | block declarations body span =>
      cases mended with
      | block all bodies =>
          rw [inferExpression, inferExpression, ← all.length_eq]
          apply Foretells.after
          intro _
          apply Foretells.after
          intro _
          apply Foretells.after
          intro _
          apply (foretells_makeDeclarations declarations all).bind
          intro _
          exact (foretells_inferExpression body bodies).bind fun _ => .refl _
termination_by structural expression

theorem foretells_checkArguments (arguments : List Expression) {wholes : List Expression}
    (all : arguments.Forall₂ Expression.MendedTo wholes) (expected : Expectations) :
    (checkArguments arguments expected).Foretells (checkArguments wholes expected) := by
  cases arguments with
  | nil =>
      cases all
      exact .refl _
  | cons argument rest =>
      cases all with
      | cons first others =>
          rw [checkArguments, checkArguments]
          apply Foretells.inferExpression_bind first (foretells_inferExpression argument first)
          intro same type
          rw [same]
          apply Foretells.after
          intro _
          exact foretells_checkArguments rest others expected.tail
termination_by structural arguments

theorem foretells_checkInitializers (initializers : List Initializer) {wholes : List Initializer}
    (all : initializers.Forall₂ Initializer.MendedTo wholes) (expected : Expectations) :
    (checkInitializers initializers expected).Foretells (checkInitializers wholes expected) := by
  match initializers with
  | [] =>
      cases all
      exact .refl _
  | ⟨name, value, span⟩ :: rest =>
      cases all with
      | cons first others =>
          cases first with
          | value values =>
              rw [checkInitializers, checkInitializers]
              apply Foretells.inferExpression_bind values (foretells_inferExpression value values)
              intro same type
              rw [same]
              apply Foretells.after
              intro _
              exact foretells_checkInitializers rest others expected.tail
termination_by structural initializers

theorem foretells_inferSequence (members : List Expression) {wholes : List Expression}
    (all : members.Forall₂ Expression.MendedTo wholes) (last : TypeId) :
    (inferSequence members last).Foretells (inferSequence wholes last) := by
  cases members with
  | nil =>
      cases all
      exact .refl _
  | cons member rest =>
      cases all with
      | cons first others =>
          rw [inferSequence, inferSequence]
          apply (foretells_inferExpression member first).bind
          intro type
          exact foretells_inferSequence rest others type
termination_by structural members

theorem foretells_makeDeclaration (declaration : Declaration) {whole : Declaration}
    (mended : declaration.MendedTo whole) :
    (makeDeclaration declaration).Foretells (makeDeclaration whole) := by
  match declaration with
  | .variable name ascribed initial span =>
      cases mended with
      | «variable» initials =>
          rw [makeDeclaration, makeDeclaration]
          apply Foretells.inferExpression_bind initials (foretells_inferExpression initial initials)
          intro same initialType
          rw [same]
          exact .refl _
  | .functions members span =>
      cases mended with
      | functions all =>
          rcases announceFunctions_of_mendedTo all with ⟨names, headings⟩
          rw [makeDeclaration, makeDeclaration, names, headings]
          apply Foretells.after
          intro _
          apply Foretells.after
          intro headers
          exact foretells_checkBodies members all headers
  | .types members span =>
      cases mended
      exact .refl _
termination_by structural declaration

theorem foretells_makeDeclarations (declarations : List Declaration) {wholes : List Declaration}
    (all : declarations.Forall₂ Declaration.MendedTo wholes) :
    (makeDeclarations declarations).Foretells (makeDeclarations wholes) := by
  cases declarations with
  | nil =>
      cases all
      exact .refl _
  | cons declaration rest =>
      cases all with
      | cons first others =>
          rw [makeDeclarations, makeDeclarations]
          apply (foretells_makeDeclaration declaration first).bind
          intro _
          exact foretells_makeDeclarations rest others
termination_by structural declarations

theorem foretells_checkBodies (members : List FunctionDeclaration)
    {wholes : List FunctionDeclaration}
    (all : members.Forall₂ FunctionDeclaration.MendedTo wholes) (headers : List FunctionHeader) :
    (checkBodies members headers).Foretells (checkBodies wholes headers) := by
  match members, headers with
  | [], _ =>
      cases all
      exact .refl _
  | ⟨_, _, _, _, _⟩ :: _, [] =>
      cases all with
      | cons first others =>
          cases first
          exact .refl _
  | ⟨name, parameters, result, body, span⟩ :: rest, header :: headers =>
      cases all with
      | cons first others =>
          cases first with
          | body bodies =>
              rw [checkBodies, checkBodies]
              apply Foretells.after
              intro _
              apply Foretells.after
              intro outer
              apply Foretells.after
              intro _
              apply Foretells.after
              intro _
              apply (foretells_inferExpression body bodies).bind
              intro bodyType
              apply Foretells.after
              intro _
              apply Foretells.after
              intro _
              apply Foretells.after
              intro _
              exact foretells_checkBodies rest others headers
termination_by structural members

end

end Check

/-!
## Malformed parts are not reported
-/

namespace Discipline

/-- Whatever types may be bound and held, nothing has been reported that would
have ended a check. -/
def recoverable : Discipline where
  Sound _ past := ∀ diagnostic ∈ diagnosticsOf past, diagnostic.kind ≠ .unexpectedNode
  Named _ _ _ := True
  Value _ _ _ := True

end Discipline

theorem Event.IsOrdinary.kind_ne {event : Event} (ordinary : event.IsOrdinary)
    {diagnostic : Diagnostic} (said : event.diagnostic? = some diagnostic) :
    diagnostic.kind ≠ .unexpectedNode := by
  cases event with
  | reported span problem =>
      cases said
      cases problem with
      | malformed node => exact ordinary.elim
      | _ => simp [Diagnostic.ofProblem, Problem.kind]
  | _ => cases said

theorem kind_ne_of_mem_groupEvents {state : State} {members : List TypeDeclaration}
    {diagnostic : Diagnostic} (said : diagnostic ∈ diagnosticsOf (state.groupEvents members)) :
    diagnostic.kind ≠ .unexpectedNode := by
  rcases List.mem_filterMap.mp said with ⟨event, happened, said⟩
  rcases mem_groupEvents happened with rfl | ordinary | ⟨member, id, _, chain⟩
  · cases said
  · exact ordinary.kind_ne said
  · unfold Types.chainReports at chain
    split at chain
    · cases chain
    · rename_i error _
      by_cases inside : error.stop ∈ groupIds state.types.size members
      · rw [if_pos inside, List.mem_singleton] at chain
        subst chain
        cases said
        simp [Diagnostic.ofProblem, Problem.kind]
      · rw [if_neg inside, List.mem_singleton] at chain
        subst chain
        cases said

namespace Discipline

theorem recoverable_lawful : recoverable.Lawful where
  value_of_named := id
  named_int := fun _ => trivial
  named_string := fun _ => trivial
  named_void := fun _ => trivial
  value_nil := fun _ => trivial
  named_error := fun _ _ => trivial
  sound_append := by
    intro types past events sound ordinary diagnostic member
    rw [diagnosticsOf_append] at member
    rcases List.mem_append.mp member with earlier | new
    · exact sound diagnostic earlier
    · rcases List.mem_filterMap.mp new with ⟨event, happened, said⟩
      exact (ordinary event happened).kind_ne said
  named_append := id
  value_append := id
  representative := fun _ _ => trivial
  parts := fun _ _ _ => trivial
  unknown := fun _ _ _ => trivial
  storable := fun _ _ _ _ => trivial
  group := by
    intro history members holds
    rw [Check.run_makeTypes]
    refine ⟨fun diagnostic member => ?_, ⟨id, id⟩, fun _ _ => trivial⟩
    rw [History.after, diagnosticsOf_append] at member
    rcases List.mem_append.mp member with earlier | new
    · exact holds.sound diagnostic earlier
    · exact kind_ne_of_mem_groupEvents new

theorem recoverable_ofRequests (outermost : Frame) (requests : List Request) :
    recoverable.Holds (History.ofRequests outermost requests) :=
  holds_ofRequests recoverable_lawful nofun outermost requests

end Discipline

/-- In every history, a check of an expression is aborted exactly if a part of
the expression is malformed, wherever it is and whatever else goes wrong, and
always for this one reason.  The reason itself is never among the reports.  If
any expressions are put where parts are malformed, the reports of the mended
expression begin with those of the malformed one. -/
theorem History.aborted_by_malformed_parts (outermost : Frame) (requests : List Request) :
    let history := ofRequests outermost requests
    (∀ diagnostic ∈ diagnosticsOf history.past, diagnostic.kind ≠ .unexpectedNode) ∧
    ∀ expression : Expression,
      let run := (Check.inferExpression expression).run history.state
      (expression.isParsed = true ↔ ∃ type, run.outcome = .ok type) ∧
      (expression.isParsed = false ↔ run.outcome = .error (.malformed "expression")) ∧
      (∀ diagnostic ∈ diagnosticsOf run.events, diagnostic.kind ≠ .unexpectedNode) ∧
      ∀ whole, expression.MendedTo whole →
        diagnosticsOf run.events <+:
          diagnosticsOf ((Check.inferExpression whole).run history.state).events := by
  intro history
  have holds := Discipline.recoverable_ofRequests outermost requests
  refine ⟨holds.sound, fun expression => ?_⟩
  intro run
  have completes := Check.completes_inferExpression expression
  refine ⟨completes.iff_ok history.state, completes.iff_error history.state,
    fun diagnostic said => ?_, fun whole mended => ?_⟩
  · have kept :=
      Discipline.keeps_inferExpression Discipline.recoverable_lawful expression history holds
    refine kept.1.sound diagnostic ?_
    rw [History.after, diagnosticsOf_append]
    exact List.mem_append_right _ said
  · exact (Check.foretells_inferExpression expression mended).diagnosticsOf_begins history.state

/-- A function of a block calls an unknown function with one argument. -/
def Expression.unknownCall (argument : Expression) : Expression :=
  let here : Span := ⟨1, 1, 1, 1⟩
  .block [.functions [⟨⟨"f", here⟩, [], none, .call ⟨"g", here⟩ [argument] here, here⟩] here]
    (.nil here) here

/-- The argument is visited although the function is unknown, so a malformed one
aborts the check after the first report, and a wrong one is reported after it. -/
theorem History.aborted_by_malformed_parts_unknownCall :
    let malformed := Expression.unknownCall (.malformed ⟨1, 1, 1, 1⟩)
    let whole := Expression.unknownCall (.call ⟨"h", ⟨1, 1, 1, 1⟩⟩ [] ⟨1, 1, 1, 1⟩)
    let state := (ofRequests outermostFrame []).state
    malformed.MendedTo whole ∧
    malformed.isParsed = false ∧
    ((Check.inferExpression malformed).run state).outcome = .error (.malformed "expression") ∧
    (diagnosticsOf ((Check.inferExpression malformed).run state).events).length = 1 ∧
    (diagnosticsOf ((Check.inferExpression whole).run state).events).length = 2 ∧
    diagnosticsOf ((Check.inferExpression malformed).run state).events <+:
      diagnosticsOf ((Check.inferExpression whole).run state).events := by
  intro malformed whole state
  have mended : malformed.MendedTo whole :=
    .block (.cons (.functions (.cons (.body (.call (.cons (.malformed _) .nil))) .nil)) .nil) .nil
  have facts := (aborted_by_malformed_parts outermostFrame []).2 malformed
  have parsed : malformed.isParsed = false := by decide
  exact ⟨mended, parsed, facts.2.1.mp parsed, by decide, by decide, facts.2.2.2 whole mended⟩

end StaticSemantics
