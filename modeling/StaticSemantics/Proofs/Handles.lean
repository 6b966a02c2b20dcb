import StaticSemantics.Proofs.Comparison.Trees
import StaticSemantics.Proofs.Mending
import StaticSemantics.Proofs.Sessions

namespace StaticSemantics

/-!
# Handles are never looked into

The handles for code generation are recorded in bindings and handed back to the
allocator, and that is all.  So two states that are the same without their
handles cannot be told apart by what a check answers and reports: they may have
other allocators, be in other frames, and have other handles in every binding.

Nothing is asked of the states but that.  They need not be states that checks
lead to, since nothing moves in the table and nothing is forgotten.
-/

/-- An entry with the same handles as any other one. -/
def Entry.withoutHandles : Entry → Entry
  | type id => .type id
  | .variable entry => .variable { entry with slot := ⟨⟨0⟩, 0⟩ }
  | function entry => .function { entry with frame := ⟨0⟩, label := ⟨0⟩ }

def Binding.withoutHandles (binding : Binding) : Binding :=
  { binding with entry := binding.entry.withoutHandles }

def Environment.withoutHandles (env : Environment) : Environment :=
  { env with bindings := env.bindings.map Binding.withoutHandles }

/-- What is left of a state without its handles: the types, and names with
their marks, sorts and types. -/
def State.withoutHandles (state : State) : State where
  types := state.types
  typeNames := state.typeNames.withoutHandles
  valueNames := state.valueNames.withoutHandles
  frame := ⟨0⟩
  storage := .new ⟨0⟩

namespace Comparison

/-- Two sides that differ in nothing that is compared. -/
def identical : Comparison :=
  ⟨.still, False, False.elim⟩

theorem value_identical_iff {id other : TypeId} : identical.Value id other ↔ id = other := by
  rw [Value, identical, Shift.apply_eq_self rfl, eq_comm]
  exact or_iff_left fun forgets => forgets.1

theorem values_identical_iff {ids others : List TypeId} :
    ids.Forall₂ identical.Value others ↔ ids = others := by
  have same : identical.Value = fun id other => id = other := by
    funext id other
    exact propext value_identical_iff
  rw [same, List.forall₂_eq_eq_eq]

theorem entries_identical_iff {entry other : Entry} :
    identical.Entries entry other ↔ entry.withoutHandles = other.withoutHandles := by
  cases entry <;> cases other
  case type.type id other =>
    rw [Entries, identical, Shift.apply_eq_self rfl, Entry.withoutHandles, Entry.withoutHandles,
      Entry.type.injEq, eq_comm]
  all_goals
    simp [Entries, Entry.withoutHandles, value_identical_iff, values_identical_iff]

theorem bindings_identical_iff {binding other : Binding} :
    identical.Bindings binding other ↔ binding.withoutHandles = other.withoutHandles := by
  obtain ⟨name, entry⟩ := binding
  obtain ⟨otherName, otherEntry⟩ := other
  rw [Binding.withoutHandles, Binding.withoutHandles, Binding.mk.injEq, ← entries_identical_iff]
  exact ⟨fun related => ⟨related.name_eq.symm, related.entries⟩,
    fun same => ⟨same.1.symm, same.2⟩⟩

theorem environments_identical_iff {env other : Environment} :
    identical.Environments env other ↔ env.withoutHandles = other.withoutHandles := by
  have bindings : env.bindings.Forall₂ identical.Bindings other.bindings ↔
      env.bindings.map Binding.withoutHandles = other.bindings.map Binding.withoutHandles := by
    have same : identical.Bindings =
        fun binding other => binding.withoutHandles = other.withoutHandles := by
      funext binding other
      exact propext bindings_identical_iff
    rw [← List.forall₂_eq_eq_eq, List.forall₂_map_left_iff, List.forall₂_map_right_iff, same]
  rw [Environment.withoutHandles, Environment.withoutHandles, Environment.mk.injEq, ← bindings]
  exact ⟨fun related => ⟨related.bindings, related.marks_eq.symm⟩,
    fun same => ⟨same.1, same.2.symm⟩⟩

/-- States are compared without their handles. -/
theorem linked_identical_iff {state other : State} :
    identical.Linked state other ↔ state.withoutHandles = other.withoutHandles := by
  constructor
  · intro linked
    have types : other.types = state.types := linked.types.eq rfl
    rw [State.withoutHandles, State.withoutHandles, types,
      environments_identical_iff.mp linked.typeNames,
      environments_identical_iff.mp linked.valueNames]
  · intro same
    rw [State.withoutHandles, State.withoutHandles, State.mk.injEq] at same
    rcases same with ⟨types, typeNames, valueNames, _⟩
    refine ⟨?_, environments_identical_iff.mpr typeNames,
      environments_identical_iff.mpr valueNames⟩
    rw [← types]
    exact state.types.shifted_still

/-!
## What is asked for
-/

/-- Answers on the one side and on the other. -/
def Answers (comparison : Comparison) : Answer → Answer → Prop
  | .type id, .type other => comparison.Value id other
  | .declared, .declared => True
  | .meaning type, .meaning other => other = type.rename comparison.shift.apply
  | _, _ => False

theorem answers_identical {answer other : Answer} (alike : identical.Answers answer other) :
    answer = other := by
  match answer, other, alike with
  | .type id, .type other, value => rw [value_identical_iff.mp value]
  | .declared, .declared, _ => rfl
  | .meaning type, .meaning other, renamed =>
      rw [show other = _ from renamed, Ty.rename_eq_self fun part _ => Shift.apply_eq_self rfl part]

variable {comparison : Comparison}

theorem parallel_interpretType (body : TypeExpression) (name : String) :
    comparison.Parallel (Check.interpretType body name) (Check.interpretType body name)
      fun type other => other = type.rename comparison.shift.apply := by
  intro state other linked
  have reports : body.reports other.typeNames = body.reports state.typeNames := by
    rw [TypeExpression.reports, TypeExpression.reports, funext linked.typeNames.typeReports_eq]
  rw [Check.run_interpretType, Check.run_interpretType, reports]
  exact ⟨linked, .refl _, .ok (body.meaning_rename name Shift.apply_error linked.typeNames.typeOf?_eq)⟩

/-- Whatever is asked for, it is answered alike. -/
theorem parallel_request (request : Request) :
    comparison.Parallel request.check request.check comparison.Answers := by
  cases request with
  | program root => exact (parallel_inferProgram root).bind fun _ _ value => .pure value
  | expression root => exact (parallel_inferExpression root).bind fun _ _ value => .pure value
  | place root => exact (parallel_inferPlace root).bind fun _ _ value => .pure value
  | declaration root => exact (parallel_makeDeclaration root).bind fun _ _ _ => .pure trivial
  | meaning body name =>
      exact (parallel_interpretType body name).bind fun _ _ renamed => .pure renamed

end Comparison

/-- Two runs that cannot be told apart but by the handles in what they leave. -/
structure Run.SameButHandles {α : Type} (run other : Run α) : Prop where
  outcome : run.outcome = other.outcome
  diagnostics : diagnosticsOf run.events = diagnosticsOf other.events
  state : run.state.withoutHandles = other.state.withoutHandles

/-- A check that runs alike whatever it is compared with does so whatever the
handles are. -/
theorem Check.sameButHandles {α : Type} {check : Check α} {related : α → α → Prop}
    (parallel : Comparison.identical.Parallel check check related)
    (same : ∀ value other, related value other → value = other) {first second : State}
    (agree : first.withoutHandles = second.withoutHandles) :
    (check.run first).SameButHandles (check.run second) := by
  have runs := parallel first second (Comparison.linked_identical_iff.mpr agree)
  refine ⟨?_, (runs.reports.complete.resolve_left id).symm,
    Comparison.linked_identical_iff.mp runs.linked⟩
  have outcomes := runs.outcomes
  generalize (check.run first).outcome = outcome at outcomes
  generalize (check.run second).outcome = other at outcomes
  cases outcomes with
  | ok related => rw [same _ _ related]
  | error problem => rfl

/-- In a session no check gives the handles away to the next one. -/
theorem Session.performAll_sameButHandles (requests : List Request) (diagnostics : Diagnostics)
    {first second : State} (agree : first.withoutHandles = second.withoutHandles) :
    let session := Session.performAll ⟨first, diagnostics⟩ requests
    let other := Session.performAll ⟨second, diagnostics⟩ requests
    session.1 = other.1 ∧ session.2.diagnostics = other.2.diagnostics ∧
      session.2.state.withoutHandles = other.2.state.withoutHandles := by
  induction requests generalizing first second diagnostics with
  | nil => exact ⟨rfl, rfl, agree⟩
  | cons request rest inductionHypothesis =>
      have step := Check.sameButHandles (Comparison.parallel_request request)
        (fun _ _ => Comparison.answers_identical) agree
      rcases inductionHypothesis
        (diagnostics.receiveAll (diagnosticsOf (request.check.run first).events)) step.state with
        ⟨outcomes, collected, states⟩
      simp only [performAll_cons, perform, ← step.diagnostics, ← step.outcome]
      exact ⟨congrArg _ outcomes, collected, states⟩

/-- If two states are the same without their handles, then every check of an
expression, and every session of checks with the same collector, gives the same
answers or the same fatal problem, reports the same and leaves states that are
again the same without their handles. -/
theorem State.handles_never_matter (first second : State)
    (agree : first.withoutHandles = second.withoutHandles) :
    (∀ expression, ((Check.inferExpression expression).run first).SameButHandles
      ((Check.inferExpression expression).run second)) ∧
    ∀ (requests : List Request) (diagnostics : Diagnostics),
      let (outcomes, session) := Session.performAll ⟨first, diagnostics⟩ requests
      let (others, other) := Session.performAll ⟨second, diagnostics⟩ requests
      outcomes = others ∧ session.diagnostics = other.diagnostics ∧
        session.state.withoutHandles = other.state.withoutHandles := by
  refine ⟨fun expression => ?_, fun requests diagnostics => ?_⟩
  · exact Check.sameButHandles (Comparison.parallel_inferExpression expression)
      (fun _ _ => Comparison.value_identical_iff.mp) agree
  · exact Session.performAll_sameButHandles requests diagnostics agree

/-- A state with another allocator, in another frame, and with other handles
bound to the built-in functions. -/
def State.elsewhere : State :=
  { (History.ofRequests ⟨7⟩ []).state with frame := ⟨3⟩, storage := ⟨⟨9⟩, #[4, 2], 40⟩ }

/-- The declaration of a function takes other handles there, and the unknown
function is reported in the same way. -/
theorem State.handles_never_matter_unknownCall :
    let expression := Expression.unknownCall (.nil ⟨1, 1, 1, 1⟩)
    let run := (Check.inferExpression expression).run (History.ofRequests outermostFrame []).state
    let other := (Check.inferExpression expression).run elsewhere
    (History.ofRequests outermostFrame []).state.withoutHandles = elsewhere.withoutHandles ∧
    (diagnosticsOf run.events).length = 1 ∧ callsOf run.events ≠ callsOf other.events ∧
    run.SameButHandles other := by
  intro expression run other
  have agree : (History.ofRequests outermostFrame []).state.withoutHandles =
      elsewhere.withoutHandles := by
    decide
  exact ⟨agree, by decide, by decide, (handles_never_matter _ _ agree).1 expression⟩

end StaticSemantics
