import Mathlib.Logic.Equiv.Basic
import StaticSemantics.Proofs.Simulation.Relabeled

namespace StaticSemantics

/-!
# Names and places mean nothing by themselves

A program with other names, and at other places, is checked as it was before.
Different names have to stay different, and the names that are bound from the
start have to stay what they are, because a program does not declare them.  Then
the outcome is the same, the same types take the same numbers, and the same is
reported in the same order, each thing at its new place.

Only texts may change.  In particular nothing is decided by comparing the texts
of messages, although two descriptions are compared before they are written.
-/

/-- The names that are bound before anything is checked. -/
def State.initialNames : List String :=
  ["int", "string", "void"] ++ Predefined.all.map (·.name)

/-- A run of the relabeled copy of a check. -/
structure Run.RelabeledTo (relabeling : Relabeling) (run other : Run TypeId) : Prop where
  outcome_eq : other.outcome = run.outcome
  types_eq : other.state.types = run.state.types.relabel relabeling
  diagnostics : (diagnosticsOf run.events).Forall₂
    (fun diagnostic moved => moved.kind = diagnostic.kind ∧
      moved.span = relabeling.span diagnostic.span) (diagnosticsOf other.events)

theorem Environment.newest?_eq_none {env : Environment} {name : String}
    (unbound : name ∉ env.bindings.map (·.name)) : env.newest? name = none := by
  rw [newest?, Option.map_eq_none_iff, List.find?_eq_none]
  intro binding member same
  exact unbound (List.mem_map.mpr ⟨binding, member, beq_iff_eq.mp same⟩)

/-- What is bound under names that stay is found under the same names, and what
is not bound is not bound under another name either. -/
theorem Environment.newest?_relabel {relabeling : Relabeling} {names : List String}
    (fixes : ∀ name ∈ names, relabeling.name name = name) {env : Environment}
    (bound : ∀ binding ∈ env.bindings, binding.name ∈ names) (name : String) :
    Option.Rel (Entry.Alike fun id other => other = id) (env.newest? name)
      (env.newest? (relabeling.name name)) := by
  by_cases known : name ∈ names
  · rw [fixes name known]
    exact Entry.rel_self _
  · have elsewhere : relabeling.name name ∉ names := by
      intro member
      exact known (relabeling.injective (fixes _ member) ▸ member)
    have unbound : ∀ other ∉ names, env.newest? other = none := by
      intro other unknown
      refine newest?_eq_none fun member => unknown ?_
      rcases List.mem_map.mp member with ⟨binding, listed, rfl⟩
      exact bound binding listed
    rw [unbound name known, unbound _ elsewhere]
    exact .none

namespace Relabeling

variable {relabeling : Relabeling}

/-- The state at the start is linked with itself. -/
theorem linked_initial (fixes : ∀ name ∈ State.initialNames, relabeling.name name = name)
    (outermost : Frame) :
    (Simulation.relabeled relabeling (fun _ => True) False False.elim).Linked
      ⟨.initial outermost, .initial outermost⟩ where
  tables := (Types.relabel_basic relabeling).symm
  handles := False.elim
  typeNames := by
    intro name _
    refine Environment.newest?_relabel fixes (fun binding member => ?_) name
    have names : (State.initial outermost).typeNames.bindings.map (·.name) =
        ["void", "string", "int"] := rfl
    have listed : ∀ name ∈ ["void", "string", "int"], name ∈ State.initialNames := by decide
    exact listed _ (names ▸ List.mem_map_of_mem member)
  valueNames := by
    intro name _
    refine Environment.newest?_relabel fixes (fun binding member => ?_) name
    have names : (State.initial outermost).valueNames.bindings.map (·.name) =
        Predefined.all.reverse.map (·.name) := rfl
    have listed : ∀ name ∈ Predefined.all.reverse.map (·.name), name ∈ State.initialNames := by
      decide
    exact listed _ (names ▸ List.mem_map_of_mem member)

/-- A simulated run is a relabeled one. -/
theorem relabeledTo_of_runs {visible : String → Prop} {literal : Prop}
    {still : literal → relabeling = .none} {sides : Sides} {run other : Run TypeId}
    {wanted : Sides → TypeId → TypeId → Prop}
    (runs : (Simulation.relabeled relabeling visible literal still).Runs sides wanted run other)
    (equal : ∀ later id otherId, wanted later id otherId → otherId = id) :
    run.RelabeledTo relabeling other where
  outcome_eq := runs.outcomes.eq (equal _)
  types_eq := runs.aligned.tables
  diagnostics := runs.reports.diagnostics.imp fun _ _ same => ⟨same.kind_eq, same.span_eq⟩

end Relabeling

/-- A tree in which all names are exchanged for others, and all places moved, is
checked at the start as the tree itself is: with the same outcome, the same table
of types but for the names and places in it, and reports of the same kinds in the
same order, each at the place to which it was moved.  It does not matter whether
the tree is checked as an expression or as a whole program. -/
theorem State.checks_equivariant (outermost : Frame) (relabeling : Relabeling)
    (fixes : ∀ name ∈ initialNames, relabeling.name name = name) (expression : Expression) :
    ((Check.inferExpression expression).run (initial outermost)).RelabeledTo relabeling
      ((Check.inferExpression (expression.relabel relabeling)).run (initial outermost)) ∧
    ((Check.inferProgram expression).run (initial outermost)).RelabeledTo relabeling
      ((Check.inferProgram (expression.relabel relabeling)).run (initial outermost)) := by
  have linked := Relabeling.linked_initial fixes outermost
  have expressionRuns :=
    Simulation.parallel_inferExpression expression (fun _ _ => trivial) linked
  have programRuns := Simulation.parallel_inferProgram expression (fun _ _ => trivial) linked
  exact ⟨Relabeling.relabeledTo_of_runs expressionRuns fun _ _ _ fits => fits.2,
    Relabeling.relabeledTo_of_runs programRuns fun _ _ _ fits => fits.2⟩

/-- Two names are exchanged for each other, and all places are one line down. -/
def Relabeling.swapped (first second : String) : Relabeling where
  name := Equiv.swap first second
  span span := ⟨span.line + 1, span.column, span.endLine + 1, span.endColumn⟩
  injective := (Equiv.swap first second).injective.eq_iff.mp

/-- A record type `node` with a field `next` of its own type, and a record that
has a number there. -/
def Expression.brokenNode : Expression :=
  let here : Span := ⟨1, 1, 1, 1⟩
  .block [.types [⟨⟨"node", here⟩, .record [⟨⟨"next", here⟩, ⟨"node", here⟩, here⟩] here, here⟩]
    here] (.record ⟨"node", here⟩ [⟨⟨"next", here⟩, .integer 1 ⟨2, 1, 2, 1⟩, here⟩] here) here

/-- With the type called `next` and the field called `node`, the number is still
reported. -/
theorem State.checks_equivariant_brokenNode :
    let relabeling := Relabeling.swapped "node" "next"
    let run := (Check.inferExpression Expression.brokenNode).run (initial outermostFrame)
    let other := (Check.inferExpression (Expression.brokenNode.relabel relabeling)).run
      (initial outermostFrame)
    (∀ name ∈ initialNames, relabeling.name name = name) ∧
    run.RelabeledTo relabeling other ∧
    (diagnosticsOf run.events).map (fun diagnostic => (diagnostic.message, diagnostic.span)) =
      [("type mismatch in 'next': expected node, found int", ⟨2, 1, 2, 1⟩)] ∧
    (diagnosticsOf other.events).map (fun diagnostic => (diagnostic.message, diagnostic.span)) =
      [("type mismatch in 'node': expected next, found int", ⟨3, 1, 3, 1⟩)] := by
  intro relabeling run other
  have fixes : ∀ name ∈ initialNames, relabeling.name name = name := by decide
  exact ⟨fixes, (checks_equivariant outermostFrame relabeling fixes Expression.brokenNode).1,
    by decide, by decide⟩

end StaticSemantics
