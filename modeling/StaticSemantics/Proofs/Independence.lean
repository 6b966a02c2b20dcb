import StaticSemantics.Proofs.Comparison.Trees
import StaticSemantics.Proofs.Malformed
import StaticSemantics.Proofs.WellFormed

namespace StaticSemantics

/-!
# Checks do not depend on earlier checks

A check that ends well leaves behind the same names in scope and a table that
has only grown.  So whatever is checked next differs from what it would have
been without that check in the numbers of its new types alone, and numbers are
never shown.  This is why one session can check many programs, and why the
members of a sequence can be checked apart from each other.

A check that was aborted is different: the scopes that it has opened stay open,
and names in them stay in scope.
-/

/-!
## Tables that only grow
-/

namespace Discipline

/-- Whatever may be bound and held, the table has grown out of this one. -/
def growing (base : Types) : Discipline where
  Sound types _ := ∃ cells, types = base.extend cells
  Named _ _ _ := True
  Value _ _ _ := True

theorem growing_lawful (base : Types) : (growing base).Lawful :=
  ofTable_lawful (fun sound _ => sound) fun state past members sound => by
    rcases sound with ⟨cells, types⟩
    refine ⟨cells ++ members.map (·.cell (state.groupNames members)), ?_⟩
    rw [← Types.extend_extend, ← types]
    rfl

end Discipline

/-- A later state with the same names in scope, where more types may have been
declared. -/
structure State.Precedes (state later : State) : Prop where
  typeNames_eq : later.typeNames = state.typeNames
  valueNames_eq : later.valueNames = state.valueNames
  grown : ∃ cells, later.types = state.types.extend cells

namespace State.Precedes

variable {state middle reached : State} {α : Type}

theorem refl (state : State) : state.Precedes state :=
  ⟨rfl, rfl, [], (Types.extend_nil _).symm⟩

/-- A check that ends well goes on to such a state. -/
theorem onward (wellFormed : state.WellFormed) (precedes : state.Precedes middle)
    {check : Check α} {wanted : History → α → Prop} (balanced : check.Balanced)
    (keeps : ∀ history, (Discipline.growing state.types).Keeps history check wanted) {value : α}
    {events : List Event} (ran : check.run middle = ⟨.ok value, reached, events⟩) :
    state.Precedes reached := by
  have holds : (Discipline.growing state.types).Holds ⟨middle, []⟩ := by
    refine ⟨precedes.grown, ?_, ?_⟩
    · simp only [precedes.typeNames_eq]
      exact wellFormed.typeNames.mono fun _ _ => trivial
    · simp only [precedes.valueNames_eq]
      exact wellFormed.valueNames.mono fun _ _ => trivial
  have grown := (keeps ⟨middle, []⟩ holds).1.sound
  have adds := balanced middle
  rw [ran] at grown
  rw [Check.Ends, ran] at adds
  exact ⟨adds.typeNames.trans precedes.typeNames_eq,
    adds.valueNames.trans precedes.valueNames_eq, grown⟩

theorem inferExpression (wellFormed : state.WellFormed) (precedes : state.Precedes middle)
    (expression : Expression) {type : TypeId} {events : List Event}
    (ran : (Check.inferExpression expression).run middle = ⟨.ok type, reached, events⟩) :
    state.Precedes reached :=
  precedes.onward wellFormed (Check.balanced_inferExpression expression)
    (Discipline.keeps_inferExpression (Discipline.growing_lawful _) expression) ran

theorem inferProgram (wellFormed : state.WellFormed) (precedes : state.Precedes middle)
    (program : Expression) {type : TypeId} {events : List Event}
    (ran : (Check.inferProgram program).run middle = ⟨.ok type, reached, events⟩) :
    state.Precedes reached :=
  precedes.onward wellFormed (Check.balanced_inferProgram program)
    (Discipline.keeps_inferProgram (Discipline.growing_lawful _) program) ran

/-- After many programs that were checked to their ends. -/
theorem inferPrograms (wellFormed : state.WellFormed) (precedes : state.Precedes middle)
    (programs : List Expression) {types : List TypeId} {events : List Event}
    (ran : (programs.mapM Check.inferProgram).run middle = ⟨.ok types, reached, events⟩) :
    state.Precedes reached := by
  induction programs generalizing middle types events with
  | nil =>
      cases ran
      exact precedes
  | cons program rest inductionHypothesis =>
      rw [List.mapM_cons, Check.run_bind] at ran
      rcases first : (Check.inferProgram program).run middle with ⟨outcome, between, early⟩
      rw [first] at ran
      cases outcome with
      | error problem => cases ran
      | ok type =>
          have further := precedes.inferProgram wellFormed program first
          rcases others : (rest.mapM Check.inferProgram).run between with ⟨outcome, last, late⟩
          cases outcome with
          | error problem =>
              simp only [Check.run_bind_of_error others] at ran
              cases ran
          | ok types =>
              simp only [Check.run_bind_of_ok others, Check.run_pure] at ran
              cases ran
              exact inductionHypothesis further others

/-- From the two states checks run alike, with room for the types in between. -/
theorem linked (wellFormed : state.WellFormed) (precedes : state.Precedes middle) :
    ∃ distance,
      Comparison.Linked ⟨wellFormed.types.room distance, False, False.elim⟩ state middle := by
  rcases precedes.grown with ⟨cells, types⟩
  refine ⟨cells.length, ?_, ?_, ?_⟩
  · rw [types]
    exact wellFormed.types.shifted_extend cells
  · rw [precedes.typeNames_eq]
    exact .refl fun binding member id part =>
      wellFormed.types.apply_room _ ((wellFormed.typeNames.bindings binding member).2 id part)
  · rw [precedes.valueNames_eq]
    exact .refl fun binding member id part =>
      wellFormed.types.apply_room _ ((wellFormed.valueNames.bindings binding member).2 id part)

end State.Precedes

/-!
## Runs that agree
-/

/-- Two tables that are the same but for the numbers of the types that are not
in `base`. -/
structure Types.SameBeyond (base types other : Types) (rename : TypeId → TypeId) : Prop where
  injective : ∀ {first second}, rename first = rename second → first = second
  fixed : ∀ id, base.Holds id → rename id = id
  holds : ∀ id, types.Holds id → other.Holds (rename id)
  get_eq : ∀ id, other.get (rename id) = (types.get id).rename rename
  site_eq : ∀ id, other.site? (rename id) = types.site? id
  describe_eq : ∀ id, other.describe (rename id) = types.describe id

/-- Two runs with the same diagnostics and the same outcome, where types that
are not in `base` may have other numbers. -/
def Run.Agrees (base : Types) (run other : Run TypeId) : Prop :=
  diagnosticsOf other.events = diagnosticsOf run.events ∧
  ∃ rename, base.SameBeyond run.state.types other.state.types rename ∧
    SameOutcome (fun id otherId => otherId = rename id) run.outcome other.outcome

theorem Types.WellFormed.sameBeyond {types other base : Types} (wellFormed : base.WellFormed)
    {distance : Nat} (shifted : types.Shifted (wellFormed.room distance) other) :
    base.SameBeyond types other (wellFormed.room distance).apply where
  injective := Shift.apply_injective
  fixed := fun _ held => wellFormed.apply_room distance held
  holds := fun _ held => shifted.holds_apply held
  get_eq := shifted.get_apply
  site_eq := shifted.site_apply
  describe_eq := shifted.renamed.describe_rename

/-- From a later state with the same names, a check agrees with what it would
have been. -/
theorem State.Precedes.agrees {state later : State} (wellFormed : state.WellFormed)
    (precedes : state.Precedes later) {check : Check TypeId}
    (parallel : ∀ comparison : Comparison, comparison.Parallel check check comparison.Value) :
    (check.run state).Agrees state.types (check.run later) := by
  rcases precedes.linked wellFormed with ⟨distance, linked⟩
  have runs := parallel _ state later linked
  have renamed : SameOutcome (fun id other => other = (wellFormed.types.room distance).apply id)
      (check.run state).outcome (check.run later).outcome := by
    refine runs.outcomes.imp ?_
    rintro id other (same | ⟨forgets, _⟩)
    · exact same
    · exact forgets.elim
  exact ⟨runs.reports.complete.resolve_left id, _,
    wellFormed.types.sameBeyond runs.linked.types, renamed⟩

/-- The members of a sequence are checked as if each stood alone. -/
theorem Check.diagnosticsOf_inferSequence {state middle : State} (wellFormed : state.WellFormed)
    (precedes : state.Precedes middle) (members : List Expression) (last : TypeId)
    (parsed : Expression.areParsed members = true) :
    diagnosticsOf ((inferSequence members last).run middle).events =
      members.flatMap fun member => diagnosticsOf ((inferExpression member).run state).events := by
  induction members generalizing middle last with
  | nil => rfl
  | cons member rest inductionHypothesis =>
      rw [Expression.areParsed, Bool.and_eq_true] at parsed
      rcases (completes_inferExpression member).succeeds parsed.1 middle with
        ⟨type, reached, events, ran⟩
      have agrees := precedes.agrees wellFormed
        fun _ => Comparison.parallel_inferExpression member
      -- The rest begins in a later state yet, which `state` precedes as well.
      have further := precedes.inferExpression wellFormed member ran
      rw [inferSequence, run_bind_of_ok ran, List.flatMap_cons, ← agrees.1, ran]
      simp only [diagnosticsOf_append, inductionHypothesis further type parsed.2]

/-- In every history, what is checked after an expression without malformed
parts is checked as if that expression had not been checked.  So a program that
is checked twice has the same diagnostics twice, programs that are checked to
their ends do not disturb those behind them, and the diagnostics of a sequence
are those of its members, each checked alone. -/
theorem History.checks_independent (outermost : Frame) (requests : List Request) :
    let state := (ofRequests outermost requests).state
    (∀ first second : Expression, first.isParsed = true →
      ((Check.inferExpression second).run state).Agrees state.types
        ((Check.inferExpression second).run ((Check.inferExpression first).run state).state)) ∧
    (∀ program : Expression, program.isParsed = true →
      diagnosticsOf ((Check.inferProgram program).run
          ((Check.inferProgram program).run state).state).events =
        diagnosticsOf ((Check.inferProgram program).run state).events) ∧
    (∀ (before : List Expression) (types : List TypeId) (reached : State) (events : List Event),
      (before.mapM Check.inferProgram).run state = ⟨.ok types, reached, events⟩ →
      ∀ program : Expression, ((Check.inferProgram program).run state).Agrees state.types
        ((Check.inferProgram program).run reached)) ∧
    (∀ (members : List Expression) (span : Span), Expression.areParsed members = true →
      diagnosticsOf ((Check.inferExpression (.sequence members span)).run state).events =
        members.flatMap fun member =>
          diagnosticsOf ((Check.inferExpression member).run state).events) := by
  intro state
  have wellFormed : state.WellFormed :=
    (Discipline.wellFormed_ofRequests outermost requests).wellFormed
  have here := State.Precedes.refl state
  refine ⟨fun first second parsed => ?_, fun program parsed => ?_,
    fun before types reached events ran program => ?_, fun members span parsed => ?_⟩
  · rcases (Check.completes_inferExpression first).succeeds parsed state with
      ⟨type, reached, events, ran⟩
    rw [ran]
    exact (here.inferExpression wellFormed first ran).agrees wellFormed
      fun _ => Comparison.parallel_inferExpression second
  · rcases (Check.completes_inferProgram program).succeeds parsed state with
      ⟨type, reached, events, ran⟩
    have agrees := (here.inferProgram wellFormed program ran).agrees wellFormed
      fun _ => Comparison.parallel_inferProgram program
    rw [← agrees.1, ran]
  · exact (here.inferPrograms wellFormed before ran).agrees wellFormed
      fun _ => Comparison.parallel_inferProgram program
  · rw [Check.inferExpression]
    exact Check.diagnosticsOf_inferSequence wellFormed here members .void parsed

/-- A block that declares a type and makes a value of it. -/
def Expression.localRecord : Expression :=
  let here : Span := ⟨1, 1, 1, 1⟩
  .block [.types [⟨⟨"r", here⟩, .record [] here, here⟩] here] (.record ⟨"r", here⟩ [] here) here

/-- The second time, the type of the block has another number. -/
theorem History.checks_independent_localRecord :
    Expression.localRecord.isParsed = true ∧
    ((Check.inferExpression Expression.localRecord).run
      (ofRequests outermostFrame []).state).outcome = .ok ⟨5⟩ ∧
    ((Check.inferExpression Expression.localRecord).run
      ((Check.inferExpression Expression.localRecord).run
        (ofRequests outermostFrame []).state).state).outcome = .ok ⟨6⟩ ∧
    ((Check.inferExpression Expression.localRecord).run
        (ofRequests outermostFrame []).state).Agrees (ofRequests outermostFrame []).state.types
      ((Check.inferExpression Expression.localRecord).run
        ((Check.inferExpression Expression.localRecord).run
          (ofRequests outermostFrame []).state).state) := by
  have parsed : Expression.localRecord.isParsed = true := by decide
  exact ⟨parsed, rfl, rfl, (checks_independent outermostFrame []).1 _ _ parsed⟩

end StaticSemantics
