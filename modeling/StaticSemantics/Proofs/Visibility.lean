import StaticSemantics.Proofs.Simulation.Relabeled

namespace StaticSemantics

/-!
# Only visible bindings matter

A tree asks the environments about the names that occur in it, and about nothing
else.  So it cannot tell two states apart that give the same answers for these
names, whatever else is bound in them, however deep their scopes are and wherever
these begin.

Two things follow.  Bindings of names that a tree does not mention may be put in
or taken out anywhere.  And a block may be cut in two, so that the declarations
after the cut have scopes of their own.
-/

/-- States that differ in nothing that matters where only some names are used. -/
structure State.AgreesOn (visible : String → Prop) (state other : State) : Prop where
  types_eq : other.types = state.types
  frame_eq : other.frame = state.frame
  storage_eq : other.storage = state.storage
  typeNames : ∀ name, visible name → other.typeNames.lookUp name = state.typeNames.lookUp name
  valueNames : ∀ name, visible name → other.valueNames.lookUp name = state.valueNames.lookUp name

theorem State.AgreesOn.refl (visible : String → Prop) (state : State) :
    state.AgreesOn visible state :=
  ⟨rfl, rfl, rfl, fun _ _ => rfl, fun _ _ => rfl⟩

/-- Two runs that cannot be told apart from outside. -/
structure Run.Matches (run other : Run TypeId) : Prop where
  outcome_eq : other.outcome = run.outcome
  diagnostics_eq : diagnosticsOf other.events = diagnosticsOf run.events
  calls_eq : callsOf other.events = callsOf run.events
  types_eq : other.state.types = run.state.types
  storage_eq : other.state.storage = run.state.storage

namespace Environment

theorem newest?_eq_of_lookUp {env other : Environment} {name : String}
    (same : other.lookUp name = env.lookUp name) : other.newest? name = env.newest? name := by
  unfold lookUp at same
  cases found : env.newest? name <;> cases otherFound : other.newest? name <;>
    simp_all

/-- The bindings of some names, the newest first, hidden ones included. -/
def bindingsOf (env : Environment) (names : List String) : List Binding :=
  env.bindings.filter fun binding => decide (binding.name ∈ names)

/-- What is found under a name depends on the bindings of this name alone. -/
theorem lookUp_eq_of_bindingsOf {env other : Environment} {names : List String}
    (same : other.bindingsOf names = env.bindingsOf names) {name : String}
    (member : name ∈ names) : other.lookUp name = env.lookUp name := by
  have kept : ∀ env : Environment, (env.bindingsOf names).find? (·.name == name) =
      env.bindings.find? (·.name == name) := by
    intro env
    rw [bindingsOf, List.find?_filter]
    refine congrArg (List.find? · env.bindings) (funext fun binding => ?_)
    by_cases here : binding.name = name
    · simp [here, member]
    · simp [here]
  have found : other.newest? name = env.newest? name := by
    rw [newest?, newest?, ← kept, ← kept, same]
  rw [lookUp, lookUp, found]

end Environment

namespace Simulation

open Check

/-- The two sides are the same but for bindings of other names. -/
abbrev plain (visible : String → Prop) : Simulation :=
  .relabeled .none visible True fun _ => rfl

variable {visible : String → Prop} {sides : Sides}

theorem environments_plain {env other : Environment}
    (same : ∀ name, visible name → other.lookUp name = env.lookUp name) :
    (plain visible).Environments (fun id other => other = id) env other := by
  intro name member
  change Option.Rel _ (env.newest? name) (other.newest? name)
  rw [Environment.newest?_eq_of_lookUp (same name member)]
  exact Entry.rel_self _

theorem linked_plain {state other : State} (agrees : state.AgreesOn visible other) :
    (plain visible).Linked ⟨state, other⟩ where
  tables := agrees.types_eq.trans state.types.relabel_none.symm
  handles := fun _ => ⟨agrees.frame_eq, agrees.storage_eq⟩
  typeNames := environments_plain agrees.typeNames
  valueNames := environments_plain agrees.valueNames

theorem diagnostics_eq_of_runs {α β : Type} {run : Run α} {other : Run β}
    {wanted : Sides → α → β → Prop} (runs : (plain visible).Runs sides wanted run other) :
    diagnosticsOf other.events = diagnosticsOf run.events := by
  have reports := runs.reports.diagnostics.imp fun _ _ same => (same.same trivial).symm
  rw [List.forall₂_eq_eq_eq] at reports
  exact reports.symm

theorem types_eq_of_runs {α β : Type} {run : Run α} {other : Run β}
    {wanted : Sides → α → β → Prop} (runs : (plain visible).Runs sides wanted run other) :
    other.state.types = run.state.types :=
  runs.aligned.tables.trans run.state.types.relabel_none

theorem matches_of_runs {run other : Run TypeId} {wanted : Sides → TypeId → TypeId → Prop}
    (runs : (plain visible).Runs sides wanted run other)
    (equal : ∀ later id otherId, wanted later id otherId → otherId = id) :
    run.Matches other where
  outcome_eq := runs.outcomes.eq (equal _)
  diagnostics_eq := diagnostics_eq_of_runs runs
  calls_eq := runs.reports.calls trivial
  types_eq := types_eq_of_runs runs
  storage_eq := (runs.aligned.handles trivial).2

end Simulation

namespace Check

theorem makeDeclarations_append (first second : List Declaration) :
    makeDeclarations (first ++ second) = (do
      makeDeclarations first
      makeDeclarations second) := by
  induction first with
  | nil =>
      rw [List.nil_append, makeDeclarations, pure_bind]
  | cons declaration rest inductionHypothesis =>
      rw [List.cons_append, makeDeclarations, makeDeclarations, inductionHypothesis, bind_assoc]

end Check

namespace Simulation

open Check

variable {simulation : Simulation} {sides : Sides}

/-- On the second side a block begins that the first side does not have. -/
theorem simulates_openBlock {α β : Type} {check : Check α} {other : Check β} {span : Span}
    {count : Nat} {wanted : Sides → α → β → Prop}
    (inside : simulation.Simulates ⟨sides.first, sides.second.openBlock⟩ check other wanted) :
    simulation.Simulates sides check
      (do
        openTypeScope
        openValueScope
        emit (.blockOpened span count)
        other) wanted := by
  intro linked
  have runs := inside ⟨⟨linked.tables, linked.handles⟩, linked.typeNames, linked.valueNames⟩
  exact ⟨runs.aligned, runs.later, ⟨runs.reports.diagnostics, runs.reports.calls⟩, runs.outcomes⟩

/-- Declarations and a body are checked alike in scopes of their own. -/
theorem simulates_nested (unchanged : simulation.relabeling = .none)
    (all : ∀ name, simulation.Visible name) (declarations : List Declaration) (body : Expression)
    (span : Span) :
    simulation.Simulates sides
      (do
        makeDeclarations declarations
        inferExpression body)
      (inferExpression (.block declarations body span)) simulation.Value := by
  rw [inferExpression]
  apply simulates_openBlock
  apply (parallel_sameDeclarations unchanged declarations fun name _ => all name).bind
  intro s1 _ _ _ _
  apply (parallel_same unchanged body fun name _ => all name).closes
  intro s2 result other _ aligned fits
  exact ⟨⟨aligned.tables, aligned.handles⟩, fun _ _ => id, ⟨.nil, fun _ => rfl⟩, .ok fits.2⟩

/-- A block that is cut in two. -/
theorem simulates_split (unchanged : simulation.relabeling = .none)
    (all : ∀ name, simulation.Visible name) (first second : List Declaration) (body : Expression)
    (span inner : Span) :
    simulation.Simulates sides (inferExpression (.block (first ++ second) body span))
      (inferExpression (.block first (.block second body inner) span)) simulation.Value := by
  have whole : inferExpression (.block (first ++ second) body span) = (do
      openTypeScope
      openValueScope
      emit (.blockOpened span (first ++ second).length)
      makeDeclarations first
      let result ← (do
        makeDeclarations second
        inferExpression body)
      emit (.listed (← state).valueNames)
      closeValueScope
      closeTypeScope
      pure result) := by
    simp only [inferExpression, makeDeclarations_append, bind_assoc]
  rw [whole, inferExpression]
  apply parallel_openTypeScope.bind
  intro s1 _ _ _ _
  apply parallel_openValueScope.bind
  intro s2 _ _ _ _
  apply (Simulates.emit ⟨rfl, rfl⟩ ⟨rfl, rfl⟩).bind
  intro s3 _ _ _ _
  apply (parallel_sameDeclarations unchanged first fun name _ => all name).bind
  intro s4 _ _ _ _
  refine (simulates_nested unchanged all second body inner).andThen ?_
  intro s5 result other _ aligned value
  exact ⟨⟨aligned.tables, aligned.handles⟩, fun _ _ => id, ⟨.nil, fun _ => rfl⟩, .ok value⟩

end Simulation

/-- A tree is checked alike from all states that agree on the names in it: with
the same outcome, the same diagnostics, the same requests for handles and the same
table of types after it.  So bindings of other names change nothing, wherever they
are put in and whatever scopes there are.  And from any state, a block may be cut
in two. -/
theorem State.only_visible_bindings_matter :
    (∀ (expression : Expression) (state other : State),
      state.AgreesOn (· ∈ expression.names) other →
      ((Check.inferExpression expression).run state).Matches
        ((Check.inferExpression expression).run other)) ∧
    (∀ (expression : Expression) (state : State) (typeNames valueNames : Environment),
      typeNames.bindingsOf expression.names = state.typeNames.bindingsOf expression.names →
      valueNames.bindingsOf expression.names = state.valueNames.bindingsOf expression.names →
      ((Check.inferExpression expression).run state).Matches
        ((Check.inferExpression expression).run { state with typeNames, valueNames })) ∧
    (∀ (first second : List Declaration) (body : Expression) (span inner : Span) (state : State),
      ((Check.inferExpression (.block (first ++ second) body span)).run state).Matches
        ((Check.inferExpression (.block first (.block second body inner) span)).run state)) := by
  have seen : ∀ (expression : Expression) (state other : State),
      state.AgreesOn (· ∈ expression.names) other →
      ((Check.inferExpression expression).run state).Matches
        ((Check.inferExpression expression).run other) :=
    fun expression state other agrees => Simulation.matches_of_runs
      (Simulation.parallel_same rfl expression (fun _ => id) (Simulation.linked_plain agrees))
      fun _ _ _ fits => fits.2
  refine ⟨seen, fun expression state typeNames valueNames sameTypes sameValues => ?_,
    fun first second body span inner state => ?_⟩
  · exact seen expression state _ ⟨rfl, rfl, rfl,
      fun _ => Environment.lookUp_eq_of_bindingsOf sameTypes,
      fun _ => Environment.lookUp_eq_of_bindingsOf sameValues⟩
  · have linked := Simulation.linked_plain (.refl (fun _ => True) state)
    exact Simulation.matches_of_runs
      (Simulation.simulates_split rfl (fun _ => trivial) first second body span inner linked)
      fun _ _ _ fits => fits

/-- A variable is declared, and added to one that is not. -/
def Expression.halfKnown : Expression :=
  let here : Span := ⟨1, 1, 1, 1⟩
  .block [.variable ⟨"x", here⟩ (some ⟨"int", here⟩) (.integer 1 here) here]
    (.binary .plus (.place (.name ⟨"x", here⟩ here) here) (.place (.name ⟨"y", here⟩ here) here)
      here) here

/-- The state at the start, with scopes left open and another variable in one of
them. -/
def State.crowded : State :=
  let start := State.initial outermostFrame
  { start with
    typeNames := start.typeNames.openScope
    valueNames :=
      (start.valueNames.openScope.bind "z" (.variable ⟨.string, ⟨outermostFrame, 7⟩⟩)).openScope }

theorem State.only_visible_bindings_matter_halfKnown :
    let start := State.initial outermostFrame
    let run := (Check.inferExpression Expression.halfKnown).run start
    let other := (Check.inferExpression Expression.halfKnown).run State.crowded
    start.AgreesOn (· ∈ Expression.halfKnown.names) State.crowded ∧
    State.crowded.typeNames.bindingsOf Expression.halfKnown.names =
      start.typeNames.bindingsOf Expression.halfKnown.names ∧
    State.crowded.valueNames.bindingsOf Expression.halfKnown.names =
      start.valueNames.bindingsOf Expression.halfKnown.names ∧
    State.crowded ≠ start ∧
    (diagnosticsOf other.events).map (·.message) = ["undefined variable 'y'"] ∧
    run.Matches other ∧
    run.Matches
      ((Check.inferExpression Expression.halfKnown).run
        { start with
          typeNames := State.crowded.typeNames
          valueNames := State.crowded.valueNames }) := by
  intro start run other
  have sameTypes : State.crowded.typeNames.bindingsOf Expression.halfKnown.names =
      start.typeNames.bindingsOf Expression.halfKnown.names := by decide
  have sameValues : State.crowded.valueNames.bindingsOf Expression.halfKnown.names =
      start.valueNames.bindingsOf Expression.halfKnown.names := by decide
  have agrees : start.AgreesOn (· ∈ Expression.halfKnown.names) State.crowded :=
    ⟨rfl, rfl, rfl, by decide, by decide⟩
  exact ⟨agrees, sameTypes, sameValues, by decide, by decide,
    only_visible_bindings_matter.1 _ _ _ agrees,
    only_visible_bindings_matter.2.1 _ _ _ _ sameTypes sameValues⟩

end StaticSemantics
