import StaticSemantics.Proofs.Comparison.Basic
import StaticSemantics.Proofs.Scopes
import StaticSemantics.Proofs.Simulation.Labels
import StaticSemantics.Proofs.TypeCycles

namespace StaticSemantics

/-!
# Simulating a check by another one

A tree is checked from one state, and the tree with other names and places from
another state.  The two tables of types need not be the same.  It is enough that
every question a check asks about types has the same answer on both sides, and
that a group of types can be added on both sides without changing this.  What is
asked of the tables is collected in a structure, and whatever satisfies it gives
a statement about all trees.

The environments are compared by what is found in them, for the names that
matter and no others.  They may have different scopes and different hidden
bindings.  So nothing is known of a scope that is closed by itself; what is known
is that a check that ends well puts back the environments that it found.
-/

/-!
## Types and bindings of one shape
-/

/-- Fields of one shape. -/
structure Field.Alike (rename : String → String) (related : TypeId → TypeId → Prop)
    (field other : Field) : Prop where
  name_eq : other.name = rename field.name
  types : related field.type other.type

/-- Types of one shape, whose parts are related. -/
inductive Ty.Alike (rename : String → String) (related : TypeId → TypeId → Prop) :
    Ty → Ty → Prop
  | int : Alike rename related .int .int
  | string : Alike rename related .string .string
  | void : Alike rename related .void .void
  | nil : Alike rename related .nil .nil
  | error : Alike rename related .error .error
  | record {fields others : List Field}
    (alike : fields.Forall₂ (Field.Alike rename related) others) :
    Alike rename related (.record fields) (.record others)
  | array {element other : TypeId} (elements : related element other) :
    Alike rename related (.array element) (.array other)
  | alias (name : String) {target other : Option TypeId}
    (targets : Option.Rel related target other) :
    Alike rename related (.alias name target) (.alias (rename name) other)

theorem Ty.Alike.imp {rename : String → String} {related weaker : TypeId → TypeId → Prop}
    {type other : Ty} (alike : Ty.Alike rename related type other)
    (imply : ∀ id otherId, related id otherId → weaker id otherId) :
    Ty.Alike rename weaker type other := by
  cases alike with
  | int => exact .int
  | string => exact .string
  | void => exact .void
  | nil => exact .nil
  | error => exact .error
  | record alike =>
      exact .record (alike.imp fun _ _ fields => ⟨fields.name_eq, imply _ _ fields.types⟩)
  | array elements => exact .array (imply _ _ elements)
  | «alias» name targets =>
      cases targets with
      | none => exact .alias name .none
      | some target => exact .alias name (.some (imply _ _ target))

def TypeSite.relabel (relabeling : Relabeling) (site : TypeSite) : TypeSite :=
  ⟨relabeling.name site.name, relabeling.span site.span⟩

/-- Cells of declared types of one shape, which remember the same declaration. -/
structure TypeCell.Alike (relabeling : Relabeling) (related : TypeId → TypeId → Prop)
    (cell other : TypeCell) : Prop where
  declared : cell.type.IsDeclared
  types : Ty.Alike relabeling.name related cell.type other.type
  sites : ∃ site, cell.site = some site ∧ other.site = some (site.relabel relabeling)

theorem TypeCell.Alike.imp {relabeling : Relabeling} {related weaker : TypeId → TypeId → Prop}
    {cell other : TypeCell} (alike : TypeCell.Alike relabeling related cell other)
    (imply : ∀ id otherId, related id otherId → weaker id otherId) :
    TypeCell.Alike relabeling weaker cell other :=
  ⟨alike.declared, alike.types.imp imply, alike.sites⟩

/-- Bindings to things of one sort, with related types.  Handles for code
generation are not compared. -/
inductive Entry.Alike (related : TypeId → TypeId → Prop) : Entry → Entry → Prop
  | type {id other : TypeId} (types : related id other) :
    Alike related (.type id) (.type other)
  | variable {entry other : VariableEntry} (types : related entry.type other.type) :
    Alike related (.variable entry) (.variable other)
  | function {entry other : FunctionEntry}
    (parameters : entry.parameters.Forall₂ related other.parameters)
    (results : related entry.result other.result) :
    Alike related (.function entry) (.function other)

theorem Entry.Alike.imp_of_mem {related weaker : TypeId → TypeId → Prop} {entry other : Entry}
    (alike : Entry.Alike related entry other)
    (imply : ∀ id ∈ entry.parts, ∀ otherId, related id otherId → weaker id otherId) :
    Entry.Alike weaker entry other := by
  cases alike with
  | @type id _ types => exact .type (imply id (List.mem_singleton_self id) _ types)
  | @«variable» entry _ types =>
      exact .variable (imply entry.type (List.mem_singleton_self _) _ types)
  | @function entry _ parameters results =>
      have listed := (List.forall₂_and_left _ _).mpr
        ⟨fun id (member : id ∈ entry.parameters) => member, parameters⟩
      exact .function
        (listed.imp fun id _ both => imply id (List.mem_cons_of_mem _ both.1) _ both.2)
        (imply entry.result List.mem_cons_self _ results)

theorem Entry.Alike.imp {related weaker : TypeId → TypeId → Prop} {entry other : Entry}
    (alike : Entry.Alike related entry other)
    (imply : ∀ id otherId, related id otherId → weaker id otherId) :
    Entry.Alike weaker entry other :=
  alike.imp_of_mem fun id _ => imply id

/-- An entry is like itself if all its types are related to themselves. -/
theorem Entry.Alike.refl {related : TypeId → TypeId → Prop} {entry : Entry}
    (same : ∀ id ∈ entry.parts, related id id) : Entry.Alike related entry entry := by
  cases entry with
  | type id => exact .type (same id (List.mem_singleton_self id))
  | «variable» entry => exact .variable (same entry.type (List.mem_singleton_self _))
  | function entry =>
      refine .function (List.forall₂_same.mpr fun id member => ?_)
        (same entry.result List.mem_cons_self)
      exact same id (List.mem_cons_of_mem _ member)

theorem Entry.rel_self (found : Option Entry) :
    Option.Rel (Entry.Alike fun id other => other = id) found found := by
  cases found with
  | none => exact .none
  | some entry => exact .some (.refl fun _ _ => rfl)

/-!
## What is asked of the two sides
-/

/-- How the two sides are to be compared. -/
structure Correspondence where
  relabeling : Relabeling
  /-- The names for which the same is found on both sides. -/
  Visible : String → Prop
  /-- Whether the words of messages and the handles are the same as well. -/
  literal : Prop
  Tables : Types → Types → Prop
  /-- The types of a value on the two sides, each in its own table. -/
  Values : Types → Types → TypeId → TypeId → Prop

namespace Correspondence

variable (correspondence : Correspondence)

/-- What a member of a group may refer to on the two sides: older types that
correspond, or one and the same member of the group. -/
def Targets (types other : Types) (group : List TypeId) (id otherId : TypeId) : Prop :=
  correspondence.Values types other id otherId ∨ otherId = id ∧ id ∈ group

/-- What holds once a group has been added on both sides. -/
structure Grown (types other : Types) (group : List TypeId) (later otherLater : Types) : Prop where
  tables : correspondence.Tables later otherLater
  kept : ∀ ⦃id otherId⦄, correspondence.Values types other id otherId →
    correspondence.Values later otherLater id otherId
  members : ∀ id ∈ group, correspondence.Values later otherLater id id
  breaks : ∀ id ∈ group, otherLater.stopsWithin group id = later.stopsWithin group id

end Correspondence

/-- A comparison under which all questions about types are answered alike. -/
structure Simulation extends Correspondence where
  size_eq : ∀ {types other}, Tables types other → other.size = types.size
  builtIn : ∀ {types other id}, Tables types other → id.number < 5 → Values types other id id
  representative : ∀ {types other id otherId}, Tables types other →
    Values types other id otherId →
    Values types other (types.representative id) (other.representative otherId)
  concrete : ∀ {types other id otherId}, Tables types other → Values types other id otherId →
    Ty.Alike relabeling.name (Values types other) (types.concrete id) (other.concrete otherId)
  /-- The same types are told apart on both sides. -/
  identity : ∀ {types other first otherFirst second otherSecond}, Tables types other →
    Values types other first otherFirst → Values types other second otherSecond →
    (types.representative first = types.representative second ↔
      other.representative otherFirst = other.representative otherSecond)
  extend : ∀ {types other} {cells others : List TypeCell} {group : List TypeId},
    Tables types other →
    (∀ id, id ∈ group ↔ types.size ≤ id.number ∧ id.number < types.size + cells.length) →
    cells.Forall₂ (TypeCell.Alike relabeling
      (toCorrespondence.Targets types other group)) others →
    toCorrespondence.Grown types other group (types.extend cells) (other.extend others)
  relabeling_of_literal : literal → relabeling = .none
  tables_of_literal : literal → ∀ {types other}, Tables types other → other = types
  values_of_literal : literal → ∀ {types other id otherId}, Values types other id otherId →
    otherId = id

/-- The states of the two sides at one moment. -/
structure Sides where
  first : State
  second : State

namespace Simulation

section Relations

variable (simulation : Simulation)

def Value (sides : Sides) (id other : TypeId) : Prop :=
  simulation.Values sides.first.types sides.second.types id other

/-- What corresponds at one moment still does at a later one. -/
def Later (sides later : Sides) : Prop :=
  ∀ ⦃id other⦄, simulation.Value sides id other → simulation.Value later id other

/-- For the names that matter, the same is found in both environments. -/
def Environments (related : TypeId → TypeId → Prop) (env other : Environment) : Prop :=
  ∀ name, simulation.Visible name → Option.Rel (Entry.Alike related)
    (env.newest? name) (other.newest? (simulation.relabeling.name name))

/-- What holds on the two sides at all times, also after a check was aborted. -/
structure Aligned (sides : Sides) : Prop where
  tables : simulation.Tables sides.first.types sides.second.types
  handles : simulation.literal →
    sides.second.frame = sides.first.frame ∧ sides.second.storage = sides.first.storage

structure Scopes (sides : Sides) : Prop where
  typeNames : simulation.Environments (simulation.Value sides)
    sides.first.typeNames sides.second.typeNames
  valueNames : simulation.Environments (simulation.Value sides)
    sides.first.valueNames sides.second.valueNames

/-- Two states from which a check can be simulated. -/
structure Linked (sides : Sides) : Prop extends
  simulation.Aligned sides, simulation.Scopes sides

/-- Two problems that differ in their words only. -/
structure Matches (problem other : Problem) : Prop where
  kind_eq : other.kind = problem.kind
  same : simulation.literal → other = problem

/-- Two diagnostics that differ in their words only, each at its own place. -/
structure Says (diagnostic other : Diagnostic) : Prop where
  kind_eq : other.kind = diagnostic.kind
  span_eq : other.span = simulation.relabeling.span diagnostic.span
  same : simulation.literal → other = diagnostic

structure Reports (events others : List Event) : Prop where
  diagnostics : (diagnosticsOf events).Forall₂ simulation.Says (diagnosticsOf others)
  calls : simulation.literal → callsOf others = callsOf events

/-- What two runs have in common, where `wanted` tells how their answers belong
together. -/
structure Runs {α β : Type} (sides : Sides) (wanted : Sides → α → β → Prop) (run : Run α)
    (other : Run β) : Prop where
  aligned : simulation.Aligned ⟨run.state, other.state⟩
  later : simulation.Later sides ⟨run.state, other.state⟩
  reports : simulation.Reports run.events other.events
  outcomes : SameOutcome (wanted ⟨run.state, other.state⟩) run.outcome other.outcome

/-- From two states, one check is simulated by the other.  Nothing is said of
the environments that are left. -/
def Simulates {α β : Type} (sides : Sides) (check : Check α) (other : Check β)
    (wanted : Sides → α → β → Prop) : Prop :=
  simulation.Linked sides →
    simulation.Runs sides wanted (check.run sides.first) (other.run sides.second)

/-- A simulation after which the same is found in both environments again. -/
abbrev Parallel {α β : Type} (sides : Sides) (check : Check α) (other : Check β)
    (wanted : Sides → α → β → Prop) : Prop :=
  simulation.Simulates sides check other fun later value answer =>
    simulation.Scopes later ∧ wanted later value answer

end Relations

variable {simulation : Simulation} {sides later : Sides}

namespace Later

theorem refl (sides : Sides) : simulation.Later sides sides :=
  fun _ _ => id

theorem trans {last : Sides} (first : simulation.Later sides later)
    (second : simulation.Later later last) : simulation.Later sides last :=
  fun _ _ value => second (first value)

theorem forall₂ (onward : simulation.Later sides later) {ids others : List TypeId}
    (values : ids.Forall₂ (simulation.Value sides) others) :
    ids.Forall₂ (simulation.Value later) others :=
  values.imp onward

end Later

namespace Environments

variable {env other : Environment} {related : TypeId → TypeId → Prop}

theorem imp {weaker : TypeId → TypeId → Prop}
    (environments : simulation.Environments related env other)
    (imply : ∀ id otherId, related id otherId → weaker id otherId) :
    simulation.Environments weaker env other := by
  intro name visible
  have found := environments name visible
  generalize env.newest? name = entry at found
  generalize other.newest? (simulation.relabeling.name name) = otherEntry at found
  cases found with
  | none => exact .none
  | some alike => exact .some (alike.imp imply)

/-- Whatever is bound hides the same name on both sides. -/
theorem bind (environments : simulation.Environments related env other) (name : String)
    {entry otherEntry : Entry} (alike : Entry.Alike related entry otherEntry) :
    simulation.Environments related (env.bind name entry)
      (other.bind (simulation.relabeling.name name) otherEntry) := by
  intro sought visible
  rw [Environment.newest?_bind, Environment.newest?_bind]
  by_cases same : name = sought
  · rw [if_pos same, if_pos (congrArg simulation.relabeling.name same)]
    exact .some alike
  · rw [if_neg same, if_neg (mt simulation.relabeling.injective same)]
    exact environments sought visible

/-- A scope that is opened hides nothing. -/
theorem openScope (environments : simulation.Environments related env other) :
    simulation.Environments related env.openScope other.openScope :=
  environments

end Environments

namespace Reports

variable {events others further more : List Event}

theorem nil : simulation.Reports [] [] :=
  ⟨.nil, fun _ => rfl⟩

theorem append (first : simulation.Reports events others)
    (second : simulation.Reports further more) :
    simulation.Reports (events ++ further) (others ++ more) where
  diagnostics := by
    rw [diagnosticsOf_append, diagnosticsOf_append]
    exact List.rel_append first.diagnostics second.diagnostics
  calls := by
    intro literal
    rw [callsOf_append, callsOf_append, first.calls literal, second.calls literal]

end Reports

/-- The built-in types correspond to themselves. -/
theorem Aligned.builtIn (aligned : simulation.Aligned sides) {id : TypeId}
    (small : id.number < 5 := by decide) : simulation.Value sides id id :=
  Simulation.builtIn simulation aligned.tables small

theorem Matches.reported {problem other : Problem} (alike : simulation.Matches problem other)
    (span : Span) : simulation.Says (.ofProblem span problem)
      (.ofProblem (simulation.relabeling.span span) other) where
  kind_eq := alike.kind_eq
  span_eq := rfl
  same := by
    intro literal
    rw [alike.same literal, simulation.relabeling_of_literal literal]
    rfl

/-!
## Rules
-/

namespace Simulates

variable {α β γ δ ι κ : Type} {check : Check α} {other : Check β} {wanted : Sides → α → β → Prop}

/-- A rule may use that the two sides are linked where it applies. -/
theorem given (goes : simulation.Linked sides → simulation.Simulates sides check other wanted) :
    simulation.Simulates sides check other wanted :=
  fun linked => goes linked linked

/-- What runs to its end in one step, on both sides. -/
theorem of_runs {value : α} {otherValue : β} {reached otherReached : State}
    {events others : List Event} (ran : check.run sides.first = ⟨.ok value, reached, events⟩)
    (otherRan : other.run sides.second = ⟨.ok otherValue, otherReached, others⟩)
    (reaches : simulation.Linked sides → simulation.Aligned ⟨reached, otherReached⟩ ∧
      simulation.Later sides ⟨reached, otherReached⟩ ∧ simulation.Reports events others ∧
      wanted ⟨reached, otherReached⟩ value otherValue) :
    simulation.Simulates sides check other wanted := by
  intro linked
  rcases reaches linked with ⟨aligned, onward, reports, fits⟩
  rw [ran, otherRan]
  exact ⟨aligned, onward, reports, .ok fits⟩

/-- What goes on after a check may not need the environments any more. -/
theorem andThen {next : α → Check γ} {otherNext : β → Check δ} {last : Sides → γ → δ → Prop}
    (starts : simulation.Simulates sides check other wanted)
    (goes : ∀ later value answer, simulation.Later sides later → simulation.Aligned later →
      wanted later value answer → simulation.Runs later last
        ((next value).run later.first) ((otherNext answer).run later.second)) :
    simulation.Simulates sides (check >>= next) (other >>= otherNext) last := by
  intro linked
  rcases starts linked with ⟨aligned, onward, reports, outcomes⟩
  rcases ran : check.run sides.first with ⟨outcome, reached, events⟩
  rcases otherRan : other.run sides.second with ⟨otherOutcome, otherReached, otherEvents⟩
  rw [ran, otherRan] at aligned onward reports outcomes
  cases outcomes with
  | error problem =>
      rw [Check.run_bind_of_error ran, Check.run_bind_of_error otherRan]
      exact ⟨aligned, onward, reports, .error problem⟩
  | ok fits =>
      have rest := goes ⟨reached, otherReached⟩ _ _ onward aligned fits
      rw [Check.run_bind_of_ok ran, Check.run_bind_of_ok otherRan]
      exact ⟨rest.aligned, onward.trans rest.later, reports.append rest.reports, rest.outcomes⟩

/-- The second side goes on alone. -/
theorem closes {otherNext : β → Check δ} {last : Sides → α → δ → Prop}
    (starts : simulation.Simulates sides check other wanted)
    (goes : ∀ later value answer, simulation.Later sides later → simulation.Aligned later →
      wanted later value answer → simulation.Runs later last
        ⟨.ok value, later.first, []⟩ ((otherNext answer).run later.second)) :
    simulation.Simulates sides check (other >>= otherNext) last := by
  have both : simulation.Simulates sides (check >>= Pure.pure) (other >>= otherNext) last :=
    starts.andThen goes
  rwa [bind_pure] at both

theorem bind {next : α → Check γ} {otherNext : β → Check δ} {last : Sides → γ → δ → Prop}
    (starts : simulation.Parallel sides check other wanted)
    (goes : ∀ later value answer, simulation.Later sides later → wanted later value answer →
      simulation.Simulates later (next value) (otherNext answer) last) :
    simulation.Simulates sides (check >>= next) (other >>= otherNext) last :=
  starts.andThen fun later value answer onward aligned fits =>
    goes later value answer onward fits.2 ⟨aligned, fits.1⟩

/-- The two sides look at their tables. -/
theorem types {next : Types → Check α} {otherNext : Types → Check β}
    (goes : simulation.Tables sides.first.types sides.second.types →
      simulation.Simulates sides (next sides.first.types) (otherNext sides.second.types) wanted) :
    simulation.Simulates sides (Check.types >>= next) (Check.types >>= otherNext) wanted :=
  fun linked => goes linked.tables linked

theorem state {next : State → Check α} {otherNext : State → Check β}
    (goes : simulation.Linked sides →
      simulation.Simulates sides (next sides.first) (otherNext sides.second) wanted) :
    simulation.Simulates sides (Check.state >>= next) (Check.state >>= otherNext) wanted :=
  fun linked => goes linked linked

theorem abort (problem : Problem) :
    simulation.Simulates sides (Check.abort problem) (Check.abort problem) wanted :=
  fun linked => ⟨linked.toAligned, .refl sides, .nil, .error problem⟩

/-- A check that puts back the environments that it found on both sides may do
in between with its scopes what it likes. -/
theorem inScope (within : simulation.Simulates sides check other wanted)
    (balanced : check.Balanced) (otherBalanced : other.Balanced) :
    simulation.Parallel sides check other wanted := by
  intro linked
  have ends := balanced sides.first
  have otherEnds := otherBalanced sides.second
  rcases within linked with ⟨aligned, onward, reports, outcomes⟩
  unfold Check.Ends at ends otherEnds
  rcases ran : check.run sides.first with ⟨outcome, reached, events⟩
  rcases otherRan : other.run sides.second with ⟨otherOutcome, otherReached, otherEvents⟩
  rw [ran] at aligned onward reports outcomes ends
  rw [otherRan] at aligned onward reports outcomes otherEnds
  refine ⟨aligned, onward, reports, ?_⟩
  cases outcomes with
  | error problem => exact .error problem
  | ok fits =>
      refine .ok ⟨⟨?_, ?_⟩, fits⟩
      · change simulation.Environments _ reached.typeNames otherReached.typeNames
        rw [ends.typeNames, otherEnds.typeNames]
        exact linked.typeNames.imp onward
      · change simulation.Environments _ reached.valueNames otherReached.valueNames
        rw [ends.valueNames, otherEnds.valueNames]
        exact linked.valueNames.imp onward

theorem pure {value : α} {answer : β} (fits : wanted sides value answer) :
    simulation.Parallel sides (Pure.pure value) (Pure.pure answer) wanted :=
  fun linked => ⟨linked.toAligned, .refl sides, .nil, .ok ⟨linked.toScopes, fits⟩⟩

/-- One check after another, for lists that belong together.  What is found for
earlier members has to last. -/
theorem mapM {pair : ι → κ → Prop} {check : ι → Check α} {otherCheck : κ → Check β}
    (lasting : ∀ ⦃earlier later value answer⦄, simulation.Later earlier later →
      wanted earlier value answer → wanted later value answer)
    (each : ∀ sides item other, pair item other →
      simulation.Parallel sides (check item) (otherCheck other) wanted)
    {items : List ι} {others : List κ} (paired : items.Forall₂ pair others) :
    simulation.Parallel sides (items.mapM check) (others.mapM otherCheck)
      fun later values answers => values.Forall₂ (wanted later) answers := by
  induction paired generalizing sides with
  | nil => exact pure .nil
  | cons first _ inductionHypothesis =>
      rw [List.mapM_cons, List.mapM_cons]
      apply (each sides _ _ first).bind
      intro between value answer _ fits
      apply inductionHypothesis.bind
      intro last values answers onward allFit
      exact pure (.cons (lasting onward fits) allFit)

theorem report (span : Span) {problem other : Problem}
    (alike : simulation.Matches problem other) :
    simulation.Parallel sides (Check.report span problem)
      (Check.report (simulation.relabeling.span span) other) fun _ _ _ => True :=
  fun linked => ⟨linked.toAligned, .refl sides, ⟨.cons (alike.reported span) .nil, fun _ => rfl⟩,
    .ok ⟨linked.toScopes, trivial⟩⟩

/-- What is neither a diagnostic nor a request may differ. -/
theorem emit {event other : Event} (silent : event.diagnostic? = none ∧ event.call? = none)
    (otherSilent : other.diagnostic? = none ∧ other.call? = none) :
    simulation.Parallel sides (Check.emit event) (Check.emit other) fun _ _ _ => True := by
  intro linked
  refine ⟨linked.toAligned, .refl sides, ⟨?_, fun _ => ?_⟩, .ok ⟨linked.toScopes, trivial⟩⟩
  · simp [Check.run, Check.emit, diagnosticsOf, silent.1, otherSilent.1]
  · simp [Check.run, Check.emit, callsOf, silent.2, otherSilent.2]

/-- A change after which two states are linked as before. -/
theorem update {change otherChange : State → State}
    (kept : simulation.Linked sides →
      simulation.Later sides ⟨change sides.first, otherChange sides.second⟩ ∧
      simulation.Linked ⟨change sides.first, otherChange sides.second⟩) :
    simulation.Parallel sides (Check.update change) (Check.update otherChange)
      fun _ _ _ => True := by
  intro linked
  have reached := kept linked
  exact ⟨reached.2.toAligned, reached.1, .nil, .ok ⟨reached.2.toScopes, trivial⟩⟩

end Simulates
end Simulation
end StaticSemantics
