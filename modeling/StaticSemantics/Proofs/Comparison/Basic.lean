import Mathlib.Data.List.Forall2
import StaticSemantics.Proofs.Observation
import StaticSemantics.Proofs.Renumbering

namespace StaticSemantics

/-!
# Two runs of one check

Some questions about the checker are questions about two runs: what changes if
less is known of the values in scope, if other checks came before, or if code
generation hands out other handles.  They are answered by running a check from
two states that are linked.  The numbers of types correspond by a shift, names
are bound to entries that correspond, and where the second side may forget, the
type of a value may be the error type there.

Handles for code generation are not compared.  They are recorded in the
bindings, but nothing is ever decided by them.
-/

/-- How the second of two runs may differ from the first. -/
structure Comparison where
  shift : Shift
  /-- Whether types of values may be unknown to the second run alone. -/
  forgets : Prop
  /-- What is forgotten counts as the error type, which has to be there. -/
  builtIn : forgets → 5 ≤ shift.start

/-- Two computations that end in the same way: with values that belong together,
or with the same error. -/
inductive SameOutcome {ε α β : Type} (wanted : α → β → Prop) : Except ε α → Except ε β → Prop
  | ok {value : α} {other : β} (fits : wanted value other) :
    SameOutcome wanted (.ok value) (.ok other)
  | error (error : ε) : SameOutcome wanted (.error error) (.error error)

theorem SameOutcome.imp {ε α β : Type} {wanted weaker : α → β → Prop} {first : Except ε α}
    {second : Except ε β} (same : SameOutcome wanted first second)
    (imply : ∀ value other, wanted value other → weaker value other) :
    SameOutcome weaker first second := by
  cases same with
  | ok fits => exact .ok (imply _ _ fits)
  | error error => exact .error error

theorem SameOutcome.eq {ε α : Type} {wanted : α → α → Prop} {first second : Except ε α}
    (same : SameOutcome wanted first second)
    (equal : ∀ value other, wanted value other → other = value) : second = first := by
  cases same with
  | ok fits => rw [equal _ _ fits]
  | error error => rfl

namespace Comparison

section Relations

variable (comparison : Comparison)

/-- The type of a value on the one side and on the other. -/
def Value (id other : TypeId) : Prop :=
  other = comparison.shift.apply id ∨ comparison.forgets ∧ other = .error

/-- Bindings of one sort.  Names of types stand for types that correspond. -/
def Entries : Entry → Entry → Prop
  | .type id, .type other => other = comparison.shift.apply id
  | .variable entry, .variable other => comparison.Value entry.type other.type
  | .function entry, .function other =>
    entry.parameters.Forall₂ comparison.Value other.parameters ∧
      comparison.Value entry.result other.result
  | _, _ => False

structure Bindings (binding other : Binding) : Prop where
  name_eq : other.name = binding.name
  entries : comparison.Entries binding.entry other.entry

structure Environments (env other : Environment) : Prop where
  bindings : env.bindings.Forall₂ comparison.Bindings other.bindings
  marks_eq : other.marks = env.marks

/-- Two states from which checks run alike. -/
structure Linked (state other : State) : Prop where
  types : state.types.Shifted comparison.shift other.types
  typeNames : comparison.Environments state.typeNames other.typeNames
  valueNames : comparison.Environments state.valueNames other.valueNames

/-- The second run reports nothing new, and all that the first one reports if it
forgets nothing. -/
structure Reports (diagnostics others : List Diagnostic) : Prop where
  sublist : others.Sublist diagnostics
  complete : comparison.forgets ∨ others = diagnostics

structure Runs {α β : Type} (wanted : α → β → Prop) (run : Run α) (other : Run β) : Prop where
  linked : comparison.Linked run.state other.state
  reports : comparison.Reports (diagnosticsOf run.events) (diagnosticsOf other.events)
  outcomes : SameOutcome wanted run.outcome other.outcome

/-- From linked states two checks run alike. -/
def Parallel {α β : Type} (first : Check α) (second : Check β) (wanted : α → β → Prop) : Prop :=
  ∀ state other, comparison.Linked state other →
    comparison.Runs wanted (first.run state) (second.run other)

end Relations

variable {comparison : Comparison}

theorem value_apply (id : TypeId) : comparison.Value id (comparison.shift.apply id) :=
  .inl rfl

theorem value_int : comparison.Value .int .int :=
  .inl Shift.apply_int.symm

theorem value_string : comparison.Value .string .string :=
  .inl Shift.apply_string.symm

theorem value_void : comparison.Value .void .void :=
  .inl Shift.apply_void.symm

theorem value_nil : comparison.Value .nil .nil :=
  .inl Shift.apply_nil.symm

theorem value_error : comparison.Value .error .error :=
  .inl Shift.apply_error.symm

/-- An entry corresponds to itself if its types keep their numbers. -/
theorem Entries.refl {entry : Entry}
    (kept : ∀ id ∈ entry.parts, comparison.shift.apply id = id) :
    comparison.Entries entry entry := by
  have values : ∀ id ∈ entry.parts, comparison.Value id id :=
    fun id member => .inl (kept id member).symm
  cases entry with
  | type id => exact (kept id (List.mem_singleton_self id)).symm
  | «variable» entry => exact values entry.type (List.mem_singleton_self _)
  | function entry =>
      refine ⟨List.forall₂_same.mpr fun id member => ?_, values entry.result List.mem_cons_self⟩
      exact values id (List.mem_cons_of_mem _ member)

namespace Environments

variable {env other : Environment}

theorem refl (kept : ∀ binding ∈ env.bindings, ∀ id ∈ binding.entry.parts,
    comparison.shift.apply id = id) : comparison.Environments env env :=
  ⟨List.forall₂_same.mpr fun binding member => ⟨rfl, .refl (kept binding member)⟩, rfl⟩

theorem size_eq (environments : comparison.Environments env other) : other.size = env.size :=
  environments.bindings.length_eq.symm

theorem bind (environments : comparison.Environments env other) (name : String)
    {entry otherEntry : Entry} (entries : comparison.Entries entry otherEntry) :
    comparison.Environments (env.bind name entry) (other.bind name otherEntry) :=
  ⟨.cons ⟨rfl, entries⟩ environments.bindings, environments.marks_eq⟩

theorem openScope (environments : comparison.Environments env other) :
    comparison.Environments env.openScope other.openScope where
  bindings := environments.bindings
  marks_eq := by rw [Environment.openScope, Environment.openScope, environments.size_eq,
    environments.marks_eq]

theorem closeScope (environments : comparison.Environments env other) :
    comparison.Environments env.closeScope other.closeScope := by
  unfold Environment.closeScope
  rw [environments.marks_eq, environments.size_eq]
  cases env.marks with
  | nil => exact environments
  | cons mark marks => exact ⟨List.forall₂_drop _ environments.bindings, rfl⟩

theorem newest? (environments : comparison.Environments env other) (name : String) :
    Option.Rel comparison.Entries (env.newest? name) (other.newest? name) := by
  unfold Environment.newest?
  have related := environments.bindings
  generalize env.bindings = bindings at related
  generalize other.bindings = otherBindings at related
  induction related with
  | nil => exact .none
  | @cons binding otherBinding rest others bindings _ inductionHypothesis =>
      rw [List.find?_cons, List.find?_cons, bindings.name_eq]
      cases binding.name == name with
      | true => exact .some bindings.entries
      | false => exact inductionHypothesis

theorem lookUpType (environments : comparison.Environments env other) (name : String) :
    SameOutcome (fun id otherId => otherId = comparison.shift.apply id)
      (env.lookUpType name) (other.lookUpType name) := by
  unfold Environment.lookUpType
  have related := environments.newest? name
  generalize env.newest? name = found at related
  generalize other.newest? name = otherFound at related
  cases related with
  | none => exact .error _
  | @some entry otherEntry entries =>
      match entry, otherEntry, entries with
      | .type _, .type _, same => exact .ok same
      | .variable _, .variable _, _ => exact .error _
      | .function _, .function _, _ => exact .error _

theorem lookUpVariable (environments : comparison.Environments env other) (name : String) :
    SameOutcome (fun entry otherEntry => comparison.Value entry.type otherEntry.type)
      (env.lookUpVariable name) (other.lookUpVariable name) := by
  unfold Environment.lookUpVariable
  have related := environments.newest? name
  generalize env.newest? name = found at related
  generalize other.newest? name = otherFound at related
  cases related with
  | none => exact .error _
  | @some entry otherEntry entries =>
      match entry, otherEntry, entries with
      | .variable _, .variable _, value => exact .ok value
      | .type _, .type _, _ => exact .error _
      | .function _, .function _, _ => exact .error _

theorem lookUpFunction (environments : comparison.Environments env other) (name : String) :
    SameOutcome (fun entry otherEntry => entry.parameters.Forall₂ comparison.Value
        otherEntry.parameters ∧ comparison.Value entry.result otherEntry.result)
      (env.lookUpFunction name) (other.lookUpFunction name) := by
  unfold Environment.lookUpFunction
  have related := environments.newest? name
  generalize env.newest? name = found at related
  generalize other.newest? name = otherFound at related
  cases related with
  | none => exact .error _
  | @some entry otherEntry entries =>
      match entry, otherEntry, entries with
      | .function _, .function _, signatures => exact .ok signatures
      | .type _, .type _, _ => exact .error _
      | .variable _, .variable _, _ => exact .error _

theorem typeOf?_eq (environments : comparison.Environments env other) (name : String) :
    other.typeOf? name = (env.typeOf? name).map comparison.shift.apply := by
  unfold Environment.typeOf?
  have related := environments.lookUpType name
  generalize env.lookUpType name = found at related
  generalize other.lookUpType name = otherFound at related
  cases related with
  | ok same => simp [Except.toOption, same]
  | error => rfl

theorem typeReports_eq (environments : comparison.Environments env other) (name : Ident) :
    other.typeReports name = env.typeReports name := by
  unfold Environment.typeReports
  have related := environments.lookUpType name.name
  generalize env.lookUpType name.name = found at related
  generalize other.lookUpType name.name = otherFound at related
  cases related with
  | ok same => rfl
  | error => rfl

end Environments

namespace Reports

variable {diagnostics others further more : List Diagnostic}

theorem refl (diagnostics : List Diagnostic) : comparison.Reports diagnostics diagnostics :=
  ⟨.refl _, .inr rfl⟩

theorem append (first : comparison.Reports diagnostics others)
    (second : comparison.Reports further more) :
    comparison.Reports (diagnostics ++ further) (others ++ more) where
  sublist := first.sublist.append second.sublist
  complete := by
    rcases first.complete with forgets | same
    · exact .inl forgets
    · rcases second.complete with forgets | alike
      · exact .inl forgets
      · exact .inr (by rw [same, alike])

/-- What is forgotten may go unreported. -/
theorem nil (forgets : comparison.forgets) (diagnostics : List Diagnostic) :
    comparison.Reports diagnostics [] :=
  ⟨List.nil_sublist _, .inl forgets⟩

end Reports

/-!
## Rules for checks
-/

namespace Parallel

variable {α β γ δ ι : Type} {first : Check α} {second : Check β} {wanted : α → β → Prop}

theorem pure {value : α} {other : β} (fits : wanted value other) :
    comparison.Parallel (Pure.pure value) (Pure.pure other) wanted :=
  fun _ _ linked => ⟨linked, .refl [], .ok fits⟩

theorem bind {next : α → Check γ} {otherNext : β → Check δ} {last : γ → δ → Prop}
    (starts : comparison.Parallel first second wanted)
    (goes : ∀ value other, wanted value other →
      comparison.Parallel (next value) (otherNext other) last) :
    comparison.Parallel (first >>= next) (second >>= otherNext) last := by
  intro state other linked
  rcases starts state other linked with ⟨between, reports, outcomes⟩
  rcases ran : first.run state with ⟨outcome, reached, events⟩
  rcases otherRan : second.run other with ⟨otherOutcome, otherReached, otherEvents⟩
  rw [ran, otherRan] at between reports outcomes
  cases outcomes with
  | error problem =>
      rw [Check.run_bind_of_error ran, Check.run_bind_of_error otherRan]
      exact ⟨between, reports, .error problem⟩
  | ok fits =>
      have rest := goes _ _ fits reached otherReached between
      rw [Check.run_bind_of_ok ran, Check.run_bind_of_ok otherRan]
      refine ⟨rest.linked, ?_, rest.outcomes⟩
      simp only [diagnosticsOf_append]
      exact reports.append rest.reports

theorem mapM {check : ι → Check α} {otherCheck : ι → Check β}
    (each : ∀ item, comparison.Parallel (check item) (otherCheck item) wanted) (items : List ι) :
    comparison.Parallel (items.mapM check) (items.mapM otherCheck)
      fun values others => values.Forall₂ wanted others := by
  induction items with
  | nil => exact pure .nil
  | cons item rest inductionHypothesis =>
      rw [List.mapM_cons, List.mapM_cons]
      apply (each item).bind
      intro value other fits
      apply inductionHypothesis.bind
      intro values others allFit
      exact pure (.cons fits allFit)

/-- The two sides look at tables that correspond. -/
theorem types {next : Types → Check α} {otherNext : Types → Check β}
    (goes : ∀ types other, types.Shifted comparison.shift other →
      comparison.Parallel (next types) (otherNext other) wanted) :
    comparison.Parallel (Check.types >>= next) (Check.types >>= otherNext) wanted :=
  fun state other linked => goes state.types other.types linked.types state other linked

theorem state {next : State → Check α} {otherNext : State → Check β}
    (goes : ∀ state other, comparison.Linked state other →
      comparison.Parallel (next state) (otherNext other) wanted) :
    comparison.Parallel (Check.state >>= next) (Check.state >>= otherNext) wanted :=
  fun state other linked => goes state other linked state other linked

theorem frame : comparison.Parallel Check.frame Check.frame fun _ _ => True :=
  fun _ _ linked => ⟨linked, .refl [], .ok trivial⟩

theorem report (span : Span) (problem : Problem) :
    comparison.Parallel (Check.report span problem) (Check.report span problem) fun _ _ => True :=
  fun _ _ linked => ⟨linked, .refl _, .ok trivial⟩

/-- What is no diagnostic may differ. -/
theorem emit {event other : Event} (silent : event.diagnostic? = none)
    (otherSilent : other.diagnostic? = none) :
    comparison.Parallel (Check.emit event) (Check.emit other) fun _ _ => True := by
  intro _ _ linked
  have nothing : diagnosticsOf [event] = [] := by simp [diagnosticsOf, silent]
  have otherNothing : diagnosticsOf [other] = [] := by simp [diagnosticsOf, otherSilent]
  refine ⟨linked, ?_, .ok trivial⟩
  change comparison.Reports (diagnosticsOf [event]) (diagnosticsOf [other])
  rw [nothing, otherNothing]
  exact .refl []

theorem abort (problem : Problem) :
    comparison.Parallel (Check.abort problem) (Check.abort problem) wanted :=
  fun _ _ linked => ⟨linked, .refl [], .error problem⟩

/-- A change that keeps states linked. -/
theorem update {change otherChange : State → State}
    (kept : ∀ state other, comparison.Linked state other →
      comparison.Linked (change state) (otherChange other)) :
    comparison.Parallel (Check.update change) (Check.update otherChange) fun _ _ => True :=
  fun state other linked => ⟨kept state other linked, .refl [], .ok trivial⟩

/-- Where the second side has forgotten so much that it answers at once, the
first side may look and report as it likes. -/
theorem forgotten {value : β} (forgets : comparison.forgets) (observes : first.Observes)
    (silent : ∀ other, other.types.get .error = .error →
      second.run other = ⟨.ok value, other, []⟩)
    (fits : ∀ answer, wanted answer value) : comparison.Parallel first second wanted := by
  intro state other linked
  rcases observes state with ⟨answer, events, ran, _⟩
  have error : other.types.get .error = .error := by
    have moved := linked.types.get_apply .error
    rwa [Shift.apply_error, linked.types.error (comparison.builtIn forgets)] at moved
  rw [ran, silent other error]
  exact ⟨linked, .nil forgets _, .ok (fits answer)⟩

end Parallel
end Comparison
end StaticSemantics
