import StaticSemantics.Proofs.AliasChain
import StaticSemantics.Proofs.History
import StaticSemantics.Proofs.Observation
import StaticSemantics.Proofs.TypeGroup

namespace StaticSemantics

/-!
# Disciplines of types

Many invariants of a check say which types may occur where: which ones names
may be bound to, and which ones values may have.  A discipline is such an
invariant.  It looks at the table of types and at what has happened so far, and
at nothing else.

A discipline is lawful if a few facts about tables and groups of types hold.
From these alone it follows that every check keeps it, on all trees and also if
the check is aborted.  The walk over the trees is done once for all disciplines.
-/

/-- The types in an entry. -/
def Entry.parts : Entry → List TypeId
  | type id => [id]
  | .variable entry => [entry.type]
  | function entry => entry.result :: entry.parameters

/-- An environment for bindings of some sort that have allowed types, with
marks that are in order and not larger than the number of bindings. -/
structure Environment.Fits (sort : EntryKind → Prop) (allowed : TypeId → Prop)
    (env : Environment) : Prop where
  bindings : ∀ binding ∈ env.bindings,
    sort binding.entry.kind ∧ ∀ id ∈ binding.entry.parts, allowed id
  ordered : env.marks.Pairwise (· ≥ ·)
  bounded : ∀ mark ∈ env.marks, mark ≤ env.size

namespace Environment.Fits

variable {sort : EntryKind → Prop} {allowed : TypeId → Prop} {env : Environment}

theorem mono {weaker : TypeId → Prop} (fits : env.Fits sort allowed)
    (imply : ∀ id, allowed id → weaker id) : env.Fits sort weaker where
  bindings := fun binding member =>
    ⟨(fits.bindings binding member).1, fun id part =>
      imply id ((fits.bindings binding member).2 id part)⟩
  ordered := fits.ordered
  bounded := fits.bounded

theorem bindAll {bindings : List Binding} (fits : env.Fits sort allowed)
    (new : ∀ binding ∈ bindings,
      sort binding.entry.kind ∧ ∀ id ∈ binding.entry.parts, allowed id) :
    (env.bindAll bindings).Fits sort allowed where
  bindings := by
    intro binding member
    rcases List.mem_append.mp member with added | old
    · exact new binding (List.mem_reverse.mp added)
    · exact fits.bindings binding old
  ordered := fits.ordered
  bounded := by
    intro mark member
    have bound := fits.bounded mark member
    simp only [Environment.size, Environment.bindAll, List.length_append] at bound ⊢
    omega

theorem openScope (fits : env.Fits sort allowed) : env.openScope.Fits sort allowed where
  bindings := fits.bindings
  ordered := List.pairwise_cons.mpr ⟨fits.bounded, fits.ordered⟩
  bounded := by simpa [Environment.openScope, Environment.size] using fits.bounded

theorem closeScope (fits : env.Fits sort allowed) : env.closeScope.Fits sort allowed := by
  rcases env with ⟨bindings, _ | ⟨mark, marks⟩⟩
  · exact fits
  · obtain ⟨known, ordered, bounded⟩ := fits
    rw [List.pairwise_cons] at ordered
    refine ⟨fun binding member => known binding (List.mem_of_mem_drop member), ordered.2, ?_⟩
    intro other member
    have inner := ordered.1 other member
    have outer := bounded mark List.mem_cons_self
    simp only [Environment.size, Environment.closeScope, List.length_drop] at outer ⊢
    omega

/-- What a name is bound to is allowed. -/
theorem newest? (fits : env.Fits sort allowed) {name : String} {entry : Entry}
    (found : env.newest? name = some entry) :
    sort entry.kind ∧ ∀ id ∈ entry.parts, allowed id := by
  rcases Option.map_eq_some_iff.mp found with ⟨binding, first, rfl⟩
  exact fits.bindings binding (List.mem_of_find?_eq_some first)

theorem typeOf? (fits : env.Fits sort allowed) {name : String} {id : TypeId}
    (found : env.typeOf? name = some id) : allowed id := by
  have bound := Environment.lookUpType_eq_ok_iff.mp (Environment.typeOf?_eq_some_iff.mp found)
  exact (fits.newest? bound).2 id (List.mem_singleton_self id)

/-- The names of a group stand for its members. -/
theorem groupNames {state : State} {members : List TypeDeclaration}
    (fits : state.typeNames.Fits (· = .type) allowed)
    (new : ∀ id ∈ groupIds state.types.size members, allowed id) :
    (state.groupNames members).Fits (· = .type) allowed := by
  refine fits.bindAll fun binding member => ?_
  rcases exists_of_mem_groupBindings member with ⟨id, inside, bound⟩
  rw [bound]
  exact ⟨rfl, by simpa [Entry.parts] using new id inside⟩

end Environment.Fits

/-- What holds of a table after some events, which types names may be bound to
then, and which types values may have. -/
structure Discipline where
  Sound : Types → List Event → Prop
  Named : Types → List Event → TypeId → Prop
  Value : Types → List Event → TypeId → Prop

namespace Discipline

variable {discipline : Discipline} {α β : Type}

def IsNamed (discipline : Discipline) (history : History) (id : TypeId) : Prop :=
  discipline.Named history.state.types history.past id

def IsValue (discipline : Discipline) (history : History) (id : TypeId) : Prop :=
  discipline.Value history.state.types history.past id

/-- A discipline holds if it holds of the table, and the environments bind
types and values as it allows. -/
structure Holds (discipline : Discipline) (history : History) : Prop where
  sound : discipline.Sound history.state.types history.past
  typeNames : history.state.typeNames.Fits (· = .type) (discipline.IsNamed history)
  valueNames : history.state.valueNames.Fits (· ≠ .type) (discipline.IsNamed history)

/-- What is allowed at one moment is allowed at a later one. -/
structure Later (discipline : Discipline) (earlier later : History) : Prop where
  named : ∀ {id}, discipline.IsNamed earlier id → discipline.IsNamed later id
  value : ∀ {id}, discipline.IsValue earlier id → discipline.IsValue later id

theorem Later.refl (history : History) : discipline.Later history history :=
  ⟨id, id⟩

theorem Later.trans {first second third : History} (one : discipline.Later first second)
    (two : discipline.Later second third) : discipline.Later first third :=
  ⟨two.named ∘ one.named, two.value ∘ one.value⟩

/-- The facts on which a discipline rests. -/
structure Lawful (discipline : Discipline) : Prop where
  value_of_named : ∀ {types past id}, discipline.Named types past id →
    discipline.Value types past id
  named_int : ∀ {types past}, discipline.Sound types past → discipline.Named types past .int
  named_string : ∀ {types past}, discipline.Sound types past → discipline.Named types past .string
  named_void : ∀ {types past}, discipline.Sound types past → discipline.Named types past .void
  value_nil : ∀ {types past}, discipline.Sound types past → discipline.Value types past .nil
  /-- After a report the error type may be used. -/
  named_error : ∀ {types past span problem}, discipline.Sound types past →
    .reported span problem ∈ past → discipline.Named types past .error
  sound_append : ∀ {types past events}, discipline.Sound types past →
    (∀ event ∈ events, event.IsOrdinary) → discipline.Sound types (past ++ events)
  named_append : ∀ {types past events id}, discipline.Named types past id →
    discipline.Named types (past ++ events) id
  value_append : ∀ {types past events id}, discipline.Value types past id →
    discipline.Value types (past ++ events) id
  /-- Following aliases leads from values to values. -/
  representative : ∀ {types past id}, discipline.Sound types past →
    discipline.Value types past id → discipline.Value types past (types.representative id)
  parts : ∀ {types past id part}, discipline.Sound types past → discipline.Value types past id →
    part ∈ (types.get id).parts → discipline.Named types past part
  /-- Where a value is of the error type, the error type may be used. -/
  unknown : ∀ {types past id}, discipline.Sound types past → discipline.Value types past id →
    types.get id = .error → discipline.Named types past .error
  /-- A variable may have the type of a value, unless that is `nil` or no value
  at all. -/
  storable : ∀ {types past id}, discipline.Sound types past → discipline.Value types past id →
    types.isNil id = false → types.isVoid id = false → discipline.Named types past id
  group : ∀ {history : History} (members : List TypeDeclaration), discipline.Holds history →
    let next := history.after ((Check.makeTypes members).run history.state)
    discipline.Sound next.state.types next.past ∧ discipline.Later history next ∧
      ∀ id ∈ groupIds history.state.types.size members, discipline.IsNamed next id

/-- A discipline that says something of the table and of what has happened, and
nothing of names and values. -/
def ofTable (sound : Types → List Event → Prop) : Discipline :=
  ⟨sound, fun _ _ _ => True, fun _ _ _ => True⟩

/-- Such a discipline rests on what groups of types do to the table. -/
theorem ofTable_lawful {sound : Types → List Event → Prop}
    (append : ∀ {types past events}, sound types past →
      (∀ event ∈ events, event.IsOrdinary) → sound types (past ++ events))
    (group : ∀ (state : State) (past : List Event) (members : List TypeDeclaration),
      sound state.types past →
        sound (state.groupTypes members) (past ++ state.groupEvents members)) :
    (ofTable sound).Lawful where
  value_of_named := id
  named_int := fun _ => trivial
  named_string := fun _ => trivial
  named_void := fun _ => trivial
  value_nil := fun _ => trivial
  named_error := fun _ _ => trivial
  sound_append := append
  named_append := id
  value_append := id
  representative := fun _ _ => trivial
  parts := fun _ _ _ => trivial
  unknown := fun _ _ _ => trivial
  storable := fun _ _ _ _ => trivial
  group := by
    intro history members holds
    rw [Check.run_makeTypes]
    exact ⟨group history.state history.past members holds.sound, ⟨id, id⟩, fun _ _ => trivial⟩

/-- A check keeps a discipline, and answers as it should if it is not aborted. -/
def Keeps (discipline : Discipline) (history : History) (check : Check α)
    (wanted : History → α → Prop) : Prop :=
  discipline.Holds history →
    let next := history.after (check.run history.state)
    discipline.Holds next ∧ discipline.Later history next ∧
      ∀ answer, (check.run history.state).outcome = .ok answer → wanted next answer

namespace Keeps

variable {history : History} {check : Check α} {next : α → Check β}

theorem pure {value : α} {wanted : History → α → Prop}
    (holds : discipline.Holds history → wanted history value) :
    discipline.Keeps history (Pure.pure value) wanted := by
  intro kept
  have same : history.after ((Pure.pure value : Check α).run history.state) = history := by
    simp [History.after]
  rw [same]
  refine ⟨kept, .refl history, ?_⟩
  rintro _ ⟨⟩
  exact holds kept

theorem bind {middle : History → α → Prop} {wanted : History → β → Prop}
    (first : discipline.Keeps history check middle)
    (second : ∀ value later, discipline.Later history later → middle later value →
      discipline.Keeps later (next value) wanted) :
    discipline.Keeps history (check >>= next) wanted := by
  intro kept
  rcases first kept with ⟨keptOn, later, answered⟩
  rcases ran : check.run history.state with ⟨outcome, reached, events⟩
  rw [ran] at keptOn later answered
  cases outcome with
  | error problem =>
      rw [Check.run_bind_of_error ran]
      exact ⟨keptOn, later, nofun⟩
  | ok value =>
      have rest := second value _ later (answered value rfl) keptOn
      rw [Check.run_bind_of_ok ran]
      simp only [History.after, List.append_assoc] at rest ⊢
      exact ⟨rest.1, later.trans rest.2.1, rest.2.2⟩

/-- What a discipline says about the beginning may be used throughout. -/
theorem assume {wanted : History → α → Prop}
    (keeps : discipline.Holds history → discipline.Keeps history check wanted) :
    discipline.Keeps history check wanted :=
  fun kept => keeps kept kept

/-- Looking at the state changes nothing, so what is seen is the state itself. -/
theorem state {check : State → Check α} {wanted : History → α → Prop}
    (keeps : discipline.Keeps history (check history.state) wanted) :
    discipline.Keeps history (Check.state >>= check) wanted :=
  keeps

theorem types {check : Types → Check α} {wanted : History → α → Prop}
    (keeps : discipline.Keeps history (check history.state.types) wanted) :
    discipline.Keeps history (Check.types >>= check) wanted :=
  keeps

/-- What stays true of an answer is true of all answers in a row. -/
theorem mapM {γ : Type} {check : γ → Check α} (wanted : History → α → Prop)
    (stays : ∀ earlier later, discipline.Later earlier later → ∀ answer,
      wanted earlier answer → wanted later answer)
    (each : ∀ item history, discipline.Keeps history (check item) wanted) (items : List γ) :
    discipline.Keeps history (items.mapM check)
      fun later answers => ∀ answer ∈ answers, wanted later answer := by
  induction items generalizing history with
  | nil => exact .pure fun _ => by simp
  | cons item rest inductionHypothesis =>
      rw [List.mapM_cons]
      apply (each item history).bind
      intro answer next _ first
      refine inductionHypothesis.bind fun answers last later others => ?_
      refine .pure fun _ => ?_
      simpa using ⟨stays next last later answer first, others⟩

end Keeps

/-!
## Steps

What looks at the state and reports keeps every discipline.  The other steps
change the environments in ways that allow for any discipline.
-/

section Steps

variable {history : History} {check : Check α}

theorem later_of_types (lawful : discipline.Lawful) {state : State}
    (types : state.types = history.state.types) (events : List Event) :
    discipline.Later history ⟨state, history.past ++ events⟩ where
  named := by
    intro id named
    unfold IsNamed
    rw [types]
    exact lawful.named_append named
  value := by
    intro id value
    unfold IsValue
    rw [types]
    exact lawful.value_append value

/-- A step that leaves the table alone. -/
theorem keeps_of_run (lawful : discipline.Lawful) {value : α} {reached : State}
    {events : List Event} (ran : check.run history.state = ⟨.ok value, reached, events⟩)
    (types : reached.types = history.state.types)
    (ordinary : ∀ event ∈ events, event.IsOrdinary)
    (typeNames : history.state.typeNames.Fits (· = .type) (discipline.IsNamed history) →
      reached.typeNames.Fits (· = .type) (discipline.IsNamed history))
    (valueNames : history.state.valueNames.Fits (· ≠ .type) (discipline.IsNamed history) →
      reached.valueNames.Fits (· ≠ .type) (discipline.IsNamed history)) :
    discipline.Keeps history check fun _ _ => True := by
  intro holds
  have later := later_of_types lawful types events
  rw [ran]
  refine ⟨⟨?_, ?_, ?_⟩, later, fun _ _ => trivial⟩
  · simp only [History.after]
    rw [types]
    exact lawful.sound_append holds.sound ordinary
  · exact (typeNames holds.typeNames).mono fun _ => later.named
  · exact (valueNames holds.valueNames).mono fun _ => later.named

theorem keeps_abort (problem : Problem) {wanted : History → α → Prop} :
    discipline.Keeps history (Check.abort problem) wanted := by
  intro kept
  have same : history.after ((Check.abort problem : Check α).run history.state) = history := by
    simp [History.after, Check.abort, Check.run]
  rw [same]
  refine ⟨kept, .refl history, ?_⟩
  intro value returned
  cases returned

theorem keeps_of_observes (lawful : discipline.Lawful) (observes : check.Observes) :
    discipline.Keeps history check fun _ _ => True := by
  rcases observes history.state with ⟨value, events, ran, remarks⟩
  exact keeps_of_run lawful ran rfl (fun event member => (remarks event member).ordinary) id id

/-- After a report the error type may be used. -/
theorem keeps_report (lawful : discipline.Lawful) (span : Span) {problem : Problem}
    (ordinary : problem.kind ∉ [.typeCycle, .unexpectedNode]) :
    discipline.Keeps history (Check.report span problem)
      fun later _ => discipline.IsNamed later .error := by
  intro holds
  rcases keeps_of_observes lawful (.report span ordinary) holds with ⟨kept, later, _⟩
  have reported : .reported span problem ∈
      (history.after ((Check.report span problem).run history.state)).past :=
    List.mem_append_right _ (List.mem_singleton_self _)
  exact ⟨kept, later, fun _ _ => lawful.named_error kept.sound reported⟩

theorem keeps_openTypeScope (lawful : discipline.Lawful) :
    discipline.Keeps history Check.openTypeScope fun _ _ => True :=
  keeps_of_run lawful rfl rfl (by simp) .openScope id

theorem keeps_closeTypeScope (lawful : discipline.Lawful) :
    discipline.Keeps history Check.closeTypeScope fun _ _ => True :=
  keeps_of_run lawful rfl rfl (by simp) .closeScope id

theorem keeps_openValueScope (lawful : discipline.Lawful) :
    discipline.Keeps history Check.openValueScope fun _ _ => True :=
  keeps_of_run lawful rfl rfl (by simp) id .openScope

theorem keeps_closeValueScope (lawful : discipline.Lawful) :
    discipline.Keeps history Check.closeValueScope fun _ _ => True :=
  keeps_of_run lawful rfl rfl (by simp) id .closeScope

theorem keeps_setFrame (lawful : discipline.Lawful) (frame : Frame) :
    discipline.Keeps history (Check.setFrame frame) fun _ _ => True :=
  keeps_of_run lawful rfl rfl (by simp) id id

theorem keeps_takeLabel (lawful : discipline.Lawful) :
    discipline.Keeps history Check.takeLabel fun _ _ => True :=
  keeps_of_run lawful rfl rfl (by simp [Event.IsOrdinary]) id id

theorem keeps_takeFrame (lawful : discipline.Lawful) (parent : Frame) (label : Label)
    (parameters : Nat) :
    discipline.Keeps history (Check.takeFrame parent label parameters) fun _ _ => True :=
  keeps_of_run lawful rfl rfl (by simp [Event.IsOrdinary]) id id

theorem keeps_takeSlot (lawful : discipline.Lawful) :
    discipline.Keeps history Check.takeSlot fun _ _ => True :=
  keeps_of_run lawful rfl rfl (by simp [Event.IsOrdinary]) id id

theorem keeps_bindValue (lawful : discipline.Lawful) (name : String) {entry : Entry}
    (kind : entry.kind ≠ .type) (named : ∀ id ∈ entry.parts, discipline.IsNamed history id) :
    discipline.Keeps history (Check.bindValue name entry) fun _ _ => True := by
  refine keeps_of_run lawful rfl rfl (by simp [Event.IsOrdinary]) id fun fits => ?_
  have new : ∀ binding ∈ [Binding.mk name entry],
      binding.entry.kind ≠ .type ∧ ∀ id ∈ binding.entry.parts, discipline.IsNamed history id := by
    simpa using ⟨kind, named⟩
  exact fits.bindAll new

theorem keeps_bindVariable (lawful : discipline.Lawful) (name : String) {type : TypeId}
    (named : discipline.IsNamed history type) :
    discipline.Keeps history (Check.bindVariable name type) fun _ _ => True := by
  apply (keeps_takeSlot lawful).bind
  intro slot next later _
  exact keeps_bindValue lawful name nofun (by simpa [Entry.parts] using later.named named)

end Steps

end Discipline
end StaticSemantics
