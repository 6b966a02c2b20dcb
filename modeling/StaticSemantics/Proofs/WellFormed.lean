import StaticSemantics.Proofs.Discipline.Trees

namespace StaticSemantics

/-!
# States stay well formed

Types refer to each other by number, and names refer to types by number, so
everything rests on these numbers being taken.  While a group of types is
declared there are aliases without a target, but nobody follows an alias in the
meantime.  Between two checks there are none, even if a check was aborted.
-/

/-- What may stand behind the number of a declared type. -/
def Ty.IsDeclared : Ty → Prop
  | .record _ | .array _ | .error | .alias _ (some _) => True
  | _ => False

/-- A table of types in which all types are defined, and all numbers in them
are taken. -/
structure Types.WellFormed (types : Types) : Prop where
  /-- The first five numbers belong to the built-in types. -/
  builtIn : ∃ declared, types = Types.basic.extend declared
  declared : ∀ id, types.Holds id → 5 ≤ id.number →
    (types.get id).IsDeclared ∧ ∃ site, types.site? id = some site
  parts : ∀ id, ∀ part ∈ (types.get id).parts, types.Holds part

/-- A cell of a declared type that refers to numbers of some sort only. -/
structure TypeCell.IsProper (allowed : TypeId → Prop) (cell : TypeCell) : Prop where
  declared : cell.type.IsDeclared
  site : ∃ site, cell.site = some site
  parts : ∀ part ∈ cell.type.parts, allowed part

/-- The built-in types refer to no types. -/
theorem Types.parts_basic (id : TypeId) : (Types.basic.get id).parts = [] := by
  obtain ⟨number⟩ := id
  match number with
  | 0 | 1 | 2 | 3 | 4 => rfl
  | number + 5 =>
      rw [get_of_not_holds (by simp [Types.Holds])]
      rfl

namespace Types.WellFormed

variable {types : Types}

theorem basic : Types.basic.WellFormed where
  builtIn := ⟨[], by simp⟩
  declared := by
    intro id held behind
    have bound : id.number < 5 := held
    omega
  parts := by
    intro id part member
    simp [parts_basic] at member

theorem five_le_size (wellFormed : types.WellFormed) : 5 ≤ types.size := by
  rcases wellFormed.builtIn with ⟨declared, rfl⟩
  simp

theorem holds_of_lt (wellFormed : types.WellFormed) {id : TypeId} (small : id.number < 5) :
    types.Holds id :=
  Nat.lt_of_lt_of_le small wellFormed.five_le_size

theorem holds_error (wellFormed : types.WellFormed) : types.Holds .error :=
  wellFormed.holds_of_lt (by decide)

theorem get_of_lt (wellFormed : types.WellFormed) {id : TypeId} (small : id.number < 5) :
    types.get id = Types.basic.get id := by
  rcases wellFormed.builtIn with ⟨declared, rfl⟩
  have held : Types.basic.Holds id := small
  exact get_extend held declared

/-- No built-in type is an alias. -/
theorem isAlias_of_lt (wellFormed : types.WellFormed) {id : TypeId} (small : id.number < 5) :
    types.isAlias id = false := by
  have concrete : ∀ number < 5, Types.basic.isAlias ⟨number⟩ = false := by decide
  rw [isAlias, wellFormed.get_of_lt small]
  exact concrete id.number small

/-- No alias is without a target. -/
theorem get_ne_alias_none (wellFormed : types.WellFormed) (id : TypeId) (name : String) :
    types.get id ≠ .alias name none := by
  intro missing
  have held := holds_of_alias missing
  by_cases behind : 5 ≤ id.number
  · have proper := (wellFormed.declared id held behind).1
    rw [missing] at proper
    exact proper
  · have aliased : types.isAlias id = true := isAlias_eq_true_iff.mpr ⟨_, _, missing⟩
    rw [wellFormed.isAlias_of_lt (Nat.lt_of_not_le behind)] at aliased
    cases aliased

/-- Following aliases never comes to one without a target. -/
theorem unalias_ne_unresolved (wellFormed : types.WellFormed) (id : TypeId) (name : String)
    (stop : TypeId) : types.unalias id ≠ .error (.unresolved name stop) :=
  fun stops => wellFormed.get_ne_alias_none stop name (target_of_follow_unresolved stops)

/-- Following aliases stays among the numbers that are taken. -/
theorem holds_representative (wellFormed : types.WellFormed) {id : TypeId}
    (held : types.Holds id) : types.Holds (types.representative id) := by
  unfold representative
  split
  · rename_i concrete arrives
    rcases (unalias_eq_ok_iff.mp arrives).1 with ⟨steps, chain⟩
    exact chain.carry types.Holds held fun id part _ member => wellFormed.parts id part member
  · exact wellFormed.holds_error

/-- The members of a group come behind the built-in types. -/
theorem five_le_of_mem_groupIds (wellFormed : types.WellFormed) {id : TypeId}
    {members : List TypeDeclaration} (new : id ∈ groupIds types.size members) : 5 ≤ id.number :=
  Nat.le_trans wellFormed.five_le_size (mem_groupIds.mp new).1

theorem ne_error_of_mem_groupIds (wellFormed : types.WellFormed) {id : TypeId}
    {members : List TypeDeclaration} (new : id ∈ groupIds types.size members) : id ≠ .error := by
  rintro rfl
  exact absurd (wellFormed.five_le_of_mem_groupIds new) (by decide)

end Types.WellFormed

/-!
## Cells that are added
-/

namespace Types

variable {types : Types} {cells : List TypeCell}

/-- Behind a new number stands the cell that was added for it. -/
theorem getElem?_extend_of_not_holds {id : TypeId} (new : ¬ types.Holds id) :
    (types.extend cells).cells[id.number]? = cells[id.number - types.size]? := by
  have number : id.number = types.size + (id.number - types.size) :=
    (Nat.add_sub_cancel' (Nat.le_of_not_lt new)).symm
  rw [number, getElem?_extend_new, ← number]

/-- What proper cells are added to stays well formed.  They may refer to each other. -/
theorem WellFormed.extend (wellFormed : types.WellFormed)
    (proper : ∀ cell ∈ cells, cell.IsProper (types.extend cells).Holds) :
    (types.extend cells).WellFormed := by
  have old : ∀ {id}, types.Holds id → (types.extend cells).Holds id := by
    intro id held
    rw [Types.Holds, size_extend]
    exact Nat.lt_add_right _ held
  have added : ∀ {id}, ¬ types.Holds id → (types.extend cells).Holds id →
      ∃ cell ∈ cells, (types.extend cells).get id = cell.type ∧
        (types.extend cells).site? id = cell.site := by
    intro id new held
    have inside : id.number - types.size < cells.length := by
      rw [Types.Holds, size_extend] at held
      rw [Types.Holds] at new
      omega
    refine ⟨_, List.getElem_mem inside, ?_⟩
    rw [get, site?, getElem?_extend_of_not_holds new, List.getElem?_eq_getElem inside]
    exact ⟨rfl, rfl⟩
  refine ⟨?_, fun id held behind => ?_, fun id part member => ?_⟩
  · rcases wellFormed.builtIn with ⟨declared, rfl⟩
    exact ⟨_, extend_extend _ _ _⟩
  · by_cases before : types.Holds id
    · rw [get_extend before, site?_extend before]
      exact wellFormed.declared id before behind
    · rcases added before held with ⟨cell, listed, type, site⟩
      rw [type, site]
      exact ⟨(proper cell listed).declared, (proper cell listed).site⟩
  · by_cases before : types.Holds id
    · rw [get_extend before] at member
      exact old (wellFormed.parts id part member)
    · by_cases held : (types.extend cells).Holds id
      · rcases added before held with ⟨cell, listed, type, _⟩
        rw [type] at member
        exact (proper cell listed).parts part member
      · rw [get_of_not_holds held] at member
        cases member

end Types

/-- A state in which all numbers of types are taken, names of types stand for
types and names of values for variables and functions, and the marks of the
open scopes are in order. -/
structure State.WellFormed (state : State) : Prop where
  types : state.types.WellFormed
  typeNames : state.typeNames.Fits (· = .type) state.types.Holds
  valueNames : state.valueNames.Fits (· ≠ .type) state.types.Holds

theorem TypeExpression.isDeclared_meaning (body : TypeExpression) (env : Environment)
    (declared : String) : (body.meaning env declared).IsDeclared := by
  cases body with
  | name target span =>
      cases known : env.typeOf? target.name <;> simp [meaning, known, Ty.IsDeclared]
  | record fields span => trivial
  | array element span => trivial

/-- A group of types leaves a well-formed table. -/
theorem Types.WellFormed.groupTypes {state : State} (wellFormed : state.types.WellFormed)
    (members : List TypeDeclaration)
    (named : state.typeNames.Fits (· = .type) state.types.Holds) :
    (state.groupTypes members).WellFormed := by
  refine wellFormed.extend fun cell listed => ?_
  rcases List.mem_map.mp listed with ⟨declaration, _, rfl⟩
  refine ⟨declaration.body.isDeclared_meaning _ _, ⟨_, rfl⟩, fun part member => ?_⟩
  rcases TypeExpression.exists_of_mem_parts_meaning member with ⟨name, _, rfl⟩
  have inside : (state.groupNames members).Fits (· = .type) (state.groupTypes members).Holds :=
    (named.mono fun id held => State.holds_groupTypes_iff.mpr (.inl held)).groupNames
      fun id new => State.holds_groupTypes_iff.mpr (.inr new)
  cases known : (state.groupNames members).typeOf? name.name with
  | none => exact State.holds_groupTypes_iff.mpr (.inl wellFormed.holds_error)
  | some id => exact inside.typeOf? known

/-- An event in which no alias without a target comes up. -/
def Event.IsResolved : Event → Prop
  | aliasBroken _ (.unresolved _ _) => False
  | _ => True

theorem Event.IsOrdinary.isResolved {event : Event} (ordinary : event.IsOrdinary) :
    event.IsResolved := by
  cases event with
  | aliasBroken name error => exact ordinary.elim
  | _ => trivial

theorem isOrdinary_of_mem_reports {env : Environment} {body : TypeExpression} {event : Event}
    (member : event ∈ body.reports env) : event.IsOrdinary := by
  rcases List.mem_flatMap.mp member with ⟨name, _, reported⟩
  unfold Environment.typeReports at reported
  split at reported
  · simp at reported
  · rename_i error _
    rw [List.mem_singleton.mp reported]
    cases error <;> trivial

/-- All that happens in a group is ordinary, but for its beginning and for what
is said about the chains of its members. -/
theorem mem_groupEvents {state : State} {members : List TypeDeclaration} {event : Event}
    (happened : event ∈ state.groupEvents members) :
    event = .typesGrouped (members.map (·.name.name)) ∨ event.IsOrdinary ∨
      ∃ member id, (member, id) ∈ members.zip (groupIds state.types.size members) ∧
        event ∈ (state.groupTypes members).chainReports (groupIds state.types.size members)
          member id := by
  rw [State.groupEvents, List.mem_append, List.mem_append, List.mem_cons] at happened
  rcases happened with ((first | bound) | reported) | chain
  · exact .inl first
  · rcases List.mem_map.mp bound with ⟨member, _, rfl⟩
    exact .inr (.inl trivial)
  · rcases List.mem_flatMap.mp reported with ⟨member, _, inside⟩
    exact .inr (.inl (isOrdinary_of_mem_reports inside))
  · rcases List.mem_flatMap.mp chain with ⟨⟨member, id⟩, listed, said⟩
    exact .inr (.inr ⟨member, id, listed, said⟩)

theorem Types.WellFormed.isResolved_groupEvents {state : State} {members : List TypeDeclaration}
    (wellFormed : (state.groupTypes members).WellFormed) {event : Event}
    (happened : event ∈ state.groupEvents members) : event.IsResolved := by
  rcases mem_groupEvents happened with rfl | ordinary | ⟨member, id, _, said⟩
  · trivial
  · exact ordinary.isResolved
  · unfold chainReports at said
    split at said
    · simp at said
    · rename_i error stops
      by_cases inside : error.stop ∈ groupIds state.types.size members
      · rw [if_pos inside, List.mem_singleton] at said
        rw [said]
        trivial
      · rw [if_neg inside, List.mem_singleton] at said
        rw [said]
        cases error with
        | cycle name stop => trivial
        | unresolved name stop => exact absurd stops (wellFormed.unalias_ne_unresolved id name stop)

namespace Discipline

/-- Names are bound to numbers that are taken, and so are values. -/
def wellFormed : Discipline where
  Sound types past := types.WellFormed ∧ ∀ event ∈ past, event.IsResolved
  Named types _ id := types.Holds id
  Value types _ id := types.Holds id

theorem wellFormed_lawful : wellFormed.Lawful where
  value_of_named := id
  named_int := fun sound => sound.1.holds_of_lt (by decide)
  named_string := fun sound => sound.1.holds_of_lt (by decide)
  named_void := fun sound => sound.1.holds_of_lt (by decide)
  value_nil := fun sound => sound.1.holds_of_lt (by decide)
  named_error := fun sound _ => sound.1.holds_error
  sound_append := by
    intro types past events sound ordinary
    refine ⟨sound.1, fun event member => ?_⟩
    rcases List.mem_append.mp member with earlier | new
    · exact sound.2 event earlier
    · exact (ordinary event new).isResolved
  named_append := id
  value_append := id
  representative := fun sound held => sound.1.holds_representative held
  parts := fun sound _ member => sound.1.parts _ _ member
  unknown := fun sound _ _ => sound.1.holds_error
  storable := fun _ held _ _ => held
  group := by
    intro history members holds
    rw [Check.run_makeTypes]
    have types := holds.sound.1.groupTypes members holds.typeNames
    refine ⟨⟨types, fun event member => ?_⟩, ?_, ?_⟩
    · rcases List.mem_append.mp member with earlier | new
      · exact holds.sound.2 event earlier
      · exact types.isResolved_groupEvents new
    · have grows : ∀ {id}, history.state.types.Holds id →
          (history.state.groupTypes members).Holds id :=
        fun held => State.holds_groupTypes_iff.mpr (.inl held)
      exact ⟨grows, grows⟩
    · exact fun id new => State.holds_groupTypes_iff.mpr (.inr new)

theorem Holds.wellFormed {history : History} (holds : wellFormed.Holds history) :
    history.state.WellFormed :=
  ⟨holds.sound.1, holds.typeNames, holds.valueNames⟩

theorem wellFormed_ofRequests (outermost : Frame) (requests : List Request) :
    wellFormed.Holds (History.ofRequests outermost requests) :=
  holds_ofRequests wellFormed_lawful ⟨.basic, nofun⟩ outermost requests

end Discipline

/-- The numbers in an answer. -/
def Answer.parts : Answer → List TypeId
  | type id => [id]
  | declared => []
  | meaning value => value.parts

/-- In every history the state is well formed, no alias without a target has
ever been come to, and none is come to from any number.  What is asked for next
is answered with numbers that are taken. -/
theorem History.state_wellFormed (outermost : Frame) (requests : List Request) :
    let history := ofRequests outermost requests
    history.state.WellFormed ∧
    (∀ event ∈ history.past, event.IsResolved) ∧
    (∀ id name stop, history.state.types.unalias id ≠ .error (.unresolved name stop)) ∧
    (∀ id, history.state.types.Holds id →
      history.state.types.Holds (history.state.types.representative id)) ∧
    ∀ (request : Request) (answer : Answer),
      (request.check.run history.state).outcome = .ok answer →
      ∀ id ∈ answer.parts, (request.check.run history.state).state.types.Holds id := by
  intro history
  have holds : Discipline.wellFormed.Holds history :=
    Discipline.holds_ofRequests Discipline.wellFormed_lawful ⟨.basic, nofun⟩ outermost requests
  refine ⟨holds.wellFormed, holds.sound.2, holds.sound.1.unalias_ne_unresolved,
    fun id => holds.sound.1.holds_representative, ?_⟩
  intro request answer succeeds id member
  have answered := (Discipline.keeps_request Discipline.wellFormed_lawful request history holds).2.2
    answer succeeds
  cases answer with
  | type answer =>
      rw [List.mem_singleton.mp member]
      exact answered
  | declared => cases member
  | meaning value => exact answered id member

end StaticSemantics
