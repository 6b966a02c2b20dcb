import StaticSemantics.Proofs.Discipline.Trees
import StaticSemantics.Proofs.Renumbering
import StaticSemantics.Proofs.TypeCycles

namespace StaticSemantics

/-!
# Types keep their meaning

A type is defined in place, behind a number that others may refer to already.
Only the members of the group that is just being declared are ever defined, and
older types refer to older types.  So once a check is over, or aborted, nothing
that can be asked about a number is answered differently by any later table,
whatever has become of the names that the type was known by.

New types take the numbers that come next.  Each of them remembers under which
name it was declared, and these names tell that no number was left out and
that the order is that of the declarations.
-/

/-- A later table answers everything about the numbers that an earlier one
holds as that one did, following broken chains of aliases included. -/
structure Types.Preserved (types later : Types) : Prop where
  get_eq : ∀ id, types.Holds id → later.get id = types.get id
  site_eq : ∀ id, types.Holds id → later.site? id = types.site? id
  describe_eq : ∀ id, types.Holds id → later.describe id = types.describe id
  unalias_eq : ∀ id, types.Holds id → later.unalias id = types.unalias id
  representative_eq : ∀ id, types.Holds id → later.representative id = types.representative id
  fieldsOf?_eq : ∀ id, types.Holds id → later.fieldsOf? id = types.fieldsOf? id
  elementOf?_eq : ∀ id, types.Holds id → later.elementOf? id = types.elementOf? id
  compatible_eq : ∀ first second, types.Holds first → types.Holds second →
    later.compatible first second = types.compatible first second
  describeApart_eq : ∀ expected found, types.Holds expected → types.Holds found →
    later.describeApart expected found = types.describeApart expected found

namespace Types.WellFormed

variable {types : Types}

/-- Following aliases from a number that is taken does not depend on what is
added behind. -/
theorem unalias_extend (wellFormed : types.WellFormed) (cells : List TypeCell) {id : TypeId}
    (held : types.Holds id) : (types.extend cells).unalias id = types.unalias id := by
  have walk := (wellFormed.shifted_extend cells).renamed.unalias_rename id
  rw [wellFormed.apply_room _ held] at walk
  rw [walk]
  have inside := wellFormed.holds_representative held
  unfold representative at inside
  cases arrives : types.unalias id with
  | ok concrete =>
      rw [arrives] at inside
      exact congrArg Except.ok (wellFormed.apply_room _ inside)
  | error error =>
      have stop : types.Holds error.stop :=
        holds_of_isAlias (chain_of_follow_error arrives).1
      exact congrArg Except.error (AliasError.rename_eq_self (wellFormed.apply_room _ stop))

theorem representative_extend (wellFormed : types.WellFormed) (cells : List TypeCell)
    {id : TypeId} (held : types.Holds id) :
    (types.extend cells).representative id = types.representative id := by
  rw [representative, representative, wellFormed.unalias_extend cells held]

theorem concrete_extend (wellFormed : types.WellFormed) (cells : List TypeCell) {id : TypeId}
    (held : types.Holds id) : (types.extend cells).concrete id = types.concrete id := by
  rw [concrete, concrete, wellFormed.representative_extend cells held,
    get_extend (wellFormed.holds_representative held)]

/-- A well-formed table is preserved by whatever is added behind it. -/
theorem preserved_extend (wellFormed : types.WellFormed) (cells : List TypeCell) :
    types.Preserved (types.extend cells) where
  get_eq := fun _ held => get_extend held cells
  site_eq := fun _ held => site?_extend held cells
  describe_eq := by
    intro id held
    have same := (wellFormed.shifted_extend cells).renamed.describe_rename id
    rwa [wellFormed.apply_room _ held] at same
  unalias_eq := fun _ held => wellFormed.unalias_extend cells held
  representative_eq := fun _ held => wellFormed.representative_extend cells held
  fieldsOf?_eq := by
    intro id held
    rw [fieldsOf?, fieldsOf?, wellFormed.concrete_extend cells held]
  elementOf?_eq := by
    intro id held
    rw [elementOf?, elementOf?, wellFormed.concrete_extend cells held]
  compatible_eq := by
    intro first second held otherHeld
    rw [compatible, compatible, wellFormed.concrete_extend cells held,
      wellFormed.concrete_extend cells otherHeld, wellFormed.representative_extend cells held,
      wellFormed.representative_extend cells otherHeld]
  describeApart_eq := by
    intro expected found held otherHeld
    have same := (wellFormed.shifted_extend cells).renamed.describeApart_rename expected found
    rwa [wellFormed.apply_room _ held, wellFormed.apply_room _ otherHeld] at same

end Types.WellFormed

/-!
## Numbers are taken in order
-/

/-- The names of the types that are declared in the course of some events, in
the order of their declaration. -/
def typesDeclared (events : List Event) : List String :=
  events.flatMap fun
    | .typesGrouped names => names
    | _ => []

theorem typesDeclared_append (first second : List Event) :
    typesDeclared (first ++ second) = typesDeclared first ++ typesDeclared second :=
  List.flatMap_append

/-- Types are declared nowhere but at the beginning of a group. -/
theorem typesDeclared_eq_nil {events : List Event}
    (ungrouped : ∀ event ∈ events, ∀ names, event ≠ .typesGrouped names) :
    typesDeclared events = [] := by
  refine List.flatMap_eq_nil_iff.mpr fun event member => ?_
  cases event with
  | typesGrouped names => exact absurd rfl (ungrouped _ member names)
  | _ => rfl

theorem typesDeclared_groupEvents (state : State) (members : List TypeDeclaration) :
    typesDeclared (state.groupEvents members) = members.map (·.name.name) := by
  rcases state.groupEvents_eq_cons members with ⟨rest, events, ungrouped⟩
  have others := typesDeclared_eq_nil ungrouped
  unfold typesDeclared at others ⊢
  rw [events, List.flatMap_cons, others, List.append_nil]

/-- What has been added to a table are the types declared in the meantime, each
under its own name. -/
def Types.GrownBy (types : Types) (names : List String) (later : Types) : Prop :=
  ∃ cells, later = types.extend cells ∧
    cells.map (fun cell => cell.site.map (·.name)) = names.map some

namespace Types.GrownBy

variable {types later : Types} {names : List String}

theorem size_eq (grown : types.GrownBy names later) : later.size = types.size + names.length := by
  rcases grown with ⟨cells, rfl, sites⟩
  have lengths := congrArg List.length sites
  rw [List.length_map, List.length_map] at lengths
  rw [size_extend, lengths]

/-- The next number belongs to the type that was declared first, and so on. -/
theorem site_eq (grown : types.GrownBy names later) (index : Nat) :
    (later.site? ⟨types.size + index⟩).map (·.name) = names[index]? := by
  rcases grown with ⟨cells, rfl, sites⟩
  have position := congrArg (fun sites => sites[index]?) sites
  simp only [List.getElem?_map] at position
  rw [site?, getElem?_extend_new]
  cases found : cells[index]? <;> cases name : names[index]? <;> simp_all

theorem refl (types : Types) : types.GrownBy [] types :=
  ⟨[], (extend_nil types).symm, rfl⟩

theorem trans {last : Types} {further : List String} (grown : types.GrownBy names later)
    (grownOn : later.GrownBy further last) : types.GrownBy (names ++ further) last := by
  rcases grown with ⟨cells, rfl, sites⟩
  rcases grownOn with ⟨more, rfl, moreSites⟩
  refine ⟨cells ++ more, extend_extend types cells more, ?_⟩
  rw [List.map_append, List.map_append, sites, moreSites]

theorem preserved (grown : types.GrownBy names later) (wellFormed : types.WellFormed) :
    types.Preserved later := by
  rcases grown with ⟨cells, rfl, _⟩
  exact wellFormed.preserved_extend cells

end Types.GrownBy

/-- From its beginning on, the table grows by what is declared. -/
theorem Discipline.counting_lawful (base : Types) :
    (ofTable fun types past => base.GrownBy (typesDeclared past) types).Lawful := by
  refine ofTable_lawful (fun {types past events} sound ordinary => ?_)
    fun state past members sound => ?_
  · have ungrouped : ∀ event ∈ events, ∀ names, event ≠ .typesGrouped names := by
      rintro _ member names rfl
      exact ordinary _ member
    rw [typesDeclared_append, typesDeclared_eq_nil ungrouped, List.append_nil]
    exact sound
  · rcases sound with ⟨cells, types, sites⟩
    refine ⟨cells ++ members.map (·.cell (state.groupNames members)), ?_, ?_⟩
    · rw [← Types.extend_extend, ← types]
      rfl
    · rw [typesDeclared_append, typesDeclared_groupEvents, List.map_append, List.map_append,
        sites, List.map_map, List.map_map]
      rfl

/-- Whatever is asked for, and however it ends, the table grows by the types that
are declared on the way. -/
theorem Request.grows (request : Request) {state : State} (wellFormed : state.WellFormed) :
    let run := request.check.run state
    state.types.GrownBy (typesDeclared run.events) run.state.types := by
  have counting := Discipline.counting_lawful state.types
  have holds : (Discipline.ofTable fun types past =>
      state.types.GrownBy (typesDeclared past) types).Holds ⟨state, []⟩ :=
    ⟨.refl state.types, wellFormed.typeNames.mono fun _ _ => trivial,
      wellFormed.valueNames.mono fun _ _ => trivial⟩
  exact (Discipline.keeps_request counting request ⟨state, []⟩ holds).1.sound

/-- So it does in the course of many checks. -/
theorem History.grows (requests : List Request) {history : History}
    (holds : Discipline.wellFormed.Holds history) :
    ∃ names, history.state.types.GrownBy names (requests.foldl perform history).state.types := by
  induction requests generalizing history with
  | nil => exact ⟨[], .refl _⟩
  | cons request rest inductionHypothesis =>
      have first := request.grows holds.wellFormed
      have next := Discipline.keeps_request Discipline.wellFormed_lawful request history holds
      rcases inductionHypothesis next.1 with ⟨names, others⟩
      exact ⟨_, first.trans others⟩

/-- In every history, a check of anything, aborted or not, leaves all that can be
asked about the numbers that were taken before as it was, and so does any number
of further checks.  The types that are declared by a check take the numbers that
come next, one after another. -/
theorem History.types_keep_meaning (outermost : Frame) (requests : List Request) :
    let history := ofRequests outermost requests
    (∀ request : Request,
      let run := request.check.run history.state
      history.state.types.Preserved run.state.types ∧
      run.state.types.size = history.state.types.size + (typesDeclared run.events).length ∧
      ∀ index, (run.state.types.site? ⟨history.state.types.size + index⟩).map (·.name) =
        (typesDeclared run.events)[index]?) ∧
    ∀ further : List Request,
      history.state.types.Preserved (further.foldl perform history).state.types := by
  intro history
  have holds : Discipline.wellFormed.Holds history :=
    Discipline.wellFormed_ofRequests outermost requests
  refine ⟨fun request => ?_, fun further => ?_⟩
  · have grown := request.grows holds.wellFormed
    exact ⟨grown.preserved holds.wellFormed.types, grown.size_eq, grown.site_eq⟩
  · rcases history.grows further holds with ⟨names, grown⟩
    exact grown.preserved holds.wellFormed.types

end StaticSemantics
