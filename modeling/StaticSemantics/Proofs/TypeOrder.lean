import Mathlib.Data.List.Nodup
import Mathlib.Data.List.Perm.Basic
import Mathlib.Logic.Equiv.Fin.Basic
import StaticSemantics.Proofs.GroupMeaning
import StaticSemantics.Proofs.Renumbering

namespace StaticSemantics

/-!
# The order of types in a group

The members of a group of types may be written in any order.  Each member takes
another number then, and every reference to it follows, be it forwards, backwards
or in a circle.  So the table that is left is the same table, in which the numbers
of the members have changed places.

A walk along aliases goes through corresponding numbers on both sides, wherever
it starts.  Circles are therefore reported of the same members.  Nothing has to be
known about the shape of the references for this.
-/

/-!
## Numbers that change places
-/

namespace TypeDeclaration

variable {members others : List TypeDeclaration} {size : Nat} {id : TypeId}

/-- Where the members of a group stand after it has been put into another order. -/
def positions (same : members.Perm others) : Fin members.length ≃ Fin others.length where
  toFun := same.idxBij
  invFun := same.symm.idxBij
  left_inv := fun _ => same.idxBij_symm_idxBij
  right_inv := fun _ => same.idxBij_idxBij_symm

/-- The numbers that a group takes, by the positions of its members. -/
def numbers (size : Nat) (members : List TypeDeclaration) :
    Fin members.length ≃ {id : TypeId // id ∈ groupIds size members} where
  toFun := fun position => ⟨⟨size + position⟩,
    mem_groupIds.mpr ⟨Nat.le_add_right _ _, Nat.add_lt_add_left position.isLt _⟩⟩
  invFun := fun id => ⟨id.val.number - size, by have bounds := mem_groupIds.mp id.property; omega⟩
  left_inv := fun position => Fin.ext (Nat.add_sub_cancel_left _ _)
  right_inv := fun id => Subtype.ext
    (TypeId.eq_of_number_eq (Nat.add_sub_cancel' (mem_groupIds.mp id.property).1))

/-- Every member takes the number that it has in the other order.  Numbers that
are no member's stay as they are. -/
def reorder (size : Nat) (same : members.Perm others) : Equiv.Perm TypeId :=
  .extendDomain ((positions same).trans (finCongr same.length_eq.symm)) (numbers size members)

/-- A group takes the same numbers in every order. -/
theorem groupIds_of_perm (size : Nat) (same : members.Perm others) :
    groupIds size others = groupIds size members := by
  rw [groupIds, groupIds, same.length_eq]

theorem reorder_of_notMem (same : members.Perm others) (foreign : id ∉ groupIds size members) :
    reorder size same id = id :=
  Equiv.Perm.extendDomain_apply_not_subtype _ _ foreign

theorem reorder_of_lt (same : members.Perm others) (old : id.number < size) :
    reorder size same id = id :=
  reorder_of_notMem same fun new => Nat.not_lt.mpr (mem_groupIds.mp new).1 old

theorem reorder_mem_iff (same : members.Perm others) :
    reorder size same id ∈ groupIds size members ↔ id ∈ groupIds size members := by
  by_cases new : id ∈ groupIds size members
  · rw [reorder, Equiv.Perm.extendDomain_apply_subtype _ _ new]
    exact iff_of_true (Subtype.property _) new
  · rw [reorder_of_notMem same new]

/-- Every member takes a number. -/
theorem exists_number (size : Nat) {member : TypeDeclaration} (listed : member ∈ members) :
    ∃ id, (member, id) ∈ members.zip (groupIds size members) := by
  rcases List.getElem?_of_mem listed with ⟨index, found⟩
  exact ⟨_, mem_zip_groupIds.mpr ⟨index, found, rfl⟩⟩

/-- The number of a member goes to the number of the same member. -/
theorem mem_zip_reorder {member : TypeDeclaration} (same : members.Perm others)
    (listed : (member, id) ∈ members.zip (groupIds size members)) :
    (member, reorder size same id) ∈ others.zip (groupIds size others) := by
  rcases mem_zip_groupIds.mp listed with ⟨index, found, rfl⟩
  rcases List.getElem?_eq_some_iff.mp found with ⟨bound, rfl⟩
  have moved : reorder size same ⟨size + index⟩ = ⟨size + positions same ⟨index, bound⟩⟩ :=
    Equiv.Perm.extendDomain_apply_image _ (numbers size members) ⟨index, bound⟩
  refine mem_zip_groupIds.mpr ⟨positions same ⟨index, bound⟩, ?_, moved⟩
  rw [List.getElem?_eq_getElem (positions same ⟨index, bound⟩).isLt]
  exact congrArg some (same.getElem_idxBij_eq_getElem ⟨index, bound⟩)

end TypeDeclaration

/-!
## Names
-/

namespace State

variable {state : State} {members others : List TypeDeclaration}

/-- Where the names differ, every name stands for its own member. -/
theorem lookUpType_of_mem_zip {member : TypeDeclaration} {id : TypeId}
    (distinct : (members.map (·.name.name)).Nodup)
    (listed : (member, id) ∈ members.zip (groupIds state.types.size members)) :
    (state.groupNames members).lookUpType member.name.name = .ok id := by
  rcases mem_zip_groupIds.mp listed with ⟨index, found, rfl⟩
  rw [Environment.lookUpType_eq_ok_iff]
  rcases state.typeNames.newest?_bindAll_groupBindings state.types.size members
    member.name.name with ⟨last, isLast, newest⟩ | ⟨foreign, _⟩
  · rcases isLast.named with ⟨namesake, there, named⟩
    -- Two positions with one name are one position.
    have position : index = last := by
      have bound : index < (members.map (·.name.name)).length := by
        rw [List.length_map]
        exact (List.getElem?_eq_some_iff.mp found).1
      rw [← List.getElem?_inj bound distinct, List.getElem?_map, List.getElem?_map, found, there,
        Option.map_some, Option.map_some, named]
    rw [position]
    exact newest
  · exact absurd rfl (foreign member (List.mem_of_getElem? found))

/-- Other names stand for what they stood for. -/
theorem lookUpType_of_foreign {name : String}
    (foreign : ∀ member ∈ members, member.name.name ≠ name) :
    (state.groupNames members).lookUpType name = state.typeNames.lookUpType name := by
  rcases state.typeNames.newest?_bindAll_groupBindings state.types.size members name with
    ⟨last, isLast, _⟩ | ⟨_, newest⟩
  · rcases isLast.exists_mem with ⟨member, listed, named⟩
    exact absurd named (foreign member listed)
  · unfold Environment.lookUpType groupNames
    rw [newest]

/-- A name stands for a number, and in the other order for the number to which this
one goes. -/
theorem lookUpType_groupNames_of_perm (wellFormed : state.WellFormed)
    (same : members.Perm others) (distinct : (members.map (·.name.name)).Nodup) (name : String) :
    (state.groupNames others).lookUpType name =
      ((state.groupNames members).lookUpType name).map
        (TypeDeclaration.reorder state.types.size same) := by
  by_cases own : ∃ member ∈ members, member.name.name = name
  · rcases own with ⟨member, listed, rfl⟩
    rcases TypeDeclaration.exists_number state.types.size listed with ⟨id, number⟩
    rw [lookUpType_of_mem_zip distinct number,
      lookUpType_of_mem_zip ((same.map _).nodup_iff.mp distinct)
        (TypeDeclaration.mem_zip_reorder same number)]
    rfl
  · have foreign : ∀ member ∈ members, member.name.name ≠ name :=
      fun member listed named => own ⟨member, listed, named⟩
    rw [lookUpType_of_foreign foreign,
      lookUpType_of_foreign fun member listed => foreign member (same.mem_iff.mpr listed)]
    rcases wellFormed.typeNames.lookUpType_eq name with ⟨id, bound, stands⟩ | ⟨_, unknown⟩
    · have held : state.types.Holds id :=
        (wellFormed.typeNames.newest? bound).2 id (List.mem_singleton_self id)
      rw [stands, Except.map, TypeDeclaration.reorder_of_lt same held]
    · rw [unknown]
      rfl

theorem typeOf?_groupNames_of_perm (wellFormed : state.WellFormed) (same : members.Perm others)
    (distinct : (members.map (·.name.name)).Nodup) (name : String) :
    (state.groupNames others).typeOf? name =
      ((state.groupNames members).typeOf? name).map
        (TypeDeclaration.reorder state.types.size same) := by
  rw [Environment.typeOf?, lookUpType_groupNames_of_perm wellFormed same distinct,
    Environment.typeOf?]
  cases (state.groupNames members).lookUpType name <;> rfl

/-- So the same names are reported. -/
theorem reports_groupNames_of_perm (wellFormed : state.WellFormed) (same : members.Perm others)
    (distinct : (members.map (·.name.name)).Nodup) (body : TypeExpression) :
    body.reports (state.groupNames others) = body.reports (state.groupNames members) := by
  have names : (state.groupNames others).typeReports = (state.groupNames members).typeReports := by
    funext name
    unfold Environment.typeReports
    rw [lookUpType_groupNames_of_perm wellFormed same distinct]
    cases (state.groupNames members).lookUpType name.name <;> rfl
  rw [TypeExpression.reports, TypeExpression.reports, names]

/-!
## The table
-/

/-- Behind a number that is no member's stands what stood there. -/
theorem of_notMem_groupIds {id : TypeId} (foreign : id ∉ groupIds state.types.size members) :
    (state.groupTypes members).get id = state.types.get id ∧
      (state.groupTypes members).site? id = state.types.site? id := by
  have cell : (state.groupTypes members).cells[id.number]? = state.types.cells[id.number]? := by
    by_cases held : state.types.Holds id
    · exact Array.getElem?_append_left held
    · have missing : ¬ (state.groupTypes members).Holds id := fun taken =>
        (holds_groupTypes_iff.mp taken).elim held foreign
      rw [Array.getElem?_eq_none (Nat.le_of_not_lt held),
        Array.getElem?_eq_none (Nat.le_of_not_lt missing)]
  rw [Types.get, Types.site?, cell]
  exact ⟨rfl, rfl⟩

/-- In another order a group leaves the same types. -/
theorem renamed_groupTypes (wellFormed : state.WellFormed) (same : members.Perm others)
    (distinct : (members.map (·.name.name)).Nodup) :
    (state.groupTypes members).Renamed (TypeDeclaration.reorder state.types.size same)
      (state.groupTypes others) := by
  have error := TypeDeclaration.reorder_of_lt same wellFormed.types.holds_error
  have alike : ∀ id,
      (state.groupTypes others).get (TypeDeclaration.reorder state.types.size same id) =
        ((state.groupTypes members).get id).rename
          (TypeDeclaration.reorder state.types.size same) ∧
      (state.groupTypes others).site? (TypeDeclaration.reorder state.types.size same id) =
        (state.groupTypes members).site? id := by
    intro id
    by_cases new : id ∈ groupIds state.types.size members
    · rcases exists_of_mem_groupIds new with ⟨member, listed, type, site⟩
      have moved := of_mem_zip (TypeDeclaration.mem_zip_reorder same listed)
      rw [type, site, moved.1, moved.2]
      exact ⟨member.body.meaning_rename _ error
        (typeOf?_groupNames_of_perm wellFormed same distinct), rfl⟩
    · have foreign : id ∉ groupIds state.types.size others := by
        rwa [TypeDeclaration.groupIds_of_perm _ same]
      rw [TypeDeclaration.reorder_of_notMem same new, (of_notMem_groupIds new).1,
        (of_notMem_groupIds new).2, (of_notMem_groupIds foreign).1, (of_notMem_groupIds foreign).2]
      -- An older type refers to older types, and their numbers stay.
      exact ⟨(Ty.rename_eq_self fun part inside => TypeDeclaration.reorder_of_lt same
        (wellFormed.types.parts id part inside)).symm, rfl⟩
  exact ⟨fun equal => Equiv.injective _ equal, error, fun id => (alike id).1, fun id => (alike id).2⟩

end State

/-!
## Reports
-/

namespace State

variable {state : State} {members others : List TypeDeclaration}

/-- The members with their numbers, in both orders. -/
theorem zip_groupIds_perm (size : Nat) (same : members.Perm others) :
    ((members.zip (groupIds size members)).map
      (Prod.map id (TypeDeclaration.reorder size same))).Perm
      (others.zip (groupIds size others)) := by
  have distinct : (members.zip (groupIds size members)).Nodup := by
    refine List.Nodup.of_map Prod.snd ?_
    rw [map_snd_zip_groupIds]
    exact List.Nodup.map (fun _ _ equal => congrArg TypeId.number equal) List.nodup_range'
  have moved : ((members.zip (groupIds size members)).map
      (Prod.map id (TypeDeclaration.reorder size same))).Nodup :=
    List.Nodup.map (Function.injective_id.prodMap (Equiv.injective _)) distinct
  refine (List.subperm_of_subset moved fun entry listed => ?_).perm_of_length_le ?_
  · rcases List.mem_map.mp listed with ⟨⟨member, id⟩, numbered, rfl⟩
    exact TypeDeclaration.mem_zip_reorder same numbered
  · simp [groupIds, same.length_eq]

/-- The same members are reported for their circles. -/
theorem diagnosticsOf_chains_perm (wellFormed : state.WellFormed) (same : members.Perm others)
    (distinct : (members.map (·.name.name)).Nodup) :
    (diagnosticsOf ((members.zip (groupIds state.types.size members)).flatMap
      fun (member, id) => (state.groupTypes members).chainReports
        (groupIds state.types.size members) member id)).Perm
      (diagnosticsOf ((others.zip (groupIds state.types.size others)).flatMap
        fun (member, id) => (state.groupTypes others).chainReports
          (groupIds state.types.size others) member id)) := by
  have inside : ∀ id, TypeDeclaration.reorder state.types.size same id ∈
      groupIds state.types.size others ↔ id ∈ groupIds state.types.size members := by
    intro id
    rw [TypeDeclaration.groupIds_of_perm _ same, TypeDeclaration.reorder_mem_iff]
  rw [← (renamed_groupTypes wellFormed same distinct).diagnosticsOf_chains inside]
  exact ((zip_groupIds_perm state.types.size same).flatMap_right _).filterMap _

theorem diagnosticsOf_groupEvents_perm (wellFormed : state.WellFormed)
    (same : members.Perm others) (distinct : (members.map (·.name.name)).Nodup) :
    (diagnosticsOf (state.groupEvents members)).Perm (diagnosticsOf (state.groupEvents others)) := by
  have circles := diagnosticsOf_chains_perm wellFormed same distinct
  rw [diagnosticsOf_chains, diagnosticsOf_chains] at circles
  rw [diagnosticsOf_groupEvents, diagnosticsOf_groupEvents]
  simp only [reports_groupNames_of_perm wellFormed same distinct]
  exact .append ((same.flatMap_right _).filterMap _) circles

end State

/-- Two runs that declare the members of a group in two orders, where `rename` takes
the numbers of the first run to those of the second.  Both end well, and but for
these numbers only the order of the reports is another. -/
structure Run.SameButNumbers (state : State) (members : List TypeDeclaration)
    (rename : Equiv.Perm TypeId) (run other : Run Unit) : Prop where
  ends : run.outcome = .ok () ∧ other.outcome = .ok ()
  diagnostics : (diagnosticsOf run.events).Perm (diagnosticsOf other.events)
  size_eq : run.state.types.size = state.types.size + members.length ∧
    other.state.types.size = state.types.size + members.length
  /-- The numbers that the group takes change places, and all others stay. -/
  moves : ∀ id, rename id ∈ groupIds state.types.size members ↔
    id ∈ groupIds state.types.size members
  stays : ∀ id, id ∉ groupIds state.types.size members → rename id = id
  /-- The number of a member goes to the number of the same member. -/
  own : ∀ member ∈ members, ∃ id ∈ groupIds state.types.size members,
    run.state.typeNames.lookUpType member.name.name = .ok id ∧
    other.state.typeNames.lookUpType member.name.name = .ok (rename id)
  lookUpType : ∀ name, other.state.typeNames.lookUpType name =
    (run.state.typeNames.lookUpType name).map rename
  get_eq : ∀ id, other.state.types.get (rename id) = (run.state.types.get id).rename rename
  site_eq : ∀ id, other.state.types.site? (rename id) = run.state.types.site? id
  unalias : ∀ id, other.state.types.unalias (rename id) =
    match run.state.types.unalias id with
    | .ok concrete => .ok (rename concrete)
    | .error error => .error (error.rename rename)
  compatible : ∀ first second, other.state.types.compatible (rename first) (rename second) =
    run.state.types.compatible first second
  describe : ∀ id, other.state.types.describe (rename id) = run.state.types.describe id
  describeApart : ∀ expected found,
    other.state.types.describeApart (rename expected) (rename found) =
      run.state.types.describeApart expected found
  /-- Nothing but types and their names is touched. -/
  rest : other.state =
    { run.state with types := other.state.types, typeNames := other.state.typeNames }

/-- In every history, a group of types whose names differ may be declared in any
order.  The numbers of the new types change places, so that each member has the
number of the same member in the other order; older numbers stay as they are.  Up
to this the same diagnostics are reported, the tables hold the same types, and names
stand for the same; so aliases are followed, types compared and described alike. -/
theorem History.types_in_any_order (outermost : Frame) (requests : List Request)
    (members others : List TypeDeclaration) (span : Span) (same : members.Perm others)
    (distinct : (members.map (·.name.name)).Nodup) :
    let state := (ofRequests outermost requests).state
    ∃ rename : Equiv.Perm TypeId,
      ((Check.makeDeclaration (.types members span)).run state).SameButNumbers state members rename
        ((Check.makeDeclaration (.types others span)).run state) := by
  intro state
  have wellFormed : state.WellFormed :=
    (Discipline.wellFormed_ofRequests outermost requests).wellFormed
  have renamed := State.renamed_groupTypes wellFormed same distinct
  have otherDistinct : (others.map (·.name.name)).Nodup := (same.map _).nodup_iff.mp distinct
  have ran : ∀ group, (Check.makeDeclaration (.types group span)).run state =
      ⟨.ok (), { state with
        types := state.groupTypes group
        typeNames := state.groupNames group }, state.groupEvents group⟩ :=
    fun group => Check.run_makeTypes group state
  rw [ran members, ran others]
  exact ⟨TypeDeclaration.reorder state.types.size same, {
    ends := ⟨rfl, rfl⟩
    diagnostics := State.diagnosticsOf_groupEvents_perm wellFormed same distinct
    size_eq := ⟨State.size_groupTypes, same.length_eq ▸ State.size_groupTypes⟩
    moves := fun _ => TypeDeclaration.reorder_mem_iff same
    stays := fun _ => TypeDeclaration.reorder_of_notMem same
    own := fun member listed => by
      rcases TypeDeclaration.exists_number state.types.size listed with ⟨id, number⟩
      exact ⟨id, (List.of_mem_zip number).2, State.lookUpType_of_mem_zip distinct number,
        State.lookUpType_of_mem_zip otherDistinct (TypeDeclaration.mem_zip_reorder same number)⟩
    lookUpType := State.lookUpType_groupNames_of_perm wellFormed same distinct
    get_eq := renamed.get_eq
    site_eq := renamed.site_eq
    unalias := renamed.unalias_rename
    compatible := renamed.compatible_rename
    describe := renamed.describe_rename
    describeApart := renamed.describeApart_rename
    rest := rfl }⟩

/-- Two aliases in a circle, a third one that leads into it, and a record that
refers to itself, to the third alias and to a type that is unknown. -/
def TypeDeclaration.circular : List TypeDeclaration :=
  let here : Span := ⟨1, 1, 1, 1⟩
  let field (name type : String) : TypedName := ⟨⟨name, here⟩, ⟨type, here⟩, here⟩
  [⟨⟨"a", here⟩, .name ⟨"b", here⟩ here, here⟩, ⟨⟨"b", here⟩, .name ⟨"a", here⟩ here, here⟩,
    ⟨⟨"c", here⟩, .name ⟨"a", here⟩ here, here⟩,
    ⟨⟨"r", here⟩, .record [field "next" "r", field "back" "c", field "lost" "x"] here, here⟩]

/-- Written backwards, the same is reported in another order. -/
theorem History.types_in_any_order_backwards :
    let members := TypeDeclaration.circular
    let state := (ofRequests outermostFrame []).state
    let run := (Check.makeDeclaration (.types members ⟨1, 1, 1, 1⟩)).run state
    let other := (Check.makeDeclaration (.types members.reverse ⟨1, 1, 1, 1⟩)).run state
    members.Perm members.reverse ∧ (members.map (·.name.name)).Nodup ∧
    (diagnosticsOf run.events).map (·.message) =
      ["undefined type 'x'", "illegal type cycle: 'a' never resolves to a concrete type",
        "illegal type cycle: 'b' never resolves to a concrete type",
        "illegal type cycle: 'c' never resolves to a concrete type"] ∧
    (diagnosticsOf other.events).map (·.message) =
      ["undefined type 'x'", "illegal type cycle: 'c' never resolves to a concrete type",
        "illegal type cycle: 'b' never resolves to a concrete type",
        "illegal type cycle: 'a' never resolves to a concrete type"] ∧
    ∃ rename : Equiv.Perm TypeId, run.SameButNumbers state members rename other := by
  have same : TypeDeclaration.circular.Perm TypeDeclaration.circular.reverse :=
    (List.reverse_perm _).symm
  have distinct : (TypeDeclaration.circular.map (·.name.name)).Nodup := by decide
  exact ⟨same, distinct, by decide +kernel, by decide +kernel,
    types_in_any_order outermostFrame [] _ _ _ same distinct⟩

end StaticSemantics
