import StaticSemantics.Check.TypeGroup
import StaticSemantics.Proofs.AliasChain

namespace StaticSemantics

/-!
# What a group of types does

The passes over a group build its types piece by piece, with empty cells in
between.  Here the result is given at once: the table grows by one cell for
every member, the names of all members are bound, and every right-hand side is
read with all these names in scope.  Nothing else changes, and a group is never
aborted.
-/

namespace Types

/-- A table with more cells behind its own. -/
def extend (types : Types) (cells : List TypeCell) : Types :=
  ⟨types.cells ++ cells.toArray⟩

@[simp] theorem size_extend (types : Types) (cells : List TypeCell) :
    (types.extend cells).size = types.size + cells.length := by
  simp [extend, size]

@[simp] theorem extend_nil (types : Types) : types.extend [] = types := by
  simp [extend]

theorem extend_extend (types : Types) (first second : List TypeCell) :
    (types.extend first).extend second = types.extend (first ++ second) := by
  simp [extend]

theorem get_extend {types : Types} {id : TypeId} (held : types.Holds id)
    (cells : List TypeCell) : (types.extend cells).get id = types.get id := by
  have inside : id.number < types.cells.size := held
  simp only [get, Types.extend, Array.getElem?_append_left inside]

theorem site?_extend {types : Types} {id : TypeId} (held : types.Holds id)
    (cells : List TypeCell) : (types.extend cells).site? id = types.site? id := by
  have inside : id.number < types.cells.size := held
  simp only [site?, Types.extend, Array.getElem?_append_left inside]

theorem getElem?_extend_new (types : Types) (cells : List TypeCell) (index : Nat) :
    (types.extend cells).cells[types.size + index]? = cells[index]? := by
  simp [extend, size, Array.getElem?_append_right]

/-- A declaration is an empty cell at the end. -/
theorem declare_eq (types : Types) (name : String) (span : Span) :
    types.declare name span =
      (⟨types.size⟩, types.extend [⟨.alias name none, some ⟨name, span⟩⟩]) := by
  simp [declare, extend]

/-- A definition fills in the first cell that was added. -/
theorem define_extend (types : Types) (cell : TypeCell) (rest : List TypeCell) (type : Ty) :
    (types.extend (cell :: rest)).define ⟨types.size⟩ type =
      (types.extend [{ cell with type }]).extend rest := by
  simp only [define, extend, size, Types.mk.injEq]
  apply Array.ext_getElem?
  intro index
  rw [Array.getElem?_modify]
  rcases Nat.lt_trichotomy index types.cells.size with before | rfl | behind
  · rw [if_neg (Nat.ne_of_gt before)]
    simp [Array.getElem?_append_left, before]
  · simp
  · obtain ⟨offset, rfl⟩ : ∃ offset, index = types.cells.size + (offset + 1) :=
      ⟨index - types.cells.size - 1, by omega⟩
    rw [if_neg (by omega)]
    simp [Array.getElem?_append_right]

end Types

namespace Environment

/-- Bind many names, the first one first. -/
def bindAll (env : Environment) (bindings : List Binding) : Environment :=
  { env with bindings := bindings.reverse ++ env.bindings }

@[simp] theorem bindAll_nil (env : Environment) : env.bindAll [] = env :=
  rfl

theorem bindAll_cons (env : Environment) (first : Binding) (rest : List Binding) :
    env.bindAll (first :: rest) = (env.bind first.name first.entry).bindAll rest := by
  simp [bindAll, bind]

theorem bindAll_append (env : Environment) (first second : List Binding) :
    env.bindAll (first ++ second) = (env.bindAll first).bindAll second := by
  simp [bindAll]

/-- The type that a name stands for, if it stands for one. -/
def typeOf? (env : Environment) (name : String) : Option TypeId :=
  (env.lookUpType name).toOption

/-- The reports for the use of a name as a type. -/
def typeReports (env : Environment) (name : Ident) : List Event :=
  match env.lookUpType name.name with
  | .ok _ => []
  | .error error => [.reported name.span (error.problem "type")]

/-- A report asks for no handle. -/
theorem call?_of_mem_typeReports {env : Environment} {name : Ident} {event : Event}
    (said : event ∈ env.typeReports name) : event.call? = none := by
  unfold typeReports at said
  split at said
  · cases said
  · rw [List.mem_singleton.mp said]
    rfl

theorem typeOf?_eq_some_iff {env : Environment} {name : String} {id : TypeId} :
    env.typeOf? name = some id ↔ env.lookUpType name = .ok id := by
  unfold typeOf?
  cases env.lookUpType name <;> simp [Except.toOption]

/-- A name is reported exactly if it stands for no type. -/
theorem typeReports_eq_nil_iff {env : Environment} {name : Ident} :
    env.typeReports name = [] ↔ ∃ id, env.typeOf? name.name = some id := by
  simp only [typeOf?_eq_some_iff, typeReports]
  split <;> simp_all

end Environment

namespace TypeExpression

/-- The names that a type expression uses, in order. -/
def used : TypeExpression → List Ident
  | name target _ => [target]
  | record fields _ => fields.map (·.type)
  | array element _ => [element]

/-- What the right-hand side of the declaration of a name stands for. -/
def meaning (env : Environment) (declared : String) : TypeExpression → Ty
  | name target _ =>
    match env.typeOf? target.name with
    | some id => .alias declared (some id)
    | none => .error
  | record fields _ =>
    .record (fields.map fun field => ⟨field.name.name, (env.typeOf? field.type.name).getD .error⟩)
  | array element _ => .array ((env.typeOf? element.name).getD .error)

/-- Every part of a meaning comes from a name that is used. -/
theorem exists_of_mem_parts_meaning {env : Environment} {declared : String}
    {body : TypeExpression} {part : TypeId} (member : part ∈ (body.meaning env declared).parts) :
    ∃ name ∈ body.used, part = (env.typeOf? name.name).getD .error := by
  cases body with
  | name target span =>
      cases known : env.typeOf? target.name with
      | none => simp [meaning, known, Ty.parts] at member
      | some id =>
          refine ⟨target, by simp [used], ?_⟩
          simpa [meaning, known, Ty.parts] using member
  | record fields span =>
      simp only [meaning, Ty.parts, List.map_map, List.mem_map] at member
      rcases member with ⟨field, listed, rfl⟩
      exact ⟨field.type, List.mem_map_of_mem listed, rfl⟩
  | array element span =>
      exact ⟨element, by simp [used], by simpa [meaning, Ty.parts] using member⟩

/-- The reports for the names in a type expression. -/
def reports (env : Environment) (body : TypeExpression) : List Event :=
  body.used.flatMap env.typeReports

end TypeExpression

namespace Check

variable {γ β : Type}

/-- A computation for every item of a list, where none changes the state. -/
theorem run_mapM {check : γ → Check β} {state : State} {value : γ → β}
    {events : γ → List Event}
    (each : ∀ item, (check item).run state = ⟨.ok (value item), state, events item⟩)
    (items : List γ) :
    (items.mapM check).run state = ⟨.ok (items.map value), state, items.flatMap events⟩ := by
  induction items with
  | nil => rfl
  | cons item rest inductionHypothesis =>
      rw [List.mapM_cons, run_bind_of_ok (each item), run_bind_of_ok inductionHypothesis,
        run_pure]
      simp

theorem run_forM {check : γ → Check PUnit} {state : State} {events : γ → List Event}
    (each : ∀ item, (check item).run state = ⟨.ok (), state, events item⟩) (items : List γ) :
    (items.forM check).run state = ⟨.ok (), state, items.flatMap events⟩ := by
  induction items with
  | nil => rfl
  | cons item rest inductionHypothesis =>
      change (check item >>= fun _ => rest.forM check).run state = _
      rw [run_bind_of_ok (each item), inductionHypothesis]
      simp

theorem run_typeNamed? (name : Ident) (state : State) :
    (typeNamed? name).run state =
      ⟨.ok (state.typeNames.typeOf? name.name), state, state.typeNames.typeReports name⟩ := by
  change (match state.typeNames.lookUpType name.name with
    | .ok id => Pure.pure (some id)
    | .error error => do
      report name.span (error.problem "type")
      Pure.pure none : Check (Option TypeId)).run state = _
  unfold Environment.typeReports Environment.typeOf?
  cases state.typeNames.lookUpType name.name <;> rfl

theorem run_typeNamed (name : Ident) (state : State) :
    (typeNamed name).run state =
      ⟨.ok ((state.typeNames.typeOf? name.name).getD .error), state,
        state.typeNames.typeReports name⟩ := by
  rw [typeNamed, run_bind_of_ok (run_typeNamed? name state)]
  simp

theorem run_interpretFields (fields : List TypedName) (state : State) :
    (interpretFields fields).run state =
      ⟨.ok (fields.map fun field =>
          ⟨field.name.name, (state.typeNames.typeOf? field.type.name).getD .error⟩),
        state, fields.flatMap fun field => state.typeNames.typeReports field.type⟩ := by
  apply run_mapM
  intro field
  rw [run_bind_of_ok (run_typeNamed field.type state)]
  simp

theorem run_interpretType (body : TypeExpression) (name : String) (state : State) :
    (interpretType body name).run state =
      ⟨.ok (body.meaning state.typeNames name), state, body.reports state.typeNames⟩ := by
  cases body with
  | name target span =>
      unfold interpretType
      rw [run_bind_of_ok (run_typeNamed? target state)]
      cases known : state.typeNames.typeOf? target.name <;>
        simp [TypeExpression.meaning, TypeExpression.reports, TypeExpression.used, known]
  | record fields span =>
      unfold interpretType
      rw [run_bind_of_ok (run_interpretFields fields state)]
      simp [TypeExpression.meaning, TypeExpression.reports, TypeExpression.used,
        List.flatMap_map]
  | array element span =>
      unfold interpretType
      rw [run_bind_of_ok (run_typeNamed element state)]
      simp [TypeExpression.meaning, TypeExpression.reports, TypeExpression.used]

end Check

/-!
## The passes over a group
-/

/-- The numbers that a group takes behind the cells that are there. -/
def groupIds (size : Nat) (members : List TypeDeclaration) : List TypeId :=
  (List.range' size members.length).map TypeId.mk

/-- What a group binds: every name to the number of its member. -/
def groupBindings (size : Nat) (members : List TypeDeclaration) : List Binding :=
  members.zipWith (fun member id => ⟨member.name.name, .type id⟩) (groupIds size members)

@[simp] theorem groupIds_nil (size : Nat) : groupIds size [] = [] :=
  rfl

@[simp] theorem groupIds_cons (size : Nat) (first : TypeDeclaration)
    (rest : List TypeDeclaration) :
    groupIds size (first :: rest) = ⟨size⟩ :: groupIds (size + 1) rest :=
  rfl

@[simp] theorem groupBindings_nil (size : Nat) : groupBindings size [] = [] :=
  rfl

@[simp] theorem groupBindings_cons (size : Nat) (first : TypeDeclaration)
    (rest : List TypeDeclaration) :
    groupBindings size (first :: rest) =
      ⟨first.name.name, .type ⟨size⟩⟩ :: groupBindings (size + 1) rest :=
  rfl

theorem mem_groupIds {size : Nat} {members : List TypeDeclaration} {id : TypeId} :
    id ∈ groupIds size members ↔ size ≤ id.number ∧ id.number < size + members.length := by
  simp only [groupIds, List.mem_map, List.mem_range'_1]
  constructor
  · rintro ⟨number, bounds, rfl⟩
    exact bounds
  · exact fun bounds => ⟨id.number, bounds, rfl⟩

/-- The members of a group and their numbers, side by side. -/
theorem mem_zip_groupIds {size : Nat} {members : List TypeDeclaration}
    {member : TypeDeclaration} {id : TypeId} :
    (member, id) ∈ members.zip (groupIds size members) ↔
      ∃ index : Nat, members[index]? = some member ∧ id = ⟨size + index⟩ := by
  have taken : ∀ index : Nat, index < members.length →
      (groupIds size members)[index]? = some ⟨size + index⟩ := by
    intro index bound
    simp [groupIds, bound]
  rw [List.mem_iff_getElem?]
  constructor
  · rintro ⟨index, found⟩
    rcases List.getElem?_zip_eq_some.mp found with ⟨position, number⟩
    rw [taken index (List.getElem?_eq_some_iff.mp position).1] at number
    exact ⟨index, position, (Option.some.inj number).symm⟩
  · rintro ⟨index, position, rfl⟩
    have bound := (List.getElem?_eq_some_iff.mp position).1
    exact ⟨index, List.getElem?_zip_eq_some.mpr ⟨position, taken index bound⟩⟩

theorem groupBindings_eq_map (size : Nat) (members : List TypeDeclaration) :
    groupBindings size members = (members.zipIdx size).map fun (member, number) =>
      ⟨member.name.name, .type ⟨number⟩⟩ := by
  induction members generalizing size with
  | nil => rfl
  | cons member rest inductionHypothesis =>
      rw [groupBindings_cons, inductionHypothesis, List.zipIdx_cons, List.map_cons]

theorem exists_of_mem_groupBindings {size : Nat} {members : List TypeDeclaration}
    {binding : Binding} (member : binding ∈ groupBindings size members) :
    ∃ id ∈ groupIds size members, binding.entry = .type id := by
  induction members generalizing size with
  | nil => simp at member
  | cons first rest inductionHypothesis =>
      rw [groupBindings_cons] at member
      rcases List.mem_cons.mp member with rfl | later
      · exact ⟨⟨size⟩, by simp, rfl⟩
      · rcases inductionHypothesis later with ⟨id, inside, bound⟩
        exact ⟨id, by simp [inside], bound⟩

namespace TypeDeclaration

/-- The cell of a member before its right-hand side has been read. -/
def emptyCell (member : TypeDeclaration) : TypeCell :=
  ⟨.alias member.name.name none, some ⟨member.name.name, member.span⟩⟩

/-- The cell of a member. -/
def cell (env : Environment) (member : TypeDeclaration) : TypeCell :=
  ⟨member.body.meaning env member.name.name, some ⟨member.name.name, member.span⟩⟩

end TypeDeclaration

/-- What is said about the chain of aliases that starts at a member. -/
def Types.chainReports (types : Types) (group : List TypeId) (member : TypeDeclaration)
    (id : TypeId) : List Event :=
  match types.unalias id with
  | .ok _ => []
  | .error error =>
    if error.stop ∈ group then [.reported member.span (.aliasCycle member.name.name)]
    else [.aliasBroken member.name.name error]

/-- Following a chain asks for no handles. -/
theorem Types.call?_of_mem_chainReports {types : Types} {group : List TypeId}
    {member : TypeDeclaration} {id : TypeId} {event : Event}
    (said : event ∈ types.chainReports group member id) : event.call? = none := by
  unfold Types.chainReports at said
  cases walk : types.unalias id with
  | ok concrete => simp [walk] at said
  | error error =>
      simp only [walk] at said
      by_cases inside : error.stop ∈ group
      · rw [if_pos inside] at said
        rw [List.mem_singleton.mp said]
        rfl
      · rw [if_neg inside] at said
        rw [List.mem_singleton.mp said]
        rfl

namespace State

/-- The names of types inside and after a group. -/
def groupNames (state : State) (members : List TypeDeclaration) : Environment :=
  state.typeNames.bindAll (groupBindings state.types.size members)

/-- The types after a group. -/
def groupTypes (state : State) (members : List TypeDeclaration) : Types :=
  state.types.extend (members.map (·.cell (state.groupNames members)))

/-- What happens while a group is declared. -/
def groupEvents (state : State) (members : List TypeDeclaration) : List Event :=
  .typesGrouped (members.map (·.name.name)) ::
    (members.map fun member => .bound member.name.name .type state.typeNames.depth) ++
    (members.flatMap fun member => member.body.reports (state.groupNames members)) ++
    (members.zip (groupIds state.types.size members)).flatMap fun (member, id) =>
      (state.groupTypes members).chainReports (groupIds state.types.size members) member id

/-- A group asks for no handles. -/
theorem callsOf_groupEvents (state : State) (members : List TypeDeclaration) :
    callsOf (state.groupEvents members) = [] := by
  refine List.filterMap_eq_nil_iff.mpr fun event happened => ?_
  rw [State.groupEvents, List.mem_append, List.mem_append, List.mem_cons] at happened
  rcases happened with ((rfl | bound) | reported) | chain
  · rfl
  · rcases List.mem_map.mp bound with ⟨member, _, rfl⟩
    rfl
  · rcases List.mem_flatMap.mp reported with ⟨member, _, inside⟩
    rcases List.mem_flatMap.mp inside with ⟨name, _, said⟩
    exact Environment.call?_of_mem_typeReports said
  · rcases List.mem_flatMap.mp chain with ⟨⟨member, id⟩, _, said⟩
    exact Types.call?_of_mem_chainReports said

end State

namespace State

variable {state : State} {members : List TypeDeclaration} {id : TypeId}

@[simp] theorem size_groupTypes :
    (state.groupTypes members).size = state.types.size + members.length := by
  simp [groupTypes]

theorem get_groupTypes (held : state.types.Holds id) :
    (state.groupTypes members).get id = state.types.get id :=
  Types.get_extend held _

/-- After a group a number belongs to an older type or to a member. -/
theorem holds_groupTypes_iff : (state.groupTypes members).Holds id ↔
    state.types.Holds id ∨ id ∈ groupIds state.types.size members := by
  rw [mem_groupIds, Types.Holds, Types.Holds, size_groupTypes]
  omega

/-- Behind the number of a member stands what its right-hand side means. -/
theorem of_mem_zip {member : TypeDeclaration}
    (listed : (member, id) ∈ members.zip (groupIds state.types.size members)) :
    (state.groupTypes members).get id =
        member.body.meaning (state.groupNames members) member.name.name ∧
      (state.groupTypes members).site? id = some ⟨member.name.name, member.span⟩ := by
  rcases mem_zip_groupIds.mp listed with ⟨index, position, rfl⟩
  have cell := Types.getElem?_extend_new state.types
    (members.map (·.cell (state.groupNames members))) index
  rw [List.getElem?_map, position, Option.map_some] at cell
  rw [Types.get, Types.site?, groupTypes, cell]
  exact ⟨rfl, rfl⟩

/-- Every number that a group takes belongs to a member. -/
theorem exists_of_mem_groupIds (new : id ∈ groupIds state.types.size members) :
    ∃ member, (member, id) ∈ members.zip (groupIds state.types.size members) ∧
      (state.groupTypes members).get id =
        member.body.meaning (state.groupNames members) member.name.name ∧
      (state.groupTypes members).site? id = some ⟨member.name.name, member.span⟩ := by
  rcases mem_groupIds.mp new with ⟨behind, inside⟩
  obtain ⟨index, position⟩ : ∃ index, id.number = state.types.size + index :=
    ⟨id.number - state.types.size, by omega⟩
  have bound : index < members.length := by omega
  have taken : id = ⟨state.types.size + index⟩ := TypeId.eq_of_number_eq position
  have listed := mem_zip_groupIds.mpr ⟨index, List.getElem?_eq_getElem bound, taken⟩
  exact ⟨members[index], listed, of_mem_zip listed⟩

/-- What holds of the parts of older types, and of what the names in a group
come to, holds of the parts of all types after the group. -/
theorem forall_parts_groupTypes {property : TypeId → Prop}
    (old : ∀ id, ∀ part ∈ (state.types.get id).parts, property part)
    (new : ∀ member ∈ members, ∀ name ∈ member.body.used,
      property (((state.groupNames members).typeOf? name.name).getD .error)) :
    ∀ id, ∀ part ∈ ((state.groupTypes members).get id).parts, property part := by
  intro id part inside
  by_cases taken : id ∈ groupIds state.types.size members
  · rcases exists_of_mem_groupIds taken with ⟨member, listed, meaning, _⟩
    rw [meaning] at inside
    rcases TypeExpression.exists_of_mem_parts_meaning inside with ⟨name, used, rfl⟩
    exact new member (List.of_mem_zip listed).1 name used
  · by_cases held : state.types.Holds id
    · rw [get_groupTypes held] at inside
      exact old id part inside
    · have missing : ¬ (state.groupTypes members).Holds id := by
        rw [holds_groupTypes_iff]
        exact not_or.mpr ⟨held, taken⟩
      rw [Types.get_of_not_holds missing] at inside
      cases inside

end State

namespace Check

theorem run_declareType (name : String) (span : Span) (state : State) :
    (declareType name span).run state =
      ⟨.ok ⟨state.types.size⟩,
        { state with types := state.types.extend [⟨.alias name none, some ⟨name, span⟩⟩] },
        []⟩ := by
  change (⟨.ok (state.types.declare name span).1,
    { state with types := (state.types.declare name span).2 }, []⟩ : Run TypeId) = _
  rw [Types.declare_eq]

theorem run_announceType (member : TypeDeclaration) (state : State) :
    (announceType member).run state =
      ⟨.ok ⟨state.types.size⟩,
        { state with
          types := state.types.extend [member.emptyCell]
          typeNames := state.typeNames.bind member.name.name (.type ⟨state.types.size⟩) },
        [.bound member.name.name .type state.typeNames.depth]⟩ := by
  rw [announceType, run_bind_of_ok (run_declareType _ _ state)]
  rfl

/-- The first pass. -/
theorem run_announceTypes (members : List TypeDeclaration) (state : State) :
    (members.mapM announceType).run state =
      ⟨.ok (groupIds state.types.size members),
        { state with
          types := state.types.extend (members.map (·.emptyCell))
          typeNames := state.groupNames members },
        members.map fun member => .bound member.name.name .type state.typeNames.depth⟩ := by
  induction members generalizing state with
  | nil => simp [State.groupNames]
  | cons member rest inductionHypothesis =>
      rw [List.mapM_cons, run_bind_of_ok (run_announceType member state),
        run_bind_of_ok (inductionHypothesis _), run_pure]
      simp [State.groupNames, Environment.bindAll_cons, Types.extend_extend]

/-- Definitions read names and not types, so what a member stands for does not
depend on the members before it. -/
theorem run_completeType (member : TypeDeclaration) (id : TypeId) (state : State) :
    (completeType member id).run state =
      ⟨.ok (), { state with
        types := state.types.define id (member.body.meaning state.typeNames member.name.name) },
        member.body.reports state.typeNames⟩ := by
  rw [completeType, run_bind_of_ok (run_interpretType member.body member.name.name state)]
  simp [defineType, update, run]

/-- The second pass, from the first member whose cell is still empty. -/
theorem run_completeTypes (members : List TypeDeclaration) (types : Types) (state : State)
    (empty : state.types = types.extend (members.map (·.emptyCell))) :
    ((members.zip (groupIds types.size members)).forM fun (member, id) =>
        completeType member id : Check Unit).run state =
      ⟨.ok (), { state with types := types.extend (members.map (·.cell state.typeNames)) },
        members.flatMap fun member => member.body.reports state.typeNames⟩ := by
  induction members generalizing types state with
  | nil =>
      have unchanged : state.types = types := by simpa using empty
      subst unchanged
      simp
  | cons member rest inductionHypothesis =>
      have filled : state.types.define ⟨types.size⟩
          (member.body.meaning state.typeNames member.name.name) =
          (types.extend [member.cell state.typeNames]).extend (rest.map (·.emptyCell)) := by
        rw [empty, List.map_cons, Types.define_extend]
        rfl
      have others := inductionHypothesis (types.extend [member.cell state.typeNames])
        { state with
          types := (state.types.define ⟨types.size⟩
            (member.body.meaning state.typeNames member.name.name)) } filled
      rw [Types.size_extend, Types.extend_extend] at others
      change (completeType member ⟨types.size⟩ >>= fun _ =>
        (rest.zip (groupIds (types.size + 1) rest)).forM fun (member, id) =>
          completeType member id : Check Unit).run _ = _
      rw [run_bind_of_ok (run_completeType member ⟨types.size⟩ state)]
      simp only [List.length_singleton] at others
      rw [others]
      rfl

theorem run_reportBroken (group : List TypeId) (member : TypeDeclaration) (id : TypeId)
    (state : State) :
    (reportBroken group member id).run state =
      ⟨.ok (), state, state.types.chainReports group member id⟩ := by
  change (match state.types.unalias id with
    | .ok _ => pure ()
    | .error error =>
      if error.stop ∈ group then report member.span (.aliasCycle member.name.name)
      else emit (.aliasBroken member.name.name error) : Check Unit).run state = _
  unfold Types.chainReports
  cases state.types.unalias id with
  | ok _ => rfl
  | error error =>
      by_cases inside : error.stop ∈ group
      · simp only [if_pos inside]
        rfl
      · simp only [if_neg inside]
        rfl

/-- The declaration of a group, all at once. -/
theorem run_makeTypes (members : List TypeDeclaration) (state : State) :
    (makeTypes members).run state =
      ⟨.ok (), { state with
        types := state.groupTypes members
        typeNames := state.groupNames members }, state.groupEvents members⟩ := by
  have completed := run_completeTypes members state.types
    { state with
      types := state.types.extend (members.map (·.emptyCell))
      typeNames := state.groupNames members } rfl
  have reported := run_forM
    (fun (entry : TypeDeclaration × TypeId) => run_reportBroken
      (groupIds state.types.size members) entry.1 entry.2
      { state with
        types := state.groupTypes members
        typeNames := state.groupNames members })
    (members.zip (groupIds state.types.size members))
  rw [makeTypes, run_bind_of_ok (show (emit _).run state = ⟨.ok (), state, [_]⟩ from rfl),
    run_bind_of_ok (run_announceTypes members state), run_bind_of_ok completed]
  simp only [State.groupTypes] at reported ⊢
  rw [reported]
  simp [State.groupEvents, State.groupTypes]

end Check
end StaticSemantics
