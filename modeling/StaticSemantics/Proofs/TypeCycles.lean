import StaticSemantics.Proofs.AliasCircle
import StaticSemantics.Proofs.WellFormed

namespace StaticSemantics

/-!
# Circles of aliases are reported exactly

A member of a group is reported if following its aliases stops at a member of
the same group.  What is proved here is that this test finds the right members:
those whose chain runs into a circle that is made of members of this group.  An
older type never refers to a newer one, so a circle lies within one group, and
a chain that leaves the group for an older circle never comes back.

The circles of the whole table are counted over a history.  Groups are declared
at definite moments, so the events tell which numbers belong together, and each
number on a circle has one report of its own.
-/

/-- The numbers of the groups that are declared in the course of some events,
where `size` numbers are taken before. -/
def groupsIn (size : Nat) : List Event → List (List TypeId)
  | [] => []
  | .typesGrouped names :: rest =>
    (List.range' size names.length).map TypeId.mk :: groupsIn (size + names.length) rest
  | _ :: rest => groupsIn size rest

/-- The diagnostics about circles of aliases among some events. -/
def cyclesIn (events : List Event) : List Diagnostic :=
  (diagnosticsOf events).filter (·.kind = .typeCycle)

/-- What is reported of a declaration whose chain of aliases breaks. -/
def TypeSite.cycleReport (site : TypeSite) : Diagnostic :=
  .ofProblem site.span (.aliasCycle site.name)

/-- The declaration that the number of a member remembers. -/
def TypeDeclaration.site (member : TypeDeclaration) : TypeSite :=
  ⟨member.name.name, member.span⟩

theorem groupsIn_append (size : Nat) (first second : List Event) :
    groupsIn size (first ++ second) =
      groupsIn size first ++ groupsIn (size + (groupsIn size first).flatten.length) second := by
  induction first generalizing size with
  | nil => simp [groupsIn]
  | cons event rest inductionHypothesis =>
      cases event with
      | typesGrouped names => simp [groupsIn, inductionHypothesis, Nat.add_assoc]
      | _ => simp [groupsIn, inductionHypothesis]

theorem groupsIn_eq_nil {size : Nat} {events : List Event}
    (ungrouped : ∀ event ∈ events, ∀ names, event ≠ .typesGrouped names) :
    groupsIn size events = [] := by
  induction events with
  | nil => rfl
  | cons event rest inductionHypothesis =>
      have others := inductionHypothesis fun event member =>
        ungrouped event (List.mem_cons_of_mem _ member)
      cases event with
      | typesGrouped names => exact absurd rfl (ungrouped _ List.mem_cons_self names)
      | _ => exact others

theorem cyclesIn_append (first second : List Event) :
    cyclesIn (first ++ second) = cyclesIn first ++ cyclesIn second := by
  simp [cyclesIn, diagnosticsOf_append]

/-- Ordinary events declare no types and speak of no circle. -/
theorem groupsIn_eq_nil_of_ordinary {size : Nat} {events : List Event}
    (ordinary : ∀ event ∈ events, event.IsOrdinary) : groupsIn size events = [] := by
  refine groupsIn_eq_nil fun event member names same => ?_
  have impossible := ordinary event member
  rw [same] at impossible
  exact impossible

theorem cyclesIn_eq_nil_of_ordinary {events : List Event}
    (ordinary : ∀ event ∈ events, event.IsOrdinary) : cyclesIn events = [] := by
  refine List.filter_eq_nil_iff.mpr fun diagnostic member => ?_
  rcases List.mem_filterMap.mp member with ⟨event, happened, said⟩
  have kind := ordinary event happened
  cases event with
  | reported span problem =>
      cases said
      cases problem with
      | aliasCycle name => exact kind.elim
      | _ => simp [Diagnostic.ofProblem, Problem.kind]
  | _ => cases said

namespace Types

/-- The chain from `id` runs into a circle that is made of members of a group. -/
def BreaksWithin (types : Types) (group : List TypeId) (id : TypeId) : Prop :=
  (∃ stop, types.RunsInto id stop) ∧ ∀ stop, types.RunsInto id stop → stop ∈ group

/-- Whether following aliases from a number stops at a member of a group. -/
def stopsWithin (types : Types) (group : List TypeId) (id : TypeId) : Bool :=
  match types.unalias id with
  | .ok _ => false
  | .error error => decide (error.stop ∈ group)

/-- Where no target is missing, a walk that stops is on a circle. -/
theorem WellFormed.runsInto_stop {types : Types} (wellFormed : types.WellFormed) {id : TypeId}
    {error : AliasError} (stops : types.unalias id = .error error) :
    types.RunsInto id error.stop := by
  cases error with
  | cycle name stop => exact runsInto_of_unalias stops
  | unresolved name stop => exact absurd stops (wellFormed.unalias_ne_unresolved id name stop)

/-- A chain that never arrives runs into a circle. -/
theorem WellFormed.exists_runsInto {types : Types} (wellFormed : types.WellFormed) {id : TypeId}
    (never : types.NeverArrives id) : ∃ stop, types.RunsInto id stop := by
  rcases neverArrives_iff.mp never with ⟨error, stops⟩
  exact ⟨error.stop, wellFormed.runsInto_stop stops⟩

/-- Following a chain begins no group. -/
theorem typesGrouped_notMem_chainReports {types : Types} {group : List TypeId}
    {member : TypeDeclaration} {id : TypeId} {names : List String} :
    .typesGrouped names ∉ types.chainReports group member id := by
  unfold chainReports
  cases types.unalias id with
  | ok _ => exact List.not_mem_nil
  | error error => by_cases inside : error.stop ∈ group <;> simp [inside]

theorem diagnosticsOf_chainReports (types : Types) (group : List TypeId)
    (member : TypeDeclaration) (id : TypeId) :
    diagnosticsOf (types.chainReports group member id) =
      if types.stopsWithin group id then [member.site.cycleReport] else [] := by
  unfold chainReports stopsWithin
  cases types.unalias id with
  | ok _ => rfl
  | error error => by_cases inside : error.stop ∈ group <;> simp only [inside] <;> rfl

end Types

/-!
## One group
-/

namespace State

variable {state : State} {members : List TypeDeclaration}

/-- The members of a group that are reported, with their numbers. -/
def circularMembers (state : State) (members : List TypeDeclaration) :
    List (TypeDeclaration × TypeId) :=
  (members.zip (groupIds state.types.size members)).filter fun entry =>
    (state.groupTypes members).stopsWithin (groupIds state.types.size members) entry.2

/-- A chain that starts at an older type stays among the older types. -/
theorem chain_groupTypes (wellFormed : state.types.WellFormed) {steps : Nat} {id last : TypeId}
    (held : state.types.Holds id) (chain : (state.groupTypes members).Chain steps id last) :
    state.types.Chain steps id last ∧ state.types.Holds last := by
  induction chain with
  | here id => exact ⟨.here id, held⟩
  | @step name id next last steps target rest inductionHypothesis =>
      rw [get_groupTypes held] at target
      have part : next ∈ (state.types.get id).parts := by
        rw [target]
        exact List.mem_singleton_self next
      rcases inductionHypothesis (wellFormed.parts id next part) with ⟨chain, heldLast⟩
      exact ⟨.step target chain, heldLast⟩

theorem onCircle_groupTypes (wellFormed : state.types.WellFormed) {id : TypeId}
    (held : state.types.Holds id) (circle : (state.groupTypes members).OnCircle id) :
    state.types.OnCircle id := by
  rcases circle with ⟨steps, chain⟩
  exact ⟨steps, (chain_groupTypes wellFormed held chain).1⟩

theorem runsInto_groupTypes (wellFormed : state.types.WellFormed) {id stop : TypeId}
    (held : state.types.Holds id) (runs : (state.groupTypes members).RunsInto id stop) :
    state.types.RunsInto id stop := by
  rcases runs with ⟨⟨steps, chain⟩, circle⟩
  have old := chain_groupTypes wellFormed held chain
  exact ⟨⟨steps, old.1⟩, onCircle_groupTypes wellFormed old.2 circle⟩

theorem neverArrives_groupTypes (wellFormed : state.types.WellFormed) {id : TypeId}
    (held : state.types.Holds id) (never : state.types.NeverArrives id) :
    (state.groupTypes members).NeverArrives id := by
  intro steps last chain
  have old := chain_groupTypes wellFormed held chain
  have aliased := never steps last old.1
  have same : (state.groupTypes members).get last = state.types.get last := get_groupTypes old.2
  rwa [Types.isAlias, ← same] at aliased

/-- A circle that a new type runs into and that has one new member has new
members only: from an older one it would lead back to an older one. -/
theorem mem_groupIds_of_runsInto (wellFormed : state.types.WellFormed) {id stop other : TypeId}
    (runs : (state.groupTypes members).RunsInto id stop)
    (new : stop ∈ groupIds state.types.size members)
    (runsOn : (state.groupTypes members).RunsInto id other) :
    other ∈ groupIds state.types.size members := by
  have held := Types.holds_of_isAlias runsOn.2.isAlias
  rcases holds_groupTypes_iff.mp held with old | new'
  · rcases runsOn.chain runs with ⟨steps, chain⟩
    have older : stop.number < state.types.size := (chain_groupTypes wellFormed old chain).2
    have newer := (mem_groupIds.mp new).1
    omega
  · exact new'

/-- A number on a circle is an old one, on an old circle, or that of a member,
whose circle is made of members. -/
theorem old_or_new_of_onCircle (wellFormed : state.types.WellFormed) {id : TypeId}
    (circle : (state.groupTypes members).OnCircle id) :
    state.types.OnCircle id ∧ state.types.Holds id ∨
      id ∈ groupIds state.types.size members ∧
        (state.groupTypes members).BreaksWithin (groupIds state.types.size members) id := by
  rcases holds_groupTypes_iff.mp (Types.holds_of_isAlias circle.isAlias) with old | new
  · exact .inl ⟨onCircle_groupTypes wellFormed old circle, old⟩
  · exact .inr ⟨new, ⟨id, circle.runsInto⟩,
      fun stop => mem_groupIds_of_runsInto wellFormed circle.runsInto new⟩

/-- The test that a check makes, in terms of chains. -/
theorem stopsWithin_iff (wellFormed : state.types.WellFormed)
    (after : (state.groupTypes members).WellFormed) {id : TypeId} :
    (state.groupTypes members).stopsWithin (groupIds state.types.size members) id = true ↔
      (state.groupTypes members).NeverArrives id ∧
        (state.groupTypes members).BreaksWithin (groupIds state.types.size members) id := by
  unfold Types.stopsWithin
  cases walk : (state.groupTypes members).unalias id with
  | ok concrete =>
      refine ⟨nofun, fun broken => ?_⟩
      rcases Types.neverArrives_iff.mp broken.1 with ⟨error, stops⟩
      rw [walk] at stops
      cases stops
  | error error =>
      have runs := after.runsInto_stop walk
      rw [decide_eq_true_eq]
      constructor
      · intro inside
        exact ⟨runs.neverArrives, ⟨error.stop, runs⟩,
          fun other runsOn => mem_groupIds_of_runsInto wellFormed runs inside runsOn⟩
      · intro broken
        exact broken.2.2 error.stop runs

/-- What a group reports of circles, member by member. -/
theorem diagnosticsOf_chains (types : Types) (group : List TypeId)
    (entries : List (TypeDeclaration × TypeId)) :
    diagnosticsOf (entries.flatMap fun (member, id) => types.chainReports group member id) =
      (entries.filter fun entry => types.stopsWithin group entry.2).map
        fun entry => entry.1.site.cycleReport := by
  induction entries with
  | nil => rfl
  | cons entry rest inductionHypothesis =>
      rw [List.flatMap_cons, diagnosticsOf_append, inductionHypothesis,
        Types.diagnosticsOf_chainReports]
      cases stops : types.stopsWithin group entry.2 <;> simp [stops]

/-- The part of a group's events that comes before the chains are followed. -/
theorem diagnosticsOf_groupEvents (state : State) (members : List TypeDeclaration) :
    diagnosticsOf (state.groupEvents members) =
      diagnosticsOf (members.flatMap fun member => member.body.reports (state.groupNames members)) ++
      (state.circularMembers members).map fun entry => entry.1.site.cycleReport := by
  have bound : diagnosticsOf (members.map fun member =>
      .bound member.name.name .type state.typeNames.depth) = [] := by
    simp [diagnosticsOf, List.filterMap_map, Event.diagnostic?, Event.problem?]
  rw [groupEvents, diagnosticsOf_append, diagnosticsOf_append, ← List.singleton_append,
    diagnosticsOf_append, bound, diagnosticsOf_chains]
  rfl

/-- A group begins once. -/
theorem groupEvents_eq_cons (state : State) (members : List TypeDeclaration) :
    ∃ rest, state.groupEvents members = .typesGrouped (members.map (·.name.name)) :: rest ∧
      ∀ event ∈ rest, ∀ names, event ≠ .typesGrouped names := by
  rw [groupEvents, List.cons_append, List.cons_append]
  refine ⟨_, rfl, fun event member names => ?_⟩
  rw [List.mem_append, List.mem_append] at member
  rcases member with (bound | reported) | chain
  · rcases List.mem_map.mp bound with ⟨declaration, _, rfl⟩
    exact Event.noConfusion
  · rcases List.mem_flatMap.mp reported with ⟨declaration, _, inside⟩
    rintro rfl
    exact isOrdinary_of_mem_reports inside
  · rcases List.mem_flatMap.mp chain with ⟨⟨declaration, id⟩, _, said⟩
    rintro rfl
    exact Types.typesGrouped_notMem_chainReports said

/-- A group is one group. -/
theorem groupsIn_groupEvents (state : State) (members : List TypeDeclaration) :
    groupsIn state.types.size (state.groupEvents members) =
      [groupIds state.types.size members] := by
  rcases groupEvents_eq_cons state members with ⟨rest, events, ungrouped⟩
  rw [events, groupsIn, groupsIn_eq_nil ungrouped, groupIds, List.length_map]

theorem cyclesIn_groupEvents (state : State) (members : List TypeDeclaration) :
    cyclesIn (state.groupEvents members) =
      (state.circularMembers members).map fun entry => entry.1.site.cycleReport := by
  have reports : cyclesIn
      (members.flatMap fun member => member.body.reports (state.groupNames members)) = [] := by
    refine cyclesIn_eq_nil_of_ordinary fun event happened => ?_
    rcases List.mem_flatMap.mp happened with ⟨member, _, inside⟩
    exact isOrdinary_of_mem_reports inside
  unfold cyclesIn at reports ⊢
  rw [diagnosticsOf_groupEvents, List.filter_append, reports, List.nil_append,
    List.filter_eq_self]
  intro diagnostic member
  rcases List.mem_map.mp member with ⟨entry, _, rfl⟩
  rfl

theorem map_snd_zip_groupIds (size : Nat) (members : List TypeDeclaration) :
    (members.zip (groupIds size members)).map Prod.snd = groupIds size members :=
  List.map_snd_zip (by simp [groupIds])

theorem pairwise_groupIds (size : Nat) (members : List TypeDeclaration) :
    (groupIds size members).Pairwise (·.number < ·.number) :=
  List.pairwise_map.mpr List.pairwise_lt_range'

/-- The numbers of the members that are reported. -/
def circularIds (state : State) (members : List TypeDeclaration) : List TypeId :=
  (state.circularMembers members).map Prod.snd

theorem circularIds_sublist (state : State) (members : List TypeDeclaration) :
    (state.circularIds members).Sublist (groupIds state.types.size members) := by
  rw [← map_snd_zip_groupIds]
  exact List.filter_sublist.map Prod.snd

theorem mem_circularIds (wellFormed : state.types.WellFormed)
    (after : (state.groupTypes members).WellFormed) {id : TypeId} :
    id ∈ state.circularIds members ↔ id ∈ groupIds state.types.size members ∧
      (state.groupTypes members).NeverArrives id ∧
        (state.groupTypes members).BreaksWithin (groupIds state.types.size members) id := by
  rw [← stopsWithin_iff wellFormed after]
  constructor
  · intro circular
    have new := (circularIds_sublist state members).subset circular
    rcases List.mem_map.mp circular with ⟨entry, reported, rfl⟩
    exact ⟨new, (List.mem_filter.mp reported).2⟩
  · rintro ⟨new, stops⟩
    rcases exists_of_mem_groupIds new with ⟨member, listed, _⟩
    exact List.mem_map.mpr ⟨(member, id), List.mem_filter.mpr ⟨listed, stops⟩, rfl⟩

/-- The reports of a group, from what the table remembers of the numbers. -/
theorem cyclesIn_groupEvents_sites (state : State) (members : List TypeDeclaration) :
    (cyclesIn (state.groupEvents members)).map some = (state.circularIds members).map
      fun id => ((state.groupTypes members).site? id).map TypeSite.cycleReport := by
  rw [cyclesIn_groupEvents, circularIds, List.map_map, List.map_map]
  refine List.map_congr_left fun entry circular => ?_
  have site := (of_mem_zip (List.mem_filter.mp circular).1).2
  simp only [Function.comp_apply, site]
  rfl

end State

/-!
## Names that stand for nothing
-/

/-- Where only types are bound, a name that stands for no type is not bound. -/
theorem Environment.Fits.lookUpType_eq {allowed : TypeId → Prop} {env : Environment}
    (fits : env.Fits (· = .type) allowed) (name : String) :
    (∃ id, env.newest? name = some (.type id) ∧ env.lookUpType name = .ok id) ∨
      env.newest? name = none ∧ env.lookUpType name = .error (.notFound name) := by
  unfold lookUpType
  cases found : env.newest? name with
  | none => exact .inr ⟨rfl, rfl⟩
  | some entry =>
      have kind := (fits.newest? found).1
      cases entry with
      | type id => exact .inl ⟨id, rfl, rfl⟩
      | _ => cases kind

/-- What is reported of the use of a name that stands for nothing. -/
def Ident.unknownType (name : Ident) : Diagnostic :=
  .ofProblem name.span (.undefined "type" name.name)

theorem Environment.Fits.diagnosticsOf_typeReports {allowed : TypeId → Prop} {env : Environment}
    (fits : env.Fits (· = .type) allowed) (name : Ident) :
    diagnosticsOf (env.typeReports name) =
      if (env.typeOf? name.name).isNone then [name.unknownType] else [] := by
  unfold Environment.typeReports Environment.typeOf?
  rcases fits.lookUpType_eq name.name with ⟨id, _, stands⟩ | ⟨_, unknown⟩
  · rw [stands]
    rfl
  · rw [unknown]
    rfl

/-- Every use of a name that stands for nothing is reported once, in order. -/
theorem Environment.Fits.diagnosticsOf_reports {allowed : TypeId → Prop} {env : Environment}
    (fits : env.Fits (· = .type) allowed) (names : List Ident) :
    diagnosticsOf (names.flatMap env.typeReports) =
      (names.filter fun name => (env.typeOf? name.name).isNone).map Ident.unknownType := by
  induction names with
  | nil => rfl
  | cons name rest inductionHypothesis =>
      rw [List.flatMap_cons, diagnosticsOf_append, inductionHypothesis,
        fits.diagnosticsOf_typeReports]
      cases unknown : (env.typeOf? name.name).isNone <;> simp [unknown]

/-- Nothing else is reported of a right-hand side. -/
theorem TypeExpression.mem_diagnosticsOf_reports {env : Environment} {allowed : TypeId → Prop}
    (fits : env.Fits (· = .type) allowed) {body : TypeExpression} {diagnostic : Diagnostic}
    (said : diagnostic ∈ diagnosticsOf (body.reports env)) :
    ∃ name ∈ body.used, diagnostic = .ofProblem name.span (.undefined "type" name.name) := by
  rw [reports, fits.diagnosticsOf_reports] at said
  rcases List.mem_map.mp said with ⟨name, unknown, rfl⟩
  exact ⟨name, (List.mem_filter.mp unknown).1, rfl⟩

/-!
## All groups of a history
-/

/-- What has been declared and reported so far.  The numbers in the list are
those of the reports, in order. -/
structure CyclesReported (types : Types) (past : List Event) : Prop where
  size : types.size = Types.basic.size + (groupsIn Types.basic.size past).flatten.length
  together : ∀ id, types.OnCircle id →
    ∃ group ∈ groupsIn Types.basic.size past, types.BreaksWithin group id
  reported : ∃ ids : List TypeId, ids.Pairwise (·.number < ·.number) ∧
    (cyclesIn past).map some = ids.map (fun id => (types.site? id).map TypeSite.cycleReport) ∧
    (∀ id ∈ ids, types.NeverArrives id) ∧ ∀ id, types.OnCircle id → id ∈ ids

/-- No built-in type is an alias. -/
theorem Types.isAlias_basic (id : TypeId) : Types.basic.isAlias id = false := by
  obtain ⟨number⟩ := id
  match number with
  | 0 | 1 | 2 | 3 | 4 => rfl
  | number + 5 =>
      rw [isAlias, get_of_not_holds (by simp [Types.Holds])]

theorem Types.not_onCircle_basic (id : TypeId) : ¬ Types.basic.OnCircle id := by
  intro circle
  have aliased := circle.isAlias
  rw [isAlias_basic] at aliased
  cases aliased

namespace CyclesReported

variable {state : State} {past : List Event} {members : List TypeDeclaration}

theorem basic : CyclesReported .basic [] where
  size := rfl
  together := fun id circle => absurd circle (Types.not_onCircle_basic id)
  reported := ⟨[], .nil, rfl, nofun, fun id circle => absurd circle (Types.not_onCircle_basic id)⟩

theorem append {types : Types} {events : List Event} (reported : CyclesReported types past)
    (ordinary : ∀ event ∈ events, event.IsOrdinary) : CyclesReported types (past ++ events) := by
  have groups : groupsIn Types.basic.size (past ++ events) = groupsIn Types.basic.size past := by
    rw [groupsIn_append, groupsIn_eq_nil_of_ordinary ordinary, List.append_nil]
  have cycles : cyclesIn (past ++ events) = cyclesIn past := by
    rw [cyclesIn_append, cyclesIn_eq_nil_of_ordinary ordinary, List.append_nil]
  rcases reported with ⟨size, together, reported⟩
  refine ⟨?_, ?_, ?_⟩
  · rwa [groups]
  · rwa [groups]
  · rwa [cycles]

/-- The numbers that were reported stay reported, and those of the group follow
them. -/
theorem listed_group (wellFormed : state.types.WellFormed)
    (after : (state.groupTypes members).WellFormed) {ids : List TypeId}
    (ordered : ids.Pairwise (·.number < ·.number))
    (reports : (cyclesIn past).map some =
      ids.map fun id => (state.types.site? id).map TypeSite.cycleReport)
    (held : ∀ id ∈ ids, state.types.Holds id) :
    (ids ++ state.circularIds members).Pairwise (·.number < ·.number) ∧
    (cyclesIn (past ++ state.groupEvents members)).map some =
      (ids ++ state.circularIds members).map
        fun id => ((state.groupTypes members).site? id).map TypeSite.cycleReport := by
  constructor
  · refine List.pairwise_append.mpr ⟨ordered, (State.pairwise_groupIds _ _).sublist
      (state.circularIds_sublist members), fun old oldListed new newListed => ?_⟩
    have before : old.number < state.types.size := held old oldListed
    have behind := (mem_groupIds.mp ((State.mem_circularIds wellFormed after).mp newListed).1).1
    omega
  · have kept : ∀ id ∈ ids, (state.types.site? id).map TypeSite.cycleReport =
        ((state.groupTypes members).site? id).map TypeSite.cycleReport := by
      intro id listed
      rw [State.groupTypes, Types.site?_extend (held id listed)]
    rw [cyclesIn_append, List.map_append, List.map_append, reports,
      State.cyclesIn_groupEvents_sites, List.map_congr_left kept]

/-- A group reports its own circles, and leaves the older ones as they are. -/
theorem group (reported : CyclesReported state.types past) (wellFormed : state.types.WellFormed)
    (after : (state.groupTypes members).WellFormed) :
    CyclesReported (state.groupTypes members) (past ++ state.groupEvents members) := by
  have groups : groupsIn Types.basic.size (past ++ state.groupEvents members) =
      groupsIn Types.basic.size past ++ [groupIds state.types.size members] := by
    rw [groupsIn_append, ← reported.size, State.groupsIn_groupEvents]
  refine ⟨?_, fun id circle => ?_, ?_⟩
  · rw [State.size_groupTypes, groups, reported.size]
    simp [groupIds, Nat.add_assoc]
  · rw [groups]
    rcases State.old_or_new_of_onCircle wellFormed circle with ⟨oldCircle, old⟩ | ⟨new, breaks⟩
    · rcases reported.together id oldCircle with ⟨group, listed, breaks⟩
      refine ⟨group, List.mem_append_left _ listed, ⟨id, circle.runsInto⟩, fun stop runs => ?_⟩
      exact breaks.2 stop (State.runsInto_groupTypes wellFormed old runs)
    · exact ⟨_, List.mem_append_right _ (List.mem_singleton_self _), breaks⟩
  · rcases reported.reported with ⟨ids, ordered, reports, broken, complete⟩
    have held : ∀ id ∈ ids, state.types.Holds id :=
      fun id listed => Types.holds_of_isAlias (broken id listed 0 id (.here id))
    have listed := listed_group wellFormed after ordered reports held
    -- A circle that is older than the group was listed when it was declared.
    refine ⟨ids ++ state.circularIds members, listed.1, listed.2, fun id listed => ?_,
      fun id circle => ?_⟩
    · rcases List.mem_append.mp listed with old | new
      · exact State.neverArrives_groupTypes wellFormed (held id old) (broken id old)
      · exact ((State.mem_circularIds wellFormed after).mp new).2.1
    · rcases State.old_or_new_of_onCircle wellFormed circle with ⟨oldCircle, _⟩ | ⟨new, breaks⟩
      · exact List.mem_append_left _ (complete id oldCircle)
      · exact List.mem_append_right _ ((State.mem_circularIds wellFormed after).mpr
          ⟨new, circle.runsInto.neverArrives, breaks⟩)

end CyclesReported

namespace Discipline

/-- All circles have been reported, each of their members once. -/
def cycles : Discipline where
  Sound types past := wellFormed.Sound types past ∧ CyclesReported types past
  Named := wellFormed.Named
  Value := wellFormed.Value

theorem cycles_lawful : cycles.Lawful where
  value_of_named := id
  named_int := fun sound => wellFormed_lawful.named_int sound.1
  named_string := fun sound => wellFormed_lawful.named_string sound.1
  named_void := fun sound => wellFormed_lawful.named_void sound.1
  value_nil := fun sound => wellFormed_lawful.value_nil sound.1
  named_error := fun sound => wellFormed_lawful.named_error sound.1
  sound_append := fun sound ordinary =>
    ⟨wellFormed_lawful.sound_append sound.1 ordinary, sound.2.append ordinary⟩
  named_append := id
  value_append := id
  representative := fun sound => wellFormed_lawful.representative sound.1
  parts := fun sound => wellFormed_lawful.parts sound.1
  unknown := fun sound => wellFormed_lawful.unknown sound.1
  storable := fun sound => wellFormed_lawful.storable sound.1
  group := by
    intro history members holds
    have kept : wellFormed.Holds history := ⟨holds.sound.1, holds.typeNames, holds.valueNames⟩
    rcases wellFormed_lawful.group members kept with ⟨sound, later, new⟩
    refine ⟨⟨sound, ?_⟩, ⟨later.named, later.value⟩, new⟩
    rw [Check.run_makeTypes] at sound ⊢
    exact holds.sound.2.group holds.sound.1.1 sound.1

end Discipline

/-- The groups of a history divide the declared numbers among them. -/
theorem flatten_groupsIn (size : Nat) (events : List Event) :
    (groupsIn size events).flatten =
      (List.range' size (groupsIn size events).flatten.length).map TypeId.mk := by
  induction events generalizing size with
  | nil => rfl
  | cons event rest inductionHypothesis =>
      cases event with
      | typesGrouped names =>
          rw [groupsIn, List.flatten_cons, inductionHypothesis]
          simp [← List.map_append]
      | _ => exact inductionHypothesis size

/-- In every history a group of types reports a member as part of a circle
exactly if the chain of the member breaks and runs into a circle of members of
this group; the reports come in the order of the members, each once, after all
reports of unknown names.  No circle has members of two groups.  In all that
has happened, the reports of circles belong to different numbers, one to each,
and every member of every circle that a chain runs into is among them. -/
theorem History.cycles_reported_exactly (outermost : Frame) (requests : List Request) :
    let history := ofRequests outermost requests
    let state := history.state
    (∀ members : List TypeDeclaration,
      let run := (Check.makeTypes members).run state
      let entries := members.zip (groupIds state.types.size members)
      (∀ entry ∈ entries, run.state.types.site? entry.2 = some entry.1.site) ∧
      ∃ (unknown : List Diagnostic) (reported : List (TypeDeclaration × TypeId)),
        diagnosticsOf run.events =
          unknown ++ reported.map (fun entry => entry.1.site.cycleReport) ∧
        (∀ diagnostic ∈ unknown, ∃ name ∈ members.flatMap (·.body.used),
          diagnostic = .ofProblem name.span (.undefined "type" name.name)) ∧
        reported.Sublist entries ∧
        ∀ entry ∈ entries, entry ∈ reported ↔
          run.state.types.NeverArrives entry.2 ∧
            run.state.types.BreaksWithin (groupIds state.types.size members) entry.2) ∧
    (groupsIn Types.basic.size history.past).flatten =
      (List.range' Types.basic.size (state.types.size - Types.basic.size)).map TypeId.mk ∧
    (∀ id, state.types.OnCircle id → ∃ group ∈ groupsIn Types.basic.size history.past,
      ∀ other, state.types.RunsInto id other → other ∈ group) ∧
    ∃ ids : List TypeId, ids.Pairwise (·.number < ·.number) ∧
      (cyclesIn history.past).map some =
        ids.map (fun id => (state.types.site? id).map TypeSite.cycleReport) ∧
      (∀ id ∈ ids, state.types.NeverArrives id) ∧
      ∀ id, state.types.NeverArrives id →
        (∃ stop, state.types.RunsInto id stop) ∧
          ∀ stop, state.types.RunsInto id stop → stop ∈ ids := by
  intro history state
  have holds : Discipline.cycles.Holds history :=
    Discipline.holds_ofRequests Discipline.cycles_lawful ⟨⟨.basic, nofun⟩, .basic⟩
      outermost requests
  have wellFormed : state.types.WellFormed := holds.sound.1.1
  have reported := holds.sound.2
  refine ⟨fun members => ?_, ?_, fun id circle => ?_, ?_⟩
  · intro run entries
    have after := wellFormed.groupTypes members holds.typeNames
    have names : (state.groupNames members).Fits (· = .type) (state.groupTypes members).Holds :=
      (holds.typeNames.mono fun id held => State.holds_groupTypes_iff.mpr (.inl held)).groupNames
        fun id new => State.holds_groupTypes_iff.mpr (.inr new)
    have ran : run = _ := Check.run_makeTypes members state
    rw [ran]
    refine ⟨fun entry listed => (State.of_mem_zip listed).2, _, state.circularMembers members,
      state.diagnosticsOf_groupEvents members, fun diagnostic said => ?_, List.filter_sublist,
      fun entry listed => ?_⟩
    · rcases List.mem_filterMap.mp said with ⟨event, happened, words⟩
      rcases List.mem_flatMap.mp happened with ⟨member, inGroup, inside⟩
      rcases TypeExpression.mem_diagnosticsOf_reports names
        (List.mem_filterMap.mpr ⟨event, inside, words⟩) with ⟨name, used, same⟩
      exact ⟨name, List.mem_flatMap.mpr ⟨member, inGroup, used⟩, same⟩
    · rw [← State.stopsWithin_iff wellFormed after, State.circularMembers, List.mem_filter]
      exact and_iff_right listed
  · rw [flatten_groupsIn]
    congr 2
    exact (Nat.sub_eq_of_eq_add' reported.size).symm
  · rcases reported.together id circle with ⟨group, listed, breaks⟩
    exact ⟨group, listed, breaks.2⟩
  · rcases reported.reported with ⟨ids, ordered, reports, broken, complete⟩
    refine ⟨ids, ordered, reports, broken, fun id never => ?_⟩
    exact ⟨wellFormed.exists_runsInto never, fun stop runs => complete stop runs.2⟩

/-- Two names for each other. -/
def Request.crossedAliases : Request :=
  let here : Span := ⟨1, 1, 1, 1⟩
  .declaration (.types [⟨⟨"a", here⟩, .name ⟨"b", here⟩ here, here⟩,
    ⟨⟨"b", here⟩, .name ⟨"a", here⟩ here, here⟩] here)

/-- A third name, for one of them. -/
def TypeDeclaration.lateAlias : TypeDeclaration :=
  let here : Span := ⟨1, 1, 1, 1⟩
  ⟨⟨"c", here⟩, .name ⟨"a", here⟩ here, here⟩

/-- The circle is made of the two members of one group, and both are reported.
The chain of a later alias breaks too, but not within its own group, and nothing
is reported of it. -/
theorem History.cycles_reported_exactly_crossedAliases :
    (cyclesIn (ofRequests outermostFrame [Request.crossedAliases]).past).length = 2 ∧
    (ofRequests outermostFrame [Request.crossedAliases]).state.types.OnCircle ⟨5⟩ ∧
    (∀ other, (ofRequests outermostFrame [Request.crossedAliases]).state.types.RunsInto ⟨5⟩ other →
      other ∈ [TypeId.mk 5, ⟨6⟩]) ∧
    diagnosticsOf ((Check.makeTypes [TypeDeclaration.lateAlias]).run
      (ofRequests outermostFrame [Request.crossedAliases]).state).events = [] ∧
    ((Check.makeTypes [TypeDeclaration.lateAlias]).run
      (ofRequests outermostFrame [Request.crossedAliases]).state).state.types.NeverArrives ⟨7⟩ ∧
    ¬ ((Check.makeTypes [TypeDeclaration.lateAlias]).run
      (ofRequests outermostFrame [Request.crossedAliases]).state).state.types.BreaksWithin
        (groupIds 7 [TypeDeclaration.lateAlias]) ⟨7⟩ := by
  rcases cycles_reported_exactly outermostFrame [Request.crossedAliases] with
    ⟨groups, _, together, _⟩
  rcases groups [TypeDeclaration.lateAlias] with
    ⟨_, unknown, reported, diagnostics, _, _, exactly⟩
  have circle : (ofRequests outermostFrame [Request.crossedAliases]).state.types.OnCircle ⟨5⟩ :=
    ⟨1, .step rfl (.step rfl (.here _))⟩
  have silent : diagnosticsOf ((Check.makeTypes [TypeDeclaration.lateAlias]).run
      (ofRequests outermostFrame [Request.crossedAliases]).state).events = [] := by decide
  have never : ((Check.makeTypes [TypeDeclaration.lateAlias]).run
      (ofRequests outermostFrame [Request.crossedAliases]).state).state.types.NeverArrives ⟨7⟩ :=
    Types.neverArrives_iff.mpr ⟨_, rfl⟩
  refine ⟨by decide, circle, fun other runs => ?_, silent, never, fun breaks => ?_⟩
  · rcases together ⟨5⟩ circle with ⟨group, listed, inside⟩
    cases List.mem_singleton.mp listed
    exact inside other runs
  · have member := (exactly (TypeDeclaration.lateAlias, ⟨7⟩) List.mem_cons_self).mpr
      ⟨never, breaks⟩
    rw [silent] at diagnostics
    have none := List.map_eq_nil_iff.mp (List.append_eq_nil_iff.mp diagnostics.symm).2
    rw [none] at member
    cases member

end StaticSemantics
