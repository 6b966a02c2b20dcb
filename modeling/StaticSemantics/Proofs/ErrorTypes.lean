import StaticSemantics.Proofs.WellFormed

namespace StaticSemantics

/-!
# No error type without a report

The error type agrees with everything, so where it comes up it silences the
checks that follow.  That is no loss if something has been reported already.
Many rules answer with the error type and report nothing, because they got it
from an earlier rule.  Here all of them are traced back to a report.

A chain of aliases that is broken outside its own group is the case that needs
an argument.  Such a chain runs into an alias of an older group, and there it
was reported.
-/

/-- Nothing is reported. -/
def Quiet (events : List Event) : Prop :=
  diagnosticsOf events = []

namespace Quiet

variable {events : List Event}

theorem iff_forall : Quiet events ↔ ∀ event ∈ events, event.diagnostic? = none :=
  List.filterMap_eq_nil_iff

theorem append_iff {further : List Event} :
    Quiet (events ++ further) ↔ Quiet events ∧ Quiet further := by
  unfold Quiet
  rw [diagnosticsOf_append, List.append_eq_nil_iff]

theorem not_reported (quiet : Quiet events) (span : Span) (problem : Problem) :
    .reported span problem ∉ events := by
  intro member
  have silent := iff_forall.mp quiet _ member
  cases silent

end Quiet

/-- The use of a name as a type is reported exactly if it stands for none. -/
theorem Environment.quiet_typeReports_iff {env : Environment} {name : Ident} :
    Quiet (env.typeReports name) ↔ ∃ id, env.typeOf? name.name = some id := by
  rw [← typeReports_eq_nil_iff]
  constructor
  · intro quiet
    unfold typeReports at quiet ⊢
    split
    · rfl
    · rename_i error unknown
      rw [unknown] at quiet
      exact absurd (List.mem_singleton_self _) (quiet.not_reported name.span (error.problem "type"))
  · intro silent
    rw [silent]
    rfl

namespace Types

/-- A table in which every type stands for one that is known, and that mentions
the error type nowhere.  Only the number of the error type itself stands apart. -/
structure ErrorFree (types : Types) : Prop where
  standsFor : ∀ id, types.Holds id → id ≠ .error → ∃ concrete, types.StandsFor id concrete
  parts : ∀ id, ∀ part ∈ (types.get id).parts, part ≠ .error

theorem ErrorFree.basic : Types.basic.ErrorFree where
  standsFor := by
    rintro ⟨number⟩ held known
    match number with
    | 0 | 1 | 2 | 3 => exact ⟨_, .self nofun rfl⟩
    | 4 => exact absurd rfl known
    | number + 5 =>
        have bound : number + 5 < 5 := held
        omega
  parts := by
    intro id part member
    simp [parts_basic] at member

theorem ErrorFree.isError_eq {types : Types} (errorFree : types.ErrorFree) {id : TypeId}
    (held : types.Holds id) (known : id ≠ .error) : types.isError id = false := by
  rcases errorFree.standsFor id held known with ⟨concrete, stands⟩
  exact stands.isError_eq

theorem ErrorFree.representative_ne {types : Types} (errorFree : types.ErrorFree)
    (wellFormed : types.WellFormed) {id : TypeId} (held : types.Holds id) (known : id ≠ .error) :
    types.representative id ≠ .error := by
  intro same
  rcases errorFree.standsFor id held known with ⟨concrete, stands⟩
  have proper := stands.get_ne_error
  rw [← stands.representative_eq, same, wellFormed.get_of_lt (by decide)] at proper
  exact proper rfl

end Types

/-!
## Groups of types
-/

section Group

variable {state : State} {members : List TypeDeclaration}

/-- Where nothing is reported, all names are known that a group uses. -/
theorem Quiet.exists_typeOf? (quiet : Quiet (state.groupEvents members))
    {member : TypeDeclaration} (listed : member ∈ members) {name : Ident}
    (used : name ∈ member.body.used) :
    ∃ id, (state.groupNames members).typeOf? name.name = some id := by
  rw [← Environment.quiet_typeReports_iff, iff_forall]
  intro event said
  have inside : event ∈ member.body.reports (state.groupNames members) :=
    List.mem_flatMap.mpr ⟨name, used, said⟩
  have happened : event ∈ state.groupEvents members :=
    List.mem_append_left _ (List.mem_append_right _ (List.mem_flatMap.mpr ⟨member, listed, inside⟩))
  exact iff_forall.mp quiet event happened

/-- Where nothing is reported, a chain that is broken stops outside the group. -/
theorem Quiet.stop_not_mem (quiet : Quiet (state.groupEvents members))
    {member : TypeDeclaration} {id : TypeId} {error : AliasError}
    (listed : (member, id) ∈ members.zip (groupIds state.types.size members))
    (stops : (state.groupTypes members).unalias id = .error error) :
    error.stop ∉ groupIds state.types.size members := by
  intro inside
  refine quiet.not_reported member.span (.aliasCycle member.name.name) ?_
  refine List.mem_append_right _ (List.mem_flatMap.mpr ⟨(member, id), listed, ?_⟩)
  simp only [Types.chainReports, stops, if_pos inside, List.mem_singleton]

/-- The parts of a meaning are known if all names in it are. -/
theorem TypeExpression.meaning_ne_error {env : Environment} {body : TypeExpression}
    (known : ∀ name ∈ body.used, ∃ id, env.typeOf? name.name = some id) (declared : String) :
    body.meaning env declared ≠ .error := by
  cases body with
  | name target span =>
      rcases known target (List.mem_singleton_self target) with ⟨id, found⟩
      simp [meaning, found]
  | record fields span => simp [meaning]
  | array element span => simp [meaning]

/-- A group about which nothing is reported is free of the error type, if all
that was there before it is.  The chain of a member arrives somewhere, because
an older alias where it might stop stands for something. -/
theorem Types.ErrorFree.groupTypes (wellFormed : state.types.WellFormed)
    (errorFree : state.types.ErrorFree)
    (named : state.typeNames.Fits (· = .type) fun id => state.types.Holds id ∧ id ≠ .error)
    (quiet : Quiet (state.groupEvents members)) : (state.groupTypes members).ErrorFree := by
  have next := wellFormed.groupTypes members (named.mono fun id => And.left)
  have bound : (state.groupNames members).Fits (· = .type) (· ≠ .error) :=
    (named.mono fun id => And.right).groupNames fun id => wellFormed.ne_error_of_mem_groupIds
  have known : ∀ member ∈ members, ∀ name ∈ member.body.used,
      ∃ id, (state.groupNames members).typeOf? name.name = some id :=
    fun member listed name used => quiet.exists_typeOf? listed used
  have parts : ∀ id, ∀ part ∈ ((state.groupTypes members).get id).parts, part ≠ .error := by
    refine State.forall_parts_groupTypes errorFree.parts fun member listed name used => ?_
    rcases known member listed name used with ⟨target, found⟩
    rw [found]
    exact bound.typeOf? found
  have older : ∀ id, state.types.Holds id → id ≠ .error →
      ∃ concrete, (state.groupTypes members).StandsFor id concrete := by
    intro id old proper
    rcases errorFree.standsFor id old proper with ⟨concrete, stands⟩
    exact ⟨concrete, stands.mono fun other held => State.get_groupTypes held⟩
  refine ⟨fun id held proper => ?_, parts⟩
  rcases State.holds_groupTypes_iff.mp held with old | new
  · exact older id old proper
  rcases State.exists_of_mem_groupIds new with ⟨member, listed, _⟩
  have reached : ∀ {steps last}, (state.groupTypes members).Chain steps id last →
      (state.groupTypes members).Holds last ∧ last ≠ .error := by
    intro steps last chain
    exact chain.carry (fun id => (state.groupTypes members).Holds id ∧ id ≠ .error)
      ⟨held, proper⟩ fun id part _ inside => ⟨next.parts id part inside, parts id part inside⟩
  cases arrives : (state.groupTypes members).unalias id with
  | error error =>
      rcases chain_of_follow_error arrives with ⟨aliased, steps, chain⟩
      have outside := quiet.stop_not_mem listed arrives
      have old := (State.holds_groupTypes_iff.mp (reached chain).1).resolve_right outside
      rcases older error.stop old (reached chain).2 with ⟨concrete, stands⟩
      exact absurd stands (not_standsFor_stop arrives)
  | ok concrete =>
      rcases unalias_eq_ok_iff.mp arrives with ⟨⟨steps, chain⟩, ends⟩
      refine ⟨concrete, ⟨steps, chain⟩, ends, ?_⟩
      rcases State.holds_groupTypes_iff.mp (reached chain).1 with old | last
      · -- an older type that is no alias stands for itself
        rcases older concrete old (reached chain).2 with ⟨same, stands⟩
        have self : concrete = same :=
          (representative_of_not_isAlias ends).symm.trans stands.representative_eq
        rw [self]
        exact stands.get_ne_error
      · rcases State.exists_of_mem_groupIds last with ⟨other, otherListed, meaning, _⟩
        rw [meaning]
        exact TypeExpression.meaning_ne_error (known other (List.of_mem_zip otherListed).1) _

end Group

namespace Discipline

/-- Names and values are of the error type only after a report. -/
def errorFree : Discipline where
  Sound types past := types.WellFormed ∧ (Quiet past → types.ErrorFree)
  Named types past id := types.Holds id ∧ (Quiet past → id ≠ .error)
  Value types past id := types.Holds id ∧ (Quiet past → id ≠ .error)

theorem errorFree_lawful : errorFree.Lawful where
  value_of_named := id
  named_int := fun sound => ⟨sound.1.holds_of_lt (by decide), nofun⟩
  named_string := fun sound => ⟨sound.1.holds_of_lt (by decide), nofun⟩
  named_void := fun sound => ⟨sound.1.holds_of_lt (by decide), nofun⟩
  value_nil := fun sound => ⟨sound.1.holds_of_lt (by decide), nofun⟩
  named_error := fun sound reported =>
    ⟨sound.1.holds_error, fun quiet => absurd reported (quiet.not_reported _ _)⟩
  sound_append := fun sound _ => ⟨sound.1, fun quiet => sound.2 (Quiet.append_iff.mp quiet).1⟩
  named_append := fun named => ⟨named.1, fun quiet => named.2 (Quiet.append_iff.mp quiet).1⟩
  value_append := fun value => ⟨value.1, fun quiet => value.2 (Quiet.append_iff.mp quiet).1⟩
  representative := fun sound value => ⟨sound.1.holds_representative value.1,
    fun quiet => (sound.2 quiet).representative_ne sound.1 value.1 (value.2 quiet)⟩
  parts := fun sound _ member =>
    ⟨sound.1.parts _ _ member, fun quiet => (sound.2 quiet).parts _ _ member⟩
  unknown := by
    intro types past id sound value unknown
    refine ⟨sound.1.holds_error, fun quiet => ?_⟩
    rcases (sound.2 quiet).standsFor id value.1 (value.2 quiet) with ⟨concrete, stands⟩
    have ends : types.isAlias id = false := by simp [Types.isAlias, unknown]
    have self : id = concrete :=
      (Types.representative_of_not_isAlias ends).symm.trans stands.representative_eq
    have proper := stands.get_ne_error
    rw [← self] at proper
    exact absurd unknown proper
  storable := fun _ value _ _ => value
  group := by
    intro history members holds
    rw [Check.run_makeTypes]
    have named := holds.typeNames.mono fun id => And.left
    have wellFormed := holds.sound.1.groupTypes members named
    have grows : ∀ {id}, history.state.types.Holds id →
        (history.state.groupTypes members).Holds id :=
      fun held => State.holds_groupTypes_iff.mpr (.inl held)
    have later : ∀ {id}, history.state.types.Holds id ∧ (Quiet history.past → id ≠ .error) →
        (history.state.groupTypes members).Holds id ∧
          (Quiet (history.past ++ history.state.groupEvents members) → id ≠ .error) :=
      fun allowed => ⟨grows allowed.1, fun quiet => allowed.2 (Quiet.append_iff.mp quiet).1⟩
    refine ⟨⟨wellFormed, fun quiet => ?_⟩, ⟨later, later⟩, ?_⟩
    · rcases Quiet.append_iff.mp quiet with ⟨before, within⟩
      exact (holds.sound.2 before).groupTypes holds.sound.1
        (holds.typeNames.mono fun id allowed => ⟨allowed.1, allowed.2 before⟩) within
    · exact fun id new => ⟨State.holds_groupTypes_iff.mpr (.inr new),
        fun _ => holds.sound.1.ne_error_of_mem_groupIds new⟩

end Discipline

/-- As long as nothing has been reported, every number but that of the error
type stands for a known type, nothing that is stored anywhere is of the error
type, and neither is the answer to a check that reports nothing. -/
theorem History.no_silent_error (outermost : Frame) (requests : List Request)
    (quiet : diagnosticsOf (ofRequests outermost requests).past = []) :
    let state := (ofRequests outermost requests).state
    (∀ id, state.types.Holds id → id ≠ .error →
      ∃ concrete, state.types.unalias id = .ok concrete ∧ state.types.get concrete ≠ .error) ∧
    (∀ binding ∈ state.typeNames.bindings ++ state.valueNames.bindings,
      ∀ id ∈ binding.entry.parts, state.types.isError id = false) ∧
    (∀ id, ∀ part ∈ (state.types.get id).parts, state.types.isError part = false) ∧
    ∀ (request : Request) (id : TypeId),
      (request.check.run state).outcome = .ok (.type id) →
      diagnosticsOf (request.check.run state).events = [] →
      (request.check.run state).state.types.isError id = false := by
  intro state
  have holds : Discipline.errorFree.Holds (ofRequests outermost requests) :=
    Discipline.holds_ofRequests Discipline.errorFree_lawful
      ⟨.basic, fun _ => .basic⟩ outermost requests
  have errorFree := holds.sound.2 quiet
  have bound : ∀ id, Discipline.errorFree.IsNamed (ofRequests outermost requests) id →
      state.types.isError id = false :=
    fun id named => errorFree.isError_eq named.1 (named.2 quiet)
  refine ⟨fun id held known => ?_, fun binding member id part => ?_, fun id part member => ?_, ?_⟩
  · rcases errorFree.standsFor id held known with ⟨concrete, stands⟩
    exact ⟨concrete, stands.unalias_eq, stands.get_ne_error⟩
  · rcases List.mem_append.mp member with type | value
    · exact bound id ((holds.typeNames.bindings binding type).2 id part)
    · exact bound id ((holds.valueNames.bindings binding value).2 id part)
  · exact errorFree.isError_eq (holds.sound.1.parts id part member)
      (errorFree.parts id part member)
  · intro request id succeeds silent
    rcases Discipline.keeps_request Discipline.errorFree_lawful request _ holds with
      ⟨kept, _, answered⟩
    have still := Quiet.append_iff.mpr ⟨quiet, silent⟩
    have value := answered (.type id) succeeds
    exact (kept.sound.2 still).isError_eq value.1 (value.2 still)

/-- A record type that holds itself, another name for it, and a variable. -/
def Request.recordVariable : List Request :=
  let here : Span := ⟨1, 1, 1, 1⟩
  [.declaration (.types
      [⟨⟨"list", here⟩, .record [⟨⟨"head", here⟩, ⟨"int", here⟩, here⟩,
          ⟨⟨"tail", here⟩, ⟨"list", here⟩, here⟩] here, here⟩,
        ⟨⟨"other", here⟩, .name ⟨"list", here⟩ here, here⟩] here),
    .declaration (.variable ⟨"empty", here⟩ (some ⟨"other", here⟩) (.nil here) here)]

theorem History.no_silent_error_recordVariable :
    diagnosticsOf (ofRequests outermostFrame Request.recordVariable).past = [] ∧
    ∀ id, (ofRequests outermostFrame Request.recordVariable).state.types.Holds id → id ≠ .error →
      ∃ concrete,
        (ofRequests outermostFrame Request.recordVariable).state.types.unalias id = .ok concrete ∧
        (ofRequests outermostFrame Request.recordVariable).state.types.get concrete ≠ .error := by
  have quiet : diagnosticsOf (ofRequests outermostFrame Request.recordVariable).past = [] := by
    decide
  exact ⟨quiet, (no_silent_error outermostFrame Request.recordVariable quiet).1⟩

end StaticSemantics
