import StaticSemantics.Proofs.Simulation.Trees
import StaticSemantics.Proofs.Stability

namespace StaticSemantics

/-!
# Aliases are transparent

A name for a type may be used wherever the type itself may be used: in a variable,
in a signature, or behind another name.  No check finds out.  Two tables in which
one has aliases where the other has what stands behind them may grow apart, since
new types refer to what they were made from.  But number for number they keep to
types of one shape, in which corresponding parts stand for one and the same type.

Chains of aliases that are broken count as well.  A new alias leads to a broken
chain in one table exactly if it does in the other, and a circle lies within the
members of a group in one exactly if it does in the other.
-/

namespace Types

variable {types other : Types} {id next : TypeId}

/-- A number that is not taken stands for itself alone. -/
theorem holds_of_representative (held : types.Holds (types.representative id)) :
    types.Holds id := by
  by_cases taken : types.Holds id
  · exact taken
  · have ends : types.isAlias id = false := by
      rw [isAlias, get_of_not_holds taken]
    rwa [representative_of_not_isAlias ends] at held

/-- An alias stands for what its target stands for, also if this is unknown. -/
theorem representative_of_alias {name : String}
    (target : types.get id = .alias name (some next)) :
    types.representative id = types.representative next := by
  cases walk : types.unalias next with
  | ok concrete =>
      rcases unalias_eq_ok_iff.mp walk with ⟨⟨length, chain⟩, ends⟩
      have arrives : types.unalias id = .ok concrete :=
        unalias_eq_ok_iff.mpr ⟨⟨_, .step target chain⟩, ends⟩
      rw [representative, representative, walk, arrives]
  | error error =>
      have never : types.NeverArrives id := by
        intro steps last chain
        cases chain with
        | here => exact isAlias_eq_true_iff.mpr ⟨_, _, target⟩
        | step otherTarget rest =>
            cases target.symm.trans otherTarget
            exact neverArrives_iff.mpr ⟨error, walk⟩ _ last rest
      rcases neverArrives_iff.mp never with ⟨stopped, stops⟩
      rw [representative, representative, walk, stops]

namespace WellFormed

variable (wellFormed : types.WellFormed)
include wellFormed

theorem representative_representative (id : TypeId) :
    types.representative (types.representative id) = types.representative id := by
  refine representative_of_not_isAlias ?_
  unfold representative
  cases walk : types.unalias id with
  | ok concrete => exact isAlias_of_follow walk
  | error error => exact wellFormed.isAlias_of_lt (show TypeId.error.number < 5 by decide)

/-- An alias has a target. -/
theorem exists_target (aliased : types.isAlias id = true) :
    ∃ name next, types.get id = .alias name (some next) := by
  rcases isAlias_eq_true_iff.mp aliased with ⟨name, target, cell⟩
  cases target with
  | none => exact absurd cell (wellFormed.get_ne_alias_none id name)
  | some next => exact ⟨name, next, cell⟩

end WellFormed

/-!
## Walking through a group in two tables
-/

/-- In two tables the aliases of a group lead to the same members of the group,
or out of it to numbers that stand for the same type. -/
structure InStep (types other : Types) (group : List TypeId) : Prop where
  isAlias_eq : ∀ id ∈ group, other.isAlias id = types.isAlias id
  targets : ∀ id ∈ group, ∀ name next otherName otherNext,
    types.get id = .alias name (some next) → other.get id = .alias otherName (some otherNext) →
    otherNext = next ∧ next ∈ group ∨
      next ∉ group ∧ otherNext ∉ group ∧
        types.representative next = other.representative otherNext

namespace InStep

variable {group : List TypeId}

theorem symm (inStep : types.InStep other group) : other.InStep types group where
  isAlias_eq := fun id member => (inStep.isAlias_eq id member).symm
  targets := by
    intro id member name next otherName otherNext target otherTarget
    rcases inStep.targets id member _ _ _ _ otherTarget target with
      ⟨rfl, inside⟩ | ⟨out, otherOut, same⟩
    · exact .inl ⟨rfl, inside⟩
    · exact .inr ⟨otherOut, out, same.symm⟩

/-- Where one walk arrives, the other does too, or has left the group for a number
that stands for the same. -/
theorem representative_eq_of_chain (inStep : types.InStep other group)
    (otherWellFormed : other.WellFormed) {steps : Nat} {last : TypeId} (member : id ∈ group)
    (chain : types.Chain steps id last) (ends : types.isAlias last = false) :
    types.representative id = other.representative id := by
  induction chain with
  | here id =>
      have otherEnds := (inStep.isAlias_eq id member).trans ends
      rw [representative_of_not_isAlias ends, representative_of_not_isAlias otherEnds]
  | @step name id next last steps target rest inductionHypothesis =>
      have aliased : types.isAlias id = true := isAlias_eq_true_iff.mpr ⟨_, _, target⟩
      rcases otherWellFormed.exists_target ((inStep.isAlias_eq id member).trans aliased) with
        ⟨otherName, otherNext, otherTarget⟩
      rw [representative_of_alias target, representative_of_alias otherTarget]
      rcases inStep.targets id member _ _ _ _ target otherTarget with
        ⟨rfl, inside⟩ | ⟨_, _, same⟩
      · exact inductionHypothesis inside ends
      · exact same

theorem representative_eq (inStep : types.InStep other group) (wellFormed : types.WellFormed)
    (otherWellFormed : other.WellFormed) (member : id ∈ group) :
    types.representative id = other.representative id := by
  cases walk : types.unalias id with
  | ok concrete =>
      rcases unalias_eq_ok_iff.mp walk with ⟨⟨steps, chain⟩, ends⟩
      exact inStep.representative_eq_of_chain otherWellFormed member chain ends
  | error error =>
      cases otherWalk : other.unalias id with
      | ok concrete =>
          rcases unalias_eq_ok_iff.mp otherWalk with ⟨⟨steps, chain⟩, ends⟩
          exact (inStep.symm.representative_eq_of_chain wellFormed member chain ends).symm
      | error otherError => rw [representative, representative, walk, otherWalk]

end InStep

/-- The chain from a number goes on for ever, among the members of a group. -/
def Trapped (types : Types) (group : List TypeId) (id : TypeId) : Prop :=
  ∀ steps last, types.Chain steps id last → last ∈ group ∧ types.isAlias last = true

theorem InStep.trapped {group : List TypeId} (inStep : types.InStep other group)
    (wellFormed : types.WellFormed) (trapped : types.Trapped group id) :
    other.Trapped group id := by
  intro steps last chain
  induction chain with
  | here id =>
      have here := trapped 0 id (.here id)
      exact ⟨here.1, (inStep.isAlias_eq id here.1).trans here.2⟩
  | @step otherName id otherNext last steps otherTarget rest inductionHypothesis =>
      have here := trapped 0 id (.here id)
      rcases wellFormed.exists_target here.2 with ⟨name, next, target⟩
      have onward := trapped 1 next (.step target (.here next))
      rcases inStep.targets id here.1 _ _ _ _ target otherTarget with
        ⟨rfl, _⟩ | ⟨outside, _⟩
      · exact inductionHypothesis fun steps last chain => trapped _ last (.step target chain)
      · exact absurd onward.1 outside

end Types

/-!
## A group that is added to both tables
-/

theorem forall_of_forall₂ {α β : Type} {related : α → β → Prop} {allowed : α → Prop}
    {otherAllowed : β → Prop} {items : List α} {others : List β}
    (paired : items.Forall₂ related others)
    (imply : ∀ item other, related item other → allowed item ∧ otherAllowed other) :
    (∀ item ∈ items, allowed item) ∧ ∀ other ∈ others, otherAllowed other := by
  induction paired with
  | nil => exact ⟨nofun, nofun⟩
  | cons first _ inductionHypothesis =>
      have here := imply _ _ first
      exact ⟨List.forall_mem_cons.mpr ⟨here.1, inductionHypothesis.1⟩,
        List.forall_mem_cons.mpr ⟨here.2, inductionHypothesis.2⟩⟩

section Alike

variable {rename : String → String} {related : TypeId → TypeId → Prop}

theorem Ty.Alike.isDeclared {type other : Ty} (alike : Ty.Alike rename related type other)
    (declared : type.IsDeclared) : other.IsDeclared := by
  cases alike with
  | record | array | error => trivial
  | int | string | void | nil => exact declared
  | «alias» name targets =>
      cases targets with
      | none => exact declared
      | some => trivial

theorem Ty.Alike.forall_parts {type other : Ty} (alike : Ty.Alike rename related type other)
    {allowed otherAllowed : TypeId → Prop}
    (imply : ∀ id otherId, related id otherId → allowed id ∧ otherAllowed otherId) :
    (∀ part ∈ type.parts, allowed part) ∧ ∀ part ∈ other.parts, otherAllowed part := by
  cases alike with
  | int | string | void | nil | error => exact ⟨nofun, nofun⟩
  | record alike =>
      have fields := forall_of_forall₂ alike fun _ _ fields => imply _ _ fields.types
      exact ⟨List.forall_mem_map.mpr fields.1, List.forall_mem_map.mpr fields.2⟩
  | array elements =>
      have both := imply _ _ elements
      exact ⟨List.forall_mem_singleton.mpr both.1, List.forall_mem_singleton.mpr both.2⟩
  | «alias» name targets =>
      cases targets with
      | none => exact ⟨nofun, nofun⟩
      | some target =>
          have both := imply _ _ target
          exact ⟨List.forall_mem_singleton.mpr both.1, List.forall_mem_singleton.mpr both.2⟩

theorem Types.isAlias_eq_of_alike {types other : Types} {id : TypeId}
    (alike : Ty.Alike rename related (types.get id) (other.get id)) :
    other.isAlias id = types.isAlias id := by
  unfold isAlias
  generalize types.get id = type at alike
  generalize other.get id = otherType at alike
  cases alike <;> rfl

/-- A type is like itself if all its parts are related to themselves. -/
theorem Ty.Alike.refl {type : Ty} (same : ∀ part ∈ type.parts, related part part) :
    Ty.Alike id related type type := by
  cases type with
  | int => exact .int
  | string => exact .string
  | void => exact .void
  | nil => exact .nil
  | error => exact .error
  | record fields =>
      exact .record (List.forall₂_same.mpr fun field listed =>
        ⟨rfl, same field.type (List.mem_map_of_mem listed)⟩)
  | array element => exact .array (same element (List.mem_singleton_self _))
  | «alias» name target =>
      cases target with
      | none => exact .alias name .none
      | some target => exact .alias name (.some (same target (List.mem_singleton_self _)))

end Alike

theorem TypeCell.Alike.isProper {relabeling : Relabeling} {related : TypeId → TypeId → Prop}
    {cell other : TypeCell} (alike : TypeCell.Alike relabeling related cell other)
    {allowed otherAllowed : TypeId → Prop}
    (imply : ∀ id otherId, related id otherId → allowed id ∧ otherAllowed otherId) :
    cell.IsProper allowed ∧ other.IsProper otherAllowed := by
  rcases alike.sites with ⟨site, known, otherKnown⟩
  have parts := alike.types.forall_parts imply
  exact ⟨⟨alike.declared, ⟨_, known⟩, parts.1⟩,
    ⟨alike.types.isDeclared alike.declared, ⟨_, otherKnown⟩, parts.2⟩⟩

namespace Types

variable {types other : Types} {cells others : List TypeCell} {group : List TypeId} {id : TypeId}

/-- A chain of aliases that starts at an older type stays among the older ones. -/
theorem WellFormed.holds_of_chain_extend (wellFormed : types.WellFormed) {steps : Nat}
    {last : TypeId} (held : types.Holds id) (chain : (types.extend cells).Chain steps id last) :
    types.Holds last :=
  chain.carry types.Holds held fun id part held member =>
    wellFormed.parts id part (get_extend held cells ▸ member)

/-- The test that a check makes of the members of a group, in terms of chains. -/
theorem stopsWithin_iff_trapped (wellFormed : types.WellFormed)
    (after : (types.extend cells).WellFormed)
    (inGroup : ∀ id, id ∈ group ↔
      types.size ≤ id.number ∧ id.number < types.size + cells.length) :
    (types.extend cells).stopsWithin group id = true ↔ (types.extend cells).Trapped group id := by
  unfold stopsWithin
  constructor
  · intro stops steps last chain
    cases walk : (types.extend cells).unalias id with
    | ok concrete => simp [walk] at stops
    | error error =>
        simp only [walk, decide_eq_true_eq] at stops
        have runs := after.runsInto_stop walk
        have aliased := runs.neverArrives steps last chain
        refine ⟨?_, aliased⟩
        by_contra outside
        have held := holds_of_isAlias aliased
        rw [Types.Holds, size_extend] at held
        have older : types.Holds last := by
          rw [Types.Holds]
          rw [inGroup] at outside
          omega
        -- From outside the group a chain never comes back to the circle.
        have back : ∃ further, (types.extend cells).Chain further last error.stop := by
          rcases runs with ⟨⟨length, toStop⟩, circle⟩
          rcases toStop.total chain with ⟨further, before⟩ | behind
          · exact circle.back before
          · exact behind
        rcases back with ⟨further, behind⟩
        have olderStop : error.stop.number < types.size :=
          wellFormed.holds_of_chain_extend older behind
        exact Nat.not_lt_of_le ((inGroup _).mp stops).1 olderStop
  · intro trapped
    rcases neverArrives_iff.mp fun steps last chain => (trapped steps last chain).2 with
      ⟨error, walk⟩
    rcases chain_of_follow_error walk with ⟨_, length, chain⟩
    rw [walk]
    exact decide_eq_true (trapped length error.stop chain).1

/-- Two numbers that stand for the same type, each in its own table. -/
structure Behind (types other : Types) (id otherId : TypeId) : Prop where
  held : types.Holds id
  otherHeld : other.Holds otherId
  same : types.representative id = other.representative otherId

/-- Two tables that have types of one shape behind every number. -/
structure Mirrors (types other : Types) : Prop where
  wellFormed : types.WellFormed
  otherWellFormed : other.WellFormed
  size_eq : other.size = types.size
  alike : ∀ id, Ty.Alike Relabeling.none.name (types.Behind other) (types.get id) (other.get id)

end Types

/-- In this comparison the words of messages are left out, since they call a type
by the name that it was found under. -/
def Correspondence.aliases : Correspondence where
  relabeling := .none
  Visible _ := True
  literal := False
  Tables := Types.Mirrors
  Values := Types.Behind

namespace Types

variable {types other : Types} {cells others : List TypeCell} {group : List TypeId} {id : TypeId}

theorem Behind.extend {otherId : TypeId} (mirrors : types.Mirrors other)
    (behind : types.Behind other id otherId) :
    (types.extend cells).Behind (other.extend others) id otherId where
  held := by
    rw [Types.Holds, size_extend]
    exact Nat.lt_add_right _ behind.held
  otherHeld := by
    rw [Types.Holds, size_extend]
    exact Nat.lt_add_right _ behind.otherHeld
  same := by
    rw [mirrors.wellFormed.representative_extend cells behind.held,
      mirrors.otherWellFormed.representative_extend others behind.otherHeld]
    exact behind.same

section Group

variable (mirrors : types.Mirrors other)
  (inGroup : ∀ id, id ∈ group ↔ types.size ≤ id.number ∧ id.number < types.size + cells.length)
  (paired : cells.Forall₂
    (TypeCell.Alike .none (Correspondence.aliases.Targets types other group)) others)
include mirrors inGroup paired

theorem alike_of_mem_group (member : id ∈ group) :
    Ty.Alike Relabeling.none.name (Correspondence.aliases.Targets types other group)
      ((types.extend cells).get id) ((other.extend others).get id) := by
  rcases (inGroup id).mp member with ⟨behind, bound⟩
  have inside : id.number - types.size < cells.length := by omega
  have otherInside : id.number - types.size < others.length := paired.length_eq ▸ inside
  have new : ¬ types.Holds id := Nat.not_lt_of_le behind
  have otherNew : ¬ other.Holds id := by
    rw [Types.Holds, mirrors.size_eq]
    exact Nat.not_lt_of_le behind
  rw [get, get, getElem?_extend_of_not_holds new, getElem?_extend_of_not_holds otherNew,
    mirrors.size_eq, List.getElem?_eq_getElem inside, List.getElem?_eq_getElem otherInside]
  exact (paired.get inside otherInside).types

/-- What the members of a group refer to is taken once the group is there. -/
theorem holds_of_targets {otherId : TypeId}
    (target : Correspondence.aliases.Targets types other group id otherId) :
    (types.extend cells).Holds id ∧ (other.extend others).Holds otherId := by
  rcases target with behind | ⟨rfl, member⟩
  · have later : (types.extend cells).Behind (other.extend others) id otherId :=
      behind.extend mirrors
    exact ⟨later.held, later.otherHeld⟩
  · have bound := ((inGroup _).mp member).2
    rw [Types.Holds, Types.Holds, size_extend, size_extend, mirrors.size_eq, ← paired.length_eq]
    exact ⟨bound, bound⟩

theorem wellFormed_extend :
    (types.extend cells).WellFormed ∧ (other.extend others).WellFormed := by
  have proper := forall_of_forall₂ paired fun _ _ cells =>
    cells.isProper fun _ _ => holds_of_targets mirrors inGroup paired
  exact ⟨mirrors.wellFormed.extend proper.1, mirrors.otherWellFormed.extend proper.2⟩

theorem inStep_extend : (types.extend cells).InStep (other.extend others) group where
  isAlias_eq := fun _ member =>
    isAlias_eq_of_alike (alike_of_mem_group mirrors inGroup paired member)
  targets := by
    intro id member name next otherName otherNext target otherTarget
    have alike := alike_of_mem_group mirrors inGroup paired member
    rw [target, otherTarget] at alike
    cases alike with
    | «alias» _ targets =>
        cases targets with
        | some fits =>
            rcases fits with behind | same
            · refine .inr ⟨fun inside => ?_, fun inside => ?_, (behind.extend mirrors).same⟩
              · exact Nat.not_lt_of_le ((inGroup _).mp inside).1 behind.held
              · have held := behind.otherHeld
                rw [Types.Holds, mirrors.size_eq] at held
                exact Nat.not_lt_of_le ((inGroup _).mp inside).1 held
            · exact .inl same

theorem behind_of_mem_group (member : id ∈ group) :
    (types.extend cells).Behind (other.extend others) id id := by
  have held := holds_of_targets mirrors inGroup paired (.inr ⟨rfl, member⟩)
  have wellFormed := wellFormed_extend mirrors inGroup paired
  exact ⟨held.1, held.2, (inStep_extend mirrors inGroup paired).representative_eq wellFormed.1
    wellFormed.2 member⟩

theorem mirrors_extend : (types.extend cells).Mirrors (other.extend others) where
  wellFormed := (wellFormed_extend mirrors inGroup paired).1
  otherWellFormed := (wellFormed_extend mirrors inGroup paired).2
  size_eq := by rw [size_extend, size_extend, mirrors.size_eq, paired.length_eq]
  alike := by
    intro id
    by_cases before : types.Holds id
    · have otherBefore : other.Holds id := by
        rw [Types.Holds, mirrors.size_eq]
        exact before
      rw [get_extend before, get_extend otherBefore]
      exact (mirrors.alike id).imp fun _ _ behind => behind.extend mirrors
    · by_cases member : id ∈ group
      · refine (alike_of_mem_group mirrors inGroup paired member).imp fun first second target => ?_
        rcases target with behind | ⟨rfl, inside⟩
        · exact behind.extend mirrors
        · exact behind_of_mem_group mirrors inGroup paired inside
      · have missing : ¬ (types.extend cells).Holds id := by
          rw [inGroup] at member
          rw [Types.Holds] at before
          rw [Types.Holds, size_extend]
          omega
        have otherMissing : ¬ (other.extend others).Holds id := by
          rw [Types.Holds, size_extend, mirrors.size_eq, ← paired.length_eq, ← size_extend]
          exact missing
        rw [get_of_not_holds missing, get_of_not_holds otherMissing]
        exact .error

theorem stopsWithin_extend (id : TypeId) :
    (other.extend others).stopsWithin group id = (types.extend cells).stopsWithin group id := by
  have wellFormed := wellFormed_extend mirrors inGroup paired
  have inStep := inStep_extend mirrors inGroup paired
  have otherGroup : ∀ id, id ∈ group ↔
      other.size ≤ id.number ∧ id.number < other.size + others.length := by
    intro id
    rw [inGroup, mirrors.size_eq, paired.length_eq]
  rw [Bool.eq_iff_iff,
    stopsWithin_iff_trapped mirrors.otherWellFormed wellFormed.2 otherGroup,
    stopsWithin_iff_trapped mirrors.wellFormed wellFormed.1 inGroup]
  exact ⟨inStep.symm.trapped wellFormed.2, inStep.trapped wellFormed.1⟩

end Group
end Types

/-- With aliases on either side where the other has what stands behind them. -/
def Simulation.aliases : Simulation where
  toCorrespondence := .aliases
  size_eq := Types.Mirrors.size_eq
  builtIn := by
    intro types other id mirrors small
    refine ⟨mirrors.wellFormed.holds_of_lt small, mirrors.otherWellFormed.holds_of_lt small, ?_⟩
    rw [Types.representative_of_not_isAlias (mirrors.wellFormed.isAlias_of_lt small),
      Types.representative_of_not_isAlias (mirrors.otherWellFormed.isAlias_of_lt small)]
  representative := by
    intro types other id otherId mirrors behind
    refine ⟨mirrors.wellFormed.holds_representative behind.held,
      mirrors.otherWellFormed.holds_representative behind.otherHeld, ?_⟩
    rw [mirrors.wellFormed.representative_representative,
      mirrors.otherWellFormed.representative_representative]
    exact behind.same
  concrete := by
    intro types other id otherId mirrors behind
    rw [Types.concrete, Types.concrete, ← behind.same]
    exact mirrors.alike _
  identity := by
    intro types other first otherFirst second otherSecond _ behind secondBehind
    rw [behind.same, secondBehind.same]
  extend := fun mirrors inGroup paired =>
    ⟨Types.mirrors_extend mirrors inGroup paired, fun _ _ behind => behind.extend mirrors,
      fun _ member => Types.behind_of_mem_group mirrors inGroup paired member,
      fun id _ => Types.stopsWithin_extend mirrors inGroup paired id⟩
  relabeling_of_literal := False.elim
  tables_of_literal := False.elim
  values_of_literal := False.elim

/-!
## The two states
-/

/-- Environments that bind the same names in the same scopes to things of the same
sort, where every type of the one stands for the same as that of the other. -/
structure Environment.AliasedIn (types : Types) (env other : Environment) : Prop where
  bindings : env.bindings.Forall₂ (fun binding changed => changed.name = binding.name ∧
    Entry.Alike (fun id otherId => types.representative id = types.representative otherId)
      binding.entry changed.entry) other.bindings
  marks_eq : other.marks = env.marks

/-- A state that differs from another one only in the names by which its bindings
refer to types. -/
structure State.AliasedTo (state other : State) : Prop where
  types_eq : other.types = state.types
  typeNames : state.typeNames.AliasedIn state.types other.typeNames
  valueNames : state.valueNames.AliasedIn state.types other.valueNames

theorem Types.WellFormed.mirrors_self {types : Types} (wellFormed : types.WellFormed) :
    types.Mirrors types where
  wellFormed := wellFormed
  otherWellFormed := wellFormed
  size_eq := rfl
  alike := fun id => .refl fun part member =>
    ⟨wellFormed.parts id part member, wellFormed.parts id part member, rfl⟩

namespace Environment.AliasedIn

variable {types : Types} {env other : Environment}

theorem newest? (aliased : env.AliasedIn types other) (name : String) :
    Option.Rel (Entry.Alike fun id otherId =>
        types.representative id = types.representative otherId)
      (env.newest? name) (other.newest? name) := by
  unfold Environment.newest?
  have related := aliased.bindings
  generalize env.bindings = bindings at related
  generalize other.bindings = otherBindings at related
  induction related with
  | nil => exact .none
  | @cons binding changed _ _ first _ inductionHypothesis =>
      rw [List.find?_cons, List.find?_cons, first.1]
      cases binding.name == name with
      | true => exact .some first.2
      | false => exact inductionHypothesis

/-- The types of the other side are taken too, because they stand for something
that is. -/
theorem environments (aliased : env.AliasedIn types other) (wellFormed : types.WellFormed)
    {sort : EntryKind → Prop} (fits : env.Fits sort types.Holds) :
    Simulation.aliases.Environments (types.Behind types) env other := by
  intro name _
  have found := aliased.newest? name
  change Option.Rel (Entry.Alike (types.Behind types)) (env.newest? name) (other.newest? name)
  cases known : env.newest? name with
  | none =>
      rw [known] at found
      generalize other.newest? name = otherEntry at found
      cases found
      exact .none
  | some entry =>
      rw [known] at found
      generalize other.newest? name = otherEntry at found
      cases found with
      | some alike =>
          refine .some (alike.imp_of_mem fun id member otherId same => ?_)
          have held := (fits.newest? known).2 id member
          have behind := wellFormed.holds_representative held
          rw [same] at behind
          exact ⟨held, Types.holds_of_representative behind, same⟩

end Environment.AliasedIn

theorem State.AliasedTo.linked {state other : State} (aliased : state.AliasedTo other)
    (wellFormed : state.WellFormed) : Simulation.aliases.Linked ⟨state, other⟩ := by
  obtain ⟨types, typeNames, valueNames, frame, storage⟩ := other
  obtain rfl : types = state.types := aliased.types_eq
  exact ⟨⟨wellFormed.types.mirrors_self, False.elim⟩,
    aliased.typeNames.environments wellFormed.types wellFormed.typeNames,
    aliased.valueNames.environments wellFormed.types wellFormed.valueNames⟩

/-!
## All aliases at once
-/

/-- What is bound, with every type named directly. -/
def Entry.unaliased (types : Types) : Entry → Entry
  | type id => .type (types.representative id)
  | .variable entry => .variable { entry with type := types.representative entry.type }
  | function entry => .function { entry with
      parameters := entry.parameters.map types.representative
      result := types.representative entry.result }

def Environment.unaliased (types : Types) (env : Environment) : Environment :=
  { env with bindings := env.bindings.map fun binding =>
      { binding with entry := binding.entry.unaliased types } }

/-- The state in which everything in scope refers to its types directly. -/
def State.unaliased (state : State) : State :=
  { state with
    typeNames := state.typeNames.unaliased state.types
    valueNames := state.valueNames.unaliased state.types }

theorem Entry.alike_unaliased {types : Types} (wellFormed : types.WellFormed) (entry : Entry) :
    Entry.Alike (fun id otherId => types.representative id = types.representative otherId)
      entry (entry.unaliased types) := by
  have same : ∀ id, types.representative id = types.representative (types.representative id) :=
    fun id => (wellFormed.representative_representative id).symm
  cases entry with
  | type id => exact .type (same id)
  | «variable» entry => exact .variable (same entry.type)
  | function entry =>
      refine .function ?_ (same entry.result)
      rw [List.forall₂_map_right_iff]
      exact List.forall₂_same.mpr fun id _ => same id

theorem Environment.aliasedIn_unaliased {types : Types} (wellFormed : types.WellFormed)
    (env : Environment) : env.AliasedIn types (env.unaliased types) where
  bindings := by
    rw [Environment.unaliased, List.forall₂_map_right_iff]
    exact List.forall₂_same.mpr fun binding _ => ⟨rfl, binding.entry.alike_unaliased wellFormed⟩
  marks_eq := rfl

/-- Whatever is in scope may be made to refer to its types directly. -/
theorem State.aliasedTo_unaliased {state : State} (wellFormed : state.types.WellFormed) :
    state.AliasedTo state.unaliased where
  types_eq := rfl
  typeNames := state.typeNames.aliasedIn_unaliased wellFormed
  valueNames := state.valueNames.aliasedIn_unaliased wellFormed

/-- In every history, whether the types in scope are named directly or through
aliases makes no difference to a check: both are aborted in the same way or none
is, the same kinds of diagnostics are reported at the same places in the same
order, and what the results stand for, each in its own table, is the same. -/
theorem History.aliases_transparent (outermost : Frame) (requests : List Request) (other : State)
    (aliased : (ofRequests outermost requests).state.AliasedTo other) (expression : Expression) :
    let run := (Check.inferExpression expression).run (ofRequests outermost requests).state
    let otherRun := (Check.inferExpression expression).run other
    SameOutcome (fun id otherId =>
        run.state.types.representative id = otherRun.state.types.representative otherId)
      run.outcome otherRun.outcome ∧
    (diagnosticsOf run.events).Forall₂ (fun diagnostic changed =>
        changed.kind = diagnostic.kind ∧ changed.span = diagnostic.span)
      (diagnosticsOf otherRun.events) := by
  intro run otherRun
  have holds := Discipline.wellFormed_ofRequests outermost requests
  have runs := Simulation.parallel_same rfl expression (fun _ _ => trivial)
    (aliased.linked holds.wellFormed)
  exact ⟨runs.outcomes.imp fun _ _ fits => fits.2.same,
    runs.reports.diagnostics.imp fun _ _ alike => ⟨alike.kind_eq, alike.span_eq⟩⟩

/-- A type of counts, which are numbers, and one of them. -/
def Request.countVariable : List Request :=
  let here : Span := ⟨1, 1, 1, 1⟩
  [.declaration (.types [⟨⟨"count", here⟩, .name ⟨"int", here⟩ here, here⟩] here),
    .declaration (.variable ⟨"three", here⟩ (some ⟨"count", here⟩) (.integer 3 here) here)]

/-- An array of counts, the first of which is a text. -/
def Expression.countsOfText : Expression :=
  let here : Span := ⟨1, 1, 1, 1⟩
  .block [.types [⟨⟨"counts", here⟩, .array ⟨"count", here⟩ here, here⟩] here]
    (.array ⟨"counts", here⟩ (.place (.name ⟨"three", here⟩ here) here) (.string "x" here) here)
    here

/-- The table that is made without the alias is another one, and other words are
used.  Nothing else is different. -/
theorem History.aliases_transparent_countsOfText :
    let state := (ofRequests outermostFrame Request.countVariable).state
    let run := (Check.inferExpression Expression.countsOfText).run state
    let unaliasedRun := (Check.inferExpression Expression.countsOfText).run state.unaliased
    state.AliasedTo state.unaliased ∧
    (run.state.types.get ⟨6⟩, unaliasedRun.state.types.get ⟨6⟩) =
      (.array ⟨5⟩, .array .int) ∧
    (diagnosticsOf run.events).map (·.message) ≠
      (diagnosticsOf unaliasedRun.events).map (·.message) ∧
    SameOutcome (fun id otherId =>
        run.state.types.representative id = unaliasedRun.state.types.representative otherId)
      run.outcome unaliasedRun.outcome ∧
    (diagnosticsOf run.events).Forall₂ (fun diagnostic changed =>
        changed.kind = diagnostic.kind ∧ changed.span = diagnostic.span)
      (diagnosticsOf unaliasedRun.events) := by
  have holds := Discipline.wellFormed_ofRequests outermostFrame Request.countVariable
  have aliased := State.aliasedTo_unaliased holds.wellFormed.types
  have transparent := aliases_transparent _ _ _ aliased Expression.countsOfText
  exact ⟨aliased, by decide, by decide, transparent⟩

end StaticSemantics
