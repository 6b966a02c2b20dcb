import Mathlib.Data.Nat.Find
import StaticSemantics.Proofs.AliasCircle
import StaticSemantics.Proofs.WellFormed

namespace StaticSemantics
namespace Types

/-!
# Where a walk along aliases stops

The walk that follows aliases is written with a bound on its steps.  Here it is
compared with a loop that has none: it remembers the aliases that it has passed,
and goes on until it is at a type that is no alias, at an alias without a target,
or at an alias that it has passed before.  The loop always ends, because it
passes every alias of the table at most once.

Where it ends can be told from the chain alone.  A chain that does not come to an
end goes round, and the loop has to go round once before it notices.  It notices
at the first member of the circle that it came to, because the aliases before
that one are not met again.
-/

variable {types : Types} {id last stop : TypeId} {name : String}

/-!
## The loop
-/

/-- The loop that follows aliases, from a number and with those passed before:
how many steps it takes, and how it ends. -/
inductive Loop (types : Types) : List TypeId → TypeId → Nat → Except AliasError TypeId → Prop
  | arrived {passed : List TypeId} {id : TypeId} (concrete : types.isAlias id = false) :
      Loop types passed id 1 (.ok id)
  | again {passed : List TypeId} {id : TypeId} {name : String} {target : Option TypeId}
      (cell : types.get id = .alias name target) (met : id ∈ passed) :
      Loop types passed id 1 (.error (.cycle name id))
  | unresolved {passed : List TypeId} {id : TypeId} {name : String}
      (cell : types.get id = .alias name none) (new : id ∉ passed) :
      Loop types passed id 1 (.error (.unresolved name id))
  | onward {passed : List TypeId} {id next : TypeId} {name : String} {steps : Nat}
      {outcome : Except AliasError TypeId} (cell : types.get id = .alias name (some next))
      (new : id ∉ passed) (rest : Loop types (id :: passed) next steps outcome) :
      Loop types passed id (steps + 1) outcome

/-- The loop ends in one way, after one number of steps. -/
theorem Loop.unique {passed : List TypeId} {steps otherSteps : Nat}
    {outcome other : Except AliasError TypeId} (one : types.Loop passed id steps outcome)
    (two : types.Loop passed id otherSteps other) : steps = otherSteps ∧ outcome = other := by
  induction one generalizing otherSteps with
  | arrived concrete =>
      cases two with
      | arrived => exact ⟨rfl, rfl⟩
      | again cell | unresolved cell | onward cell => simp [isAlias, cell] at concrete
  | again cell met =>
      cases two with
      | arrived concrete => simp [isAlias, cell] at concrete
      | again otherCell =>
          cases cell.symm.trans otherCell
          exact ⟨rfl, rfl⟩
      | unresolved _ new | onward _ new => exact absurd met new
  | unresolved cell new =>
      cases two with
      | arrived concrete => simp [isAlias, cell] at concrete
      | again _ met => exact absurd met new
      | unresolved otherCell =>
          cases cell.symm.trans otherCell
          exact ⟨rfl, rfl⟩
      | onward otherCell => cases cell.symm.trans otherCell
  | onward cell new rest inductionHypothesis =>
      cases two with
      | arrived concrete => simp [isAlias, cell] at concrete
      | again _ met => exact absurd met new
      | unresolved otherCell => cases cell.symm.trans otherCell
      | onward otherCell _ otherRest =>
          cases cell.symm.trans otherCell
          rcases inductionHypothesis otherRest with ⟨rfl, rfl⟩
          exact ⟨rfl, rfl⟩

/-- As long as a walk has room for every alias, it is the loop.  The last step is
the one that passes nothing. -/
theorem Walking.loop {steps : Nat} {passed : List TypeId} (walking : types.Walking steps passed)
    (id : TypeId) :
    ∃ count ≤ steps + 1, types.Loop passed id count (types.follow steps passed id) := by
  fun_induction follow types steps passed id with
  | case1 steps passed id name target cell met => exact ⟨1, by omega, .again cell met⟩
  | case2 steps passed id name new cell => exact ⟨1, by omega, .unresolved cell new⟩
  | case3 passed id name new next steps cell inductionHypothesis =>
      have aliased : types.isAlias id = true := isAlias_eq_true_iff.mpr ⟨_, _, cell⟩
      rcases inductionHypothesis (walking.next new aliased) with ⟨count, bound, rest⟩
      exact ⟨count + 1, by omega, .onward cell new rest⟩
  | case4 passed id name new next cell =>
      have aliased : types.isAlias id = true := isAlias_eq_true_iff.mpr ⟨_, _, cell⟩
      exact absurd (walking.mem_of_zero aliased) new
  | case5 steps passed id concrete =>
      have ends : types.isAlias id = false := by
        refine eq_false_of_ne_true fun aliased => ?_
        rcases isAlias_eq_true_iff.mp aliased with ⟨name, target, cell⟩
        exact concrete name target cell
      exact ⟨1, by omega, .arrived ends⟩

/-!
## The first of its kind on a chain
-/

/-- The first number with a property on the chain from `id`, and its distance. -/
structure First (types : Types) (property : TypeId → Prop) (steps : Nat) (id last : TypeId) :
    Prop where
  chain : types.Chain steps id last
  holds : property last
  before : ∀ earlier < steps, ∀ middle, types.Chain earlier id middle → ¬ property middle

/-- The first number with a property on the chain from `id`. -/
def FirstOnChain (types : Types) (property : TypeId → Prop) (id last : TypeId) : Prop :=
  ∃ steps, types.First property steps id last

/-- Before the end of a chain there are targets. -/
theorem Chain.exists_target {next : TypeId} {first second : Nat} (shorter : types.Chain first id next)
    (longer : types.Chain second id last) (before : first < second) :
    ∃ name target, types.get next = .alias name (some target) := by
  obtain ⟨further, rfl⟩ := Nat.exists_eq_add_of_lt before
  have rest : types.Chain (further + 1) next last := shorter.rest longer
  cases rest with
  | step target _ => exact ⟨_, _, target⟩

namespace First

variable {property : TypeId → Prop} {steps : Nat}

/-- Where there is one, there is a first one. -/
theorem exists_of_chain (chain : types.Chain steps id last) (holds : property last) :
    ∃ distance first, types.First property distance id first := by
  classical
  have some : ∃ distance, ∃ first, types.Chain distance id first ∧ property first :=
    ⟨steps, last, chain, holds⟩
  rcases Nat.find_spec some with ⟨first, reached, has⟩
  exact ⟨_, first, reached, has, fun earlier shorter middle way has =>
    Nat.find_min some shorter ⟨middle, way, has⟩⟩

theorem unique {otherSteps : Nat} {other : TypeId} (one : types.First property steps id last)
    (two : types.First property otherSteps id other) : steps = otherSteps ∧ last = other := by
  rcases Nat.lt_trichotomy steps otherSteps with shorter | rfl | longer
  · exact absurd one.holds (two.before _ shorter _ one.chain)
  · exact ⟨rfl, one.chain.last_unique two.chain⟩
  · exact absurd two.holds (one.before _ longer _ two.chain)

/-- The first one is not here, so it is the first one from the next number on. -/
theorem onward (first : types.First property (steps + 1) id last) :
    ∃ name next, types.get id = .alias name (some next) ∧ ¬ property id ∧
      types.First property steps next last := by
  rcases first with ⟨chain, holds, before⟩
  cases chain with
  | step target rest =>
      refine ⟨_, _, target, before 0 (Nat.succ_pos _) id (.here id), rest, holds, ?_⟩
      exact fun earlier shorter middle way =>
        before (earlier + 1) (Nat.succ_lt_succ shorter) middle (.step target way)

end First

/-- No chain of aliases goes on from a number. -/
def Ends (types : Types) (id : TypeId) : Prop :=
  ∀ name next, types.get id ≠ .alias name (some next)

theorem ends_of_not_isAlias (concrete : types.isAlias id = false) : types.Ends id := by
  intro name next cell
  simp [isAlias, cell] at concrete

theorem ends_of_unresolved (cell : types.get id = .alias name none) : types.Ends id := by
  intro other next target
  cases cell.symm.trans target

/-- Where a chain has come to an end, no chain from the same number has another one. -/
theorem Ends.last_eq {first second : Nat} {other : TypeId} (ends : types.Ends last)
    (one : types.Chain first id last) (otherEnds : types.Ends other)
    (two : types.Chain second id other) : last = other := by
  rcases Nat.lt_trichotomy first second with shorter | rfl | longer
  · rcases one.exists_target two shorter with ⟨name, next, target⟩
    exact absurd target (ends name next)
  · exact one.last_unique two
  · rcases two.exists_target one longer with ⟨name, next, target⟩
    exact absurd target (otherEnds name next)

/-- What can only be at the end of a chain is met once. -/
theorem firstOnChain_iff_of_ends {property : TypeId → Prop}
    (ends : ∀ id, property id → types.Ends id) :
    types.FirstOnChain property id last ↔ (∃ steps, types.Chain steps id last) ∧ property last := by
  constructor
  · rintro ⟨steps, first⟩
    exact ⟨⟨steps, first.chain⟩, first.holds⟩
  · rintro ⟨⟨steps, chain⟩, holds⟩
    refine ⟨steps, chain, holds, fun earlier shorter middle way has => ?_⟩
    rcases way.exists_target chain shorter with ⟨name, next, target⟩
    exact ends middle has name next target

theorem OnCircle.exists_target (circle : types.OnCircle id) :
    ∃ name next, types.get id = .alias name (some next) := by
  rcases circle with ⟨steps, chain⟩
  exact (Chain.here id).exists_target chain (Nat.succ_pos _)

/-!
## Going round
-/

/-- On the way round a walk meets nothing that it has passed before it is back.
What it has passed on the circle lies further from there than it does itself. -/
theorem follow_of_round {count steps : Nat} {passed : List TypeId} {target : Option TypeId}
    (cell : types.get stop = .alias name target)
    (first : types.First (· = stop) count id stop) (circle : types.OnCircle id)
    (walking : types.Walking steps passed) (met : stop ∈ passed)
    (behind : ∀ other ∈ passed, other = stop ∨ ¬ types.OnCircle other ∨
      ∃ further, count < further ∧ types.First (· = stop) further other stop) :
    types.follow steps passed id = .error (.cycle name stop) := by
  induction count generalizing id steps passed with
  | zero =>
      cases first.chain
      unfold follow
      simp only [cell, if_pos met]
  | succ count inductionHypothesis =>
      rcases first.onward with ⟨other, next, target, elsewhere, rest⟩
      have aliased : types.isAlias id = true := isAlias_eq_true_iff.mpr ⟨_, _, target⟩
      have new : id ∉ passed := by
        intro earlier
        rcases behind id earlier with back | away | ⟨further, longer, again⟩
        · exact elsewhere back
        · exact away circle
        · exact absurd (first.unique again).1 (Nat.ne_of_lt longer)
      cases steps with
      | zero => exact absurd (walking.mem_of_zero aliased) new
      | succ steps =>
          unfold follow
          simp only [target, if_neg new]
          refine inductionHypothesis rest (circle.onward (.step target (.here next)))
            (walking.next new aliased) (List.mem_cons_of_mem _ met) fun passedBy listed => ?_
          rcases List.mem_cons.mp listed with rfl | earlier
          · exact .inr (.inr ⟨count + 1, Nat.lt_succ_self _, first⟩)
          · refine (behind passedBy earlier).imp_right (Or.imp_right ?_)
            exact fun ⟨further, longer, again⟩ => ⟨further, Nat.lt_of_succ_lt longer, again⟩

/-- A walk that comes to a circle goes round it once, and stops where it came to
it. -/
theorem follow_of_onCircle {next : TypeId} {steps : Nat} {passed : List TypeId}
    (cell : types.get id = .alias name (some next)) (circle : types.OnCircle id)
    (walking : types.Walking steps passed) (apart : ∀ other ∈ passed, ¬ types.OnCircle other) :
    types.follow steps passed id = .error (.cycle name id) := by
  have aliased := circle.isAlias
  have new : id ∉ passed := fun met => apart id met circle
  have ahead : ∃ length, types.Chain length next id := by
    rcases circle with ⟨length, chain⟩
    cases chain with
    | step target rest =>
        cases cell.symm.trans target
        exact ⟨length, rest⟩
  rcases ahead with ⟨length, chain⟩
  have back : ∃ distance first, types.First (· = id) distance next first :=
    First.exists_of_chain chain rfl
  rcases back with ⟨distance, _, first⟩
  cases first.holds
  cases steps with
  | zero => exact absurd (walking.mem_of_zero aliased) new
  | succ steps =>
      unfold follow
      simp only [cell, if_neg new]
      refine follow_of_round cell first (circle.onward (.step cell (.here next)))
        (walking.next new aliased) List.mem_cons_self fun other listed => ?_
      rcases List.mem_cons.mp listed with same | earlier
      · exact .inl same
      · exact .inr (.inl (apart other earlier))

/-- A walk stops at the first number on a circle.  What it passes before is on no
circle, so it is not met again. -/
theorem follow_of_first {next : TypeId} {count steps : Nat} {passed : List TypeId}
    (cell : types.get stop = .alias name (some next))
    (first : types.First types.OnCircle count id stop) (walking : types.Walking steps passed)
    (apart : ∀ other ∈ passed, ¬ types.OnCircle other)
    (behind : ∀ other ∈ passed, ∃ further, types.Chain (further + 1) other id) :
    types.follow steps passed id = .error (.cycle name stop) := by
  induction count generalizing id steps passed with
  | zero =>
      cases first.chain
      exact follow_of_onCircle cell first.holds walking apart
  | succ count inductionHypothesis =>
      rcases first.onward with ⟨other, next, target, off, rest⟩
      have aliased : types.isAlias id = true := isAlias_eq_true_iff.mpr ⟨_, _, target⟩
      have new : id ∉ passed := fun met => off (behind id met)
      cases steps with
      | zero => exact absurd (walking.mem_of_zero aliased) new
      | succ steps =>
          unfold follow
          simp only [target, if_neg new]
          refine inductionHypothesis rest (walking.next new aliased)
            (List.forall_mem_cons.mpr ⟨off, apart⟩) fun passedBy listed => ?_
          rcases List.mem_cons.mp listed with rfl | earlier
          · exact ⟨0, .step target (.here next)⟩
          · rcases behind passedBy earlier with ⟨further, chain⟩
            exact ⟨further + 1, chain.trans (.step target (.here next))⟩

/-!
## The three ends
-/

/-- An alias whose target is missing. -/
def IsUnresolved (types : Types) (id : TypeId) : Prop :=
  ∃ name, types.get id = .alias name none

theorem IsUnresolved.ends (unresolved : types.IsUnresolved id) : types.Ends id := by
  rcases unresolved with ⟨name, cell⟩
  exact ends_of_unresolved cell

theorem unalias_eq_ok_iff_first {concrete : TypeId} :
    types.unalias id = .ok concrete ↔
      types.FirstOnChain (fun id => types.isAlias id = false) id concrete := by
  rw [unalias_eq_ok_iff, firstOnChain_iff_of_ends fun _ => ends_of_not_isAlias]

theorem unalias_eq_cycle_of_first {next : TypeId} (first : types.FirstOnChain types.OnCircle id stop)
    (cell : types.get stop = .alias name (some next)) :
    types.unalias id = .error (.cycle name stop) := by
  rcases first with ⟨count, first⟩
  exact follow_of_first cell first (.start types) nofun nofun

theorem unalias_eq_cycle_iff :
    types.unalias id = .error (.cycle name stop) ↔
      types.FirstOnChain types.OnCircle id stop ∧
        ∃ next, types.get stop = .alias name (some next) := by
  constructor
  · intro stops
    rcases runsInto_of_unalias stops with ⟨⟨length, chain⟩, circle⟩
    rcases First.exists_of_chain chain circle with ⟨count, other, first⟩
    rcases first.holds.exists_target with ⟨otherName, next, cell⟩
    -- The walk stops at the first number on the circle, so that is where it has stopped.
    cases stops.symm.trans (unalias_eq_cycle_of_first ⟨count, first⟩ cell)
    exact ⟨⟨count, first⟩, next, cell⟩
  · rintro ⟨first, next, cell⟩
    exact unalias_eq_cycle_of_first first cell

/-- A chain to an alias without a target neither goes on nor goes round, so a walk
along it can end in no other way. -/
theorem unalias_eq_unresolved_iff :
    types.unalias id = .error (.unresolved name stop) ↔
      types.FirstOnChain types.IsUnresolved id stop ∧ types.get stop = .alias name none := by
  rw [firstOnChain_iff_of_ends fun _ => IsUnresolved.ends]
  constructor
  · intro stops
    have cell := target_of_follow_unresolved stops
    exact ⟨⟨(chain_of_follow_error stops).2, name, cell⟩, cell⟩
  · rintro ⟨⟨⟨steps, chain⟩, _⟩, cell⟩
    have ends := ends_of_unresolved cell
    cases walk : types.unalias id with
    | ok concrete =>
        rcases unalias_eq_ok_iff.mp walk with ⟨⟨length, way⟩, arrived⟩
        cases ends.last_eq chain (ends_of_not_isAlias arrived) way
        simp [isAlias, cell] at arrived
    | error error =>
        cases error with
        | cycle otherName other =>
            rcases runsInto_of_unalias walk with ⟨⟨length, way⟩, circle⟩
            have onCircle : types.OnCircle stop := by
              rcases chain.total way with ⟨further, ahead⟩ | ⟨further, behind⟩
              · cases ahead with
                | here => exact circle
                | step target _ => exact absurd target (ends _ _)
              · exact circle.onward behind
            rcases onCircle.exists_target with ⟨_, _, target⟩
            exact absurd target (ends _ _)
        | unresolved otherName other =>
            have otherCell := target_of_follow_unresolved walk
            rcases (chain_of_follow_error walk).2 with ⟨length, way⟩
            cases ends.last_eq chain (ends_of_unresolved otherCell) way
            cases cell.symm.trans otherCell
            rfl

/-!
## Tables whose numbers are taken
-/

/-- The types of a table refer to numbers that are taken. -/
def InRange (types : Types) : Prop :=
  ∀ id, ∀ part ∈ (types.get id).parts, types.Holds part

theorem inRange_basic : basic.InRange := by
  intro id part member
  rw [parts_basic] at member
  cases member

/-- A new declaration refers to nothing yet. -/
theorem InRange.declare (inRange : types.InRange) (name : String) (span : Span) :
    (types.declare name span).2.InRange := by
  have grows : ∀ {part}, types.Holds part → (types.declare name span).2.Holds part := by
    intro part held
    rw [Holds, size_declare]
    exact Nat.lt_succ_of_lt held
  intro id part member
  by_cases held : types.Holds id
  · rw [get_declare held] at member
    exact grows (inRange id part member)
  · rw [declare_eq, get, getElem?_extend_of_not_holds held] at member
    cases index : id.number - types.size <;> rw [index] at member <;> cases member

theorem InRange.define (inRange : types.InRange) {type : Ty}
    (parts : ∀ part ∈ type.parts, types.Holds part) (id : TypeId) :
    (types.define id type).InRange := by
  have stays : ∀ {part}, types.Holds part → (types.define id type).Holds part := by
    intro part held
    rwa [Holds, size_define]
  intro other part member
  by_cases same : other = id
  · subst same
    by_cases held : types.Holds other
    · rw [get_define_self held] at member
      exact stays (parts part member)
    · rw [get_of_not_holds (by rwa [Holds, size_define])] at member
      cases member
  · rw [get_define_of_ne same] at member
    exact stays (inRange other part member)

/-- Following aliases ends, after no more steps than the table has cells and one,
in a table whose types refer to numbers of the table.  It never leaves the table.
It arrives at the first number on the chain that is no alias, or stops at the
first alias without a target, or else at the first alias that lies on a circle;
one of the three is there, and the name that is told is the one of that alias.
So every member of a circle stops at itself. -/
theorem walk_ends_with_chain (inRange : types.InRange) (held : types.Holds id) :
    (∃ steps ≤ types.size + 1, types.Loop [] id steps (types.unalias id)) ∧
    (∀ steps outcome, types.Loop [] id steps outcome →
      steps ≤ types.size + 1 ∧ outcome = types.unalias id) ∧
    (∀ steps last, types.Chain steps id last → types.Holds last) ∧
    ((∃ concrete, types.FirstOnChain (fun id => types.isAlias id = false) id concrete) ∨
      (∃ stop, types.FirstOnChain types.IsUnresolved id stop) ∨
      ∃ stop, types.FirstOnChain types.OnCircle id stop) ∧
    (∀ concrete, types.unalias id = .ok concrete ↔
      types.FirstOnChain (fun id => types.isAlias id = false) id concrete) ∧
    (∀ name stop, types.unalias id = .error (.unresolved name stop) ↔
      types.FirstOnChain types.IsUnresolved id stop ∧ types.get stop = .alias name none) ∧
    (∀ name stop, types.unalias id = .error (.cycle name stop) ↔
      types.FirstOnChain types.OnCircle id stop ∧
        ∃ next, types.get stop = .alias name (some next)) ∧
    ∀ member, types.OnCircle member → ∃ name next,
      types.get member = .alias name (some next) ∧
        types.unalias member = .error (.cycle name member) := by
  rcases (Walking.start types).loop id with ⟨count, bound, loop⟩
  refine ⟨⟨count, bound, loop⟩, fun steps outcome other => ?_, fun steps last chain => ?_, ?_,
    fun concrete => unalias_eq_ok_iff_first, fun name stop => unalias_eq_unresolved_iff,
    fun name stop => unalias_eq_cycle_iff, fun member circle => ?_⟩
  · rcases other.unique loop with ⟨rfl, rfl⟩
    exact ⟨bound, rfl⟩
  · exact chain.carry types.Holds held fun id part _ member => inRange id part member
  · cases walk : types.unalias id with
    | ok concrete => exact .inl ⟨concrete, unalias_eq_ok_iff_first.mp walk⟩
    | error error =>
        cases error with
        | unresolved name stop =>
            exact .inr (.inl ⟨stop, (unalias_eq_unresolved_iff.mp walk).1⟩)
        | cycle name stop => exact .inr (.inr ⟨stop, (unalias_eq_cycle_iff.mp walk).1⟩)
  · rcases circle.exists_target with ⟨name, next, cell⟩
    have first : types.First types.OnCircle 0 member member := ⟨.here member, circle, nofun⟩
    exact ⟨name, next, cell, unalias_eq_cycle_of_first ⟨0, first⟩ cell⟩

/-- Two aliases of each other, a third one that leads to them, and a fourth one
whose target is missing. -/
def tailAndCircle : Types :=
  let here : Span := ⟨1, 1, 1, 1⟩
  let declared := ["c", "d", "e", "p"].foldl (fun types name => (types.declare name here).2) basic
  ((declared.define ⟨5⟩ (.alias "c" (some ⟨6⟩))).define ⟨6⟩ (.alias "d" (some ⟨5⟩))).define ⟨7⟩
    (.alias "e" (some ⟨5⟩))

/-- The walk from the third alias stops where it came to the circle, after four
steps. -/
theorem walk_ends_with_chain_tailAndCircle :
    tailAndCircle.InRange ∧ tailAndCircle.Holds ⟨7⟩ ∧
    tailAndCircle.unalias ⟨7⟩ = .error (.cycle "c" ⟨5⟩) ∧
    tailAndCircle.Loop [] ⟨7⟩ 4 (.error (.cycle "c" ⟨5⟩)) ∧ 4 ≤ tailAndCircle.size + 1 ∧
    tailAndCircle.FirstOnChain tailAndCircle.OnCircle ⟨7⟩ ⟨5⟩ ∧
    tailAndCircle.unalias ⟨6⟩ = .error (.cycle "d" ⟨6⟩) ∧
    tailAndCircle.unalias ⟨8⟩ = .error (.unresolved "p" ⟨8⟩) := by
  have inRange : tailAndCircle.InRange :=
    (((((inRange_basic.declare _ _).declare _ _).declare _ _).declare _ _).define (by decide) _
      |>.define (by decide) _).define (by decide) _
  have held : tailAndCircle.Holds ⟨7⟩ := by decide
  have stops : tailAndCircle.unalias ⟨7⟩ = .error (.cycle "c" ⟨5⟩) := by decide
  have loop : tailAndCircle.Loop [] ⟨7⟩ 4 (.error (.cycle "c" ⟨5⟩)) :=
    .onward rfl nofun (.onward rfl (by decide) (.onward rfl (by decide) (.again rfl (by decide))))
  rcases walk_ends_with_chain inRange held with ⟨_, loops, _, _, _, _, cycles, members⟩
  have first := ((cycles "c" ⟨5⟩).mp stops).1
  have circle : tailAndCircle.OnCircle ⟨6⟩ := ⟨1, .step rfl (.step rfl (.here _))⟩
  rcases members ⟨6⟩ circle with ⟨name, next, cell, itself⟩
  cases cell
  exact ⟨inRange, held, stops, loop, (loops _ _ loop).1, first, itself, by decide⟩

end Types
end StaticSemantics
