import StaticSemantics.Proofs.AliasChain

namespace StaticSemantics
namespace Types

/-!
# Circles of aliases

A chain of aliases that never arrives has to go round, because a table has only
so many aliases.  The circle into which it runs does not depend on where one
looks: from any two of its members the chain leads from each to the other.  So
the alias at which a walk stops stands for the whole circle.
-/

/-- A number lies on a circle if its chain of aliases comes back to it. -/
def OnCircle (types : Types) (id : TypeId) : Prop :=
  ∃ steps, types.Chain (steps + 1) id id

/-- The chain of aliases from `id` comes to `stop`, which lies on a circle. -/
def RunsInto (types : Types) (id stop : TypeId) : Prop :=
  (∃ steps, types.Chain steps id stop) ∧ types.OnCircle stop

/-- The chain of aliases from a number never reaches a type that is no alias. -/
def NeverArrives (types : Types) (id : TypeId) : Prop :=
  ∀ steps last, types.Chain steps id last → types.isAlias last = true

variable {types : Types} {id next last other stop : TypeId}

namespace Chain

/-- A chain can be cut at any length. -/
theorem exists_middle {first second : Nat} (chain : types.Chain (first + second) id last) :
    ∃ middle, types.Chain first id middle ∧ types.Chain second middle last := by
  induction first generalizing id with
  | zero => exact ⟨id, .here id, by simpa using chain⟩
  | succ first inductionHypothesis =>
      rw [Nat.add_right_comm] at chain
      cases chain with
      | step target rest =>
          rcases inductionHypothesis rest with ⟨middle, before, after⟩
          exact ⟨middle, .step target before, after⟩

/-- The length of a chain determines its end. -/
theorem last_unique {steps : Nat} (one : types.Chain steps id last)
    (two : types.Chain steps id other) : last = other := by
  induction one with
  | here id =>
      cases two
      rfl
  | step target rest inductionHypothesis =>
      cases two with
      | step otherTarget otherRest =>
          cases target.symm.trans otherTarget
          exact inductionHypothesis otherRest

/-- The longer of two chains goes on where the shorter one ends. -/
theorem rest {first second : Nat} (shorter : types.Chain first id next)
    (longer : types.Chain (first + second) id last) : types.Chain second next last := by
  rcases longer.exists_middle with ⟨middle, before, after⟩
  rw [shorter.last_unique before]
  exact after

/-- Of two numbers on one chain, one comes before the other. -/
theorem total {first second : Nat} (one : types.Chain first id next)
    (two : types.Chain second id last) :
    (∃ steps, types.Chain steps next last) ∨ ∃ steps, types.Chain steps last next := by
  rcases Nat.le_total first second with shorter | longer
  · obtain ⟨steps, rfl⟩ := Nat.exists_eq_add_of_le shorter
    exact .inl ⟨steps, one.rest two⟩
  · obtain ⟨steps, rfl⟩ := Nat.exists_eq_add_of_le longer
    exact .inr ⟨steps, two.rest one⟩

/-- Going round many times. -/
theorem round {steps : Nat} (circle : types.Chain steps id id) (times : Nat) :
    types.Chain (times * steps) id id := by
  induction times with
  | zero => simpa using Chain.here id
  | succ times inductionHypothesis =>
      rw [Nat.succ_mul]
      exact inductionHypothesis.trans circle

/-- Where a chain goes on, there is an alias. -/
theorem isAlias_of_succ {steps : Nat} (chain : types.Chain (steps + 1) id last) :
    types.isAlias id = true := by
  cases chain with
  | step target _ => exact isAlias_eq_true_iff.mpr ⟨_, _, target⟩

end Chain

namespace OnCircle

theorem isAlias (circle : types.OnCircle id) : types.isAlias id = true := by
  rcases circle with ⟨steps, chain⟩
  exact chain.isAlias_of_succ

/-- From a circle every way leads back. -/
theorem back {steps : Nat} (circle : types.OnCircle id) (away : types.Chain steps id other) :
    ∃ further, types.Chain further other id := by
  rcases circle with ⟨around, chain⟩
  have long : types.Chain (steps + steps * around) id id := by
    have rounds := chain.round steps
    rwa [Nat.mul_succ, Nat.add_comm] at rounds
  exact ⟨_, away.rest long⟩

/-- A circle is never left. -/
theorem onward {steps : Nat} (circle : types.OnCircle id) (away : types.Chain steps id other) :
    types.OnCircle other := by
  rcases circle.back away with ⟨further, home⟩
  rcases circle with ⟨around, chain⟩
  refine ⟨further + around + steps, ?_⟩
  have loop := home.trans (chain.trans away)
  rwa [show further + (around + 1 + steps) = further + around + steps + 1 by omega] at loop

theorem runsInto (circle : types.OnCircle id) : types.RunsInto id id :=
  ⟨⟨0, .here id⟩, circle⟩

end OnCircle

namespace RunsInto

/-- Between two places where a chain runs into a circle the chain goes on. -/
theorem chain (one : types.RunsInto id stop) (two : types.RunsInto id other) :
    ∃ steps, types.Chain steps stop other := by
  rcases one with ⟨⟨first, toStop⟩, _⟩
  rcases two with ⟨⟨second, toOther⟩, circle⟩
  rcases toStop.total toOther with before | ⟨steps, behind⟩
  · exact before
  · exact circle.back behind

theorem neverArrives (runs : types.RunsInto id stop) : types.NeverArrives id := by
  intro steps last away
  rcases runs with ⟨⟨length, toStop⟩, circle⟩
  rcases away.total toStop with ⟨further, before⟩ | ⟨further, behind⟩
  · cases further with
    | zero =>
        cases before
        exact circle.isAlias
    | succ further => exact before.isAlias_of_succ
  · exact (circle.onward behind).isAlias

end RunsInto

/-- A walk that goes round stops on the circle.  All that was passed leads to
where the walk is, so meeting one of them again closes a circle. -/
theorem runsInto_of_follow {steps : Nat} {passed : List TypeId} {name : String}
    (walking : types.Walking steps passed)
    (behind : ∀ other ∈ passed, ∃ further, types.Chain (further + 1) other id)
    (stops : types.follow steps passed id = .error (.cycle name stop)) :
    types.RunsInto id stop := by
  fun_induction follow types steps passed id with
  | case1 steps passed id name target cell met =>
      cases stops
      exact OnCircle.runsInto (behind _ met)
  | case2 steps passed id name cell new => cases stops
  | case3 passed id name new next steps target inductionHypothesis =>
      have aliased := isAlias_eq_true_iff.mpr ⟨_, _, target⟩
      have onward : ∀ other ∈ id :: passed, ∃ further, types.Chain (further + 1) other next := by
        intro other member
        rcases List.mem_cons.mp member with rfl | earlier
        · exact ⟨0, .step target (.here next)⟩
        · rcases behind other earlier with ⟨further, chain⟩
          exact ⟨further + 1, chain.trans (.step target (.here next))⟩
      rcases inductionHypothesis (walking.next new aliased) onward stops with
        ⟨⟨length, chain⟩, circle⟩
      exact ⟨⟨length + 1, .step target chain⟩, circle⟩
  | case4 passed id name new next target =>
      exact absurd (walking.mem_of_zero (isAlias_eq_true_iff.mpr ⟨_, _, target⟩)) new
  | case5 steps passed id cell => cases stops

theorem runsInto_of_unalias {name : String}
    (stops : types.unalias id = .error (.cycle name stop)) : types.RunsInto id stop :=
  runsInto_of_follow (Walking.start types) (by simp) stops

/-- A walk fails exactly where the chain never arrives. -/
theorem neverArrives_iff : types.NeverArrives id ↔ ∃ error, types.unalias id = .error error := by
  constructor
  · intro never
    cases arrives : types.unalias id with
    | error error => exact ⟨error, rfl⟩
    | ok concrete =>
        rcases unalias_eq_ok_iff.mp arrives with ⟨⟨length, chain⟩, ends⟩
        rw [never length concrete chain] at ends
        cases ends
  · intro stops steps last chain
    rcases stops with ⟨error, stops⟩
    cases ends : types.isAlias last with
    | true => rfl
    | false =>
        have arrives := unalias_eq_ok_iff.mpr ⟨⟨steps, chain⟩, ends⟩
        rw [stops] at arrives
        cases arrives

end Types
end StaticSemantics
