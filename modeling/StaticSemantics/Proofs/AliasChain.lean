import StaticSemantics.Types.Compatibility

namespace StaticSemantics

/-!
# Chains of aliases

A walk along aliases is a computation with a bound and a memory.  Here it is
compared with the chain itself, which has neither: a finite number of steps,
each from an alias to its target.  A walk arrives exactly where a chain ends.
The bound is never what stops it, because the aliases that it remembers are all
different and all in the table.
-/

theorem TypeId.eq_of_number_eq {first second : TypeId} (same : first.number = second.number) :
    first = second := by
  cases first
  cases second
  exact congrArg TypeId.mk same

/-- The numbers that a type refers to. -/
def Ty.parts : Ty → List TypeId
  | .record fields => fields.map (·.type)
  | .array element => [element]
  | .alias _ (some target) => [target]
  | _ => []

namespace Types

/-- Following `steps` aliases leads from one number to another. -/
inductive Chain (types : Types) : Nat → TypeId → TypeId → Prop
  | here (id : TypeId) : Chain types 0 id id
  | step {name : String} {id next last : TypeId} {steps : Nat}
      (target : types.get id = .alias name (some next)) (rest : Chain types steps next last) :
      Chain types (steps + 1) id last

/-- A number stands for the type at the end of its chain of aliases, unless
that is the error type. -/
def StandsFor (types : Types) (id concrete : TypeId) : Prop :=
  (∃ steps, types.Chain steps id concrete) ∧ types.isAlias concrete = false ∧
    types.get concrete ≠ .error

theorem isAlias_eq_true_iff {types : Types} {id : TypeId} :
    types.isAlias id = true ↔ ∃ name target, types.get id = .alias name target := by
  unfold isAlias
  split <;> simp_all

/-- What is no alias stands for itself. -/
theorem representative_of_not_isAlias {types : Types} {id : TypeId}
    (ends : types.isAlias id = false) : types.representative id = id := by
  rw [representative, unalias_of_not_isAlias ends]

theorem holds_of_get_ne_error {types : Types} {id : TypeId} (known : types.get id ≠ .error) :
    types.Holds id := by
  by_cases held : types.Holds id
  · exact held
  · exact absurd (get_of_not_holds held) known

theorem holds_of_alias {types : Types} {id : TypeId} {name : String} {target : Option TypeId}
    (aliased : types.get id = .alias name target) : types.Holds id :=
  holds_of_get_ne_error (by simp [aliased])

theorem holds_of_isAlias {types : Types} {id : TypeId} (aliased : types.isAlias id = true) :
    types.Holds id := by
  rcases isAlias_eq_true_iff.mp aliased with ⟨name, target, cell⟩
  exact holds_of_alias cell

theorem fieldsOf?_eq_some_iff {types : Types} {id : TypeId} {fields : List Field} :
    types.fieldsOf? id = some fields ↔ types.concrete id = .record fields := by
  unfold fieldsOf?
  split <;> simp_all

theorem elementOf?_eq_some_iff {types : Types} {id element : TypeId} :
    types.elementOf? id = some element ↔ types.concrete id = .array element := by
  unfold elementOf?
  split <;> simp_all

namespace Chain

variable {types : Types} {id next last : TypeId}

theorem trans {first second : Nat} (before : types.Chain first id next)
    (after : types.Chain second next last) : types.Chain (first + second) id last := by
  induction before with
  | here id => simpa using after
  | @step name id middle next steps target rest inductionHypothesis =>
      rw [Nat.add_right_comm]
      exact .step target (inductionHypothesis after)

/-- Where a chain has come to an end, its length and its end are determined. -/
theorem unique {first second : Nat} {other : TypeId} (one : types.Chain first id last)
    (ends : types.isAlias last = false) (two : types.Chain second id other)
    (otherEnds : types.isAlias other = false) : first = second ∧ last = other := by
  induction one generalizing second with
  | here id =>
      cases two with
      | here => exact ⟨rfl, rfl⟩
      | step target rest => simp [isAlias, target] at ends
  | step target rest inductionHypothesis =>
      cases two with
      | here => simp [isAlias, target] at otherEnds
      | step otherTarget otherRest =>
          cases target.symm.trans otherTarget
          rcases inductionHypothesis ends otherRest with ⟨same, sameEnd⟩
          exact ⟨congrArg (· + 1) same, sameEnd⟩

/-- What holds of a number and goes over to the parts of types holds at the end
of its chain. -/
theorem carry {steps : Nat} (property : TypeId → Prop) (start : property id)
    (onward : ∀ id part, property id → part ∈ (types.get id).parts → property part)
    (chain : types.Chain steps id last) : property last := by
  induction chain with
  | here id => exact start
  | @step name id next last steps target rest inductionHypothesis =>
      have part : next ∈ (types.get id).parts := by
        rw [target]
        exact List.mem_singleton_self next
      exact inductionHypothesis (onward id next start part)

/-- Everything that is passed keeps its meaning in a table that agrees on what
the first table knows. -/
theorem mono {larger : Types} {steps : Nat}
    (agree : ∀ id, types.Holds id → larger.get id = types.get id)
    (chain : types.Chain steps id last) : larger.Chain steps id last := by
  induction chain with
  | here id => exact .here id
  | step target rest inductionHypothesis =>
      exact .step ((agree _ (holds_of_alias target)).trans target) inductionHypothesis

end Chain

/-- A walk has passed as many different aliases as its bound has shrunk. -/
structure Walking (types : Types) (steps : Nat) (passed : List TypeId) : Prop where
  nodup : passed.Nodup
  aliases : ∀ id ∈ passed, types.isAlias id = true
  bound : steps + passed.length = types.size

theorem Walking.start (types : Types) : types.Walking types.size [] :=
  ⟨.nil, by simp, rfl⟩

theorem Walking.next {types : Types} {steps : Nat} {passed : List TypeId} {id : TypeId}
    (walking : types.Walking (steps + 1) passed) (new : id ∉ passed)
    (aliased : types.isAlias id = true) : types.Walking steps (id :: passed) where
  nodup := List.nodup_cons.mpr ⟨new, walking.nodup⟩
  aliases := by simpa [aliased] using walking.aliases
  bound := by
    have bound := walking.bound
    rw [List.length_cons]
    omega

/-- A table has no more different aliases than cells. -/
theorem length_le_size {types : Types} {passed : List TypeId} (nodup : passed.Nodup)
    (aliases : ∀ id ∈ passed, types.isAlias id = true) : passed.length ≤ types.size := by
  have distinct : (passed.map (·.number)).Nodup :=
    List.Pairwise.map _ (fun _ _ different same => different (TypeId.eq_of_number_eq same)) nodup
  have inside : passed.map (·.number) ⊆ List.range types.size := by
    intro number member
    rcases List.mem_map.mp member with ⟨id, listed, rfl⟩
    exact List.mem_range.mpr (holds_of_isAlias (aliases id listed))
  simpa using distinct.length_le_of_subset inside

/-- When the bound is used up, every alias has been passed. -/
theorem Walking.mem_of_zero {types : Types} {passed : List TypeId} {id : TypeId}
    (walking : types.Walking 0 passed) (aliased : types.isAlias id = true) : id ∈ passed := by
  by_cases new : id ∈ passed
  · exact new
  · have longer : (id :: passed).length ≤ types.size :=
      length_le_size (List.nodup_cons.mpr ⟨new, walking.nodup⟩)
        (by simpa [aliased] using walking.aliases)
    have bound := walking.bound
    rw [List.length_cons] at longer
    omega

/-- A walk arrives at the end of a chain.  What was passed lies further from
the end than what is still to come, so nothing is met twice. -/
theorem follow_of_chain {types : Types} {id concrete : TypeId} {length steps : Nat}
    {passed : List TypeId} (chain : types.Chain length id concrete)
    (ends : types.isAlias concrete = false) (walking : types.Walking steps passed)
    (behind : ∀ other ∈ passed, ∃ further, length < further ∧ types.Chain further other concrete) :
    types.follow steps passed id = .ok concrete := by
  induction chain generalizing steps passed with
  | here id =>
      unfold follow
      split
      · simp_all [isAlias]
      · rfl
  | @step name id next concrete length target rest inductionHypothesis =>
      have aliased : types.isAlias id = true := isAlias_eq_true_iff.mpr ⟨_, _, target⟩
      have new : id ∉ passed := by
        intro met
        rcases behind id met with ⟨further, longer, other⟩
        have same := (Chain.step target rest).unique ends other ends
        omega
      cases steps with
      | zero => exact absurd (walking.mem_of_zero aliased) new
      | succ steps =>
          unfold follow
          simp only [target, if_neg new]
          apply inductionHypothesis ends (walking.next new aliased)
          intro other member
          rcases List.mem_cons.mp member with rfl | earlier
          · exact ⟨length + 1, Nat.lt_succ_self _, .step target rest⟩
          · rcases behind other earlier with ⟨further, longer, otherChain⟩
            exact ⟨further, by omega, otherChain⟩

theorem chain_of_follow {types : Types} {steps : Nat} {passed : List TypeId} {id concrete : TypeId}
    (arrives : types.follow steps passed id = .ok concrete) :
    ∃ length, types.Chain length id concrete := by
  fun_induction follow types steps passed id with
  | case3 passed id name new next steps target inductionHypothesis =>
      rcases inductionHypothesis arrives with ⟨length, chain⟩
      exact ⟨length + 1, .step target chain⟩
  | case5 => cases arrives; exact ⟨0, .here _⟩
  | _ => cases arrives

/-- A walk that does not arrive stops at an alias that it has come to. -/
theorem chain_of_follow_error {types : Types} {steps : Nat} {passed : List TypeId} {id : TypeId}
    {error : AliasError} (stops : types.follow steps passed id = .error error) :
    types.isAlias error.stop = true ∧ ∃ length, types.Chain length id error.stop := by
  fun_induction follow types steps passed id with
  | case3 passed id name new next steps target inductionHypothesis =>
      rcases inductionHypothesis stops with ⟨aliased, length, chain⟩
      exact ⟨aliased, length + 1, .step target chain⟩
  | case5 => cases stops
  | _ => cases stops; exact ⟨by simp_all [isAlias, AliasError.stop], 0, .here _⟩

/-- Only an alias without a target is left unresolved. -/
theorem target_of_follow_unresolved {types : Types} {steps : Nat} {passed : List TypeId}
    {id stop : TypeId} {name : String}
    (stops : types.follow steps passed id = .error (.unresolved name stop)) :
    types.get stop = .alias name none := by
  fun_induction follow types steps passed id with
  | case3 passed id name new next steps target inductionHypothesis =>
      exact inductionHypothesis stops
  | _ => simp_all

/-- Following aliases arrives exactly where a chain ends. -/
theorem unalias_eq_ok_iff {types : Types} {id concrete : TypeId} :
    types.unalias id = .ok concrete ↔
      (∃ length, types.Chain length id concrete) ∧ types.isAlias concrete = false := by
  constructor
  · intro arrives
    exact ⟨chain_of_follow arrives, isAlias_of_follow arrives⟩
  · rintro ⟨⟨length, chain⟩, ends⟩
    exact follow_of_chain chain ends (Walking.start types) (by simp)

theorem standsFor_iff {types : Types} {id concrete : TypeId} :
    types.StandsFor id concrete ↔
      types.unalias id = .ok concrete ∧ types.get concrete ≠ .error := by
  rw [unalias_eq_ok_iff, StandsFor, and_assoc]

/-- A walk that stops short of a proper type stops at an alias that stands for
nothing either. -/
theorem not_standsFor_stop {types : Types} {id concrete : TypeId} {error : AliasError}
    (stops : types.unalias id = .error error) : ¬ types.StandsFor error.stop concrete := by
  rintro ⟨⟨rest, onward⟩, ends, _⟩
  rcases (chain_of_follow_error stops).2 with ⟨length, chain⟩
  have arrives := unalias_eq_ok_iff.mpr ⟨⟨_, chain.trans onward⟩, ends⟩
  rw [stops] at arrives
  cases arrives

namespace StandsFor

variable {types : Types} {id concrete : TypeId}

theorem unalias_eq (stands : types.StandsFor id concrete) : types.unalias id = .ok concrete :=
  (standsFor_iff.mp stands).1

theorem representative_eq (stands : types.StandsFor id concrete) :
    types.representative id = concrete := by
  simp [representative, stands.unalias_eq]

theorem concrete_eq (stands : types.StandsFor id concrete) :
    types.concrete id = types.get concrete := by
  rw [Types.concrete, stands.representative_eq]

theorem get_ne_error (stands : types.StandsFor id concrete) : types.get concrete ≠ .error :=
  stands.2.2

theorem isError_eq (stands : types.StandsFor id concrete) : types.isError id = false := by
  simp [isError, stands.concrete_eq, stands.get_ne_error]

theorem unique {other : TypeId} (stands : types.StandsFor id concrete)
    (otherwise : types.StandsFor id other) : concrete = other :=
  stands.representative_eq.symm.trans otherwise.representative_eq

/-- What is neither an alias nor the error type stands for itself. -/
theorem self (proper : types.get id ≠ .error) (ends : types.isAlias id = false) :
    types.StandsFor id id :=
  ⟨⟨0, .here id⟩, ends, proper⟩

theorem mono {larger : Types} (agree : ∀ id, types.Holds id → larger.get id = types.get id)
    (stands : types.StandsFor id concrete) : larger.StandsFor id concrete := by
  rcases stands with ⟨⟨steps, chain⟩, ends, proper⟩
  have same := agree concrete (holds_of_get_ne_error proper)
  refine ⟨⟨steps, chain.mono agree⟩, ?_, ?_⟩
  · rw [isAlias, same]
    exact ends
  · rw [same]
    exact proper

end StandsFor

end Types
end StaticSemantics
