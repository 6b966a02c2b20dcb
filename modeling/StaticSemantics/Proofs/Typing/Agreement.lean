import StaticSemantics.Proofs.Typing.Rules
import StaticSemantics.Proofs.WellFormed

namespace StaticSemantics
namespace Types

/-!
# Computed and declared agreement of types

The rules of the checker follow aliases by computation, and let the error type
pass everywhere.  The typing rules speak of chains of aliases that end at a
known type.  In a well-formed table the two say the same of all types that are
known.
-/

variable {types : Types} {id first second : TypeId}

namespace WellFormed

variable (wellFormed : types.WellFormed)

include wellFormed

theorem get_error : types.get .error = .error :=
  wellFormed.get_of_lt (by decide)

theorem get_int : types.get .int = .int :=
  wellFormed.get_of_lt (by decide)

/-- The integers have one number. -/
theorem eq_int_of_get (integer : types.get id = .int) : id = .int := by
  by_cases behind : 5 ≤ id.number
  · have held := holds_of_get_ne_error (show types.get id ≠ .error by simp [integer])
    have declared := (wellFormed.declared id held behind).1
    rw [integer] at declared
    exact declared.elim
  · have small := Nat.lt_of_not_le behind
    rw [wellFormed.get_of_lt small] at integer
    obtain ⟨number⟩ := id
    match number with
    | 0 => rfl
    | 1 | 2 | 3 | 4 => cases integer
    | number + 5 => exact absurd (Nat.le_add_left 5 number) behind

/-- What is not of the error type stands for the type at the end of its chain. -/
theorem standsFor_representative (known : types.isError id = false) :
    types.StandsFor id (types.representative id) := by
  have proper : types.get (types.representative id) ≠ .error := by
    simpa [isError, concrete] using known
  cases arrives : types.unalias id with
  | error error =>
      have broken : types.representative id = .error := by simp [representative, arrives]
      rw [broken, wellFormed.get_error] at proper
      exact absurd rfl proper
  | ok last =>
      have ends : types.representative id = last := by simp [representative, arrives]
      rw [ends] at proper ⊢
      exact standsFor_iff.mpr ⟨arrives, proper⟩

theorem isInteger_of_known (known : types.isError id = false)
    (integer : types.isInteger id = true) : types.IsInteger id := by
  have stands := wellFormed.standsFor_representative known
  have proper := stands.get_ne_error
  unfold isInteger concrete at integer
  split at integer
  · rename_i isInt
    rw [wellFormed.eq_int_of_get isInt] at stands
    exact stands
  · rename_i isError
    exact absurd isError proper
  · cases integer

theorem isRecord_of_fieldsOf? {fields : List Field} (found : types.fieldsOf? id = some fields) :
    types.IsRecord id (types.representative id) fields := by
  have record := fieldsOf?_eq_some_iff.mp found
  have known : types.isError id = false := by simp [isError, record]
  exact ⟨wellFormed.standsFor_representative known, record⟩

theorem isArray_of_elementOf? {element : TypeId} (found : types.elementOf? id = some element) :
    types.IsArray id (types.representative id) element := by
  have array := elementOf?_eq_some_iff.mp found
  have known : types.isError id = false := by simp [isError, array]
  exact ⟨wellFormed.standsFor_representative known, array⟩

theorem matches_of_compatible (firstKnown : types.isError first = false)
    (secondKnown : types.isError second = false)
    (compatible : types.compatible first second = true) : types.Matches first second := by
  have one := wellFormed.standsFor_representative firstKnown
  have other := wellFormed.standsFor_representative secondKnown
  rw [Types.compatible, Bool.or_eq_true, beq_iff_eq] at compatible
  rcases compatible with same | agree
  · rw [← same] at other
    exact .same one other
  · unfold Types.agree at agree
    split at agree
    · rename_i isError
      exact absurd isError one.get_ne_error
    · rename_i isError _
      exact absurd isError other.get_ne_error
    · rename_i isNil isRecord
      exact .nilFirst one isNil ⟨other, isRecord⟩
    · rename_i isRecord isNil
      exact .nilSecond ⟨one, isRecord⟩ other isNil
    · cases agree

theorem joins_of_known (negative : TypeId) (known : types.isError id = false) :
    types.Joins id negative (if types.isNil id then negative else id) := by
  have stands := wellFormed.standsFor_representative known
  by_cases isNil : types.isNil id = true
  · rw [if_pos isNil]
    exact .negative stands (by simpa [Types.isNil, concrete] using isNil)
  · rw [if_neg isNil]
    exact .positive stands (by simpa [Types.isNil, concrete] using isNil)

theorem isStorable_of_known (known : types.isError id = false) (notNil : types.isNil id = false)
    (notVoid : types.isVoid id = false) : types.IsStorable id :=
  ⟨types.representative id, wellFormed.standsFor_representative known,
    by simpa [Types.isNil, concrete] using notNil, by simpa [Types.isVoid, concrete] using notVoid⟩

theorem isInteger (integer : types.IsInteger id) : types.isInteger id = true := by
  rw [Types.isInteger, integer.concrete_eq, wellFormed.get_int]

/-- What agrees with the integers is one of them, or is unknown. -/
theorem isInteger_of_compatible (compatible : types.compatible .int id = true) :
    types.isInteger id = true := by
  have ends : types.isAlias .int = false := by simp [isAlias, wellFormed.get_int]
  have self : types.StandsFor .int .int := .self (by simp [wellFormed.get_int]) ends
  rw [Types.compatible, Bool.or_eq_true, beq_iff_eq, self.representative_eq,
    self.concrete_eq, wellFormed.get_int] at compatible
  rcases compatible with same | agree
  · rw [Types.isInteger, concrete, ← same, wellFormed.get_int]
  · unfold Types.isInteger
    cases other : types.concrete id <;> simp_all [Types.agree]

end WellFormed

theorem IsRecord.fieldsOf?_eq {record : TypeId} {fields : List Field}
    (isRecord : types.IsRecord id record fields) : types.fieldsOf? id = some fields :=
  fieldsOf?_eq_some_iff.mpr (isRecord.1.concrete_eq.trans isRecord.2)

theorem IsArray.elementOf?_eq {array element : TypeId} (isArray : types.IsArray id array element) :
    types.elementOf? id = some element :=
  elementOf?_eq_some_iff.mpr (isArray.1.concrete_eq.trans isArray.2)

theorem Matches.compatible (agree : types.Matches first second) :
    types.compatible first second = true := by
  unfold Types.compatible
  cases agree with
  | same one other => simp [one.representative_eq, other.representative_eq]
  | nilFirst one isNil other =>
      simp [one.concrete_eq, isNil, other.1.concrete_eq, other.2, Types.agree]
  | nilSecond one other isNil =>
      simp [one.1.concrete_eq, one.2, other.concrete_eq, isNil, Types.agree]

theorem Joins.eq {negative type : TypeId} (joins : types.Joins id negative type) :
    type = if types.isNil id then negative else id := by
  cases joins with
  | positive stands notNil => simp [isNil, stands.concrete_eq, notNil]
  | negative stands isNil => simp [Types.isNil, stands.concrete_eq, isNil]

theorem IsStorable.isNil_eq (storable : types.IsStorable id) : types.isNil id = false := by
  rcases storable with ⟨concrete, stands, notNil, _⟩
  simpa [isNil, stands.concrete_eq] using notNil

theorem IsStorable.isVoid_eq (storable : types.IsStorable id) : types.isVoid id = false := by
  rcases storable with ⟨concrete, stands, _, notVoid⟩
  simpa [isVoid, stands.concrete_eq] using notVoid

end Types
end StaticSemantics
