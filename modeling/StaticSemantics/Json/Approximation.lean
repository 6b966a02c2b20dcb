import StaticSemantics.Json.Number

namespace StaticSemantics

/-!
# Approximating a number by a floating-point word

A number that is kept is kept as a floating-point word with 53 significant
bits, and it has to fit one.  What decides is the word that is computed for
it, and not its exact value.  Near the largest word the two may differ.

The word is computed in one pass over the digits.  They are gathered into an
integer of 64 bits as long as they fit.  Digits before the point that do not
fit count as powers of ten, and digits after the point that do not fit are
dropped.  The integer is rounded to 53 bits, and so is the power of ten that
remains; the word is their product.  So there are three roundings, each to the
nearest word and at a tie to the even one.

A product that would round up to `2 ^ 1024` is too large for a word.  That is
the case from the middle between the largest word and `2 ^ 1024` on, because
the largest word is odd and loses the tie.
-/

/-- The nearest number with at most `precision` significant bits.  A tie goes to
the one whose last bit is zero. -/
def roundToBits (precision value : Nat) : Nat :=
  let unit := Nat.pow 2 (value.log2 + 1 - precision)
  let units := value / unit
  let rest := value % unit
  if unit < 2 * rest ∨ (2 * rest = unit ∧ units % 2 = 1) then (units + 1) * unit else units * unit

/-- What has enough room is not rounded. -/
theorem roundToBits_of_lt {precision value : Nat} (fits : value < Nat.pow 2 precision) :
    roundToBits precision value = value := by
  by_cases zero : value = 0
  · subst zero
    simp [roundToBits]
  · have few : value.log2 < precision := (Nat.log2_lt zero).mpr fits
    have narrow : value.log2 + 1 - precision = 0 := by omega
    simp [roundToBits, narrow, Nat.mod_one]

/-- Rounding moves a number by at most half a unit of its last bit. -/
theorem roundToBits_near (precision value : Nat) :
    2 * roundToBits precision value ≤ 2 * value + Nat.pow 2 (value.log2 + 1 - precision) ∧
      2 * value ≤ 2 * roundToBits precision value + Nat.pow 2 (value.log2 + 1 - precision) := by
  have positive : 0 < Nat.pow 2 (value.log2 + 1 - precision) := Nat.two_pow_pos _
  have parts := Nat.div_add_mod value (Nat.pow 2 (value.log2 + 1 - precision))
  have small := Nat.mod_lt value positive
  simp only [roundToBits]
  generalize Nat.pow 2 (value.log2 + 1 - precision) = unit at *
  rw [Nat.mul_comm] at parts
  split
  · rename_i up
    rw [Nat.add_mul, Nat.one_mul]
    omega
  · rename_i down
    omega

namespace JsonNumber

/-- Gather digits behind a word of 64 bits as long as they fit.  The digits that
are left begin with the first one that does not. -/
def gather (word : Nat) : List Char → Nat × List Char
  | [] => (word, [])
  | digit :: rest =>
    let longer := 10 * word + (digit.toNat - '0'.toNat)
    if longer < UInt64.size then gather longer rest else (word, digit :: rest)

/-- The gathered digits of a number, and the power of ten that goes with them. -/
def gathered (number : JsonNumber) : Nat × Int :=
  let fraction := number.fraction.getD []
  let (word, skipped) := gather 0 (Nat.toDigits 10 number.whole)
  let (word, dropped) := gather word fraction
  (word, number.exponent.getD 0 + skipped.length - (fraction.length - dropped.length : Nat))

/-- The largest power of ten that is a floating-point word after rounding. -/
def largestPower : Nat := 308

/-- The middle between the largest floating-point word and `2 ^ 1024`. -/
def ceiling : Nat := Nat.pow 2 1024 - Nat.pow 2 970

/-- Whether the floating-point word that is computed for a number is finite.  A
negative power of ten only makes the word smaller. -/
def isFinite (number : JsonNumber) : Bool :=
  let (word, power) := number.gathered
  word == 0 || power < 0 ||
    (power ≤ largestPower &&
      roundToBits 53 word * roundToBits 53 (Nat.pow 10 power.toNat) < ceiling)

/-- The word never grows beyond 64 bits. -/
theorem gather_lt {word : Nat} (short : word < UInt64.size) (digits : List Char) :
    (gather word digits).1 < UInt64.size := by
  induction digits generalizing word with
  | nil => exact short
  | cons digit rest ih =>
    simp only [gather]
    split
    · rename_i fits
      exact ih fits
    · exact short

end JsonNumber
end StaticSemantics
