namespace StaticSemantics

/-!
# Numbers as they are written

A number in JSON has a sign, digits, perhaps a point with digits after it, and
perhaps an exponent.  All four parts are kept.  A number written without point
and exponent is a whole number, and no other number is, not even one of the
same value; and the digits themselves decide how a number is approximated.
-/

/-- The parts of a written number. -/
structure JsonNumber where
  negative : Bool
  /-- The value of the digits before the point.  They begin with zero only
  where zero is all that they are, so the value tells what they were. -/
  whole : Nat
  /-- The digits after the point. -/
  fraction : Option (List Char)
  exponent : Option Int
  deriving DecidableEq, Repr

namespace JsonNumber

/-- A number without point and exponent. -/
def ofWhole (negative : Bool) (whole : Nat) : JsonNumber :=
  ⟨negative, whole, none, none⟩

/-- The value of a whole number that has no sign.  Zero with a sign is none. -/
def natural? : JsonNumber → Option Nat
  | ⟨false, whole, none, none⟩ => some whole
  | _ => none

/-- Only what is written as digits alone is read as a natural number. -/
theorem natural?_eq_some_iff {number : JsonNumber} {value : Nat} :
    number.natural? = some value ↔ number = ofWhole false value := by
  constructor
  · intro read
    unfold natural? at read
    split at read
    · exact congrArg (ofWhole false) (Option.some.inj read)
    · cases read
  · rintro rfl
    rfl

end JsonNumber
end StaticSemantics
