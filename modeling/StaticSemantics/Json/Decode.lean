import StaticSemantics.Json.Value

namespace StaticSemantics
namespace Json

/-!
# Taking values apart

What is stored as an object has named fields.  Each field has to be there
once; other keys may be there any number of times.  Keys are compared after
their escapes have been read, so every key has to be a text.
-/

/-- The members of an object, if every key is a text. -/
def keyed? : List (JsonText × Json) → Option (List (String × Json))
  | [] => some []
  | (key, value) :: rest => do
    let key ← key
    let rest ← keyed? rest
    some ((key, value) :: rest)

/-- The value of a field that may be missing.  A field that is there twice is
refused. -/
def optional? (key : String) (members : List (String × Json)) : Option (Option Json) :=
  match members.filter (·.1 == key) with
  | [] => some none
  | [(_, value)] => some (some value)
  | _ => none

/-- The value of a field that has to be there. -/
def required? (key : String) (members : List (String × Json)) : Option Json :=
  (optional? key members).join

/-- A whole number without a sign, below a bound. -/
def naturalBelow? (bound : Nat) : Json → Option Nat
  | .number written => written.natural?.filter (· < bound)
  | _ => none

/-- A text. -/
def text? : Json → Option String
  | .string text => text
  | _ => none

end Json
end StaticSemantics
