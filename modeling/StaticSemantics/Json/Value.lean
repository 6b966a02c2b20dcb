import StaticSemantics.Json.Approximation

namespace StaticSemantics

/-!
# JSON values

The values keep what a reader of stored diagnostics has to tell apart: numbers
as they are written, and the members of an object in their order, with repeated
keys.
-/

/-- The content of a string.  A string whose escapes name half of a surrogate
pair is well formed, but it is no text. -/
abbrev JsonText : Type :=
  Option String

inductive Json where
  | null
  | bool (value : Bool)
  | number (value : JsonNumber)
  | string (value : JsonText)
  | array (elements : List Json)
  | object (members : List (JsonText × Json))

namespace Json

mutual

/-- How deep arrays and objects are nested in a value. -/
def depth : Json → Nat
  | null | bool _ | number _ | string _ => 0
  | array elements => depthOfElements elements + 1
  | object members => depthOfMembers members + 1
termination_by structural value => value

/-- The depth of the deepest element. -/
def depthOfElements : List Json → Nat
  | [] => 0
  | element :: rest => max (depth element) (depthOfElements rest)
termination_by structural elements => elements

/-- The depth of the deepest member. -/
def depthOfMembers : List (JsonText × Json) → Nat
  | [] => 0
  | (_, value) :: rest => max (depth value) (depthOfMembers rest)
termination_by structural members => members

end

mutual

/-- Whether every string of a value is a text, and every number fits a
floating-point word. -/
def isPlain : Json → Bool
  | null | bool _ => true
  | number value => value.isFinite
  | string value => value.isSome
  | array elements => arePlain elements
  | object members => areMembersPlain members
termination_by structural value => value

/-- Whether all elements are plain. -/
def arePlain : List Json → Bool
  | [] => true
  | element :: rest => isPlain element && arePlain rest
termination_by structural elements => elements

/-- Whether all members are plain, keys included. -/
def areMembersPlain : List (JsonText × Json) → Bool
  | [] => true
  | (key, value) :: rest => key.isSome && isPlain value && areMembersPlain rest
termination_by structural members => members

end
end Json
end StaticSemantics
