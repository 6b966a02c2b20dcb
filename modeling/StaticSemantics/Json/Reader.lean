import StaticSemantics.Json.Value

namespace StaticSemantics
namespace Json

/-!
# Reading JSON

The reader follows the JSON grammar to the letter: no leading zeros, no
plus sign, no raw control characters in strings, nothing after the value but
blanks.  There is no limit on nesting.

A reading step takes characters from the front of the text and gives the value
and the text that is left, or nothing if the text does not continue that way.
Nested values are read with a bound on the number of further steps, which the
length of the text provides: every step takes a character or is followed by
one that does.
-/

/-- The four characters that may stand between the parts of a value. -/
def isBlank (c : Char) : Bool :=
  c == ' ' || c == '\t' || c == '\n' || c == '\r'

def skipBlanks (text : List Char) : List Char :=
  text.dropWhile isBlank

/-!
## Numbers
-/

/-- The digits at the front of a text, and what is left. -/
def readDigits (text : List Char) : List Char × List Char :=
  (text.takeWhile Char.isDigit, text.dropWhile Char.isDigit)

/-- One digit or more. -/
def readSomeDigits (text : List Char) : Option (List Char × List Char) :=
  match readDigits text with
  | ([], _) => none
  | (digits, rest) => some (digits, rest)

/-- The digits of a whole number: a zero stands alone. -/
def readWholeDigits (text : List Char) : Option (List Char × List Char) :=
  match readSomeDigits text with
  | some ('0' :: _ :: _, _) => none
  | other => other

/-- The value of some digits. -/
def digitsValue (digits : List Char) : Nat :=
  Nat.ofDigitChars 10 digits 0

/-- The digits after a point, if there is one. -/
def readFraction : List Char → Option (Option (List Char) × List Char)
  | '.' :: rest => do
    let (digits, rest) ← readSomeDigits rest
    some (some digits, rest)
  | text => some (none, text)

/-- The digits of an exponent, with their sign. -/
def readSignedDigits : List Char → Option (Int × List Char)
  | '-' :: rest => do
    let (digits, rest) ← readSomeDigits rest
    some (-(digitsValue digits : Int), rest)
  | '+' :: rest => do
    let (digits, rest) ← readSomeDigits rest
    some ((digitsValue digits : Int), rest)
  | text => do
    let (digits, rest) ← readSomeDigits text
    some ((digitsValue digits : Int), rest)

/-- An exponent, if there is one. -/
def readExponent : List Char → Option (Option Int × List Char)
  | 'e' :: rest | 'E' :: rest => do
    let (exponent, rest) ← readSignedDigits rest
    some (some exponent, rest)
  | text => some (none, text)

/-- The magnitude of a number, given its sign. -/
def readMagnitude (negative : Bool) (text : List Char) : Option (JsonNumber × List Char) := do
  let (whole, rest) ← readWholeDigits text
  let (fraction, rest) ← readFraction rest
  let (exponent, rest) ← readExponent rest
  some (⟨negative, digitsValue whole, fraction, exponent⟩, rest)

def readNumber : List Char → Option (JsonNumber × List Char)
  | '-' :: rest => readMagnitude true rest
  | text => readMagnitude false text

/-!
## Strings

An escape with four hexadecimal digits names a unit of UTF-16.  The content of
a string is first read as a list of code points in which units may stand for
themselves; then pairs of surrogates are joined.
-/

/-- The value of a hexadecimal digit. -/
def hexDigit? (c : Char) : Option Nat :=
  if c.isDigit then some (c.toNat - 48)
  else if 'a' ≤ c ∧ c ≤ 'f' then some (c.toNat - 87)
  else if 'A' ≤ c ∧ c ≤ 'F' then some (c.toNat - 55)
  else none

/-- The unit that four hexadecimal digits name. -/
def hexUnit? (first second third fourth : Char) : Option Nat := do
  let first ← hexDigit? first
  let second ← hexDigit? second
  let third ← hexDigit? third
  let fourth ← hexDigit? fourth
  some (first * 4096 + second * 256 + third * 16 + fourth)

/-- The character that a backslash and one other character stand for. -/
def shortEscape? (c : Char) : Option Char :=
  if c == '\x22' || c == '\\' || c == '/' then some c
  else if c == 'b' then some '\x08'
  else if c == 'f' then some '\x0c'
  else if c == 'n' then some '\n'
  else if c == 'r' then some '\r'
  else if c == 't' then some '\t'
  else none

/-- The code points and units of a string, up to its closing quote. -/
def readContent : List Char → Option (List Nat × List Char)
  | [] => none
  | '\x22' :: rest => some ([], rest)
  | '\\' :: 'u' :: first :: second :: third :: fourth :: rest => do
    let unit ← hexUnit? first second third fourth
    let (units, rest) ← readContent rest
    some (unit :: units, rest)
  | '\\' :: escaped :: rest => do
    let meant ← shortEscape? escaped
    let (units, rest) ← readContent rest
    some (meant.toNat :: units, rest)
  | c :: rest =>
    if c.toNat < 32 || c == '\\' then none
    else do
      let (units, rest) ← readContent rest
      some (c.toNat :: units, rest)

/-- Whether a unit begins a pair of surrogates. -/
def isHighSurrogate (unit : Nat) : Bool :=
  0xD800 ≤ unit && unit < 0xDC00

/-- Whether a unit ends a pair of surrogates. -/
def isLowSurrogate (unit : Nat) : Bool :=
  0xDC00 ≤ unit && unit < 0xE000

/-- The characters of a string.  There are none if a surrogate has no partner. -/
def joinSurrogates : List Nat → Option (List Char)
  | [] => some []
  | [unit] => if isHighSurrogate unit || isLowSurrogate unit then none else some [Char.ofNat unit]
  | high :: low :: rest =>
    if isHighSurrogate high then
      if isLowSurrogate low then do
        let cs ← joinSurrogates rest
        some (Char.ofNat (0x10000 + (high - 0xD800) * 0x400 + (low - 0xDC00)) :: cs)
      else none
    else if isLowSurrogate high then none
    else do
      let cs ← joinSurrogates (low :: rest)
      some (Char.ofNat high :: cs)

/-- A string after its opening quote. -/
def readText (text : List Char) : Option (JsonText × List Char) := do
  let (units, rest) ← readContent text
  some ((joinSurrogates units).map String.ofList, rest)

/-!
## Values
-/

mutual

/-- A value, with blanks before it. -/
def readValue : (steps : Nat) → List Char → Option (Json × List Char)
  | 0, _ => none
  | steps + 1, text =>
    match skipBlanks text with
    | '{' :: rest =>
      match skipBlanks rest with
      | '}' :: rest => some (.object [], rest)
      | rest => do
        let (members, rest) ← readMembers steps rest
        some (.object members, rest)
    | '[' :: rest =>
      match skipBlanks rest with
      | ']' :: rest => some (.array [], rest)
      | rest => do
        let (elements, rest) ← readElements steps rest
        some (.array elements, rest)
    | '\x22' :: rest => do
      let (value, rest) ← readText rest
      some (.string value, rest)
    | 'n' :: 'u' :: 'l' :: 'l' :: rest => some (.null, rest)
    | 't' :: 'r' :: 'u' :: 'e' :: rest => some (.bool true, rest)
    | 'f' :: 'a' :: 'l' :: 's' :: 'e' :: rest => some (.bool false, rest)
    | rest => do
      let (value, rest) ← readNumber rest
      some (.number value, rest)
termination_by structural steps => steps

/-- The elements of an array and its closing bracket. -/
def readElements : (steps : Nat) → List Char → Option (List Json × List Char)
  | 0, _ => none
  | steps + 1, text => do
    let (element, rest) ← readValue steps text
    match skipBlanks rest with
    | ',' :: rest => do
      let (elements, rest) ← readElements steps rest
      some (element :: elements, rest)
    | ']' :: rest => some ([element], rest)
    | _ => none
termination_by structural steps => steps

/-- The members of an object and its closing brace. -/
def readMembers : (steps : Nat) → List Char → Option (List (JsonText × Json) × List Char)
  | 0, _ => none
  | steps + 1, text =>
    match skipBlanks text with
    | '\x22' :: rest => do
      let (key, rest) ← readText rest
      match skipBlanks rest with
      | ':' :: rest => do
        let (value, rest) ← readValue steps rest
        match skipBlanks rest with
        | ',' :: rest => do
          let (members, rest) ← readMembers steps rest
          some ((key, value) :: members, rest)
        | '}' :: rest => some ([(key, value)], rest)
        | _ => none
      | _ => none
    | _ => none
termination_by structural steps => steps

end

/-- The value that a text is.  Nothing but blanks may stand around it. -/
def read? (text : String) : Option Json := do
  let cs := text.toList
  let (value, rest) ← readValue (2 * cs.length + 1) cs
  if (skipBlanks rest).isEmpty then some value else none

end Json
end StaticSemantics
