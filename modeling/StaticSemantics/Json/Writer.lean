namespace StaticSemantics
namespace Json

/-!
# Writing JSON

Values are written without blanks, and members in the order that is given.  A
string is written with as few escapes as the grammar allows: the quote, the
backslash and the control characters have one, and all other characters stand
for themselves.
-/

/-- A hexadecimal digit; letters are small. -/
def hexDigit (value : Nat) : Char :=
  if value < 10 then Char.ofNat (48 + value) else Char.ofNat (87 + value)

/-- How a character is written inside a string. -/
def writeChar (c : Char) : List Char :=
  if c == '\x22' then ['\\', '\x22']
  else if c == '\\' then ['\\', '\\']
  else if c == '\x08' then ['\\', 'b']
  else if c == '\t' then ['\\', 't']
  else if c == '\n' then ['\\', 'n']
  else if c == '\x0c' then ['\\', 'f']
  else if c == '\r' then ['\\', 'r']
  else if c.toNat < 32 then ['\\', 'u', '0', '0', hexDigit (c.toNat / 16), hexDigit (c.toNat % 16)]
  else [c]

def writeText (text : String) : List Char :=
  '\x22' :: text.toList.flatMap writeChar ++ ['\x22']

def writeNatural (value : Nat) : List Char :=
  Nat.toDigits 10 value

/-- Written values with commas between them. -/
def separate : List (List Char) → List Char
  | [] => []
  | [value] => value
  | value :: rest => value ++ ',' :: separate rest

def writeArray (elements : List (List Char)) : List Char :=
  '[' :: separate elements ++ [']']

/-- An object, from its keys and its written values. -/
def writeObject (members : List (String × List Char)) : List Char :=
  '{' :: separate (members.map fun (key, value) => writeText key ++ ':' :: value) ++ ['}']

end Json
end StaticSemantics
