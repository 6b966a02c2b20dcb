import StaticSemantics.Diagnostic.Basic
import StaticSemantics.Json.Decode
import StaticSemantics.Json.Reader
import StaticSemantics.Json.Writer

namespace StaticSemantics

/-!
# The stored form of diagnostics

Diagnostics are stored as JSON.  A diagnostic is one flat object: the numbers
of its span stand beside its kind and its message.  The limit of a collector
is not stored, so a collector that is read back has the usual one.

What is written has one form, and more is read.  Fields may come in any order
and among other ones, and the fields of a span or a collector may also be
given as an array.  A diagnostic may not, since its span has no place there.

The keys of a diagnostic that are no fields of its own may belong to its span,
so their values are kept until the span has been found.  Such a value has to
be one that can be kept: its strings are texts, its numbers fit a word, and it
is not nested too deep.
-/

namespace Span

/-- The fields of a span, under the names by which they are stored. -/
def storedFields (span : Span) : List (String × List Char) :=
  [("line", Json.writeNatural span.line.toNat),
    ("column", Json.writeNatural span.column.toNat),
    ("end_line", Json.writeNatural span.endLine.toNat),
    ("end_column", Json.writeNatural span.endColumn.toNat)]

def stored (span : Span) : List Char :=
  Json.writeObject span.storedFields

/-- A line or a column. -/
def coordinate? (value : Json) : Option UInt32 :=
  (value.naturalBelow? UInt32.size).map UInt32.ofNat

/-- The span among the members of an object. -/
def ofMembers? (members : List (String × Json)) : Option Span := do
  let line ← (Json.required? "line" members).bind coordinate?
  let column ← (Json.required? "column" members).bind coordinate?
  let endLine ← (Json.required? "end_line" members).bind coordinate?
  let endColumn ← (Json.required? "end_column" members).bind coordinate?
  some ⟨line, column, endLine, endColumn⟩

def ofJson? : Json → Option Span
  | .object members => (Json.keyed? members).bind ofMembers?
  | .array [line, column, endLine, endColumn] => do
    let line ← coordinate? line
    let column ← coordinate? column
    let endLine ← coordinate? endLine
    let endColumn ← coordinate? endColumn
    some ⟨line, column, endLine, endColumn⟩
  | _ => none

/-- The span that a text stores. -/
def read? (text : String) : Option Span :=
  (Json.read? text).bind ofJson?

end Span

namespace DiagnosticKind

def stored (kind : DiagnosticKind) : List Char :=
  Json.writeText kind.tag

/-- A kind is stored as its tag.  The tag may also stand as the only key of an
object, with nothing behind it. -/
def ofJson? : Json → Option DiagnosticKind
  | .string (some tag) => ofTag? tag
  | .object [(some tag, .null)] => ofTag? tag
  | _ => none

/-- The kind that a text stores. -/
def read? (text : String) : Option DiagnosticKind :=
  (Json.read? text).bind ofJson?

end DiagnosticKind

namespace Diagnostic

def stored (diagnostic : Diagnostic) : List Char :=
  Json.writeObject
    (("kind", diagnostic.kind.stored) :: ("message", Json.writeText diagnostic.message) ::
      diagnostic.span.storedFields)

/-- How many arrays and objects may stand inside each other, down to a value
that is kept. -/
def nestingLimit : Nat := 127

/-- Whether a value can be kept that stands inside `nesting` objects and
arrays. -/
def isKept (nesting : Nat) (value : Json) : Bool :=
  value.isPlain && nesting + value.depth ≤ nestingLimit

/-- The diagnostic that an object stores, where the object is nested as deep
as `nesting` says, itself included. -/
def ofJson? (nesting : Nat) : Json → Option Diagnostic
  | .object members => do
    let members ← Json.keyed? members
    let kind ← (Json.required? "kind" members).bind DiagnosticKind.ofJson?
    let message ← (Json.required? "message" members).bind Json.text?
    let others := members.filter fun (key, _) => key != "kind" && key != "message"
    if others.all fun (_, value) => isKept nesting value then
      some ⟨kind, message, ← Span.ofMembers? others⟩
    else none
  | _ => none

/-- The diagnostic that a text stores. -/
def read? (text : String) : Option Diagnostic :=
  (Json.read? text).bind (ofJson? 1)

end Diagnostic

namespace Diagnostics

def stored (diagnostics : Diagnostics) : List Char :=
  Json.writeObject
    [("errors", Json.writeArray (diagnostics.errors.map Diagnostic.stored)),
      ("total_errors", Json.writeNatural diagnostics.total.toNat)]

/-- A collector from its two stored fields.  Its diagnostics are the third
level of nesting. -/
def ofFields? (errors total : Json) : Option Diagnostics :=
  match errors with
  | .array elements => do
    let errors ← elements.mapM (Diagnostic.ofJson? 3)
    let total ← total.naturalBelow? UInt64.size
    some ⟨errors, UInt64.ofNat total, usualLimit⟩
  | _ => none

def ofJson? : Json → Option Diagnostics
  | .object members => do
    let members ← Json.keyed? members
    let errors ← Json.required? "errors" members
    let total ← Json.required? "total_errors" members
    ofFields? errors total
  | .array [errors, total] => ofFields? errors total
  | _ => none

/-- The collector that a text stores. -/
def read? (text : String) : Option Diagnostics :=
  (Json.read? text).bind ofJson?

end Diagnostics
end StaticSemantics
