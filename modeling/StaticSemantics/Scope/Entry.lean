import StaticSemantics.Storage
import StaticSemantics.Types.Basic

namespace StaticSemantics

/-!
# What a name is bound to

There are two name spaces, one for types and one that variables and functions
share.  Both hold entries of this one type, so a name found in the wrong sort
of use can be reported together with what it is.
-/

/-- A variable, a loop counter or a parameter. -/
structure VariableEntry where
  type : TypeId
  slot : Slot
  deriving DecidableEq, Repr

/-- A function.  The parameters are in the order in which arguments are given. -/
structure FunctionEntry where
  parameters : List TypeId
  result : TypeId
  frame : Frame
  label : Label
  deriving DecidableEq, Repr

/-- What a name is bound to. -/
inductive Entry where
  | type (id : TypeId)
  | variable (entry : VariableEntry)
  | function (entry : FunctionEntry)
  deriving DecidableEq, Repr

/-- The three sorts of bindings. -/
inductive EntryKind where
  | type
  | variable
  | function
  deriving DecidableEq, Repr

/-- The words for a sort of bindings, with their article. -/
def EntryKind.text : EntryKind → String
  | type => "a type"
  | .variable => "a variable"
  | function => "a function"

namespace Entry

def kind : Entry → EntryKind
  | type _ => .type
  | .variable _ => .variable
  | function _ => .function

/-!
The full text of an entry is for traces alone.  It shows every part under its
name, and the handles by their numbers.
-/

private def typeText (id : TypeId) : String :=
  s!"TypeId({id.number})"

private def frameText (frame : Frame) : String :=
  s!"Level({frame.number})"

/-- Every part of an entry, for traces. -/
def text : Entry → String
  | type id => s!"Type({typeText id})"
  | .variable entry =>
    s!"Var(VarEntry \x7b ty: {typeText entry.type}, access: Access \x7b level: {frameText entry.slot.frame}, slot: {entry.slot.index} \x7d \x7d)"
  | function entry =>
    let parameters := ", ".intercalate (entry.parameters.map typeText)
    s!"Func(FuncEntry \x7b params: [{parameters}], result: {typeText entry.result}, level: {frameText entry.frame}, label: Label({entry.label.number}) \x7d)"

end Entry
end StaticSemantics
