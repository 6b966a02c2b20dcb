import StaticSemantics.Types.Basic

namespace StaticSemantics

/-!
# Built-in functions

These functions are bound before a program is checked.  They lie outside the
program, in the level that encloses it, and are linked by their labels.
-/

/-- The signature of a function that needs no declaration. -/
structure Predefined where
  name : String
  parameters : List TypeId
  result : TypeId
  deriving DecidableEq, Repr

/-- All built-in functions, in the order in which they are bound. -/
def Predefined.all : List Predefined :=
  [⟨"print", [.string], .void⟩,
    ⟨"flush", [], .void⟩,
    ⟨"getchar", [], .string⟩,
    ⟨"ord", [.string], .int⟩,
    ⟨"chr", [.int], .string⟩,
    ⟨"size", [.string], .int⟩,
    ⟨"substring", [.string, .int, .int], .string⟩,
    ⟨"concat", [.string, .string], .string⟩,
    ⟨"not", [.int], .int⟩,
    ⟨"exit", [.int], .void⟩]

end StaticSemantics
