import StaticSemantics.Diagnostic.Kind

namespace StaticSemantics

/-!
# What a check can complain about

A problem is the cause of a diagnostic, before it is put into words.  All
problems but one are recoverable: the checker reports them, goes on with a
fallback type, and so finds the other problems of the same program.  Only a
malformed tree ends the check, because nothing is known about the part of the
program that is missing from it.
-/

/-- The cause of a diagnostic. -/
inductive Problem where
  /-- No binding of `name` is visible; `what` says what was looked for. -/
  | undefined (what name : String)
  /-- Something of one sort stands where another sort is needed. -/
  | wrongKind (expected found : String)
  /-- Two types disagree, possibly about the thing called `name`. -/
  | typeMismatch (expected found : String) (name : Option String)
  /-- `expected` arguments or fields are declared, and `found` are given. -/
  | wrongCount (what : String) (expected found : Nat)
  /-- The initial value of a variable gives it no type. -/
  | badInitializer (name reason : String)
  /-- The alias called `name` leads back into its own group. -/
  | aliasCycle (name : String)
  /-- A node that stands for source text that could not be parsed. -/
  | malformed (node : String)
  deriving DecidableEq, Repr

namespace Problem

/-- The category under which a problem is reported. -/
def kind : Problem → DiagnosticKind
  | undefined .. => .undefinedName
  | wrongKind .. => .kindMismatch
  | typeMismatch .. => .typeMismatch
  | wrongCount .. => .arityMismatch
  | badInitializer .. => .invalidInitializer
  | aliasCycle .. => .typeCycle
  | malformed .. => .unexpectedNode

/-- The problem in words. -/
def message : Problem → String
  | undefined what name => s!"undefined {what} '" ++ name ++ "'"
  | wrongKind expected found => s!"not {expected}: found {found}"
  | typeMismatch expected found none =>
    s!"type mismatch: expected {expected}, found {found}"
  | typeMismatch expected found (some name) =>
    "type mismatch in '" ++ name ++ s!"': expected {expected}, found {found}"
  | wrongCount what expected found =>
    s!"wrong number of {what}: expected {expected}, found {found}"
  | badInitializer name reason => "invalid initializer for '" ++ name ++ s!"': {reason}"
  | aliasCycle name =>
    "illegal type cycle: '" ++ name ++ "' never resolves to a concrete type"
  | malformed node => s!"unexpected {node} node"

/-- Whether the check has to stop instead of going on with a fallback type. -/
def isFatal : Problem → Bool
  | malformed .. => true
  | _ => false

/-- Only a malformed tree is fatal. -/
theorem isFatal_iff (problem : Problem) :
    problem.isFatal = true ↔ problem.kind = .unexpectedNode := by
  cases problem <;> simp [isFatal, kind]

end Problem
end StaticSemantics
