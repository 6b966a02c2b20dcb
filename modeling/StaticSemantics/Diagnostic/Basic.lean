import StaticSemantics.Diagnostic.Problem
import StaticSemantics.Span

namespace StaticSemantics

/-!
# Diagnostics and their collector

A diagnostic is a problem put into words, at a place.  The collector stores
the first diagnostics up to a limit and counts all of them, so that a program
with a thousand mistakes gives a short list and still a truthful total.

The two jobs are kept apart: what is stored depends on how many diagnostics
are stored already, never on the count.
-/

/-- A reported problem, in words. -/
structure Diagnostic where
  kind : DiagnosticKind
  message : String
  span : Span
  deriving DecidableEq, Repr

namespace Diagnostic

/-- The diagnostic for a problem at a place. -/
def ofProblem (span : Span) (problem : Problem) : Diagnostic :=
  ⟨problem.kind, problem.message, span⟩

/-- A diagnostic as one line for a reader. -/
def text (diagnostic : Diagnostic) : String :=
  diagnostic.span.text ++ ": [" ++ diagnostic.kind.text ++ "] " ++ diagnostic.message

end Diagnostic

/-- The diagnostics of a run: the first `limit` of them, in the order of their
arrival, and the number of all. -/
structure Diagnostics where
  errors : List Diagnostic
  /-- A machine word: it is read from stored text and goes round at its end. -/
  total : UInt64
  limit : Nat
  deriving DecidableEq, Repr

namespace Diagnostics

/-- How many diagnostics are stored when nothing else is asked for. -/
def usualLimit : Nat := 20

/-- A collector that has received nothing and stores at most `limit`. -/
def storing (limit : Nat) : Diagnostics :=
  ⟨[], 0, limit⟩

/-- A collector that has received nothing, with the usual limit. -/
def empty : Diagnostics :=
  storing usualLimit

/-- Receive one diagnostic: store it while there is room, and count it. -/
def receive (diagnostics : Diagnostics) (diagnostic : Diagnostic) : Diagnostics where
  errors :=
    if diagnostics.errors.length < diagnostics.limit then diagnostics.errors ++ [diagnostic]
    else diagnostics.errors
  total := diagnostics.total + 1
  limit := diagnostics.limit

/-- Receive one problem, put into words. -/
def receiveProblem (diagnostics : Diagnostics) (span : Span) (problem : Problem) : Diagnostics :=
  diagnostics.receive (.ofProblem span problem)

/-- Receive many diagnostics, the first one first. -/
def receiveAll (diagnostics : Diagnostics) (received : List Diagnostic) : Diagnostics :=
  received.foldl receive diagnostics

/-- Whether anything has been counted, stored or not. -/
def hasErrors (diagnostics : Diagnostics) : Bool :=
  0 < diagnostics.total

/-- The kinds of the stored diagnostics, in the order of their arrival. -/
def kinds (diagnostics : Diagnostics) : List DiagnosticKind :=
  diagnostics.errors.map (·.kind)

/-- Whether a diagnostic of this kind is stored. -/
def contains (diagnostics : Diagnostics) (kind : DiagnosticKind) : Bool :=
  diagnostics.errors.any (·.kind == kind)

/-- The stored diagnostics, a line for each. -/
def text (diagnostics : Diagnostics) : String :=
  String.join (diagnostics.errors.map fun diagnostic => diagnostic.text ++ "\n")

@[simp] theorem limit_receive (diagnostics : Diagnostics) (diagnostic : Diagnostic) :
    (diagnostics.receive diagnostic).limit = diagnostics.limit :=
  rfl

@[simp] theorem total_receive (diagnostics : Diagnostics) (diagnostic : Diagnostic) :
    (diagnostics.receive diagnostic).total = diagnostics.total + 1 :=
  rfl

@[simp] theorem receiveAll_nil (diagnostics : Diagnostics) :
    diagnostics.receiveAll [] = diagnostics :=
  rfl

@[simp] theorem receiveAll_cons (diagnostics : Diagnostics) (first : Diagnostic)
    (rest : List Diagnostic) :
    diagnostics.receiveAll (first :: rest) = (diagnostics.receive first).receiveAll rest :=
  rfl

theorem receiveAll_append (diagnostics : Diagnostics) (first second : List Diagnostic) :
    diagnostics.receiveAll (first ++ second) = (diagnostics.receiveAll first).receiveAll second :=
  List.foldl_append

theorem contains_iff (diagnostics : Diagnostics) (kind : DiagnosticKind) :
    diagnostics.contains kind = true ↔ kind ∈ diagnostics.kinds := by
  simp [contains, kinds]

end Diagnostics
end StaticSemantics
