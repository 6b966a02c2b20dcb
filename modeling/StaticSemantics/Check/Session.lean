import StaticSemantics.Check.Expression
import StaticSemantics.Scope.Predefined
import StaticSemantics.Settings

namespace StaticSemantics

/-!
# Sessions

A session is a state together with the collector of its diagnostics.  Checks
are performed one after another, each from the state that the one before has
left.  A whole program needs one check from the state at the start.

The collector only listens.  It gets the diagnostics of a check after the
check is over, so neither its limit nor its contents can influence a check.
-/

namespace Check

/-- Bind a built-in function in the outermost frame. -/
def bindPredefined (predefined : Predefined) : Check Unit := do
  let frame := (← state).storage.outermost
  let label ← takeLabel
  bindValue predefined.name (.function ⟨predefined.parameters, predefined.result, frame, label⟩)

/-- Bind all built-in functions. -/
def bindAllPredefined : Check Unit :=
  Predefined.all.forM bindPredefined

/-- Bind the names of the types that need no declaration. -/
def bindBaseTypes : Check Unit := do
  bindType "int" .int
  bindType "string" .string
  bindType "void" .void

end Check

namespace State

/-- Nothing is bound, and nothing but the built-in types is there. -/
def empty (outermost : Frame) : State where
  types := .basic
  typeNames := .empty
  valueNames := .empty
  frame := outermost
  storage := .new outermost

/-- The state in which the check of a program starts. -/
def initial (outermost : Frame) : State :=
  ((do Check.bindAllPredefined; Check.bindBaseTypes).run (empty outermost)).state

end State

/-- A state, and the diagnostics on the way to it. -/
structure Session where
  state : State
  diagnostics : Diagnostics
  deriving DecidableEq, Repr

namespace Session

/-- A session in which nothing has been checked. -/
def start (outermost : Frame) (diagnostics : Diagnostics) : Session :=
  ⟨.initial outermost, diagnostics⟩

/-- Perform a check, and collect its diagnostics. -/
def perform {α : Type} (session : Session) (check : Check α) : Run α × Session :=
  let run := check.run session.state
  (run, ⟨run.state, session.diagnostics.receiveAll (diagnosticsOf run.events)⟩)

end Session

/-- The frame that encloses a program which is checked on its own. -/
def outermostFrame : Frame := ⟨0⟩

/-- Check a program on its own, and collect its diagnostics.  A program without
diagnostics is well typed. -/
def diagnose (program : Expression) (settings : Settings) : Except Problem Diagnostics :=
  let (run, session) := (Session.start outermostFrame settings.collector).perform
    (Check.inferProgram program)
  run.outcome.map fun _ => session.diagnostics

end StaticSemantics
