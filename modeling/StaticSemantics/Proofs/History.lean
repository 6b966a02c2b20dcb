import StaticSemantics.Check.Session

namespace StaticSemantics

/-!
# Histories

Checks can be asked for one after another, on any trees, and each goes on from
the state that the one before has left.  A history is the state after some
checks together with everything that has happened in them.  A check that was
aborted is part of a history like any other: what it has opened stays open.
-/

/-- A check that can be asked for. -/
inductive Request where
  | program (program : Expression)
  | expression (expression : Expression)
  | place (place : Place)
  | declaration (declaration : Declaration)
  /-- The meaning of the right-hand side of a declaration of `name`. -/
  | meaning (body : TypeExpression) (name : String)

/-- What a check answers if it is not aborted. -/
inductive Answer where
  | type (id : TypeId)
  | declared
  | meaning (type : Ty)

/-- Perform the check that is asked for. -/
def Request.check : Request → Check Answer
  | .program root => do pure (.type (← Check.inferProgram root))
  | .expression root => do pure (.type (← Check.inferExpression root))
  | .place root => do pure (.type (← Check.inferPlace root))
  | .declaration root => do
    Check.makeDeclaration root
    pure .declared
  | .meaning body name => do pure (.meaning (← Check.interpretType body name))

/-- A state, and all that has happened on the way to it. -/
structure History where
  state : State
  past : List Event

namespace History

/-- Nothing has been asked for yet. -/
def start (outermost : Frame) : History :=
  ⟨.initial outermost, []⟩

/-- A history goes on with a run. -/
def after {α : Type} (history : History) (run : Run α) : History :=
  ⟨run.state, history.past ++ run.events⟩

/-- A history goes on with a check that is asked for. -/
def perform (history : History) (request : Request) : History :=
  history.after (request.check.run history.state)

/-- The history of some checks, the first one first. -/
def ofRequests (outermost : Frame) (requests : List Request) : History :=
  requests.foldl perform (start outermost)

/-- What holds at the start, and is kept by every check, holds in all histories. -/
theorem ofRequests_induction (property : History → Prop) {outermost : Frame}
    (atStart : property (start outermost))
    (kept : ∀ history request, property history → property (history.perform request))
    (requests : List Request) : property (ofRequests outermost requests) := by
  have onward : ∀ history, property history → property (requests.foldl perform history) := by
    induction requests with
    | nil => exact fun _ holds => holds
    | cons first rest inductionHypothesis =>
        exact fun history holds => inductionHypothesis _ (kept history first holds)
  exact onward _ atStart

end History
end StaticSemantics
