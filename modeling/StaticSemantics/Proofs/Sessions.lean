import StaticSemantics.Proofs.History

namespace StaticSemantics

/-!
# Sessions of many checks

A session performs the checks that are asked for one after another, and its
collector receives what they report.  The outcomes and the states along the way
are those of a history, which has no collector at all.
-/

/-- Perform some checks, the first one first, and keep their outcomes. -/
def Session.performAll (session : Session) :
    List Request → List (Except Problem Answer) × Session
  | [] => ([], session)
  | request :: rest =>
    let (run, next) := session.perform request.check
    let (outcomes, last) := next.performAll rest
    (run.outcome :: outcomes, last)

theorem Session.performAll_cons (session : Session) (request : Request)
    (rest : List Request) :
    session.performAll (request :: rest) =
      let (run, next) := session.perform request.check
      (run.outcome :: (next.performAll rest).1, (next.performAll rest).2) :=
  rfl

/-- The outcomes of the checks with which a history goes on. -/
def History.outcomes (history : History) : List Request → List (Except Problem Answer)
  | [] => []
  | request :: rest =>
    (request.check.run history.state).outcome :: (history.perform request).outcomes rest

/-- What a session does, and what its collector receives, is told by a history. -/
theorem Session.performAll_eq (history : History) (diagnostics : Diagnostics)
    (requests : List Request) :
    Session.performAll ⟨history.state, diagnostics.receiveAll (diagnosticsOf history.past)⟩
        requests =
      (history.outcomes requests,
        let reached := requests.foldl History.perform history
        ⟨reached.state, diagnostics.receiveAll (diagnosticsOf reached.past)⟩) := by
  -- The history takes the place of the state: the reports of a check are appended
  -- to those of its past, and the collector has received both, one after the other.
  induction requests generalizing history with
  | nil => rfl
  | cons request rest inductionHypothesis =>
      have past : diagnostics.receiveAll (diagnosticsOf (history.perform request).past) =
          (diagnostics.receiveAll (diagnosticsOf history.past)).receiveAll
            (diagnosticsOf (request.check.run history.state).events) := by
        rw [History.perform, History.after, diagnosticsOf_append, Diagnostics.receiveAll_append]
      have others := inductionHypothesis (history.perform request)
      rw [past] at others
      rw [performAll_cons, perform, History.outcomes, List.foldl_cons]
      exact congrArg (fun answer : List (Except Problem Answer) × Session =>
        ((request.check.run history.state).outcome :: answer.1, answer.2)) others

/-- From the start. -/
theorem Session.performAll_start (outermost : Frame) (diagnostics : Diagnostics)
    (requests : List Request) :
    (Session.start outermost diagnostics).performAll requests =
      ((History.start outermost).outcomes requests,
        let history := History.ofRequests outermost requests
        ⟨history.state, diagnostics.receiveAll (diagnosticsOf history.past)⟩) :=
  Session.performAll_eq (History.start outermost) diagnostics requests

end StaticSemantics
