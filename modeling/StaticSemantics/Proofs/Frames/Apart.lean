import StaticSemantics.Proofs.Frames.Trees

namespace StaticSemantics

/-!
# Frames and slots are never confused

The accounts of the checks of a session are put together.  A check that was
aborted may have left the frame of some function in use, and what comes after it
is put there.  Even so every slot is handed out once, every function has a label
and a frame of its own, and every body finds its frame without slots, fills it
with its parameters first and then with its variables in their order.
-/

namespace Check

theorem accounted_inferProgram (program : Expression) :
    (inferProgram program).Accounted program.visits program.locals := by
  refine (accounted_inferExpression program).andThen fun type => ?_
  refine Observes.types.still.bind fun types => ?_
  exact (Still.emit rfl).bind fun _ => .pure _

end Check

/-- Whatever check is asked for, its visits account for it. -/
theorem Request.accounted (request : Request) :
    ∃ names, request.check.Accounted request.visits names := by
  cases request with
  | program root => exact ⟨_, (Check.accounted_inferProgram root).andThen fun _ => .pure _⟩
  | expression root => exact ⟨_, (Check.accounted_inferExpression root).andThen fun _ => .pure _⟩
  | place root => exact ⟨_, (Check.accounted_inferPlace root).andThen fun _ => .pure _⟩
  | declaration root => exact ⟨_, (Check.accounted_makeDeclaration root).andThen fun _ => .pure _⟩
  | meaning body name =>
    exact ⟨[], .skip (Check.observes_interpretType body name) fun _ => .of_still (.pure _)⟩

namespace History

/-- All that has been taken in a history is accounted for. -/
structure AccountedFor (outermost : Frame) (history : History) (visits : List Visit) : Prop where
  serves : (State.initial outermost).storage.Serves (callsOf history.past) history.state.storage
  functions : Storage.functionsOf (callsOf history.past) = Visit.functionsOf visits
  allot : Event.Allot history.past (Visit.variablesOf visits)
  inside : history.state.frame.number < history.state.storage.taken.size
  founded : ∀ visit ∈ visits, visit.Founded visits

variable {outermost : Frame} {history : History} {visits : List Visit}

/-- A check may begin with any state that a history has left, whatever frame is in use. -/
theorem AccountedFor.perform (accounted : history.AccountedFor outermost visits)
    (request : Request) :
    (history.perform request).AccountedFor outermost (visits ++ request.visits history.state) := by
  rcases request.accounted with ⟨names, all⟩
  have account := all visits _ history.state ⟨accounted.inside, Nat.le_refl _⟩
  exact {
    serves := by
      rw [History.perform, after, callsOf_append]
      exact accounted.serves.append account.serves
    functions := by
      rw [History.perform, after, callsOf_append, Storage.functionsOf_append, accounted.functions,
        account.functions, Visit.functionsOf_append]
    allot := by
      rw [History.perform, after, Visit.variablesOf_append]
      exact accounted.allot.append account.allot
    inside := account.inside
    founded := by
      intro visit listed
      rcases List.mem_append.mp listed with early | late
      · exact (accounted.founded visit early).mono (List.subset_append_left _ _)
      · exact account.founded visit late }

theorem AccountedFor.performAll (accounted : history.AccountedFor outermost visits)
    (requests : List Request) :
    (requests.foldl History.perform history).AccountedFor outermost
      (visits ++ history.visits requests) := by
  induction requests generalizing history visits with
  | nil =>
    rw [History.visits, List.append_nil]
    exact accounted
  | cons request rest inductionHypothesis =>
    rw [History.visits, ← List.append_assoc]
    exact inductionHypothesis (accounted.perform request)

end History

/-- The body of `f` declares `x`, declares a function with a parameter `b` and a loop
of its own, and loops itself. -/
def Declaration.nestedLoops : Declaration :=
  let here : Span := ⟨1, 1, 1, 1⟩
  let ident := fun name => (⟨name, here⟩ : Ident)
  let loop := fun counter => Expression.forLoop (ident counter) (.integer 0 here)
    (.integer 9 here) (.sequence [] here) here
  .functions
    [⟨ident "f", [⟨ident "a", ident "int", here⟩], none,
      .block
        [.variable (ident "x") none (.integer 1 here) here,
          .functions [⟨ident "g", [⟨ident "b", ident "int", here⟩], none, loop "j", here⟩] here]
        (loop "i") here, here⟩] here

/-- The nested body is checked between the variables of the outer one. -/
example :
    (Visit.variablesOf ((History.start outermostFrame).visits [.declaration .nestedLoops])).map
        (fun (name, slot) => (name, slot.frame.number, slot.index)) =
      [("a", 1, 0), ("x", 1, 1), ("b", 2, 0), ("j", 2, 1), ("i", 1, 2)] := by
  decide +kernel

end StaticSemantics
