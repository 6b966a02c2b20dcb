import StaticSemantics.Proofs.FunctionGroup
import StaticSemantics.Proofs.History

namespace StaticSemantics

/-!
# The moments at which handles are taken

What a handle is given to can be told from the tree alone, but which handle it
is depends on the state.  So a check is followed here along its tree, and the
moments that matter are kept, each with the state just before it: a name is
bound to a new variable, a function is announced, the body of a function is
begun.

The walk runs every part to find the state after it.  If a part is aborted, the
walk ends there, as the check does.  The steps between the parts that only
observe are left out, since they leave the state as it was.
-/

/-- A moment of a check, with the state just before it. -/
inductive Visit where
  /-- A name is bound to a new variable. -/
  | variable (name : String) (start : State)
  /-- A function is announced. -/
  | heading (member : FunctionDeclaration) (start : State)
  /-- The check of the body of a function begins. -/
  | body (member : FunctionDeclaration) (header : Check.FunctionHeader) (start : State)

namespace Visit

/-- The variable of a visit, and the slot that it takes. -/
def entry? : Visit → Option (String × Slot)
  | .variable name start => some (name, (start.storage.takeSlot start.frame).1)
  | _ => none

/-- The label and the frame that are taken for the function of a visit. -/
def function? : Visit → Option (Label × Frame)
  | .heading _ start => some (start.storage.takeLabel.1, start.storage.takeLabel.2.takeFrame.1)
  | _ => none

/-- The variables on the way, with their slots. -/
def variablesOf (visits : List Visit) : List (String × Slot) :=
  visits.filterMap entry?

/-- The handles of the functions on the way. -/
def functionsOf (visits : List Visit) : List (Label × Frame) :=
  visits.filterMap function?

/-- The variables on the way that are put into one frame. -/
def variablesIn (frame : Frame) (visits : List Visit) : List (String × Slot) :=
  (variablesOf visits).filter (·.2.frame = frame)

theorem variablesOf_append (first second : List Visit) :
    variablesOf (first ++ second) = variablesOf first ++ variablesOf second :=
  List.filterMap_append

theorem functionsOf_append (first second : List Visit) :
    functionsOf (first ++ second) = functionsOf first ++ functionsOf second :=
  List.filterMap_append

theorem variablesIn_append (frame : Frame) (first second : List Visit) :
    variablesIn frame (first ++ second) = variablesIn frame first ++ variablesIn frame second := by
  rw [variablesIn, variablesOf_append, List.filter_append]
  rfl

end Visit

namespace Check

variable {α : Type}

/-- What is visited after a check, in the state that it has reached.  After a
fatal problem nothing is. -/
def onward (check : Check α) (next : α → State → List Visit) (state : State) : List Visit :=
  match check.run state with
  | ⟨.ok value, reached, _⟩ => next value reached
  | ⟨.error _, _, _⟩ => []

/-- The visits for some new variables, one after another. -/
def variableVisits : List (TypedName × TypeId) → State → List Visit
  | [], _ => []
  | (parameter, type) :: rest, state =>
    .variable parameter.name.name state ::
      (bindVariable parameter.name.name type).onward (fun _ => variableVisits rest) state

/-- The visits for the headings of a group of functions. -/
def headingVisits : List FunctionDeclaration → State → List Visit
  | [], _ => []
  | member :: rest, state =>
    .heading member state :: (announceFunction member).onward (fun _ => headingVisits rest) state

/-- The state in which the parameters of a function are bound: a scope has been
opened, and variables are put into the frame of the function. -/
def FunctionHeader.enter (header : FunctionHeader) (state : State) : State :=
  { state with valueNames := state.valueNames.openScope, frame := header.frame }

end Check

open Check

mutual

/-- The visits on the way through a place. -/
def Place.visits : Place → State → List Visit
  | .name _ _, _ => []
  | .field base _ _, state => base.visits state
  | .element base index _, state =>
    base.visits state ++ (inferPlace base).onward (fun _ => index.visits) state
termination_by structural place => place

/-- The visits on the way through an expression. -/
def Expression.visits : Expression → State → List Visit
  | .nil _, _ | .integer _ _, _ | .string _ _, _ | .breakLoop _, _ | .malformed _, _ => []
  | .place place _, state => place.visits state
  | .call _ arguments _, state => Expression.allVisits arguments state
  | .binary _ left right _, state =>
    left.visits state ++ (inferExpression left).onward (fun _ => right.visits) state
  | .record _ fields _, state => Initializer.allVisits fields state
  | .array _ size initial _, state =>
    size.visits state ++ (inferExpression size).onward (fun _ => initial.visits) state
  | .sequence members _, state => Expression.allVisits members state
  | .assign target value _, state =>
    target.visits state ++ (inferPlace target).onward (fun _ => value.visits) state
  | .ifThen test body _, state | .whileLoop test body _, state =>
    test.visits state ++ (inferExpression test).onward (fun _ => body.visits) state
  | .ifThenElse test positive negative _, state =>
    test.visits state ++ (inferExpression test).onward (fun _ state =>
      positive.visits state ++ (inferExpression positive).onward (fun _ => negative.visits) state)
      state
  | .forLoop counter low high body _, state =>
    low.visits state ++ (inferExpression low).onward (fun _ state =>
      high.visits state ++ (inferExpression high).onward (fun _ =>
        openValueScope.onward fun _ state =>
          .variable counter.name state ::
            (bindVariable counter.name .int).onward (fun _ => body.visits) state) state) state
  | .block declarations body _, state =>
    openTypeScope.onward (fun _ => openValueScope.onward fun _ state =>
      Declaration.allVisits declarations state ++
        (makeDeclarations declarations).onward (fun _ => body.visits) state) state
termination_by structural expression => expression

def Expression.allVisits : List Expression → State → List Visit
  | [], _ => []
  | expression :: rest, state =>
    expression.visits state ++
      (inferExpression expression).onward (fun _ => Expression.allVisits rest) state
termination_by structural expressions => expressions

def Initializer.allVisits : List Initializer → State → List Visit
  | [], _ => []
  | ⟨_, value, _⟩ :: rest, state =>
    value.visits state ++
      (inferExpression value).onward (fun _ => Initializer.allVisits rest) state
termination_by structural initializers => initializers

/-- The visits on the way through a declaration. -/
def Declaration.visits : Declaration → State → List Visit
  | .variable name _ initial _, state =>
    initial.visits state ++ (inferExpression initial).onward (fun _ state =>
      [.variable name.name state]) state
  | .functions members _, state =>
    headingVisits members state ++
      (members.mapM announceFunction).onward (FunctionDeclaration.bodyVisits members) state
  | .types _ _, _ => []
termination_by structural declaration => declaration

def Declaration.allVisits : List Declaration → State → List Visit
  | [], _ => []
  | declaration :: rest, state =>
    declaration.visits state ++
      (makeDeclaration declaration).onward (fun _ => Declaration.allVisits rest) state
termination_by structural declarations => declarations

/-- The visits on the way through the bodies of a group of functions. -/
def FunctionDeclaration.bodyVisits :
    List FunctionDeclaration → List FunctionHeader → State → List Visit
  | ⟨name, parameters, result, body, span⟩ :: rest, header :: headers, state =>
    .body ⟨name, parameters, result, body, span⟩ header state ::
      (variableVisits (parameters.zip header.parameters) (header.enter state) ++
          (bindParameters parameters header.parameters).onward (fun _ => body.visits)
            (header.enter state)) ++
        (checkBodies [⟨name, parameters, result, body, span⟩] [header]).onward
          (fun _ => FunctionDeclaration.bodyVisits rest headers) state
  | _, _, _ => []
termination_by structural members => members

end

/-- The visits inside of the body of a function, those for its parameters first. -/
def FunctionDeclaration.inside (member : FunctionDeclaration) (header : FunctionHeader)
    (state : State) : List Visit :=
  variableVisits (member.parameters.zip header.parameters) (header.enter state) ++
    (bindParameters member.parameters header.parameters).onward (fun _ => member.body.visits)
      (header.enter state)

mutual

/-- The variables of a place that belong to the frame around it, in the order in
which they are declared. -/
def Place.locals : Place → List String
  | .name _ _ => []
  | .field base _ _ => base.locals
  | .element base index _ => base.locals ++ index.locals
termination_by structural place => place

/-- The variables of an expression that belong to the frame around it: those that
are declared and the counters of loops.  Variables of nested functions do not. -/
def Expression.locals : Expression → List String
  | .nil _ | .integer _ _ | .string _ _ | .breakLoop _ | .malformed _ => []
  | .place place _ => place.locals
  | .call _ arguments _ => Expression.allLocals arguments
  | .binary _ left right _ => left.locals ++ right.locals
  | .record _ fields _ => Initializer.allLocals fields
  | .array _ size initial _ => size.locals ++ initial.locals
  | .sequence members _ => Expression.allLocals members
  | .assign target value _ => target.locals ++ value.locals
  | .ifThen test body _ | .whileLoop test body _ => test.locals ++ body.locals
  | .ifThenElse test positive negative _ => test.locals ++ (positive.locals ++ negative.locals)
  | .forLoop counter low high body _ =>
    low.locals ++ (high.locals ++ counter.name :: body.locals)
  | .block declarations body _ => Declaration.allLocals declarations ++ body.locals
termination_by structural expression => expression

def Expression.allLocals : List Expression → List String
  | [] => []
  | expression :: rest => expression.locals ++ Expression.allLocals rest
termination_by structural expressions => expressions

def Initializer.allLocals : List Initializer → List String
  | [] => []
  | ⟨_, value, _⟩ :: rest => value.locals ++ Initializer.allLocals rest
termination_by structural initializers => initializers

/-- The variables of a declaration that belong to the frame around it. -/
def Declaration.locals : Declaration → List String
  | .variable name _ initial _ => initial.locals ++ [name.name]
  | .functions _ _ | .types _ _ => []
termination_by structural declaration => declaration

def Declaration.allLocals : List Declaration → List String
  | [] => []
  | declaration :: rest => declaration.locals ++ Declaration.allLocals rest
termination_by structural declarations => declarations

end

/-- The variables that belong to the frame of a function, its parameters first. -/
def FunctionDeclaration.locals (member : FunctionDeclaration) : List String :=
  member.parameters.map (·.name.name) ++ member.body.locals

/-- The visits on the way through a check that is asked for. -/
def Request.visits : Request → State → List Visit
  | .program root | .expression root => root.visits
  | .place root => root.visits
  | .declaration root => root.visits
  | .meaning _ _ => fun _ => []

/-- The visits on the way through the checks with which a history goes on. -/
def History.visits (history : History) : List Request → List Visit
  | [] => []
  | request :: rest =>
    request.visits history.state ++ (history.perform request).visits rest

end StaticSemantics
