import StaticSemantics.Check.Event

namespace StaticSemantics

/-!
# Computations of the checker

A check starts from a state and leaves three things: an outcome, the state
that it reached, and what happened on the way.  The events of one step do not
depend on the events before it, so what a part of a program contributes can be
said of that part alone.

A fatal problem ends a check at once.  The state stays as it was at that
moment: scopes that are open stay open.
-/

/-- All that a check knows about the program so far. -/
structure State where
  types : Types
  /-- What the names of types are bound to. -/
  typeNames : Environment
  /-- What the names of variables and functions are bound to. -/
  valueNames : Environment
  /-- The frame of the function whose body is being checked. -/
  frame : Frame
  storage : Storage
  deriving DecidableEq, Repr

/-- What a check leaves. -/
structure Run (α : Type) where
  outcome : Except Problem α
  state : State
  /-- What happened, the first event first. -/
  events : List Event

/-- A computation of the checker. -/
def Check (α : Type) : Type :=
  State → Run α

namespace Check

variable {α β : Type}

/-- What a computation does from a state. -/
def run (check : Check α) (state : State) : Run α :=
  check state

/-- Go on after an outcome.  After a fatal problem nothing goes on. -/
def andThen (check : Check α) (next : α → Check β) : Check β := fun state =>
  match check state with
  | ⟨.error problem, reached, events⟩ => ⟨.error problem, reached, events⟩
  | ⟨.ok value, reached, events⟩ =>
    let rest := next value reached
    ⟨rest.outcome, rest.state, events ++ rest.events⟩

instance : Monad Check where
  pure value := fun state => ⟨.ok value, state, []⟩
  bind := andThen

@[simp] theorem run_pure (value : α) (state : State) :
    (pure value : Check α).run state = ⟨.ok value, state, []⟩ :=
  rfl

theorem run_bind (check : Check α) (next : α → Check β) (state : State) :
    (check >>= next).run state =
      match check.run state with
      | ⟨.error problem, reached, events⟩ => ⟨.error problem, reached, events⟩
      | ⟨.ok value, reached, events⟩ =>
        ⟨((next value).run reached).outcome, ((next value).run reached).state,
          events ++ ((next value).run reached).events⟩ :=
  rfl

theorem run_bind_of_ok {check : Check α} {state reached : State} {value : α} {events : List Event}
    (succeeds : check.run state = ⟨.ok value, reached, events⟩) (next : α → Check β) :
    (check >>= next).run state =
      ⟨((next value).run reached).outcome, ((next value).run reached).state,
        events ++ ((next value).run reached).events⟩ := by
  rw [run_bind, succeeds]

theorem run_bind_of_error {check : Check α} {state reached : State} {problem : Problem}
    {events : List Event} (fails : check.run state = ⟨.error problem, reached, events⟩)
    (next : α → Check β) :
    (check >>= next).run state = ⟨.error problem, reached, events⟩ := by
  rw [run_bind, fails]

instance : LawfulMonad Check :=
  LawfulMonad.mk' Check
    (by
      intro α check
      funext state
      change (check >>= fun value => pure value).run state = check.run state
      rw [run_bind]
      split <;> simp_all)
    (by
      intro α β value next
      funext state
      change (pure value >>= next).run state = (next value).run state
      simp [run_bind])
    (by
      intro α β γ check next last
      funext state
      change (check >>= next >>= last).run state =
        (check >>= fun value => next value >>= last).run state
      simp only [run_bind]
      cases check.run state with
      | mk outcome reached events =>
        cases outcome with
        | error problem => rfl
        | ok value =>
          simp only
          cases (next value).run reached with
          | mk outcome' reached' events' =>
            cases outcome' with
            | error problem => rfl
            | ok value' => simp)

/-!
## The steps from which checks are made
-/

/-- The state as it is now. -/
def state : Check State := fun state =>
  ⟨.ok state, state, []⟩

/-- The types as they are now. -/
def types : Check Types := fun state =>
  ⟨.ok state.types, state, []⟩

/-- The frame in which variables are put now. -/
def frame : Check Frame := fun state =>
  ⟨.ok state.frame, state, []⟩

/-- Change the state without further notice. -/
def update (change : State → State) : Check Unit := fun state =>
  ⟨.ok (), change state, []⟩

/-- Let something be known to have happened. -/
def emit (event : Event) : Check Unit := fun state =>
  ⟨.ok (), state, [event]⟩

/-- Report a problem, and go on. -/
def report (span : Span) (problem : Problem) : Check Unit :=
  emit (.reported span problem)

/-- End the check. -/
def abort (problem : Problem) : Check α := fun state =>
  ⟨.error problem, state, []⟩

/-- Ask for the next label. -/
def takeLabel : Check Label := fun state =>
  let (label, storage) := state.storage.takeLabel
  ⟨.ok label, { state with storage }, [.requested (.label label)]⟩

/-- Ask for a frame for a function that is nested in another one. -/
def takeFrame (parent : Frame) (label : Label) (parameters : Nat) : Check Frame := fun state =>
  let (frame, storage) := state.storage.takeFrame
  ⟨.ok frame, { state with storage }, [.requested (.frame parent label parameters frame)]⟩

/-- Ask for a slot in the frame in which variables are put now. -/
def takeSlot : Check Slot := fun state =>
  let (slot, storage) := state.storage.takeSlot state.frame
  ⟨.ok slot, { state with storage }, [.requested (.slot slot)]⟩

/-- Bind a name to a type. -/
def bindType (name : String) (id : TypeId) : Check Unit := fun state =>
  ⟨.ok (), { state with typeNames := state.typeNames.bind name (.type id) },
    [.bound name .type state.typeNames.depth]⟩

/-- Bind a name to a variable or a function. -/
def bindValue (name : String) (entry : Entry) : Check Unit := fun state =>
  ⟨.ok (), { state with valueNames := state.valueNames.bind name entry },
    [.bound name entry.kind state.valueNames.depth]⟩

/-- Bind a name to a new variable. -/
def bindVariable (name : String) (type : TypeId) : Check Unit := do
  bindValue name (.variable ⟨type, ← takeSlot⟩)

/-- Take a number for a type that is about to be defined. -/
def declareType (name : String) (span : Span) : Check TypeId := fun state =>
  let (id, types) := state.types.declare name span
  ⟨.ok id, { state with types }, []⟩

/-- Define a type that has been declared. -/
def defineType (id : TypeId) (type : Ty) : Check Unit :=
  update fun state => { state with types := state.types.define id type }

def openTypeScope : Check Unit :=
  update fun state => { state with typeNames := state.typeNames.openScope }

def closeTypeScope : Check Unit :=
  update fun state => { state with typeNames := state.typeNames.closeScope }

def openValueScope : Check Unit :=
  update fun state => { state with valueNames := state.valueNames.openScope }

def closeValueScope : Check Unit :=
  update fun state => { state with valueNames := state.valueNames.closeScope }

/-- Put variables into this frame from now on. -/
def setFrame (frame : Frame) : Check Unit :=
  update fun state => { state with frame }

end Check
end StaticSemantics
