import StaticSemantics.Proofs.Frames.Allocation
import StaticSemantics.Proofs.Frames.Visits
import StaticSemantics.Proofs.Layout.Realization

namespace StaticSemantics

/-!
# Every handle is accounted for

An account of a part of a check says which visit each handle was taken for, and
into which frames its variables were put: into the frame in use, or into a frame
that was handed out on the way.  So a frame that was handed out before, and is
not in use, is left alone.  That is why no body of a group, and no function
nested in one, takes a slot in the frame of a member whose turn is still to come.

Accounts are put together along the tree.  If a part is aborted, the frame may
be that of some function, but all that was taken until then is accounted for.
-/

/-- The first slots of a frame, one for each name. -/
def Frame.layOut (frame : Frame) (names : List String) : List (String × Slot) :=
  names.zipIdx.map fun (name, index) => (name, ⟨frame, index⟩)

/-- If there are fewer names, the first slots are the same. -/
theorem Frame.layOut_prefix (frame : Frame) {names more : List String} (initial : names <+: more) :
    frame.layOut names <+: frame.layOut more := by
  obtain ⟨rest, rfl⟩ := initial
  rw [layOut, layOut, List.zipIdx_append, List.map_append]
  exact List.prefix_append _ _

namespace FunctionDeclaration

/-- What the parameters of a function are bound to: variables in the first slots of
its frame, in their order. -/
def parameterBindings (member : FunctionDeclaration) (header : Check.FunctionHeader) :
    List Binding :=
  (member.parameters.zip header.parameters).zipIdx.map fun ((parameter, type), index) =>
    ⟨parameter.name.name, .variable ⟨type, ⟨header.frame, index⟩⟩⟩

/-- The check of a body, from the state in which it begins, uses the frame of its
function as it should: the first slots are for the parameters, and the next ones
for the variables of the body in their order, up to the end or until the check
is aborted. -/
structure LaidOut (member : FunctionDeclaration) (header : Check.FunctionHeader) (start : State) :
    Prop where
  parameters :
    let entered := (Check.bindParameters member.parameters header.parameters).run
      (header.enter start)
    entered.outcome = .ok () ∧ entered.state.frame = header.frame ∧
      entered.state.valueNames =
        start.valueNames.openScope.bindAll (member.parameterBindings header)
  begun : Visit.variablesIn header.frame (member.inside header start) <+:
    header.frame.layOut member.locals
  ended : ∀ value, ((Check.checkBodies [member] [header]).run start).outcome = .ok value →
    Visit.variablesIn header.frame (member.inside header start) =
      header.frame.layOut member.locals

end FunctionDeclaration

/-- A header is what an announcement of a function has given. -/
def Check.FunctionHeader.Announced (visits : List Visit) (member : FunctionDeclaration)
    (header : FunctionHeader) : Prop :=
  (∃ announced, .heading member announced ∈ visits ∧
    ((announceFunction member).run announced).outcome = .ok header) ∧
  FunctionHeader.Fits member header

theorem Check.FunctionHeader.Announced.mono {visits more : List Visit} (included : visits ⊆ more)
    {member : FunctionDeclaration} {header : FunctionHeader}
    (announced : header.Announced visits member) : header.Announced more member := by
  rcases announced with ⟨⟨before, heading, headed⟩, fits⟩
  exact ⟨⟨before, included heading, headed⟩, fits⟩

/-- A body is checked for a function that was announced before, and in its frame. -/
def Visit.Founded (known : List Visit) : Visit → Prop
  | .body member header start =>
    header.Announced known member ∧ member.LaidOut header start
  | _ => True

theorem Visit.Founded.mono {known more : List Visit} (included : known ⊆ more) {visit : Visit}
    (founded : visit.Founded known) : visit.Founded more := by
  cases visit with
  | «variable» | heading => trivial
  | body member header start =>
    exact ⟨founded.1.mono included, founded.2⟩

namespace Event

/-- The slot that is asked for in an event. -/
def slot? (event : Event) : Option Slot :=
  event.call?.bind Storage.Call.slot?

theorem slotsOf_callsOf (events : List Event) :
    Storage.slotsOf (callsOf events) = events.filterMap slot? :=
  List.filterMap_filterMap

/-- What happens when some variables get their slots: each slot is asked for right
before its variable is bound, and no other slots are asked for. -/
inductive Allot : List Event → List (String × Slot) → Prop
  | nothing : Allot [] []
  | other {event : Event} {events : List Event} {entries : List (String × Slot)}
    (unasked : event.slot? = none) (rest : Allot events entries) : Allot (event :: events) entries
  | «variable» (name : String) (slot : Slot) (depth : Nat) {events : List Event}
    {entries : List (String × Slot)} (rest : Allot events entries) :
    Allot (.requested (.slot slot) :: .bound name .variable depth :: events)
      ((name, slot) :: entries)

namespace Allot

variable {events further : List Event} {entries more : List (String × Slot)}

theorem append (first : Allot events entries) (second : Allot further more) :
    Allot (events ++ further) (entries ++ more) := by
  induction first with
  | nothing => exact second
  | other unasked _ inductionHypothesis => exact .other unasked inductionHypothesis
  | «variable» name slot depth _ inductionHypothesis =>
    exact .variable name slot depth inductionHypothesis

theorem of_unasked (unasked : Storage.slotsOf (callsOf events) = []) : Allot events [] := by
  rw [slotsOf_callsOf, List.filterMap_eq_nil_iff] at unasked
  induction events with
  | nil => exact .nothing
  | cons event rest inductionHypothesis =>
    exact .other (unasked event List.mem_cons_self)
      (inductionHypothesis fun later listed => unasked later (List.mem_cons_of_mem _ listed))

/-- No slots are asked for but those of the variables. -/
theorem slotsOf_eq (allot : Allot events entries) :
    Storage.slotsOf (callsOf events) = entries.map (·.2) := by
  rw [slotsOf_callsOf]
  induction allot with
  | nothing => rfl
  | other unasked _ inductionHypothesis =>
    rw [List.filterMap_cons_none unasked, inductionHypothesis]
  | «variable» name slot depth _ inductionHypothesis =>
    exact congrArg (slot :: ·) inductionHypothesis

end Allot
end Event

/-- The frame in use is older than `base`, and all frames below `base` are there. -/
structure State.Below (state : State) (base : Nat) : Prop where
  frame : state.frame.number < base
  size : base ≤ state.storage.taken.size

/-- What a check has taken on its way.  Some visits are known from before, and the
names are those of the variables for the frame in use. -/
structure Account {α : Type} (known : List Visit) (base : Nat) (names : List String)
    (start : State) (run : Run α) (visits : List Visit) : Prop where
  serves : start.storage.Serves (callsOf run.events) run.state.storage
  functions : Storage.functionsOf (callsOf run.events) = Visit.functionsOf visits
  allot : Event.Allot run.events (Visit.variablesOf visits)
  /-- The frame in use is there, also after an abort. -/
  inside : run.state.frame.number < run.state.storage.taken.size
  /-- No slot is taken in an old frame that is not in use. -/
  confined : ∀ entry ∈ Visit.variablesOf visits,
    entry.2.frame = start.frame ∨ base ≤ entry.2.frame.number
  founded : ∀ visit ∈ visits, visit.Founded (known ++ visits)
  begun : (Visit.variablesIn start.frame visits).map (·.1) <+: names
  ended : ∀ value, run.outcome = .ok value → run.state.frame = start.frame ∧
    (Visit.variablesIn start.frame visits).map (·.1) = names

namespace Check

variable {α β : Type}

theorem onward_of_ok {check : Check α} {state reached : State} {value : α} {events : List Event}
    (succeeds : check.run state = ⟨.ok value, reached, events⟩)
    (next : α → State → List Visit) : check.onward next state = next value reached := by
  unfold onward
  rw [succeeds]

theorem onward_of_error {check : Check α} {state reached : State} {problem : Problem}
    {events : List Event} (fails : check.run state = ⟨.error problem, reached, events⟩)
    (next : α → State → List Visit) : check.onward next state = [] := by
  unfold onward
  rw [fails]

end Check

namespace Account

open Check

variable {α β : Type} {known visits : List Visit} {base : Nat} {names more : List String}
  {state : State}

/-- The frames from `base` on are still ahead after a part that ended well. -/
theorem below {run : Run α} (account : Account known base names state run visits)
    (below : state.Below base) {value : α} (ended : run.outcome = .ok value) :
    run.state.Below base where
  frame := by
    rw [(account.ended value ended).1]
    exact below.frame
  size := by
    rw [account.serves.size_eq]
    exact Nat.le_add_right_of_le below.size

/-- A step that asks for nothing and keeps the frame. -/
theorem of_quiet {run : Run α} (below : state.Below base)
    (storage : run.state.storage = state.storage)
    (frame : run.state.frame = state.frame) (quiet : callsOf run.events = []) :
    Account known base [] state run [] where
  serves := by
    rw [storage, quiet]
    exact .nothing _
  functions := by
    rw [quiet]
    rfl
  allot := .of_unasked (by rw [quiet]; rfl)
  inside := by
    rw [frame, storage]
    exact Nat.lt_of_lt_of_le below.frame below.size
  confined := by simp [Visit.variablesOf]
  founded := by simp
  begun := List.prefix_rfl
  ended _ _ := ⟨frame, rfl⟩

/-- A part that ended well, and the part after it. -/
theorem append {run : Run α} {next : Run β} {further : List Visit} {value : α}
    (first : Account known base names state run visits) (ended : run.outcome = .ok value)
    (rest : Account (known ++ visits) base more run.state next further) :
    Account known base (names ++ more) state ⟨next.outcome, next.state, run.events ++ next.events⟩
      (visits ++ further) := by
  obtain ⟨sameFrame, exactly⟩ := first.ended value ended
  have together : (Visit.variablesIn state.frame (visits ++ further)).map (·.1) =
      names ++ (Visit.variablesIn run.state.frame further).map (·.1) := by
    rw [Visit.variablesIn_append, List.map_append, exactly, sameFrame]
  exact {
    serves := by
      rw [callsOf_append]
      exact first.serves.append rest.serves
    functions := by
      rw [callsOf_append, Storage.functionsOf_append, first.functions, rest.functions,
        Visit.functionsOf_append]
    allot := by
      rw [Visit.variablesOf_append]
      exact first.allot.append rest.allot
    inside := rest.inside
    confined := by
      intro entry taken
      rw [Visit.variablesOf_append] at taken
      rcases List.mem_append.mp taken with early | late
      · exact first.confined entry early
      · rw [← sameFrame]
        exact rest.confined entry late
    founded := by
      intro visit member
      rw [← List.append_assoc]
      rcases List.mem_append.mp member with early | late
      · exact (first.founded visit early).mono (List.subset_append_left _ _)
      · exact rest.founded visit late
    begun := by
      rw [together]
      exact (List.prefix_append_right_inj names).mpr rest.begun
    ended := by
      intro last ended
      obtain ⟨stays, complete⟩ := rest.ended last ended
      exact ⟨stays.trans sameFrame, by rw [together, complete]⟩ }

/-- An aborted part is all there is, so fewer variables are there than names. -/
theorem of_error {reached : State} {problem : Problem} {events : List Event}
    (first : Account known base names state (⟨.error problem, reached, events⟩ : Run α) visits) :
    Account known base (names ++ more) state (⟨.error problem, reached, events⟩ : Run β) visits :=
  { first with
    begun := first.begun.trans (List.prefix_append _ _)
    ended := by
      intro value ended
      cases ended }

/-- A check goes on after another one. -/
theorem bind {check : Check α} {next : α → Check β} {further : α → State → List Visit}
    (first : Account known base names state (check.run state) visits)
    (second : ∀ value reached events, check.run state = ⟨.ok value, reached, events⟩ →
      Account (known ++ visits) base more reached ((next value).run reached)
        (further value reached)) :
    Account known base (names ++ more) state ((check >>= next).run state)
      (visits ++ check.onward further state) := by
  rcases ran : check.run state with ⟨outcome, reached, events⟩
  rw [ran] at first
  cases outcome with
  | error problem =>
    rw [run_bind_of_error ran, onward_of_error ran, List.append_nil]
    exact first.of_error
  | ok value =>
    rw [run_bind_of_ok ran, onward_of_ok ran]
    exact first.append rfl (second value reached events ran)

/-- In a frame without slots, the variables are put into the first slots. -/
theorem variablesIn_eq {run : Run α} (account : Account known base names state run visits)
    {frame : Frame} (unused : state.storage.slots frame = 0) :
    Visit.variablesIn frame visits =
      frame.layOut ((Visit.variablesIn frame visits).map (·.1)) := by
  let entries := Visit.variablesIn frame visits
  have slots : entries.map (·.2) = (List.range' 0 entries.length).map (⟨frame, ·⟩) := by
    have handed := account.serves.slotsIn_eq frame
    have same : Storage.slotsIn frame (callsOf run.events) = entries.map (·.2) := by
      rw [Storage.slotsIn, account.allot.slotsOf_eq, List.filter_map]
      rfl
    rwa [same, Storage.nextSlots, unused, List.length_map] at handed
  have paired : entries = (entries.map (·.1)).zip (entries.map (·.2)) := by
    rw [List.zip_map']
    exact (List.map_id entries).symm
  rw [slots] at paired
  rw [Frame.layOut, List.zipIdx_eq_zip_range', List.length_map]
  exact paired.trans (List.zip_map_right ..)

end Account

namespace Check

variable {α β : Type}

/-- From all states, a check takes what these visits are about, and these names
are those of the variables for the frame in use. -/
def Accounted (check : Check α) (visits : State → List Visit) (names : List String) : Prop :=
  ∀ known base state, state.Below base →
    Account known base names state (check.run state) (visits state)

namespace Accounted

variable {check : Check α} {next : α → Check β} {visits : State → List Visit}
  {further : α → State → List Visit} {names more : List String}

theorem bind (first : check.Accounted visits names)
    (second : ∀ value, (next value).Accounted (further value) more) :
    (check >>= next).Accounted (fun state => visits state ++ check.onward further state)
      (names ++ more) := by
  intro known base state below
  have early := first known base state below
  refine early.bind fun value reached events ran => ?_
  rw [ran] at early
  exact second value _ base reached (early.below below rfl)

theorem of_still (still : check.Still) : check.Accounted (fun _ => []) [] := by
  intro known base state below
  rcases still state with ⟨value, reached, events, ran, storage, _, frame, quiet⟩
  rw [ran]
  exact .of_quiet below storage frame quiet

theorem of_observes (observes : check.Observes) : check.Accounted (fun _ => []) [] :=
  .of_still observes.still

/-- What is done before a check may change what is in scope. -/
theorem opening (still : check.Still)
    (rest : ∀ value, (next value).Accounted (further value) names) :
    (check >>= next).Accounted (check.onward further) names :=
  (of_still still).bind rest

/-- What only observes may come before a check. -/
theorem skip (observes : check.Observes) (rest : ∀ value, (next value).Accounted visits names) :
    (check >>= next).Accounted visits names := by
  intro known base state below
  rcases observes state with ⟨value, events, ran, _⟩
  have both := opening observes.still rest known base state below
  rwa [onward_of_ok ran] at both

/-- What asks for nothing may come after a check. -/
theorem andThen (first : check.Accounted visits names) (rest : ∀ value, (next value).Still) :
    (check >>= next).Accounted visits names := by
  intro known base state below
  have both := first.bind (fun value => of_still (rest value)) known base state below
  have nothing : check.onward (fun _ _ => []) state = [] := by
    unfold onward
    split <;> rfl
  simpa only [nothing, List.append_nil] using both

theorem abort (problem : Problem) : (Check.abort problem : Check α).Accounted (fun _ => []) [] := by
  intro known base state below
  exact .of_quiet below rfl rfl rfl

end Accounted

end Check
end StaticSemantics
