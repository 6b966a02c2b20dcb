import StaticSemantics.Proofs.Frames.Accounts

namespace StaticSemantics
namespace Check

/-!
# Accounts of whole trees

The handles are taken where variables are bound and where functions are
announced.  All else that is checked only puts accounts together.

The members of a group are announced before any of their bodies is checked.  So
while one body is checked, there are frames in which no slot has been taken yet.
They stay so, because the account of a body is confined to its own frame and to
frames that are handed out during the body.
-/

theorem accounted_bindVariable (name : String) (type : TypeId) :
    (bindVariable name type).Accounted (fun state => [.variable name state]) [name] := by
  intro known base state below
  have there := Nat.lt_of_lt_of_le below.frame below.size
  exact {
    serves := .slot there (.nothing _)
    functions := rfl
    allot := .variable _ _ _ .nothing
    inside := by
      change state.frame.number < (state.storage.takeSlot state.frame).2.taken.size
      rw [Storage.size_takeSlot there]
      exact there
    confined := by
      intro entry taken
      rw [List.mem_singleton.mp taken]
      exact .inl rfl
    founded := by
      intro visit member
      rw [List.mem_singleton.mp member]
      trivial
    begun := by simp [Visit.variablesIn, Visit.variablesOf, Visit.entry?, Storage.takeSlot]
    ended := by
      intro value ended
      refine ⟨rfl, ?_⟩
      simp [Visit.variablesIn, Visit.variablesOf, Visit.entry?, Storage.takeSlot] }

theorem accounted_bindParameters (parameters : List TypedName) (types : List TypeId)
    (fits : types.length = parameters.length) :
    (bindParameters parameters types).Accounted (variableVisits (parameters.zip types))
      (parameters.map (·.name.name)) := by
  unfold bindParameters
  induction parameters generalizing types with
  | nil => exact .of_still (.pure _)
  | cons parameter rest inductionHypothesis =>
    cases types with
    | nil => cases fits
    | cons type types =>
      exact (accounted_bindVariable parameter.name.name type).bind fun _ =>
        inductionHypothesis types (Nat.succ.inj fits)

/-- New variables are bound to the next slots of the frame in use. -/
theorem run_bindParameters (parameters : List TypedName) (types : List TypeId) (state : State) :
    ∃ reached events, (bindParameters parameters types).run state = ⟨.ok (), reached, events⟩ ∧
      reached.frame = state.frame ∧
      reached.valueNames = state.valueNames.bindAll
        (((parameters.zip types).zipIdx (state.storage.slots state.frame)).map
          fun ((parameter, type), index) =>
            ⟨parameter.name.name, .variable ⟨type, ⟨state.frame, index⟩⟩⟩) := by
  unfold bindParameters
  induction parameters.zip types generalizing state with
  | nil => exact ⟨state, [], rfl, rfl, rfl⟩
  | cons pair rest inductionHypothesis =>
    obtain ⟨parameter, type⟩ := pair
    let slot : Slot := ⟨state.frame, state.storage.slots state.frame⟩
    let between : State :=
      { state with
        storage := (state.storage.takeSlot state.frame).2
        valueNames := state.valueNames.bind parameter.name.name (.variable ⟨type, slot⟩) }
    have ran : (bindVariable parameter.name.name type).run state = ⟨.ok (), between, _⟩ := rfl
    rcases inductionHypothesis between with ⟨reached, events, ranOn, frame, valueNames⟩
    have moved : between.storage.slots between.frame = state.storage.slots state.frame + 1 := by
      rw [Storage.slots_takeSlot, if_pos rfl]
    refine ⟨reached, _, (run_bind_of_ok ran _).trans (by rw [ranOn]), frame, ?_⟩
    rw [valueNames, moved, List.zipIdx_cons, List.map_cons]
    exact (Environment.bindAll_append _ [_] _).symm

theorem accounted_announceFunction (member : FunctionDeclaration) :
    (announceFunction member).Accounted (fun state => [.heading member state]) [] := by
  intro known base state below
  have there := Nat.lt_of_lt_of_le below.frame below.size
  rw [run_announceFunction_takes]
  exact {
    serves := by
      rw [callsOf_headingEvents]
      exact .function state.frame _ (.nothing _)
    functions := by
      rw [callsOf_headingEvents]
      rfl
    allot := .of_unasked (by rw [callsOf_headingEvents]; rfl)
    inside := by
      change state.frame.number < state.storage.takeFunction.taken.size
      rw [Storage.size_takeFunction]
      exact Nat.lt_succ_of_lt there
    confined := by
      intro entry taken
      cases taken
    founded := by
      intro visit member
      rw [List.mem_singleton.mp member]
      trivial
    begun := List.prefix_rfl
    ended := fun value ended => ⟨rfl, rfl⟩ }

theorem accounted_announceFunctions (members : List FunctionDeclaration) :
    (members.mapM announceFunction).Accounted (headingVisits members) [] := by
  induction members with
  | nil => exact .of_still (.pure _)
  | cons member rest inductionHypothesis =>
    rw [List.mapM_cons]
    exact (accounted_announceFunction member).bind fun header =>
      inductionHypothesis.andThen fun headers => .pure _

/-- The headers of a group come from its announcements, and no slots are taken on the way. -/
theorem announceFunctions_headers (members : List FunctionDeclaration) (state : State) :
    ∃ headers, ((members.mapM announceFunction).run state).outcome = .ok headers ∧
      members.Forall₂ (fun member header => header.Announced (headingVisits members state) member)
        headers ∧
      headers.map (·.frame) = (Visit.functionsOf (headingVisits members state)).map (·.2) ∧
      Visit.variablesOf (headingVisits members state) = [] := by
  induction members generalizing state with
  | nil => exact ⟨[], rfl, .nil, rfl, rfl⟩
  | cons member rest inductionHypothesis =>
    let header := member.header state.typeNames state.storage.takeLabel.2.takeFrame.1
    have fits : FunctionHeader.Fits member header := List.length_map _
    have headed : ((announceFunction member).run state).outcome = .ok header :=
      congrArg Run.outcome (run_announceFunction_takes member state)
    rcases first : (announceFunction member).run state with ⟨outcome, between, events⟩
    rw [first] at headed
    cases headed
    rcases inductionHypothesis between with ⟨headers, answered, announced, frames, quiet⟩
    refine ⟨header :: headers, ?_, ?_⟩
    · rcases ran : (rest.mapM announceFunction).run between with ⟨outcome, reached, events⟩
      rw [ran] at answered
      cases answered
      rw [List.mapM_cons, run_bind_of_ok first, run_bind_of_ok ran]
      rfl
    · rw [headingVisits, onward_of_ok first fun _ => headingVisits rest]
      refine ⟨.cons ⟨⟨state, List.mem_cons_self, by rw [first]⟩, fits⟩ ?_,
        congrArg (header.frame :: ·) frames, quiet⟩
      exact announced.imp fun _ _ => .mono (List.subset_cons_self _ _)

/-!
## Groups of functions
-/

/-- The members of a group whose bodies are still to be checked.  Their frames are
there, but no slot has been taken in them. -/
structure Pending (known : List Visit) (base : Nat) (state : State)
    (members : List FunctionDeclaration) (headers : List FunctionHeader) : Prop where
  announced : members.Forall₂ (fun member header => header.Announced known member) headers
  apart : (headers.map (·.frame)).Nodup
  ahead : ∀ header ∈ headers, base ≤ header.frame.number
  there : ∀ header ∈ headers, header.frame.number < state.storage.taken.size
  unused : ∀ header ∈ headers, state.storage.slots header.frame = 0

theorem pending_announceFunctions {known : List Visit} {base : Nat} {state reached : State}
    {members : List FunctionDeclaration} {headers : List FunctionHeader} {events : List Event}
    (below : state.Below base)
    (ran : (members.mapM announceFunction).run state = ⟨.ok headers, reached, events⟩) :
    Pending (known ++ headingVisits members state) base reached members headers := by
  have account := accounted_announceFunctions members known base state below
  rcases announceFunctions_headers members state with ⟨found, answered, announced, frames, quiet⟩
  rw [ran] at account answered
  cases answered
  have functions : headers.map (·.frame) = (Storage.functionsOf (callsOf events)).map (·.2) := by
    rw [frames, account.functions]
  have untouched : Storage.slotsOf (callsOf events) = [] := by
    rw [account.allot.slotsOf_eq, quiet]
    rfl
  have new : ∀ header ∈ headers, state.storage.taken.size ≤ header.frame.number ∧
      header.frame.number < reached.storage.taken.size := by
    intro header member
    have listed : header.frame ∈ headers.map (·.frame) := List.mem_map_of_mem member
    rw [functions] at listed
    rcases List.mem_map.mp listed with ⟨⟨label, frame⟩, handed, same⟩
    rw [← same]
    exact (account.serves.new_of_mem handed).2
  exact {
    announced := announced.imp fun _ _ => .mono (List.subset_append_right _ _)
    apart := by
      rw [functions]
      exact account.serves.nodup_frames
    ahead := fun header member => Nat.le_trans below.size (new header member).1
    there := fun header member => (new header member).2
    unused := by
      intro header member
      have before : state.storage.slots header.frame = 0 := by
        rw [Storage.slots, Array.getElem?_eq_none (new header member).1]
        rfl
      rw [account.serves.slots_eq (by simp [untouched]), before] }

/-- The check of a body, from its parameters to its last expectation. -/
def checkWithin (member : FunctionDeclaration) (header : FunctionHeader) : Check Unit := do
  bindParameters member.parameters header.parameters
  let bodyType ← inferExpression member.body
  expectCompatible header.result bodyType member.span (some member.name.name)

theorem run_checkBody (member : FunctionDeclaration) (header : FunctionHeader) (state : State) :
    (checkBodies [member] [header]).run state =
      (do
        checkWithin member header
        setFrame state.frame
        closeValueScope).run (header.enter state) := by
  obtain ⟨name, parameters, result, body, span⟩ := member
  simp only [checkBodies, checkWithin, bind_assoc]
  rfl

/-- What is done around a body asks for nothing.  After a body that ended well the
frame is the one that was in use before; after an abort it is left as it is. -/
theorem checkBody_around (member : FunctionDeclaration) (header : FunctionHeader) (state : State) :
    let within := (checkWithin member header).run (header.enter state)
    let run := (checkBodies [member] [header]).run state
    run.events = within.events ∧ run.state.storage = within.state.storage ∧
      (within.outcome = .ok () ∧ run.state.frame = state.frame ∨
        (∃ problem, run.outcome = .error problem) ∧ run.state.frame = within.state.frame) := by
  rcases ran : (checkWithin member header).run (header.enter state) with ⟨outcome, reached, events⟩
  cases outcome with
  | error problem =>
    rw [run_checkBody, run_bind_of_error ran]
    exact ⟨rfl, rfl, .inr ⟨⟨problem, rfl⟩, rfl⟩⟩
  | ok value =>
    rw [run_checkBody, run_bind_of_ok ran]
    exact ⟨List.append_nil events, rfl, .inl ⟨rfl, rfl⟩⟩

/-- A body whose variables are accounted for is laid out in the frame of its function. -/
theorem laidOut_of_account {known : List Visit} {base : Nat} {member : FunctionDeclaration}
    {header : FunctionHeader} {state : State}
    (account : Account known base member.locals (header.enter state)
      ((checkWithin member header).run (header.enter state)) (member.inside header state))
    (unused : state.storage.slots header.frame = 0) : member.LaidOut header state := by
  have first : Visit.variablesIn header.frame (member.inside header state) =
      header.frame.layOut
        ((Visit.variablesIn header.frame (member.inside header state)).map (·.1)) :=
    account.variablesIn_eq unused
  refine ⟨?_, ?_, ?_⟩
  · rcases run_bindParameters member.parameters header.parameters (header.enter state) with
      ⟨reached, events, ran, frame, valueNames⟩
    rw [show (header.enter state).storage.slots (header.enter state).frame = 0 from unused]
      at valueNames
    rw [ran]
    exact ⟨rfl, frame, valueNames⟩
  · rw [first]
    exact header.frame.layOut_prefix account.begun
  · intro value ended
    rcases checkBody_around member header state with ⟨_, _, ⟨well, _⟩ | ⟨⟨problem, aborted⟩, _⟩⟩
    · rw [first]
      exact congrArg header.frame.layOut (account.ended () well).2
    · rw [aborted] at ended
      cases ended

section Bodies

variable {member : FunctionDeclaration} {header : FunctionHeader}
  (within : (checkWithin member header).Accounted
    (fun state => variableVisits (member.parameters.zip header.parameters) state ++
      (bindParameters member.parameters header.parameters).onward
        (fun _ => member.body.visits) state)
    member.locals)
  {known : List Visit} {base : Nat} {state : State}

include within

/-- While a body is checked, slots are taken in its own frame and in frames that were
not there before. -/
theorem confined_inside (there : header.frame.number < state.storage.taken.size) :
    ∀ entry ∈ Visit.variablesOf (member.inside header state),
      entry.2.frame = header.frame ∨ state.storage.taken.size ≤ entry.2.frame.number :=
  (within [] _ (header.enter state) ⟨there, Nat.le_refl _⟩).confined

/-- So they are not taken in an old frame. -/
theorem ahead_inside (below : state.Below base) (ahead : base ≤ header.frame.number)
    (there : header.frame.number < state.storage.taken.size) :
    ∀ entry ∈ Visit.variablesOf (member.inside header state), base ≤ entry.2.frame.number := by
  intro entry taken
  rcases confined_inside within there entry taken with own | nested
  · rw [own]
    exact ahead
  · exact Nat.le_trans below.size nested

/-- Nothing is put into the frame in use around the body. -/
theorem variablesIn_inside (below : state.Below base) (ahead : base ≤ header.frame.number)
    (there : header.frame.number < state.storage.taken.size) :
    Visit.variablesIn state.frame (member.inside header state) = [] := by
  refine List.filter_eq_nil_iff.mpr fun entry taken => ?_
  have apart : entry.2.frame ≠ state.frame := by
    intro same
    have new := ahead_inside within below ahead there entry taken
    rw [same] at new
    exact absurd below.frame (Nat.not_lt.mpr new)
  simpa using apart

/-- A body is checked in the frame of its function, which was announced before. -/
theorem account_checkBody (below : state.Below base)
    (announced : header.Announced known member) (ahead : base ≤ header.frame.number)
    (there : header.frame.number < state.storage.taken.size)
    (unused : state.storage.slots header.frame = 0) :
    Account known base [] state ((checkBodies [member] [header]).run state)
      (.body member header state :: member.inside header state) := by
  -- For the body, all frames that are there by now are old ones.
  have account := within known state.storage.taken.size (header.enter state) ⟨there, Nat.le_refl _⟩
  change Account _ _ _ _ _ (member.inside header state) at account
  have none : (Visit.variablesIn state.frame
      (.body member header state :: member.inside header state)).map (·.1) = [] :=
    congrArg (List.map (·.1)) (variablesIn_inside within below ahead there)
  rcases checkBody_around member header state with ⟨events, storage, frame⟩
  exact {
    serves := by
      rw [events, storage]
      exact account.serves
    functions := by
      rw [events]
      exact account.functions
    allot := by
      rw [events]
      exact account.allot
    inside := by
      rw [storage]
      rcases frame with ⟨_, restored⟩ | ⟨_, left⟩
      · rw [restored, account.serves.size_eq]
        exact Nat.lt_of_lt_of_le below.frame (Nat.le_add_right_of_le below.size)
      · rw [left]
        exact account.inside
    confined := fun entry taken => .inr (ahead_inside within below ahead there entry taken)
    founded := by
      intro visit listed
      rcases List.mem_cons.mp listed with rfl | inner
      · exact ⟨announced.mono (List.subset_append_left _ _), laidOut_of_account account unused⟩
      · refine (account.founded visit inner).mono (List.append_subset.mpr ⟨?_, ?_⟩)
        · exact List.subset_append_left _ _
        · exact List.Subset.trans (List.subset_cons_self _ _) (List.subset_append_right _ _)
    begun := none ▸ List.prefix_rfl
    ended := by
      intro value ended
      rcases frame with ⟨_, restored⟩ | ⟨⟨problem, aborted⟩, _⟩
      · exact ⟨restored, none⟩
      · rw [aborted] at ended
        cases ended }

/-- A body takes no slots in the frames of the members that come after it. -/
theorem Pending.rest {members : List FunctionDeclaration} {headers : List FunctionHeader}
    {reached : State} {events : List Event} (below : state.Below base)
    (pending : Pending known base state (member :: members) (header :: headers))
    (ran : (checkBodies [member] [header]).run state = ⟨.ok (), reached, events⟩) :
    Pending (known ++ .body member header state :: member.inside header state) base reached
      members headers := by
  have there := pending.there header List.mem_cons_self
  have account := account_checkBody within below (List.forall₂_cons.mp pending.announced).1
    (pending.ahead header List.mem_cons_self) there (pending.unused header List.mem_cons_self)
  rw [ran] at account
  obtain ⟨apart, others⟩ := List.nodup_cons.mp pending.apart
  have untouched : ∀ other ∈ headers, ∀ slot ∈ Storage.slotsOf (callsOf events),
      slot.frame ≠ other.frame := by
    intro other listed slot taken same
    rw [account.allot.slotsOf_eq] at taken
    rcases List.mem_map.mp taken with ⟨entry, counted, rfl⟩
    rcases confined_inside within there entry counted with own | nested
    · exact apart (List.mem_map.mpr ⟨other, listed, same.symm.trans own⟩)
    · rw [same] at nested
      exact absurd (pending.there other (List.mem_cons_of_mem _ listed)) (Nat.not_lt.mpr nested)
  exact {
    announced := (List.forall₂_cons.mp pending.announced).2.imp fun _ _ =>
      .mono (List.subset_append_left _ _)
    apart := others
    ahead := fun other listed => pending.ahead other (List.mem_cons_of_mem _ listed)
    there := by
      intro other listed
      rw [account.serves.size_eq]
      exact Nat.lt_add_right _ (pending.there other (List.mem_cons_of_mem _ listed))
    unused := by
      intro other listed
      rw [account.serves.slots_eq (untouched other listed)]
      exact pending.unused other (List.mem_cons_of_mem _ listed) }

/-- The body of a member, and then those of the members that come after it. -/
theorem account_checkBodies_cons {members : List FunctionDeclaration}
    {headers : List FunctionHeader} (below : state.Below base)
    (pending : Pending known base state (member :: members) (header :: headers))
    (others : ∀ known state, state.Below base → Pending known base state members headers →
      Account known base [] state ((checkBodies members headers).run state)
        (FunctionDeclaration.bodyVisits members headers state)) :
    Account known base [] state ((checkBodies (member :: members) (header :: headers)).run state)
      (FunctionDeclaration.bodyVisits (member :: members) (header :: headers) state) := by
  have first := account_checkBody within below (List.forall₂_cons.mp pending.announced).1
    (pending.ahead header List.mem_cons_self) (pending.there header List.mem_cons_self)
    (pending.unused header List.mem_cons_self)
  rw [checkBodies_cons]
  obtain ⟨name, parameters, result, body, span⟩ := member
  refine first.bind fun value reached events ran => ?_
  rw [ran] at first
  exact others _ reached (first.below below rfl) (Pending.rest within below pending ran)

end Bodies

/-- A group of types asks for nothing. -/
theorem accounted_makeTypes (members : List TypeDeclaration) :
    (makeTypes members).Accounted (fun _ => []) [] := by
  intro known base state below
  rw [run_makeTypes]
  exact .of_quiet below rfl rfl (state.callsOf_groupEvents members)

/-!
## Trees
-/

mutual

theorem accounted_inferPlace (place : Place) :
    (inferPlace place).Accounted place.visits place.locals := by
  cases place with
  | name name span => exact .of_observes (observes_variableNamed name)
  | field base field span =>
    rw [inferPlace]
    exact (accounted_inferPlace base).andThen fun _ => (observes_selectField _ _ _).still
  | element base index span =>
    rw [inferPlace]
    refine (accounted_inferPlace base).bind fun _ => ?_
    refine (accounted_inferExpression index).andThen fun _ => ?_
    exact (observes_expectInteger _ _ _).still.bind fun _ => (observes_selectElement _ _).still
termination_by structural place

theorem accounted_inferExpression (expression : Expression) :
    (inferExpression expression).Accounted expression.visits expression.locals := by
  cases expression with
  | nil | integer | string | breakLoop => exact .of_still (.pure _)
  | malformed span => exact .abort _
  | place place span =>
    rw [inferExpression]
    exact accounted_inferPlace place
  | call function arguments span =>
    rw [inferExpression]
    refine .skip (observes_expectCall _ _ _) fun expected => ?_
    exact (accounted_checkArguments arguments expected.1).andThen fun _ => .pure _
  | binary operator left right span =>
    rw [inferExpression]
    refine (accounted_inferExpression left).bind fun _ => ?_
    refine (accounted_inferExpression right).andThen fun _ => ?_
    exact (observes_expectOperands _ _ _ _ _).still.bind fun _ => .pure _
  | record type fields span =>
    rw [inferExpression]
    refine .skip (observes_expectRecord _ _ _) fun expected => ?_
    exact (accounted_checkInitializers fields expected.1).andThen fun _ => .pure _
  | array type size initial span =>
    rw [inferExpression]
    refine (accounted_inferExpression size).bind fun _ => ?_
    refine .skip (observes_expectInteger _ _ _) fun _ => ?_
    exact (accounted_inferExpression initial).andThen fun _ => (observes_expectArray _ _ _).still
  | sequence members span =>
    rw [inferExpression]
    exact accounted_inferSequence members .void
  | assign target value span =>
    rw [inferExpression]
    refine (accounted_inferPlace target).bind fun _ => ?_
    refine (accounted_inferExpression value).andThen fun _ => ?_
    exact (observes_expectCompatible _ _ _ _).still.bind fun _ => .pure _
  | ifThen test body span | whileLoop test body span =>
    rw [inferExpression]
    refine (accounted_inferExpression test).bind fun _ => ?_
    refine .skip (observes_expectInteger _ _ _) fun _ => ?_
    exact (accounted_inferExpression body).andThen fun _ => .pure _
  | ifThenElse test positive negative span =>
    rw [inferExpression]
    refine (accounted_inferExpression test).bind fun _ => ?_
    refine .skip (observes_expectInteger _ _ _) fun _ => ?_
    refine (accounted_inferExpression positive).bind fun _ => ?_
    exact (accounted_inferExpression negative).andThen fun _ => (observes_joinBranches _ _ _).still
  | forLoop counter low high body span =>
    rw [inferExpression]
    refine (accounted_inferExpression low).bind fun _ => ?_
    refine .skip (observes_expectInteger _ _ _) fun _ => ?_
    refine (accounted_inferExpression high).bind fun _ => ?_
    refine .skip (observes_expectInteger _ _ _) fun _ => ?_
    refine .opening .openValueScope fun _ => ?_
    refine (accounted_bindVariable counter.name .int).bind fun _ => ?_
    exact (accounted_inferExpression body).andThen fun _ =>
      Still.closeValueScope.bind fun _ => .pure _
  | block declarations body span =>
    rw [inferExpression]
    refine .opening .openTypeScope fun _ => ?_
    refine .opening .openValueScope fun _ => ?_
    refine .skip (.emit ⟨trivial, rfl⟩) fun _ => ?_
    refine (accounted_makeDeclarations declarations).bind fun _ => ?_
    refine (accounted_inferExpression body).andThen fun result => ?_
    exact fun _ => ⟨result, _, _, rfl, rfl, rfl, rfl, rfl⟩
termination_by structural expression

theorem accounted_checkArguments (arguments : List Expression) (expected : Expectations) :
    (checkArguments arguments expected).Accounted (Expression.allVisits arguments)
      (Expression.allLocals arguments) := by
  cases arguments with
  | nil => exact .of_still (.pure _)
  | cons argument rest =>
    rw [checkArguments]
    refine (accounted_inferExpression argument).bind fun _ => ?_
    refine .skip (observes_expectNext _ _ _) fun _ => ?_
    exact accounted_checkArguments rest expected.tail
termination_by structural arguments

theorem accounted_checkInitializers (initializers : List Initializer) (expected : Expectations) :
    (checkInitializers initializers expected).Accounted (Initializer.allVisits initializers)
      (Initializer.allLocals initializers) := by
  match initializers with
  | [] => exact .of_still (.pure _)
  | ⟨name, value, span⟩ :: rest =>
    rw [checkInitializers]
    refine (accounted_inferExpression value).bind fun _ => ?_
    refine .skip (observes_expectNext _ _ _) fun _ => ?_
    exact accounted_checkInitializers rest expected.tail
termination_by structural initializers

theorem accounted_inferSequence (members : List Expression) (last : TypeId) :
    (inferSequence members last).Accounted (Expression.allVisits members)
      (Expression.allLocals members) := by
  cases members with
  | nil => exact .of_still (.pure _)
  | cons member rest =>
    rw [inferSequence]
    refine (accounted_inferExpression member).bind fun type => ?_
    exact accounted_inferSequence rest type
termination_by structural members

theorem accounted_makeDeclaration (declaration : Declaration) :
    (makeDeclaration declaration).Accounted declaration.visits declaration.locals := by
  match declaration with
  | .variable name ascribed initial span =>
    rw [makeDeclaration]
    refine (accounted_inferExpression initial).bind fun _ => ?_
    refine .skip (observes_variableType _ _ _ _) fun type => ?_
    exact accounted_bindVariable name.name type
  | .functions members span =>
    rw [makeDeclaration]
    refine .skip (.emit ⟨trivial, rfl⟩) fun _ => ?_
    intro known base state below
    have announced := accounted_announceFunctions members known base state below
    refine announced.bind fun headers reached events ran => ?_
    rw [ran] at announced
    exact account_checkBodies members headers _ base reached (announced.below below rfl)
      (pending_announceFunctions below ran)
  | .types members span =>
    rw [makeDeclaration]
    exact accounted_makeTypes members
termination_by structural declaration

theorem accounted_makeDeclarations (declarations : List Declaration) :
    (makeDeclarations declarations).Accounted (Declaration.allVisits declarations)
      (Declaration.allLocals declarations) := by
  cases declarations with
  | nil => exact .of_still (.pure _)
  | cons declaration rest =>
    rw [makeDeclarations]
    refine (accounted_makeDeclaration declaration).bind fun _ => ?_
    exact accounted_makeDeclarations rest
termination_by structural declarations

theorem account_checkBodies (members : List FunctionDeclaration) (headers : List FunctionHeader)
    (known : List Visit) (base : Nat) (state : State) (below : state.Below base)
    (pending : Pending known base state members headers) :
    Account known base [] state ((checkBodies members headers).run state)
      (FunctionDeclaration.bodyVisits members headers state) := by
  match members, headers, pending with
  | [], [], _ => exact .of_quiet below rfl rfl rfl
  | [], _ :: _, pending | _ :: _, [], pending => cases pending.announced
  | ⟨name, parameters, result, body, span⟩ :: rest, header :: headers, pending =>
    have fits := (List.forall₂_cons.mp pending.announced).1.2
    refine account_checkBodies_cons ?_ below pending fun known state =>
      account_checkBodies rest headers known base state
    refine (accounted_bindParameters parameters header.parameters fits).bind fun _ => ?_
    exact (accounted_inferExpression body).andThen fun _ =>
      (observes_expectCompatible _ _ _ _).still
termination_by structural members

end

end Check
end StaticSemantics
