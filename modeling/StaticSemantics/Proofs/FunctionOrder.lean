import Mathlib.Algebra.GroupWithZero.Nat
import StaticSemantics.Proofs.FunctionGroup
import StaticSemantics.Proofs.Handles
import StaticSemantics.Proofs.Independence
import StaticSemantics.Proofs.Visibility

namespace StaticSemantics

/-!
# The order of functions in a group

The members of a group of functions may be written in any order.  All headings
are read before any body, so a body sees the same names wherever its function
stands, as long as no two members have one name.  Other bodies that come before
it add types to the table and take handles.  Neither can be seen: new types have
other numbers, and handles are never looked into.

So a body reports what it would report alone, right after the headings.  The
rest is about lists.  A group that is written in another order has the same
headings and the same bodies, and sums and unions do not depend on order.
-/

/-!
## What is found does not depend on handles
-/

theorem Entry.withoutHandles_withoutHandles (entry : Entry) :
    entry.withoutHandles.withoutHandles = entry.withoutHandles := by
  cases entry <;> rfl

namespace Environment

theorem withoutHandles_withoutHandles (env : Environment) :
    env.withoutHandles.withoutHandles = env.withoutHandles := by
  simp [withoutHandles, Binding.withoutHandles, Entry.withoutHandles_withoutHandles]

theorem newest?_withoutHandles (env : Environment) (name : String) :
    env.withoutHandles.newest? name = (env.newest? name).map Entry.withoutHandles := by
  unfold newest? withoutHandles
  rw [List.find?_map]
  simp [Function.comp_def, Binding.withoutHandles]

/-- A name is found without handles as it is found with them. -/
theorem lookUp_withoutHandles (env : Environment) (name : String) :
    env.withoutHandles.lookUp name = (env.lookUp name).map Entry.withoutHandles := by
  unfold lookUp
  rw [newest?_withoutHandles]
  cases env.newest? name <;> rfl

/-- Types have no handles. -/
theorem typeMeant_withoutHandles (env : Environment) :
    env.withoutHandles.typeMeant = env.typeMeant := by
  funext name
  unfold typeMeant typeOf? lookUpType
  rw [newest?_withoutHandles]
  cases env.newest? name.name with
  | none => rfl
  | some entry => cases entry <;> rfl

/-- Under names that are bound once, what is found is what is bound. -/
theorem newest?_bindAll_eq_some_iff {bindings : List Binding}
    (distinct : (bindings.map (·.name)).Nodup) (env : Environment) {name : String} {entry : Entry} :
    (env.bindAll bindings).newest? name = some entry ↔
      ⟨name, entry⟩ ∈ bindings ∨
        name ∉ bindings.map (·.name) ∧ env.newest? name = some entry := by
  induction bindings generalizing env with
  | nil => simp
  | cons first rest inductionHypothesis =>
    obtain ⟨new, distinct⟩ := List.nodup_cons.mp distinct
    rw [bindAll_cons, inductionHypothesis distinct, newest?_bind]
    by_cases same : first.name = name
    · subst same
      have once : ∀ entry : Entry, ⟨first.name, entry⟩ ∉ rest := fun entry member =>
        new (List.mem_map.mpr ⟨_, member, rfl⟩)
      obtain ⟨name, bound⟩ := first
      simp [once, new, eq_comm]
    · have other : (⟨name, entry⟩ : Binding) ≠ first := fun equal => same (equal ▸ rfl)
      simp [same, other, Ne.symm same]

/-- The order in which different names are bound cannot be seen. -/
theorem lookUp_bindAll_of_perm {bindings others : List Binding} (same : bindings.Perm others)
    (distinct : (bindings.map (·.name)).Nodup) (env : Environment) (name : String) :
    (env.bindAll others).lookUp name = (env.bindAll bindings).lookUp name := by
  have names := same.map (·.name)
  have found : (env.bindAll others).newest? name = (env.bindAll bindings).newest? name := by
    ext entry
    rw [newest?_bindAll_eq_some_iff distinct,
      newest?_bindAll_eq_some_iff (names.nodup_iff.mp distinct), same.mem_iff, names.mem_iff]
  rw [lookUp, lookUp, found]

end Environment

theorem State.withoutHandles_withoutHandles (state : State) :
    state.withoutHandles.withoutHandles = state.withoutHandles := by
  simp [withoutHandles, Environment.withoutHandles_withoutHandles]

/-!
## The headings of a group
-/

namespace FunctionDeclaration

theorem areParsed_cons (member : FunctionDeclaration) (rest : List FunctionDeclaration) :
    areParsed (member :: rest) = (member.body.isParsed && areParsed rest) := by
  cases member
  rfl

theorem areParsed_iff {members : List FunctionDeclaration} :
    areParsed members = true ↔ ∀ member ∈ members, member.body.isParsed = true := by
  induction members with
  | nil => simp [areParsed]
  | cons member rest inductionHypothesis => simp [areParsed_cons, inductionHypothesis]

/-- What the name of a function is bound to, as far as it can be seen. -/
def binding (env : Environment) (member : FunctionDeclaration) : Binding :=
  ⟨member.name.name, .function (member.entry env ⟨0⟩ ⟨0⟩)⟩

/-- A header of this function, with any frame. -/
def Announces (env : Environment) (member : FunctionDeclaration) (header : Check.FunctionHeader) :
    Prop :=
  ∃ frame, header = member.header env frame

end FunctionDeclaration

/-- What can be seen of a state in which a group of functions has been announced. -/
def State.announcing (state : State) (members : List FunctionDeclaration) : State :=
  { state.withoutHandles with
    valueNames := state.valueNames.withoutHandles.bindAll
      (members.map (·.binding state.typeNames)) }

/-- What is left by the first pass over a group of functions. -/
structure State.Announced (state : State) (members : List FunctionDeclaration)
    (headers : List Check.FunctionHeader) (reached : State) : Prop where
  headers : members.Forall₂ (FunctionDeclaration.Announces state.typeNames) headers
  seen : reached.withoutHandles = state.announcing members
  typeNames_eq : reached.typeNames = state.typeNames

theorem diagnosticsOf_headingEvents (state : State) (member : FunctionDeclaration) (frame : Frame)
    (label : Label) :
    diagnosticsOf (member.headingEvents state frame label) =
      diagnosticsOf (member.headingReports state.typeNames) := by
  rw [FunctionDeclaration.headingEvents, diagnosticsOf_append]
  exact List.append_nil _

/-- The headings of a group are read from the same names of types, so their
reports are those of each heading. -/
theorem Check.run_announceFunctions (members : List FunctionDeclaration) (state : State) :
    ∃ headers reached events,
      (members.mapM announceFunction).run state = ⟨.ok headers, reached, events⟩ ∧
      state.Announced members headers reached ∧
      diagnosticsOf events =
        members.flatMap fun member => diagnosticsOf (member.headingReports state.typeNames) := by
  induction members generalizing state with
  | nil => exact ⟨[], state, [], rfl, ⟨.nil, rfl, rfl⟩, rfl⟩
  | cons member rest inductionHypothesis =>
    rcases run_announceFunction member state with ⟨frame, label, storage, first⟩
    rcases inductionHypothesis { state with
        valueNames := state.valueNames.bind member.name.name
          (.function (member.entry state.typeNames frame label))
        storage } with ⟨headers, reached, events, others, announced, reports⟩
    have ran : ((member :: rest).mapM announceFunction).run state =
        ⟨.ok (member.header state.typeNames frame :: headers), reached,
          member.headingEvents state frame label ++ events⟩ := by
      rw [List.mapM_cons, run_bind_of_ok first, run_bind_of_ok others]
      simp
    refine ⟨_, _, _, ran, ⟨.cons ⟨frame, rfl⟩ announced.headers, ?_, announced.typeNames_eq⟩, ?_⟩
    · rw [announced.seen, State.announcing, State.announcing, List.map_cons,
        Environment.bindAll_cons]
      rfl
    · rw [diagnosticsOf_append, diagnosticsOf_headingEvents, reports, List.flatMap_cons]

/-!
## One body after another
-/

namespace State

/-- A body of a group, checked as if it were the only one. -/
def checkedAlone (state : State) (member : FunctionDeclaration) : Run Unit :=
  (Check.checkBodies [member] [member.header state.typeNames ⟨0⟩]).run state

/-- How many types a body of a group declares. -/
def declaredIn (state : State) (member : FunctionDeclaration) : Nat :=
  (state.checkedAlone member).state.types.size - state.types.size

theorem WellFormed.holds_typeMeant {state : State} (wellFormed : state.WellFormed)
    (name : Ident) : state.types.Holds (state.typeNames.typeMeant name) := by
  unfold Environment.typeMeant
  cases known : state.typeNames.typeOf? name.name with
  | none => exact wellFormed.types.holds_error
  | some id => exact wellFormed.typeNames.typeOf? known

/-- The types in a header are in the table, so they keep their numbers. -/
theorem WellFormed.headers_room {state : State} (wellFormed : state.WellFormed) (distance : Nat)
    (member : FunctionDeclaration) {header : Check.FunctionHeader}
    (announces : member.Announces state.typeNames header) :
    Comparison.Headers ⟨wellFormed.types.room distance, False, False.elim⟩
      (member.header state.typeNames ⟨0⟩) header := by
  rcases announces with ⟨frame, rfl⟩
  have kept : ∀ id, state.types.Holds id → Comparison.Value
      ⟨wellFormed.types.room distance, False, False.elim⟩ id id :=
    fun id held => .inl (wellFormed.types.apply_room distance held).symm
  refine ⟨List.forall₂_same.mpr fun id listed => ?_, ?_⟩
  · rcases List.mem_map.mp listed with ⟨parameter, _, rfl⟩
    exact kept _ (wellFormed.holds_typeMeant parameter.type)
  · refine kept _ ?_
    cases result : member.result with
    | none =>
      simp only [FunctionDeclaration.header, FunctionDeclaration.resultType, result, Option.elim]
      exact wellFormed.types.holds_of_lt (by decide)
    | some name =>
      simp only [FunctionDeclaration.header, FunctionDeclaration.resultType, result, Option.elim]
      exact wellFormed.holds_typeMeant name

/-- Once the functions of a group are announced, a body is checked alike whatever
bodies were checked before. -/
theorem Precedes.checkBody {state middle : State} (wellFormed : state.WellFormed)
    (precedes : state.Precedes middle) (member : FunctionDeclaration)
    {header : Check.FunctionHeader} (announces : member.Announces state.typeNames header)
    {reached : State} {events : List Event}
    (ran : (Check.checkBodies [member] [header]).run middle = ⟨.ok (), reached, events⟩) :
    state.Precedes reached ∧
      diagnosticsOf events = diagnosticsOf (state.checkedAlone member).events ∧
      reached.types.size = middle.types.size + state.declaredIn member := by
  have further := precedes.onward wellFormed (Check.balanced_checkBodies [member] [header])
    (fun history => Discipline.keeps_checkBodies (Discipline.growing_lawful _) [member] [header]
      history fun _ _ _ _ => trivial) ran
  rcases precedes.linked wellFormed with ⟨distance, linked⟩
  have runs := Comparison.parallel_checkBodies [member]
    (.cons (wellFormed.headers_room distance member announces) .nil) state middle linked
  rw [ran] at runs
  refine ⟨further, runs.reports.complete.resolve_left id, ?_⟩
  have room := linked.types.size_eq
  have size := runs.linked.types.size_eq
  have least : state.types.size ≤ (state.checkedAlone member).state.types.size :=
    runs.linked.types.start_le
  change reached.types.size = (state.checkedAlone member).state.types.size + distance at size
  change middle.types.size = state.types.size + distance at room
  unfold declaredIn
  omega

/-- The bodies of a group report what each of them reports alone, and declare as
many types together. -/
theorem Precedes.checkBodies {state middle : State} (wellFormed : state.WellFormed)
    (precedes : state.Precedes middle) {members : List FunctionDeclaration}
    {headers : List Check.FunctionHeader}
    (announced : members.Forall₂ (FunctionDeclaration.Announces state.typeNames) headers)
    (parsed : FunctionDeclaration.areParsed members = true) :
    ∃ reached events,
      (Check.checkBodies members headers).run middle = ⟨.ok (), reached, events⟩ ∧
      state.Precedes reached ∧
      diagnosticsOf events =
        members.flatMap (fun member => diagnosticsOf (state.checkedAlone member).events) ∧
      reached.types.size = middle.types.size + (members.map state.declaredIn).sum := by
  induction announced generalizing middle with
  | nil =>
    refine ⟨middle, [], ?_, precedes, rfl, rfl⟩
    rw [Check.checkBodies]
    exacts [rfl, nofun]
  | @cons member header rest headers announces _ inductionHypothesis =>
    rw [FunctionDeclaration.areParsed_cons, Bool.and_eq_true] at parsed
    have alone : FunctionDeclaration.areParsed [member] = true := by
      rw [FunctionDeclaration.areParsed_cons, parsed.1]
      rfl
    rcases (Check.completes_checkBodies [member] [header] rfl).succeeds alone middle with
      ⟨_, between, early, first⟩
    rcases precedes.checkBody wellFormed member announces first with ⟨further, reports, size⟩
    rcases inductionHypothesis further parsed.2 with
      ⟨reached, late, others, last, otherReports, otherSize⟩
    refine ⟨reached, early ++ late, ?_, last, ?_, ?_⟩
    · rw [Check.checkBodies_cons, Check.run_bind_of_ok first, others]
    · rw [diagnosticsOf_append, reports, otherReports, List.flatMap_cons]
    · rw [otherSize, size, List.map_cons, List.sum_cons, Nat.add_assoc]

/-- Without handles a body is checked alike. -/
theorem checkedAlone_withoutHandles (state : State) (member : FunctionDeclaration) :
    (state.withoutHandles.checkedAlone member).SameButHandles (state.checkedAlone member) := by
  have header : member.header state.withoutHandles.typeNames ⟨0⟩ =
      member.header state.typeNames ⟨0⟩ := by
    change member.header state.typeNames.withoutHandles ⟨0⟩ = _
    simp only [FunctionDeclaration.header, FunctionDeclaration.parameterTypes,
      FunctionDeclaration.resultType, Environment.typeMeant_withoutHandles]
  have self : Comparison.identical.Headers (member.header state.typeNames ⟨0⟩)
      (member.header state.typeNames ⟨0⟩) :=
    ⟨Comparison.values_identical_iff.mpr rfl, Comparison.value_identical_iff.mpr rfl⟩
  rw [checkedAlone, header]
  exact Check.sameButHandles (Comparison.parallel_checkBodies [member] (.cons self .nil))
    (fun _ _ _ => rfl) state.withoutHandles_withoutHandles

theorem declaredIn_withoutHandles (state : State) :
    state.withoutHandles.declaredIn = state.declaredIn := by
  funext member
  have same := congrArg State.types (state.checkedAlone_withoutHandles member).state
  change (state.withoutHandles.checkedAlone member).state.types =
    (state.checkedAlone member).state.types at same
  rw [declaredIn, declaredIn, same]
  rfl

end State

/-!
## Groups in another order
-/

namespace State

theorem Announced.wellFormed {state reached : State} (wellFormed : state.WellFormed)
    {members : List FunctionDeclaration} {headers : List Check.FunctionHeader}
    {events : List Event}
    (ran : (members.mapM Check.announceFunction).run state = ⟨.ok headers, reached, events⟩) :
    reached.WellFormed := by
  have holds : Discipline.wellFormed.Holds ⟨state, []⟩ :=
    ⟨⟨wellFormed.types, nofun⟩, wellFormed.typeNames, wellFormed.valueNames⟩
  have kept := (Discipline.keeps_announceFunctions Discipline.wellFormed_lawful members holds).1
  have reachedWellFormed := kept.wellFormed
  rw [ran] at reachedWellFormed
  exact reachedWellFormed

/-- What a group of functions does, told without its order but for lists. -/
theorem run_functions {state : State} (wellFormed : state.WellFormed)
    {members : List FunctionDeclaration} (span : Span)
    (parsed : FunctionDeclaration.areParsed members = true) :
    ∃ reached events,
      (Check.makeDeclaration (.functions members span)).run state = ⟨.ok (), reached, events⟩ ∧
      diagnosticsOf events =
        members.flatMap (fun member => diagnosticsOf (member.headingReports state.typeNames)) ++
          members.flatMap (fun member =>
            diagnosticsOf ((state.announcing members).checkedAlone member).events) ∧
      reached.types.size =
        state.types.size + (members.map (state.announcing members).declaredIn).sum ∧
      reached.typeNames = state.typeNames ∧
      reached.valueNames.withoutHandles = (state.announcing members).valueNames := by
  rcases Check.run_announceFunctions members state with
    ⟨headers, middle, early, announces, announced, headings⟩
  have middleWellFormed := Announced.wellFormed wellFormed announces
  have announcedHeaders := announced.headers
  rw [← announced.typeNames_eq] at announcedHeaders
  rcases (Precedes.refl middle).checkBodies middleWellFormed announcedHeaders parsed with
    ⟨reached, late, bodies, last, reports, size⟩
  have types : middle.types = state.types := by
    have seen := congrArg State.types announced.seen
    exact seen
  have ran : (Check.makeDeclaration (.functions members span)).run state =
      ⟨.ok (), reached, .functionsGrouped (members.map (·.name.name)) :: (early ++ late)⟩ := by
    have emitted : (Check.emit (.functionsGrouped (members.map (·.name.name)))).run state =
      ⟨.ok (), state, [.functionsGrouped (members.map (·.name.name))]⟩ := rfl
    rw [Check.makeDeclaration, Check.run_bind_of_ok emitted, Check.run_bind_of_ok announces,
      bodies]
    rfl
  refine ⟨_, _, ran, ?_, ?_, last.typeNames_eq.trans announced.typeNames_eq, ?_⟩
  · change diagnosticsOf (early ++ late) = _
    simp only [diagnosticsOf_append, headings, reports, ← announced.seen,
      (middle.checkedAlone_withoutHandles _).diagnostics]
  · rw [size, types, ← announced.seen, declaredIn_withoutHandles]
  · rw [last.valueNames_eq]
    exact congrArg State.valueNames announced.seen

/-- In another order a group is announced with the same names. -/
theorem agreesOn_announcing (state : State) {members others : List FunctionDeclaration}
    (same : members.Perm others) (distinct : (members.map (·.name.name)).Nodup) :
    (state.announcing members).AgreesOn (fun _ => True) (state.announcing others) where
  types_eq := rfl
  frame_eq := rfl
  storage_eq := rfl
  typeNames := fun _ _ => rfl
  valueNames := by
    intro name _
    refine Environment.lookUp_bindAll_of_perm (same.map _) ?_ _ name
    rw [List.map_map]
    exact distinct

/-- So a body of it is checked alike. -/
theorem AgreesOn.checkedAlone {state other : State} (agrees : state.AgreesOn (fun _ => True) other)
    (typeNames : other.typeNames = state.typeNames) (member : FunctionDeclaration) :
    diagnosticsOf (other.checkedAlone member).events =
        diagnosticsOf (state.checkedAlone member).events ∧
      other.declaredIn member = state.declaredIn member := by
  have self : (Simulation.plain fun _ => True).Headers ⟨state, other⟩
      (member.header state.typeNames ⟨0⟩) (member.header state.typeNames ⟨0⟩) :=
    ⟨List.forall₂_same.mpr fun _ _ => rfl, rfl, fun _ => rfl⟩
  have runs := Simulation.parallel_sameBodies rfl [member] (fun _ _ => trivial) (.cons self .nil)
    (Simulation.linked_plain agrees)
  have types := Simulation.types_eq_of_runs runs
  unfold State.declaredIn State.checkedAlone
  rw [typeNames]
  refine ⟨Simulation.diagnostics_eq_of_runs runs, ?_⟩
  rw [types, agrees.types_eq]

end State

/-- Two runs that end well and cannot be told apart but by the order of their
reports, by handles, and by the numbers of types that are no longer in scope. -/
structure Run.SameButOrder (run other : Run Unit) : Prop where
  ends : run.outcome = .ok () ∧ other.outcome = .ok ()
  diagnostics : (diagnosticsOf run.events).Perm (diagnosticsOf other.events)
  size_eq : other.state.types.size = run.state.types.size
  typeNames : ∀ name, (other.state.typeNames.lookUp name).map Entry.withoutHandles =
    (run.state.typeNames.lookUp name).map Entry.withoutHandles
  valueNames : ∀ name, (other.state.valueNames.lookUp name).map Entry.withoutHandles =
    (run.state.valueNames.lookUp name).map Entry.withoutHandles

/-- In every history, a group of functions whose names differ and whose bodies are
without malformed parts may be declared in any order: the same diagnostics are
reported, as many types are declared, and every name stands for the same after
it, except for the handles. -/
theorem History.functions_in_any_order (outermost : Frame) (requests : List Request)
    (members others : List FunctionDeclaration) (span : Span) (same : members.Perm others)
    (distinct : (members.map (·.name.name)).Nodup)
    (parsed : ∀ member ∈ members, member.body.isParsed = true) :
    let state := (ofRequests outermost requests).state
    ((Check.makeDeclaration (.functions members span)).run state).SameButOrder
      ((Check.makeDeclaration (.functions others span)).run state) := by
  intro state
  have wellFormed : state.WellFormed :=
    (Discipline.wellFormed_ofRequests outermost requests).wellFormed
  have agrees := state.agreesOn_announcing same distinct
  have otherParsed : ∀ member ∈ others, member.body.isParsed = true :=
    fun member listed => parsed member (same.mem_iff.mpr listed)
  rcases State.run_functions wellFormed span (FunctionDeclaration.areParsed_iff.mpr parsed) with
    ⟨reached, events, ran, reports, size, typeNames, valueNames⟩
  rcases State.run_functions wellFormed span
    (FunctionDeclaration.areParsed_iff.mpr otherParsed) with
    ⟨otherReached, otherEvents, otherRan, otherReports, otherSize, otherTypeNames,
      otherValueNames⟩
  have alone := agrees.checkedAlone rfl
  rw [ran, otherRan]
  refine ⟨⟨rfl, rfl⟩, ?_, ?_, fun name => ?_, fun name => ?_⟩
  · rw [reports, otherReports]
    simp only [(alone _).1]
    exact (same.flatMap_right _).append (same.flatMap_right _)
  · have declared : (state.announcing others).declaredIn = (state.announcing members).declaredIn :=
      funext fun member => (alone member).2
    rw [size, otherSize, declared, (same.map _).sum_nat]
  · rw [typeNames, otherTypeNames]
  · rw [← Environment.lookUp_withoutHandles, ← Environment.lookUp_withoutHandles, valueNames,
      otherValueNames]
    exact agrees.valueNames name trivial

/-- A function in whose body a type is declared and a variable is unknown. -/
def FunctionDeclaration.recordInside : FunctionDeclaration :=
  let here : Span := ⟨1, 1, 1, 1⟩
  ⟨⟨"f", here⟩, [], some ⟨"int", here⟩,
    .block [.types [⟨⟨"r", here⟩, .record [] here, here⟩] here]
      (.place (.name ⟨"x", here⟩ here) here) here, here⟩

/-- A function that calls the other one and uses another unknown variable. -/
def FunctionDeclaration.recordCaller : FunctionDeclaration :=
  let here : Span := ⟨1, 1, 1, 1⟩
  ⟨⟨"g", here⟩, [], some ⟨"int", here⟩,
    .binary .plus (.call ⟨"f", here⟩ [] here) (.place (.name ⟨"y", here⟩ here) here) here, here⟩

/-- The two reports change places, and nothing else does. -/
theorem History.functions_in_any_order_recordCaller :
    let members : List FunctionDeclaration := [.recordInside, .recordCaller]
    let others : List FunctionDeclaration := [.recordCaller, .recordInside]
    let state := (ofRequests outermostFrame []).state
    let run := (Check.makeDeclaration (.functions members ⟨1, 1, 1, 1⟩)).run state
    let other := (Check.makeDeclaration (.functions others ⟨1, 1, 1, 1⟩)).run state
    members.Perm others ∧ (members.map (·.name.name)).Nodup ∧
    (∀ member ∈ members, member.body.isParsed = true) ∧
    (diagnosticsOf run.events).map (·.message) =
      ["undefined variable 'x'", "undefined variable 'y'"] ∧
    (diagnosticsOf other.events).map (·.message) =
      ["undefined variable 'y'", "undefined variable 'x'"] ∧
    run.state.types.size = 6 ∧ run.SameButOrder other := by
  intro members others state run other
  have same : members.Perm others := .swap _ _ _
  have distinct : (members.map (·.name.name)).Nodup := by decide
  have parsed : ∀ member ∈ members, member.body.isParsed = true :=
    List.forall_mem_cons.mpr ⟨rfl, List.forall_mem_singleton.mpr rfl⟩
  exact ⟨same, distinct, parsed, by decide, by decide, by decide,
    functions_in_any_order outermostFrame [] _ _ _ same distinct parsed⟩

end StaticSemantics
