import Mathlib.Data.List.Forall2
import StaticSemantics.Proofs.FunctionGroup
import StaticSemantics.Proofs.Names.Resolver

namespace StaticSemantics

/-!
# What the rules report of names

A rule either looks a name up, or says nothing of names.  The ones that look up
report what the resolver finds, whatever they do with the answer.

Checks are put together from rules while names come into scope.  So a statement
about a check names what is in scope before it, and where it is not the last
step, what is in scope behind it.
-/

namespace Check

variable {α β γ : Type}

/-- A check that never reports the misuse of a name. -/
def Silent (check : Check α) : Prop :=
  ∀ state, Tells (check.run state).events []

/-- Where these names are in scope, a check that ends well reports these misuses. -/
def Says (check : Check α) (names : Names) (misuses : List (Span × Problem)) : Prop :=
  ∀ state, state.Shows names →
    match (check.run state).outcome with
    | .ok _ => Tells (check.run state).events misuses
    | .error _ => SparesTypes (check.run state).events

/-- Where these names are in scope, a check that ends well leads to a state with
other names in scope, and to a value of some sort. -/
def Leads (check : Check α) (names later : Names) (fits : α → Prop) : Prop :=
  ∀ state, state.Shows names →
    check.Ends state (fun value reached => reached.Shows later ∧ fits value) fun _ => True

theorem Balanced.leads {check : Check α} (balanced : check.Balanced) (names : Names) :
    check.Leads names names fun _ => True := by
  intro state shows
  refine (balanced state).mono ?_ fun _ _ => trivial
  intro value reached adds
  exact ⟨shows.adds adds nofun, trivial⟩

namespace Leads

variable {check : Check α} {next : α → Check β} {names later last : Names} {fits : α → Prop}

theorem pure {value : α} (holds : fits value) : (Pure.pure value : Check α).Leads names names fits :=
  fun _ shows => ⟨shows, holds⟩

theorem bind {wanted : β → Prop} (first : check.Leads names later fits)
    (second : ∀ value, fits value → (next value).Leads later last wanted) :
    (check >>= next).Leads names last wanted :=
  fun state shows => (first state shows).bind fun value reached led =>
    second value led.2 reached led.1

/-- A step that binds nothing. -/
theorem update {change : State → State}
    (typeNames : ∀ state, (change state).typeNames.bindings = state.typeNames.bindings)
    (valueNames : ∀ state, (change state).valueNames.bindings = state.valueNames.bindings) :
    (Check.update change).Leads names names fun _ => True :=
  fun state shows => ⟨shows.of_eq (typeNames state) (valueNames state), trivial⟩

theorem bindVariable (name : String) (type : TypeId) :
    (Check.bindVariable name type).Leads names (names.add [] [(name, .variable)])
      fun _ => True := by
  intro state shows
  refine (ends_bindVariable name type (State.Adds.refl state)).mono ?_ fun _ => id
  rintro _ reached ⟨entry, adds⟩
  exact ⟨shows.adds adds nofun, trivial⟩

end Leads

namespace Silent

variable {check : Check α} {next : α → Check β}

theorem pure (value : α) : (Pure.pure value : Check α).Silent :=
  fun _ => .nil

theorem bind (first : check.Silent) (second : ∀ value, (next value).Silent) :
    (check >>= next).Silent := by
  intro state
  have early := first state
  rcases ran : check.run state with ⟨outcome, reached, events⟩
  rw [ran] at early
  cases outcome with
  | error problem =>
      rw [run_bind_of_error ran]
      exact early
  | ok value =>
      rw [run_bind_of_ok ran]
      exact early.append (second value reached)

/-- Looking at the state says nothing. -/
theorem types {next : Types → Check β} (rest : ∀ types, (next types).Silent) :
    (Check.types >>= next).Silent :=
  fun state => rest state.types state

theorem report (span : Span) {problem : Problem} (other : problem.isMisuse = false)
    (otherSort : ∀ found, problem ≠ .wrongKind "a type" found) : (report span problem).Silent :=
  fun _ => .of_other span other otherSort

end Silent

namespace Says

variable {check : Check α} {next : α → Check β} {names later : Names}
  {misuses others : List (Span × Problem)} {fits : α → Prop}

theorem of_run (ran : ∀ state, state.Shows names →
    ∃ value reached events, check.run state = ⟨.ok value, reached, events⟩ ∧
      Tells events misuses) : check.Says names misuses := by
  intro state shows
  rcases ran state shows with ⟨value, reached, events, ran, tells⟩
  rw [ran]
  exact tells

theorem of_silent (silent : check.Silent) : check.Says names [] := by
  intro state _
  split
  · exact silent state
  · exact (silent state).spares

theorem bind (first : check.Says names misuses) (leads : check.Leads names later fits)
    (second : ∀ value, fits value → (next value).Says later others) :
    (check >>= next).Says names (misuses ++ others) := by
  intro state shows
  have early := first state shows
  have ends := leads state shows
  rcases ran : check.run state with ⟨outcome, reached, events⟩
  rw [Ends, ran] at ends
  rw [ran] at early
  cases outcome with
  | error problem =>
      rw [run_bind_of_error ran]
      exact early
  | ok value =>
      have late := second value ends.2 reached ends.1
      rw [run_bind_of_ok ran]
      cases outcome : ((next value).run reached).outcome with
      | error problem =>
          rw [outcome] at late
          exact early.spares.append late
      | ok answer =>
          rw [outcome] at late
          exact early.append late

/-- What follows says nothing. -/
theorem andThen (first : check.Says names misuses) (second : ∀ value, (next value).Silent) :
    (check >>= next).Says names misuses := by
  intro state shows
  have early := first state shows
  rcases ran : check.run state with ⟨outcome, reached, events⟩
  rw [ran] at early
  cases outcome with
  | error problem =>
      rw [run_bind_of_error ran]
      exact early
  | ok value =>
      have both := early.append (second value reached)
      rw [List.append_nil] at both
      rw [run_bind_of_ok ran]
      split
      · exact both
      · exact both.spares

/-- What comes first says nothing. -/
theorem after (first : check.Silent) (leads : check.Leads names later fits)
    (second : ∀ value, fits value → (next value).Says later others) :
    (check >>= next).Says names others :=
  (of_silent first).bind leads second

end Says

/-!
## Steps
-/

section Steps

variable {names : Names}

theorem silent_update (change : State → State) : (update change).Silent :=
  fun _ => .nil

theorem silent_bindValue (name : String) (entry : Entry) : (bindValue name entry).Silent :=
  fun _ => .of_silent (by simp [bindValue, run, Event.problem?])

theorem silent_bindVariable (name : String) (type : TypeId) : (bindVariable name type).Silent :=
  .bind (fun _ => .of_silent (by simp [takeSlot, run, Event.problem?])) fun _ =>
    silent_bindValue _ _

theorem silent_emit {event : Event} (unreported : event.problem? = none) : (emit event).Silent :=
  fun _ => .of_silent fun _ member => List.mem_singleton.mp member ▸ unreported

theorem leads_emit (event : Event) : (emit event).Leads names names fun _ => True :=
  fun _ shows => ⟨shows, trivial⟩

theorem silent_state : Check.state.Silent :=
  fun _ => .nil

theorem silent_frame : Check.frame.Silent :=
  fun _ => .nil

theorem leads_openValueScope : openValueScope.Leads names names fun _ => True :=
  .update (fun _ => rfl) fun _ => rfl

theorem leads_openTypeScope : openTypeScope.Leads names names fun _ => True :=
  .update (fun _ => rfl) fun _ => rfl

theorem leads_setFrame (frame : Frame) : (setFrame frame).Leads names names fun _ => True :=
  .update (fun _ => rfl) fun _ => rfl

theorem leads_frame : Check.frame.Leads names names fun _ => True :=
  Observes.frame.balanced.leads names

end Steps

/-!
## Rules that say nothing of names
-/

theorem silent_expectCompatible (expected found : TypeId) (span : Span) (name : Option String) :
    (expectCompatible expected found span name).Silent := by
  apply Silent.types
  intro types
  by_cases agrees : types.compatible expected found = true
  · rw [if_pos agrees]
    exact .pure ()
  · rw [if_neg agrees]
    exact .report span rfl nofun

theorem silent_expectInteger (found : TypeId) (span : Span) (name : Option String) :
    (expectInteger found span name).Silent := by
  apply Silent.types
  intro types
  by_cases integer : types.isInteger found = true
  · rw [if_pos integer]
    exact .pure ()
  · rw [if_neg integer]
    exact silent_expectCompatible .int found span name

/-- Other sorts of things are called by other words. -/
theorem silent_reportKind {expected : String} (found : TypeId) (span : Span)
    (other : expected ∉ ["a type", "a variable", "a function"]) :
    (reportKind expected found span).Silent := by
  apply Silent.types
  intro types
  simp only [List.mem_cons, not_or] at other
  refine .report span ?_ ?_
  · simp [Problem.isMisuse, other]
  · rintro described ⟨⟩
    exact other.1 rfl

theorem silent_reportSort {expected : String} (declared : TypeId) (span : Span)
    (other : expected ∉ ["a type", "a variable", "a function"]) :
    (reportSort expected declared span).Silent := by
  apply Silent.types
  intro types
  by_cases unknown : types.isError declared = true
  · rw [if_pos unknown]
    exact .pure ()
  · rw [if_neg unknown]
    exact silent_reportKind declared span other

theorem silent_selectField (base : TypeId) (baseSpan : Span) (field : Ident) :
    (selectField base baseSpan field).Silent := by
  apply Silent.types
  intro types
  by_cases unknown : types.isError base = true
  · rw [if_pos unknown]
    exact .pure _
  · rw [if_neg unknown]
    split
    · exact (silent_reportKind _ _ (by decide)).bind fun _ => .pure _
    · split
      · exact .pure _
      · exact (Silent.report _ rfl (by simp)).bind fun _ => .pure _

theorem silent_selectElement (base : TypeId) (baseSpan : Span) :
    (selectElement base baseSpan).Silent := by
  apply Silent.types
  intro types
  by_cases unknown : types.isError base = true
  · rw [if_pos unknown]
    exact .pure _
  · rw [if_neg unknown]
    split
    · exact (silent_reportKind _ _ (by decide)).bind fun _ => .pure _
    · exact .pure _

theorem silent_expectNext (expected : Expectations) (found : TypeId) (span : Span) :
    (expectNext expected found span).Silent := by
  cases expected with
  | nil => exact .pure ()
  | cons first rest => exact silent_expectCompatible _ _ _ _

theorem silent_joinBranches (positive negative : TypeId) (negativeSpan : Span) :
    (joinBranches positive negative negativeSpan).Silent :=
  (silent_expectCompatible _ _ _ _).bind fun _ => .types fun _ => .pure _

theorem silent_expectOperands (operator : Operator) (left : TypeId) (leftSpan : Span)
    (right : TypeId) (rightSpan : Span) :
    (expectOperands operator left leftSpan right rightSpan).Silent := by
  unfold expectOperands
  by_cases arithmetic : operator.isArithmetic = true
  · rw [if_pos arithmetic]
    exact (silent_expectInteger _ _ _).bind fun _ => silent_expectInteger _ _ _
  · rw [if_neg arithmetic]
    exact silent_expectCompatible _ _ _ _

/-!
## Rules that look names up
-/

section Lookups

variable {names : Names}

theorem tells_typeReports {state : State} (shows : state.Shows names) (name : Ident) :
    Tells (state.typeNames.typeReports name) (names.misusedType name) := by
  have reports : state.typeNames.typeReports name = misuseReports (names.misusedType name) := by
    rw [shows.misusedType_eq, Environment.typeReports]
    cases state.typeNames.lookUpType name.name <;> rfl
  rw [reports]
  refine tells_misuse name fun _ heading member => ?_
  rw [← shows.names_eq] at member
  rcases List.mem_map.mp member with ⟨binding, bound, rfl⟩
  exact shows.sorted binding bound

theorem says_typeNamed? (name : Ident) : (typeNamed? name).Says names (names.misusedType name) := by
  exact .of_run fun state shows => ⟨_, _, _, run_typeNamed? name state, tells_typeReports shows name⟩

theorem says_variableNamed (name : Ident) :
    (variableNamed name).Says names (names.misusedVariable name) := by
  refine .of_run fun state shows => ?_
  have ran : ∃ value, (variableNamed name).run state =
      ⟨.ok value, state, misuseReports (names.misusedVariable name)⟩ := by
    rw [shows.misusedVariable_eq, variableNamed, run_bind_of_ok (run_state state)]
    cases state.valueNames.lookUpVariable name.name <;> exact ⟨_, rfl⟩
  rcases ran with ⟨value, ran⟩
  exact ⟨value, state, _, ran, tells_misuse name nofun⟩

theorem says_functionNamed? (name : Ident) :
    (functionNamed? name).Says names (names.misusedFunction name) := by
  refine .of_run fun state shows => ?_
  have ran : ∃ value, (functionNamed? name).run state =
      ⟨.ok value, state, misuseReports (names.misusedFunction name)⟩ := by
    rw [shows.misusedFunction_eq, functionNamed?, run_bind_of_ok (run_state state)]
    cases state.valueNames.lookUpFunction name.name <;> exact ⟨_, rfl⟩
  rcases ran with ⟨value, ran⟩
  exact ⟨value, state, _, ran, tells_misuse name nofun⟩

theorem says_expectCall (function : Ident) (arguments : Nat) (span : Span) :
    (expectCall function arguments span).Says names (names.misusedFunction function) := by
  apply (says_functionNamed? function).andThen
  intro found
  cases found with
  | none => exact .pure _
  | some entry =>
      by_cases fits : entry.parameters.length = arguments
      · simp only [if_pos fits]
        exact .pure _
      · simp only [if_neg fits]
        exact (Silent.report _ rfl (by simp)).bind fun _ => .pure _

theorem says_expectRecord (type : Ident) (fields : Nat) (span : Span) :
    (expectRecord type fields span).Says names (names.misusedType type) := by
  apply (says_typeNamed? type).andThen
  intro found
  cases found with
  | none => exact .pure _
  | some declared =>
      apply Silent.types
      intro types
      split
      · exact (silent_reportSort _ _ (by decide)).bind fun _ => .pure _
      · rename_i declaredFields _
        by_cases fits : declaredFields.length = fields
        · rw [if_pos fits]
          exact .pure _
        · rw [if_neg fits]
          exact (Silent.report _ rfl (by simp)).bind fun _ => .pure _

theorem says_expectArray (type : Ident) (initial : TypeId) (initialSpan : Span) :
    (expectArray type initial initialSpan).Says names (names.misusedType type) := by
  apply (says_typeNamed? type).andThen
  intro found
  cases found with
  | none => exact .pure _
  | some declared =>
      apply Silent.types
      intro types
      split
      · exact (silent_reportSort _ _ (by decide)).bind fun _ => .pure _
      · exact (silent_expectCompatible _ _ _ _).bind fun _ => .pure _

theorem says_variableType (name : Ident) (ascribed : Option Ident) (initial : TypeId)
    (initialSpan : Span) :
    (variableType name ascribed initial initialSpan).Says names
      (ascribed.toList.flatMap names.misusedType) := by
  cases ascribed with
  | some ascribed =>
      rw [Option.toList_some, List.flatMap_singleton]
      apply (says_typeNamed? ascribed).andThen
      intro found
      cases found with
      | none => exact .pure _
      | some declared => exact (silent_expectCompatible _ _ _ _).bind fun _ => .pure _
  | none =>
      apply Says.of_silent
      apply Silent.types
      intro types
      split
      · exact (Silent.report _ rfl (by simp)).bind fun _ => .pure _
      · split
        · exact (Silent.report _ rfl (by simp)).bind fun _ => .pure _
        · exact .pure _

end Lookups

/-!
## Declarations
-/

section Declarations

variable {names : Names}

/-- Once the types in its heading have been looked up, the rest of what is done
for a function says nothing. -/
theorem says_announceFunction (member : FunctionDeclaration) :
    (announceFunction member).Says names (member.misusedInHeading names) := by
  refine .of_run fun state shows => ?_
  rcases run_announceFunction member state with ⟨frame, label, storage, announced⟩
  refine ⟨_, _, _, announced, ?_⟩
  rw [FunctionDeclaration.headingEvents, ← List.append_nil (member.misusedInHeading names)]
  refine .append (.append ?_ ?_) (.of_silent (by simp [Event.problem?]))
  · exact .flatMap fun name _ => tells_typeReports shows name
  · exact .flatMap fun parameter _ => tells_typeReports shows parameter.type

theorem leads_announceFunction (member : FunctionDeclaration) :
    (announceFunction member).Leads names (names.add [] [(member.name.name, .function)])
      (FunctionHeader.Fits member) := by
  intro state shows
  rcases run_announceFunction member state with ⟨frame, label, storage, announced⟩
  refine .of_run announced ⟨?_, ?_⟩
  · have adds : state.Adds []
        [⟨member.name.name, .function (member.entry state.typeNames frame label)⟩]
        { state with
          valueNames := state.valueNames.bind member.name.name
            (.function (member.entry state.typeNames frame label))
          storage } := ⟨rfl, rfl, rfl⟩
    exact shows.adds adds nofun
  · simp [FunctionHeader.Fits, FunctionDeclaration.header, FunctionDeclaration.parameterTypes]

/-- The names of functions hide no names of types, so every heading is read in
the same scope. -/
theorem says_announceFunctions (members : List FunctionDeclaration) (names : Names) :
    (members.mapM announceFunction).Says names
      (members.flatMap fun member => member.misusedInHeading names) := by
  induction members generalizing names with
  | nil => exact .of_silent (.pure [])
  | cons member rest inductionHypothesis =>
      rw [List.mapM_cons, List.flatMap_cons]
      apply (says_announceFunction member).bind (leads_announceFunction member)
      intro header _
      apply (inductionHypothesis (names.add [] [(member.name.name, .function)])).andThen
      intro headers
      exact .pure _

theorem leads_announceFunctions (members : List FunctionDeclaration) (names : Names) :
    (members.mapM announceFunction).Leads names
      (names.add [] (members.map fun member => (member.name.name, .function)))
      (members.Forall₂ FunctionHeader.Fits) := by
  induction members generalizing names with
  | nil => exact .pure .nil
  | cons member rest inductionHypothesis =>
      rw [List.mapM_cons]
      apply (leads_announceFunction member).bind
      intro header fits
      apply (inductionHypothesis _).bind
      intro headers others
      rw [Names.add_add]
      exact .pure (.cons fits others)

theorem silent_bindParameters (parameters : List TypedName) (types : List TypeId) :
    (bindParameters parameters types).Silent := by
  unfold bindParameters
  induction parameters.zip types with
  | nil => exact .pure ()
  | cons pair rest inductionHypothesis =>
      exact (silent_bindVariable _ _).bind fun _ => inductionHypothesis

theorem leads_bindParameters (parameters : List TypedName) (types : List TypeId) (names : Names)
    (fits : types.length = parameters.length) :
    (bindParameters parameters types).Leads names (names.addParameters parameters)
      fun _ => True := by
  unfold bindParameters
  induction parameters generalizing types names with
  | nil => exact .pure trivial
  | cons parameter rest inductionHypothesis =>
      cases types with
      | nil => cases fits
      | cons type types =>
          have others := inductionHypothesis types
            (names.add [] [(parameter.name.name, .variable)]) (Nat.succ.inj fits)
          rw [Names.addParameters, Names.add_add] at others
          exact (Leads.bindVariable parameter.name.name type).bind fun _ _ => others

/-- Following aliases is no question of names. -/
theorem tells_chainReports (types : Types) (group : List TypeId) (member : TypeDeclaration)
    (id : TypeId) : Tells (types.chainReports group member id) [] := by
  unfold Types.chainReports
  cases types.unalias id with
  | ok concrete => exact .nil
  | error error =>
      by_cases inside : error.stop ∈ group
      · simp only [if_pos inside]
        exact .of_other _ rfl nofun
      · simp only [if_neg inside]
        exact .of_silent (by simp [Event.problem?])

theorem says_makeTypes (members : List TypeDeclaration) (span : Span) :
    (makeTypes members).Says names ((Declaration.types members span).misused names) := by
  refine .of_run fun state shows => ⟨_, _, _, run_makeTypes members state, ?_⟩
  have inside : State.Shows { state with
      types := state.groupTypes members
      typeNames := state.groupNames members } (names.declare (.types members span)) :=
    shows.declares ⟨groupBindings state.types.size members, [], ⟨rfl, rfl, rfl⟩,
      map_heading_groupBindings _ members, rfl⟩
  have opening : Tells (.typesGrouped (members.map (·.name.name)) ::
      members.map fun member => .bound member.name.name .type state.typeNames.depth) [] :=
    .of_silent (by simp [Event.problem?])
  have read : Tells (members.flatMap fun member => member.body.reports (state.groupNames members))
      ((Declaration.types members span).misused names) := by
    rw [Declaration.misused]
    exact .flatMap fun member _ => .flatMap fun name _ => tells_typeReports inside name
  have followed : Tells ((members.zip (groupIds state.types.size members)).flatMap
      fun entry => (state.groupTypes members).chainReports
        (groupIds state.types.size members) entry.1 entry.2) [] :=
    .flatMap_nil fun entry _ => tells_chainReports _ _ entry.1 entry.2
  have whole := (opening.append read).append followed
  rw [List.nil_append, List.append_nil] at whole
  exact whole

theorem leads_makeDeclaration (declaration : Declaration) :
    (makeDeclaration declaration).Leads names (names.declare declaration) fun _ => True := by
  intro state shows
  refine (ends_makeDeclaration declaration state).mono ?_ fun _ _ => trivial
  intro _ reached declares
  exact ⟨shows.declares declares, trivial⟩

theorem leads_makeDeclarations (declarations : List Declaration) (names : Names) :
    (makeDeclarations declarations).Leads names (declarations.foldl Names.declare names)
      fun _ => True := by
  induction declarations generalizing names with
  | nil => exact .pure trivial
  | cons declaration rest inductionHypothesis =>
      rw [makeDeclarations, List.foldl_cons]
      exact (leads_makeDeclaration declaration).bind fun _ _ => inductionHypothesis _

end Declarations

end Check
end StaticSemantics
