import StaticSemantics.Proofs.History
import StaticSemantics.Proofs.Observation
import StaticSemantics.Proofs.TypeGroup

namespace StaticSemantics

/-!
# Scopes are opened and closed in order

Scopes are opened and closed by hand, and the frame is exchanged by hand, while
any part of a tree may end the check.  So two things are said about every
check.  If it ends well, it has added bindings to both environments and done
nothing else to them; expressions have added none.  If it is aborted, scopes
may be left open, but nothing that was there before is lost.

The state at the beginning is the fixed point of all statements: what a part of
a tree does is always compared with the beginning of the whole.
-/

namespace Environment

/-- No binding and no mark is lost on the way to a later environment. -/
structure Retains (earlier later : Environment) : Prop where
  bindings : earlier.bindings <:+ later.bindings
  marks : earlier.marks <:+ later.marks

theorem Retains.refl (env : Environment) : env.Retains env :=
  ⟨List.suffix_refl _, List.suffix_refl _⟩

theorem Retains.trans {first second third : Environment} (one : first.Retains second)
    (two : second.Retains third) : first.Retains third :=
  ⟨one.bindings.trans two.bindings, one.marks.trans two.marks⟩

theorem retains_bindAll (env : Environment) (bindings : List Binding) :
    env.Retains (env.bindAll bindings) :=
  ⟨List.suffix_append _ _, List.suffix_refl _⟩

theorem retains_openScope (env : Environment) : env.Retains env.openScope :=
  ⟨List.suffix_refl _, List.suffix_cons _ _⟩

/-- Closing a scope drops exactly what was bound since it was opened. -/
theorem closeScope_bindAll_openScope (env : Environment) (bindings : List Binding) :
    (env.openScope.bindAll bindings).closeScope = env := by
  simp [openScope, bindAll, closeScope, size]

end Environment

namespace State

/-- No binding and no mark is lost on the way to a later state. -/
structure Retains (earlier later : State) : Prop where
  typeNames : earlier.typeNames.Retains later.typeNames
  valueNames : earlier.valueNames.Retains later.valueNames

/-- What a later state has in scope beyond an earlier one: bindings that were
added, the first one first, and nothing else. -/
structure Adds (earlier : State) (typeBindings valueBindings : List Binding) (later : State) :
    Prop where
  typeNames : later.typeNames = earlier.typeNames.bindAll typeBindings
  valueNames : later.valueNames = earlier.valueNames.bindAll valueBindings
  frame : later.frame = earlier.frame

theorem Retains.refl (state : State) : state.Retains state :=
  ⟨.refl _, .refl _⟩

theorem Retains.trans {first second third : State} (one : first.Retains second)
    (two : second.Retains third) : first.Retains third :=
  ⟨one.typeNames.trans two.typeNames, one.valueNames.trans two.valueNames⟩

namespace Adds

variable {earlier later last : State} {types values moreTypes moreValues : List Binding}

theorem refl (state : State) : state.Adds [] [] state :=
  ⟨rfl, rfl, rfl⟩

theorem trans (one : earlier.Adds types values later)
    (two : later.Adds moreTypes moreValues last) :
    earlier.Adds (types ++ moreTypes) (values ++ moreValues) last where
  typeNames := by rw [two.typeNames, one.typeNames, Environment.bindAll_append]
  valueNames := by rw [two.valueNames, one.valueNames, Environment.bindAll_append]
  frame := two.frame.trans one.frame

/-- After a part that has added nothing, as much has been added as before it. -/
theorem andNothing (one : earlier.Adds types values later) (two : later.Adds [] [] last) :
    earlier.Adds types values last := by
  simpa using one.trans two

theorem retains (adds : earlier.Adds types values later) : earlier.Retains later where
  typeNames := adds.typeNames ▸ earlier.typeNames.retains_bindAll types
  valueNames := adds.valueNames ▸ earlier.valueNames.retains_bindAll values

end Adds
end State

namespace Check

variable {α β : Type}

/-- How a check ends: well, with a value and a state as they are wanted, or
aborted, in a state as it is wanted then. -/
def Ends (check : Check α) (state : State) (good : α → State → Prop) (aborted : State → Prop) :
    Prop :=
  match (check.run state).outcome with
  | .ok value => good value (check.run state).state
  | .error _ => aborted (check.run state).state

namespace Ends

variable {check : Check α} {next : α → Check β} {state : State} {aborted : State → Prop}

theorem bind {middle : α → State → Prop} {good : β → State → Prop}
    (first : check.Ends state middle aborted)
    (second : ∀ value reached, middle value reached → (next value).Ends reached good aborted) :
    (check >>= next).Ends state good aborted := by
  unfold Ends at *
  rcases ran : check.run state with ⟨outcome, reached, events⟩
  rw [ran] at first
  cases outcome with
  | error problem =>
      rw [run_bind_of_error ran]
      exact first
  | ok value =>
      rw [run_bind_of_ok ran]
      exact second value reached first

theorem pure {value : α} {good : α → State → Prop} (holds : good value state) :
    (Pure.pure value : Check α).Ends state good aborted :=
  holds

theorem mono {good weaker : α → State → Prop} {weakerAborted : State → Prop}
    (ends : check.Ends state good aborted)
    (imply : ∀ value reached, good value reached → weaker value reached)
    (implyAborted : ∀ reached, aborted reached → weakerAborted reached) :
    check.Ends state weaker weakerAborted := by
  unfold Ends at *
  split
  · rename_i outcome
    rw [outcome] at ends
    exact imply _ _ ends
  · rename_i outcome
    rw [outcome] at ends
    exact implyAborted _ ends

/-- What runs to its end in one step. -/
theorem of_run {value : α} {reached : State} {events : List Event}
    {good : α → State → Prop} (ran : check.run state = ⟨.ok value, reached, events⟩)
    (holds : good value reached) : check.Ends state good aborted := by
  unfold Ends
  rw [ran]
  exact holds

theorem update {change : State → State} {next : Unit → Check β} {good : β → State → Prop}
    (rest : (next ()).Ends (change state) good aborted) :
    (Check.update change >>= next).Ends state good aborted :=
  rest

theorem frame {next : Frame → Check β} {good : β → State → Prop}
    (rest : (next state.frame).Ends state good aborted) :
    (Check.frame >>= next).Ends state good aborted :=
  rest

theorem of_observes {good : α → State → Prop} (observes : check.Observes)
    (holds : ∀ value, good value state) : check.Ends state good aborted := by
  rcases observes state with ⟨value, events, ran, _⟩
  exact of_run ran (holds value)

end Ends

/-- A check that leaves everything in scope as it was, and loses nothing if it
is aborted. -/
def Balanced (check : Check α) : Prop :=
  ∀ state, check.Ends state (fun _ reached => state.Adds [] [] reached) state.Retains

theorem Observes.balanced {check : Check α} (observes : check.Observes) : check.Balanced :=
  fun state => .of_observes observes fun _ => .refl state

/-- The same, seen from an earlier state. -/
theorem Balanced.since {check : Check α} (balanced : check.Balanced) {earlier state : State}
    {types values : List Binding} (sofar : earlier.Adds types values state) :
    check.Ends state (fun _ reached => earlier.Adds types values reached) earlier.Retains :=
  (balanced state).mono (fun _ _ => sofar.andNothing) fun _ => sofar.retains.trans

/-!
## Steps that bind names, and scopes that are closed again
-/

theorem ends_emit (event : Event) {earlier state : State} {types values : List Binding}
    {aborted : State → Prop} (sofar : earlier.Adds types values state) :
    (emit event).Ends state (fun _ reached => earlier.Adds types values reached) aborted :=
  .of_run rfl sofar

theorem ends_takeLabel {earlier state : State} {types values : List Binding}
    {aborted : State → Prop} (sofar : earlier.Adds types values state) :
    takeLabel.Ends state (fun _ reached => earlier.Adds types values reached) aborted :=
  .of_run rfl ⟨sofar.typeNames, sofar.valueNames, sofar.frame⟩

theorem ends_takeFrame (parent : Frame) (label : Label) (parameters : Nat)
    {earlier state : State} {types values : List Binding} {aborted : State → Prop}
    (sofar : earlier.Adds types values state) :
    (takeFrame parent label parameters).Ends state
      (fun _ reached => earlier.Adds types values reached) aborted :=
  .of_run rfl ⟨sofar.typeNames, sofar.valueNames, sofar.frame⟩

theorem ends_takeSlot {earlier state : State} {types values : List Binding}
    {aborted : State → Prop} (sofar : earlier.Adds types values state) :
    takeSlot.Ends state (fun _ reached => earlier.Adds types values reached) aborted :=
  .of_run rfl ⟨sofar.typeNames, sofar.valueNames, sofar.frame⟩

theorem ends_bindValue (name : String) (entry : Entry) {earlier state : State}
    {types values : List Binding} {aborted : State → Prop}
    (sofar : earlier.Adds types values state) :
    (bindValue name entry).Ends state
      (fun _ reached => earlier.Adds types (values ++ [⟨name, entry⟩]) reached) aborted := by
  refine .of_run rfl ⟨sofar.typeNames, ?_, sofar.frame⟩
  rw [Environment.bindAll_append, ← sofar.valueNames]
  rfl

theorem ends_bindVariable (name : String) (type : TypeId) {earlier state : State}
    {types values : List Binding} {aborted : State → Prop}
    (sofar : earlier.Adds types values state) :
    (bindVariable name type).Ends state
      (fun _ reached => ∃ entry, earlier.Adds types (values ++ [⟨name, .variable entry⟩]) reached)
      aborted := by
  apply (ends_takeSlot sofar).bind
  intro slot reached sofar
  exact (ends_bindValue name _ sofar).mono (fun _ _ adds => ⟨_, adds⟩) fun _ => id

theorem ends_bindParameters (parameters : List TypedName) (types : List TypeId)
    {earlier state : State} {typeBindings values : List Binding} {aborted : State → Prop}
    (sofar : earlier.Adds typeBindings values state) :
    (bindParameters parameters types).Ends state
      (fun _ reached => ∃ further, earlier.Adds typeBindings (values ++ further) reached)
      aborted := by
  unfold bindParameters
  induction parameters.zip types generalizing state values with
  | nil => exact .pure ⟨[], by simpa using sofar⟩
  | cons pair rest inductionHypothesis =>
      apply Ends.bind (ends_bindVariable _ _ sofar)
      rintro _ reached ⟨entry, adds⟩
      refine (inductionHypothesis adds).mono ?_ fun _ => id
      rintro _ last ⟨further, more⟩
      exact ⟨_ :: further, by simpa using more⟩

end Check

namespace State

/-- A state in which a scope of values has just been opened. -/
def openValues (state : State) : State :=
  { state with valueNames := state.valueNames.openScope }

/-- A state in which scopes of both sorts have just been opened. -/
def openBlock (state : State) : State :=
  { state with
    typeNames := state.typeNames.openScope
    valueNames := state.valueNames.openScope }

theorem retains_openValues (state : State) : state.Retains state.openValues :=
  ⟨.refl _, state.valueNames.retains_openScope⟩

theorem retains_openBlock (state : State) : state.Retains state.openBlock :=
  ⟨state.typeNames.retains_openScope, state.valueNames.retains_openScope⟩

/-- What was added inside a scope is gone when the scope is closed. -/
theorem Adds.closeValues {state reached : State} {values : List Binding}
    (inside : state.openValues.Adds [] values reached) :
    state.Adds [] [] { reached with valueNames := reached.valueNames.closeScope } where
  typeNames := inside.typeNames
  valueNames := by
    rw [inside.valueNames]
    exact Environment.closeScope_bindAll_openScope _ _
  frame := inside.frame

theorem Adds.closeBlock {state reached : State} {types values : List Binding}
    (inside : state.openBlock.Adds types values reached) :
    state.Adds [] [] { reached with
      typeNames := reached.typeNames.closeScope
      valueNames := reached.valueNames.closeScope } where
  typeNames := by
    rw [inside.typeNames]
    exact Environment.closeScope_bindAll_openScope _ _
  valueNames := by
    rw [inside.valueNames]
    exact Environment.closeScope_bindAll_openScope _ _
  frame := inside.frame

end State

/-!
## Declarations

What a declaration binds is told by its names alone.
-/

/-- What a binding binds, without what it is bound to. -/
def Binding.heading (binding : Binding) : String × EntryKind :=
  (binding.name, binding.entry.kind)

namespace Declaration

/-- What a declaration binds among the types, in order. -/
def typeHeadings : Declaration → List (String × EntryKind)
  | .types members _ => members.map fun member => (member.name.name, .type)
  | _ => []

/-- What a declaration binds among the values, in order. -/
def valueHeadings : Declaration → List (String × EntryKind)
  | .variable name _ _ _ => [(name.name, .variable)]
  | .functions members _ => members.map fun member => (member.name.name, .function)
  | .types _ _ => []

end Declaration

/-- What a declaration does to the scope: it adds exactly the bindings that it
is for, in order. -/
def State.Declares (earlier : State) (declaration : Declaration) (later : State) : Prop :=
  ∃ types values, earlier.Adds types values later ∧
    types.map (·.heading) = declaration.typeHeadings ∧
    values.map (·.heading) = declaration.valueHeadings

theorem map_heading_groupBindings (size : Nat) (members : List TypeDeclaration) :
    (groupBindings size members).map (·.heading) =
      members.map fun member => (member.name.name, .type) := by
  induction members generalizing size with
  | nil => rfl
  | cons member rest inductionHypothesis =>
      rw [groupBindings_cons, List.map_cons, inductionHypothesis]
      rfl

namespace Check

theorem ends_makeTypes (members : List TypeDeclaration) (span : Span) (state : State)
    {aborted : State → Prop} :
    (makeTypes members).Ends state
      (fun _ reached => state.Declares (.types members span) reached) aborted :=
  .of_run (run_makeTypes members state)
    ⟨groupBindings state.types.size members, [], ⟨rfl, rfl, rfl⟩,
      map_heading_groupBindings _ members, rfl⟩

theorem observes_resultType (result : Option Ident) : Observes (resultType result) := by
  cases result with
  | none => exact .pure _
  | some name => exact observes_typeNamed name

theorem ends_announceFunction (member : FunctionDeclaration) {earlier state : State}
    {values : List Binding} {aborted : State → Prop} (sofar : earlier.Adds [] values state) :
    (announceFunction member).Ends state
      (fun _ reached => ∃ entry,
        earlier.Adds [] (values ++ [⟨member.name.name, .function entry⟩]) reached) aborted := by
  apply Ends.bind (.of_observes (observes_resultType _) fun _ => sofar)
  intro result s1 a1
  apply Ends.bind (.of_observes (.mapM (fun _ => observes_typeNamed _) _) fun _ => a1)
  intro parameters s2 a2
  apply Ends.bind (ends_takeLabel a2)
  intro label s3 a3
  apply Ends.bind (.of_observes .frame fun _ => a3)
  intro parent s4 a4
  apply Ends.bind (ends_takeFrame parent label parameters.length a4)
  intro frame s5 a5
  apply Ends.bind (ends_bindValue _ _ a5)
  intro _ s6 a6
  exact .pure ⟨_, a6⟩

theorem ends_announceFunctions (members : List FunctionDeclaration) {earlier state : State}
    {values : List Binding} {aborted : State → Prop} (sofar : earlier.Adds [] values state) :
    (members.mapM announceFunction).Ends state
      (fun _ reached => ∃ further, earlier.Adds [] (values ++ further) reached ∧
        further.map (·.heading) = members.map fun member => (member.name.name, .function))
      aborted := by
  induction members generalizing state values with
  | nil => exact .pure ⟨[], by simpa using sofar, rfl⟩
  | cons member rest inductionHypothesis =>
      rw [List.mapM_cons]
      apply Ends.bind (ends_announceFunction member sofar)
      rintro header s1 ⟨entry, a1⟩
      apply Ends.bind (inductionHypothesis a1)
      rintro headers s2 ⟨further, a2, headings⟩
      refine .pure ⟨_ :: further, by simpa using a2, ?_⟩
      rw [List.map_cons, headings]
      rfl

/-!
## Trees
-/

mutual

theorem balanced_inferPlace (place : Place) : (inferPlace place).Balanced := by
  intro state
  cases place with
  | name name span =>
      rw [inferPlace]
      exact (observes_variableNamed name).balanced state
  | field base field span =>
      rw [inferPlace]
      apply Ends.bind (balanced_inferPlace base state)
      intro baseType s1 a1
      exact (observes_selectField _ _ _).balanced.since a1
  | element base index span =>
      rw [inferPlace]
      apply Ends.bind (balanced_inferPlace base state)
      intro baseType s1 a1
      apply Ends.bind ((balanced_inferExpression index).since a1)
      intro indexType s2 a2
      apply Ends.bind ((observes_expectInteger _ _ _).balanced.since a2)
      intro _ s3 a3
      exact (observes_selectElement _ _).balanced.since a3
termination_by structural place

theorem balanced_inferExpression (expression : Expression) :
    (inferExpression expression).Balanced := by
  intro state
  cases expression with
  | nil | integer | string | breakLoop => exact .pure (.refl state)
  | malformed span => exact .refl state
  | place place span =>
      rw [inferExpression]
      exact balanced_inferPlace place state
  | call function arguments span =>
      rw [inferExpression]
      apply Ends.bind ((observes_expectCall _ _ _).balanced state)
      intro expected s1 a1
      apply Ends.bind ((balanced_checkArguments arguments expected.1).since a1)
      intro _ s2 a2
      exact .pure a2
  | binary operator left right span =>
      rw [inferExpression]
      apply Ends.bind (balanced_inferExpression left state)
      intro leftType s1 a1
      apply Ends.bind ((balanced_inferExpression right).since a1)
      intro rightType s2 a2
      apply Ends.bind ((observes_expectOperands _ _ _ _ _).balanced.since a2)
      intro _ s3 a3
      exact .pure a3
  | record type fields span =>
      rw [inferExpression]
      apply Ends.bind ((observes_expectRecord _ _ _).balanced state)
      intro expected s1 a1
      apply Ends.bind ((balanced_checkInitializers fields expected.1).since a1)
      intro _ s2 a2
      exact .pure a2
  | array type size initial span =>
      rw [inferExpression]
      apply Ends.bind (balanced_inferExpression size state)
      intro sizeType s1 a1
      apply Ends.bind ((observes_expectInteger _ _ _).balanced.since a1)
      intro _ s2 a2
      apply Ends.bind ((balanced_inferExpression initial).since a2)
      intro initialType s3 a3
      exact (observes_expectArray _ _ _).balanced.since a3
  | sequence members span =>
      rw [inferExpression]
      exact balanced_inferSequence members .void state
  | assign target value span =>
      rw [inferExpression]
      apply Ends.bind (balanced_inferPlace target state)
      intro targetType s1 a1
      apply Ends.bind ((balanced_inferExpression value).since a1)
      intro valueType s2 a2
      apply Ends.bind ((observes_expectCompatible _ _ _ _).balanced.since a2)
      intro _ s3 a3
      exact .pure a3
  | ifThen test body span | whileLoop test body span =>
      rw [inferExpression]
      apply Ends.bind (balanced_inferExpression test state)
      intro testType s1 a1
      apply Ends.bind ((observes_expectInteger _ _ _).balanced.since a1)
      intro _ s2 a2
      apply Ends.bind ((balanced_inferExpression body).since a2)
      intro _ s3 a3
      exact .pure a3
  | ifThenElse test positive negative span =>
      rw [inferExpression]
      apply Ends.bind (balanced_inferExpression test state)
      intro testType s1 a1
      apply Ends.bind ((observes_expectInteger _ _ _).balanced.since a1)
      intro _ s2 a2
      apply Ends.bind ((balanced_inferExpression positive).since a2)
      intro positiveType s3 a3
      apply Ends.bind ((balanced_inferExpression negative).since a3)
      intro negativeType s4 a4
      exact (observes_joinBranches _ _ _).balanced.since a4
  | forLoop counter low high body span =>
      rw [inferExpression]
      apply Ends.bind (balanced_inferExpression low state)
      intro lowType s1 a1
      apply Ends.bind ((observes_expectInteger _ _ _).balanced.since a1)
      intro _ s2 a2
      apply Ends.bind ((balanced_inferExpression high).since a2)
      intro highType s3 a3
      apply Ends.bind ((observes_expectInteger _ _ _).balanced.since a3)
      intro _ s4 a4
      apply Ends.update
      apply Ends.bind (ends_bindVariable _ _ (State.Adds.refl s4.openValues))
      rintro _ s5 ⟨entry, a5⟩
      have retained := a4.retains.trans s4.retains_openValues
      apply Ends.bind (((balanced_inferExpression body).since a5).mono (fun _ _ => id)
        fun _ => retained.trans)
      intro _ s6 a6
      apply Ends.update
      exact .pure (a4.andNothing a6.closeValues)
  | block declarations body span =>
      rw [inferExpression]
      apply Ends.update
      apply Ends.update
      apply Ends.bind (ends_emit _ (State.Adds.refl state.openBlock))
      intro _ s1 a1
      have retained := state.retains_openBlock
      apply Ends.bind ((ends_makeDeclarations declarations s1).mono (fun _ _ => id)
        fun _ => (retained.trans a1.retains).trans)
      rintro _ s2 ⟨types, values, more⟩
      apply Ends.bind (((balanced_inferExpression body).since (a1.trans more)).mono (fun _ _ => id)
        fun _ => retained.trans)
      intro result s3 a3
      apply Ends.bind (.of_observes .state fun _ => a3)
      intro shown s4 a4
      apply Ends.bind (ends_emit _ a4)
      intro _ s5 a5
      apply Ends.update
      apply Ends.update
      exact .pure a5.closeBlock
termination_by structural expression

theorem balanced_checkArguments (arguments : List Expression) (expected : Expectations) :
    (checkArguments arguments expected).Balanced := by
  intro state
  cases arguments with
  | nil => exact .pure (.refl state)
  | cons argument rest =>
      rw [checkArguments]
      apply Ends.bind (balanced_inferExpression argument state)
      intro type s1 a1
      apply Ends.bind ((observes_expectNext _ _ _).balanced.since a1)
      intro _ s2 a2
      exact (balanced_checkArguments rest expected.tail).since a2
termination_by structural arguments

theorem balanced_checkInitializers (initializers : List Initializer) (expected : Expectations) :
    (checkInitializers initializers expected).Balanced := by
  intro state
  match initializers with
  | [] => exact .pure (.refl state)
  | ⟨name, value, span⟩ :: rest =>
      rw [checkInitializers]
      apply Ends.bind (balanced_inferExpression value state)
      intro type s1 a1
      apply Ends.bind ((observes_expectNext _ _ _).balanced.since a1)
      intro _ s2 a2
      exact (balanced_checkInitializers rest expected.tail).since a2
termination_by structural initializers

theorem balanced_inferSequence (members : List Expression) (last : TypeId) :
    (inferSequence members last).Balanced := by
  intro state
  cases members with
  | nil => exact .pure (.refl state)
  | cons member rest =>
      rw [inferSequence]
      apply Ends.bind (balanced_inferExpression member state)
      intro type s1 a1
      exact (balanced_inferSequence rest type).since a1
termination_by structural members

theorem ends_makeDeclaration (declaration : Declaration) (state : State) :
    (makeDeclaration declaration).Ends state
      (fun _ reached => state.Declares declaration reached) state.Retains := by
  match declaration with
  | .variable name ascribed initial span =>
      rw [makeDeclaration]
      apply Ends.bind (balanced_inferExpression initial state)
      intro initialType s1 a1
      apply Ends.bind ((observes_variableType _ _ _ _).balanced.since a1)
      intro type s2 a2
      refine (ends_bindVariable _ _ a2).mono ?_ fun _ => id
      rintro _ reached ⟨entry, adds⟩
      exact ⟨[], _, adds, rfl, rfl⟩
  | .functions members span =>
      rw [makeDeclaration]
      apply Ends.bind (ends_emit _ (State.Adds.refl state))
      intro _ s1 a1
      apply Ends.bind (ends_announceFunctions members a1)
      rintro headers s2 ⟨further, a2, headings⟩
      refine ((balanced_checkBodies members headers).since a2).mono ?_ fun _ => id
      exact fun _ reached a3 => ⟨[], further, a3, rfl, headings⟩
  | .types members span =>
      rw [makeDeclaration]
      exact ends_makeTypes members span state
termination_by structural declaration

theorem ends_makeDeclarations (declarations : List Declaration) (state : State) :
    (makeDeclarations declarations).Ends state
      (fun _ reached => ∃ types values, state.Adds types values reached) state.Retains := by
  cases declarations with
  | nil => exact .pure ⟨[], [], .refl state⟩
  | cons declaration rest =>
      rw [makeDeclarations]
      apply Ends.bind (ends_makeDeclaration declaration state)
      rintro _ s1 ⟨types, values, a1, _⟩
      refine (ends_makeDeclarations rest s1).mono ?_ fun _ => a1.retains.trans
      rintro _ reached ⟨moreTypes, moreValues, more⟩
      exact ⟨_, _, a1.trans more⟩
termination_by structural declarations

theorem balanced_checkBodies (members : List FunctionDeclaration)
    (headers : List FunctionHeader) : (checkBodies members headers).Balanced := by
  intro state
  match members, headers with
  | [], _ => exact (Observes.pure ()).balanced state
  | ⟨_, _, _, _, _⟩ :: _, [] => exact (Observes.pure ()).balanced state
  | ⟨name, parameters, result, body, span⟩ :: rest, header :: headers =>
      rw [checkBodies]
      apply Ends.update
      apply Ends.frame
      apply Ends.update
      apply Ends.bind (ends_bindParameters _ _
        (State.Adds.refl { state.openValues with frame := header.frame }))
      rintro _ s1 ⟨further, a1⟩
      have opened : state.Retains { state.openValues with frame := header.frame } :=
        ⟨state.retains_openValues.typeNames, state.retains_openValues.valueNames⟩
      apply Ends.bind (((balanced_inferExpression body).since a1).mono (fun _ _ => id)
        fun _ => opened.trans)
      intro bodyType s2 a2
      apply Ends.bind (.of_observes (observes_expectCompatible _ _ _ _) fun _ => a2)
      intro _ s3 a3
      apply Ends.update
      apply Ends.update
      have inside : state.openValues.Adds [] ([] ++ further) { s3 with frame := state.frame } :=
        ⟨a3.typeNames, a3.valueNames, rfl⟩
      exact (balanced_checkBodies rest headers).since inside.closeValues
termination_by structural members

end

/-- The bodies of a group are checked one after another. -/
theorem checkBodies_cons (member : FunctionDeclaration) (rest : List FunctionDeclaration)
    (header : FunctionHeader) (headers : List FunctionHeader) :
    checkBodies (member :: rest) (header :: headers) = (do
      checkBodies [member] [header]
      checkBodies rest headers) := by
  obtain ⟨name, parameters, result, body, span⟩ := member
  simp only [checkBodies, bind_assoc, pure_bind]

/-- However a check ends, it has lost nothing. -/
theorem Ends.retains {check : Check α} {state : State} {good : α → State → Prop}
    (ends : check.Ends state good state.Retains)
    (kept : ∀ value reached, good value reached → state.Retains reached) :
    state.Retains (check.run state).state := by
  unfold Ends at ends
  split at ends
  · exact kept _ _ ends
  · exact ends

theorem Balanced.retains {check : Check α} (balanced : check.Balanced) (state : State) :
    state.Retains (check.run state).state :=
  (balanced state).retains fun _ _ => State.Adds.retains

/-- What follows in one check may use what it gets and answer with it. -/
theorem Balanced.bind {check : Check α} {next : α → Check β} (first : check.Balanced)
    (second : ∀ value, (next value).Balanced) : (check >>= next).Balanced :=
  fun state => (first state).bind fun value _ sofar => (second value).since sofar

theorem balanced_inferProgram (program : Expression) : (inferProgram program).Balanced := by
  apply (balanced_inferExpression program).bind
  intro type
  refine Observes.types.balanced.bind fun types => ?_
  exact Balanced.bind (fun state => ends_emit _ (.refl state)) fun _ => (Observes.pure _).balanced

end Check

/-- No check that can be asked for loses anything. -/
theorem Request.retains (request : Request) (state : State) :
    state.Retains (request.check.run state).state := by
  have answered : ∀ {α : Type} (answer : α → Answer) (value : α),
      (pure (answer value) : Check Answer).Balanced :=
    fun answer value => (Check.Observes.pure (answer value)).balanced
  cases request with
  | program root => exact ((Check.balanced_inferProgram root).bind (answered _)).retains state
  | expression root =>
      exact ((Check.balanced_inferExpression root).bind (answered _)).retains state
  | place root => exact ((Check.balanced_inferPlace root).bind (answered _)).retains state
  | meaning body name =>
      exact ((Check.observes_interpretType body name).balanced.bind (answered _)).retains state
  | declaration root =>
      have ends : (Request.declaration root).check.Ends state
          (fun _ reached => state.Declares root reached) state.Retains :=
        (Check.ends_makeDeclaration root state).bind fun _ _ declares => .pure declares
      refine ends.retains ?_
      rintro _ reached ⟨types, values, adds, _⟩
      exact adds.retains

/-- The bindings and marks of the start are never lost. -/
theorem History.retains_initial (outermost : Frame) (requests : List Request) :
    (State.initial outermost).Retains (ofRequests outermost requests).state := by
  refine ofRequests_induction (fun history => (State.initial outermost).Retains history.state)
    (.refl _) (fun history request kept => ?_) requests
  exact kept.trans (request.retains history.state)

/-- In every history, an expression or a place that is checked to its end
leaves both environments and the frame exactly as they were, a declaration adds
its own bindings and nothing else, and what is aborted loses nothing.  So the
bindings of the start are there in all histories. -/
theorem History.scopes_closed_in_order (outermost : Frame) (requests : List Request) :
    let state := (ofRequests outermost requests).state
    (∀ expression, (Check.inferExpression expression).Ends state
      (fun _ reached => reached.typeNames = state.typeNames ∧
        reached.valueNames = state.valueNames ∧ reached.frame = state.frame) state.Retains) ∧
    (∀ place, (Check.inferPlace place).Ends state
      (fun _ reached => reached.typeNames = state.typeNames ∧
        reached.valueNames = state.valueNames ∧ reached.frame = state.frame) state.Retains) ∧
    (∀ declaration, (Check.makeDeclaration declaration).Ends state
      (fun _ reached => state.Declares declaration reached) state.Retains) ∧
    (State.initial outermost).Retains state := by
  intro state
  refine ⟨fun expression => ?_, fun place => ?_, fun declaration => ?_, ?_⟩
  · exact (Check.balanced_inferExpression expression state).mono
      (fun _ _ adds => ⟨adds.typeNames, adds.valueNames, adds.frame⟩) fun _ => id
  · exact (Check.balanced_inferPlace place state).mono
      (fun _ _ adds => ⟨adds.typeNames, adds.valueNames, adds.frame⟩) fun _ => id
  · exact Check.ends_makeDeclaration declaration state
  · exact retains_initial outermost requests

end StaticSemantics
