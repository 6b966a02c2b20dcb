import Mathlib.Data.List.Forall2
import StaticSemantics.Proofs.FunctionGroup
import StaticSemantics.Proofs.Scopes
import StaticSemantics.Proofs.Layout.Shape

namespace StaticSemantics

/-!
# The storage layout of a program depends on its shape alone

A check and the walk over the shape of its tree are kept side by side.  The walk
knows nothing of the state but the allocator and the frame, so wherever the two
agree, names, types and reports have had no influence on what the allocator was
asked for.

Most steps of a check have no counterpart in the walk: they neither fail nor
touch what the walk knows of.  They are left out with one rule, and what remains
is compared step by step.
-/

namespace Plan

variable {α β : Type} {plan : Plan α} {layout reached : Layout}

theorem run_bind_of_some {value : α} (goesOn : plan.run.run layout = (some value, reached))
    (next : α → Plan β) : (plan >>= next).run.run layout = (next value).run.run reached := by
  rw [OptionT.run_bind, Option.elimM, StateT.run_bind, goesOn]
  rfl

theorem run_bind_of_none (stops : plan.run.run layout = (none, reached)) (next : α → Plan β) :
    (plan >>= next).run.run layout = (none, reached) := by
  rw [OptionT.run_bind, Option.elimM, StateT.run_bind, stops]
  rfl

end Plan

/-- A layout holds what a check has done on its way from one state to another. -/
structure Layout.Agrees (layout : Layout) (start reached : State) (events : List Event) :
    Prop where
  storage : layout.storage = reached.storage
  calls : layout.calls = callsOf events
  types : start.types.size + layout.types = reached.types.size

namespace Check

variable {α β γ δ : Type}

/-- A check that never fails, asks for nothing, and declares no types. -/
def Still (check : Check α) : Prop :=
  ∀ state, ∃ value reached events, check.run state = ⟨.ok value, reached, events⟩ ∧
    reached.storage = state.storage ∧ reached.types.size = state.types.size ∧
    reached.frame = state.frame ∧ callsOf events = []

/-- A check that begins in one frame and a walk ask for the same and declare as
many types.  Either both end early, or the check ends in another frame and both
give related answers. -/
def Realizes (check : Check α) (plan : Plan β) (inside outside : Frame)
    (related : α → β → Prop) : Prop :=
  ∀ start state past (layout : Layout), layout.Agrees start state past → state.frame = inside →
    let run := check.run state
    match run.outcome, plan.run.run layout with
    | .ok value, (some answer, reached) =>
      reached.Agrees start run.state (past ++ run.events) ∧ run.state.frame = outside ∧
        related value answer
    | .error _, (none, reached) => reached.Agrees start run.state (past ++ run.events)
    | _, _ => False

/-!
## Steps that the walk leaves out
-/

theorem Observes.still {check : Check α} (observes : check.Observes) : check.Still := by
  intro state
  rcases observes state with ⟨value, events, ran, remarks⟩
  refine ⟨value, state, events, ran, rfl, rfl, rfl, ?_⟩
  exact List.filterMap_eq_nil_iff.mpr fun event said => (remarks event said).unrequested

namespace Still

theorem pure (value : α) : (Pure.pure value : Check α).Still :=
  (Observes.pure value).still

theorem bind {check : Check α} {next : α → Check β} (first : check.Still)
    (second : ∀ value, (next value).Still) : (check >>= next).Still := by
  intro state
  rcases first state with ⟨value, between, events, ran, storage, types, frame, quiet⟩
  rcases second value between with ⟨last, reached, further, ranOn, storage', types', frame', quiet'⟩
  refine ⟨last, reached, events ++ further, ?_, storage'.trans storage, types'.trans types,
    frame'.trans frame, ?_⟩
  · rw [run_bind_of_ok ran, ranOn]
  · rw [callsOf_append, quiet, quiet', List.append_nil]

theorem forM {check : γ → Check PUnit} (each : ∀ item, (check item).Still) (items : List γ) :
    (items.forM check).Still := by
  induction items with
  | nil => exact .pure _
  | cons item rest inductionHypothesis => exact (each item).bind fun _ => inductionHypothesis

theorem openTypeScope : openTypeScope.Still :=
  fun _ => ⟨(), _, [], rfl, rfl, rfl, rfl, rfl⟩

theorem openValueScope : openValueScope.Still :=
  fun _ => ⟨(), _, [], rfl, rfl, rfl, rfl, rfl⟩

theorem closeValueScope : closeValueScope.Still :=
  fun _ => ⟨(), _, [], rfl, rfl, rfl, rfl, rfl⟩

theorem emit {event : Event} (unrequested : event.call? = none) : (emit event).Still :=
  fun state => ⟨(), state, [event], rfl, rfl, rfl, rfl, by simp [callsOf, unrequested]⟩

end Still

/-!
## Rules
-/

namespace Realizes

variable {check : Check α} {next : α → Check β} {plan : Plan γ} {further : γ → Plan δ}
  {inside between outside : Frame} {related : α → γ → Prop} {wanted : β → δ → Prop}

theorem bind (first : check.Realizes plan inside between related)
    (second : ∀ value answer, related value answer →
      (next value).Realizes (further answer) between outside wanted) :
    (check >>= next).Realizes (plan >>= further) inside outside wanted := by
  intro start state past layout agrees begins
  have early := first start state past layout agrees begins
  rcases ran : check.run state with ⟨outcome, reached, events⟩
  rcases planned : plan.run.run layout with ⟨answer, laid⟩
  rw [ran, planned] at early
  -- Either both go on, or both have ended; `early` rules out the rest.
  match outcome, answer with
  | .ok value, some answer =>
      rcases early with ⟨agreesStill, moved, fits⟩
      have late := second value answer fits start reached (past ++ events) laid agreesStill moved
      rw [run_bind_of_ok ran, Plan.run_bind_of_some planned]
      simpa only [List.append_assoc] using late
  | .error problem, none =>
      rw [run_bind_of_error ran, Plan.run_bind_of_none planned]
      exact early
  | .ok value, none | .error problem, some answer => exact early.elim

/-- A check and a walk that always come to an end, step by step. -/
theorem of_run {frame : Frame}
    (ran : ∀ state calls types, state.frame = frame → ∃ value answer reached events grown,
      check.run state = ⟨.ok value, reached, events⟩ ∧
      plan.run.run ⟨state.storage, calls, types⟩ =
        (some answer, ⟨reached.storage, calls ++ callsOf events, types + grown⟩) ∧
      reached.types.size = state.types.size + grown ∧ reached.frame = frame ∧
      related value answer) :
    check.Realizes plan frame frame related := by
  rintro start state past ⟨storage, calls, types⟩ ⟨rfl, rfl, size⟩ begins
  rcases ran state (callsOf past) types begins with
    ⟨value, answer, reached, events, grown, ran, planned, grows, stays, fits⟩
  rw [ran, planned]
  refine ⟨⟨rfl, (callsOf_append past events).symm, ?_⟩, stays, fits⟩
  rw [grows, ← size, Nat.add_assoc]

theorem pure {value : α} {answer : γ} (fits : related value answer) (frame : Frame) :
    (Pure.pure value : Check α).Realizes (Pure.pure answer) frame frame related := by
  refine .of_run fun state calls types begins => ⟨value, answer, state, [], 0, rfl, ?_, rfl,
    begins, fits⟩
  rw [show callsOf [] = [] from rfl, List.append_nil]
  rfl

/-- Nothing is left to be done but what the walk leaves out. -/
theorem of_still {check : Check α} (still : check.Still) (answer : γ) (frame : Frame) :
    check.Realizes (Pure.pure answer) frame frame fun _ _ => True := by
  refine .of_run fun state calls types begins => ?_
  rcases still state with ⟨value, reached, events, ran, storage, sameSize, sameFrame, quiet⟩
  refine ⟨value, answer, reached, events, 0, ran, ?_, by rw [sameSize, Nat.add_zero],
    sameFrame.trans begins, trivial⟩
  rw [quiet, storage, List.append_nil]
  rfl

/-- What the walk leaves out may come before a check. -/
theorem skip {check : Check α} {next : α → Check β} {plan : Plan δ} (still : check.Still)
    (rest : ∀ value, (next value).Realizes plan inside outside wanted) :
    (check >>= next).Realizes plan inside outside wanted := by
  have both : (check >>= next).Realizes (Pure.pure () >>= fun _ => plan) inside outside wanted :=
    (of_still still () inside).bind fun value _ _ => rest value
  rwa [pure_bind] at both

/-- The same for every item of a list, with as many answers as there are items. -/
theorem skip_mapM {each : δ → Check γ} {next : List γ → Check β} {plan : Plan α} {items : List δ}
    {wanted : β → α → Prop} (still : ∀ item, (each item).Still)
    (rest : ∀ answers, answers.length = items.length →
      (next answers).Realizes plan inside outside wanted) :
    (items.mapM each >>= next).Realizes plan inside outside wanted := by
  induction items generalizing next with
  | nil =>
      rw [List.mapM_nil, pure_bind]
      exact rest [] rfl
  | cons item items inductionHypothesis =>
      simp only [List.mapM_cons, bind_assoc, pure_bind]
      apply skip (still item)
      intro answer
      apply inductionHypothesis
      intro answers length
      exact rest (answer :: answers) (congrArg (· + 1) length)

/-- What the walk leaves out may come after a check. -/
theorem andThen {next : α → Check β} {plan : Plan Unit}
    (first : check.Realizes plan inside outside fun _ _ => True)
    (rest : ∀ value, (next value).Still) :
    (check >>= next).Realizes plan inside outside fun _ _ => True := by
  have both := first.bind fun value answer _ => of_still (rest value) answer outside
  rwa [bind_pure] at both

/-- A walk over a single part ends with that part. -/
theorem andPure {plan : Plan Unit} (only : check.Realizes plan inside outside fun _ _ => True) :
    check.Realizes (do plan; Pure.pure ()) inside outside fun _ _ => True := by
  rwa [bind_pure]

/-- A malformed part ends the check and the walk. -/
theorem abort (problem : Problem) :
    (Check.abort problem : Check α).Realizes failure inside outside related := by
  intro start state past layout agrees begins
  change layout.Agrees start state (past ++ [])
  rw [List.append_nil]
  exact agrees

/-- The frame is known where a check begins. -/
theorem frame {next : Frame → Check β} {plan : Plan δ}
    (rest : (next inside).Realizes plan inside outside wanted) :
    (Check.frame >>= next).Realizes plan inside outside wanted := by
  intro start state past layout agrees begins
  subst begins
  exact rest start state past layout agrees rfl

theorem setFrame {frame : Frame} {next : Unit → Check β} {plan : Plan δ}
    (rest : (next ()).Realizes plan frame outside wanted) :
    (Check.setFrame frame >>= next).Realizes plan inside outside wanted :=
  fun start state past layout agrees _ =>
    rest start { state with frame } past layout ⟨agrees.storage, agrees.calls, agrees.types⟩ rfl

end Realizes

/-!
## Declarations
-/

theorem realizes_bindVariable (name : String) (type : TypeId) (frame : Frame) :
    (bindVariable name type).Realizes (Plan.slot frame) frame frame fun _ _ => True := by
  refine .of_run fun state calls types begins => ?_
  subst begins
  exact ⟨(), (), _, _, 0, rfl, rfl, rfl, rfl, trivial⟩

theorem realizes_bindParameters (parameters : List TypedName) (types : List TypeId)
    (frame : Frame) (fits : types.length = parameters.length) :
    (bindParameters parameters types).Realizes (Plan.slots frame parameters.length) frame frame
      fun _ _ => True := by
  unfold bindParameters
  induction parameters generalizing types with
  | nil => exact .pure trivial frame
  | cons parameter rest inductionHypothesis =>
      cases types with
      | nil => cases fits
      | cons type types =>
          apply (realizes_bindVariable parameter.name.name type frame).bind
          intro _ _ _
          exact inductionHypothesis types (Nat.succ.inj fits)

/-- What the names in a heading stand for has no influence on its frame. -/
theorem realizes_announceFunction (member : FunctionDeclaration) (frame : Frame) :
    (announceFunction member).Realizes (Plan.heading frame member.parameters.length) frame frame
      fun header answer => header.frame = answer ∧ FunctionHeader.Fits member header := by
  apply Realizes.skip (observes_resultType member.result).still
  intro result
  refine .skip_mapM (fun parameter => (observes_typeNamed parameter.type).still) ?_
  intro parameters fits
  refine .of_run fun state calls types begins => ?_
  subst begins
  refine ⟨_, _, _, _, 0, rfl, ?_, rfl, rfl, rfl, fits⟩
  rw [← fits]
  exact congrArg (fun calls => (_, (⟨_, calls, _⟩ : Layout))) (List.append_assoc calls _ _)

theorem realizes_announceFunctions (members : List FunctionDeclaration) (frame : Frame) :
    (members.mapM announceFunction).Realizes
      ((FunctionDeclaration.shapes members).mapM fun member =>
        Plan.heading frame member.parameters)
      frame frame fun headers frames =>
        members.Forall₂ FunctionHeader.Fits headers ∧ frames = headers.map (·.frame) := by
  induction members with
  | nil => exact .pure ⟨.nil, rfl⟩ frame
  | cons member rest inductionHypothesis =>
      obtain ⟨name, parameters, result, body, span⟩ := member
      rw [List.mapM_cons, FunctionDeclaration.shapes, List.mapM_cons]
      apply (realizes_announceFunction _ frame).bind
      rintro header answer ⟨rfl, fits⟩
      apply inductionHypothesis.bind
      rintro headers frames ⟨others, rfl⟩
      exact .pure ⟨.cons fits others, rfl⟩ frame

theorem still_completeType (member : TypeDeclaration) (id : TypeId) :
    (completeType member id).Still := by
  apply (observes_interpretType member.body member.name.name).still.bind
  intro type
  exact fun _ => ⟨(), _, [], rfl, rfl, Types.size_define _ _ _, rfl, rfl⟩

theorem still_reportBroken (group : List TypeId) (member : TypeDeclaration) (id : TypeId) :
    (reportBroken group member id).Still := by
  apply Observes.types.still.bind
  intro types
  split
  · exact .pure ()
  · by_cases inside : AliasError.stop ‹_› ∈ group
    · rw [if_pos inside]
      exact .emit rfl
    · rw [if_neg inside]
      exact .emit rfl

theorem realizes_announceTypes (members : List TypeDeclaration) (frame : Frame) :
    (members.mapM announceType).Realizes (Plan.declare members.length) frame frame
      fun _ _ => True := by
  refine .of_run fun state calls types begins => ?_
  refine ⟨_, (), _, _, members.length, run_announceTypes members state, ?_, ?_, begins, trivial⟩
  · have quiet : callsOf (members.map fun member =>
        .bound member.name.name .type state.typeNames.depth) = [] := by
      simp [callsOf, Event.call?]
    rw [quiet, List.append_nil]
    rfl
  · simp

/-- Once the names of a group are bound, nothing more is taken for it. -/
theorem realizes_makeTypes (members : List TypeDeclaration) (frame : Frame) :
    (makeTypes members).Realizes (Plan.declare members.length) frame frame fun _ _ => True := by
  apply Realizes.skip (.emit rfl)
  intro _
  apply (realizes_announceTypes members frame).andThen
  intro group
  apply (Still.forM (fun (member, id) => still_completeType member id) _).bind
  intro _
  exact .forM (fun (member, id) => still_reportBroken group member id) _

/-!
## Trees
-/

mutual

theorem realizes_inferPlace (place : Place) (frame : Frame) :
    (inferPlace place).Realizes (place.shape.plan frame) frame frame fun _ _ => True := by
  cases place with
  | name name span =>
      rw [inferPlace, Place.shape, Shape.plan]
      exact .of_still (observes_variableNamed name).still () frame
  | field base field span =>
      rw [inferPlace, Place.shape, Shape.plan]
      apply (realizes_inferPlace base frame).bind
      intro baseType _ _
      exact .of_still (observes_selectField _ _ _).still () frame
  | element base index span =>
      rw [inferPlace, Place.shape, Shape.plan]
      apply (realizes_inferPlace base frame).bind
      intro baseType _ _
      apply (realizes_inferExpression index frame).bind
      intro indexType _ _
      apply Realizes.skip (observes_expectInteger _ _ _).still
      intro _
      exact .of_still (observes_selectElement _ _).still () frame
termination_by structural place

theorem realizes_inferExpression (expression : Expression) (frame : Frame) :
    (inferExpression expression).Realizes (expression.shape.plan frame) frame frame
      fun _ _ => True := by
  cases expression with
  | nil | integer | string | breakLoop => exact .of_still (.pure _) () frame
  | malformed span =>
      rw [inferExpression, Expression.shape, Shape.plan]
      exact .abort _
  | place place span =>
      rw [inferExpression, Expression.shape, Shape.plan]
      exact (realizes_inferPlace place frame).andPure
  | call function arguments span =>
      rw [inferExpression, Expression.shape, Shape.plan]
      apply Realizes.skip (observes_expectCall _ _ _).still
      intro expected
      apply (realizes_checkArguments arguments expected.1 frame).andThen
      intro _
      exact .pure _
  | binary operator left right span =>
      rw [inferExpression, Expression.shape, Shape.plan]
      apply (realizes_inferExpression left frame).bind
      intro leftType _ _
      apply (realizes_inferExpression right frame).bind
      intro rightType _ _
      apply Realizes.skip (observes_expectOperands _ _ _ _ _).still
      intro _
      exact .of_still (.pure _) () frame
  | record type fields span =>
      rw [inferExpression, Expression.shape, Shape.plan]
      apply Realizes.skip (observes_expectRecord _ _ _).still
      intro expected
      apply (realizes_checkInitializers fields expected.1 frame).andThen
      intro _
      exact .pure _
  | array type size initial span =>
      rw [inferExpression, Expression.shape, Shape.plan]
      apply (realizes_inferExpression size frame).bind
      intro sizeType _ _
      apply Realizes.skip (observes_expectInteger _ _ _).still
      intro _
      apply (realizes_inferExpression initial frame).bind
      intro initialType _ _
      exact .of_still (observes_expectArray _ _ _).still () frame
  | sequence members span =>
      rw [inferExpression, Expression.shape, Shape.plan]
      exact realizes_inferSequence members .void frame
  | assign target value span =>
      rw [inferExpression, Expression.shape, Shape.plan]
      apply (realizes_inferPlace target frame).bind
      intro targetType _ _
      apply (realizes_inferExpression value frame).bind
      intro valueType _ _
      apply Realizes.skip (observes_expectCompatible _ _ _ _).still
      intro _
      exact .of_still (.pure _) () frame
  | ifThen test body span | whileLoop test body span =>
      rw [inferExpression, Expression.shape, Shape.plan]
      apply (realizes_inferExpression test frame).bind
      intro testType _ _
      apply Realizes.skip (observes_expectInteger _ _ _).still
      intro _
      apply (realizes_inferExpression body frame).bind
      intro _ _ _
      exact .of_still (.pure _) () frame
  | ifThenElse test positive negative span =>
      rw [inferExpression, Expression.shape, Shape.plan]
      apply (realizes_inferExpression test frame).bind
      intro testType _ _
      apply Realizes.skip (observes_expectInteger _ _ _).still
      intro _
      apply (realizes_inferExpression positive frame).bind
      intro positiveType _ _
      apply (realizes_inferExpression negative frame).bind
      intro negativeType _ _
      exact .of_still (observes_joinBranches _ _ _).still () frame
  | forLoop counter low high body span =>
      rw [inferExpression, Expression.shape, Shape.plan]
      apply (realizes_inferExpression low frame).bind
      intro lowType _ _
      apply Realizes.skip (observes_expectInteger _ _ _).still
      intro _
      apply (realizes_inferExpression high frame).bind
      intro highType _ _
      apply Realizes.skip (observes_expectInteger _ _ _).still
      intro _
      apply Realizes.skip .openValueScope
      intro _
      apply (realizes_bindVariable counter.name .int frame).bind
      intro _ _ _
      apply (realizes_inferExpression body frame).andThen
      intro _
      apply Still.closeValueScope.bind
      intro _
      exact .pure _
  | block declarations body span =>
      rw [inferExpression, Expression.shape, Shape.plan]
      apply Realizes.skip .openTypeScope
      intro _
      apply Realizes.skip .openValueScope
      intro _
      apply Realizes.skip (.emit rfl)
      intro _
      apply (realizes_makeDeclarations declarations frame).bind
      intro _ _ _
      apply (realizes_inferExpression body frame).bind
      intro result _ _
      refine .of_still ?_ () frame
      exact fun _ => ⟨result, _, _, rfl, rfl, rfl, rfl, rfl⟩
termination_by structural expression

theorem realizes_checkArguments (arguments : List Expression) (expected : Expectations)
    (frame : Frame) :
    (checkArguments arguments expected).Realizes
      (Shape.planAll (Expression.shapes arguments) frame) frame frame fun _ _ => True := by
  cases arguments with
  | nil => exact .pure trivial frame
  | cons argument rest =>
      rw [checkArguments, Expression.shapes, Shape.planAll]
      apply (realizes_inferExpression argument frame).bind
      intro type _ _
      apply Realizes.skip (observes_expectNext _ _ _).still
      intro _
      exact realizes_checkArguments rest expected.tail frame
termination_by structural arguments

theorem realizes_checkInitializers (initializers : List Initializer) (expected : Expectations)
    (frame : Frame) :
    (checkInitializers initializers expected).Realizes
      (Shape.planAll (Initializer.shapes initializers) frame) frame frame fun _ _ => True := by
  match initializers with
  | [] => exact .pure trivial frame
  | ⟨name, value, span⟩ :: rest =>
      rw [checkInitializers, Initializer.shapes, Shape.planAll]
      apply (realizes_inferExpression value frame).bind
      intro type _ _
      apply Realizes.skip (observes_expectNext _ _ _).still
      intro _
      exact realizes_checkInitializers rest expected.tail frame
termination_by structural initializers

theorem realizes_inferSequence (members : List Expression) (last : TypeId) (frame : Frame) :
    (inferSequence members last).Realizes
      (Shape.planAll (Expression.shapes members) frame) frame frame fun _ _ => True := by
  cases members with
  | nil => exact .pure trivial frame
  | cons member rest =>
      rw [inferSequence, Expression.shapes, Shape.planAll]
      apply (realizes_inferExpression member frame).bind
      intro type _ _
      exact realizes_inferSequence rest type frame
termination_by structural members

theorem realizes_makeDeclaration (declaration : Declaration) (frame : Frame) :
    (makeDeclaration declaration).Realizes (declaration.shape.plan frame) frame frame
      fun _ _ => True := by
  match declaration with
  | .variable name ascribed initial span =>
      rw [makeDeclaration, Declaration.shape, Shape.plan]
      apply (realizes_inferExpression initial frame).bind
      intro initialType _ _
      apply Realizes.skip (observes_variableType _ _ _ _).still
      intro type
      exact realizes_bindVariable _ _ frame
  | .functions members span =>
      rw [makeDeclaration, Declaration.shape, Shape.plan]
      apply Realizes.skip (.emit rfl)
      intro _
      apply (realizes_announceFunctions members frame).bind
      rintro headers frames ⟨fits, rfl⟩
      exact realizes_checkBodies members headers frame fits
  | .types members span =>
      rw [makeDeclaration, Declaration.shape, Shape.plan]
      exact realizes_makeTypes members frame
termination_by structural declaration

theorem realizes_makeDeclarations (declarations : List Declaration) (frame : Frame) :
    (makeDeclarations declarations).Realizes
      (Shape.planAll (Declaration.shapes declarations) frame) frame frame fun _ _ => True := by
  cases declarations with
  | nil => exact .pure trivial frame
  | cons declaration rest =>
      rw [makeDeclarations, Declaration.shapes, Shape.planAll]
      apply (realizes_makeDeclaration declaration frame).bind
      intro _ _ _
      exact realizes_makeDeclarations rest frame
termination_by structural declarations

theorem realizes_checkBodies (members : List FunctionDeclaration)
    (headers : List FunctionHeader) (frame : Frame)
    (fits : members.Forall₂ FunctionHeader.Fits headers) :
    (checkBodies members headers).Realizes
      (FunctionShape.planBodies (FunctionDeclaration.shapes members) (headers.map (·.frame)))
      frame frame fun _ _ => True := by
  match members, headers, fits with
  | [], _, _ => exact .of_still (.pure ()) () frame
  | ⟨name, parameters, result, body, span⟩ :: rest, header :: headers, .cons fitting others =>
      rw [checkBodies, FunctionDeclaration.shapes, List.map_cons, FunctionShape.planBodies]
      apply Realizes.skip .openValueScope
      intro _
      -- The check changes its frame and changes it back.  The walk is handed the
      -- frame of each function, so what is to be seen is that the body keeps it.
      apply Realizes.frame
      apply Realizes.setFrame
      apply (realizes_bindParameters parameters header.parameters header.frame fitting).bind
      intro _ _ _
      apply (realizes_inferExpression body header.frame).bind
      intro bodyType _ _
      apply Realizes.skip (observes_expectCompatible _ _ _ _).still
      intro _
      apply Realizes.setFrame
      apply Realizes.skip .closeValueScope
      intro _
      exact realizes_checkBodies rest headers frame others
termination_by structural members

end

/-- From scratch, a check asks for what the layout of a shape holds. -/
theorem Realizes.layout {check : Check α} {shape : Shape} {state : State} {outside : Frame}
    (realizes : check.Realizes (shape.plan state.frame) state.frame outside fun _ _ => True) :
    let run := check.run state
    let (ended, layout) := shape.layout state.storage state.frame
    callsOf run.events = layout.calls ∧ run.state.storage = layout.storage ∧
      run.state.types.size = state.types.size + layout.types ∧
      (ended = true ↔ ∃ value, run.outcome = .ok value) := by
  have agrees : Layout.Agrees ⟨state.storage, [], 0⟩ state state [] := ⟨rfl, rfl, rfl⟩
  have ends := realizes state state [] _ agrees rfl
  rcases ran : check.run state with ⟨outcome, reached, events⟩
  rcases planned : (shape.plan state.frame).run.run ⟨state.storage, [], 0⟩ with ⟨answer, laid⟩
  rw [ran, planned] at ends
  rw [Shape.layout, planned]
  match outcome, answer with
  | .ok value, some _ =>
      rcases ends with ⟨together, _⟩
      exact ⟨together.calls.symm, together.storage.symm, together.types.symm, by simp⟩
  | .error problem, none =>
      exact ⟨ends.calls.symm, ends.storage.symm, ends.types.symm, by simp⟩
  | .ok value, none | .error problem, some _ => exact ends.elim

end Check

/-- What a check of an expression asks of the allocator, and how many types it
declares, is what the walk over the shape of the expression says, and the check
is aborted exactly if the walk ends early.  So from states with the same
allocator and frame, whatever else is in them, expressions of the same shape ask
for the same and declare as many types. -/
theorem State.layout_of_shape :
    (∀ (state : State) (expression : Expression),
      let run := (Check.inferExpression expression).run state
      let (ended, layout) := expression.shape.layout state.storage state.frame
      callsOf run.events = layout.calls ∧ run.state.storage = layout.storage ∧
        run.state.types.size = state.types.size + layout.types ∧
        (ended = true ↔ ∃ type, run.outcome = .ok type)) ∧
    ∀ (first second : State) (left right : Expression),
      first.storage = second.storage → first.frame = second.frame → left.shape = right.shape →
      let firstRun := (Check.inferExpression left).run first
      let secondRun := (Check.inferExpression right).run second
      callsOf firstRun.events = callsOf secondRun.events ∧
        firstRun.state.storage = secondRun.state.storage ∧
        firstRun.state.types.size - first.types.size =
          secondRun.state.types.size - second.types.size := by
  have laid : ∀ (state : State) (expression : Expression), _ := fun state expression =>
    (Check.realizes_inferExpression expression state.frame).layout
  refine ⟨laid, fun first second left right storage frame shape => ?_⟩
  intro firstRun secondRun
  have early := laid first left
  rw [storage, frame, shape] at early
  have late := laid second right
  refine ⟨early.1.trans late.1.symm, early.2.1.trans late.2.1.symm, ?_⟩
  rw [early.2.2.1, late.2.2.1, Nat.add_sub_cancel_left, Nat.add_sub_cancel_left]

/-- A function with one parameter is declared and called, and a loop runs up to
what it gives.  Whether that is well typed depends on the names. -/
def Expression.countedCall (type callee : String) : Expression :=
  let here : Span := ⟨1, 1, 1, 1⟩
  let ident := fun name => (⟨name, here⟩ : Ident)
  .block
    [.functions [⟨ident "f", [⟨ident "a", ident type, here⟩], some (ident type),
        .place (.name (ident "a") here) here, here⟩] here,
      .variable (ident "x") none (.call (ident callee) [.integer 1 here] here) here]
    (.forLoop (ident "i") (.integer 0 here) (.place (.name (ident "x") here) here)
      (.sequence [] here) here) here

/-- The second expression uses an unknown type and an unknown function, in a
state with one more type.  It takes the same label, frame and slots. -/
theorem State.layout_of_shape_countedCall :
    let here : Span := ⟨1, 1, 1, 1⟩
    let left := Expression.countedCall "int" "f"
    let right := Expression.countedCall "number" "g"
    let first := (History.ofRequests outermostFrame []).state
    let second := (History.ofRequests outermostFrame
      [.declaration (.types [⟨⟨"f", here⟩, .array ⟨"int", here⟩ here, here⟩] here)]).state
    let firstRun := (Check.inferExpression left).run first
    let secondRun := (Check.inferExpression right).run second
    first.storage = second.storage ∧ first.frame = second.frame ∧ left.shape = right.shape ∧
    diagnosticsOf firstRun.events = [] ∧ (diagnosticsOf secondRun.events).length = 3 ∧
    (callsOf firstRun.events).length = 5 ∧
    callsOf firstRun.events = callsOf secondRun.events := by
  intro here left right first second firstRun secondRun
  have storage : first.storage = second.storage := rfl
  have frame : first.frame = second.frame := rfl
  have shape : left.shape = right.shape := rfl
  have quiet : diagnosticsOf firstRun.events = [] := by decide +kernel
  have three : (diagnosticsOf secondRun.events).length = 3 := by decide +kernel
  have five : (callsOf firstRun.events).length = 5 := by decide +kernel
  exact ⟨storage, frame, shape, quiet, three, five,
    (layout_of_shape.2 first second left right storage frame shape).1⟩

end StaticSemantics
