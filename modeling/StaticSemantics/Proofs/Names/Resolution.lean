import StaticSemantics.Proofs.Malformed
import StaticSemantics.Proofs.Names.Rules
import StaticSemantics.Proofs.WellFormed

namespace StaticSemantics

/-!
# The checker finds what the resolver finds

The walk over the trees goes by the rules.  What is reported of names in a part
of a tree depends on the names in scope there, and these are the same whether
they are carried in environments, with marks and closed scopes, or handed down.
-/

namespace Check

mutual

theorem says_inferPlace (place : Place) (names : Names) :
    (inferPlace place).Says names (place.misused names) := by
  cases place with
  | name name span =>
      rw [inferPlace, Place.misused]
      exact says_variableNamed name
  | field base field span =>
      rw [inferPlace, Place.misused]
      apply (says_inferPlace base names).andThen
      intro baseType
      exact silent_selectField _ _ _
  | element base index span =>
      rw [inferPlace, Place.misused]
      apply (says_inferPlace base names).bind ((balanced_inferPlace base).leads names)
      intro baseType _
      apply (says_inferExpression index names).andThen
      intro indexType
      exact (silent_expectInteger _ _ _).bind fun _ => silent_selectElement _ _
termination_by structural place

theorem says_inferExpression (expression : Expression) (names : Names) :
    (inferExpression expression).Says names (expression.misused names) := by
  cases expression with
  | nil | integer | string | breakLoop => exact .of_silent (.pure _)
  | malformed span => exact fun _ _ => nofun
  | place place span =>
      rw [inferExpression, Expression.misused]
      exact says_inferPlace place names
  | call function arguments span =>
      rw [inferExpression, Expression.misused]
      apply (says_expectCall _ _ _).bind ((observes_expectCall _ _ _).balanced.leads names)
      intro expected _
      apply (says_checkArguments arguments expected.1 names).andThen
      intro _
      exact .pure _
  | binary operator left right span =>
      rw [inferExpression, Expression.misused]
      apply (says_inferExpression left names).bind ((balanced_inferExpression left).leads names)
      intro leftType _
      apply (says_inferExpression right names).andThen
      intro rightType
      exact (silent_expectOperands _ _ _ _ _).bind fun _ => .pure _
  | record type fields span =>
      rw [inferExpression, Expression.misused]
      apply (says_expectRecord _ _ _).bind ((observes_expectRecord _ _ _).balanced.leads names)
      intro expected _
      apply (says_checkInitializers fields expected.1 names).andThen
      intro _
      exact .pure _
  | array type size initial span =>
      rw [inferExpression, Expression.misused]
      apply (says_inferExpression size names).bind ((balanced_inferExpression size).leads names)
      intro sizeType _
      apply Says.after (silent_expectInteger _ _ _)
        ((observes_expectInteger _ _ _).balanced.leads names)
      intro _ _
      apply (says_inferExpression initial names).bind
        ((balanced_inferExpression initial).leads names)
      intro initialType _
      exact says_expectArray _ _ _
  | sequence members span =>
      rw [inferExpression, Expression.misused]
      exact says_inferSequence members .void names
  | assign target value span =>
      rw [inferExpression, Expression.misused]
      apply (says_inferPlace target names).bind ((balanced_inferPlace target).leads names)
      intro targetType _
      apply (says_inferExpression value names).andThen
      intro valueType
      exact (silent_expectCompatible _ _ _ _).bind fun _ => .pure _
  | ifThen test body span | whileLoop test body span =>
      rw [inferExpression, Expression.misused]
      apply (says_inferExpression test names).bind ((balanced_inferExpression test).leads names)
      intro testType _
      apply Says.after (silent_expectInteger _ _ _)
        ((observes_expectInteger _ _ _).balanced.leads names)
      intro _ _
      apply (says_inferExpression body names).andThen
      intro _
      exact .pure _
  | ifThenElse test positive negative span =>
      rw [inferExpression, Expression.misused]
      apply (says_inferExpression test names).bind ((balanced_inferExpression test).leads names)
      intro testType _
      apply Says.after (silent_expectInteger _ _ _)
        ((observes_expectInteger _ _ _).balanced.leads names)
      intro _ _
      apply (says_inferExpression positive names).bind
        ((balanced_inferExpression positive).leads names)
      intro positiveType _
      apply (says_inferExpression negative names).andThen
      intro negativeType
      exact silent_joinBranches _ _ _
  | forLoop counter low high body span =>
      rw [inferExpression, Expression.misused]
      apply (says_inferExpression low names).bind ((balanced_inferExpression low).leads names)
      intro lowType _
      apply Says.after (silent_expectInteger _ _ _)
        ((observes_expectInteger _ _ _).balanced.leads names)
      intro _ _
      apply (says_inferExpression high names).bind ((balanced_inferExpression high).leads names)
      intro highType _
      apply Says.after (silent_expectInteger _ _ _)
        ((observes_expectInteger _ _ _).balanced.leads names)
      intro _ _
      apply Says.after (silent_update _) leads_openValueScope
      intro _ _
      apply Says.after (silent_bindVariable _ _) (.bindVariable _ _)
      intro _ _
      apply (says_inferExpression body _).andThen
      intro _
      exact (silent_update _).bind fun _ => .pure _
  | block declarations body span =>
      rw [inferExpression, Expression.misused]
      apply Says.after (silent_update _) leads_openTypeScope
      intro _ _
      apply Says.after (silent_update _) leads_openValueScope
      intro _ _
      apply Says.after (silent_emit rfl) (leads_emit _)
      intro _ _
      apply (says_makeDeclarations declarations names).bind
        (leads_makeDeclarations declarations names)
      intro _ _
      -- The scopes are closed behind the body.  No name is read after that, so
      -- what is then in scope is left open.
      apply (says_inferExpression body _).andThen
      intro result
      apply silent_state.bind
      intro shown
      apply (silent_emit rfl).bind
      intro _
      exact (silent_update _).bind fun _ => (silent_update _).bind fun _ => .pure _
termination_by structural expression

theorem says_checkArguments (arguments : List Expression) (expected : Expectations)
    (names : Names) :
    (checkArguments arguments expected).Says names (Expression.allMisused names arguments) := by
  cases arguments with
  | nil => exact .of_silent (.pure _)
  | cons argument rest =>
      rw [checkArguments, Expression.allMisused]
      apply (says_inferExpression argument names).bind
        ((balanced_inferExpression argument).leads names)
      intro type _
      apply Says.after (silent_expectNext _ _ _) ((observes_expectNext _ _ _).balanced.leads names)
      intro _ _
      exact says_checkArguments rest expected.tail names
termination_by structural arguments

theorem says_checkInitializers (initializers : List Initializer) (expected : Expectations)
    (names : Names) :
    (checkInitializers initializers expected).Says names
      (Initializer.allMisused names initializers) := by
  match initializers with
  | [] => exact .of_silent (.pure _)
  | ⟨name, value, span⟩ :: rest =>
      rw [checkInitializers, Initializer.allMisused]
      apply (says_inferExpression value names).bind ((balanced_inferExpression value).leads names)
      intro type _
      apply Says.after (silent_expectNext _ _ _) ((observes_expectNext _ _ _).balanced.leads names)
      intro _ _
      exact says_checkInitializers rest expected.tail names
termination_by structural initializers

theorem says_inferSequence (members : List Expression) (last : TypeId) (names : Names) :
    (inferSequence members last).Says names (Expression.allMisused names members) := by
  cases members with
  | nil => exact .of_silent (.pure _)
  | cons member rest =>
      rw [inferSequence, Expression.allMisused]
      apply (says_inferExpression member names).bind ((balanced_inferExpression member).leads names)
      intro type _
      exact says_inferSequence rest type names
termination_by structural members

theorem says_makeDeclaration (declaration : Declaration) (names : Names) :
    (makeDeclaration declaration).Says names (declaration.misused names) := by
  match declaration with
  | .variable name ascribed initial span =>
      rw [makeDeclaration, Declaration.misused]
      apply (says_inferExpression initial names).bind
        ((balanced_inferExpression initial).leads names)
      intro initialType _
      apply (says_variableType _ _ _ _).andThen
      intro type
      exact silent_bindVariable _ _
  | .functions members span =>
      rw [makeDeclaration, Declaration.misused]
      apply Says.after (silent_emit rfl) (leads_emit _)
      intro _ _
      apply (says_announceFunctions members names).bind (leads_announceFunctions members names)
      intro headers fits
      exact says_checkBodies members headers _ fits
  | .types members span =>
      rw [makeDeclaration]
      exact says_makeTypes members span
termination_by structural declaration

theorem says_makeDeclarations (declarations : List Declaration) (names : Names) :
    (makeDeclarations declarations).Says names (Declaration.allMisused names declarations) := by
  cases declarations with
  | nil => exact .of_silent (.pure _)
  | cons declaration rest =>
      rw [makeDeclarations, Declaration.allMisused]
      apply (says_makeDeclaration declaration names).bind (leads_makeDeclaration declaration)
      intro _ _
      exact says_makeDeclarations rest _
termination_by structural declarations

theorem says_checkBodies (members : List FunctionDeclaration) (headers : List FunctionHeader)
    (names : Names) (fits : members.Forall₂ FunctionHeader.Fits headers) :
    (checkBodies members headers).Says names
      (FunctionDeclaration.misusedInBodies names members) := by
  match members, headers with
  | [], _ =>
      rw [FunctionDeclaration.misusedInBodies]
      exact .of_silent fun _ => .nil
  | ⟨name, parameters, result, body, span⟩ :: rest, header :: headers =>
      cases fits with
      | cons fits others =>
          rw [checkBodies_cons, FunctionDeclaration.misusedInBodies]
          refine Says.bind ?_ ((balanced_checkBodies _ _).leads names) fun _ _ =>
            says_checkBodies rest headers names others
          rw [checkBodies]
          apply Says.after (silent_update _) leads_openValueScope
          intro _ _
          apply Says.after silent_frame leads_frame
          intro outer _
          apply Says.after (silent_update _) (leads_setFrame header.frame)
          intro _ _
          apply Says.after (silent_bindParameters _ _) (leads_bindParameters _ _ names fits)
          intro _ _
          apply (says_inferExpression body _).andThen
          intro bodyType
          apply (silent_expectCompatible _ _ _ _).bind
          intro _
          exact (silent_update _).bind fun _ => (silent_update _).bind fun _ => fun _ => .nil
termination_by structural members

end

theorem says_inferProgram (program : Expression) (names : Names) :
    (inferProgram program).Says names (program.misused names) := by
  apply (says_inferExpression program names).andThen
  intro type
  apply Silent.types
  intro types
  exact (silent_emit rfl).bind fun _ => .pure _

theorem says_interpretType (body : TypeExpression) (name : String) (names : Names) :
    (interpretType body name).Says names (body.used.flatMap names.misusedType) :=
  .of_run fun state shows => ⟨_, _, _, run_interpretType body name state,
    .flatMap fun name _ => tells_typeReports shows name⟩

end Check

/-!
## Histories
-/

/-- The names that a request uses wrongly. -/
def Request.misused (names : Names) : Request → List (Span × Problem)
  | .program root | .expression root => root.misused names
  | .place root => root.misused names
  | .declaration root => root.misused names
  | .meaning body _ => body.used.flatMap names.misusedType

theorem Request.says (request : Request) (names : Names) :
    request.check.Says names (request.misused names) := by
  cases request with
  | program root => exact (Check.says_inferProgram root names).andThen fun _ => .pure _
  | expression root => exact (Check.says_inferExpression root names).andThen fun _ => .pure _
  | place root => exact (Check.says_inferPlace root names).andThen fun _ => .pure _
  | declaration root => exact (Check.says_makeDeclaration root names).andThen fun _ => .pure _
  | meaning body name => exact (Check.says_interpretType body name names).andThen fun _ => .pure _

/-- A well-formed state shows its names. -/
theorem State.WellFormed.shows {state : State} (wellFormed : state.WellFormed) :
    state.Shows state.names :=
  ⟨rfl, fun binding member => (wellFormed.typeNames.bindings binding member).1⟩

/-- In no history is it reported that a name stands for something else than a
type, not even in checks that were aborted. -/
theorem History.spares_past (outermost : Frame) (requests : List Request) :
    SparesTypes (ofRequests outermost requests).past := by
  have kept : ∀ history request,
      Discipline.wellFormed.Holds history ∧ SparesTypes history.past →
      Discipline.wellFormed.Holds (history.perform request) ∧
        SparesTypes (history.perform request).past := by
    rintro history request ⟨holds, spares⟩
    have keeps := Discipline.keeps_request Discipline.wellFormed_lawful request history holds
    refine ⟨keeps.1, spares.append ?_⟩
    have said := request.says _ _ holds.wellFormed.shows
    split at said
    · exact said.spares
    · exact said
  have start := Discipline.holds_start Discipline.wellFormed_lawful ⟨.basic, nofun⟩ outermost
  exact (ofRequests_induction _ ⟨start, fun _ _ => List.not_mem_nil⟩ kept requests).2

/-- In every history, an expression without malformed parts is checked to its
end, and what is reported of names used wrongly is what the resolver finds from
the names in scope: the same problems at the same places in the same order.
That a name stands for something else than a type is never reported. -/
theorem History.names_resolved_without_types (outermost : Frame) (requests : List Request) :
    let history := ofRequests outermost requests
    (∀ expression, expression.isParsed = true →
      ∃ type reached events,
        (Check.inferExpression expression).run history.state = ⟨.ok type, reached, events⟩ ∧
        misusesIn events = expression.misused history.state.names ∧
        SparesTypes events) ∧
    SparesTypes history.past := by
  intro history
  refine ⟨fun expression parsed => ?_, spares_past outermost requests⟩
  have holds := Discipline.wellFormed_ofRequests outermost requests
  have completes := Check.completes_inferExpression expression
  rcases completes.succeeds parsed history.state with ⟨type, reached, events, ran⟩
  have said := Check.says_inferExpression expression _ _ holds.wellFormed.shows
  rw [ran] at said
  exact ⟨type, reached, events, ran, said.misusesIn_eq, said.spares⟩

/-- A block in which six names are used wrongly, among wrong numbers of
arguments and types that disagree. -/
def Expression.misusedNames : Expression :=
  let here : Span := ⟨1, 1, 1, 1⟩
  .block
    [.functions [⟨⟨"f", here⟩, [⟨⟨"a", here⟩, ⟨"missing", here⟩, here⟩], some ⟨"int", here⟩,
        .place (.name ⟨"b", here⟩ here) here, here⟩] here,
      .variable ⟨"x", here⟩ (some ⟨"nowhere", here⟩)
        (.call ⟨"g", here⟩ [.place (.name ⟨"f", here⟩ here) here] here) here]
    (.binary .plus (.call ⟨"x", here⟩ [.integer 1 here] here)
      (.call ⟨"f", here⟩ [.string "s" here, .nil here] here) here)
    here

theorem History.names_resolved_without_types_misusedNames :
    Expression.misusedNames.isParsed = true ∧
    ∃ type reached events,
      (Check.inferExpression Expression.misusedNames).run (State.initial outermostFrame) =
        ⟨.ok type, reached, events⟩ ∧
      (misusesIn events).map (·.2) = [.undefined "type" "missing", .undefined "variable" "b",
        .undefined "function" "g", .wrongKind "a variable" "function 'f'",
        .undefined "type" "nowhere", .wrongKind "a function" "variable 'x'"] := by
  have parsed : Expression.misusedNames.isParsed = true := by decide
  rcases (names_resolved_without_types outermostFrame []).1 Expression.misusedNames parsed with
    ⟨type, reached, events, ran, misuses, _⟩
  refine ⟨parsed, type, reached, events, ran, ?_⟩
  rw [misuses]
  decide

end StaticSemantics
