import StaticSemantics.Proofs.Typing.Completeness
import StaticSemantics.Proofs.Typing.Soundness

namespace StaticSemantics

/-!
# The checker decides the typing rules

For everything that can be asked for, what the rules derive is what is
answered without a report.  That derivable trees are accepted holds in all
histories.  That accepted trees are derivable holds as long as nothing has been
reported, because names that are in scope may be of the error type after that.
-/

/-- What the typing rules say about a request: its answer, and the table and the
scope that it leaves behind. -/
inductive Request.Derives (types : Types) (scope : Scope) :
    Request → Answer → Types → Scope → Prop
  | program {root : Expression} {type : TypeId} {later : Types}
      (typed : Typed types scope root type later) :
      Derives types scope (.program root) (.type type) later scope
  | expression {root : Expression} {type : TypeId} {later : Types}
      (typed : Typed types scope root type later) :
      Derives types scope (.expression root) (.type type) later scope
  | place {root : Place} {type : TypeId} {later : Types}
      (typed : PlaceTyped types scope root type later) :
      Derives types scope (.place root) (.type type) later scope
  | declaration {root : Declaration} {later : Types} {inner : Scope}
      (declared : Declared types scope root later inner) :
      Derives types scope (.declaration root) .declared later inner
  | meaning {body : TypeExpression} {name : String} {type : Ty}
      (means : body.Means scope name type) :
      Derives types scope (.meaning body name) (.meaning type) types scope

namespace Check

variable {state reached : State} {α β : Type}

/-- What is made of an answer does not matter for acceptance. -/
theorem accepts_answer {check : Check α} {f : α → β} {answer : β} :
    (do pure (f (← check)) : Check β).Accepts state answer reached ↔
      ∃ value, check.Accepts state value reached ∧ answer = f value := by
  rw [accepts_bind]
  constructor
  · rintro ⟨value, middle, accepted, done⟩
    rcases accepts_pure.mp done with ⟨rfl, rfl⟩
    exact ⟨value, accepted, rfl⟩
  · rintro ⟨value, accepted, rfl⟩
    exact ⟨value, reached, accepted, accepts_pure.mpr ⟨rfl, rfl⟩⟩

theorem accepts_inferProgram {program : Expression} {type : TypeId} :
    (inferProgram program).Accepts state type reached ↔
      (inferExpression program).Accepts state type reached := by
  unfold inferProgram
  rw [accepts_bind]
  constructor
  · rintro ⟨answer, middle, accepted, shown⟩
    rcases accepts_bind.mp (accepts_seeing_types.mp shown) with ⟨_, last, emitted, done⟩
    rcases accepts_pure.mp done with ⟨rfl, rfl⟩
    rcases (accepts_emit rfl).mp emitted with rfl
    exact accepted
  · intro accepted
    refine ⟨type, reached, accepted, accepts_seeing_types.mpr (accepts_bind.mpr ?_)⟩
    exact ⟨(), reached, (accepts_emit rfl).mpr rfl, accepts_pure.mpr ⟨rfl, rfl⟩⟩

theorem accepts_interpretType {body : TypeExpression} {name : String} {type : Ty} :
    (interpretType body name).Accepts state type reached ↔
      body.Means state.scope name type ∧ reached = state := by
  have quiet : Quiet (body.reports state.typeNames) ↔
      ∀ used ∈ body.used, ∃ id, state.typeNames.typeOf? used.name = some id := by
    simp only [← Environment.quiet_typeReports_iff, Quiet.iff_forall, TypeExpression.reports,
      List.mem_flatMap]
    constructor
    · exact fun silent used member event said => silent event ⟨used, member, said⟩
    · rintro silent event ⟨used, member, said⟩
      exact silent used member event said
  rw [accepts_of_run (run_interpretType body name state), quiet,
    TypeExpression.means_iff (show state.scope.types = state.typeNames.typeOf? from rfl)]
  constructor
  · rintro ⟨⟨rfl, rfl⟩, known⟩
    exact ⟨⟨known, rfl⟩, rfl⟩
  · rintro ⟨⟨known, rfl⟩, rfl⟩
    exact ⟨⟨rfl, rfl⟩, known⟩

end Check

/-- What the rules derive is accepted, in every well-formed state. -/
theorem Request.Derives.accepted {state : State} (wellFormed : state.WellFormed)
    {request : Request} {answer : Answer} {later : Types} {inner : Scope}
    (derives : request.Derives state.types state.scope answer later inner) :
    ∃ reached, request.check.Accepts state answer reached ∧ reached.types = later ∧
      reached.scope = inner := by
  cases derives with
  | program typed =>
      rcases Check.passes_inferExpression _ wellFormed typed with ⟨_, reached, accepted, rfl, rfl⟩
      exact ⟨reached, Check.accepts_answer.mpr ⟨_, Check.accepts_inferProgram.mpr accepted, rfl⟩,
        rfl, (Check.balanced_inferExpression _).scope_eq accepted⟩
  | expression typed =>
      rcases Check.passes_inferExpression _ wellFormed typed with ⟨_, reached, accepted, rfl, rfl⟩
      exact ⟨reached, Check.accepts_answer.mpr ⟨_, accepted, rfl⟩, rfl,
        (Check.balanced_inferExpression _).scope_eq accepted⟩
  | place typed =>
      rcases Check.passes_inferPlace _ wellFormed typed with ⟨_, reached, accepted, rfl, rfl⟩
      exact ⟨reached, Check.accepts_answer.mpr ⟨_, accepted, rfl⟩, rfl,
        (Check.balanced_inferPlace _).scope_eq accepted⟩
  | declaration declared =>
      rcases Check.passes_makeDeclaration _ wellFormed declared with
        ⟨_, reached, accepted, rfl, rfl⟩
      exact ⟨reached, Check.accepts_answer.mpr ⟨(), accepted, rfl⟩, rfl, rfl⟩
  | meaning means =>
      exact ⟨state, Check.accepts_answer.mpr ⟨_, Check.accepts_interpretType.mpr ⟨means, rfl⟩, rfl⟩,
        rfl, rfl⟩

/-- What is accepted is derived by the rules, in every clean state. -/
theorem Request.derives_of_accepts {state reached : State} (clean : state.Clean)
    {request : Request} {answer : Answer} (accepted : request.check.Accepts state answer reached) :
    request.Derives state.types state.scope answer reached.types reached.scope := by
  cases request with
  | program root =>
      rcases Check.accepts_answer.mp accepted with ⟨type, rootAccepted, rfl⟩
      have inferred := Check.accepts_inferProgram.mp rootAccepted
      rw [(clean.expression inferred).scope]
      exact .program (Check.typed_of_accepts root clean inferred)
  | expression root =>
      rcases Check.accepts_answer.mp accepted with ⟨type, inferred, rfl⟩
      rw [(clean.expression inferred).scope]
      exact .expression (Check.typed_of_accepts root clean inferred)
  | place root =>
      rcases Check.accepts_answer.mp accepted with ⟨type, inferred, rfl⟩
      rw [(clean.place inferred).scope]
      exact .place (Check.placeTyped_of_accepts root clean inferred)
  | declaration root =>
      rcases Check.accepts_answer.mp accepted with ⟨_, made, rfl⟩
      exact .declaration (Check.declared_of_accepts root clean made)
  | meaning body name =>
      rcases Check.accepts_answer.mp accepted with ⟨type, read, rfl⟩
      rcases Check.accepts_interpretType.mp read with ⟨means, rfl⟩
      exact .meaning means

/-- In every history the rules derive nothing that is not accepted.  As long as
nothing has been reported, nothing is accepted that the rules do not derive. -/
theorem History.typing_sound_and_complete (outermost : Frame) (requests : List Request) :
    let history := ofRequests outermost requests
    (∀ (request : Request) (answer : Answer) (later : Types) (inner : Scope),
      request.Derives history.state.types history.state.scope answer later inner →
      ∃ reached, request.check.Accepts history.state answer reached ∧ reached.types = later ∧
        reached.scope = inner) ∧
    (diagnosticsOf history.past = [] → ∀ (request : Request) (answer : Answer) (reached : State),
      request.check.Accepts history.state answer reached →
      request.Derives history.state.types history.state.scope answer reached.types
        reached.scope) := by
  intro history
  constructor
  · intro request answer later inner derives
    have holds := Discipline.holds_ofRequests Discipline.wellFormed_lawful ⟨.basic, nofun⟩
      outermost requests
    exact derives.accepted holds.wellFormed
  · intro quiet request answer reached accepted
    have holds := Discipline.holds_ofRequests Discipline.errorFree_lawful
      ⟨.basic, fun _ => .basic⟩ outermost requests
    exact Request.derives_of_accepts (.of_quiet holds quiet) accepted

/-- A block that declares a number and adds to it. -/
def Request.sumProgram : Request :=
  let here : Span := ⟨1, 1, 1, 1⟩
  .program (.block [.variable ⟨"x", here⟩ none (.integer 1 here) here]
    (.binary .plus (.place (.name ⟨"x", here⟩ here) here) (.integer 2 here) here) here)

theorem History.typing_sound_and_complete_sumProgram :
    diagnosticsOf (ofRequests outermostFrame []).past = [] ∧
    ∃ later inner, Request.sumProgram.Derives (State.initial outermostFrame).types
      (State.initial outermostFrame).scope (.type .int) later inner := by
  have accepted : Request.sumProgram.check.Accepts (State.initial outermostFrame) (.type .int)
      (Request.sumProgram.check.run (State.initial outermostFrame)).state := ⟨_, rfl, rfl⟩
  exact ⟨rfl, _, _,
    (typing_sound_and_complete outermostFrame []).2 rfl Request.sumProgram _ _ accepted⟩

end StaticSemantics
