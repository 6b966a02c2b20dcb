import StaticSemantics.Check.Expression
import StaticSemantics.Proofs.TypeGroup

namespace StaticSemantics

/-!
# What the heading of a function does

The first pass over a group of functions looks up the types in every heading
and asks for a label and a frame.  Here its result is given at once.  The names
of types are the same for all members, so what a heading means does not depend
on the members before it.
-/

namespace Environment

/-- The type that a name counts as. -/
def typeMeant (env : Environment) (name : Ident) : TypeId :=
  (env.typeOf? name.name).getD .error

end Environment

namespace FunctionDeclaration

/-- The types of the parameters of a function. -/
def parameterTypes (env : Environment) (member : FunctionDeclaration) : List TypeId :=
  member.parameters.map fun parameter => env.typeMeant parameter.type

/-- The type of the value of a function. -/
def resultType (env : Environment) (member : FunctionDeclaration) : TypeId :=
  member.result.elim .void env.typeMeant

/-- The reports for the names in the heading of a function. -/
def headingReports (env : Environment) (member : FunctionDeclaration) : List Event :=
  member.result.toList.flatMap env.typeReports ++
    member.parameters.flatMap fun parameter => env.typeReports parameter.type

/-- What the name of a function is bound to, with the handles that it was given. -/
def entry (env : Environment) (member : FunctionDeclaration) (frame : Frame) (label : Label) :
    FunctionEntry :=
  ⟨member.parameterTypes env, member.resultType env, frame, label⟩

/-- What is known of a function before its body is checked. -/
def header (env : Environment) (member : FunctionDeclaration) (frame : Frame) :
    Check.FunctionHeader :=
  ⟨member.parameterTypes env, member.resultType env, frame⟩

/-- What happens while a function is announced. -/
def headingEvents (state : State) (member : FunctionDeclaration) (frame : Frame) (label : Label) :
    List Event :=
  member.headingReports state.typeNames ++
    [.requested (.label label),
      .requested (.frame state.frame label (member.parameterTypes state.typeNames).length frame),
      .bound member.name.name .function state.valueNames.depth]

end FunctionDeclaration

namespace Check

theorem run_resultType (result : Option Ident) (state : State) :
    (resultType result).run state =
      ⟨.ok (result.elim .void state.typeNames.typeMeant), state,
        result.toList.flatMap state.typeNames.typeReports⟩ := by
  cases result with
  | none => rfl
  | some name =>
      rw [Option.toList_some, List.flatMap_singleton]
      exact run_typeNamed name state

/-- A header has as many parameters as its function. -/
def FunctionHeader.Fits (member : FunctionDeclaration) (header : FunctionHeader) : Prop :=
  header.parameters.length = member.parameters.length

/-- What announcing a function does, with the handles that it takes. -/
theorem run_announceFunction_takes (member : FunctionDeclaration) (state : State) :
    let label := state.storage.takeLabel.1
    let frame := state.storage.takeLabel.2.takeFrame.1
    (announceFunction member).run state =
      ⟨.ok (member.header state.typeNames frame),
        { state with
          valueNames := state.valueNames.bind member.name.name
            (.function (member.entry state.typeNames frame label))
          storage := state.storage.takeLabel.2.takeFrame.2 },
        member.headingEvents state frame label⟩ := by
  have looked := run_mapM (fun parameter : TypedName => run_typeNamed parameter.type state)
    member.parameters
  intro label frame
  rw [announceFunction, run_bind_of_ok (run_resultType member.result state), run_bind_of_ok looked]
  unfold FunctionDeclaration.headingEvents FunctionDeclaration.headingReports
  rw [List.append_assoc]
  rfl

/-- A function is given a label and a frame, and nothing else is asked for. -/
theorem callsOf_headingEvents (state : State) (member : FunctionDeclaration) (frame : Frame)
    (label : Label) :
    callsOf (member.headingEvents state frame label) =
      [.label label, .frame state.frame label (member.parameterTypes state.typeNames).length
        frame] := by
  have quiet : callsOf (member.headingReports state.typeNames) = [] := by
    refine List.filterMap_eq_nil_iff.mpr fun event happened => ?_
    rcases List.mem_append.mp happened with result | parameter
    · rcases List.mem_flatMap.mp result with ⟨name, _, said⟩
      exact Environment.call?_of_mem_typeReports said
    · rcases List.mem_flatMap.mp parameter with ⟨name, _, said⟩
      exact Environment.call?_of_mem_typeReports said
  rw [FunctionDeclaration.headingEvents, callsOf_append, quiet]
  rfl

/-- Announcing a function never fails, and changes the names of values and the
storage alone. -/
theorem run_announceFunction (member : FunctionDeclaration) (state : State) :
    ∃ frame label storage,
      (announceFunction member).run state =
        ⟨.ok (member.header state.typeNames frame),
          { state with
            valueNames := state.valueNames.bind member.name.name
              (.function (member.entry state.typeNames frame label))
            storage },
          member.headingEvents state frame label⟩ :=
  ⟨_, _, _, run_announceFunction_takes member state⟩

end Check
end StaticSemantics
