import StaticSemantics.Check.Expectation

namespace StaticSemantics
namespace Check

/-!
# Groups of type declarations

A group is declared in three passes.  First every member takes a number, and
its name is bound to that number.  Then every right-hand side is read and put
behind the number of its member; since all names are bound by then, members
may refer to each other and to themselves.  Last, the aliases of the group are
followed.

A chain of aliases that stops in the group is reported at the member where it
starts.  A chain that runs on into a circle of an older group has been reported
there, so it is only noted in the log.
-/

/-- The fields of a record type, with their types looked up in order. -/
def interpretFields (fields : List TypedName) : Check (List Field) :=
  fields.mapM fun field => do pure ⟨field.name.name, ← typeNamed field.type⟩

/-- What the right-hand side of the declaration of `name` stands for.  An alias
of an unknown name stands for the error type itself. -/
def interpretType (body : TypeExpression) (name : String) : Check Ty := do
  match body with
  | .name target _ =>
    match ← typeNamed? target with
    | some id => pure (.alias name (some id))
    | none => pure .error
  | .record fields _ => pure (.record (← interpretFields fields))
  | .array element _ => pure (.array (← typeNamed element))

/-- The first pass: a member takes its number, and its name is bound to it. -/
def announceType (member : TypeDeclaration) : Check TypeId := do
  let id ← declareType member.name.name member.span
  bindType member.name.name id
  pure id

/-- The second pass: a member is defined behind its number. -/
def completeType (member : TypeDeclaration) (id : TypeId) : Check Unit := do
  defineType id (← interpretType member.body member.name.name)

/-- The third pass: a member's chain of aliases is followed. -/
def reportBroken (group : List TypeId) (member : TypeDeclaration) (id : TypeId) : Check Unit := do
  match (← types).unalias id with
  | .ok _ => pure ()
  | .error error =>
    if error.stop ∈ group then report member.span (.aliasCycle member.name.name)
    else emit (.aliasBroken member.name.name error)

/-- Declare a group of types. -/
def makeTypes (members : List TypeDeclaration) : Check Unit := do
  emit (.typesGrouped (members.map (·.name.name)))
  let group ← members.mapM announceType
  (members.zip group).forM fun (member, id) => completeType member id
  (members.zip group).forM fun (member, id) => reportBroken group member id

end Check
end StaticSemantics
