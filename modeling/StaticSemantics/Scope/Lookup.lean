import StaticSemantics.Diagnostic.Problem
import StaticSemantics.Scope.Environment

namespace StaticSemantics

/-!
# Looking names up

A use of a name asks for a type, a variable or a function.  Only the newest
binding of the name counts.  If that one is of another sort the lookup fails,
even where an older binding would do, because the older one is hidden.
-/

/-- Why a name does not stand for what was asked. -/
inductive LookupError where
  | notFound (name : String)
  | wrongKind (name expected found : String)
  deriving DecidableEq, Repr

namespace LookupError

def message : LookupError → String
  | notFound name => "'" ++ name ++ "' not found"
  | wrongKind name expected found => "'" ++ name ++ s!"' is {found}, not {expected}"

/-- The words without the articles in front of them. -/
def withoutArticles : List Char → List Char
  | 'a' :: ' ' :: words => withoutArticles words
  | words => words

/-- The problem to report where `what` was looked for. -/
def problem (what : String) : LookupError → Problem
  | notFound name => .undefined what name
  | wrongKind name expected found =>
    .wrongKind expected (String.ofList (withoutArticles found.toList) ++ " '" ++ name ++ "'")

end LookupError

namespace Environment

/-- What a name is bound to. -/
def lookUp (env : Environment) (name : String) : Except LookupError Entry :=
  match env.newest? name with
  | some entry => .ok entry
  | none => .error (.notFound name)

/-- A name stands for `found` where something else was asked. -/
def mistaken (name : String) (expected : EntryKind) (found : Entry) : LookupError :=
  .wrongKind name expected.text found.kind.text

/-- The type that a name stands for. -/
def lookUpType (env : Environment) (name : String) : Except LookupError TypeId :=
  match env.newest? name with
  | some (.type id) => .ok id
  | some other => .error (mistaken name .type other)
  | none => .error (.notFound name)

/-- The variable that a name stands for. -/
def lookUpVariable (env : Environment) (name : String) : Except LookupError VariableEntry :=
  match env.newest? name with
  | some (.variable entry) => .ok entry
  | some other => .error (mistaken name .variable other)
  | none => .error (.notFound name)

/-- The function that a name stands for. -/
def lookUpFunction (env : Environment) (name : String) : Except LookupError FunctionEntry :=
  match env.newest? name with
  | some (.function entry) => .ok entry
  | some other => .error (mistaken name .function other)
  | none => .error (.notFound name)

theorem lookUpType_eq_ok_iff {env : Environment} {name : String} {id : TypeId} :
    env.lookUpType name = .ok id ↔ env.newest? name = some (.type id) := by
  unfold lookUpType
  split <;> simp_all

theorem lookUpVariable_eq_ok_iff {env : Environment} {name : String} {entry : VariableEntry} :
    env.lookUpVariable name = .ok entry ↔ env.newest? name = some (.variable entry) := by
  unfold lookUpVariable
  split <;> simp_all

theorem lookUpFunction_eq_ok_iff {env : Environment} {name : String} {entry : FunctionEntry} :
    env.lookUpFunction name = .ok entry ↔ env.newest? name = some (.function entry) := by
  unfold lookUpFunction
  split <;> simp_all

end Environment
end StaticSemantics
