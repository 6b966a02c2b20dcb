import StaticSemantics.Scope.Environment

namespace StaticSemantics
namespace Environment

/-!
# Histories of an environment

An environment changes in three ways only.  Naming the ways as data lets one
speak of any history of an environment, with scopes closed in order or not.
-/

/-- A change of an environment. -/
inductive Operation where
  | bind (name : String) (entry : Entry)
  | openScope
  | closeScope
  deriving DecidableEq, Repr

/-- Make one change. -/
def apply (env : Environment) : Operation → Environment
  | .bind name entry => env.bind name entry
  | .openScope => env.openScope
  | .closeScope => env.closeScope

/-- Make many changes, the first one first. -/
def applyAll (env : Environment) (operations : List Operation) : Environment :=
  operations.foldl apply env

@[simp] theorem applyAll_nil (env : Environment) : env.applyAll [] = env :=
  rfl

@[simp] theorem applyAll_cons (env : Environment) (first : Operation) (rest : List Operation) :
    env.applyAll (first :: rest) = (env.apply first).applyAll rest :=
  rfl

theorem applyAll_append (env : Environment) (first second : List Operation) :
    env.applyAll (first ++ second) = (env.applyAll first).applyAll second :=
  List.foldl_append

end Environment
end StaticSemantics
