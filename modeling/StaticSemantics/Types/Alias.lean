import StaticSemantics.Types.Basic

namespace StaticSemantics

/-!
# Following aliases

An alias stands for its target, which may be an alias again.  Following the
targets either arrives at a type that is no alias, or comes to an alias that
has no target yet, or goes round in a circle.

A walk remembers the aliases that it has passed.  It stops at the first one
that it meets again, which is where the circle begins: the aliases before it
only lead into the circle.  The aliases that are passed are all different and
all in the table, so there are never more of them than the table has cells,
and that number bounds the walk.
-/

/-- Why a chain of aliases reaches no concrete type, and the alias at which
following it stopped. -/
inductive AliasError where
  | cycle (name : String) (stop : TypeId)
  | unresolved (name : String) (stop : TypeId)
  deriving DecidableEq, Repr

namespace AliasError

/-- The name of the alias at which the walk stopped. -/
def name : AliasError → String
  | cycle name _ | unresolved name _ => name

/-- The alias at which the walk stopped. -/
def stop : AliasError → TypeId
  | cycle _ stop | unresolved _ stop => stop

def message : AliasError → String
  | cycle name _ => "alias '" ++ name ++ "' is part of a cycle with no concrete type"
  | unresolved name _ => "alias '" ++ name ++ "' was never resolved"

end AliasError

namespace Types

/-- Walk on from an alias, given the aliases passed before and the number of
further aliases that may still be passed. -/
def follow (types : Types) (steps : Nat) (passed : List TypeId) (id : TypeId) :
    Except AliasError TypeId :=
  match types.get id with
  | .alias name target =>
    if id ∈ passed then .error (.cycle name id)
    else
      match target, steps with
      | none, _ => .error (.unresolved name id)
      | some next, steps + 1 => types.follow steps (id :: passed) next
      | some _, 0 => .error (.cycle name id)
  | _ => .ok id

/-- The type that is no alias at the end of a chain of aliases. -/
def unalias (types : Types) (id : TypeId) : Except AliasError TypeId :=
  types.follow types.size [] id

/-- The type at the end of a chain, where a chain that has no end counts as
the error type.  Broken chains are reported where they are declared, so a use
of one has nothing to add. -/
def representative (types : Types) (id : TypeId) : TypeId :=
  match types.unalias id with
  | .ok concrete => concrete
  | .error _ => .error

/-- Whether what stands behind a number is another name for a type. -/
def isAlias (types : Types) (id : TypeId) : Bool :=
  match types.get id with
  | .alias .. => true
  | _ => false

/-- What is no alias stands for itself. -/
theorem unalias_of_not_isAlias {types : Types} {id : TypeId}
    (concrete : types.isAlias id = false) : types.unalias id = .ok id := by
  unfold unalias follow
  unfold isAlias at concrete
  split
  · simp_all
  · rfl

/-- A walk that arrives does so at a type that is no alias. -/
theorem isAlias_of_follow {types : Types} {steps : Nat} {passed : List TypeId}
    {id concrete : TypeId} (arrives : types.follow steps passed id = .ok concrete) :
    types.isAlias concrete = false := by
  fun_induction follow types steps passed id <;> simp_all [isAlias]

end Types
end StaticSemantics
