import StaticSemantics.Types.Alias

namespace StaticSemantics
namespace Types

/-!
# Which types agree

Every check that compares two types asks one question: are they compatible?
Aliases are followed first.  Then a type agrees with itself, and records and
arrays with nothing else of their kind, since a declaration is an identity of
its own.  There are two exceptions.  `nil` is a value of every record type,
whichever side it stands on.  The error type agrees with everything, because a
type that is unknown was reported already.
-/

/-- The type at the end of a chain of aliases. -/
def concrete (types : Types) (id : TypeId) : Ty :=
  types.get (types.representative id)

/-- Whether two different concrete types agree all the same. -/
def agree : Ty → Ty → Bool
  | .error, _ | _, .error => true
  | .nil, .record _ | .record _, .nil => true
  | _, _ => false

/-- Whether a value of one type may stand where the other is asked for. -/
def compatible (types : Types) (first second : TypeId) : Bool :=
  types.representative first == types.representative second ||
    agree (types.concrete first) (types.concrete second)

/-- Whether a type may stand where an integer is asked for. -/
def isInteger (types : Types) (id : TypeId) : Bool :=
  match types.concrete id with
  | .int | .error => true
  | _ => false

def isNil (types : Types) (id : TypeId) : Bool :=
  types.concrete id == .nil

def isVoid (types : Types) (id : TypeId) : Bool :=
  types.concrete id == .void

def isError (types : Types) (id : TypeId) : Bool :=
  types.concrete id == .error

/-- The fields of a record type. -/
def fieldsOf? (types : Types) (id : TypeId) : Option (List Field) :=
  match types.concrete id with
  | .record fields => some fields
  | _ => none

/-- The type of the elements of an array type. -/
def elementOf? (types : Types) (id : TypeId) : Option TypeId :=
  match types.concrete id with
  | .array element => some element
  | _ => none

theorem agree_comm (first second : Ty) : agree first second = agree second first := by
  cases first <;> cases second <;> rfl

@[simp] theorem compatible_self (types : Types) (id : TypeId) :
    types.compatible id id = true := by
  simp [compatible]

theorem compatible_comm (types : Types) (first second : TypeId) :
    types.compatible first second = types.compatible second first := by
  rw [compatible, compatible, agree_comm, BEq.comm]

end Types
end StaticSemantics
