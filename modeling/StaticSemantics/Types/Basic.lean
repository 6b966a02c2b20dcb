import StaticSemantics.Span

namespace StaticSemantics

/-!
# Types and the table that owns them

Types refer to each other by number, so that a record may hold itself and two
types may hold each other.  All types of a run live in one table.  The number
of a record or an array is its identity: two declarations of equal structure
stay two types.

A type declaration first takes a number with nothing behind it, and is defined
in that place later.  Whatever points at the number sees the definition then,
which is what lets the members of one group refer to each other in any order.
The name and the place of the declaration stay with the number for good; they
are what messages call the type.
-/

/-- The number of a type in its table. -/
structure TypeId where
  number : Nat
  deriving DecidableEq, Repr

namespace TypeId

/-!
The first five numbers are taken from the start.  `error` stands for a type
that could not be found out; it agrees with everything, so that one mistake is
reported once.
-/

def int : TypeId := ⟨0⟩
def string : TypeId := ⟨1⟩
def void : TypeId := ⟨2⟩
def nil : TypeId := ⟨3⟩
def error : TypeId := ⟨4⟩

end TypeId

/-- A field of a record type. -/
structure Field where
  name : String
  type : TypeId
  deriving DecidableEq, Repr

/-- What stands behind a number of the table. -/
inductive Ty where
  | int
  | string
  | void
  | nil
  /-- The fields are in the order of their declaration. -/
  | record (fields : List Field)
  | array (element : TypeId)
  /-- Another name for a type.  The target is missing as long as the group that
  declares the name is not complete. -/
  | alias (name : String) (target : Option TypeId)
  | error
  deriving DecidableEq, Repr

/-- The name and the place of a type declaration. -/
structure TypeSite where
  name : String
  span : Span
  deriving DecidableEq, Repr

/-- One cell of the table: a type, and the declaration that it came from if it
is not a built-in one. -/
structure TypeCell where
  type : Ty
  site : Option TypeSite
  deriving DecidableEq, Repr

/-- The table of all types of a run. -/
structure Types where
  cells : Array TypeCell
  deriving DecidableEq, Repr

namespace Types

/-- The table of the built-in types alone, at their fixed numbers. -/
def basic : Types where
  cells := #[⟨.int, none⟩, ⟨.string, none⟩, ⟨.void, none⟩, ⟨.nil, none⟩, ⟨.error, none⟩]

/-- The number that the next declaration takes. -/
def size (types : Types) : Nat :=
  types.cells.size

/-- Whether a number has been taken. -/
def Holds (types : Types) (id : TypeId) : Prop :=
  id.number < types.size

instance (types : Types) (id : TypeId) : Decidable (types.Holds id) :=
  inferInstanceAs (Decidable (_ < _))

/-- The type behind a number.  A number that has not been taken is read as the
error type, the one type from which nothing follows. -/
def get (types : Types) (id : TypeId) : Ty :=
  match types.cells[id.number]? with
  | some cell => cell.type
  | none => .error

/-- The declaration that took a number. -/
def site? (types : Types) (id : TypeId) : Option TypeSite :=
  types.cells[id.number]?.bind (·.site)

/-- Take the next number for a type that is declared here and defined later.
Until then it is an alias of nothing. -/
def declare (types : Types) (name : String) (span : Span) : TypeId × Types :=
  (⟨types.size⟩, ⟨types.cells.push ⟨.alias name none, some ⟨name, span⟩⟩⟩)

/-- Put a type behind a number that is taken already. -/
def define (types : Types) (id : TypeId) (type : Ty) : Types :=
  ⟨types.cells.modify id.number fun cell => { cell with type := type }⟩

@[simp] theorem size_basic : basic.size = 5 :=
  rfl

@[simp] theorem size_declare (types : Types) (name : String) (span : Span) :
    (types.declare name span).2.size = types.size + 1 := by
  simp [declare, size]

@[simp] theorem size_define (types : Types) (id : TypeId) (type : Ty) :
    (types.define id type).size = types.size := by
  simp [define, size]

theorem get_of_not_holds {types : Types} {id : TypeId} (missing : ¬ types.Holds id) :
    types.get id = .error := by
  have outside : types.cells.size ≤ id.number := Nat.le_of_not_lt missing
  simp [get, Array.getElem?_eq_none outside]

/-- A new declaration changes no type that was there before. -/
theorem get_declare {types : Types} {id : TypeId} (held : types.Holds id)
    (name : String) (span : Span) : (types.declare name span).2.get id = types.get id := by
  have inside : id.number < types.cells.size := held
  have other : id.number ≠ types.cells.size := Nat.ne_of_lt inside
  simp [get, declare, Array.getElem?_push, other]

theorem get_define_self {types : Types} {id : TypeId} (held : types.Holds id) (type : Ty) :
    (types.define id type).get id = type := by
  have inside : id.number < types.cells.size := held
  simp [get, define, Array.getElem?_modify, Array.getElem?_eq_getElem inside]

theorem get_define_of_ne {types : Types} {id other : TypeId} (different : other ≠ id)
    (type : Ty) : (types.define id type).get other = types.get other := by
  have apart : id.number ≠ other.number := fun same =>
    different (by cases id; cases other; simp_all)
  simp [get, define, Array.getElem?_modify, apart]

/-- A definition leaves the name and the place of every declaration alone. -/
@[simp] theorem site?_define (types : Types) (id other : TypeId) (type : Ty) :
    (types.define id type).site? other = types.site? other := by
  simp only [site?, define, Array.getElem?_modify]
  split
  · cases types.cells[other.number]? <;> rfl
  · rfl

end Types
end StaticSemantics
