import StaticSemantics.Span

namespace StaticSemantics

/-!
# Names and type expressions

Types are written as names.  Only the right-hand side of a type declaration
may be more than a name, so type expressions do not nest.
-/

/-- A name at a place in the program. -/
structure Ident where
  name : String
  span : Span
  deriving DecidableEq, Repr

/-- A name with its type: a parameter, or a field of a record type. -/
structure TypedName where
  name : Ident
  type : Ident
  span : Span
  deriving DecidableEq, Repr

/-- The right-hand side of a type declaration. -/
inductive TypeExpression where
  /-- Another name for a type. -/
  | name (target : Ident) (span : Span)
  | record (fields : List TypedName) (span : Span)
  | array (element : Ident) (span : Span)
  deriving DecidableEq, Repr

/-- A declaration of a type. -/
structure TypeDeclaration where
  name : Ident
  body : TypeExpression
  span : Span
  deriving DecidableEq, Repr

end StaticSemantics
