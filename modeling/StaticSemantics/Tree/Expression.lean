import StaticSemantics.Tree.Operator
import StaticSemantics.Tree.TypeExpression

namespace StaticSemantics

/-!
# Programs

A program is one expression.  Every node knows the stretch of source text that
it covers.  Lists keep the order of the source: the declarations of a block
are made one after another.

Adjacent declarations of functions form one group, and so do adjacent
declarations of types.  The members of a group may refer to each other in any
order.
-/

mutual

/-- Something that holds a value and can be assigned to. -/
inductive Place where
  | name (name : Ident) (span : Span)
  | field (base : Place) (field : Ident) (span : Span)
  | element (base : Place) (index : Expression) (span : Span)

inductive Expression where
  | nil (span : Span)
  | integer (value : Int64) (span : Span)
  | string (value : String) (span : Span)
  /-- The value that a place holds. -/
  | place (place : Place) (span : Span)
  | call (function : Ident) (arguments : List Expression) (span : Span)
  | binary (operator : Operator) (left right : Expression) (span : Span)
  | record (type : Ident) (fields : List Initializer) (span : Span)
  | array (type : Ident) (size initial : Expression) (span : Span)
  /-- The value of a sequence is the value of its last member. -/
  | sequence (members : List Expression) (span : Span)
  | assign (target : Place) (value : Expression) (span : Span)
  | ifThen (test body : Expression) (span : Span)
  | ifThenElse (test positive negative : Expression) (span : Span)
  | whileLoop (test body : Expression) (span : Span)
  | forLoop (counter : Ident) (low high body : Expression) (span : Span)
  | breakLoop (span : Span)
  | block (declarations : List Declaration) (body : Expression) (span : Span)
  /-- Source text that could not be parsed. -/
  | malformed (span : Span)

/-- The initial value of a field where a record is made. -/
structure Initializer where
  name : Ident
  value : Expression
  span : Span

inductive Declaration where
  | variable (name : Ident) (ascribed : Option Ident) (initial : Expression) (span : Span)
  /-- A group of functions. -/
  | functions (members : List FunctionDeclaration) (span : Span)
  /-- A group of types. -/
  | types (members : List TypeDeclaration) (span : Span)

structure FunctionDeclaration where
  name : Ident
  parameters : List TypedName
  /-- A function without a result type gives no value. -/
  result : Option Ident
  body : Expression
  span : Span

end

namespace Place

/-- The source text of a place. -/
def span : Place → Span
  | name _ span | field _ _ span | element _ _ span => span

end Place

namespace Expression

/-- The source text of an expression. -/
def span : Expression → Span
  | nil span | integer _ span | string _ span | place _ span | call _ _ span
  | binary _ _ _ span | record _ _ span | array _ _ _ span | sequence _ span
  | assign _ _ span | ifThen _ _ span | ifThenElse _ _ _ span | whileLoop _ _ span
  | forLoop _ _ _ _ span | breakLoop span | block _ _ span | malformed span => span

end Expression
end StaticSemantics
