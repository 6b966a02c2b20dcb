import Mathlib.Data.List.Forall2
import StaticSemantics.Check.Run
import StaticSemantics.Proofs.TypeGroup
import StaticSemantics.Tree.Expression

namespace StaticSemantics

/-!
# The typing rules

These rules say which trees are well typed, and say nothing about how to find
that out.  There is no error type in them and no going on after a mistake: a
tree to which no rule applies has no type.

A judgement speaks of a table of types and a scope.  The declarations inside a
tree add types to the table, so a judgement also names the table that the tree
leaves behind.  What is said about types in the middle of a rule is said in the
table of that moment.
-/

/-- The types of a function. -/
structure Signature where
  parameters : List TypeId
  result : TypeId
  deriving DecidableEq, Repr

/-- What the name of a value stands for, as far as types go. -/
inductive Meaning where
  | variable (type : TypeId)
  | function (signature : Signature)
  deriving DecidableEq, Repr

/-- What names stand for.  Handles and marks are no part of it. -/
@[ext] structure Scope where
  types : String → Option TypeId
  values : String → Option Meaning

namespace Scope

def bindType (scope : Scope) (name : String) (id : TypeId) : Scope :=
  { scope with types := fun sought => if name = sought then some id else scope.types sought }

def bindValue (scope : Scope) (name : String) (meaning : Meaning) : Scope :=
  { scope with
    values := fun sought => if name = sought then some meaning else scope.values sought }

/-- The names of a group of types are bound to the numbers from `first` on. -/
def bindGroup (scope : Scope) (first : Nat) : List TypeDeclaration → Scope
  | [] => scope
  | member :: rest => (scope.bindType member.name.name ⟨first⟩).bindGroup (first + 1) rest

def bindParameters (scope : Scope) : List TypedName → List TypeId → Scope
  | parameter :: rest, type :: types =>
    (scope.bindValue parameter.name.name (.variable type)).bindParameters rest types
  | _, _ => scope

def bindFunctions (scope : Scope) : List FunctionDeclaration → List Signature → Scope
  | member :: rest, signature :: signatures =>
    (scope.bindValue member.name.name (.function signature)).bindFunctions rest signatures
  | _, _ => scope

end Scope

namespace Types

variable (types : Types)

/-- A name for the integers. -/
def IsInteger (id : TypeId) : Prop :=
  types.StandsFor id .int

def IsRecord (id record : TypeId) (fields : List Field) : Prop :=
  types.StandsFor id record ∧ types.get record = .record fields

def IsArray (id array element : TypeId) : Prop :=
  types.StandsFor id array ∧ types.get array = .array element

/-- Two types match if they stand for the same type, or one of them for a
record type and the other for the type of `nil`. -/
inductive Matches (first second : TypeId) : Prop
  | same {concrete : TypeId} (one : types.StandsFor first concrete)
      (other : types.StandsFor second concrete)
  | nilFirst {nil record : TypeId} {fields : List Field} (one : types.StandsFor first nil)
      (isNil : types.get nil = .nil) (other : types.IsRecord second record fields)
  | nilSecond {nil record : TypeId} {fields : List Field}
      (one : types.IsRecord first record fields) (other : types.StandsFor second nil)
      (isNil : types.get nil = .nil)

/-- The type of a choice is that of the first branch, or that of the second one
where the first is `nil`. -/
inductive Joins (positive negative : TypeId) : TypeId → Prop
  | positive {concrete : TypeId} (stands : types.StandsFor positive concrete)
      (notNil : types.get concrete ≠ .nil) : Joins positive negative positive
  | negative {concrete : TypeId} (stands : types.StandsFor positive concrete)
      (isNil : types.get concrete = .nil) : Joins positive negative negative

/-- A type that a variable can have without an annotation. -/
def IsStorable (id : TypeId) : Prop :=
  ∃ concrete, types.StandsFor id concrete ∧ types.get concrete ≠ .nil ∧
    types.get concrete ≠ .void

end Types

/-- What the right-hand side of the declaration of a type stands for. -/
inductive TypeExpression.Means (scope : Scope) (declared : String) : TypeExpression → Ty → Prop
  | name {target : Ident} {span : Span} {id : TypeId} (known : scope.types target.name = some id) :
      Means scope declared (.name target span) (.alias declared (some id))
  | record {written : List TypedName} {span : Span} {fields : List Field}
      (known : written.Forall₂
        (fun field meant => meant.name = field.name.name ∧
          scope.types field.type.name = some meant.type) fields) :
      Means scope declared (.record written span) (.record fields)
  | array {element : Ident} {span : Span} {id : TypeId}
      (known : scope.types element.name = some id) :
      Means scope declared (.array element span) (.array id)

/-- The cell that a member of a group takes in the table. -/
def TypeDeclaration.Fills (scope : Scope) (member : TypeDeclaration) (cell : TypeCell) : Prop :=
  member.body.Means scope member.name.name cell.type ∧
    cell.site = some ⟨member.name.name, member.span⟩

/-- The types that the heading of a function names. -/
structure FunctionDeclaration.HasSignature (scope : Scope) (member : FunctionDeclaration)
    (signature : Signature) : Prop where
  parameters : member.parameters.Forall₂
    (fun parameter type => scope.types parameter.type.name = some type) signature.parameters
  /-- A function without a result type gives no value. -/
  result : match member.result with
    | some name => scope.types name.name = some signature.result
    | none => signature.result = .void

mutual

/-- A place holds values of a type. -/
inductive PlaceTyped : Types → Scope → Place → TypeId → Types → Prop
  | name {types : Types} {scope : Scope} {name : Ident} {span : Span} {type : TypeId}
      (bound : scope.values name.name = some (.variable type)) :
      PlaceTyped types scope (.name name span) type types
  | field {types later : Types} {scope : Scope} {base : Place} {field : Ident} {span : Span}
      {baseType record : TypeId} {fields : List Field} {selected : Field}
      (typed : PlaceTyped types scope base baseType later)
      (isRecord : later.IsRecord baseType record fields)
      (first : fields.find? (·.name == field.name) = some selected) :
      PlaceTyped types scope (.field base field span) selected.type later
  | element {types next later : Types} {scope : Scope} {base : Place} {index : Expression}
      {span : Span} {baseType indexType array element : TypeId}
      (typed : PlaceTyped types scope base baseType next)
      (indexTyped : Typed next scope index indexType later)
      (isInteger : later.IsInteger indexType)
      (isArray : later.IsArray baseType array element) :
      PlaceTyped types scope (.element base index span) element later

/-- An expression has a type. -/
inductive Typed : Types → Scope → Expression → TypeId → Types → Prop
  | nil {types : Types} {scope : Scope} {span : Span} : Typed types scope (.nil span) .nil types
  | integer {types : Types} {scope : Scope} {value : Int64} {span : Span} :
      Typed types scope (.integer value span) .int types
  | string {types : Types} {scope : Scope} {value : String} {span : Span} :
      Typed types scope (.string value span) .string types
  | place {types later : Types} {scope : Scope} {place : Place} {span : Span} {type : TypeId}
      (typed : PlaceTyped types scope place type later) :
      Typed types scope (.place place span) type later
  | call {types later : Types} {scope : Scope} {function : Ident} {arguments : List Expression}
      {span : Span} {signature : Signature}
      (bound : scope.values function.name = some (.function signature))
      (typed : ListTyped types scope arguments signature.parameters later) :
      Typed types scope (.call function arguments span) signature.result later
  | arithmetic {types next later : Types} {scope : Scope} {operator : Operator}
      {left right : Expression} {span : Span} {leftType rightType : TypeId}
      (isArithmetic : operator.isArithmetic = true)
      (leftTyped : Typed types scope left leftType next)
      (rightTyped : Typed next scope right rightType later)
      (leftInteger : later.IsInteger leftType) (rightInteger : later.IsInteger rightType) :
      Typed types scope (.binary operator left right span) .int later
  | comparison {types next later : Types} {scope : Scope} {operator : Operator}
      {left right : Expression} {span : Span} {leftType rightType : TypeId}
      (notArithmetic : operator.isArithmetic = false)
      (leftTyped : Typed types scope left leftType next)
      (rightTyped : Typed next scope right rightType later)
      (agree : later.Matches leftType rightType) :
      Typed types scope (.binary operator left right span) .int later
  | record {types later : Types} {scope : Scope} {type : Ident} {initializers : List Initializer}
      {span : Span} {declared record : TypeId} {fields : List Field}
      (known : scope.types type.name = some declared)
      (isRecord : types.IsRecord declared record fields)
      (typed : ListTyped types scope (initializers.map (·.value)) (fields.map (·.type)) later) :
      Typed types scope (.record type initializers span) record later
  | array {types next later : Types} {scope : Scope} {type : Ident} {size initial : Expression}
      {span : Span} {sizeType initialType declared array element : TypeId}
      (sizeTyped : Typed types scope size sizeType next)
      (isInteger : next.IsInteger sizeType)
      (initialTyped : Typed next scope initial initialType later)
      (known : scope.types type.name = some declared)
      (isArray : later.IsArray declared array element)
      (agree : later.Matches element initialType) :
      Typed types scope (.array type size initial span) array later
  | sequence {types later : Types} {scope : Scope} {members : List Expression} {span : Span}
      {type : TypeId} (typed : SequenceTyped types scope members .void type later) :
      Typed types scope (.sequence members span) type later
  | assign {types next later : Types} {scope : Scope} {target : Place} {value : Expression}
      {span : Span} {targetType valueType : TypeId}
      (targetTyped : PlaceTyped types scope target targetType next)
      (valueTyped : Typed next scope value valueType later)
      (agree : later.Matches targetType valueType) :
      Typed types scope (.assign target value span) .void later
  | ifThen {types next later : Types} {scope : Scope} {test body : Expression} {span : Span}
      {testType bodyType : TypeId} (testTyped : Typed types scope test testType next)
      (isInteger : next.IsInteger testType) (bodyTyped : Typed next scope body bodyType later) :
      Typed types scope (.ifThen test body span) .void later
  | ifThenElse {types next after later : Types} {scope : Scope}
      {test positive negative : Expression} {span : Span}
      {testType positiveType negativeType type : TypeId}
      (testTyped : Typed types scope test testType next)
      (isInteger : next.IsInteger testType)
      (positiveTyped : Typed next scope positive positiveType after)
      (negativeTyped : Typed after scope negative negativeType later)
      (agree : later.Matches positiveType negativeType)
      (joins : later.Joins positiveType negativeType type) :
      Typed types scope (.ifThenElse test positive negative span) type later
  | whileLoop {types next later : Types} {scope : Scope} {test body : Expression} {span : Span}
      {testType bodyType : TypeId} (testTyped : Typed types scope test testType next)
      (isInteger : next.IsInteger testType) (bodyTyped : Typed next scope body bodyType later) :
      Typed types scope (.whileLoop test body span) .void later
  | forLoop {types next after later : Types} {scope : Scope} {counter : Ident}
      {low high body : Expression} {span : Span} {lowType highType bodyType : TypeId}
      (lowTyped : Typed types scope low lowType next)
      (lowInteger : next.IsInteger lowType)
      (highTyped : Typed next scope high highType after)
      (highInteger : after.IsInteger highType)
      (bodyTyped : Typed after (scope.bindValue counter.name (.variable .int)) body bodyType
        later) :
      Typed types scope (.forLoop counter low high body span) .void later
  | breakLoop {types : Types} {scope : Scope} {span : Span} :
      Typed types scope (.breakLoop span) .void types
  | block {types next later : Types} {scope inner : Scope} {declarations : List Declaration}
      {body : Expression} {span : Span} {type : TypeId}
      (declared : AllDeclared types scope declarations next inner)
      (typed : Typed next inner body type later) :
      Typed types scope (.block declarations body span) type later

/-- The members of a list match the types that are expected of them, one by one. -/
inductive ListTyped : Types → Scope → List Expression → List TypeId → Types → Prop
  | nil {types : Types} {scope : Scope} : ListTyped types scope [] [] types
  | cons {types next later : Types} {scope : Scope} {first : Expression} {rest : List Expression}
      {expected type : TypeId} {others : List TypeId}
      (typed : Typed types scope first type next) (agree : next.Matches expected type)
      (restTyped : ListTyped next scope rest others later) :
      ListTyped types scope (first :: rest) (expected :: others) later

/-- The last member of a list has a type, which is given where there is none. -/
inductive SequenceTyped : Types → Scope → List Expression → TypeId → TypeId → Types → Prop
  | nil {types : Types} {scope : Scope} {last : TypeId} :
      SequenceTyped types scope [] last last types
  | cons {types next later : Types} {scope : Scope} {member : Expression}
      {rest : List Expression} {before type last : TypeId}
      (typed : Typed types scope member type next)
      (restTyped : SequenceTyped next scope rest type last later) :
      SequenceTyped types scope (member :: rest) before last later

/-- A declaration adds types to the table and names to the scope. -/
inductive Declared : Types → Scope → Declaration → Types → Scope → Prop
  | variable {types later : Types} {scope : Scope} {name : Ident} {initial : Expression}
      {span : Span} {type : TypeId} (typed : Typed types scope initial type later)
      (storable : later.IsStorable type) :
      Declared types scope (.variable name none initial span) later
        (scope.bindValue name.name (.variable type))
  | ascribed {types later : Types} {scope : Scope} {name ascribed : Ident}
      {initial : Expression} {span : Span} {type declared : TypeId}
      (typed : Typed types scope initial type later)
      (known : scope.types ascribed.name = some declared)
      (agree : later.Matches declared type) :
      Declared types scope (.variable name (some ascribed) initial span) later
        (scope.bindValue name.name (.variable declared))
  | functions {types later : Types} {scope : Scope} {members : List FunctionDeclaration}
      {span : Span} {signatures : List Signature}
      (headings : members.Forall₂ (·.HasSignature scope) signatures)
      (bodies : BodiesTyped types (scope.bindFunctions members signatures) members signatures
        later) :
      Declared types scope (.functions members span) later
        (scope.bindFunctions members signatures)
  | types {types : Types} {scope : Scope} {members : List TypeDeclaration} {span : Span}
      {cells : List TypeCell}
      (filled : members.Forall₂ (·.Fills (scope.bindGroup types.size members)) cells)
      (grounded : ∀ id ∈ groupIds types.size members,
        ∃ concrete, (types.extend cells).StandsFor id concrete) :
      Declared types scope (.types members span) (types.extend cells)
        (scope.bindGroup types.size members)

/-- Declarations are made one after another. -/
inductive AllDeclared : Types → Scope → List Declaration → Types → Scope → Prop
  | nil {types : Types} {scope : Scope} : AllDeclared types scope [] types scope
  | cons {types next later : Types} {scope middle last : Scope} {declaration : Declaration}
      {rest : List Declaration} (declared : Declared types scope declaration next middle)
      (restDeclared : AllDeclared next middle rest later last) :
      AllDeclared types scope (declaration :: rest) later last

/-- The bodies of functions match the results of their signatures. -/
inductive BodiesTyped : Types → Scope → List FunctionDeclaration → List Signature → Types → Prop
  | nil {types : Types} {scope : Scope} : BodiesTyped types scope [] [] types
  | cons {types next later : Types} {scope : Scope} {name : Ident} {parameters : List TypedName}
      {result : Option Ident} {body : Expression} {span : Span}
      {rest : List FunctionDeclaration} {signature : Signature} {signatures : List Signature}
      {type : TypeId}
      (typed : Typed types (scope.bindParameters parameters signature.parameters) body type next)
      (agree : next.Matches signature.result type)
      (restTyped : BodiesTyped next scope rest signatures later) :
      BodiesTyped types scope (⟨name, parameters, result, body, span⟩ :: rest)
        (signature :: signatures) later

end

end StaticSemantics
