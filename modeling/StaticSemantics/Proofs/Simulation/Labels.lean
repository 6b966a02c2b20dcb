import StaticSemantics.Proofs.TypeGroup
import StaticSemantics.Tree.Expression

namespace StaticSemantics

/-!
# Names and places in a tree

A tree carries names and places.  Both can be changed throughout: names by a map
that keeps different names different, places by any map at all.  What is left of
the tree is the same.

The names of a tree are all names that occur anywhere in it, those of fields and
those that it binds included.
-/

/-- A change of all names and places. -/
structure Relabeling where
  name : String → String
  span : Span → Span
  /-- Different names stay different. -/
  injective : ∀ {first second : String}, name first = name second → first = second

namespace Relabeling

/-- All names and places stay as they are. -/
def none : Relabeling :=
  ⟨id, id, id⟩

end Relabeling

def Ident.relabel (relabeling : Relabeling) (ident : Ident) : Ident :=
  ⟨relabeling.name ident.name, relabeling.span ident.span⟩

def TypedName.relabel (relabeling : Relabeling) (typed : TypedName) : TypedName :=
  ⟨typed.name.relabel relabeling, typed.type.relabel relabeling, relabeling.span typed.span⟩

def TypeExpression.relabel (relabeling : Relabeling) : TypeExpression → TypeExpression
  | name target span => .name (target.relabel relabeling) (relabeling.span span)
  | record fields span => .record (fields.map (·.relabel relabeling)) (relabeling.span span)
  | array element span => .array (element.relabel relabeling) (relabeling.span span)

def TypeDeclaration.relabel (relabeling : Relabeling) (member : TypeDeclaration) :
    TypeDeclaration :=
  ⟨member.name.relabel relabeling, member.body.relabel relabeling, relabeling.span member.span⟩

section Relabel

variable (relabeling : Relabeling)

mutual

/-- A place with other names, and elsewhere. -/
def Place.relabel : Place → Place
  | .name name span => .name (name.relabel relabeling) (relabeling.span span)
  | .field base field span =>
    .field base.relabel (field.relabel relabeling) (relabeling.span span)
  | .element base index span => .element base.relabel index.relabel (relabeling.span span)
termination_by structural place => place

/-- An expression with other names, and elsewhere. -/
def Expression.relabel : Expression → Expression
  | .nil span => .nil (relabeling.span span)
  | .integer value span => .integer value (relabeling.span span)
  | .string value span => .string value (relabeling.span span)
  | .place place span => .place place.relabel (relabeling.span span)
  | .call function arguments span =>
    .call (function.relabel relabeling) (Expression.relabelAll arguments) (relabeling.span span)
  | .binary operator left right span =>
    .binary operator left.relabel right.relabel (relabeling.span span)
  | .record type fields span =>
    .record (type.relabel relabeling) (Initializer.relabelAll fields) (relabeling.span span)
  | .array type size initial span =>
    .array (type.relabel relabeling) size.relabel initial.relabel (relabeling.span span)
  | .sequence members span => .sequence (Expression.relabelAll members) (relabeling.span span)
  | .assign target value span => .assign target.relabel value.relabel (relabeling.span span)
  | .ifThen test body span => .ifThen test.relabel body.relabel (relabeling.span span)
  | .ifThenElse test positive negative span =>
    .ifThenElse test.relabel positive.relabel negative.relabel (relabeling.span span)
  | .whileLoop test body span => .whileLoop test.relabel body.relabel (relabeling.span span)
  | .forLoop counter low high body span =>
    .forLoop (counter.relabel relabeling) low.relabel high.relabel body.relabel
      (relabeling.span span)
  | .breakLoop span => .breakLoop (relabeling.span span)
  | .block declarations body span =>
    .block (Declaration.relabelAll declarations) body.relabel (relabeling.span span)
  | .malformed span => .malformed (relabeling.span span)
termination_by structural expression => expression

def Expression.relabelAll : List Expression → List Expression
  | [] => []
  | expression :: rest => expression.relabel :: Expression.relabelAll rest
termination_by structural expressions => expressions

def Initializer.relabelAll : List Initializer → List Initializer
  | [] => []
  | ⟨name, value, span⟩ :: rest =>
    ⟨name.relabel relabeling, value.relabel, relabeling.span span⟩ :: Initializer.relabelAll rest
termination_by structural initializers => initializers

/-- A declaration with other names, and elsewhere. -/
def Declaration.relabel : Declaration → Declaration
  | .variable name ascribed initial span =>
    .variable (name.relabel relabeling) (ascribed.map (·.relabel relabeling)) initial.relabel
      (relabeling.span span)
  | .functions members span =>
    .functions (FunctionDeclaration.relabelAll members) (relabeling.span span)
  | .types members span => .types (members.map (·.relabel relabeling)) (relabeling.span span)
termination_by structural declaration => declaration

def Declaration.relabelAll : List Declaration → List Declaration
  | [] => []
  | declaration :: rest => declaration.relabel :: Declaration.relabelAll rest
termination_by structural declarations => declarations

def FunctionDeclaration.relabelAll : List FunctionDeclaration → List FunctionDeclaration
  | [] => []
  | ⟨name, parameters, result, body, span⟩ :: rest =>
    ⟨name.relabel relabeling, parameters.map (·.relabel relabeling),
      result.map (·.relabel relabeling), body.relabel, relabeling.span span⟩ ::
        FunctionDeclaration.relabelAll rest
termination_by structural members => members

end

theorem Place.span_relabel (place : Place) :
    (place.relabel relabeling).span = relabeling.span place.span := by
  cases place <;> rfl

theorem Expression.span_relabel (expression : Expression) :
    (expression.relabel relabeling).span = relabeling.span expression.span := by
  cases expression <;> rfl

theorem Expression.length_relabelAll (expressions : List Expression) :
    (Expression.relabelAll relabeling expressions).length = expressions.length := by
  induction expressions with
  | nil => rfl
  | cons expression rest inductionHypothesis =>
      rw [relabelAll, List.length_cons, List.length_cons, inductionHypothesis]

theorem Initializer.length_relabelAll (initializers : List Initializer) :
    (Initializer.relabelAll relabeling initializers).length = initializers.length := by
  induction initializers with
  | nil => rfl
  | cons initializer rest inductionHypothesis =>
      obtain ⟨name, value, span⟩ := initializer
      rw [relabelAll, List.length_cons, List.length_cons, inductionHypothesis]

theorem TypeExpression.used_relabel (body : TypeExpression) :
    (body.relabel relabeling).used = body.used.map (·.relabel relabeling) := by
  cases body with
  | record fields span => simp [relabel, used, TypedName.relabel, Function.comp_def]
  | _ => rfl

end Relabel

/-!
## Nothing is changed
-/

@[simp] theorem Ident.relabel_none (ident : Ident) : ident.relabel .none = ident :=
  rfl

theorem map_relabel_none (names : List TypedName) :
    names.map (·.relabel .none) = names :=
  List.map_id names

theorem TypeExpression.relabel_none (body : TypeExpression) : body.relabel .none = body := by
  cases body with
  | record fields span =>
      rw [relabel, map_relabel_none]
      rfl
  | _ => rfl

theorem TypeDeclaration.relabel_none (member : TypeDeclaration) :
    member.relabel .none = member := by
  rw [relabel, TypeExpression.relabel_none, Ident.relabel_none]
  rfl

mutual

theorem Place.relabel_none (place : Place) : place.relabel .none = place := by
  cases place with
  | name name span => rfl
  | field base field span =>
      rw [Place.relabel, Place.relabel_none base]
      rfl
  | element base index span =>
      rw [Place.relabel, Place.relabel_none base, Expression.relabel_none index]
      rfl
termination_by structural place

theorem Expression.relabel_none (expression : Expression) :
    expression.relabel .none = expression := by
  cases expression with
  | nil | integer | string | breakLoop | malformed => rfl
  | place place span =>
      rw [Expression.relabel, Place.relabel_none place]
      rfl
  | call function arguments span =>
      rw [Expression.relabel, Expression.relabelAll_none arguments]
      rfl
  | binary operator left right span =>
      rw [Expression.relabel, Expression.relabel_none left, Expression.relabel_none right]
      rfl
  | record type fields span =>
      rw [Expression.relabel, Initializer.relabelAll_none fields]
      rfl
  | array type size initial span =>
      rw [Expression.relabel, Expression.relabel_none size, Expression.relabel_none initial]
      rfl
  | sequence members span =>
      rw [Expression.relabel, Expression.relabelAll_none members]
      rfl
  | assign target value span =>
      rw [Expression.relabel, Place.relabel_none target, Expression.relabel_none value]
      rfl
  | ifThen test body span | whileLoop test body span =>
      rw [Expression.relabel, Expression.relabel_none test, Expression.relabel_none body]
      rfl
  | ifThenElse test positive negative span =>
      rw [Expression.relabel, Expression.relabel_none test, Expression.relabel_none positive,
        Expression.relabel_none negative]
      rfl
  | forLoop counter low high body span =>
      rw [Expression.relabel, Expression.relabel_none low, Expression.relabel_none high,
        Expression.relabel_none body]
      rfl
  | block declarations body span =>
      rw [Expression.relabel, Declaration.relabelAll_none declarations,
        Expression.relabel_none body]
      rfl
termination_by structural expression

theorem Expression.relabelAll_none (expressions : List Expression) :
    Expression.relabelAll .none expressions = expressions := by
  cases expressions with
  | nil => rfl
  | cons expression rest =>
      rw [Expression.relabelAll, Expression.relabel_none expression,
        Expression.relabelAll_none rest]
termination_by structural expressions

theorem Initializer.relabelAll_none (initializers : List Initializer) :
    Initializer.relabelAll .none initializers = initializers := by
  match initializers with
  | [] => rfl
  | ⟨name, value, span⟩ :: rest =>
      rw [Initializer.relabelAll, Expression.relabel_none value, Initializer.relabelAll_none rest]
      rfl
termination_by structural initializers

theorem Declaration.relabel_none (declaration : Declaration) :
    declaration.relabel .none = declaration := by
  match declaration with
  | .variable name ascribed initial span =>
      rw [Declaration.relabel, Expression.relabel_none initial]
      cases ascribed <;> rfl
  | .functions members span =>
      rw [Declaration.relabel, FunctionDeclaration.relabelAll_none members]
      rfl
  | .types members span =>
      rw [Declaration.relabel, funext TypeDeclaration.relabel_none, List.map_id']
      rfl
termination_by structural declaration

theorem Declaration.relabelAll_none (declarations : List Declaration) :
    Declaration.relabelAll .none declarations = declarations := by
  cases declarations with
  | nil => rfl
  | cons declaration rest =>
      rw [Declaration.relabelAll, Declaration.relabel_none declaration,
        Declaration.relabelAll_none rest]
termination_by structural declarations

theorem FunctionDeclaration.relabelAll_none (members : List FunctionDeclaration) :
    FunctionDeclaration.relabelAll .none members = members := by
  match members with
  | [] => rfl
  | ⟨name, parameters, result, body, span⟩ :: rest =>
      rw [FunctionDeclaration.relabelAll, Expression.relabel_none body,
        FunctionDeclaration.relabelAll_none rest, map_relabel_none]
      cases result <;> rfl
termination_by structural members

end

/-!
## The names of a tree
-/

def TypedName.names (typed : TypedName) : List String :=
  [typed.name.name, typed.type.name]

def TypeExpression.names : TypeExpression → List String
  | name target _ => [target.name]
  | record fields _ => fields.flatMap (·.names)
  | array element _ => [element.name]

def TypeDeclaration.names (member : TypeDeclaration) : List String :=
  member.name.name :: member.body.names

/-- The names that a type expression uses are among its names. -/
theorem TypeExpression.mem_names_of_mem_used {body : TypeExpression} {name : Ident}
    (used : name ∈ body.used) : name.name ∈ body.names := by
  cases body with
  | record fields span =>
      rcases List.mem_map.mp used with ⟨field, listed, rfl⟩
      exact List.mem_flatMap.mpr ⟨field, listed, by simp [TypedName.names]⟩
  | _ => exact List.mem_map_of_mem used

mutual

/-- All names in a place. -/
def Place.names : Place → List String
  | .name name _ => [name.name]
  | .field base field _ => field.name :: base.names
  | .element base index _ => base.names ++ index.names
termination_by structural place => place

/-- All names in an expression, those that it binds and those of fields included. -/
def Expression.names : Expression → List String
  | .nil _ | .integer _ _ | .string _ _ | .breakLoop _ | .malformed _ => []
  | .place place _ => place.names
  | .call function arguments _ => function.name :: Expression.allNames arguments
  | .binary _ left right _ => left.names ++ right.names
  | .record type fields _ => type.name :: Initializer.allNames fields
  | .array type size initial _ => type.name :: (size.names ++ initial.names)
  | .sequence members _ => Expression.allNames members
  | .assign target value _ => target.names ++ value.names
  | .ifThen test body _ | .whileLoop test body _ => test.names ++ body.names
  | .ifThenElse test positive negative _ => test.names ++ (positive.names ++ negative.names)
  | .forLoop counter low high body _ =>
    counter.name :: (low.names ++ (high.names ++ body.names))
  | .block declarations body _ => Declaration.allNames declarations ++ body.names
termination_by structural expression => expression

def Expression.allNames : List Expression → List String
  | [] => []
  | expression :: rest => expression.names ++ Expression.allNames rest
termination_by structural expressions => expressions

def Initializer.allNames : List Initializer → List String
  | [] => []
  | ⟨name, value, _⟩ :: rest => name.name :: (value.names ++ Initializer.allNames rest)
termination_by structural initializers => initializers

/-- All names in a declaration. -/
def Declaration.names : Declaration → List String
  | .variable name ascribed initial _ =>
    name.name :: (ascribed.toList.map (·.name) ++ initial.names)
  | .functions members _ => FunctionDeclaration.allNames members
  | .types members _ => members.flatMap (·.names)
termination_by structural declaration => declaration

def Declaration.allNames : List Declaration → List String
  | [] => []
  | declaration :: rest => declaration.names ++ Declaration.allNames rest
termination_by structural declarations => declarations

def FunctionDeclaration.allNames : List FunctionDeclaration → List String
  | [] => []
  | ⟨name, parameters, result, body, _⟩ :: rest =>
    name.name :: (parameters.flatMap (·.names) ++ (result.toList.map (·.name) ++
      (body.names ++ FunctionDeclaration.allNames rest)))
termination_by structural members => members

end

end StaticSemantics
