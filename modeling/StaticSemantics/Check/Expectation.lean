import StaticSemantics.Check.Run
import StaticSemantics.Scope.Lookup
import StaticSemantics.Tree.Operator
import StaticSemantics.Tree.TypeExpression
import StaticSemantics.Types.Compatibility
import StaticSemantics.Types.Description

namespace StaticSemantics
namespace Check

/-!
# Expectations

Most rules come down to a few expectations: a name stands for a type, a type
is that of an integer, two types agree.  An expectation that fails is reported
where it fails, and the check goes on.

What a failed rule yields is the error type in all cases but one.  An unknown
variable counts as an integer.
-/

/-- Two types have to agree.  The name tells what the disagreement is about. -/
def expectCompatible (expected found : TypeId) (span : Span) (name : Option String) :
    Check Unit := do
  let types ← types
  if types.compatible expected found then pure ()
  else
    let (expected, found) := types.describeApart expected found
    report span (.typeMismatch expected found name)

/-- A type has to be that of an integer. -/
def expectInteger (found : TypeId) (span : Span) (name : Option String) : Check Unit := do
  if (← types).isInteger found then pure ()
  else expectCompatible .int found span name

/-- A value of some type stands where something else is needed. -/
def reportKind (expected : String) (found : TypeId) (span : Span) : Check Unit := do
  report span (.wrongKind expected ((← types).describe found))

/-- A declared type is of another sort than the one that is needed.  If it is
unknown, that was reported where it is declared. -/
def reportSort (expected : String) (declared : TypeId) (span : Span) : Check Unit := do
  if (← types).isError declared then pure ()
  else reportKind expected declared span

/-- The type that a name stands for, if it stands for one.  That it does not
is reported. -/
def typeNamed? (name : Ident) : Check (Option TypeId) := do
  match (← state).typeNames.lookUpType name.name with
  | .ok id => pure (some id)
  | .error error =>
    report name.span (error.problem "type")
    pure none

/-- The type that a name stands for.  One that stands for no type is reported
and counts as the error type. -/
def typeNamed (name : Ident) : Check TypeId := do
  pure ((← typeNamed? name).getD .error)

/-- The variable that a name stands for, by its type. -/
def variableNamed (name : Ident) : Check TypeId := do
  match (← state).valueNames.lookUpVariable name.name with
  | .ok entry => pure entry.type
  | .error error =>
    report name.span (error.problem "variable")
    pure .int

/-- The function that a name stands for, if it stands for one.  That it does
not is reported. -/
def functionNamed? (name : Ident) : Check (Option FunctionEntry) := do
  match (← state).valueNames.lookUpFunction name.name with
  | .ok entry => pure (some entry)
  | .error error =>
    report name.span (error.problem "function")
    pure none

/-- The type of a field of a value.  A value of the error type has all fields,
and they are of the error type. -/
def selectField (base : TypeId) (baseSpan : Span) (field : Ident) : Check TypeId := do
  let types ← types
  if types.isError base then pure .error
  else
    match types.fieldsOf? base with
    | none =>
      reportKind "a record" base baseSpan
      pure .error
    | some fields =>
      match fields.find? (·.name == field.name) with
      | some found => pure found.type
      | none =>
        report field.span (.undefined "field" field.name)
        pure .error

/-- The type of an element of a value. -/
def selectElement (base : TypeId) (baseSpan : Span) : Check TypeId := do
  let types ← types
  if types.isError base then pure .error
  else
    match types.elementOf? base with
    | none =>
      reportKind "an array" base baseSpan
      pure .error
    | some element => pure element

/-- What is expected of the members of a list, one after another. -/
abbrev Expectations : Type :=
  List (TypeId × String)

/-- The first expectation of a list applies to a type that is found.  Where
nothing is expected any more, anything will do. -/
def expectNext (expected : Expectations) (found : TypeId) (span : Span) : Check Unit :=
  match expected with
  | [] => pure ()
  | (type, name) :: _ => expectCompatible type found span (some name)

/-- What a call of a function expects of its arguments, and the type of its
value.  Nothing is expected of the arguments of an unknown function, or of a
wrong number of arguments. -/
def expectCall (function : Ident) (arguments : Nat) (span : Span) :
    Check (Expectations × TypeId) := do
  match ← functionNamed? function with
  | none => pure ([], .error)
  | some entry =>
    if entry.parameters.length = arguments then
      pure (entry.parameters.map fun type => (type, function.name), entry.result)
    else
      report span (.wrongCount "arguments" entry.parameters.length arguments)
      pure ([], entry.result)

/-- What the making of a record expects of its fields, and the type of the
record.  The fields go by their order; the names at the initial values are not
looked at. -/
def expectRecord (type : Ident) (fields : Nat) (span : Span) :
    Check (Expectations × TypeId) := do
  match ← typeNamed? type with
  | none => pure ([], .error)
  | some declared =>
    let types ← types
    match types.fieldsOf? declared with
    | none =>
      reportSort "a record type" declared type.span
      pure ([], .error)
    | some declaredFields =>
      if declaredFields.length = fields then
        pure (declaredFields.map fun field => (field.type, field.name),
          types.representative declared)
      else
        report span (.wrongCount "fields" declaredFields.length fields)
        pure ([], types.representative declared)

/-- The type of an array that is made from an initial value for all elements. -/
def expectArray (type : Ident) (initial : TypeId) (initialSpan : Span) : Check TypeId := do
  match ← typeNamed? type with
  | none => pure .error
  | some declared =>
    let types ← types
    match types.elementOf? declared with
    | none =>
      reportSort "an array type" declared type.span
      pure .error
    | some element =>
      expectCompatible element initial initialSpan (some type.name)
      pure (types.representative declared)

/-- The type of the two branches of a choice.  `nil` alone has no type of its
own, so then the other branch decides. -/
def joinBranches (positive negative : TypeId) (negativeSpan : Span) : Check TypeId := do
  expectCompatible positive negative negativeSpan none
  pure (if (← types).isNil positive then negative else positive)

/-- The operands of an operator have to fit it. -/
def expectOperands (operator : Operator) (left : TypeId) (leftSpan : Span) (right : TypeId)
    (rightSpan : Span) : Check Unit := do
  if operator.isArithmetic then
    expectInteger left leftSpan (some operator.symbol)
    expectInteger right rightSpan (some operator.symbol)
  else expectCompatible left right rightSpan (some operator.symbol)

/-- The type of a declared variable.  Without an annotation it is the type of
the initial value, unless that value has no type that a variable can have. -/
def variableType (name : Ident) (ascribed : Option Ident) (initial : TypeId)
    (initialSpan : Span) : Check TypeId := do
  match ascribed with
  | some ascribed =>
    match ← typeNamed? ascribed with
    | none => pure .error
    | some declared =>
      expectCompatible declared initial initialSpan (some name.name)
      pure declared
  | none =>
    let types ← types
    if types.isNil initial then
      report initialSpan (.badInitializer name.name "nil needs a record type annotation")
      pure .error
    else if types.isVoid initial then
      report initialSpan (.badInitializer name.name "a void value cannot be stored")
      pure .error
    else pure initial

end Check
end StaticSemantics
