import StaticSemantics.Check.TypeGroup
import StaticSemantics.Tree.Expression

namespace StaticSemantics
namespace Check

/-!
# The rules of the language

Every expression is checked in every branch of every rule, also where a rule
has failed already and the type of the expression no longer matters.  So a
name is reported wherever it is used wrongly, and a malformed tree is noticed
wherever it is.

A group of functions is declared in two passes.  First the types of every
member are found and its name is bound, then the bodies are checked one after
another, so the members may call each other in any order.
-/

/-- What is known of a function before its body is checked. -/
structure FunctionHeader where
  parameters : List TypeId
  result : TypeId
  frame : Frame
  deriving DecidableEq, Repr

/-- The type of the value of a function.  A function without a result type gives
no value. -/
def resultType : Option Ident → Check TypeId
  | some name => typeNamed name
  | none => pure .void

/-- The first pass over a group of functions: the types of a member are looked
up, and its name is bound. -/
def announceFunction (member : FunctionDeclaration) : Check FunctionHeader := do
  let result ← resultType member.result
  let parameters ← member.parameters.mapM fun parameter => typeNamed parameter.type
  let label ← takeLabel
  let frame ← takeFrame (← frame) label parameters.length
  bindValue member.name.name (.function ⟨parameters, result, frame, label⟩)
  pure ⟨parameters, result, frame⟩

/-- Bind the parameters of a function to its first slots, in order. -/
def bindParameters (parameters : List TypedName) (types : List TypeId) : Check Unit :=
  (parameters.zip types).forM fun (parameter, type) => bindVariable parameter.name.name type

mutual

/-- The type of what a place holds. -/
def inferPlace : Place → Check TypeId
  | .name name _ => variableNamed name
  | .field base field _ => do
    let baseType ← inferPlace base
    selectField baseType base.span field
  | .element base index _ => do
    let baseType ← inferPlace base
    let indexType ← inferExpression index
    expectInteger indexType index.span none
    selectElement baseType base.span
termination_by structural place => place

/-- The type of the value of an expression. -/
def inferExpression : Expression → Check TypeId
  | .nil _ => pure .nil
  | .integer _ _ => pure .int
  | .string _ _ => pure .string
  | .place place _ => inferPlace place
  | .call function arguments span => do
    let (expected, result) ← expectCall function arguments.length span
    checkArguments arguments expected
    pure result
  | .binary operator left right _ => do
    let leftType ← inferExpression left
    let rightType ← inferExpression right
    expectOperands operator leftType left.span rightType right.span
    pure .int
  | .record type fields span => do
    let (expected, result) ← expectRecord type fields.length span
    checkInitializers fields expected
    pure result
  | .array type size initial _ => do
    let sizeType ← inferExpression size
    expectInteger sizeType size.span none
    let initialType ← inferExpression initial
    expectArray type initialType initial.span
  | .sequence members _ => inferSequence members .void
  | .assign target value _ => do
    let targetType ← inferPlace target
    let valueType ← inferExpression value
    expectCompatible targetType valueType value.span none
    pure .void
  | .ifThen test body _ => do
    let testType ← inferExpression test
    expectInteger testType test.span none
    let _ ← inferExpression body
    pure .void
  | .ifThenElse test positive negative _ => do
    let testType ← inferExpression test
    expectInteger testType test.span none
    let positiveType ← inferExpression positive
    let negativeType ← inferExpression negative
    joinBranches positiveType negativeType negative.span
  | .whileLoop test body _ => do
    let testType ← inferExpression test
    expectInteger testType test.span none
    let _ ← inferExpression body
    pure .void
  | .forLoop counter low high body _ => do
    let lowType ← inferExpression low
    expectInteger lowType low.span none
    let highType ← inferExpression high
    expectInteger highType high.span none
    openValueScope
    bindVariable counter.name .int
    let _ ← inferExpression body
    closeValueScope
    pure .void
  -- Whether a break stands inside a loop is no question of types.
  | .breakLoop _ => pure .void
  | .block declarations body span => do
    openTypeScope
    openValueScope
    emit (.blockOpened span declarations.length)
    makeDeclarations declarations
    let result ← inferExpression body
    emit (.listed (← state).valueNames)
    closeValueScope
    closeTypeScope
    pure result
  | .malformed _ => abort (.malformed "expression")
termination_by structural expression => expression

/-- Check the arguments of a call against what is expected of them. -/
def checkArguments : List Expression → Expectations → Check Unit
  | [], _ => pure ()
  | argument :: rest, expected => do
    let type ← inferExpression argument
    expectNext expected type argument.span
    checkArguments rest expected.tail
termination_by structural arguments => arguments

/-- Check the initial values of a record against what is expected of them. -/
def checkInitializers : List Initializer → Expectations → Check Unit
  | [], _ => pure ()
  | ⟨_, value, _⟩ :: rest, expected => do
    let type ← inferExpression value
    expectNext expected type value.span
    checkInitializers rest expected.tail
termination_by structural initializers => initializers

/-- The type of the last member of a sequence, where `last` is the type of the
member before. -/
def inferSequence : List Expression → (last : TypeId) → Check TypeId
  | [], last => pure last
  | member :: rest, _ => do
    let type ← inferExpression member
    inferSequence rest type
termination_by structural members => members

/-- Make one declaration.  What it binds stays bound. -/
def makeDeclaration : Declaration → Check Unit
  | .variable name ascribed initial _ => do
    let initialType ← inferExpression initial
    let type ← variableType name ascribed initialType initial.span
    bindVariable name.name type
  | .functions members _ => do
    emit (.functionsGrouped (members.map (·.name.name)))
    let headers ← members.mapM announceFunction
    checkBodies members headers
  | .types members _ => makeTypes members
termination_by structural declaration => declaration

/-- Make the declarations of a block, one after another. -/
def makeDeclarations : List Declaration → Check Unit
  | [] => pure ()
  | declaration :: rest => do
    makeDeclaration declaration
    makeDeclarations rest
termination_by structural declarations => declarations

/-- The second pass over a group of functions: check the bodies, each in the
frame of its own function. -/
def checkBodies : List FunctionDeclaration → List FunctionHeader → Check Unit
  | ⟨name, parameters, _, body, span⟩ :: rest, header :: headers => do
    openValueScope
    let outer ← frame
    setFrame header.frame
    bindParameters parameters header.parameters
    let bodyType ← inferExpression body
    expectCompatible header.result bodyType span (some name.name)
    setFrame outer
    closeValueScope
    checkBodies rest headers
  | _, _ => pure ()
termination_by structural members => members

end

/-- Check a whole program. -/
def inferProgram (program : Expression) : Check TypeId := do
  let type ← inferExpression program
  emit (.finished ((← types).describe type))
  pure type

end Check
end StaticSemantics
