import StaticSemantics.Tree.Expression
import StaticSemantics.Storage

namespace StaticSemantics

/-!
# The shape of a tree, and the storage that it takes

A shape is what is left of a tree when names, values, operators and types are
taken away: where variables are declared, how many parameters the functions of
a group have, how many types a group has, and where a part is malformed.  All
else is a list of parts.

What a program takes from the allocator can be told from its shape.  The walk
that tells it is given here, and it looks at nothing but the shape, the
allocator and the frame in which it begins.
-/

mutual

/-- A tree without its names, values, operators and types. -/
inductive Shape where
  /-- Parts that are visited in order, with nothing done in between. -/
  | parts (parts : List Shape)
  /-- The declaration of a variable. -/
  | variable (initial : Shape)
  /-- A loop with a counter. -/
  | loop (low high body : Shape)
  /-- A group of functions. -/
  | functions (members : List FunctionShape)
  /-- A group of types. -/
  | types (members : Nat)
  | malformed
  deriving Repr

/-- The shape of one function of a group. -/
structure FunctionShape where
  parameters : Nat
  body : Shape
  deriving Repr

end

mutual

def Place.shape : Place → Shape
  | .name _ _ => .parts []
  | .field base _ _ => .parts [base.shape]
  | .element base index _ => .parts [base.shape, index.shape]
termination_by structural place => place

def Expression.shape : Expression → Shape
  | .nil _ | .integer _ _ | .string _ _ | .breakLoop _ => .parts []
  | .place place _ => .parts [place.shape]
  | .call _ arguments _ => .parts (Expression.shapes arguments)
  | .binary _ left right _ => .parts [left.shape, right.shape]
  | .record _ fields _ => .parts (Initializer.shapes fields)
  | .array _ size initial _ => .parts [size.shape, initial.shape]
  | .sequence members _ => .parts (Expression.shapes members)
  | .assign target value _ => .parts [target.shape, value.shape]
  | .ifThen test body _ | .whileLoop test body _ => .parts [test.shape, body.shape]
  | .ifThenElse test positive negative _ => .parts [test.shape, positive.shape, negative.shape]
  | .forLoop _ low high body _ => .loop low.shape high.shape body.shape
  | .block declarations body _ => .parts [.parts (Declaration.shapes declarations), body.shape]
  | .malformed _ => .malformed
termination_by structural expression => expression

def Expression.shapes : List Expression → List Shape
  | [] => []
  | expression :: rest => expression.shape :: Expression.shapes rest
termination_by structural expressions => expressions

def Initializer.shapes : List Initializer → List Shape
  | [] => []
  | ⟨_, value, _⟩ :: rest => value.shape :: Initializer.shapes rest
termination_by structural initializers => initializers

def Declaration.shape : Declaration → Shape
  | .variable _ _ initial _ => .variable initial.shape
  | .functions members _ => .functions (FunctionDeclaration.shapes members)
  | .types members _ => .types members.length
termination_by structural declaration => declaration

def Declaration.shapes : List Declaration → List Shape
  | [] => []
  | declaration :: rest => declaration.shape :: Declaration.shapes rest
termination_by structural declarations => declarations

def FunctionDeclaration.shapes : List FunctionDeclaration → List FunctionShape
  | [] => []
  | ⟨_, parameters, _, body, _⟩ :: rest =>
    ⟨parameters.length, body.shape⟩ :: FunctionDeclaration.shapes rest
termination_by structural members => members

end

/-- How far a walk over a shape has come: the allocator, what it was asked for,
and how many types have been declared. -/
structure Layout where
  storage : Storage
  /-- The requests and their answers, the first one first. -/
  calls : List Storage.Call
  types : Nat
  deriving DecidableEq, Repr

/-- A walk that lays out storage.  It may end early, and then no layout is lost. -/
abbrev Plan (α : Type) : Type :=
  OptionT (StateM Layout) α

namespace Plan

/-- Ask for the next label. -/
def label : Plan Label := fun layout =>
  let (label, storage) := layout.storage.takeLabel
  (some label, { layout with storage, calls := layout.calls ++ [.label label] })

/-- Ask for a frame for a function that is nested in another one. -/
def frame (parent : Frame) (label : Label) (parameters : Nat) : Plan Frame := fun layout =>
  let (frame, storage) := layout.storage.takeFrame
  (some frame,
    { layout with storage, calls := layout.calls ++ [.frame parent label parameters frame] })

/-- Ask for a slot in a frame. -/
def slot (frame : Frame) : Plan Unit := fun layout =>
  let (slot, storage) := layout.storage.takeSlot frame
  (some (), { layout with storage, calls := layout.calls ++ [.slot slot] })

/-- Ask for some slots in a frame. -/
def slots (frame : Frame) : (count : Nat) → Plan Unit
  | 0 => pure ()
  | count + 1 => do
    slot frame
    slots frame count

/-- Declare some types. -/
def declare (count : Nat) : Plan Unit := fun layout =>
  (some (), { layout with types := layout.types + count })

/-- What a function asks for before its body is visited: a label, and a frame
inside of the frame around it. -/
def heading (parent : Frame) (parameters : Nat) : Plan Frame := do
  let label ← label
  frame parent label parameters

end Plan

mutual

/-- Walk over a shape inside of a frame. -/
def Shape.plan : Shape → Frame → Plan Unit
  | .parts parts, frame => Shape.planAll parts frame
  | .variable initial, frame => do
    initial.plan frame
    Plan.slot frame
  | .loop low high body, frame => do
    low.plan frame
    high.plan frame
    Plan.slot frame
    body.plan frame
  | .functions members, frame => do
    let frames ← members.mapM fun member => Plan.heading frame member.parameters
    FunctionShape.planBodies members frames
  | .types members, _ => Plan.declare members
  | .malformed, _ => failure
termination_by structural shape => shape

/-- Walk over some shapes, one after another. -/
def Shape.planAll : List Shape → Frame → Plan Unit
  | [], _ => pure ()
  | shape :: rest, frame => do
    shape.plan frame
    Shape.planAll rest frame
termination_by structural shapes => shapes

/-- Walk over the bodies of a group, each inside of its own frame.  The first
slots of a frame are those of the parameters. -/
def FunctionShape.planBodies : List FunctionShape → List Frame → Plan Unit
  | ⟨parameters, body⟩ :: rest, frame :: frames => do
    Plan.slots frame parameters
    body.plan frame
    FunctionShape.planBodies rest frames
  | _, _ => pure ()
termination_by structural members => members

end

/-- The layout of a shape from scratch, and whether the walk has come to its end. -/
def Shape.layout (shape : Shape) (storage : Storage) (frame : Frame) : Bool × Layout :=
  let (ended, layout) := (shape.plan frame).run.run ⟨storage, [], 0⟩
  (ended.isSome, layout)

end StaticSemantics
