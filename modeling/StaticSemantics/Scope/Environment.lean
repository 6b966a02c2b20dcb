import StaticSemantics.Scope.Entry

namespace StaticSemantics

/-!
# Environments

An environment is one list of bindings, the newest first, together with a mark
for every open scope.  The mark is the number of bindings at the time when the
scope was opened.  Closing a scope takes the list back to that number, so a
binding lives exactly as long as the scope in which it was made, and the
binding that it hid comes to light again.
-/

/-- A name and what it is bound to. -/
structure Binding where
  name : String
  entry : Entry
  deriving DecidableEq, Repr

/-- Bindings with scopes. -/
structure Environment where
  /-- The newest binding comes first. -/
  bindings : List Binding
  /-- For every open scope the number of bindings that it found, the innermost
  scope first. -/
  marks : List Nat
  deriving DecidableEq, Repr

namespace Environment

/-- No bindings, and no scope but the outermost, which is never closed. -/
def empty : Environment :=
  ⟨[], []⟩

/-- The number of bindings, hidden ones included. -/
def size (env : Environment) : Nat :=
  env.bindings.length

/-- The number of open scopes. -/
def depth (env : Environment) : Nat :=
  env.marks.length

/-- Bind a name in the innermost scope. -/
def bind (env : Environment) (name : String) (entry : Entry) : Environment :=
  { env with bindings := ⟨name, entry⟩ :: env.bindings }

/-- Open a scope. -/
def openScope (env : Environment) : Environment :=
  { env with marks := env.size :: env.marks }

/-- Close the innermost scope.  Where none is open, nothing happens. -/
def closeScope (env : Environment) : Environment :=
  match env.marks with
  | [] => env
  | mark :: marks => ⟨env.bindings.drop (env.size - mark), marks⟩

/-- What a name is bound to by its newest binding. -/
def newest? (env : Environment) (name : String) : Option Entry :=
  (env.bindings.find? (·.name == name)).map (·.entry)

/-- Every binding as a line of its own, the newest first. -/
def listing (env : Environment) : List String :=
  env.bindings.map fun binding => s!"  {binding.name} : {binding.entry.text}"

@[simp] theorem size_bind (env : Environment) (name : String) (entry : Entry) :
    (env.bind name entry).size = env.size + 1 :=
  rfl

@[simp] theorem depth_bind (env : Environment) (name : String) (entry : Entry) :
    (env.bind name entry).depth = env.depth :=
  rfl

@[simp] theorem size_openScope (env : Environment) : env.openScope.size = env.size :=
  rfl

@[simp] theorem depth_openScope (env : Environment) : env.openScope.depth = env.depth + 1 :=
  rfl

@[simp] theorem depth_closeScope (env : Environment) : env.closeScope.depth = env.depth - 1 := by
  unfold closeScope depth
  split <;> simp_all

@[simp] theorem closeScope_openScope (env : Environment) : env.openScope.closeScope = env := by
  simp [openScope, closeScope, size]

@[simp] theorem newest?_empty (name : String) : empty.newest? name = none :=
  rfl

@[simp] theorem newest?_openScope (env : Environment) (name : String) :
    env.openScope.newest? name = env.newest? name :=
  rfl

/-- A new binding is found under its own name and hides no other name. -/
theorem newest?_bind (env : Environment) (name sought : String) (entry : Entry) :
    (env.bind name entry).newest? sought =
      if name = sought then some entry else env.newest? sought := by
  by_cases same : name = sought
  · simp [newest?, bind, same]
  · have missed : (name == sought) = false := beq_false_of_ne same
    simp [newest?, bind, missed, same]

end Environment
end StaticSemantics
