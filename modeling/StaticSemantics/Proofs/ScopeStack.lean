import Mathlib.Algebra.GroupWithZero.Nat
import StaticSemantics.Check.Session
import StaticSemantics.Proofs.Scopes

namespace StaticSemantics

/-!
# An environment is a stack of scopes

An environment keeps the bindings of all scopes in one list, and a number for
every open scope.  What is meant is a stack: each scope has bindings of its own,
a name is bound in the innermost scope, and closing a scope throws its bindings
away.  A name is looked up from the inside out.

Here the stack is written down as such, and the environment is obtained from it
by putting all scopes behind each other.  Every change of the one is a change of
the other, also where scopes are closed that were never opened, so no history of
an environment can be told from the history of its stack.
-/

/-- Scopes inside each other.  A scope is the list of its bindings, the newest
first.  There is always one, which is never closed. -/
structure ScopeStack where
  /-- The scope in which names are bound now. -/
  innermost : List Binding
  /-- The scopes around it, the nearest first. -/
  around : List (List Binding)
  deriving DecidableEq, Repr

namespace ScopeStack

/-- All scopes, the innermost first. -/
def scopes (stack : ScopeStack) : List (List Binding) :=
  stack.innermost :: stack.around

/-- A single scope. -/
def single (bindings : List Binding) : ScopeStack :=
  ⟨bindings, []⟩

/-- Make one change.  The last scope stays. -/
def apply (stack : ScopeStack) : Environment.Operation → ScopeStack
  | .bind name entry => { stack with innermost := ⟨name, entry⟩ :: stack.innermost }
  | .openScope => ⟨[], stack.scopes⟩
  | .closeScope =>
    match stack.around with
    | [] => stack
    | next :: around => ⟨next, around⟩

/-- Make many changes, the first one first. -/
def applyAll (stack : ScopeStack) (operations : List Environment.Operation) : ScopeStack :=
  operations.foldl apply stack

/-- No scope binds the name. -/
def Misses (scopes : List (List Binding)) (name : String) : Prop :=
  ∀ scope ∈ scopes, ∀ binding ∈ scope, binding.name ≠ name

/-- The innermost scope that binds the name binds it to this entry, by the newest
of its bindings of that name. -/
def Finds (stack : ScopeStack) (name : String) (entry : Entry) : Prop :=
  ∃ inside newer older outside,
    stack.scopes = inside ++ (newer ++ ⟨name, entry⟩ :: older) :: outside ∧
      Misses inside name ∧ Misses [newer] name

/-- How many bindings there are in each scope and the ones around it. -/
def totals : List (List Binding) → List Nat
  | [] => []
  | scope :: around => (scope :: around).flatten.length :: totals around

/-- The environment in which the scopes stand behind each other. -/
def flat (stack : ScopeStack) : Environment :=
  ⟨stack.scopes.flatten, totals stack.around⟩

@[simp] theorem length_totals (scopes : List (List Binding)) :
    (totals scopes).length = scopes.length := by
  induction scopes with
  | nil => rfl
  | cons scope around inductionHypothesis =>
      rw [totals, List.length_cons, List.length_cons, inductionHypothesis]

/-!
## Changes
-/

/-- Each change of the environment is the same change of the stack. -/
theorem flat_apply (stack : ScopeStack) (operation : Environment.Operation) :
    stack.flat.apply operation = (stack.apply operation).flat := by
  cases operation with
  | bind name entry => rfl
  | openScope => rfl
  | closeScope =>
      obtain ⟨innermost, around⟩ := stack
      cases around with
      | nil => rfl
      | cons next around =>
          -- The mark is the size of all scopes but the innermost, so as many bindings
          -- are dropped as the innermost scope has.
          let outer := (next :: around).flatten
          have dropped : (innermost ++ outer).drop ((innermost ++ outer).length - outer.length) =
              outer := by
            rw [List.length_append, Nat.add_sub_cancel, List.drop_left]
          exact congrArg (Environment.mk · (totals around)) dropped

theorem flat_applyAll (stack : ScopeStack) (operations : List Environment.Operation) :
    stack.flat.applyAll operations = (stack.applyAll operations).flat := by
  induction operations generalizing stack with
  | nil => rfl
  | cons first rest inductionHypothesis =>
      rw [Environment.applyAll_cons, flat_apply, inductionHypothesis]
      rfl

theorem depth_flat (stack : ScopeStack) : stack.flat.depth + 1 = stack.scopes.length := by
  rw [flat, Environment.depth, length_totals, scopes, List.length_cons]

theorem size_flat (stack : ScopeStack) :
    stack.flat.size = (stack.scopes.map List.length).sum :=
  List.length_flatten

/-!
## Lookups
-/

theorem find?_eq_none_iff {scope : List Binding} {name : String} :
    scope.find? (·.name == name) = none ↔ Misses [scope] name := by
  simp [Misses]

theorem find?_eq_some_iff {scope : List Binding} {name : String} {entry : Entry} :
    (scope.find? (·.name == name)).map (·.entry) = some entry ↔
      ∃ newer older, scope = newer ++ ⟨name, entry⟩ :: older ∧ Misses [newer] name := by
  simp only [Option.map_eq_some_iff, List.find?_eq_some_iff_append]
  constructor
  · rintro ⟨⟨_, _⟩, ⟨named, newer, older, parts, others⟩, rfl⟩
    exact ⟨newer, older, beq_iff_eq.mp named ▸ parts, by simpa [Misses] using others⟩
  · rintro ⟨newer, older, parts, others⟩
    exact ⟨_, ⟨beq_self_eq_true name, newer, older, parts, by simpa [Misses] using others⟩, rfl⟩

theorem newest?_flat (stack : ScopeStack) (name : String) :
    stack.flat.newest? name =
      stack.scopes.findSome? fun scope => (scope.find? (·.name == name)).map (·.entry) := by
  rw [flat, Environment.newest?, List.find?_flatten, List.map_findSome?]
  rfl

/-- The newest of all bindings is found from the inside out. -/
theorem newest?_flat_eq_some_iff {stack : ScopeStack} {name : String} {entry : Entry} :
    stack.flat.newest? name = some entry ↔ stack.Finds name entry := by
  simp only [newest?_flat, List.findSome?_eq_some_iff, find?_eq_some_iff, Finds,
    Option.map_eq_none_iff, find?_eq_none_iff]
  constructor
  · rintro ⟨inside, _, outside, parts, ⟨newer, older, rfl, first⟩, others⟩
    refine ⟨inside, newer, older, outside, parts, fun scope member => ?_, first⟩
    exact others scope member scope (List.mem_singleton_self scope)
  · rintro ⟨inside, newer, older, outside, parts, others, first⟩
    refine ⟨inside, _, outside, parts, ⟨newer, older, rfl, first⟩, fun scope member => ?_⟩
    exact List.forall_mem_singleton.mpr (others scope member)

theorem newest?_flat_eq_none_iff {stack : ScopeStack} {name : String} :
    stack.flat.newest? name = none ↔ Misses stack.scopes name := by
  simp [Misses, flat, Environment.newest?]

/-- Why a name does not stand for a binding of one sort.  An older binding of that
sort does not count. -/
inductive Refuses (stack : ScopeStack) (name : String) (wanted : EntryKind) : LookupError → Prop
  | notFound (misses : Misses stack.scopes name) : Refuses stack name wanted (.notFound name)
  | wrongKind {entry : Entry} (finds : stack.Finds name entry) (other : entry.kind ≠ wanted) :
    Refuses stack name wanted (.wrongKind name wanted.text entry.kind.text)

/-- An answer to the question for a binding of one sort. -/
structure Gives {α : Type} (stack : ScopeStack) (name : String) (wanted : EntryKind)
    (entry : α → Entry) (answer : Except LookupError α) : Prop where
  ok_iff : ∀ value, answer = .ok value ↔ stack.Finds name (entry value)
  error_iff : ∀ error, answer = .error error ↔ stack.Refuses name wanted error

/-- All questions about a name are answered by what the stack has for it. -/
structure Answers (stack : ScopeStack) (name : String) (env : Environment) : Prop where
  ok_iff : ∀ entry, env.lookUp name = .ok entry ↔ stack.Finds name entry
  error_iff : ∀ error,
    env.lookUp name = .error error ↔ Misses stack.scopes name ∧ error = .notFound name
  type : stack.Gives name .type .type (env.lookUpType name)
  «variable» : stack.Gives name .variable .variable (env.lookUpVariable name)
  function : stack.Gives name .function .function (env.lookUpFunction name)

section Answers

variable {stack : ScopeStack} {name : String}

/-- Only one entry is found, if any is. -/
theorem Finds.eq {entry other : Entry} (finds : stack.Finds name entry)
    (found : stack.Finds name other) : entry = other :=
  Option.some.inj ((newest?_flat_eq_some_iff.mpr finds).symm.trans
    (newest?_flat_eq_some_iff.mpr found))

theorem Finds.not_misses {entry : Entry} (finds : stack.Finds name entry) :
    ¬ Misses stack.scopes name := by
  intro misses
  have missed := newest?_flat_eq_none_iff.mpr misses
  rw [newest?_flat_eq_some_iff.mpr finds] at missed
  cases missed

/-- A question is answered as the stack says if it looks at the newest binding and
at nothing else. -/
theorem gives_of_newest? {α : Type} {wanted : EntryKind} {entry : α → Entry}
    {answer : Except LookupError α} (kind : ∀ value, (entry value).kind = wanted)
    (injective : ∀ value other, entry value = entry other → value = other)
    (missed : stack.flat.newest? name = none → answer = .error (.notFound name))
    (found : ∀ other, stack.flat.newest? name = some other →
      (∃ value, other = entry value ∧ answer = .ok value) ∨
        other.kind ≠ wanted ∧ answer = .error (Environment.mistaken name wanted other)) :
    stack.Gives name wanted entry answer := by
  cases newest : stack.flat.newest? name with
  | none =>
      have misses := newest?_flat_eq_none_iff.mp newest
      rw [missed newest]
      refine ⟨fun value => ⟨nofun, fun finds => (finds.not_misses misses).elim⟩, fun error => ?_⟩
      constructor
      · rintro ⟨⟩
        exact .notFound misses
      · rintro (_ | ⟨finds, _⟩)
        · rfl
        · exact (finds.not_misses misses).elim
  | some other =>
      have finds := newest?_flat_eq_some_iff.mp newest
      rcases found other newest with ⟨value, rfl, succeeds⟩ | ⟨different, fails⟩
      · rw [succeeds]
        refine ⟨fun sought => ⟨?_, fun also => ?_⟩, fun error => ⟨nofun, ?_⟩⟩
        · rintro ⟨⟩
          exact finds
        · rw [injective _ _ (finds.eq also)]
        · rintro (misses | ⟨also, different⟩)
          · exact (finds.not_misses misses).elim
          · exact (different (also.eq finds ▸ kind value)).elim
      · rw [fails]
        refine ⟨fun sought => ⟨nofun, fun also => ?_⟩, fun error => ⟨?_, ?_⟩⟩
        · exact (different (finds.eq also ▸ kind sought)).elim
        · rintro ⟨⟩
          exact .wrongKind finds different
        · rintro (misses | ⟨also, _⟩)
          · exact (finds.not_misses misses).elim
          · rw [also.eq finds]
            rfl

theorem answers_flat (stack : ScopeStack) (name : String) : stack.Answers name stack.flat where
  ok_iff entry := by
    rw [← newest?_flat_eq_some_iff, Environment.lookUp]
    cases stack.flat.newest? name <;> simp
  error_iff error := by
    rw [← newest?_flat_eq_none_iff, Environment.lookUp]
    cases stack.flat.newest? name <;> simp [eq_comm]
  type := by
    refine gives_of_newest? (fun _ => rfl) (by simp) (fun missed => ?_) fun other found => ?_
    · rw [Environment.lookUpType, missed]
    · rw [Environment.lookUpType, found]
      cases other <;> simp [Entry.kind]
  «variable» := by
    refine gives_of_newest? (fun _ => rfl) (by simp) (fun missed => ?_) fun other found => ?_
    · rw [Environment.lookUpVariable, missed]
    · rw [Environment.lookUpVariable, found]
      cases other <;> simp [Entry.kind]
  function := by
    refine gives_of_newest? (fun _ => rfl) (by simp) (fun missed => ?_) fun other found => ?_
    · rw [Environment.lookUpFunction, missed]
    · rw [Environment.lookUpFunction, found]
      cases other <;> simp [Entry.kind]

end Answers
end ScopeStack

namespace Environment

/-!
## Balanced changes
-/

/-- Changes that close each scope that they open, and no other. -/
inductive Balanced : List Operation → Prop
  | nil : Balanced []
  | bind (name : String) (entry : Entry) {rest : List Operation} (others : Balanced rest) :
    Balanced (.bind name entry :: rest)
  | scope {inside rest : List Operation} (within : Balanced inside) (others : Balanced rest) :
    Balanced (.openScope :: inside ++ .closeScope :: rest)

/-- A scope in which bindings were added leaves nothing behind when it is closed. -/
theorem applyAll_scope {env : Environment} {inside : List Operation} {bindings : List Binding}
    (within : env.openScope.applyAll inside = env.openScope.bindAll bindings)
    (rest : List Operation) :
    env.applyAll (.openScope :: inside ++ .closeScope :: rest) = env.applyAll rest := by
  rw [List.cons_append, applyAll_cons, applyAll_append, apply, within, applyAll_cons, apply,
    closeScope_bindAll_openScope]

/-- Such changes add bindings, and leave the scopes as they were. -/
theorem Balanced.exists_bindAll {operations : List Operation} (balanced : Balanced operations)
    (env : Environment) : ∃ bindings, env.applyAll operations = env.bindAll bindings := by
  induction balanced generalizing env with
  | nil => exact ⟨[], rfl⟩
  | bind name entry _ inductionHypothesis =>
      rcases inductionHypothesis (env.bind name entry) with ⟨bindings, reached⟩
      refine ⟨⟨name, entry⟩ :: bindings, ?_⟩
      rw [bindAll_cons, ← reached]
      rfl
  | scope _ _ insideHypothesis restHypothesis =>
      rcases insideHypothesis env.openScope with ⟨inside, within⟩
      rw [applyAll_scope within]
      exact restHypothesis env

/-- The environments with which a history begins: nothing is bound, or the names
of the built-in types are, or those of the built-in functions. -/
def starts (outermost : Frame) : List Environment :=
  [empty, (State.initial outermost).typeNames, (State.initial outermost).valueNames]

/-- Each of them has a single scope. -/
theorem eq_flat_of_mem_starts {outermost : Frame} {start : Environment}
    (listed : start ∈ starts outermost) : start = (ScopeStack.single start.bindings).flat := by
  have cases : start = empty ∨ start = (State.initial outermost).typeNames ∨
      start = (State.initial outermost).valueNames := by
    simpa [starts] using listed
  rcases cases with rfl | rfl | rfl <;> rfl

/-- Whatever is done to an environment, it is what its stack of scopes is when the
scopes stand behind each other.  It has as many open scopes as the stack has above
the last one, and as many bindings as all scopes together.  A lookup finds the
newest binding of a name in the innermost scope that has one, and fails if that
binding is of another sort or if there is none.  And a scope that is opened and
closed again, with balanced changes in between, leaves no trace. -/
theorem refines_scopeStack (outermost : Frame) :
    (∀ start ∈ starts outermost, ∀ operations : List Operation,
      let env := start.applyAll operations
      let stack := (ScopeStack.single start.bindings).applyAll operations
      env = stack.flat ∧
      env.depth = stack.scopes.length - 1 ∧
      env.size = (stack.scopes.map List.length).sum ∧
      ∀ name, stack.Answers name env) ∧
    ∀ operations : List Operation, Balanced operations → ∀ env : Environment,
      env.applyAll (.openScope :: operations ++ [.closeScope]) = env := by
  constructor
  · intro start listed operations env stack
    have reached : env = stack.flat := by
      rw [← ScopeStack.flat_applyAll, ← eq_flat_of_mem_starts listed]
    rw [reached, ← stack.depth_flat, ← stack.size_flat]
    exact ⟨rfl, rfl, rfl, stack.answers_flat⟩
  · intro operations balanced env
    rcases balanced.exists_bindAll env.openScope with ⟨bindings, within⟩
    rw [applyAll_scope within, applyAll_nil]

/-- A variable `print` is bound, and then one in a scope of its own. -/
def shadowing : List Operation :=
  let entry := Entry.variable ⟨.int, ⟨outermostFrame, 0⟩⟩
  [.bind "print" entry, .openScope, .bind "x" entry, .closeScope]

/-- A scope too many is closed, and two are opened.  The built-in function is hidden
by the variable, and not found through it. -/
theorem refines_scopeStack_shadowing :
    let start := (State.initial outermostFrame).valueNames
    let operations := .closeScope :: .openScope :: shadowing ++ [.openScope]
    let env := start.applyAll operations
    let stack := (ScopeStack.single start.bindings).applyAll operations
    start ∈ starts outermostFrame ∧
    env.lookUpFunction "print" = .error (.wrongKind "print" "a function" "a variable") ∧
    env.depth = 2 ∧ env.depth = stack.scopes.length - 1 ∧ stack.Answers "print" env ∧
    Balanced shadowing ∧
    start.applyAll (.openScope :: shadowing ++ [.closeScope]) = start := by
  intro start operations env stack
  have listed : start ∈ starts outermostFrame := by simp [starts, start]
  have balanced : Balanced shadowing := .bind _ _ (.scope (.bind _ _ .nil) .nil)
  have refines := (refines_scopeStack outermostFrame).1 start listed operations
  exact ⟨listed, rfl, rfl, refines.2.1, refines.2.2.2 "print", balanced,
    (refines_scopeStack outermostFrame).2 shadowing balanced start⟩

end Environment
end StaticSemantics
