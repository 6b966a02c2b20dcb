import StaticSemantics.Proofs.Scopes

namespace StaticSemantics

/-!
# Names are resolved without types

Which names of a tree are used wrongly can be told without knowing a single
type.  A resolver that walks the tree and remembers of every binding only its
name and its sort finds them all.  The checker finds the same, in the same
order: what it knows of types never makes it look at a name that the resolver
does not look at, and no failed rule keeps it from one.

The resolver is a function from trees to reports.  It needs no marks and closes
no scopes, because what is in scope is handed down the tree.
-/

/-- A sort of bindings as one word. -/
def EntryKind.noun : EntryKind → String
  | type => "type"
  | .variable => "variable"
  | function => "function"

/-- What is in scope: names with the sorts of their bindings, the newest
first.  Variables and functions share one list. -/
structure Names where
  types : List (String × EntryKind)
  values : List (String × EntryKind)

/-- The report, if any, for the use of a name as something of the sort that is
wanted.  Only the newest binding of the name counts. -/
def misuse (scope : List (String × EntryKind)) (wanted : EntryKind) (name : Ident) :
    List (Span × Problem) :=
  match scope.lookup name.name with
  | none => [(name.span, .undefined wanted.noun name.name)]
  | some found =>
    if found = wanted then []
    else [(name.span, .wrongKind wanted.text (found.noun ++ " '" ++ name.name ++ "'"))]

namespace Names

def misusedType (names : Names) (name : Ident) : List (Span × Problem) :=
  misuse names.types .type name

def misusedVariable (names : Names) (name : Ident) : List (Span × Problem) :=
  misuse names.values .variable name

def misusedFunction (names : Names) (name : Ident) : List (Span × Problem) :=
  misuse names.values .function name

/-- The names in scope after bindings were added, the first one first. -/
def add (names : Names) (types values : List (String × EntryKind)) : Names :=
  ⟨types.reverse ++ names.types, values.reverse ++ names.values⟩

@[simp] theorem add_add (names : Names) (types values moreTypes moreValues) :
    (names.add types values).add moreTypes moreValues =
      names.add (types ++ moreTypes) (values ++ moreValues) := by
  simp [add]

/-- The names in scope after a declaration.  All members of a group are bound
at once. -/
def declare (names : Names) (declaration : Declaration) : Names :=
  names.add declaration.typeHeadings declaration.valueHeadings

/-- The names in scope in the body of a function. -/
def addParameters (names : Names) (parameters : List TypedName) : Names :=
  names.add [] (parameters.map fun parameter => (parameter.name.name, .variable))

end Names

/-- The names that the heading of a function uses wrongly. -/
def FunctionDeclaration.misusedInHeading (names : Names) (member : FunctionDeclaration) :
    List (Span × Problem) :=
  member.result.toList.flatMap names.misusedType ++
    member.parameters.flatMap fun parameter => names.misusedType parameter.type

/-!
## The resolver
-/

mutual

/-- The names that a place uses wrongly. -/
def Place.misused (names : Names) : Place → List (Span × Problem)
  | .name name _ => names.misusedVariable name
  | .field base _ _ => base.misused names
  | .element base index _ => base.misused names ++ index.misused names
termination_by structural place => place

/-- The names that an expression uses wrongly. -/
def Expression.misused (names : Names) : Expression → List (Span × Problem)
  | .nil _ | .integer _ _ | .string _ _ | .breakLoop _ | .malformed _ => []
  | .place place _ => place.misused names
  | .call function arguments _ =>
    names.misusedFunction function ++ Expression.allMisused names arguments
  | .binary _ left right _ => left.misused names ++ right.misused names
  | .record type fields _ => names.misusedType type ++ Initializer.allMisused names fields
  | .array type size initial _ =>
    size.misused names ++ (initial.misused names ++ names.misusedType type)
  | .sequence members _ => Expression.allMisused names members
  | .assign target value _ => target.misused names ++ value.misused names
  | .ifThen test body _ | .whileLoop test body _ => test.misused names ++ body.misused names
  | .ifThenElse test positive negative _ =>
    test.misused names ++ (positive.misused names ++ negative.misused names)
  | .forLoop counter low high body _ =>
    low.misused names ++ (high.misused names ++
      body.misused (names.add [] [(counter.name, .variable)]))
  | .block declarations body _ => Declaration.allMisused names declarations ++
      body.misused (declarations.foldl Names.declare names)
termination_by structural expression => expression

def Expression.allMisused (names : Names) : List Expression → List (Span × Problem)
  | [] => []
  | expression :: rest => expression.misused names ++ Expression.allMisused names rest
termination_by structural expressions => expressions

def Initializer.allMisused (names : Names) : List Initializer → List (Span × Problem)
  | [] => []
  | ⟨_, value, _⟩ :: rest => value.misused names ++ Initializer.allMisused names rest
termination_by structural initializers => initializers

/-- The names that a declaration uses wrongly. -/
def Declaration.misused (names : Names) : Declaration → List (Span × Problem)
  | .variable _ ascribed initial _ =>
    initial.misused names ++ ascribed.toList.flatMap names.misusedType
  | .functions members span =>
    (members.flatMap fun member => member.misusedInHeading names) ++
      FunctionDeclaration.misusedInBodies (names.declare (.functions members span)) members
  | .types members span =>
    members.flatMap fun member =>
      member.body.used.flatMap (names.declare (.types members span)).misusedType
termination_by structural declaration => declaration

/-- Every declaration is in scope in the ones behind it and in the body. -/
def Declaration.allMisused (names : Names) : List Declaration → List (Span × Problem)
  | [] => []
  | declaration :: rest =>
    declaration.misused names ++ Declaration.allMisused (names.declare declaration) rest
termination_by structural declarations => declarations

def FunctionDeclaration.misusedInBodies (names : Names) :
    List FunctionDeclaration → List (Span × Problem)
  | [] => []
  | ⟨_, parameters, _, body, _⟩ :: rest =>
    body.misused (names.addParameters parameters) ++
      FunctionDeclaration.misusedInBodies names rest
termination_by structural members => members

end

/-!
## What events tell of names
-/

/-- Whether a problem is the misuse of a name as a type, a variable or a
function.  Where a type is wanted, a name can only be unknown. -/
def Problem.isMisuse : Problem → Bool
  | undefined what _ => what == "type" || what == "variable" || what == "function"
  | wrongKind expected _ => expected == "a variable" || expected == "a function"
  | _ => false

/-- The misuses of names that are reported among some events. -/
def misusesIn (events : List Event) : List (Span × Problem) :=
  (events.filterMap Event.problem?).filter fun (_, problem) => problem.isMisuse

/-- Among some events it is never reported that a name stands for something
else than a type. -/
def SparesTypes (events : List Event) : Prop :=
  ∀ span found, .reported span (.wrongKind "a type" found) ∉ events

theorem SparesTypes.append {first second : List Event} (one : SparesTypes first)
    (two : SparesTypes second) : SparesTypes (first ++ second) := by
  intro span found member
  rcases List.mem_append.mp member with early | late
  · exact one span found early
  · exact two span found late

/-- Events that report these misuses and no others. -/
structure Tells (events : List Event) (misuses : List (Span × Problem)) : Prop where
  misusesIn_eq : misusesIn events = misuses
  spares : SparesTypes events

namespace Tells

variable {events further : List Event} {misuses others : List (Span × Problem)}

theorem nil : Tells [] [] :=
  ⟨rfl, fun _ _ => List.not_mem_nil⟩

theorem append (first : Tells events misuses) (second : Tells further others) :
    Tells (events ++ further) (misuses ++ others) where
  misusesIn_eq := by
    rw [← first.misusesIn_eq, ← second.misusesIn_eq]
    simp [misusesIn]
  spares := first.spares.append second.spares

theorem flatMap {γ : Type} {events : γ → List Event} {misuses : γ → List (Span × Problem)}
    {items : List γ} (each : ∀ item ∈ items, Tells (events item) (misuses item)) :
    Tells (items.flatMap events) (items.flatMap misuses) := by
  induction items with
  | nil => exact .nil
  | cons item rest inductionHypothesis =>
      rw [List.flatMap_cons, List.flatMap_cons]
      exact (each item List.mem_cons_self).append
        (inductionHypothesis fun other member => each other (List.mem_cons_of_mem _ member))

theorem flatMap_nil {γ : Type} {events : γ → List Event} {items : List γ}
    (each : ∀ item ∈ items, Tells (events item) []) : Tells (items.flatMap events) [] := by
  have all := flatMap each
  rwa [List.flatMap_eq_nil_iff.mpr fun _ _ => rfl] at all

/-- What reports nothing tells nothing. -/
theorem of_silent (silent : ∀ event ∈ events, event.problem? = none) : Tells events [] where
  misusesIn_eq := by
    rw [misusesIn, List.filterMap_eq_nil_iff.mpr silent]
    rfl
  spares := fun span found member => nomatch silent _ member

/-- A problem that is no misuse of a name. -/
theorem of_other (span : Span) {problem : Problem} (other : problem.isMisuse = false)
    (otherSort : ∀ found, problem ≠ .wrongKind "a type" found) :
    Tells [.reported span problem] [] where
  misusesIn_eq := by simp [misusesIn, Event.problem?, other]
  spares := by
    intro reported found member
    cases List.mem_singleton.mp member
    exact otherSort found rfl

theorem of_misuse (span : Span) {problem : Problem} (misused : problem.isMisuse = true)
    (otherSort : ∀ found, problem ≠ .wrongKind "a type" found) :
    Tells [.reported span problem] [(span, problem)] where
  misusesIn_eq := by simp [misusesIn, Event.problem?, misused]
  spares := by
    intro reported found member
    cases List.mem_singleton.mp member
    exact otherSort found rfl

end Tells

/-!
## What a state shows of names
-/

theorem Environment.lookup_headings (env : Environment) (name : String) :
    (env.bindings.map (·.heading)).lookup name = (env.newest? name).map Entry.kind := by
  unfold newest?
  induction env.bindings with
  | nil => rfl
  | cons binding rest inductionHypothesis =>
      rw [List.map_cons, Binding.heading, List.lookup_cons, List.find?_cons]
      by_cases same : name = binding.name
      · simp [same]
      · have missed : (name == binding.name) = false := beq_false_of_ne same
        have otherwise : (binding.name == name) = false := beq_false_of_ne (Ne.symm same)
        simp only [missed, otherwise]
        exact inductionHypothesis

theorem EntryKind.withoutArticles_text (kind : EntryKind) :
    String.ofList (LookupError.withoutArticles kind.text.toList) = kind.noun := by
  cases kind <;> decide

/-- A misuse is what a failed lookup reports. -/
theorem Environment.misuse_headings (env : Environment) (wanted : EntryKind) (name : Ident) :
    misuse (env.bindings.map (·.heading)) wanted name =
      match env.newest? name.name with
      | none => [(name.span, (LookupError.notFound name.name).problem wanted.noun)]
      | some found =>
        if found.kind = wanted then []
        else [(name.span, (mistaken name.name wanted found).problem wanted.noun)] := by
  rw [misuse, lookup_headings]
  cases env.newest? name.name with
  | none => rfl
  | some found => simp [mistaken, LookupError.problem, EntryKind.withoutArticles_text]

/-- The names that are in scope in a state. -/
def State.names (state : State) : Names :=
  ⟨state.typeNames.bindings.map (·.heading), state.valueNames.bindings.map (·.heading)⟩

/-- In a state these names are in scope, and names of types stand for types. -/
structure State.Shows (state : State) (names : Names) : Prop where
  names_eq : state.names = names
  sorted : ∀ binding ∈ state.typeNames.bindings, binding.entry.kind = .type

namespace State.Shows

variable {state reached : State} {names : Names}

/-- Only the environments matter. -/
theorem of_eq (shows : state.Shows names)
    (typeNames : reached.typeNames.bindings = state.typeNames.bindings)
    (valueNames : reached.valueNames.bindings = state.valueNames.bindings) :
    reached.Shows names where
  names_eq := by
    rw [State.names, typeNames, valueNames]
    exact shows.names_eq
  sorted := by
    rw [typeNames]
    exact shows.sorted

theorem adds (shows : state.Shows names) {types values : List Binding}
    (adds : state.Adds types values reached)
    (sorted : ∀ heading ∈ types.map (·.heading), heading.2 = .type) :
    reached.Shows (names.add (types.map (·.heading)) (values.map (·.heading))) where
  names_eq := by
    rw [← shows.names_eq, State.names, adds.typeNames, adds.valueNames]
    simp [Environment.bindAll, Names.add, State.names]
  sorted := by
    rw [adds.typeNames]
    intro binding member
    rcases List.mem_append.mp member with new | old
    · exact sorted _ (List.mem_map_of_mem (List.mem_reverse.mp new))
    · exact shows.sorted binding old

theorem declares (shows : state.Shows names) {declaration : Declaration}
    (declares : state.Declares declaration reached) :
    reached.Shows (names.declare declaration) := by
  rcases declares with ⟨types, values, adds, typeHeadings, valueHeadings⟩
  have sorted : ∀ heading ∈ declaration.typeHeadings, heading.2 = .type := by
    cases declaration <;> simp [Declaration.typeHeadings]
  have shows := shows.adds adds (typeHeadings ▸ sorted)
  rwa [typeHeadings, valueHeadings] at shows

theorem misusedType_eq (shows : state.Shows names) (name : Ident) :
    names.misusedType name =
      match state.typeNames.lookUpType name.name with
      | .ok _ => []
      | .error error => [(name.span, error.problem "type")] := by
  rw [← shows.names_eq, Names.misusedType, State.names, Environment.misuse_headings]
  unfold Environment.lookUpType
  cases state.typeNames.newest? name.name with
  | none => rfl
  | some entry => cases entry <;> rfl

theorem misusedVariable_eq (shows : state.Shows names) (name : Ident) :
    names.misusedVariable name =
      match state.valueNames.lookUpVariable name.name with
      | .ok _ => []
      | .error error => [(name.span, error.problem "variable")] := by
  rw [← shows.names_eq, Names.misusedVariable, State.names, Environment.misuse_headings]
  unfold Environment.lookUpVariable
  cases state.valueNames.newest? name.name with
  | none => rfl
  | some entry => cases entry <;> rfl

theorem misusedFunction_eq (shows : state.Shows names) (name : Ident) :
    names.misusedFunction name =
      match state.valueNames.lookUpFunction name.name with
      | .ok _ => []
      | .error error => [(name.span, error.problem "function")] := by
  rw [← shows.names_eq, Names.misusedFunction, State.names, Environment.misuse_headings]
  unfold Environment.lookUpFunction
  cases state.valueNames.newest? name.name with
  | none => rfl
  | some entry => cases entry <;> rfl

end State.Shows

/-- The reports of misuses. -/
def misuseReports (misuses : List (Span × Problem)) : List Event :=
  misuses.map fun misused => .reported misused.1 misused.2

/-- The misuses of one name are the reports for it. -/
theorem tells_misuse {scope : List (String × EntryKind)} {wanted : EntryKind} (name : Ident)
    (proper : wanted = .type → ∀ heading ∈ scope, heading.2 = .type) :
    Tells (misuseReports (misuse scope wanted name)) (misuse scope wanted name) := by
  unfold misuse
  cases known : scope.lookup name.name with
  | none => exact .of_misuse _ (by cases wanted <;> rfl) nofun
  | some found =>
      by_cases right : found = wanted
      · simpa only [if_pos right] using .nil
      · have other : wanted ≠ .type := by
          intro type
          rcases List.lookup_eq_some_iff.mp known with ⟨newer, older, rfl, _⟩
          have sort := proper type (name.name, found) (by simp)
          exact right (sort.trans type.symm)
        simp only [if_neg right]
        refine .of_misuse _ ?_ ?_
        · cases wanted with
          | type => exact absurd rfl other
          | _ => rfl
        · cases wanted with
          | type => exact absurd rfl other
          | _ => simp [EntryKind.text]

end StaticSemantics
