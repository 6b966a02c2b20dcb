import StaticSemantics.Proofs.Collector
import StaticSemantics.Proofs.StoredDiagnostics

namespace StaticSemantics

/-!
# What a collector holds

What arrives at a collector is a diagnostic, or a problem that has still to be put
into words.  In between, the collector may be stored as a text and read again.  Its
limit is lost then, and the usual one takes its place.

This can happen many times, but only the first time matters.  Up to then a collector
stores what comes first, as far as its own limit allows.  From then on it goes on as
far as the usual limit allows, and storing and reading it makes no difference any
more.  Nothing that is stored is dropped or moved, not even from a collector that
holds more than it would have taken.  All arrivals are counted.
-/

/-- What arrives at a collector. -/
inductive Arrival where
  /-- A diagnostic, which is stored as it is. -/
  | ready (diagnostic : Diagnostic)
  /-- A problem at a place. -/
  | found (span : Span) (problem : Problem)
  deriving DecidableEq, Repr

/-- What there is to store of an arrival.  Of a problem these are its kind, its
message and its place. -/
def Arrival.inWords : Arrival → Diagnostic
  | .ready diagnostic => diagnostic
  | .found span problem => ⟨problem.kind, problem.message, span⟩

namespace Diagnostics

/-- Take in one arrival. -/
def accept (diagnostics : Diagnostics) : Arrival → Diagnostics
  | .ready diagnostic => diagnostics.receive diagnostic
  | .found span problem => diagnostics.receiveProblem span problem

/-- Take in many arrivals, the first one first. -/
def acceptAll (diagnostics : Diagnostics) (arrivals : List Arrival) : Diagnostics :=
  arrivals.foldl accept diagnostics

/-- What happens to a collector. -/
inductive Step where
  | arrive (arrival : Arrival)
  /-- It is stored as a text, and the text is read. -/
  | restore
  deriving DecidableEq, Repr

def Step.inWords? : Step → Option Diagnostic
  | .arrive arrival => some arrival.inWords
  | .restore => none

/-- What arrives in some steps. -/
def arrivedIn (steps : List Step) : List Diagnostic :=
  steps.filterMap Step.inWords?

/-- One step, unless the text that is stored cannot be read. -/
def step? (diagnostics : Diagnostics) : Step → Option Diagnostics
  | .arrive arrival => some (diagnostics.accept arrival)
  | .restore => read? (String.ofList diagnostics.stored)

/-- Many steps, the first one first. -/
def steps? (diagnostics : Diagnostics) (steps : List Step) : Option Diagnostics :=
  steps.foldlM step? diagnostics

/-- A collector holds these diagnostics and has counted this many, and all of its
answers are about them. -/
structure Holds (diagnostics : Diagnostics) (stored : List Diagnostic) (count : Nat) :
    Prop where
  errors : diagnostics.errors = stored
  total : diagnostics.total.toNat = count
  hasErrors : diagnostics.hasErrors = true ↔ 0 < count
  kinds : diagnostics.kinds = stored.map (·.kind)
  contains : ∀ kind, diagnostics.contains kind = true ↔ ∃ error ∈ stored, error.kind = kind

/-!
## Arrivals
-/

theorem accept_eq (diagnostics : Diagnostics) (arrival : Arrival) :
    diagnostics.accept arrival = diagnostics.receive arrival.inWords := by
  cases arrival <;> rfl

/-- It makes no difference who puts a problem into words. -/
theorem acceptAll_eq (diagnostics : Diagnostics) (arrivals : List Arrival) :
    diagnostics.acceptAll arrivals = diagnostics.receiveAll (arrivals.map Arrival.inWords) := by
  rw [acceptAll, receiveAll, List.foldl_map]
  exact List.foldl_ext _ _ _ fun reached arrival _ => accept_eq reached arrival

/-!
## Storing and reading
-/

theorem limit_of_ofFields? {errors total : Json} {diagnostics : Diagnostics}
    (read : ofFields? errors total = some diagnostics) : diagnostics.limit = usualLimit := by
  cases errors with
  | array elements =>
      simp only [ofFields?, Option.bind_eq_bind, Option.bind_eq_some_iff, Option.some.injEq] at read
      rcases read with ⟨_, _, _, _, rfl⟩
      rfl
  | null | bool | number | string | object => cases read

/-- Whatever a text says, what is read from it has the usual limit. -/
theorem limit_of_read? {text : String} {diagnostics : Diagnostics}
    (read : read? text = some diagnostics) : diagnostics.limit = usualLimit := by
  rcases Option.bind_eq_some_iff.mp read with ⟨value, _, read⟩
  unfold ofJson? at read
  split at read
  · simp only [Option.bind_eq_bind, Option.bind_eq_some_iff] at read
    rcases read with ⟨_, _, _, _, _, _, read⟩
    exact limit_of_ofFields? read
  · exact limit_of_ofFields? read
  · cases read

/-- Storing and reading never fails, and what comes back has the usual limit in place of its own. -/
theorem step?_restore (diagnostics : Diagnostics) :
    diagnostics.step? .restore = some { diagnostics with limit := usualLimit } :=
  diagnostics.read?_stored

theorem steps?_arrive_append (diagnostics : Diagnostics) (arrivals : List Arrival)
    (rest : List Step) :
    diagnostics.steps? (arrivals.map .arrive ++ rest) =
      (diagnostics.receiveAll (arrivals.map Arrival.inWords)).steps? rest := by
  induction arrivals generalizing diagnostics with
  | nil => rfl
  | cons first others inductionHypothesis =>
      rw [List.map_cons, List.map_cons, receiveAll_cons, ← accept_eq, ← inductionHypothesis]
      rfl

theorem steps?_restore_cons (diagnostics : Diagnostics) (rest : List Step) :
    diagnostics.steps? (.restore :: rest) =
      steps? { diagnostics with limit := usualLimit } rest := by
  rw [steps?, List.foldlM_cons, step?_restore]
  rfl

/-- With the usual limit, only arrivals count. -/
theorem steps?_of_usualLimit {diagnostics : Diagnostics}
    (usual : diagnostics.limit = usualLimit) (steps : List Step) :
    diagnostics.steps? steps = some (diagnostics.receiveAll (arrivedIn steps)) := by
  induction steps generalizing diagnostics with
  | nil => rfl
  | cons first rest inductionHypothesis =>
      cases first with
      | arrive arrival =>
          rw [← List.singleton_append, ← List.map_singleton, steps?_arrive_append,
            inductionHypothesis ((limit_receiveAll _ _).trans usual), ← receiveAll_append]
          rfl
      | restore =>
          have unchanged : { diagnostics with limit := usualLimit } = diagnostics := by
            rw [← usual]
          rw [steps?_restore_cons, unchanged]
          exact inductionHypothesis usual

/-!
## What is held
-/

theorem Holds.of_errors_total {diagnostics : Diagnostics} {stored : List Diagnostic} {count : Nat}
    (errors : diagnostics.errors = stored) (total : diagnostics.total.toNat = count) :
    diagnostics.Holds stored count where
  errors := errors
  total := total
  hasErrors := by rw [hasErrors_iff, total]
  kinds := by rw [Diagnostics.kinds, errors]
  contains := fun kind => by rw [contains_iff, Diagnostics.kinds, errors, List.mem_map]

/-- What is held already is kept, and of what arrives as much is stored as there is
room for. -/
theorem holds_receiveAll (diagnostics : Diagnostics) (reports : List Diagnostic) :
    (diagnostics.receiveAll reports).Holds
      (diagnostics.errors ++ reports.take (diagnostics.limit - diagnostics.errors.length))
      ((diagnostics.total.toNat + reports.length) % UInt64.size) :=
  .of_errors_total (diagnostics.errors_receiveAll reports)
    (diagnostics.toNat_total_receiveAll reports)

/-- A new collector. -/
theorem holds_storing (limit : Nat) {reports : List Diagnostic}
    (fits : reports.length < UInt64.size) :
    ((storing limit).receiveAll reports).Holds (reports.take limit) reports.length := by
  have held := (storing limit).holds_receiveAll reports
  rwa [storing, UInt64.toNat_zero, Nat.zero_add, Nat.mod_eq_of_lt fits, List.length_nil,
    Nat.sub_zero, List.nil_append] at held

/-- A new collector stores the first arrivals, as many as its limit allows, and counts
all of them.  One that is read from a text goes on with what it holds, up to the usual
limit.  So does a collector that is stored and read on the way, however often. -/
theorem first_stored_and_all_counted :
    (∀ (limit : Nat) (arrivals : List Arrival), arrivals.length < UInt64.size →
      ((storing limit).acceptAll arrivals).Holds
        ((arrivals.map Arrival.inWords).take (min limit arrivals.length)) arrivals.length) ∧
    (∀ (text : String) (read : Diagnostics), read? text = some read →
      read.limit = usualLimit ∧
      ∀ steps : List Step, ∃ last, read.steps? steps = some last ∧
        last.Holds
          (read.errors ++ (arrivedIn steps).take (usualLimit - read.errors.length))
          ((read.total.toNat + (arrivedIn steps).length) % UInt64.size)) ∧
    (∀ (limit : Nat) (before : List Arrival) (after : List Step),
      before.length + (arrivedIn after).length < UInt64.size →
      let held := (before.map Arrival.inWords).take limit
      ∃ last, (storing limit).steps? (before.map .arrive ++ .restore :: after) = some last ∧
        last.Holds (held ++ (arrivedIn after).take (usualLimit - held.length))
          (before.length + (arrivedIn after).length)) := by
  refine ⟨?_, fun text read accepted => ⟨limit_of_read? accepted, fun steps => ?_⟩, ?_⟩
  · intro limit arrivals fits
    rw [← List.length_map Arrival.inWords] at fits ⊢
    rw [acceptAll_eq, ← List.take_take, List.take_length]
    exact holds_storing limit fits
  · have usual := limit_of_read? accepted
    have last := read.holds_receiveAll (arrivedIn steps)
    rw [usual] at last
    exact ⟨_, steps?_of_usualLimit usual steps, last⟩
  · intro limit before after fits held
    have few : (before.map Arrival.inWords).length < UInt64.size := by
      rw [List.length_map]
      exact Nat.lt_of_le_of_lt (Nat.le_add_right _ _) fits
    have early := holds_storing limit few
    rw [steps?_arrive_append, steps?_restore_cons]
    have last := holds_receiveAll
      { (storing limit).receiveAll (before.map Arrival.inWords) with limit := usualLimit }
      (arrivedIn after)
    rw [early.errors, early.total, List.length_map, Nat.mod_eq_of_lt fits] at last
    exact ⟨_, steps?_of_usualLimit rfl after, last⟩

/-- A variable is not known. -/
def unknownVariable : Arrival :=
  .found ⟨3, 4, 3, 9⟩ (.undefined "variable" "x")

/-- It is counted where nothing is stored, and it finds room in a collector that is
read from a text.  From 22 stored diagnostics none is dropped when they are read, and
none is added to them. -/
theorem first_stored_and_all_counted_unknownVariable :
    [unknownVariable].length < UInt64.size ∧
    ((storing 0).acceptAll [unknownVariable]).Holds [] 1 ∧
    read? "[[],7]" = some ⟨[], 7, usualLimit⟩ ∧
    (∃ last, steps? ⟨[], 7, usualLimit⟩ [.restore, .arrive unknownVariable] = some last ∧
      last.Holds [unknownVariable.inWords] 8) ∧
    (List.replicate 22 unknownVariable).length + (arrivedIn [.arrive unknownVariable]).length <
      UInt64.size ∧
    ∃ last, (storing 25).steps? ((List.replicate 22 unknownVariable).map .arrive ++
        .restore :: [.arrive unknownVariable]) = some last ∧
      last.Holds (List.replicate 22 unknownVariable.inWords) 23 := by
  have one : [unknownVariable].length < UInt64.size := by decide
  have accepted : read? "[[],7]" = some ⟨[], 7, usualLimit⟩ := by decide +kernel
  have many : (List.replicate 22 unknownVariable).length +
      (arrivedIn [.arrive unknownVariable]).length < UInt64.size := by decide
  rcases first_stored_and_all_counted with ⟨anew, fromText, onTheWay⟩
  exact ⟨one, anew 0 [unknownVariable] one, accepted,
    (fromText "[[],7]" _ accepted).2 [.restore, .arrive unknownVariable], many,
    onTheWay 25 (List.replicate 22 unknownVariable) [.arrive unknownVariable] many⟩

end Diagnostics
end StaticSemantics
