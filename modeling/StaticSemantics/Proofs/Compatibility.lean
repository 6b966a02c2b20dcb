import StaticSemantics.Proofs.WellFormed

namespace StaticSemantics

/-!
# Agreement between types

Whether two types agree is asked for almost every rule, so its laws are what the
rules rest on.  It is an equivalence as long as neither `nil` nor the error type
comes in between: `nil` agrees with all records, and the error type with
everything, but two records have no more to do with each other for that.

The test compares numbers first, and sorts of types only then.  That is enough
for the built-in types because each of them stands behind one number: a declared
type is a record, an array, an alias or the error type, and never an integer
itself.  So it does not matter either whether an integer is asked for by its sort
or by its number.
-/

/-- A type that is told from others by its sort alone. -/
def Ty.IsPrimitive : Ty → Prop
  | .int | .string | .void | .nil => True
  | _ => False

theorem Ty.IsPrimitive.not_isDeclared {type : Ty} (primitive : type.IsPrimitive) :
    ¬ type.IsDeclared := by
  cases type with
  | int | string | void | nil => exact fun declared => declared
  | record | array | «alias» | error => exact primitive.elim

/-- A record or an array, which is told from others by its declaration. -/
def Ty.IsNominal : Ty → Prop
  | .record _ | .array _ => True
  | _ => False

namespace Types

variable {types : Types} {id first second other : TypeId}

/-- A type that no declaration makes belongs to a built-in number. -/
theorem WellFormed.lt_of_not_isDeclared (wellFormed : types.WellFormed)
    (plain : ¬ (types.get id).IsDeclared) : id.number < 5 := by
  refine Nat.lt_of_not_le fun behind => ?_
  by_cases held : types.Holds id
  · exact plain (wellFormed.declared id held behind).1
  · rw [get_of_not_holds held] at plain
    exact plain trivial

/-- No two of the built-in numbers have one type behind them. -/
theorem eq_of_get_basic_eq (small : first.number < 5) (otherSmall : second.number < 5)
    (same : basic.get first = basic.get second) : first = second := by
  have distinct : ∀ number < 5, ∀ other < 5,
      basic.get ⟨number⟩ = basic.get ⟨other⟩ → number = other := by decide
  exact TypeId.eq_of_number_eq (distinct _ small _ otherSmall same)

/-- Each primitive type stands behind the number that it was given at the start, and
behind no other. -/
structure KeepsPrimitives (types : Types) : Prop where
  builtIn : ∀ id, id.number < 5 → types.get id = basic.get id
  primitive : ∀ id, (types.get id).IsPrimitive → id.number < 5

theorem WellFormed.keepsPrimitives (wellFormed : types.WellFormed) : types.KeepsPrimitives where
  builtIn := fun _ => wellFormed.get_of_lt
  primitive := fun _ primitive => wellFormed.lt_of_not_isDeclared primitive.not_isDeclared

/-- So a primitive type tells its number. -/
theorem KeepsPrimitives.eq_of_get_eq (keeps : types.KeepsPrimitives) {type : Ty}
    (one : types.get first = type) (two : types.get second = type)
    (primitive : type.IsPrimitive) : first = second := by
  have small := keeps.primitive first (one.symm ▸ primitive)
  have otherSmall := keeps.primitive second (two.symm ▸ primitive)
  rw [keeps.builtIn first small] at one
  rw [keeps.builtIn second otherSmall] at two
  exact eq_of_get_basic_eq small otherSmall (one.trans two.symm)

/-- Two types that come to the same primitive type come to the same number. -/
theorem KeepsPrimitives.representative_eq (keeps : types.KeepsPrimitives) {type : Ty}
    (one : types.concrete first = type) (two : types.concrete second = type)
    (primitive : type.IsPrimitive) :
    types.representative first = types.representative second :=
  keeps.eq_of_get_eq one two primitive

theorem isNil_iff : types.isNil id = true ↔ types.concrete id = .nil := by
  rw [isNil, beq_iff_eq]

theorem isVoid_iff : types.isVoid id = true ↔ types.concrete id = .void := by
  rw [isVoid, beq_iff_eq]

theorem isError_iff : types.isError id = true ↔ types.concrete id = .error := by
  rw [isError, beq_iff_eq]

/-- The two exceptions, told by the sorts of the types. -/
theorem agree_iff {type other : Ty} : agree type other = true ↔
    type = .error ∨ other = .error ∨ (type = .nil ∧ ∃ fields, other = .record fields) ∨
      ((∃ fields, type = .record fields) ∧ other = .nil) := by
  cases type <;> cases other <;> simp [agree]

theorem compatible_iff : types.compatible first second = true ↔
    types.representative first = types.representative second ∨
      agree (types.concrete first) (types.concrete second) = true := by
  rw [compatible, Bool.or_eq_true, beq_iff_eq]

theorem compatible_of_isError (unknown : types.isError first = true) (second : TypeId) :
    types.compatible first second = true :=
  compatible_iff.mpr (.inr (agree_iff.mpr (.inl (isError_iff.mp unknown))))

theorem concrete_error (error : types.get .error = .error) : types.concrete .error = .error := by
  rw [concrete, representative_of_not_isAlias (by simp [isAlias, error]), error]

theorem isError_error (error : types.get .error = .error) : types.isError .error = true := by
  rw [isError, concrete_error error]
  rfl

theorem isInteger_error (error : types.get .error = .error) : types.isInteger .error = true := by
  rw [isInteger, concrete_error error]

theorem isNil_error (error : types.get .error = .error) : types.isNil .error = false := by
  rw [isNil, concrete_error error]
  rfl

theorem isVoid_error (error : types.get .error = .error) : types.isVoid .error = false := by
  rw [isVoid, concrete_error error]
  rfl

theorem compatible_error_left (error : types.get .error = .error) (found : TypeId) :
    types.compatible .error found = true := by
  rw [compatible, concrete_error error, Bool.or_eq_true]
  exact .inr rfl

theorem compatible_error_right (error : types.get .error = .error) (expected : TypeId) :
    types.compatible expected .error = true := by
  rw [compatible_comm]
  exact compatible_error_left error expected

/-- Only where numbers lead is looked at. -/
theorem compatible_congr {otherSecond : TypeId}
    (same : types.representative first = types.representative other)
    (sameSecond : types.representative second = types.representative otherSecond) :
    types.compatible first second = types.compatible other otherSecond := by
  rw [compatible, compatible, concrete, concrete, same, sameSecond, concrete, concrete]

/-- Two types of one primitive sort agree only if they come to the same number. -/
theorem compatible_iff_of_isPrimitive (same : types.concrete first = types.concrete second)
    (primitive : (types.concrete first).IsPrimitive) :
    types.compatible first second = true ↔
      types.representative first = types.representative second := by
  have apart : agree (types.concrete first) (types.concrete second) = false := by
    rw [← same]
    revert primitive
    cases types.concrete first with
    | int | string | void | nil | array | «alias» => exact fun _ => rfl
    | record | error => exact False.elim
  rw [compatible_iff, apart]
  simp

/-- A primitive type stands for itself. -/
theorem representative_of_isPrimitive (primitive : (types.get id).IsPrimitive) :
    types.representative id = id := by
  refine representative_of_not_isAlias ?_
  unfold isAlias
  cases cell : types.get id <;> simp_all [Ty.IsPrimitive]

theorem concrete_of_isPrimitive (primitive : (types.get id).IsPrimitive) :
    types.concrete id = types.get id := by
  rw [concrete, representative_of_isPrimitive primitive]

/-- To ask for an integer by its sort is the same as to ask for its number, unless
an integer stands behind another number. -/
theorem isInteger_eq_iff (int : types.get .int = .int) :
    types.isInteger id = types.compatible .int id ↔
      (types.concrete id = .int → types.representative id = .int) := by
  have primitive : (types.get .int).IsPrimitive := by
    rw [int]
    trivial
  have itself := representative_of_isPrimitive primitive
  have sort : types.concrete .int = .int := (concrete_of_isPrimitive primitive).trans int
  by_cases integer : types.concrete id = .int
  · have agrees := compatible_iff_of_isPrimitive (sort.trans integer.symm) (by rw [sort]; trivial)
    rw [itself] at agrees
    have told : types.isInteger id = true := by
      rw [isInteger, integer]
    rw [told, eq_comm, agrees, eq_comm]
    exact ⟨fun same _ => same, fun same => same integer⟩
  · have apart : types.representative .int ≠ types.representative id := by
      intro same
      rw [concrete, ← same] at integer
      exact integer sort
    refine iff_of_true ?_ fun found => absurd found integer
    rw [Bool.eq_iff_iff, compatible_iff, agree_iff, sort]
    cases other : types.concrete id <;> simp_all [isInteger]

theorem KeepsPrimitives.isInteger_eq (keeps : types.KeepsPrimitives) (id : TypeId) :
    types.isInteger id = types.compatible .int id := by
  have int : types.get .int = .int := keeps.builtIn .int (by decide)
  exact (isInteger_eq_iff int).mpr fun found => keeps.eq_of_get_eq found int trivial

/-- A record or an array stands for itself. -/
theorem representative_of_isNominal (nominal : (types.get id).IsNominal) :
    types.representative id = id := by
  refine representative_of_not_isAlias ?_
  unfold isAlias
  cases cell : types.get id <;> simp_all [Ty.IsNominal]

/-- The laws of agreement.  A type that is not known agrees with everything, and
`nil` with records; all others agree exactly if they come to the same number. -/
structure CompatibilityLaws (types : Types) : Prop where
  refl : ∀ id, types.compatible id id = true
  symm : ∀ first second, types.compatible first second = types.compatible second first
  congr : ∀ first other second otherSecond,
    types.representative first = types.representative other →
    types.representative second = types.representative otherSecond →
    types.compatible first second = types.compatible other otherSecond
  /-- There is a way around only through `nil` and through what is not known. -/
  trans : ∀ first middle last, types.isNil middle = false → types.isError middle = false →
    types.compatible first middle = true → types.compatible middle last = true →
    types.compatible first last = true
  same : ∀ first second, types.isNil first = false → types.isError first = false →
    types.isNil second = false → types.isError second = false →
    (types.compatible first second = true ↔
      types.representative first = types.representative second)
  /-- Two declarations of records or arrays are two types, whatever is in them. -/
  nominal : ∀ first second, (types.get first).IsNominal → (types.get second).IsNominal →
    first ≠ second → types.compatible first second = false
  nil : ∀ id other, types.isNil id = true →
    (types.compatible id other = true ↔ types.isNil other = true ∨
      (∃ fields, types.fieldsOf? other = some fields) ∨ types.isError other = true)
  error : ∀ id other, types.isError id = true → types.compatible id other = true
  integer : ∀ id, types.isInteger id = types.compatible .int id

namespace WellFormed

/-- Of the two exceptions, only what is not known makes a difference to a type
that is not `nil`. -/
theorem compatible_trans (wellFormed : types.WellFormed) {middle last : TypeId}
    (notNil : types.isNil middle = false) (known : types.isError middle = false)
    (one : types.compatible first middle = true) (two : types.compatible middle last = true) :
    types.compatible first last = true := by
  have middleNil : types.concrete middle ≠ .nil := by simpa [isNil] using notNil
  have middleError : types.concrete middle ≠ .error := by simpa [isError] using known
  rcases compatible_iff.mp one with same | exception
  · rwa [compatible_congr same rfl]
  rcases agree_iff.mp exception with unknown | unknown | ⟨isNil, fields, record⟩ | ⟨_, isNil⟩
  · exact compatible_of_isError (isError_iff.mpr unknown) last
  · exact absurd unknown middleError
  · -- `nil`, then a record: what agrees with the record is the record, `nil` or not known.
    rcases compatible_iff.mp two with same | exception
    · have lastRecord : types.concrete last = .record fields := by
        rw [concrete, ← same]
        exact record
      rw [compatible_iff, isNil, lastRecord]
      exact .inr rfl
    rcases agree_iff.mp exception with unknown | unknown | ⟨isNil, _⟩ | ⟨_, lastNil⟩
    · exact absurd unknown middleError
    · exact compatible_iff.mpr (.inr (agree_iff.mpr (.inr (.inl unknown))))
    · exact absurd isNil middleNil
    · have same := wellFormed.keepsPrimitives.representative_eq isNil lastNil trivial
      exact compatible_iff.mpr (.inl same)
  · exact absurd isNil middleNil

theorem compatible_nil_iff (wellFormed : types.WellFormed) (isNil : types.isNil id = true) :
    types.compatible id other = true ↔ types.isNil other = true ∨
      (∃ fields, types.fieldsOf? other = some fields) ∨ types.isError other = true := by
  rw [isNil_iff] at isNil
  simp only [isNil_iff, isError_iff, fieldsOf?_eq_some_iff]
  rw [compatible_iff, agree_iff, isNil]
  constructor
  · rintro (same | impossible | unknown | ⟨_, record⟩ | ⟨⟨_, impossible⟩, _⟩)
    · left
      rw [concrete, ← same]
      exact isNil
    · cases impossible
    · exact .inr (.inr unknown)
    · exact .inr (.inl record)
    · cases impossible
  · rintro (otherNil | record | unknown)
    · exact .inl (wellFormed.keepsPrimitives.representative_eq isNil otherNil trivial)
    · exact .inr (.inr (.inr (.inl ⟨rfl, record⟩)))
    · exact .inr (.inr (.inl unknown))

theorem compatibilityLaws (wellFormed : types.WellFormed) : types.CompatibilityLaws where
  refl := types.compatible_self
  symm := types.compatible_comm
  congr := fun _ _ _ _ => compatible_congr
  trans := fun _ _ _ => wellFormed.compatible_trans
  same := by
    intro first second notNil known otherNotNil otherKnown
    rw [compatible_iff, agree_iff]
    simp_all [isNil, isError]
  nominal := by
    intro first second nominal otherNominal different
    refine eq_false_of_ne_true fun agrees => ?_
    rcases compatible_iff.mp agrees with same | exception
    · rw [representative_of_isNominal nominal, representative_of_isNominal otherNominal] at same
      exact different same
    · rw [concrete, concrete, representative_of_isNominal nominal,
        representative_of_isNominal otherNominal] at exception
      cases cell : types.get first <;> cases otherCell : types.get second <;>
        simp_all [Ty.IsNominal, agree]
  nil := fun _ _ => wellFormed.compatible_nil_iff
  error := fun _ other unknown => compatible_of_isError unknown other
  integer := wellFormed.keepsPrimitives.isInteger_eq

end WellFormed
end Types

/-- Where an integer is expected, the short way to find out reports what the long
one does. -/
theorem Check.run_expectInteger {state : State} (wellFormed : state.types.WellFormed)
    (found : TypeId) (span : Span) (name : Option String) :
    (expectInteger found span name).run state = (expectCompatible .int found span name).run state := by
  change (if state.types.isInteger found then Pure.pure () else
    expectCompatible .int found span name : Check Unit).run state = _
  cases integer : state.types.isInteger found with
  | false => rfl
  | true =>
      rw [wellFormed.keepsPrimitives.isInteger_eq] at integer
      rw [run_expectCompatible, if_pos integer]
      rfl

/-- In every history the laws of agreement hold, and it makes no difference
whether a type is asked to be that of an integer or to agree with it. -/
theorem History.types_agree_lawfully (outermost : Frame) (requests : List Request) :
    let state := (ofRequests outermost requests).state
    state.types.CompatibilityLaws ∧
    ∀ (found : TypeId) (span : Span) (name : Option String),
      (Check.expectInteger found span name).run state =
        (Check.expectCompatible .int found span name).run state := by
  intro state
  have wellFormed : state.types.WellFormed :=
    (Discipline.wellFormed_ofRequests outermost requests).sound.1
  exact ⟨wellFormed.compatibilityLaws, Check.run_expectInteger wellFormed⟩

end StaticSemantics
