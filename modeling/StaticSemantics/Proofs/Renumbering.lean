import StaticSemantics.Proofs.WellFormed

namespace StaticSemantics

/-!
# Tables that differ in their numbers only

Two tables may hold the same types behind different numbers.  As long as different
numbers stay different, everything that the checker asks a table comes out the
same on both sides, the texts of messages included.

A check that has been performed before leaves types in the table that nothing
refers to any more.  A later check then takes larger numbers for its own types
than it would have taken otherwise.  So two tables are compared here in which
all numbers from some number on are moved up by a fixed distance.  The larger
table has room in between, and what stands there does not matter: it cannot be
reached from the numbers that correspond.  A group of types that is declared on
both sides leaves tables that correspond again.
-/

/-- Numbers from `start` on are larger by `distance`.  The numbers of the
built-in types are fixed. -/
structure Shift where
  start : Nat
  distance : Nat
  builtIn : distance = 0 ∨ 5 ≤ start

namespace Shift

def apply (shift : Shift) (id : TypeId) : TypeId :=
  if id.number < shift.start then id else ⟨id.number + shift.distance⟩

variable {shift : Shift} {id : TypeId}

theorem apply_of_lt (small : id.number < shift.start) : shift.apply id = id :=
  if_pos small

theorem apply_of_le (large : shift.start ≤ id.number) :
    shift.apply id = ⟨id.number + shift.distance⟩ :=
  if_neg (Nat.not_lt.mpr large)

/-- Without a distance nothing moves. -/
theorem apply_eq_self (still : shift.distance = 0) (id : TypeId) : shift.apply id = id := by
  unfold apply
  split
  · rfl
  · rw [still]
    rfl

theorem apply_builtIn (small : id.number < 5) : shift.apply id = id := by
  rcases shift.builtIn with still | later
  · exact apply_eq_self still id
  · exact apply_of_lt (Nat.lt_of_lt_of_le small later)

@[simp] theorem apply_int : shift.apply .int = .int :=
  apply_builtIn (by decide)

@[simp] theorem apply_string : shift.apply .string = .string :=
  apply_builtIn (by decide)

@[simp] theorem apply_void : shift.apply .void = .void :=
  apply_builtIn (by decide)

@[simp] theorem apply_nil : shift.apply .nil = .nil :=
  apply_builtIn (by decide)

@[simp] theorem apply_error : shift.apply .error = .error :=
  apply_builtIn (by decide)

theorem apply_injective {other : TypeId} (same : shift.apply id = shift.apply other) :
    id = other := by
  have numbers := congrArg TypeId.number same
  apply TypeId.eq_of_number_eq
  unfold apply at numbers
  split at numbers <;> split at numbers
  · exact numbers
  · change id.number = other.number + shift.distance at numbers
    omega
  · change id.number + shift.distance = other.number at numbers
    omega
  · exact Nat.add_right_cancel numbers

/-- All numbers stay as they are. -/
def still : Shift :=
  ⟨0, 0, .inl rfl⟩

end Shift

/-- A type with other numbers in it. -/
def Ty.rename (rename : TypeId → TypeId) : Ty → Ty
  | record fields => .record (fields.map fun field => ⟨field.name, rename field.type⟩)
  | array element => .array (rename element)
  | .alias name target => .alias name (target.map rename)
  | int => .int
  | string => .string
  | void => .void
  | nil => .nil
  | error => .error

/-- Where the parts of a type keep their numbers, so does the type. -/
theorem Ty.rename_eq_self {rename : TypeId → TypeId} {type : Ty}
    (kept : ∀ part ∈ type.parts, rename part = part) : type.rename rename = type := by
  cases type with
  | record fields =>
      have same : fields.map (fun field => ⟨field.name, rename field.type⟩) = fields.map id :=
        List.map_congr_left fun field member => by
          rw [kept field.type (List.mem_map_of_mem member)]
          rfl
      rw [Ty.rename, same, List.map_id]
  | array element => rw [Ty.rename, kept element (List.mem_singleton_self _)]
  | «alias» name target =>
      cases target with
      | none => rfl
      | some next => rw [Ty.rename, Option.map_some, kept next (List.mem_singleton_self _)]
  | _ => rfl

def AliasError.rename (rename : TypeId → TypeId) : AliasError → AliasError
  | cycle name stop => .cycle name (rename stop)
  | unresolved name stop => .unresolved name (rename stop)

theorem AliasError.stop_rename (rename : TypeId → TypeId) (error : AliasError) :
    (error.rename rename).stop = rename error.stop := by
  cases error <;> rfl

theorem AliasError.rename_eq_self {rename : TypeId → TypeId} {error : AliasError}
    (kept : rename error.stop = error.stop) : error.rename rename = error := by
  cases error with
  | cycle name stop => exact congrArg (AliasError.cycle name) kept
  | unresolved name stop => exact congrArg (AliasError.unresolved name) kept

namespace Types

/-- What is no alias is where a walk ends, whatever was passed before. -/
theorem follow_of_not_isAlias {types : Types} {steps : Nat} {passed : List TypeId} {id : TypeId}
    (concrete : types.isAlias id = false) : types.follow steps passed id = .ok id := by
  unfold follow
  split
  · simp_all [isAlias]
  · rfl

/-- Two tables with the same types, where `rename` takes the numbers of the first
one to those of the second. -/
structure Renamed (rename : TypeId → TypeId) (types other : Types) : Prop where
  injective : ∀ {first second}, rename first = rename second → first = second
  error_eq : rename .error = .error
  get_eq : ∀ id, other.get (rename id) = (types.get id).rename rename
  site_eq : ∀ id, other.site? (rename id) = types.site? id

namespace Renamed

variable {rename : TypeId → TypeId} {types other : Types}

theorem eq_iff (renamed : types.Renamed rename other) {first second : TypeId} :
    rename first = rename second ↔ first = second :=
  ⟨renamed.injective, congrArg rename⟩

theorem mem_map (renamed : types.Renamed rename other) {ids : List TypeId} {id : TypeId} :
    rename id ∈ ids.map rename ↔ id ∈ ids := by
  rw [List.mem_map]
  constructor
  · rintro ⟨listed, member, same⟩
    exact renamed.injective same ▸ member
  · exact fun member => ⟨id, member, rfl⟩

/-!
## Following aliases
-/

theorem isAlias_rename (renamed : types.Renamed rename other) (id : TypeId) :
    other.isAlias (rename id) = types.isAlias id := by
  unfold isAlias
  rw [renamed.get_eq]
  cases types.get id <;> rfl

/-- Two walks take the same steps.  Their bounds differ, but no bound is ever
what stops a walk. -/
theorem follow_rename (renamed : types.Renamed rename other) {steps otherSteps : Nat}
    {passed : List TypeId} (walking : types.Walking steps passed)
    (otherWalking : other.Walking otherSteps (passed.map rename)) (id : TypeId) :
    other.follow otherSteps (passed.map rename) (rename id) =
      match types.follow steps passed id with
      | .ok concrete => .ok (rename concrete)
      | .error error => .error (error.rename rename) := by
  -- The induction is on the walk in the smaller table.  The bounds of the two
  -- walks are not related, so each walk brings its own invariant.
  fun_induction follow types steps passed id generalizing otherSteps with
  | case1 steps passed id name target cell met =>
      unfold follow
      simp only [renamed.get_eq, cell, Ty.rename, if_pos (renamed.mem_map.mpr met)]
      rfl
  | case2 steps passed id name new cell =>
      unfold follow
      simp only [renamed.get_eq, cell, Ty.rename, if_neg (mt renamed.mem_map.mp new)]
      rfl
  | case3 passed id name new next steps cell inductionHypothesis =>
      have aliased : types.isAlias id = true := isAlias_eq_true_iff.mpr ⟨_, _, cell⟩
      have otherAliased := (renamed.isAlias_rename id).trans aliased
      have otherNew : rename id ∉ passed.map rename := mt renamed.mem_map.mp new
      cases otherSteps with
      | zero => exact absurd (otherWalking.mem_of_zero otherAliased) otherNew
      | succ otherSteps =>
          rw [follow]
          simp only [renamed.get_eq, cell, Ty.rename, if_neg otherNew, Option.map_some]
          exact inductionHypothesis (walking.next new aliased)
            (otherWalking.next otherNew otherAliased)
  | case4 passed id name new next cell =>
      have aliased : types.isAlias id = true := isAlias_eq_true_iff.mpr ⟨_, _, cell⟩
      exact absurd (walking.mem_of_zero aliased) new
  | case5 steps passed id concrete =>
      have stays : types.isAlias id = false := by
        refine eq_false_of_ne_true fun aliased => ?_
        rcases isAlias_eq_true_iff.mp aliased with ⟨name, target, cell⟩
        exact concrete name target cell
      exact follow_of_not_isAlias ((renamed.isAlias_rename id).trans stays)

theorem unalias_rename (renamed : types.Renamed rename other) (id : TypeId) :
    other.unalias (rename id) =
      match types.unalias id with
      | .ok concrete => .ok (rename concrete)
      | .error error => .error (error.rename rename) :=
  renamed.follow_rename (.start types) (.start other) id

theorem representative_rename (renamed : types.Renamed rename other) (id : TypeId) :
    other.representative (rename id) = rename (types.representative id) := by
  unfold representative
  rw [renamed.unalias_rename]
  cases types.unalias id with
  | ok concrete => rfl
  | error error => exact renamed.error_eq.symm

theorem concrete_rename (renamed : types.Renamed rename other) (id : TypeId) :
    other.concrete (rename id) = (types.concrete id).rename rename := by
  rw [concrete, renamed.representative_rename, renamed.get_eq, concrete]

/-!
## What the checker asks
-/

theorem isInteger_rename (renamed : types.Renamed rename other) (id : TypeId) :
    other.isInteger (rename id) = types.isInteger id := by
  unfold isInteger
  rw [renamed.concrete_rename]
  cases types.concrete id <;> rfl

theorem isNil_rename (renamed : types.Renamed rename other) (id : TypeId) :
    other.isNil (rename id) = types.isNil id := by
  unfold isNil
  rw [renamed.concrete_rename]
  cases types.concrete id <;> rfl

theorem isVoid_rename (renamed : types.Renamed rename other) (id : TypeId) :
    other.isVoid (rename id) = types.isVoid id := by
  unfold isVoid
  rw [renamed.concrete_rename]
  cases types.concrete id <;> rfl

theorem isError_rename (renamed : types.Renamed rename other) (id : TypeId) :
    other.isError (rename id) = types.isError id := by
  unfold isError
  rw [renamed.concrete_rename]
  cases types.concrete id <;> rfl

theorem fieldsOf?_rename (renamed : types.Renamed rename other) (id : TypeId) :
    other.fieldsOf? (rename id) = (types.fieldsOf? id).map
      fun fields => fields.map fun field => ⟨field.name, rename field.type⟩ := by
  unfold fieldsOf?
  rw [renamed.concrete_rename]
  cases types.concrete id <;> rfl

theorem elementOf?_rename (renamed : types.Renamed rename other) (id : TypeId) :
    other.elementOf? (rename id) = (types.elementOf? id).map rename := by
  unfold elementOf?
  rw [renamed.concrete_rename]
  cases types.concrete id <;> rfl

theorem agree_rename (rename : TypeId → TypeId) (first second : Ty) :
    agree (first.rename rename) (second.rename rename) = agree first second := by
  cases first <;> cases second <;> rfl

theorem compatible_rename (renamed : types.Renamed rename other) (first second : TypeId) :
    other.compatible (rename first) (rename second) = types.compatible first second := by
  have identical : (rename (types.representative first) ==
      rename (types.representative second)) =
      (types.representative first == types.representative second) := by
    rw [Bool.eq_iff_iff, beq_iff_eq, beq_iff_eq, renamed.eq_iff]
  rw [compatible, compatible, renamed.concrete_rename, renamed.concrete_rename, agree_rename,
    renamed.representative_rename, renamed.representative_rename, identical]

/-!
## What messages say
-/

theorem briefName_rename (renamed : types.Renamed rename other) (id : TypeId) :
    other.briefName (rename id) = types.briefName id := by
  unfold briefName
  rw [renamed.site_eq, renamed.get_eq]
  cases types.site? id with
  | some site => rfl
  | none => cases types.get id <;> rfl

theorem describe_rename (renamed : types.Renamed rename other) (id : TypeId) :
    other.describe (rename id) = types.describe id := by
  unfold describe
  rw [renamed.site_eq, renamed.get_eq]
  cases types.site? id with
  | some site => rfl
  | none =>
      cases types.get id with
      | record fields => simp [Ty.rename, Function.comp_def, renamed.briefName_rename]
      | array element => simp [Ty.rename, renamed.briefName_rename]
      | _ => exact renamed.briefName_rename id

theorem describeApart_rename (renamed : types.Renamed rename other) (expected found : TypeId) :
    other.describeApart (rename expected) (rename found) =
      types.describeApart expected found := by
  simp only [describeApart, withPlace, renamed.describe_rename, renamed.site_eq]

/-- Of the same members the same is reported. -/
theorem diagnosticsOf_chainReports (renamed : types.Renamed rename other)
    {group otherGroup : List TypeId} (inside : ∀ id, rename id ∈ otherGroup ↔ id ∈ group)
    (member : TypeDeclaration) (id : TypeId) :
    diagnosticsOf (other.chainReports otherGroup member (rename id)) =
      diagnosticsOf (types.chainReports group member id) := by
  unfold chainReports
  rw [renamed.unalias_rename]
  cases types.unalias id with
  | ok concrete => rfl
  | error error =>
      simp only [AliasError.stop_rename, inside]
      split <;> rfl

/-- So it is of a whole group. -/
theorem diagnosticsOf_chains (renamed : types.Renamed rename other)
    {group otherGroup : List TypeId} (inside : ∀ id, rename id ∈ otherGroup ↔ id ∈ group)
    (entries : List (TypeDeclaration × TypeId)) :
    diagnosticsOf ((entries.map (Prod.map id rename)).flatMap fun (member, id) =>
        other.chainReports otherGroup member id) =
      diagnosticsOf (entries.flatMap fun (member, id) => types.chainReports group member id) := by
  induction entries with
  | nil => rfl
  | cons entry rest inductionHypothesis =>
      have first := renamed.diagnosticsOf_chainReports inside entry.1 entry.2
      rw [List.map_cons, List.flatMap_cons, List.flatMap_cons, diagnosticsOf_append,
        diagnosticsOf_append, inductionHypothesis]
      exact congrArg (· ++ _) first

end Renamed

/-- Two tables with the same types, where all numbers from some number on are
larger in the second one. -/
structure Shifted (shift : Shift) (types other : Types) : Prop where
  start_le : shift.start ≤ types.size
  size_eq : other.size = types.size + shift.distance
  get_apply : ∀ id, other.get (shift.apply id) = (types.get id).rename shift.apply
  site_apply : ∀ id, other.site? (shift.apply id) = types.site? id
  error : 5 ≤ shift.start → types.get .error = .error

namespace Shifted

variable {shift : Shift} {types other : Types}

/-- Moving numbers up is a renaming. -/
theorem renamed (shifted : types.Shifted shift other) : types.Renamed shift.apply other where
  injective := Shift.apply_injective
  error_eq := Shift.apply_error
  get_eq := shifted.get_apply
  site_eq := shifted.site_apply

/-!
## Growing tables
-/

theorem holds_apply (shifted : types.Shifted shift other) {id : TypeId} (held : types.Holds id) :
    other.Holds (shift.apply id) := by
  have size := shifted.size_eq
  unfold Holds Shift.apply at *
  split
  · omega
  · change id.number + shift.distance < other.size
    omega

/-- A number that is not taken goes to one that is not taken. -/
theorem apply_of_not_holds (shifted : types.Shifted shift other) {index : Nat} :
    shift.apply ⟨types.size + index⟩ = ⟨other.size + index⟩ := by
  have large : shift.start ≤ types.size + index := Nat.le_add_right_of_le shifted.start_le
  rw [Shift.apply_of_le large, shifted.size_eq]
  apply TypeId.eq_of_number_eq
  change types.size + index + shift.distance = types.size + shift.distance + index
  omega

theorem exists_of_not_holds (shifted : types.Shifted shift other) {id : TypeId}
    (new : ¬ types.Holds id) :
    ∃ index, id = ⟨types.size + index⟩ ∧ shift.apply id = ⟨other.size + index⟩ := by
  rcases Nat.exists_eq_add_of_le (Nat.le_of_not_lt new) with ⟨index, number⟩
  have place : id = ⟨types.size + index⟩ := TypeId.eq_of_number_eq number
  exact ⟨index, place, place ▸ shifted.apply_of_not_holds⟩

/-- The tables still correspond after cells that correspond have been added. -/
theorem extend (shifted : types.Shifted shift other) {γ : Type} (items : List γ)
    (meaning otherMeaning : γ → Ty) (site : γ → TypeSite)
    (renamed : ∀ item ∈ items, otherMeaning item = (meaning item).rename shift.apply) :
    (types.extend (items.map fun item => ⟨meaning item, some (site item)⟩)).Shifted shift
      (other.extend (items.map fun item => ⟨otherMeaning item, some (site item)⟩)) where
  start_le := by
    rw [size_extend]
    exact Nat.le_add_right_of_le shifted.start_le
  size_eq := by
    simp only [size_extend, List.length_map, shifted.size_eq]
    omega
  get_apply := by
    intro id
    by_cases held : types.Holds id
    · rw [get_extend held, get_extend (shifted.holds_apply held), shifted.get_apply]
    · rcases shifted.exists_of_not_holds held with ⟨index, place, moved⟩
      rw [moved, place, get, get, getElem?_extend_new, getElem?_extend_new, List.getElem?_map,
        List.getElem?_map]
      cases found : items[index]? with
      | none => rfl
      | some item => exact renamed item (List.mem_of_getElem? found)
  site_apply := by
    intro id
    by_cases held : types.Holds id
    · rw [site?_extend held, site?_extend (shifted.holds_apply held), shifted.site_apply]
    · rcases shifted.exists_of_not_holds held with ⟨index, place, moved⟩
      rw [moved, place, site?, site?, getElem?_extend_new, getElem?_extend_new, List.getElem?_map,
        List.getElem?_map]
      cases items[index]? <;> rfl
  error := by
    intro builtIn
    have held : types.Holds .error :=
      Nat.lt_of_lt_of_le (by decide) (Nat.le_trans builtIn shifted.start_le)
    rw [get_extend held]
    exact shifted.error builtIn

end Shifted
end Types

/-!
## Groups of types
-/

section Groups

variable {shift : Shift} {env otherEnv : Environment}

theorem groupIds_add {size : Nat} (large : shift.start ≤ size) (members : List TypeDeclaration) :
    groupIds (size + shift.distance) members = (groupIds size members).map shift.apply := by
  induction members generalizing size with
  | nil => rfl
  | cons member rest inductionHypothesis =>
      rw [groupIds_cons, groupIds_cons, List.map_cons, Shift.apply_of_le large,
        Nat.add_right_comm, inductionHypothesis (Nat.le_succ_of_le large)]

theorem TypeExpression.meaning_rename {rename : TypeId → TypeId} (body : TypeExpression)
    (declared : String) (error : rename .error = .error)
    (names : ∀ name, otherEnv.typeOf? name = (env.typeOf? name).map rename) :
    body.meaning otherEnv declared = (body.meaning env declared).rename rename := by
  have known : ∀ name, (otherEnv.typeOf? name).getD .error =
      rename ((env.typeOf? name).getD .error) := by
    intro name
    rw [names]
    cases env.typeOf? name with
    | none => exact error.symm
    | some id => rfl
  cases body with
  | name target span =>
      rw [meaning, meaning, names]
      cases env.typeOf? target.name <;> rfl
  | record fields span => simp [meaning, Ty.rename, known]
  | array element span => rw [meaning, meaning, known, Ty.rename]

end Groups

/-!
## A table and itself
-/

namespace Types

variable {types other : Types}

theorem getElem?_cells (index : Nat) : types.cells[index]? =
    if index < types.size then some ⟨types.get ⟨index⟩, types.site? ⟨index⟩⟩ else none := by
  by_cases inside : index < types.cells.size
  · rw [if_pos (show index < types.size from inside)]
    simp [get, site?, Array.getElem?_eq_getElem inside]
  · rw [if_neg (show ¬ index < types.size from inside)]
    exact Array.getElem?_eq_none (Nat.le_of_not_lt inside)

/-- Every table corresponds to itself if nothing is moved. -/
theorem shifted_still (types : Types) : types.Shifted .still types where
  start_le := Nat.zero_le _
  size_eq := rfl
  get_apply := fun id => by
    rw [Shift.apply_eq_self rfl, Ty.rename_eq_self fun part _ => Shift.apply_eq_self rfl part]
  site_apply := fun id => by rw [Shift.apply_eq_self rfl]
  error := nofun

/-- Tables that correspond without a distance are equal. -/
theorem Shifted.eq {shift : Shift} (shifted : types.Shifted shift other)
    (still : shift.distance = 0) : other = types := by
  have size : other.size = types.size := by rw [shifted.size_eq, still, Nat.add_zero]
  have stays := Shift.apply_eq_self still
  have cells : other.cells = types.cells := by
    apply Array.ext_getElem?
    intro index
    have get := shifted.get_apply ⟨index⟩
    have site := shifted.site_apply ⟨index⟩
    rw [stays] at get site
    rw [Ty.rename_eq_self fun part _ => stays part] at get
    rw [getElem?_cells, getElem?_cells, size, get, site]
  cases other
  cases types
  exact congrArg Types.mk cells

namespace WellFormed

/-- All numbers that are taken stay, and the free ones are moved to make room. -/
def room (wellFormed : types.WellFormed) (distance : Nat) : Shift :=
  ⟨types.size, distance, .inr wellFormed.five_le_size⟩

theorem apply_room (wellFormed : types.WellFormed) (distance : Nat) {id : TypeId}
    (held : types.Holds id) : (wellFormed.room distance).apply id = id :=
  Shift.apply_of_lt held

/-- A table corresponds to itself with more cells. -/
theorem shifted_extend (wellFormed : types.WellFormed) (cells : List TypeCell) :
    types.Shifted (wellFormed.room cells.length) (types.extend cells) where
  start_le := Nat.le_refl _
  size_eq := size_extend types cells
  get_apply := by
    intro id
    by_cases held : types.Holds id
    · have kept : ∀ part ∈ (types.get id).parts,
          (wellFormed.room cells.length).apply part = part :=
        fun part member => wellFormed.apply_room _ (wellFormed.parts id part member)
      rw [wellFormed.apply_room _ held, get_extend held, Ty.rename_eq_self kept]
    · have moved : (wellFormed.room cells.length).apply id = ⟨id.number + cells.length⟩ :=
        Shift.apply_of_le (Nat.le_of_not_lt held)
      have missing : ¬ (types.extend cells).Holds ⟨id.number + cells.length⟩ := by
        simp only [Holds, size_extend] at held ⊢
        omega
      rw [moved, get_of_not_holds held, get_of_not_holds missing]
      rfl
  site_apply := by
    intro id
    by_cases held : types.Holds id
    · rw [wellFormed.apply_room _ held, site?_extend held]
    · have moved : (wellFormed.room cells.length).apply id = ⟨id.number + cells.length⟩ :=
        Shift.apply_of_le (Nat.le_of_not_lt held)
      have missing : (types.extend cells).size ≤ id.number + cells.length := by
        simp only [Holds, size_extend] at held ⊢
        omega
      rw [moved, site?, site?, Array.getElem?_eq_none (Nat.le_of_not_lt held),
        Array.getElem?_eq_none missing]
  error := fun _ => wellFormed.get_of_lt (by decide)

end WellFormed
end Types
end StaticSemantics
