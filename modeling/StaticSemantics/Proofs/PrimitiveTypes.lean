import StaticSemantics.Proofs.Compatibility

namespace StaticSemantics

/-!
# Primitive types by sort and by number

Types of one primitive sort are to agree, and it should not matter whether an
integer is asked for by its sort or by its number.  But numbers are all that the
test looks at, so this holds only as long as each primitive type stands behind
the one number that it was given at the start.

Nothing in the table sees to that.  What is declared may be defined as any type, a
primitive one included, and then there are two integers that do not agree.  The
types that a program declares are never defined so.
-/

theorem Ty.IsPrimitive.exists_builtIn {type : Ty} (primitive : type.IsPrimitive) :
    ∃ id : TypeId, id.number < 5 ∧ Types.basic.get id = type := by
  cases type with
  | int => exact ⟨.int, by decide, rfl⟩
  | string => exact ⟨.string, by decide, rfl⟩
  | void => exact ⟨.void, by decide, rfl⟩
  | nil => exact ⟨.nil, by decide, rfl⟩
  | record | array | «alias» | error => exact primitive.elim

/-- The cell of a declaration, before its type is defined. -/
def TypeCell.blank (cell : TypeCell) : TypeCell :=
  { cell with type := .alias ((cell.site.map (·.name)).getD "") none }

namespace Types

/-- The tables that can be built.  Numbers are declared, and what has been declared
is defined, as any type that refers to numbers of the table. -/
inductive Built : Types → Prop
  | basic : Built basic
  | declare {types : Types} (built : Built types) (name : String) (span : Span) :
      Built (types.declare name span).2
  | define {types : Types} {id : TypeId} {site : TypeSite} (built : Built types)
      (declared : types.site? id = some site) (type : Ty)
      (parts : ∀ part ∈ type.parts, types.Holds part) : Built (types.define id type)

/-- Types of one primitive sort agree, and an integer is told by its sort as by its
number. -/
structure PrimitivesBySort (types : Types) : Prop where
  compatible : ∀ first second, types.concrete first = types.concrete second →
    (types.concrete first).IsPrimitive → types.compatible first second = true
  integer : ∀ id, types.isInteger id = types.compatible .int id

variable {types : Types} {id : TypeId}

/-!
## What is there from the start
-/

namespace Built

theorem five_le_size (built : types.Built) : 5 ≤ types.size := by
  induction built with
  | basic => exact Nat.le_refl 5
  | declare _ name span inductionHypothesis =>
      rw [size_declare]
      exact Nat.le_succ_of_le inductionHypothesis
  | define _ _ _ _ inductionHypothesis => rwa [size_define]

/-- The built-in types were not declared, so they are never defined anew. -/
theorem of_lt (built : types.Built) (small : id.number < 5) :
    types.get id = Types.basic.get id ∧ types.site? id = none := by
  induction built with
  | basic =>
      have undeclared : ∀ number < 5, Types.basic.site? ⟨number⟩ = none := by decide
      exact ⟨rfl, undeclared id.number small⟩
  | @declare types built name span inductionHypothesis =>
      have held : types.Holds id := Nat.lt_of_lt_of_le small built.five_le_size
      rw [declare_eq, get_extend held, site?_extend held]
      exact inductionHypothesis
  | @define types other site built declared type parts inductionHypothesis =>
      have apart : id ≠ other := by
        rintro rfl
        rw [inductionHypothesis.2] at declared
        cases declared
      rw [get_define_of_ne apart, site?_define]
      exact inductionHypothesis

theorem get_of_lt (built : types.Built) (small : id.number < 5) :
    types.get id = Types.basic.get id :=
  (built.of_lt small).1

end Built

/-!
## Where the sort decides
-/

/-- A primitive type that has been defined does not agree with the built-in one. -/
theorem Built.exists_not_compatible (built : types.Built)
    (primitive : (types.get id).IsPrimitive) (defined : 5 ≤ id.number) :
    ∃ other, types.concrete id = types.concrete other ∧ types.compatible id other = false := by
  rcases Ty.IsPrimitive.exists_builtIn primitive with ⟨other, small, same⟩
  rw [← built.get_of_lt small] at same
  have otherPrimitive : (types.get other).IsPrimitive := by rwa [same]
  have sort : types.concrete id = types.concrete other := by
    rw [concrete_of_isPrimitive primitive, concrete_of_isPrimitive otherPrimitive, same]
  refine ⟨other, sort, eq_false_of_ne_true fun agrees => ?_⟩
  rw [compatible_iff_of_isPrimitive sort (by rwa [concrete_of_isPrimitive primitive]),
    representative_of_isPrimitive primitive, representative_of_isPrimitive otherPrimitive] at agrees
  rw [agrees] at defined
  exact Nat.not_lt_of_le defined small

/-- The sort decides exactly as long as no primitive type has been defined. -/
theorem Built.primitivesBySort_iff (built : types.Built) :
    types.PrimitivesBySort ↔ ∀ id, (types.get id).IsPrimitive → id.number < 5 := by
  constructor
  · intro bySort id primitive
    refine Nat.lt_of_not_le fun defined => ?_
    rcases built.exists_not_compatible primitive defined with ⟨other, same, differs⟩
    rw [← concrete_of_isPrimitive primitive] at primitive
    rw [bySort.compatible id other same primitive] at differs
    cases differs
  · intro builtIn
    have keeps : types.KeepsPrimitives := ⟨fun _ => built.get_of_lt, builtIn⟩
    refine ⟨fun first second same primitive => ?_, keeps.isInteger_eq⟩
    rw [compatible_iff_of_isPrimitive same primitive]
    exact keeps.representative_eq same rfl (same ▸ primitive)

/-- Types of one primitive sort agree if they come to the same number, and an
integer is told by its sort as by its number if it comes to the number of integers.
So sorts decide in a table that has been built exactly if no primitive type stands
behind a number that was declared. -/
theorem primitives_told_by_number (built : types.Built) :
    (∀ first second, types.concrete first = types.concrete second →
      (types.concrete first).IsPrimitive →
      (types.compatible first second = true ↔
        types.representative first = types.representative second)) ∧
    (∀ id, types.isInteger id = types.compatible .int id ↔
      (types.concrete id = .int → types.representative id = .int)) ∧
    (types.PrimitivesBySort ↔ ∀ id, (types.get id).IsPrimitive → id.number < 5) :=
  ⟨fun _ _ => compatible_iff_of_isPrimitive,
    fun _ => isInteger_eq_iff (built.get_of_lt (by decide)), built.primitivesBySort_iff⟩

/-- A table with one declared number, whose type is still to be defined. -/
def oneDeclared : Types :=
  (basic.declare "count" (.point 1 6)).2

/-- If it is defined as another name for the integers, the sorts decide. -/
theorem primitives_told_by_number_alias :
    (oneDeclared.define ⟨5⟩ (.alias "count" (some .int))).Built ∧
    (oneDeclared.define ⟨5⟩ (.alias "count" (some .int))).PrimitivesBySort := by
  have built : (oneDeclared.define ⟨5⟩ (.alias "count" (some .int))).Built :=
    .define (.declare .basic "count" (.point 1 6)) rfl _ (by decide)
  refine ⟨built, (primitives_told_by_number built).2.2.mpr fun id primitive => ?_⟩
  by_cases same : id = ⟨5⟩
  · subst same
    exact primitive.elim
  · have held := holds_of_get_ne_error fun unknown => (unknown ▸ primitive : Ty.error.IsPrimitive)
    have inside : id.number < 6 := held
    have apart : id.number ≠ 5 := fun number => same (TypeId.eq_of_number_eq number)
    omega

/-- If it is defined as an integer, then it is one and does not agree with the
integers, so the sorts do not decide in every table that can be built. -/
theorem second_integer_disagrees :
    (oneDeclared.define ⟨5⟩ .int).Built ∧
    (oneDeclared.define ⟨5⟩ .int).concrete ⟨5⟩ = .int ∧
    (oneDeclared.define ⟨5⟩ .int).concrete .int = .int ∧
    (oneDeclared.define ⟨5⟩ .int).compatible .int ⟨5⟩ = false ∧
    (oneDeclared.define ⟨5⟩ .int).isInteger ⟨5⟩ = true :=
  ⟨.define (.declare .basic "count" (.point 1 6)) rfl _ (by decide), by decide, by decide,
    by decide, by decide⟩

/-!
## The tables of checks
-/

/-- All cells are declared first. -/
theorem Built.declareAll (built : types.Built) {cells : List TypeCell}
    (declared : ∀ cell ∈ cells, ∃ site, cell.site = some site) :
    (types.extend (cells.map TypeCell.blank)).Built := by
  induction cells generalizing types with
  | nil => rwa [List.map_nil, extend_nil]
  | cons first rest inductionHypothesis =>
      rcases declared first List.mem_cons_self with ⟨site, known⟩
      have one := built.declare site.name site.span
      have cell : first.blank = ⟨.alias site.name none, some site⟩ := by
        rw [TypeCell.blank, known]
        rfl
      rw [declare_eq, ← cell] at one
      have all := inductionHypothesis one fun cell listed =>
        declared cell (List.mem_cons_of_mem _ listed)
      rwa [extend_extend] at all

/-- Then they are defined, one after the other. -/
theorem Built.defineAll {cells : List TypeCell}
    (built : (types.extend (cells.map TypeCell.blank)).Built)
    (declared : ∀ cell ∈ cells, ∃ site, cell.site = some site)
    (parts : ∀ cell ∈ cells, ∀ part ∈ cell.type.parts, (types.extend cells).Holds part) :
    (types.extend cells).Built := by
  induction cells generalizing types with
  | nil => exact built
  | cons first rest inductionHypothesis =>
      rcases declared first List.mem_cons_self with ⟨site, known⟩
      have here : (types.extend ((first :: rest).map TypeCell.blank)).site? ⟨types.size⟩ =
          some site := by
        rw [site?, ← Nat.add_zero types.size, getElem?_extend_new]
        exact known
      have one := built.define here first.type fun part member => by
        have held := parts first List.mem_cons_self part member
        rw [Holds, size_extend] at held ⊢
        rwa [List.length_map]
      rw [List.map_cons, define_extend] at one
      have all := inductionHypothesis one
        (fun cell listed => declared cell (List.mem_cons_of_mem _ listed))
        (fun cell listed part member => by
          have held := parts cell (List.mem_cons_of_mem _ listed) part member
          rwa [extend_extend])
      rwa [extend_extend] at all

/-- A table in which all types are declared and refer to numbers of the table can
be built. -/
theorem WellFormed.built (wellFormed : types.WellFormed) : types.Built := by
  rcases wellFormed.builtIn with ⟨cells, rfl⟩
  have proper : ∀ cell ∈ cells, (∃ site, cell.site = some site) ∧
      ∀ part ∈ cell.type.parts, (Types.basic.extend cells).Holds part := by
    intro cell listed
    rcases List.getElem?_of_mem listed with ⟨index, found⟩
    have here : (Types.basic.extend cells).cells[5 + index]? = some cell := by
      rw [← found]
      exact getElem?_extend_new Types.basic cells index
    have inside : index < cells.length := (List.getElem?_eq_some_iff.mp found).1
    have held : (Types.basic.extend cells).Holds ⟨5 + index⟩ := by
      rw [Holds, size_extend, size_basic]
      exact Nat.add_lt_add_left inside 5
    have declared := (wellFormed.declared ⟨5 + index⟩ held (Nat.le_add_right 5 index)).2
    have parts := wellFormed.parts ⟨5 + index⟩
    rw [site?, here] at declared
    rw [get, here] at parts
    exact ⟨declared, parts⟩
  have declared := fun cell listed => (proper cell listed).1
  exact (Built.basic.declareAll declared).defineAll declared fun cell listed => (proper cell listed).2

end Types

/-- In every history the table is one that can be built, and the sorts decide. -/
theorem History.primitives_told_by_sort (outermost : Frame) (requests : List Request) :
    let types := (ofRequests outermost requests).state.types
    types.Built ∧ types.PrimitivesBySort := by
  intro types
  have wellFormed : types.WellFormed :=
    (Discipline.wellFormed_ofRequests outermost requests).sound.1
  exact ⟨wellFormed.built,
    wellFormed.built.primitivesBySort_iff.mpr wellFormed.keepsPrimitives.primitive⟩

end StaticSemantics
