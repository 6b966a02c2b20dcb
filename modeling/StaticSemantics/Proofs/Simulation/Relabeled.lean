import StaticSemantics.Proofs.Simulation.Trees

namespace StaticSemantics

/-!
# Tables with other names

A table of types holds names and places: those of the fields of records, those
of aliases, and those of the declarations that it remembers.  Where they are
changed, nothing changes that a check can ask about a number, because aliases
are followed by number and records are told apart by number.
-/

namespace Ty

def relabel (relabeling : Relabeling) : Ty → Ty
  | record fields => .record (fields.map fun field => ⟨relabeling.name field.name, field.type⟩)
  | .alias name target => .alias (relabeling.name name) target
  | int => .int
  | string => .string
  | void => .void
  | nil => .nil
  | array element => .array element
  | error => .error

theorem alike_relabel (relabeling : Relabeling) (type : Ty) :
    Ty.Alike relabeling.name (fun id other => other = id) type (type.relabel relabeling) := by
  cases type with
  | int => exact .int
  | string => exact .string
  | void => exact .void
  | nil => exact .nil
  | error => exact .error
  | record fields =>
      refine .record (List.forall₂_map_right_iff.mpr (List.forall₂_same.mpr fun field _ => ?_))
      exact ⟨rfl, rfl⟩
  | array element => exact .array rfl
  | «alias» name target =>
      cases target with
      | none => exact .alias name .none
      | some target => exact .alias name (.some rfl)

/-- A type that is like another one in all its parts is its relabeled copy. -/
theorem Alike.eq_relabel {relabeling : Relabeling} {type other : Ty}
    (alike : Ty.Alike relabeling.name (fun id other => other = id) type other) :
    other = type.relabel relabeling := by
  cases alike with
  | int | string | void | nil | error => rfl
  | array elements => rw [elements, relabel]
  | record alike =>
      refine congrArg Ty.record ?_
      induction alike with
      | nil => rfl
      | @cons field other _ _ first _ inductionHypothesis =>
          obtain ⟨name, type⟩ := other
          cases first.name_eq
          cases first.types
          rw [inductionHypothesis, List.map_cons]
  | «alias» name targets =>
      cases targets with
      | none => rfl
      | some same => rw [same, relabel]

theorem relabel_none (type : Ty) : type.relabel .none = type := by
  cases type with
  | record fields => exact congrArg Ty.record (List.map_id fields)
  | _ => rfl

end Ty

def TypeCell.relabel (relabeling : Relabeling) (cell : TypeCell) : TypeCell :=
  ⟨cell.type.relabel relabeling, cell.site.map (·.relabel relabeling)⟩

theorem TypeCell.Alike.eq_relabel {relabeling : Relabeling} {cell other : TypeCell}
    (alike : TypeCell.Alike relabeling (fun id other => other = id) cell other) :
    other = cell.relabel relabeling := by
  rcases alike.sites with ⟨site, known, otherKnown⟩
  obtain ⟨type, otherSite⟩ := other
  cases otherKnown
  rw [relabel, known, Option.map_some, ← alike.types.eq_relabel]

theorem TypeCell.eq_map_relabel {relabeling : Relabeling} {cells others : List TypeCell}
    (alike : cells.Forall₂ (TypeCell.Alike relabeling fun id other => other = id) others) :
    others = cells.map (·.relabel relabeling) := by
  induction alike with
  | nil => rfl
  | cons first _ inductionHypothesis => rw [first.eq_relabel, inductionHypothesis, List.map_cons]

theorem TypeCell.relabel_none (cell : TypeCell) : cell.relabel .none = cell := by
  have sites : cell.site.map (·.relabel .none) = cell.site := Option.map_id_apply
  rw [relabel, Ty.relabel_none, sites]

/-- A walk that stops elsewhere only by name. -/
def AliasError.relabel (relabeling : Relabeling) : AliasError → AliasError
  | cycle name stop => .cycle (relabeling.name name) stop
  | unresolved name stop => .unresolved (relabeling.name name) stop

namespace Types

variable (relabeling : Relabeling)

/-- The same table with other names and places. -/
def relabel (types : Types) : Types :=
  ⟨types.cells.map (·.relabel relabeling)⟩

@[simp] theorem size_relabel (types : Types) : (types.relabel relabeling).size = types.size :=
  Array.size_map

theorem get_relabel (types : Types) (id : TypeId) :
    (types.relabel relabeling).get id = (types.get id).relabel relabeling := by
  unfold get relabel
  rw [Array.getElem?_map]
  cases types.cells[id.number]? <;> rfl

theorem relabel_none (types : Types) : types.relabel .none = types := by
  rw [relabel, funext TypeCell.relabel_none, Array.map_id']

/-- Nothing is called by a name in the table of the built-in types. -/
theorem relabel_basic : basic.relabel relabeling = basic := by
  simp [relabel, basic, TypeCell.relabel, Ty.relabel]

theorem relabel_extend (types : Types) (cells : List TypeCell) :
    (types.extend cells).relabel relabeling =
      (types.relabel relabeling).extend (cells.map (·.relabel relabeling)) := by
  simp [extend, relabel]

/-- A walk goes by numbers, so it takes the same way whatever the names are. -/
theorem follow_relabel (types : Types) (steps : Nat) (passed : List TypeId) (id : TypeId) :
    (types.relabel relabeling).follow steps passed id =
      (types.follow steps passed id).mapError (·.relabel relabeling) := by
  fun_induction follow types steps passed id with
  | case1 steps passed id name target cell met =>
      unfold follow
      simp only [get_relabel, cell, Ty.relabel, if_pos met]
      rfl
  | case2 steps passed id name new cell =>
      unfold follow
      simp only [get_relabel, cell, Ty.relabel, if_neg new]
      rfl
  | case3 passed id name new next steps cell inductionHypothesis =>
      rw [follow]
      simp only [get_relabel, cell, Ty.relabel, if_neg new]
      exact inductionHypothesis
  | case4 passed id name new next cell =>
      rw [follow]
      simp only [get_relabel, cell, Ty.relabel, if_neg new]
      rfl
  | case5 steps passed id concrete =>
      have stays : (types.relabel relabeling).isAlias id = false := by
        unfold isAlias
        rw [get_relabel]
        cases cell : types.get id with
        | «alias» name target => exact absurd cell (concrete name target)
        | _ => rfl
      exact follow_of_not_isAlias stays

theorem unalias_relabel (types : Types) (id : TypeId) :
    (types.relabel relabeling).unalias id =
      (types.unalias id).mapError (·.relabel relabeling) := by
  rw [unalias, unalias, size_relabel, follow_relabel]

theorem representative_relabel (types : Types) (id : TypeId) :
    (types.relabel relabeling).representative id = types.representative id := by
  unfold representative
  rw [unalias_relabel]
  cases types.unalias id <;> rfl

theorem concrete_relabel (types : Types) (id : TypeId) :
    (types.relabel relabeling).concrete id = (types.concrete id).relabel relabeling := by
  rw [concrete, representative_relabel, get_relabel, concrete]

theorem stopsWithin_relabel (types : Types) (group : List TypeId) (id : TypeId) :
    (types.relabel relabeling).stopsWithin group id = types.stopsWithin group id := by
  unfold stopsWithin
  rw [unalias_relabel]
  cases types.unalias id with
  | ok concrete => rfl
  | error error => cases error <;> rfl

end Types

/-- Under other names, and at other places, with the numbers of types the same. -/
def Simulation.relabeled (relabeling : Relabeling) (visible : String → Prop) (literal : Prop)
    (still : literal → relabeling = .none) : Simulation where
  relabeling := relabeling
  Visible := visible
  literal := literal
  Tables types other := other = types.relabel relabeling
  Values _ _ id other := other = id
  size_eq := by
    rintro types _ rfl
    exact Types.size_relabel relabeling types
  builtIn := fun _ _ => rfl
  representative := by
    rintro types _ id _ rfl rfl
    exact Types.representative_relabel relabeling types _
  concrete := by
    rintro types _ id _ rfl rfl
    rw [Types.concrete_relabel]
    exact Ty.alike_relabel relabeling _
  identity := by
    rintro types _ first _ second _ rfl rfl rfl
    rw [Types.representative_relabel, Types.representative_relabel]
  extend := by
    rintro types _ cells others group rfl _ alike
    have plain := alike.imp fun cell other cells => cells.imp fun id otherId target => by
      rcases target with same | ⟨same, _⟩ <;> exact same
    rw [TypeCell.eq_map_relabel plain, ← Types.relabel_extend]
    exact ⟨rfl, fun _ _ => id, fun _ _ => rfl,
      fun id _ => Types.stopsWithin_relabel relabeling _ group id⟩
  relabeling_of_literal := still
  tables_of_literal := by
    rintro exact types _ rfl
    rw [still exact, Types.relabel_none]
  values_of_literal := fun _ _ _ _ _ same => same

end StaticSemantics
