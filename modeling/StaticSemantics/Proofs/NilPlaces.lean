import StaticSemantics.Proofs.Compatibility

namespace StaticSemantics

/-!
# Nothing is of the type of `nil`

`nil` is a value of every record type, and has a number of its own only so that
it can be told from other values.  A value may come to that number from deep
inside, out of the branches of a choice or at the end of a block.  A variable, a
parameter, a field or an element has the type of a record instead, and could not
hold anything but `nil` otherwise.

No name stands for that number, and what names do not stand for is not written
into the table either.  The only other way into a place is from an initial value
without an annotation, and there it is asked whether the value is `nil`.
-/

namespace Types

/-- No type of the table refers to the number of `nil`. -/
def NilFree (types : Types) : Prop :=
  ∀ id, ∀ part ∈ (types.get id).parts, part ≠ .nil

variable {types : Types}

theorem NilFree.basic : Types.basic.NilFree := by
  intro id part member
  rw [parts_basic] at member
  cases member

/-- The number of `nil` is the only one behind which `nil` stands. -/
theorem WellFormed.get_eq_nil_iff (wellFormed : types.WellFormed) {id : TypeId} :
    types.get id = .nil ↔ id = .nil := by
  have itself : types.get .nil = .nil := wellFormed.get_of_lt (by decide)
  constructor
  · exact fun isNil => wellFormed.keepsPrimitives.eq_of_get_eq isNil itself trivial
  · rintro rfl
    exact itself

/-- Where no type refers to the number of `nil`, no chain of aliases ends there
but the one that starts there. -/
theorem NilFree.isNil_iff (nilFree : types.NilFree) (wellFormed : types.WellFormed)
    {id : TypeId} : types.isNil id = true ↔ id = .nil := by
  rw [Types.isNil_iff, concrete, wellFormed.get_eq_nil_iff]
  constructor
  · intro ends
    unfold representative at ends
    split at ends
    · rename_i concrete arrives
      rcases (unalias_eq_ok_iff.mp arrives).1 with ⟨steps, chain⟩
      refine Decidable.byContradiction fun other => ?_
      exact chain.carry (· ≠ .nil) other (fun id part _ => nilFree id part) ends
    · cases ends
  · rintro rfl
    exact representative_of_not_isAlias (wellFormed.isAlias_of_lt (by decide))

/-- A group of types brings no reference to the number of `nil`, because none of
the names in it stands for that number. -/
theorem NilFree.groupTypes {state : State} {members : List TypeDeclaration}
    (nilFree : state.types.NilFree)
    (bound : (state.groupNames members).Fits (· = .type) (· ≠ .nil)) :
    (state.groupTypes members).NilFree := by
  refine State.forall_parts_groupTypes nilFree fun member _ name _ => ?_
  cases found : (state.groupNames members).typeOf? name.name with
  | none => nofun
  | some id => exact bound.typeOf? found

end Types

namespace Discipline

/-- Values may be `nil`, but no name is bound to its number. -/
def nilFree : Discipline where
  Sound types _ := types.WellFormed ∧ types.NilFree
  Named types _ id := types.Holds id ∧ id ≠ .nil
  Value types _ id := types.Holds id

theorem nilFree_lawful : nilFree.Lawful where
  value_of_named := And.left
  named_int := fun sound => ⟨sound.1.holds_of_lt (by decide), nofun⟩
  named_string := fun sound => ⟨sound.1.holds_of_lt (by decide), nofun⟩
  named_void := fun sound => ⟨sound.1.holds_of_lt (by decide), nofun⟩
  value_nil := fun sound => sound.1.holds_of_lt (by decide)
  named_error := fun sound _ => ⟨sound.1.holds_error, nofun⟩
  sound_append := fun sound _ => sound
  named_append := id
  value_append := id
  representative := fun sound held => sound.1.holds_representative held
  parts := fun sound _ member => ⟨sound.1.parts _ _ member, sound.2 _ _ member⟩
  unknown := fun sound _ _ => ⟨sound.1.holds_error, nofun⟩
  storable := by
    intro types past id sound held notNil _
    refine ⟨held, fun same => ?_⟩
    rw [(sound.2.isNil_iff sound.1).mpr same] at notNil
    cases notNil
  group := by
    intro history members holds
    rw [Check.run_makeTypes]
    have types := holds.sound.1.groupTypes members (holds.typeNames.mono fun _ => And.left)
    have new : ∀ id ∈ groupIds history.state.types.size members, id ≠ .nil := by
      rintro _ inside rfl
      exact absurd (holds.sound.1.five_le_of_mem_groupIds inside) (by decide)
    have bound : (history.state.groupNames members).Fits (· = .type) (· ≠ .nil) :=
      (holds.typeNames.mono fun _ => And.right).groupNames new
    have grows : ∀ {id}, history.state.types.Holds id →
        (history.state.groupTypes members).Holds id :=
      fun held => State.holds_groupTypes_iff.mpr (.inl held)
    refine ⟨⟨types, holds.sound.2.groupTypes bound⟩, ⟨And.imp_left grows, grows⟩, ?_⟩
    exact fun id inside => ⟨State.holds_groupTypes_iff.mpr (.inr inside), new id inside⟩

end Discipline

/-- In every history nothing comes to `nil` but the number of `nil` itself, and
that number stands nowhere.  So no name of a type, no variable, no parameter and
no result of a function is of the type of `nil`, and neither is a field, an
element or what an alias stands for. -/
theorem History.nil_has_no_place (outermost : Frame) (requests : List Request) :
    let state := (ofRequests outermost requests).state
    (∀ id, state.types.isNil id = true ↔ id = .nil) ∧
    (∀ binding ∈ state.typeNames.bindings ++ state.valueNames.bindings,
      ∀ id ∈ binding.entry.parts, state.types.isNil id = false) ∧
    ∀ id, ∀ part ∈ (state.types.get id).parts, state.types.isNil part = false := by
  intro state
  have holds : Discipline.nilFree.Holds (ofRequests outermost requests) :=
    Discipline.holds_ofRequests Discipline.nilFree_lawful ⟨.basic, .basic⟩ outermost requests
  have nil : ∀ id, state.types.isNil id = true ↔ id = .nil :=
    fun _ => holds.sound.2.isNil_iff holds.sound.1
  have apart : ∀ id, id ≠ .nil → state.types.isNil id = false :=
    fun id other => eq_false_of_ne_true fun isNil => other ((nil id).mp isNil)
  refine ⟨nil, fun binding member id part => apart id ?_,
    fun id part member => apart part (holds.sound.2 id part member)⟩
  rcases List.mem_append.mp member with type | value
  · exact ((holds.typeNames.bindings binding type).2 id part).2
  · exact ((holds.valueNames.bindings binding value).2 id part).2

end StaticSemantics
