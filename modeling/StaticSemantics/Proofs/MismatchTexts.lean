import Mathlib.Data.List.Basic
import StaticSemantics.Proofs.Compatibility
import StaticSemantics.Proofs.Observation
import StaticSemantics.Proofs.Stability

namespace StaticSemantics

/-!
# Texts for two sides that disagree

A message that expects a type and has found another one is of use only if the
two read differently.  Their names alone need not: a name may be declared again
in an inner scope, and a declared type may have the name of a built-in one.  The
place of the declaration is added then.

A built-in type has no such place, but each of them is described in its own way,
and a description with a place is longer than one without.  Two places are never
written alike, because the colon between the line and the column is no digit.  What
is left are two declarations of one name that begin at one place.
-/

/-!
## Places
-/

namespace Span

theorem toList_text (span : Span) : span.text.toList =
    Nat.toDigits 10 span.line.toNat ++ ':' :: Nat.toDigits 10 span.column.toNat := by
  have written : ∀ word : UInt32, (toString word).toList = Nat.toDigits 10 word.toNat :=
    fun word => Nat.toList_repr
  rw [text, String.toList_append, String.toList_append, written, written, List.append_assoc]
  rfl

/-- A word is found again from its digits. -/
theorem toDigits_inj {word other : UInt32} :
    Nat.toDigits 10 word.toNat = Nat.toDigits 10 other.toNat ↔ word = other := by
  constructor
  · intro same
    have value := congrArg (Nat.ofDigitChars 10 · 0) same
    rw [Nat.ofDigitChars_ten_toDigits, Nat.ofDigitChars_ten_toDigits] at value
    exact UInt32.toNat_inj.mp value
  · rintro rfl
    rfl

/-- Where a span begins can be read off its text. -/
theorem text_inj {span other : Span} :
    span.text = other.text ↔ span.line = other.line ∧ span.column = other.column := by
  have noColon : ∀ number, ':' ∉ Nat.toDigits 10 number := by
    intro number member
    have digit := Nat.isDigit_of_mem_toDigits (by decide) (by decide) member
    exact absurd digit (by decide)
  rw [← String.toList_inj, toList_text, toList_text,
    List.append_cons_inj_of_notMem (noColon _) (noColon _), toDigits_inj, toDigits_inj]
  simp

end Span

/-!
## Descriptions
-/

namespace Types

/-- Two types that were declared under one name, at one place. -/
def DeclaredAlike (types : Types) (first second : TypeId) : Prop :=
  ∃ site other, types.site? first = some site ∧ types.site? second = some other ∧
    site.name = other.name ∧ site.span.line = other.span.line ∧
    site.span.column = other.span.column

variable {types : Types} {id first second expected found : TypeId} {site : TypeSite}

theorem withPlace_of_site (known : types.site? id = some site) (description : String) :
    types.withPlace id description = description ++ (" (declared at " ++ site.span.text ++ ")") := by
  have added : types.withPlace id description =
      description ++ " (declared at " ++ site.span.text ++ ")" := by
    rw [withPlace, known]
    rfl
  rw [added, String.append_assoc, String.append_assoc, String.append_assoc]

theorem withPlace_of_none (missing : types.site? id = none) (description : String) :
    types.withPlace id description = description := by
  rw [withPlace, missing]

/-- Names that read the same are told apart by their places. -/
theorem describeApart_of_eq (same : types.describe expected = types.describe found) :
    types.describeApart expected found = (types.withPlace expected (types.describe expected),
      types.withPlace found (types.describe found)) :=
  if_pos same

/-- What is added to one description is the same only for types that have no place,
or that have the same one. -/
theorem withPlace_eq_iff (description : String) :
    types.withPlace first description = types.withPlace second description ↔
      (types.site? first = none ∧ types.site? second = none) ∨
      ∃ site other, types.site? first = some site ∧ types.site? second = some other ∧
        site.span.line = other.span.line ∧ site.span.column = other.span.column := by
  have longer : ∀ span : Span, " (declared at " ++ span.text ++ ")" ≠ "" := by simp
  cases known : types.site? first with
  | none =>
      cases otherKnown : types.site? second with
      | none => simp [withPlace_of_none known, withPlace_of_none otherKnown]
      | some other =>
          rw [withPlace_of_none known, withPlace_of_site otherKnown, eq_comm,
            String.append_eq_left_iff]
          simp [longer]
  | some site =>
      cases otherKnown : types.site? second with
      | none =>
          rw [withPlace_of_site known, withPlace_of_none otherKnown, String.append_eq_left_iff]
          simp [longer]
      | some other =>
          rw [withPlace_of_site known, withPlace_of_site otherKnown, String.append_right_inj,
            String.append_left_inj, String.append_right_inj, Span.text_inj]
          simp

/-- A description begins with what it is without a place. -/
theorem exists_withPlace_eq (id : TypeId) (description : String) :
    ∃ rest, types.withPlace id description = description ++ rest := by
  cases known : types.site? id with
  | none => exact ⟨"", by rw [withPlace_of_none known, String.append_empty]⟩
  | some site => exact ⟨_, withPlace_of_site known description⟩

theorem exists_describeApart_eq (expected found : TypeId) :
    (∃ rest, (types.describeApart expected found).1 = types.describe expected ++ rest) ∧
    ∃ rest, (types.describeApart expected found).2 = types.describe found ++ rest := by
  by_cases same : types.describe expected = types.describe found
  · rw [describeApart_of_eq same]
    exact ⟨exists_withPlace_eq _ _, exists_withPlace_eq _ _⟩
  · rw [describeApart_of_ne same]
    exact ⟨⟨"", String.append_empty.symm⟩, ⟨"", String.append_empty.symm⟩⟩

namespace WellFormed

/-- The built-in types are those without a declaration. -/
theorem site?_eq_none_iff (wellFormed : types.WellFormed) (held : types.Holds id) :
    types.site? id = none ↔ id.number < 5 := by
  constructor
  · intro missing
    refine Nat.lt_of_not_le fun behind => ?_
    rcases (wellFormed.declared id held behind).2 with ⟨site, known⟩
    rw [missing] at known
    cases known
  · intro small
    have builtIn : ∀ number < 5, Types.basic.site? ⟨number⟩ = none := by decide
    rcases wellFormed.builtIn with ⟨declared, rfl⟩
    have before : Types.basic.Holds id := small
    rw [site?_extend before]
    exact builtIn id.number small

theorem describe_of_lt (wellFormed : types.WellFormed) (small : id.number < 5) :
    types.describe id = Types.basic.describe id := by
  rcases wellFormed.builtIn with ⟨declared, rfl⟩
  exact (WellFormed.basic.preserved_extend declared).describe_eq id small

/-- No two types without a declaration are described alike. -/
theorem eq_of_describe_eq (wellFormed : types.WellFormed) (held : types.Holds first)
    (otherHeld : types.Holds second) (missing : types.site? first = none)
    (otherMissing : types.site? second = none)
    (same : types.describe first = types.describe second) : first = second := by
  have distinct : ∀ number < 5, ∀ other < 5,
      Types.basic.describe ⟨number⟩ = Types.basic.describe ⟨other⟩ → number = other := by decide
  have small := (wellFormed.site?_eq_none_iff held).mp missing
  have otherSmall := (wellFormed.site?_eq_none_iff otherHeld).mp otherMissing
  rw [wellFormed.describe_of_lt small, wellFormed.describe_of_lt otherSmall] at same
  exact TypeId.eq_of_number_eq (distinct _ small _ otherSmall same)

/-- Two types that disagree read the same only if they were declared alike. -/
theorem describeApart_eq_iff (wellFormed : types.WellFormed) (held : types.Holds expected)
    (otherHeld : types.Holds found) (differs : types.compatible expected found = false) :
    (types.describeApart expected found).1 = (types.describeApart expected found).2 ↔
      types.DeclaredAlike expected found := by
  by_cases same : types.describe expected = types.describe found
  · rw [describeApart_of_eq same, same, withPlace_eq_iff]
    constructor
    · rintro (⟨missing, otherMissing⟩ | ⟨site, other, known, otherKnown, place⟩)
      · have equal := wellFormed.eq_of_describe_eq held otherHeld missing otherMissing same
        rw [equal, types.compatible_self] at differs
        cases differs
      · rw [describe_of_site known, describe_of_site otherKnown] at same
        exact ⟨site, other, known, otherKnown, same, place⟩
    · rintro ⟨site, other, known, otherKnown, _, place⟩
      exact .inr ⟨site, other, known, otherKnown, place⟩
  · rw [describeApart_of_ne same]
    refine iff_of_false same ?_
    rintro ⟨site, other, known, otherKnown, names, _⟩
    rw [describe_of_site known, describe_of_site otherKnown] at same
    exact same names

/-- A declared type with the name of a built-in one is told by its place. -/
theorem describeApart_of_builtIn (wellFormed : types.WellFormed) (known : types.site? id = some site)
    (small : found.number < 5) (same : types.describe found = site.name) :
    types.describeApart id found =
        (site.name ++ (" (declared at " ++ site.span.text ++ ")"), site.name) ∧
      types.describeApart found id =
        (site.name, site.name ++ (" (declared at " ++ site.span.text ++ ")")) := by
  have missing := (wellFormed.site?_eq_none_iff (wellFormed.holds_of_lt small)).mpr small
  have names : types.describe id = types.describe found := (describe_of_site known).trans same.symm
  rw [describeApart_of_eq names, describeApart_of_eq names.symm, names, same,
    withPlace_of_site known, withPlace_of_none missing]
  exact ⟨rfl, rfl⟩

end WellFormed

/-- What can be relied on where a message sets two types against each other. -/
structure TellsApart (types : Types) : Prop where
  differ : ∀ expected found, types.Holds expected → types.Holds found →
    types.compatible expected found = false →
    ((types.describeApart expected found).1 = (types.describeApart expected found).2 ↔
      types.DeclaredAlike expected found)
  /-- Names that differ are left alone. -/
  plain : ∀ expected found, types.describe expected ≠ types.describe found →
    types.describeApart expected found = (types.describe expected, types.describe found)
  /-- All types were declared but the built-in ones. -/
  declared : ∀ id, types.Holds id → ((∃ site, types.site? id = some site) ↔ 5 ≤ id.number)
  /-- On either side, a declared type is called by its name first. -/
  named : ∀ id site, types.site? id = some site → types.describe id = site.name ∧
    ∀ other, (∃ rest, (types.describeApart id other).1 = site.name ++ rest) ∧
      ∃ rest, (types.describeApart other id).2 = site.name ++ rest
  /-- The name may be that of a built-in type. -/
  builtIn : ∀ id site other, types.site? id = some site → other.number < 5 →
    types.describe other = site.name →
    types.describeApart id other =
        (site.name ++ (" (declared at " ++ site.span.text ++ ")"), site.name) ∧
      types.describeApart other id =
        (site.name, site.name ++ (" (declared at " ++ site.span.text ++ ")"))

theorem WellFormed.tellsApart (wellFormed : types.WellFormed) : types.TellsApart where
  differ := fun _ _ => wellFormed.describeApart_eq_iff
  plain := fun _ _ => describeApart_of_ne
  declared := by
    intro id held
    rw [← Option.ne_none_iff_exists', ne_eq, wellFormed.site?_eq_none_iff held, Nat.not_lt]
  named := by
    intro id site known
    have name := describe_of_site known
    refine ⟨name, fun other => ?_⟩
    rw [← name]
    exact ⟨(exists_describeApart_eq id other).1, (exists_describeApart_eq other id).2⟩
  builtIn := fun _ _ _ => wellFormed.describeApart_of_builtIn

end Types

/-- In every history, two types that disagree are told apart by the texts that are
reported for them, unless they were declared under one name at one place. -/
theorem History.mismatch_texts_differ (outermost : Frame) (requests : List Request) :
    let state := (ofRequests outermost requests).state
    state.types.TellsApart ∧
    ∀ expected found span name, state.types.compatible expected found = false →
      (Check.expectCompatible expected found span name).run state =
        ⟨.ok (), state, [.reported span (.typeMismatch
          (state.types.describeApart expected found).1
          (state.types.describeApart expected found).2 name)]⟩ := by
  intro state
  have wellFormed : state.types.WellFormed :=
    (Discipline.wellFormed_ofRequests outermost requests).sound.1
  refine ⟨wellFormed.tellsApart, fun expected found span name differs => ?_⟩
  rw [Check.run_expectCompatible, if_neg (by simp [differs])]

/-- An array type that is called like a built-in type. -/
def Request.arrayCalledString : Request :=
  let place : Span := ⟨3, 6, 3, 37⟩
  .declaration (.types [⟨⟨"string", place⟩, .array ⟨"int", place⟩ place, place⟩] place)

/-- The two disagree, and the declared one is told by its place. -/
theorem History.mismatch_texts_differ_arrayCalledString :
    (ofRequests outermostFrame [.arrayCalledString]).state.types.compatible .string ⟨5⟩ = false ∧
    (ofRequests outermostFrame [.arrayCalledString]).state.types.describeApart .string ⟨5⟩ =
      ("string", "string (declared at 3:6)") ∧
    ¬ (ofRequests outermostFrame [.arrayCalledString]).state.types.DeclaredAlike .string ⟨5⟩ := by
  have told := (mismatch_texts_differ outermostFrame [.arrayCalledString]).1
  have differs :
      (ofRequests outermostFrame [.arrayCalledString]).state.types.compatible .string ⟨5⟩ =
        false := by decide
  have pair := (told.builtIn ⟨5⟩ ⟨"string", ⟨3, 6, 3, 37⟩⟩ .string rfl (by decide) rfl).2
  refine ⟨differs, pair, fun alike => ?_⟩
  have same := (told.differ .string ⟨5⟩ (by decide) (by decide) differs).mpr alike
  rw [pair] at same
  exact absurd same (by decide)

end StaticSemantics
