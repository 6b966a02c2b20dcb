import StaticSemantics.Diagnostic.Stored
import StaticSemantics.Proofs.WrittenJson

namespace StaticSemantics

/-!
# Stored diagnostics come back

What is stored can be read, and what is read is what was stored: the same
diagnostics in the same order and the same count.  Of a collector only its
limit is lost, since it is not written.

Each stored thing is first given as the value that its text is.  That the text
is this value is a matter of the writer and the grammar; that the thing is
found in the value is a matter of fields and bounds.  A collector refuses a
value that it could not keep, so the second part also has to show that the
numbers of a span are small enough to be kept.
-/

namespace Json

/-- A natural number as a value. -/
def natural (value : Nat) : Json :=
  .number (.ofWhole false value)

/-- An object whose keys are texts. -/
def record (members : List (String × Json)) : Json :=
  .object (members.map fun (key, value) => (some key, value))

theorem keyed?_record (members : List (String × Json)) :
    keyed? (members.map fun (key, value) => (some key, value)) = some members := by
  induction members with
  | nil => rfl
  | cons member members inductionHypothesis => simp [keyed?, inductionHypothesis]

theorem naturalBelow?_natural {bound value : Nat} (small : value < bound) :
    naturalBelow? bound (natural value) = some value := by
  simp [naturalBelow?, natural, JsonNumber.natural?, JsonNumber.ofWhole, small]

end Json

namespace JsonNumber

/-- Gathering never makes the word smaller. -/
theorem le_ofDigitChars (word : Nat) (digits : List Char) :
    word ≤ Nat.ofDigitChars 10 digits word := by
  induction digits generalizing word with
  | nil => exact Nat.le_refl word
  | cons digit digits inductionHypothesis =>
    rw [Nat.ofDigitChars_cons]
    have further := inductionHypothesis (10 * word + (digit.toNat - '0'.toNat))
    omega

/-- Digits whose value fits a word are gathered to their value, and none is
left. -/
theorem gather_of_lt {word : Nat} {digits : List Char}
    (fits : Nat.ofDigitChars 10 digits word < UInt64.size) :
    gather word digits = (Nat.ofDigitChars 10 digits word, []) := by
  induction digits generalizing word with
  | nil => rfl
  | cons digit digits inductionHypothesis =>
    rw [Nat.ofDigitChars_cons] at fits ⊢
    have longer := Nat.lt_of_le_of_lt (le_ofDigitChars _ digits) fits
    rw [gather, if_pos longer, inductionHypothesis fits]

/-- A power of two that is taken from a larger one leaves at least as much. -/
theorem pow_le_pow_sub_pow {least small large : Nat} (least_le : least ≤ small)
    (less : small < large) : Nat.pow 2 least ≤ Nat.pow 2 large - Nat.pow 2 small := by
  refine Nat.le_sub_of_add_le ?_
  calc Nat.pow 2 least + Nat.pow 2 small
    _ ≤ Nat.pow 2 small + Nat.pow 2 small :=
      Nat.add_le_add_right (Nat.pow_le_pow_right (by decide) least_le) _
    _ = Nat.pow 2 (small + 1) := (Nat.mul_two _).symm
    _ ≤ Nat.pow 2 large := Nat.pow_le_pow_right (by decide) less

/-- A whole number of at most 53 bits is a floating-point word as it is. -/
theorem isFinite_ofWhole {value : Nat} (fits : value < Nat.pow 2 53) :
    (ofWhole false value).isFinite = true := by
  have short : value < UInt64.size := Nat.lt_trans fits (by decide)
  have whole : gather 0 (Nat.toDigits 10 value) = (value, []) := by
    have value := @Nat.ofDigitChars_ten_toDigits value
    rw [gather_of_lt (by rwa [value]), value]
  have gathered : (ofWhole false value).gathered = (value, 0) := by
    simp [JsonNumber.gathered, ofWhole, whole, gather]
  have one : roundToBits 53 (Nat.pow 10 (0 : Int).toNat) = 1 := by decide
  have below : value < ceiling := by
    unfold ceiling
    -- The exponents get names, so that nothing computes the powers.
    generalize isLarge : 1024 = large, isSmall : 970 = small
    exact Nat.lt_of_lt_of_le fits (pow_le_pow_sub_pow (by omega) (by omega))
  simp only [isFinite, gathered, roundToBits_of_lt fits, one]
  simp [largestPower, below]

end JsonNumber

/-!
## The value that a text is
-/

namespace Span

/-- The fields of a span as values. -/
def members (span : Span) : List (String × Json) :=
  [("line", .natural span.line.toNat), ("column", .natural span.column.toNat),
    ("end_line", .natural span.endLine.toNat), ("end_column", .natural span.endColumn.toNat)]

def json (span : Span) : Json :=
  .record span.members

theorem writes_storedFields (span : Span) :
    List.Forall₂ Json.WritesMember span.storedFields span.members :=
  .cons ⟨rfl, Json.writes_writeNatural _⟩ <| .cons ⟨rfl, Json.writes_writeNatural _⟩ <|
    .cons ⟨rfl, Json.writes_writeNatural _⟩ <| .cons ⟨rfl, Json.writes_writeNatural _⟩ .nil

theorem writes_stored (span : Span) : Json.Writes span.stored span.json :=
  Json.writes_writeObject span.writes_storedFields

theorem coordinate?_natural (coordinate : UInt32) :
    coordinate? (.natural coordinate.toNat) = some coordinate := by
  simp [coordinate?, Json.naturalBelow?_natural coordinate.toNat_lt_size]

theorem ofMembers?_members (span : Span) : ofMembers? span.members = some span := by
  simp [ofMembers?, members, Json.required?, Json.optional?, coordinate?_natural]

theorem ofJson?_json (span : Span) : ofJson? span.json = some span := by
  simp [ofJson?, json, Json.record, Json.keyed?_record, ofMembers?_members]

/-- A stored span is read as it was. -/
theorem read?_stored (span : Span) : read? (String.ofList span.stored) = some span := by
  simp [read?, span.writes_stored.read?_ofList, ofJson?_json]

end Span

namespace DiagnosticKind

def json (kind : DiagnosticKind) : Json :=
  .string (some kind.tag)

theorem writes_stored (kind : DiagnosticKind) : Json.Writes kind.stored kind.json :=
  Json.writes_writeText kind.tag

theorem ofJson?_json (kind : DiagnosticKind) : ofJson? kind.json = some kind :=
  ofTag?_tag kind

/-- A stored kind is read as it was. -/
theorem read?_stored (kind : DiagnosticKind) :
    read? (String.ofList kind.stored) = some kind := by
  simp [read?, kind.writes_stored.read?_ofList, ofJson?_json]

end DiagnosticKind

namespace Diagnostic

/-- The fields of a diagnostic as values, those of its span among them. -/
def members (diagnostic : Diagnostic) : List (String × Json) :=
  ("kind", diagnostic.kind.json) :: ("message", .string (some diagnostic.message)) ::
    diagnostic.span.members

def json (diagnostic : Diagnostic) : Json :=
  .record diagnostic.members

theorem writes_stored (diagnostic : Diagnostic) : Json.Writes diagnostic.stored diagnostic.json :=
  Json.writes_writeObject <| .cons ⟨rfl, diagnostic.kind.writes_stored⟩ <|
    .cons ⟨rfl, Json.writes_writeText _⟩ diagnostic.span.writes_storedFields

/-- A line or a column can be kept, except too deep in the text. -/
theorem isKept_natural {nesting : Nat} (shallow : nesting ≤ nestingLimit) (coordinate : UInt32) :
    isKept nesting (.natural coordinate.toNat) = true := by
  have small : coordinate.toNat < Nat.pow 2 53 := Nat.lt_trans coordinate.toNat_lt (by decide)
  simp [isKept, Json.natural, Json.isPlain, Json.depth, JsonNumber.isFinite_ofWhole small, shallow]

theorem ofJson?_json {nesting : Nat} (shallow : nesting ≤ nestingLimit) (diagnostic : Diagnostic) :
    ofJson? nesting diagnostic.json = some diagnostic := by
  have kind : Json.required? "kind" diagnostic.members = some diagnostic.kind.json := by
    simp [Json.required?, Json.optional?, members, Span.members]
  have message : Json.required? "message" diagnostic.members =
      some (.string (some diagnostic.message)) := by
    simp [Json.required?, Json.optional?, members, Span.members]
  have others : (diagnostic.members.filter fun (key, _) => key != "kind" && key != "message") =
      diagnostic.span.members := by
    simp [members, Span.members]
  have kept : diagnostic.span.members.all (fun (_, value) => isKept nesting value) = true := by
    simp [Span.members, isKept_natural shallow]
  simp [ofJson?, json, Json.record, Json.keyed?_record, kind, message, others, kept,
    DiagnosticKind.ofJson?_json, Json.text?, Span.ofMembers?_members]

/-- A stored diagnostic is read as it was. -/
theorem read?_stored (diagnostic : Diagnostic) :
    read? (String.ofList diagnostic.stored) = some diagnostic := by
  rw [read?, diagnostic.writes_stored.read?_ofList, Option.bind_some, ofJson?_json (by decide)]

end Diagnostic

namespace Diagnostics

def json (diagnostics : Diagnostics) : Json :=
  .record [("errors", .array (diagnostics.errors.map Diagnostic.json)),
    ("total_errors", .natural diagnostics.total.toNat)]

theorem writes_stored (diagnostics : Diagnostics) :
    Json.Writes diagnostics.stored diagnostics.json := by
  have elements : List.Forall₂ Json.Writes (diagnostics.errors.map Diagnostic.stored)
      (diagnostics.errors.map Diagnostic.json) := by
    rw [List.forall₂_map_left_iff, List.forall₂_map_right_iff, List.forall₂_same]
    exact fun diagnostic _ => diagnostic.writes_stored
  exact Json.writes_writeObject <| .cons ⟨rfl, Json.writes_writeArray elements⟩ <|
    .cons ⟨rfl, Json.writes_writeNatural _⟩ .nil

theorem mapM_ofJson?_json {nesting : Nat} (shallow : nesting ≤ Diagnostic.nestingLimit)
    (errors : List Diagnostic) :
    (errors.map Diagnostic.json).mapM (Diagnostic.ofJson? nesting) = some errors := by
  induction errors with
  | nil => rfl
  | cons error errors inductionHypothesis =>
    simp [Diagnostic.ofJson?_json shallow, inductionHypothesis]

theorem ofJson?_json (diagnostics : Diagnostics) :
    ofJson? diagnostics.json = some ⟨diagnostics.errors, diagnostics.total, usualLimit⟩ := by
  have errors := @mapM_ofJson?_json 3 (by decide) diagnostics.errors
  have total := Json.naturalBelow?_natural diagnostics.total.toNat_lt_size
  simp [ofJson?, json, Json.record, Json.keyed?, Json.required?, Json.optional?, ofFields?, errors,
    total]

/-- A stored collector is read as it was, with the usual limit. -/
theorem read?_stored (diagnostics : Diagnostics) :
    read? (String.ofList diagnostics.stored) =
      some ⟨diagnostics.errors, diagnostics.total, usualLimit⟩ := by
  simp [read?, diagnostics.writes_stored.read?_ofList, ofJson?_json]

end Diagnostics

/-- Things that are stored as texts come back from them: `kept` is what the text
keeps of a thing.  So two things have one text only if the same is kept of
both, and what has come back is stored as the same text again. -/
structure ComesBack {Thing : Type} (stored : Thing → List Char) (read? : String → Option Thing)
    (kept : Thing → Thing) : Prop where
  read : ∀ thing, read? (String.ofList (stored thing)) = some (kept thing)
  injective : ∀ first second, stored first = stored second ↔ kept first = kept second
  again : ∀ thing, (read? (String.ofList (stored thing))).map stored = some (stored thing)

/-- It is enough that a thing is read as what is kept of it, and that the text
depends on nothing else. -/
theorem ComesBack.of_read {Thing : Type} {stored : Thing → List Char}
    {read? : String → Option Thing} {kept : Thing → Thing}
    (read : ∀ thing, read? (String.ofList (stored thing)) = some (kept thing))
    (stored_kept : ∀ thing, stored (kept thing) = stored thing) :
    ComesBack stored read? kept where
  read := read
  injective first second := by
    constructor
    · intro same
      exact Option.some.inj ((read first).symm.trans (same ▸ read second))
    · intro same
      rw [← stored_kept first, same, stored_kept]
  again thing := by
    rw [read, Option.map_some, stored_kept]

/-- Whatever is stored comes back: a collector with its diagnostics in their
order and its count, and a diagnostic, a span and a kind as a whole.  The text of
a collector tells its diagnostics and its count, and nothing else. -/
theorem Diagnostics.stored_comes_back :
    ComesBack Diagnostics.stored Diagnostics.read?
        (fun diagnostics => ⟨diagnostics.errors, diagnostics.total, usualLimit⟩) ∧
      (∀ first second : Diagnostics, first.stored = second.stored ↔
        first.errors = second.errors ∧ first.total = second.total) ∧
      ComesBack Diagnostic.stored Diagnostic.read? id ∧
      ComesBack Span.stored Span.read? id ∧
      ComesBack DiagnosticKind.stored DiagnosticKind.read? id := by
  have collector : ComesBack Diagnostics.stored Diagnostics.read?
      (fun diagnostics => ⟨diagnostics.errors, diagnostics.total, usualLimit⟩) :=
    .of_read read?_stored fun _ => rfl
  refine ⟨collector, fun first second => ?_, .of_read Diagnostic.read?_stored fun _ => rfl,
    .of_read Span.read?_stored fun _ => rfl, .of_read DiagnosticKind.read?_stored fun _ => rfl⟩
  rw [collector.injective]
  simp

end StaticSemantics
