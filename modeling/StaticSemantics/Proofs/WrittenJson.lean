import Mathlib.Data.List.Forall2
import StaticSemantics.Json.Reader
import StaticSemantics.Json.Writer

namespace StaticSemantics
namespace Json

/-!
# What is written is read

The writer and the reader are two programs that share nothing but the grammar.
Here they meet: whatever the writer puts down, the reader takes off again, and
leaves the text behind it untouched.

A string meets the reader one character at a time, so it is enough that the
reader undoes the writing of one character.  A number has no closing mark.  It
ends where the text goes on with something that cannot belong to it, so what
follows a value takes part in its statement.  `Writes` puts this together, and
the lists of the grammar are read by induction over what they hold.
-/

/-!
## Strings
-/

/-- The two digits of a small number are read as that number. -/
theorem hexUnit?_hexDigit {value : Nat} (small : value < 32) :
    hexUnit? '0' '0' (hexDigit (value / 16)) (hexDigit (value % 16)) = some value := by
  have all : ∀ value < 32,
      hexUnit? '0' '0' (hexDigit (value / 16)) (hexDigit (value % 16)) = some value := by
    decide
  exact all value small

/-- A backslash and a character with a meaning of its own are read as what they
mean. -/
theorem readContent_shortEscape {escaped meant : Char} (rest : List Char)
    (means : shortEscape? escaped = some meant) :
    readContent ('\\' :: escaped :: rest) =
      (readContent rest).map fun (units, rest) => (meant.toNat :: units, rest) := by
  have noUnit : escaped ≠ 'u' := by
    rintro rfl
    cases means
  rw [readContent, means]
  · cases readContent rest <;> rfl
  · intro _ _ _ _ _ isUnit
    exact absurd isUnit noUnit

/-- A character that is no quote, no backslash and no control character stands
for itself. -/
theorem readContent_raw {c : Char} (rest : List Char) (noQuote : c ≠ '\x22')
    (noBackslash : c ≠ '\\') (noControl : ¬ c.toNat < 32) :
    readContent (c :: rest) =
      (readContent rest).map fun (units, rest) => (c.toNat :: units, rest) := by
  rw [readContent.eq_def]
  split
  · contradiction
  · rename_i equal
    exact absurd (List.cons.inj equal).1 noQuote
  · rename_i equal
    exact absurd (List.cons.inj equal).1 noBackslash
  · rename_i equal
    exact absurd (List.cons.inj equal).1 noBackslash
  · rename_i equal
    obtain ⟨rfl, rfl⟩ := List.cons.inj equal
    simp only [noControl, noBackslash, decide_false, beq_iff_eq, Bool.or_eq_true, or_self,
      Bool.false_eq_true, if_false]
    cases readContent rest <;> rfl

/-- Whatever way a character is written, the reader takes it off as one. -/
theorem readContent_writeChar (c : Char) (rest : List Char) :
    readContent (writeChar c ++ rest) =
      (readContent rest).map fun (units, rest) => (c.toNat :: units, rest) := by
  simp only [writeChar, beq_iff_eq]
  split_ifs with quote backslash backspace tab newline feed return' control
  · subst quote
    exact readContent_shortEscape rest rfl
  · subst backslash
    exact readContent_shortEscape rest rfl
  · subst backspace
    exact readContent_shortEscape rest rfl
  · subst tab
    exact readContent_shortEscape rest rfl
  · subst newline
    exact readContent_shortEscape rest rfl
  · subst feed
    exact readContent_shortEscape rest rfl
  · subst return'
    exact readContent_shortEscape rest rfl
  · simp only [List.cons_append, List.nil_append, readContent, hexUnit?_hexDigit control]
    cases readContent rest <;> rfl
  · exact readContent_raw rest quote backslash control

/-- A written string is read up to its closing quote. -/
theorem readContent_flatMap_writeChar (cs rest : List Char) :
    readContent (cs.flatMap writeChar ++ '\x22' :: rest) = some (cs.map Char.toNat, rest) := by
  induction cs with
  | nil => simp [readContent]
  | cons c cs inductionHypothesis =>
    rw [List.flatMap_cons, List.append_assoc, readContent_writeChar, inductionHypothesis]
    rfl

/-- No character is half of a surrogate pair. -/
theorem isSurrogate_toNat (c : Char) :
    isHighSurrogate c.toNat = false ∧ isLowSurrogate c.toNat = false := by
  have valid : c.toNat < 0xD800 ∨ 0xDFFF < c.toNat ∧ c.toNat < 0x110000 := c.valid
  simp only [isHighSurrogate, isLowSurrogate, Bool.and_eq_false_iff, decide_eq_false_iff_not]
  omega

/-- The code points of characters are joined to the same characters. -/
theorem joinSurrogates_map_toNat (cs : List Char) :
    joinSurrogates (cs.map Char.toNat) = some cs := by
  induction cs with
  | nil => rfl
  | cons c cs inductionHypothesis =>
    obtain ⟨notHigh, notLow⟩ := isSurrogate_toNat c
    cases cs with
    | nil => simp [joinSurrogates, notHigh, notLow]
    | cons d cs =>
      rw [List.map_cons] at inductionHypothesis
      simp [joinSurrogates, notHigh, notLow, inductionHypothesis]

/-- A written text is read after its opening quote. -/
theorem readText_flatMap_writeChar (text : String) (rest : List Char) :
    readText (text.toList.flatMap writeChar ++ '\x22' :: rest) = some (some text, rest) := by
  simp [readText, readContent_flatMap_writeChar, joinSurrogates_map_toNat]

/-!
## Numbers
-/

/-- Whether a text cannot go on with a number that has been read up to it. -/
def Closes (rest : List Char) : Prop :=
  ∀ c ∈ rest.head?, c.isDigit = false ∧ c ≠ '.' ∧ c ≠ 'e' ∧ c ≠ 'E'

theorem closes_nil : Closes [] := by
  simp [Closes]

/-- The marks that stand behind a value in a list. -/
theorem closes_mark {c : Char} (rest : List Char) (mark : c ∈ [',', ']', '}']) :
    Closes (c :: rest) := by
  have all : ∀ c ∈ [',', ']', '}'], c.isDigit = false ∧ c ≠ '.' ∧ c ≠ 'e' ∧ c ≠ 'E' := by
    simp
  intro head isHead
  cases Option.some.inj isHead
  exact all c mark

theorem isDigit_of_mem_writeNatural (value : Nat) {c : Char} (member : c ∈ writeNatural value) :
    c.isDigit = true :=
  Nat.isDigit_of_mem_toDigits (by decide) (by decide) member

/-- All the digits are taken, and nothing behind them. -/
theorem readDigits_append {digits rest : List Char} (areDigits : ∀ c ∈ digits, c.isDigit = true)
    (closed : Closes rest) : readDigits (digits ++ rest) = (digits, rest) := by
  unfold readDigits
  rw [List.takeWhile_append_of_pos areDigits, List.dropWhile_append_of_pos areDigits]
  cases rest with
  | nil => simp
  | cons c rest =>
    have noDigit := (closed c rfl).1
    simp [noDigit]

/-- A number is written with a zero in front only where it is zero. -/
theorem writeNatural_eq_zero_cons {value : Nat} {digits : List Char}
    (written : writeNatural value = '0' :: digits) : digits = [] := by
  induction value using Nat.strongRecOn generalizing digits with
  | ind value inductionHypothesis =>
    rw [writeNatural, Nat.toDigits_eq_if (by decide)] at written
    split at written
    · exact (List.cons.inj written).2.symm
    · rename_i large
      -- A longer number is written as a tenth of it and one more digit.
      have positive : 0 < value / 10 := by omega
      cases front : Nat.toDigits 10 (value / 10) with
      | nil => exact absurd front Nat.toDigits_ne_nil
      | cons c others =>
        rw [front, List.cons_append] at written
        have zero : c = '0' := (List.cons.inj written).1
        subst zero
        have none := inductionHypothesis (value / 10) (by omega) front
        subst none
        have value := @Nat.ofDigitChars_ten_toDigits (value / 10)
        rw [front] at value
        have isZero : Nat.ofDigitChars 10 ['0'] 0 = 0 := rfl
        omega

theorem readWholeDigits_writeNatural (value : Nat) {rest : List Char} (closed : Closes rest) :
    readWholeDigits (writeNatural value ++ rest) = some (writeNatural value, rest) := by
  have digits := readDigits_append (fun _ => isDigit_of_mem_writeNatural value) closed
  have some : readSomeDigits (writeNatural value ++ rest) = some (writeNatural value, rest) := by
    rw [readSomeDigits, digits]
    split
    · rename_i equal
      exact absurd (Prod.mk.inj equal).1 Nat.toDigits_ne_nil
    · rename_i equal
      rw [equal]
  rw [readWholeDigits, some]
  split
  · rename_i equal
    have written := (Prod.mk.inj (Option.some.inj equal)).1
    cases writeNatural_eq_zero_cons written
  · rfl

/-- The digits that are written for a number have its value. -/
theorem digitsValue_writeNatural (value : Nat) : digitsValue (writeNatural value) = value :=
  Nat.ofDigitChars_ten_toDigits

/-- A written number begins with a digit. -/
theorem exists_writeNatural_eq_cons (value : Nat) :
    ∃ first others, writeNatural value = first :: others ∧ first.isDigit = true := by
  cases written : writeNatural value with
  | nil => exact absurd written Nat.toDigits_ne_nil
  | cons first others =>
    exact ⟨first, others, rfl, isDigit_of_mem_writeNatural value (by simp [written])⟩

/-- A written number is read as a whole number, where the text behind it does
not go on with it. -/
theorem readNumber_writeNatural (value : Nat) {rest : List Char} (closed : Closes rest) :
    readNumber (writeNatural value ++ rest) = some (.ofWhole false value, rest) := by
  have fraction : readFraction rest = some (none, rest) := by
    unfold readFraction
    split
    · exact absurd rfl (closed '.' rfl).2.1
    · rfl
  have exponent : readExponent rest = some (none, rest) := by
    unfold readExponent
    split
    · exact absurd rfl (closed 'e' rfl).2.2.1
    · exact absurd rfl (closed 'E' rfl).2.2.2
    · rfl
  have magnitude : readMagnitude false (writeNatural value ++ rest) =
      some (.ofWhole false value, rest) := by
    simp [readMagnitude, readWholeDigits_writeNatural value closed, fraction, exponent,
      digitsValue_writeNatural, JsonNumber.ofWhole]
  unfold readNumber
  split
  · rename_i equal
    obtain ⟨first, others, written, isDigit⟩ := exists_writeNatural_eq_cons value
    rw [written, List.cons_append] at equal
    rw [(List.cons.inj equal).1] at isDigit
    cases isDigit
  · exact magnitude

/-!
## Values
-/

theorem skipBlanks_cons {c : Char} (visible : isBlank c = false) (rest : List Char) :
    skipBlanks (c :: rest) = c :: rest := by
  simp [skipBlanks, visible]

/-- Characters that are read as a value wherever they stand, as long as the text
goes on behind them as it does behind a value. -/
structure Writes (written : List Char) (value : Json) : Prop where
  begins : ∃ first others, written = first :: others ∧ isBlank first = false ∧ first ≠ ']'
  read : ∀ (steps : Nat) (rest : List Char), 2 * written.length ≤ steps → Closes rest →
    readValue steps (written ++ rest) = some (value, rest)

/-- What is read one step at a time is read at once. -/
theorem Writes.of_succ {first : Char} {others : List Char} {value : Json}
    (visible : isBlank first = false) (open' : first ≠ ']')
    (read : ∀ (steps : Nat) (rest : List Char), 2 * others.length < steps → Closes rest →
      readValue (steps + 1) (first :: (others ++ rest)) = some (value, rest)) :
    Writes (first :: others) value where
  begins := ⟨first, others, rfl, visible, open'⟩
  read := by
    intro steps rest enough closed
    cases steps with
    | zero => simp at enough
    | succ steps =>
      refine read steps rest ?_ closed
      simp only [List.length_cons] at enough
      omega

theorem writes_writeText (text : String) : Writes (writeText text) (.string (some text)) := by
  refine .of_succ rfl (by decide) fun _ _ _ _ => ?_
  have content := readText_flatMap_writeChar text
  simp only [readValue, skipBlanks_cons (c := '\x22') rfl, List.append_eq, List.append_assoc,
    List.cons_append, List.nil_append, content]
  rfl

theorem isBlank_eq_false_of_isDigit {c : Char} (isDigit : c.isDigit = true) :
    isBlank c = false := by
  by_contra blank
  simp only [Bool.not_eq_false, isBlank, Bool.or_eq_true, beq_iff_eq] at blank
  rcases blank with ((rfl | rfl) | rfl) | rfl <;> cases isDigit

/-- What begins with a digit can only be a number. -/
theorem readValue_digit {first : Char} (isDigit : first.isDigit = true) (steps : Nat)
    (rest : List Char) :
    readValue (steps + 1) (first :: rest) =
      (readNumber (first :: rest)).map fun (value, rest) => (.number value, rest) := by
  rw [readValue, skipBlanks_cons (isBlank_eq_false_of_isDigit isDigit)]
  split
  case h_7 =>
    cases readNumber (first :: rest) <;> rfl
  all_goals
    rename_i equal
    rw [(List.cons.inj equal).1] at isDigit
    cases isDigit

theorem writes_writeNatural (value : Nat) :
    Writes (writeNatural value) (.number (.ofWhole false value)) := by
  obtain ⟨first, others, written, isDigit⟩ := exists_writeNatural_eq_cons value
  have noBracket : first ≠ ']' := by
    rintro rfl
    cases isDigit
  rw [written]
  refine .of_succ (isBlank_eq_false_of_isDigit isDigit) noBracket fun _ _ _ closed => ?_
  have number := readNumber_writeNatural value closed
  rw [written, List.cons_append] at number
  rw [readValue_digit isDigit, number]
  rfl

/-!
## Lists of values
-/

theorem separate_cons_cons (first second : List Char) (others : List (List Char)) :
    separate (first :: second :: others) = first ++ ',' :: separate (second :: others) := by
  rw [separate]
  exact nofun

/-- The first value of a list stands in front of it. -/
theorem exists_separate_cons (first : List Char) (others : List (List Char)) :
    ∃ behind, separate (first :: others) = first ++ behind := by
  cases others with
  | nil => exact ⟨[], (List.append_nil first).symm⟩
  | cons second others => exact ⟨_, separate_cons_cons first second others⟩

/-- Elements with commas between them are read up to the closing bracket. -/
theorem readElements_separate {written : List Char} {element : Json}
    {others : List (List Char)} {elements : List Json} (writes : Writes written element)
    (othersWrite : List.Forall₂ Writes others elements) (steps : Nat)
    (enough : 2 * (separate (written :: others)).length < steps) (rest : List Char) :
    readElements steps (separate (written :: others) ++ ']' :: rest) =
      some (element :: elements, rest) := by
  induction othersWrite generalizing written element steps with
  | nil =>
    cases steps with
    | zero => omega
    | succ steps =>
      have first := writes.read steps (']' :: rest) (Nat.le_of_lt_succ enough)
        (closes_mark rest (by decide))
      rw [separate, readElements, first]
      simp [skipBlanks_cons (c := ']') rfl]
  | @cons second element' others elements secondWrites othersWrite inductionHypothesis =>
    cases steps with
    | zero => omega
    | succ steps =>
      rw [separate_cons_cons, List.length_append, List.length_cons] at enough
      have first := writes.read steps (',' :: (separate (second :: others) ++ ']' :: rest))
        (by omega) (closes_mark _ (by decide))
      have remaining := inductionHypothesis secondWrites steps (by omega)
      rw [separate_cons_cons, List.append_assoc, List.cons_append, readElements, first]
      simp [skipBlanks_cons (c := ',') rfl, remaining]

/-- An array is read as the elements that are written in it. -/
theorem writes_writeArray {texts : List (List Char)} {elements : List Json}
    (write : List.Forall₂ Writes texts elements) :
    Writes (writeArray texts) (.array elements) := by
  refine .of_succ rfl (by decide) fun steps rest enough closed => ?_
  simp only [List.append_eq, List.length_append, List.length_singleton] at enough
  simp only [readValue, skipBlanks_cons (c := '[') rfl, List.append_eq, List.append_assoc,
    List.cons_append, List.nil_append]
  cases write with
  | nil => simp [separate, skipBlanks_cons (c := ']') rfl]
  | @cons written element others elements writes othersWrite =>
    have read := readElements_separate writes othersWrite steps (by omega) rest
    obtain ⟨first, tail, rfl, visible, noBracket⟩ := writes.begins
    obtain ⟨behind, front⟩ := exists_separate_cons (first :: tail) others
    rw [front] at read ⊢
    simp only [List.cons_append, skipBlanks_cons visible] at read ⊢
    split
    · rename_i equal
      exact absurd (List.cons.inj equal).1 noBracket
    · rw [read]
      rfl

/-- A written member of an object, and what it is read as. -/
structure WritesMember (written : String × List Char) (member : String × Json) : Prop where
  key : written.1 = member.1
  value : Writes written.2 member.2

/-- The characters of a member. -/
def writeMember (member : String × List Char) : List Char :=
  writeText member.1 ++ ':' :: member.2

theorem writeMember_eq (member : String × List Char) (rest : List Char) :
    writeMember member ++ rest =
      '\x22' :: (member.1.toList.flatMap writeChar ++ '\x22' :: ':' :: (member.2 ++ rest)) := by
  simp [writeMember, writeText]

theorem length_le_writeMember (member : String × List Char) :
    member.2.length ≤ (writeMember member).length := by
  simp only [writeMember, List.length_append, List.length_cons]
  omega

/-- What is done behind a member: a comma goes on to the other members, and a
brace closes the object. -/
def readMembersBehind (steps : Nat) (member : JsonText × Json) :
    List Char → Option (List (JsonText × Json) × List Char)
  | ',' :: rest => do
    let (members, rest) ← readMembers steps rest
    some (member :: members, rest)
  | '}' :: rest => some ([member], rest)
  | _ => none

/-- A written member is read as one, whatever is done behind it. -/
theorem readMembers_writeMember {written : String × List Char} {member : String × Json}
    (writes : WritesMember written member) {steps : Nat} (enough : 2 * written.2.length ≤ steps)
    {rest : List Char} (closed : Closes rest) :
    readMembers (steps + 1) (writeMember written ++ rest) =
      readMembersBehind steps (some member.1, member.2) (skipBlanks rest) := by
  have name := readText_flatMap_writeChar written.1 (':' :: (written.2 ++ rest))
  have value := writes.value.read steps rest enough closed
  rw [writeMember_eq, ← writes.key, readMembers, skipBlanks_cons (c := '\x22') rfl]
  simp only [name, skipBlanks_cons (c := ':') rfl, value, Option.bind_eq_bind, Option.bind_some]
  rfl

/-- Members with commas between them are read up to the closing brace. -/
theorem readMembers_separate {written : String × List Char} {member : String × Json}
    {others : List (String × List Char)} {members : List (String × Json)}
    (writes : WritesMember written member)
    (othersWrite : List.Forall₂ WritesMember others members) (steps : Nat)
    (enough : 2 * (separate ((written :: others).map writeMember)).length < steps)
    (rest : List Char) :
    readMembers steps (separate ((written :: others).map writeMember) ++ '}' :: rest) =
      some ((member :: members).map fun (key, value) => (some key, value), rest) := by
  have short := length_le_writeMember written
  induction othersWrite generalizing written member steps with
  | nil =>
    cases steps with
    | zero => omega
    | succ steps =>
      simp only [List.map_cons, List.map_nil, separate] at enough ⊢
      rw [readMembers_writeMember writes (by omega) (closes_mark rest (by decide)),
        skipBlanks_cons rfl]
      rfl
  | @cons second member' others members secondWrites othersWrite inductionHypothesis =>
    cases steps with
    | zero => omega
    | succ steps =>
      simp only [List.map_cons, separate_cons_cons, List.length_append, List.length_cons]
        at enough inductionHypothesis ⊢
      have remaining := inductionHypothesis secondWrites steps (by omega)
        (length_le_writeMember second)
      rw [List.append_assoc, List.cons_append,
        readMembers_writeMember writes (by omega) (closes_mark _ (by decide)), skipBlanks_cons rfl]
      simp [readMembersBehind, remaining]

/-- An object is read as the members that are written in it. -/
theorem writes_writeObject {texts : List (String × List Char)} {members : List (String × Json)}
    (write : List.Forall₂ WritesMember texts members) :
    Writes (writeObject texts)
      (.object (members.map fun (key, value) => (some key, value))) := by
  refine .of_succ rfl (by decide) fun steps rest enough closed => ?_
  change 2 * (separate (texts.map writeMember) ++ ['}']).length < steps at enough
  change readValue (steps + 1) ('{' :: (separate (texts.map writeMember) ++ ['}'] ++ rest)) = _
  rw [List.length_append, List.length_singleton] at enough
  simp only [readValue, skipBlanks_cons (c := '{') rfl, List.append_assoc, List.cons_append,
    List.nil_append]
  cases write with
  | nil => simp [separate, skipBlanks_cons (c := '}') rfl]
  | @cons written member others members writes othersWrite =>
    have read := readMembers_separate writes othersWrite steps (by omega) rest
    obtain ⟨behind, front⟩ :=
      exists_separate_cons (writeMember written) (others.map writeMember)
    simp only [List.map_cons, front, writeMember_eq, List.cons_append] at read ⊢
    rw [skipBlanks_cons rfl]
    split
    · rename_i equal
      exact absurd (List.cons.inj equal).1 (by decide)
    · rw [read]
      rfl

/-- A text that holds a written value is read as that value. -/
theorem Writes.read?_ofList {written : List Char} {value : Json} (writes : Writes written value) :
    read? (String.ofList written) = some value := by
  have read := writes.read (2 * written.length + 1) [] (by omega) closes_nil
  rw [List.append_nil] at read
  rw [read?, String.toList_ofList]
  simp only [read]
  rfl

end Json
end StaticSemantics
