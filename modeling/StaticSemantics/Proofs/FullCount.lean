import StaticSemantics.Proofs.Arrivals

namespace StaticSemantics
namespace Diagnostics

/-!
# A count that has gone round

A collector has errors if it has counted any, and a program without errors is in
order.  But the count is a machine word, and no word is too large to be read from a
text.  One arrival more, and the largest word is followed by zero.  The collector then
has no errors, although it has just stored one.

This happens at one count only, when all that has been counted fills a word exactly.  A
new collector does not come to it with fewer arrivals than a word has values.
-/

/-- Errors are missed exactly when the count has come back to zero. -/
theorem hasErrors_receiveAll_iff (diagnostics : Diagnostics) {reports : List Diagnostic}
    (nonempty : reports ≠ []) (fits : reports.length < UInt64.size) :
    (diagnostics.receiveAll reports).hasErrors = true ↔
      diagnostics.total.toNat + reports.length ≠ UInt64.size := by
  have word := diagnostics.total.toNat_lt_size
  have positive := List.length_pos_iff.mpr nonempty
  rw [hasErrors_iff, toNat_total_receiveAll]
  -- Both summands are less than a full word, so the sum goes round at most once.
  rcases Nat.lt_or_ge (diagnostics.total.toNat + reports.length) UInt64.size with short | long
  · rw [Nat.mod_eq_of_lt short]
    omega
  · have once : diagnostics.total.toNat + reports.length - UInt64.size < UInt64.size := by omega
    rw [Nat.mod_eq_sub_mod long, Nat.mod_eq_of_lt once]
    omega

/-- After some arrivals a collector has errors, unless what it had counted before and
what has arrived fill a word together.  A new collector has errors.  But there is a text
from which a collector is read that stores the first arrivals and has none. -/
theorem errors_missed_only_at_full_count {arrivals : List Arrival} (nonempty : arrivals ≠ [])
    (fits : arrivals.length < UInt64.size) :
    (∀ diagnostics : Diagnostics, (diagnostics.acceptAll arrivals).hasErrors = true ↔
      diagnostics.total.toNat + arrivals.length ≠ UInt64.size) ∧
    (∀ limit : Nat, ((storing limit).acceptAll arrivals).hasErrors = true) ∧
    ∃ text read, read? text = some read ∧
      (read.acceptAll arrivals).errors = (arrivals.map Arrival.inWords).take usualLimit ∧
      (read.acceptAll arrivals).hasErrors = false := by
  have law : ∀ diagnostics : Diagnostics, (diagnostics.acceptAll arrivals).hasErrors = true ↔
      diagnostics.total.toNat + arrivals.length ≠ UInt64.size := by
    intro diagnostics
    rw [acceptAll_eq, ← List.length_map Arrival.inWords]
    exact diagnostics.hasErrors_receiveAll_iff (List.map_eq_nil_iff.not.mpr nonempty)
      (by rwa [List.length_map])
  refine ⟨law, fun limit => ?_, ?_⟩
  · rw [law, storing, UInt64.toNat_zero, Nat.zero_add]
    exact Nat.ne_of_lt fits
  · -- The count that is read is what is left of a word.
    have left : UInt64.size - arrivals.length < UInt64.size :=
      Nat.sub_lt (by decide) (List.length_pos_iff.mpr nonempty)
    refine ⟨_, _, read?_stored ⟨[], .ofNat (UInt64.size - arrivals.length), usualLimit⟩, ?_, ?_⟩
    · rw [acceptAll_eq, errors_receiveAll]
      rfl
    · rw [← Bool.not_eq_true, law, UInt64.toNat_ofNat_of_lt' left,
        Nat.sub_add_cancel (Nat.le_of_lt fits)]
      exact not_not_intro rfl

/-- A new collector that stores nothing has an error after one arrival, and so has one
that is read with a count of seven. -/
theorem errors_missed_only_at_full_count_unknownVariable :
    [unknownVariable] ≠ [] ∧ [unknownVariable].length < UInt64.size ∧
    ((storing 0).acceptAll [unknownVariable]).hasErrors = true ∧
    (acceptAll ⟨[], 7, usualLimit⟩ [unknownVariable]).hasErrors = true := by
  have nonempty : [unknownVariable] ≠ [] := by decide
  have fits : [unknownVariable].length < UInt64.size := by decide
  rcases errors_missed_only_at_full_count nonempty fits with ⟨law, anew, _⟩
  exact ⟨nonempty, fits, anew 0, (law ⟨[], 7, usualLimit⟩).mpr (by decide)⟩

/-- From the largest count one arrival leads to a collector that stores an error and has
none. -/
theorem stored_error_not_counted :
    read? "\x7b\"errors\":[],\"total_errors\":18446744073709551615\x7d" =
      some ⟨[], 18446744073709551615, usualLimit⟩ ∧
    [unknownVariable] ≠ [] ∧ [unknownVariable].length < UInt64.size ∧
    (acceptAll ⟨[], 18446744073709551615, usualLimit⟩ [unknownVariable]).errors =
      [unknownVariable.inWords] ∧
    (acceptAll ⟨[], 18446744073709551615, usualLimit⟩ [unknownVariable]).hasErrors = false := by
  decide +kernel

end Diagnostics
end StaticSemantics
