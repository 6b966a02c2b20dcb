import StaticSemantics.Proofs.Sessions

namespace StaticSemantics

/-!
# The limit of a collector caps what is stored

A collector stores the first reports that it receives, as many as its limit
allows, and counts all of them.  A check does not know its collector.  So with
two limits the same is checked and the same is reported, and one collector has
stored a beginning of what the other one has stored.

The count is a machine word.  It is the number of the reports as long as that
number fits into a word.
-/

namespace Diagnostics

/-- A report is stored if there is room for it. -/
theorem errors_receive (diagnostics : Diagnostics) (report : Diagnostic) :
    (diagnostics.receive report).errors =
      diagnostics.errors ++ [report].take (diagnostics.limit - diagnostics.errors.length) := by
  by_cases room : diagnostics.errors.length < diagnostics.limit
  · rw [receive, if_pos room, List.take_of_length_le (Nat.sub_pos_of_lt room)]
  · rw [receive, if_neg room, Nat.sub_eq_zero_of_le (Nat.le_of_not_lt room), List.take_zero,
      List.append_nil]

/-- So the first reports are stored, as many as there is room for. -/
theorem errors_receiveAll (diagnostics : Diagnostics) (reports : List Diagnostic) :
    (diagnostics.receiveAll reports).errors =
      diagnostics.errors ++ reports.take (diagnostics.limit - diagnostics.errors.length) := by
  induction reports generalizing diagnostics with
  | nil => simp
  | cons first rest inductionHypothesis =>
      have left : diagnostics.limit - (diagnostics.receive first).errors.length =
          diagnostics.limit - diagnostics.errors.length - 1 := by
        rw [errors_receive, List.length_append, List.length_take, List.length_singleton]
        omega
      rw [receiveAll_cons, inductionHypothesis, limit_receive, left, errors_receive,
        show first :: rest = [first] ++ rest from rfl, List.take_append, List.append_assoc]
      rfl

/-- Reports are counted whether there is room for them or not. -/
theorem total_receiveAll (diagnostics : Diagnostics) (reports : List Diagnostic) :
    (diagnostics.receiveAll reports).total = diagnostics.total + UInt64.ofNat reports.length := by
  induction reports generalizing diagnostics with
  | nil => simp
  | cons first rest inductionHypothesis =>
      rw [receiveAll_cons, inductionHypothesis, total_receive, List.length_cons,
        UInt64.ofNat_add, UInt64.add_assoc, UInt64.add_comm 1]
      rfl

@[simp] theorem limit_receiveAll (diagnostics : Diagnostics) (reports : List Diagnostic) :
    (diagnostics.receiveAll reports).limit = diagnostics.limit := by
  induction reports generalizing diagnostics with
  | nil => rfl
  | cons first rest inductionHypothesis =>
      rw [receiveAll_cons, inductionHypothesis, limit_receive]

/-- The count goes round at the end of a word. -/
theorem toNat_total_receiveAll (diagnostics : Diagnostics) (reports : List Diagnostic) :
    (diagnostics.receiveAll reports).total.toNat =
      (diagnostics.total.toNat + reports.length) % UInt64.size := by
  rw [total_receiveAll, UInt64.toNat_add, UInt64.toNat_ofNat', Nat.add_mod_mod]

theorem hasErrors_iff (diagnostics : Diagnostics) :
    diagnostics.hasErrors = true ↔ 0 < diagnostics.total.toNat := by
  rw [hasErrors, decide_eq_true_iff, UInt64.lt_iff_toNat_lt]
  exact Iff.rfl

/-- What a collector with this limit holds once it has received these reports,
and nothing else. -/
structure Records (diagnostics : Diagnostics) (limit : Nat) (reports : List Diagnostic) :
    Prop where
  total : diagnostics.total.toNat = reports.length
  hasErrors : diagnostics.hasErrors = true ↔ reports ≠ []
  errors : diagnostics.errors = reports.take (min limit diagnostics.total.toNat)

theorem records_receiveAll (limit : Nat) {reports : List Diagnostic}
    (fits : reports.length < UInt64.size) :
    ((storing limit).receiveAll reports).Records limit reports := by
  have total : ((storing limit).receiveAll reports).total.toNat = reports.length := by
    rw [toNat_total_receiveAll, storing, UInt64.toNat_zero, Nat.zero_add, Nat.mod_eq_of_lt fits]
  refine ⟨total, ?_, ?_⟩
  · rw [hasErrors_iff, total, List.length_pos_iff]
  · rw [errors_receiveAll, total, storing, List.length_nil, Nat.sub_zero, List.nil_append,
      ← List.take_take, List.take_length]

/-- The same reports in a collector with a smaller limit: fewer of them may be
stored, and as many are counted. -/
structure Shortens (diagnostics full : Diagnostics) (limit : Nat) : Prop where
  total : diagnostics.total = full.total
  hasErrors : diagnostics.hasErrors = full.hasErrors
  errors : diagnostics.errors = full.errors.take limit

theorem shortens_receiveAll {small large : Nat} (ordered : small ≤ large)
    (reports : List Diagnostic) :
    ((storing small).receiveAll reports).Shortens ((storing large).receiveAll reports) small := by
  have total : ((storing small).receiveAll reports).total =
      ((storing large).receiveAll reports).total := by
    rw [total_receiveAll, total_receiveAll]
    rfl
  refine ⟨total, by rw [hasErrors, hasErrors, total], ?_⟩
  rw [errors_receiveAll, errors_receiveAll]
  simp only [storing, List.length_nil, Nat.sub_zero, List.nil_append, List.take_take,
    Nat.min_eq_left ordered]

end Diagnostics

/-- The result of a program is a fatal problem whatever the limit is, or what
the collector holds after all reports of the program. -/
theorem diagnose_eq (program : Expression) (settings : Settings) :
    diagnose program settings =
      let run := (Check.inferProgram program).run (.initial outermostFrame)
      run.outcome.map fun _ => settings.collector.receiveAll (diagnosticsOf run.events) :=
  rfl

/-- With two limits, a program is aborted by the same problem or comes to its
end, and a session of checks has the same outcomes and leaves the same state.
Both collectors count all reports of the run, the first reports are stored, and
with the smaller limit a beginning of what is stored with the larger one. -/
theorem Session.limit_only_caps (small large : Nat) (ordered : small ≤ large) :
    (∀ program : Expression,
      let run := (Check.inferProgram program).run (.initial outermostFrame)
      let reports := diagnosticsOf run.events
      reports.length < UInt64.size →
      match run.outcome with
      | .error problem =>
        diagnose program ⟨small⟩ = .error problem ∧ diagnose program ⟨large⟩ = .error problem
      | .ok _ => ∃ few many, diagnose program ⟨small⟩ = .ok few ∧
        diagnose program ⟨large⟩ = .ok many ∧
        few.Records small reports ∧ many.Records large reports ∧ few.Shortens many small) ∧
    ∀ (outermost : Frame) (requests : List Request),
      let reports := diagnosticsOf (History.ofRequests outermost requests).past
      reports.length < UInt64.size →
      let (outcomes, session) :=
        (Session.start outermost (.storing small)).performAll requests
      let (others, other) := (Session.start outermost (.storing large)).performAll requests
      outcomes = others ∧ session.state = other.state ∧
        session.diagnostics.Records small reports ∧ other.diagnostics.Records large reports ∧
        session.diagnostics.Shortens other.diagnostics small := by
  refine ⟨?_, ?_⟩
  · intro program run reports fits
    rw [diagnose_eq, diagnose_eq]
    cases outcome : run.outcome with
    | error problem =>
        simp only [run] at outcome
        simp only [outcome]
        exact ⟨rfl, rfl⟩
    | ok type =>
        simp only [run] at outcome
        simp only [outcome]
        exact ⟨_, _, rfl, rfl, Diagnostics.records_receiveAll small fits,
          Diagnostics.records_receiveAll large fits,
          Diagnostics.shortens_receiveAll ordered reports⟩
  · intro outermost requests reports fits
    rw [performAll_start, performAll_start]
    exact ⟨rfl, rfl, Diagnostics.records_receiveAll small fits,
      Diagnostics.records_receiveAll large fits,
      Diagnostics.shortens_receiveAll ordered reports⟩

/-- Three unknown functions are called. -/
def Expression.unknownCalls : Expression :=
  let here : Span := ⟨1, 1, 1, 1⟩
  .sequence
    [.call ⟨"f", here⟩ [] here, .call ⟨"g", here⟩ [] here, .call ⟨"h", here⟩ [] here] here

/-- Of three reports no more than two are stored, or none. -/
theorem Session.limit_only_caps_unknownCalls :
    let reports := diagnosticsOf
      ((Check.inferProgram Expression.unknownCalls).run (.initial outermostFrame)).events
    0 ≤ 2 ∧ reports.length = 3 ∧ reports.length < UInt64.size ∧
    ∃ few many, diagnose Expression.unknownCalls ⟨0⟩ = .ok few ∧
      diagnose Expression.unknownCalls ⟨2⟩ = .ok many ∧
      few.Records 0 reports ∧ many.Records 2 reports ∧ few.Shortens many 0 := by
  intro reports
  have fits : reports.length < UInt64.size := by decide
  exact ⟨by decide, by decide, fits,
    (limit_only_caps 0 2 (by decide)).1 Expression.unknownCalls fits⟩

end StaticSemantics
