import DataGround.Persistence.Fenced

/-!
# Error fields of an operation

`ScheduleRetry` writes the error columns of an operation; a transition overwrites them when it
fails or cancels the operation and otherwise keeps what is there (`COALESCE`, `CASE … ELSE`); only
a repair clears them.  An operation that succeeds after a retry therefore still carries the
retry's error (`succeeded_with_error`).

`error_free_iff` says exactly which histories leave the columns empty: those in which a repair
follows every change that recorded an error.
-/

namespace DataGround

namespace RowCommit

/-- The changes that write the error columns: a retry, and a transition that fails or cancels. -/
def RecordsError : RowCommit → Prop
  | .retried _ _ _ _ _ => True
  | .advanced _ _ _ transition =>
    transition.failure.isSome = true ∨ transition.next = .failed ∨ transition.next = .cancelled
  | _ => False

end RowCommit

/-- Every change of the history that recorded an error has a repair after it. -/
def ErrorsRepaired (history : List RowCommit) : Prop :=
  ∀ before change after, history = before ++ change :: after → change.RecordsError →
    ∃ later ∈ after, later.IsRepair

/-- No error is recorded on the row. -/
def Operation.ErrorFree (op : Operation) : Prop :=
  op.error = none ∧ op.errorClassification = none

/-! ### One change -/

lemma errorsRepaired_nil : ErrorsRepaired [] := by
  intro before change after h
  cases before <;> cases h

/-- What one more change does to the errors that are left. -/
lemma errorsRepaired_concat (history : List RowCommit) (last : RowCommit) :
    ErrorsRepaired (history ++ [last]) ↔
      last.IsRepair ∨ (¬last.RecordsError ∧ ErrorsRepaired history) := by
  constructor
  · intro h
    by_cases hrepair : last.IsRepair
    · exact .inl hrepair
    refine .inr ⟨?_, ?_⟩
    · intro hrecords
      obtain ⟨later, hlater, -⟩ := h history last [] rfl hrecords
      cases hlater
    · intro before change after hsplit hrecords
      obtain ⟨later, hlater, hlaterRepair⟩ := h before change (after ++ [last])
        (by rw [hsplit, List.append_assoc, List.cons_append]) hrecords
      rcases List.mem_append.mp hlater with hlater | hlater
      · exact ⟨later, hlater, hlaterRepair⟩
      · exact (hrepair (List.mem_singleton.mp hlater ▸ hlaterRepair)).elim
  · intro h before change after hsplit hrecords
    rcases List.eq_nil_or_concat after with rfl | ⟨after, last', rfl⟩
    · -- The last change is the one that recorded the error, and a repair records none.
      obtain ⟨-, heq⟩ := List.append_inj' hsplit rfl
      obtain rfl := List.singleton_injective heq
      rcases h with hrepair | ⟨hrecords', -⟩
      · cases last <;> first | exact hrepair.elim | exact hrecords.elim
      · exact (hrecords' hrecords).elim
    · rw [List.concat_eq_append, ← List.cons_append, ← List.append_assoc] at hsplit
      obtain ⟨hhistory, heq⟩ := List.append_inj' hsplit rfl
      obtain rfl := List.singleton_injective heq
      rw [List.concat_eq_append]
      rcases h with hrepair | ⟨-, hrepaired⟩
      · exact ⟨last, List.mem_append_right _ (List.mem_singleton_self _), hrepair⟩
      · obtain ⟨later, hlater, hlaterRepair⟩ := hrepaired before change after hhistory hrecords
        exact ⟨later, List.mem_append_left _ hlater, hlaterRepair⟩

/-- A transition leaves the row free of errors when it was before, and neither fails nor cancels
it. -/
lemma Operation.errorFree_advance {op row : Operation} {claim : Claim} {now clock : Time}
    {transition : Transition} (h : op.advance claim now clock transition = some row) :
    row.ErrorFree ↔
      ¬(RowCommit.advanced claim now clock transition).RecordsError ∧ op.ErrorFree := by
  obtain ⟨-, rfl⟩ := Operation.advance_eq_some h
  obtain ⟨next, _, failure⟩ := transition
  cases failure <;> cases next <;> simp [ErrorFree, RowCommit.RecordsError, classify]

/-- **One committed change** leaves the row free of errors exactly if it is a repair, or records
no error on a row that was free of them. -/
lemma RowCommit.Change.errorFree_iff {key : OperationKey} {op row : Operation} {change : RowCommit}
    (h : Change key (some op) change row) :
    row.ErrorFree ↔ change.IsRepair ∨ (¬change.RecordsError ∧ op.ErrorFree) := by
  cases h with
  | claimed update =>
    obtain rfl := Operation.claim_eq_some update
    simp [IsRepair, RecordsError, Operation.ErrorFree]
  | renewed update =>
    obtain ⟨-, rfl⟩ := Operation.renew_eq_some update
    simp [IsRepair, RecordsError, Operation.ErrorFree]
  | advanced update =>
    rw [Operation.errorFree_advance update]
    simp only [IsRepair, false_or]
  | retried update =>
    obtain ⟨-, rfl⟩ := Operation.scheduleRetry_eq_some update
    simp [IsRepair, RecordsError, Operation.ErrorFree]
  | completed update =>
    obtain ⟨-, rfl⟩ := Operation.completePublication_eq_some update
    simp [IsRepair, RecordsError, Operation.ErrorFree]
  | cancelled =>
    simp [IsRepair, RecordsError, Operation.ErrorFree, Operation.cancel]
  | repaired update =>
    obtain ⟨-, rfl⟩ := Operation.repair_eq_some update
    simp [IsRepair, Operation.ErrorFree]

/-! ### Whole histories -/

/-- **A row is free of errors exactly if a repair followed each of them.** -/
lemma RowLife.errorFree_iff {key : OperationKey} {history : List RowCommit} {life : RowLife}
    {op : Operation} (h : Run.run (RowLife.step key) .unborn history = some life)
    (hop : life.row = some op) : op.ErrorFree ↔ ErrorsRepaired history := by
  induction history using List.reverseRecOn generalizing life op with
  | nil =>
    cases h
    cases hop
  | append_singleton history change ih =>
    obtain ⟨before, hbefore, -, hchange⟩ := change_of_run h hop
    rw [errorsRepaired_concat]
    cases hlife : before.row with
    | none =>
      -- The row is inserted, so this is the first change of the history.
      rw [hlife] at hchange
      obtain ⟨⟨-, -, -, herror⟩⟩ := hchange
      have hempty : history = [] := eq_nil_of_row_eq_none hbefore hlife
      simp [hempty, RowCommit.RecordsError, errorsRepaired_nil, Operation.ErrorFree, herror]
    | some =>
      rw [hlife] at hchange
      rw [hchange.errorFree_iff, ih hbefore hlife]

/-- **When a finished operation carries no error.**  In every store that any interleaving of calls
leads to, an operation that is succeeded or published has neither an error nor an error
classification exactly if every change that recorded one -- a scheduled retry, a transition that
failed or cancelled the operation -- was followed by a repair. -/
theorem error_free_iff (env : Environment) (calls : List Call) (s : Store)
    (h : Run.run (Store.step env) Store.empty calls = some s) (key : OperationKey)
    (op : Operation) (hop : s.db.operations.lookup key = some op)
    (_finished : op.observedState = .succeeded ∨ op.observedState = .published) :
    (op.error = none ∧ op.errorClassification = none) ↔ ErrorsRepaired (s.rowHistory key) :=
  RowLife.errorFree_iff (Store.run_rowsFollow h key) hop

namespace Scenario

/-- One claim and one transition after the other, from the `n`-th claim at time `10 * n` on. -/
def advancing : Nat → List (State × State × Option Json) → List Call
  | _, [] => []
  | n, (state, next, result) :: rest =>
    claiming "one" (10 * n) ++
      .advance ⟨10 * n + 1, 10 * n + 1, "audit-" ++ toString n⟩
        (claim "one" n (10 * n) state) next result ::
      advancing (n + 1) rest

/-- The way from the queue to success. -/
def path : List (State × State × Option Json) :=
  [(.queued, .starting, none), (.starting, .running, none), (.running, .observing, none),
    (.observing, .succeeded, some (.ofMembers []))]

/-- The operation succeeds at the first attempt. -/
def succeedsAtOnce : List Call :=
  accepted ++ advancing 1 path

/-- The first claim schedules a retry; the operation then succeeds. -/
def succeedsAfterRetry : List Call :=
  accepted ++ claiming "one" 10 ++
    .scheduleRetry ⟨11, 11, "audit-1"⟩ (claim "one" 1 10 .queued) .retryable
      "RECONCILIATION_RETRY" 13 :: advancing 2 path

end Scenario

open Scenario

/-- An operation that succeeds at once carries no error. -/
theorem error_free_at_once : ∃ s op,
    Run.run (Store.step env) Store.empty succeedsAtOnce = some s ∧
    s.db.operations.lookup key = some op ∧ op.observedState = .succeeded ∧
    ErrorsRepaired (s.rowHistory key) := by
  obtain ⟨s, hs, op, hop, hstate, hfree⟩ : ∃ s,
      Run.run (Store.step env) Store.empty succeedsAtOnce = some s ∧
      ∃ op, s.db.operations.lookup key = some op ∧ op.observedState = .succeeded ∧
      op.error = none ∧ op.errorClassification = none := by
    decide +kernel
  exact ⟨s, op, hs, hop, hstate, (error_free_iff env _ s hs key op hop (.inl hstate)).mp hfree⟩

/-- **A retried operation succeeds and keeps the retry's error.** -/
theorem succeeded_with_error : ∃ s op,
    Run.run (Store.step env) Store.empty succeedsAfterRetry = some s ∧
    s.db.operations.lookup key = some op ∧ op.observedState = .succeeded ∧
    op.error ≠ none ∧ op.errorClassification = some .retryable := by
  simp only [exists_and_left]
  decide +kernel

end DataGround
