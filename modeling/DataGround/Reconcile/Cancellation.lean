import DataGround.Persistence.ErrorFields
import DataGround.Reconcile.System

/-!
# Cancelled invocations

Once a cancellation is committed the operation has the command `cancel`, and every worker that
claims it from then on dispatches to `cancelling` and `cancelled` only; a worker that claimed it
before can settle its claim no more.  So the operation stays in `cancelling`, `cancelled` or
`failed` -- until it is repaired: `RepairOperation` takes a failed operation whatever its desired
state is, and gives it the command `repair` (`repaired_after_cancellation`).

`cancelled_until_repaired` is the law with its condition: as long as no repair follows the
cancellation, the operation does not run.
-/

namespace DataGround

/-- The states of an operation under cancellation. -/
def cancellationStates : List State :=
  [.cancelling, .cancelled, .failed]

/-- Every invocation operation with the command `cancel` is under cancellation. -/
def Store.CancelHeld (s : Store) : Prop :=
  ∀ key op, key.kind = .invocation → s.db.operations.lookup key = some op →
    op.command = .cancel → op.observedState ∈ cancellationStates

/-- The transition that a worker makes with a claim of a cancelled invocation. -/
lemma next_of_dispatched_cancel {claim : Claim} {transition made : Operation.Transition}
    (hkind : claim.key.kind = .invocation) (hcommand : claim.command = .cancel)
    (hasked : Asked claim transition) (hmade : MadeFrom claim transition made) : made.next ∈ cancellationStates := by
  rcases hmade with rfl | ⟨-, hfailed, -⟩
  · rcases hasked with ⟨hfailed, -⟩ | ⟨hdispatched, -⟩
    · simp [cancellationStates, hfailed]
    · obtain ⟨hnext, -⟩ := hdispatched hkind
      rw [if_pos hcommand] at hnext
      rcases hnext with hnext | hnext <;> simp [cancellationStates, hnext]
  · simp [cancellationStates, hfailed]

/-- One call keeps cancelled operations under cancellation. -/
lemma Store.CancelHeld.step {env : Environment} {sys : System} {call : Call} {t : Store}
    (hheld : sys.store.CancelHeld) (hrows : sys.store.RowsFollow) (hsource : System.Source sys call)
    (h : sys.store.step env call = some t) : t.CancelHeld := by
  intro key op' hkind hop' hcommand
  cases hlookup : sys.store.db.operations.lookup key with
  | none =>
    -- A new operation is to be invoked.
    rcases Store.step_new_row h hlookup hop' with hpublication | ⟨m, input, -, -, rfl⟩
    · rw [hkind] at hpublication
      cases hpublication
    · cases hcommand
  | some op =>
    obtain ⟨row, hrow, hstep⟩ := Store.step_row h hlookup
    obtain rfl : row = op' := Option.some.inj (hrow.symm.trans hop')
    cases hstep with
    | same => exact hheld key _ hkind hlookup hcommand
    | claimed _ _ update =>
      obtain rfl := Operation.claim_eq_some update
      exact hheld key op hkind hlookup hcommand
    | renewed _ _ update =>
      obtain ⟨-, rfl⟩ := Operation.renew_eq_some update
      exact hheld key op hkind hlookup hcommand
    | advanced asked at_key _ _ madeFrom issued update =>
      subst at_key
      obtain ⟨hclaim, rfl⟩ := Operation.advance_eq_some update
      have hclaimed := RowLife.command_of_heldBy (hrows _) hlookup issued hclaim
      exact next_of_dispatched_cancel hkind (hclaimed.symm.trans hcommand)
        (hsource.dispatched asked) madeFrom
    | retried _ _ update =>
      obtain ⟨-, rfl⟩ := Operation.scheduleRetry_eq_some update
      exact hheld key op hkind hlookup hcommand
    | completed _ at_key kind =>
      subst at_key
      cases kind.symm.trans hkind
    | cancelled => simp [cancellationStates, Operation.cancel]
    | repaired _ _ update =>
      obtain ⟨-, rfl⟩ := Operation.repair_eq_some update
      cases hcommand

/-- In every reachable system cancelled operations are under cancellation. -/
lemma System.run_cancelHeld {env : Environment} {events : List Event} {sys : System}
    (h : Run.run (System.step env) System.initial events = some sys) :
    sys.Sound ∧ sys.store.CancelHeld := by
  refine Run.run_invariant (P := fun sys => sys.Sound ∧ sys.store.CancelHeld) ?_
    ⟨sound_initial, fun key op _ hop => by cases hop⟩ h
  rintro sys event sys' ⟨hsound, hheld⟩ hstep
  refine ⟨hsound.step hstep, ?_⟩
  obtain hsame | ⟨call, hsource, hcall⟩ := System.step_store hsound.obedient hstep
  · exact hsame ▸ hheld
  · exact hheld.step hsound.rowsFollow hsource hcall

/-! ### After the cancellation -/

/-- No change but a repair takes the command `cancel` away. -/
lemma RowCommit.Change.command_cancel {key : OperationKey} {op row : Operation}
    {change : RowCommit} (h : Change key (some op) change row) (hrepair : ¬change.IsRepair)
    (hcommand : op.command = .cancel) : row.command = .cancel := by
  rcases h.keeps.2.2 with hsame | hcancel | hrepaired
  · exact hsame.trans hcommand
  · exact hcancel
  · exact (hrepair hrepaired).elim

/-- A history with a cancellation and no repair after it leaves the command `cancel`. -/
lemma RowLife.command_of_cancelled {key : OperationKey} {before after : List RowCommit}
    {actorId correlationId : String} {now : Time} {life : RowLife} {op : Operation}
    (h : Run.run (RowLife.step key) .unborn
      (before ++ .cancelled actorId correlationId now :: after) = some life)
    (hafter : ∀ change ∈ after, ¬change.IsRepair) (hop : life.row = some op) :
    op.command = .cancel := by
  induction after using List.reverseRecOn generalizing life op with
  | nil =>
    obtain ⟨found, -, -, hchange⟩ := change_of_run h hop
    cases hlife : found.row with
    | none =>
      rw [hlife] at hchange
      cases hchange
    | some =>
      rw [hlife] at hchange
      cases hchange
      rfl
  | append_singleton _ change ih =>
    rw [← List.cons_append, ← List.append_assoc] at h
    obtain ⟨found, hfound, -, hchange⟩ := change_of_run h hop
    cases hlife : found.row with
    | none => simpa using eq_nil_of_row_eq_none hfound hlife
    | some =>
      rw [hlife] at hchange
      exact hchange.command_cancel (hafter change (by simp))
        (ih hfound (fun c hc => hafter c (List.mem_append_left _ hc)) hlife)

/-- **A cancelled invocation does not run until it is repaired.**  In every system that any
interleaving of workers and callers leads to: if no repair of an invocation's operation was
committed after a cancellation of it, the operation is cancelling, cancelled or failed -- it is
neither starting, running nor observing, and has not succeeded. -/
theorem cancelled_until_repaired (env : Environment) (events : List Event) (sys : System)
    (h : Run.run (System.step env) System.initial events = some sys) (key : OperationKey)
    (hkind : key.kind = .invocation) (op : Operation)
    (hop : sys.store.db.operations.lookup key = some op) (before after : List RowCommit)
    (actorId correlationId : String) (now : Time)
    (hcancelled : sys.store.rowHistory key =
      before ++ .cancelled actorId correlationId now :: after)
    (hunrepaired : ∀ change ∈ after, ¬change.IsRepair) :
    op.observedState ∈ [State.cancelling, .cancelled, .failed] := by
  obtain ⟨hsound, hheld⟩ := System.run_cancelHeld h
  have hlife := hsound.rowsFollow key
  rw [hcancelled] at hlife
  exact hheld key op hkind hop (RowLife.command_of_cancelled hlife hunrepaired hop)

namespace Scenario

/-- A worker without publication drivers takes the operation at `now`, and finds it in time. -/
def taking (worker : Nat) (workerId : String) (now : Time) : List Event :=
  [.choose worker (request workerId now), .lease worker ⟨false, false⟩ .acknowledged,
    .answer worker (.time now)]

/-- A store call of a worker is answered at `now`. -/
def stored (worker : Nat) (now : Time) (auditId : String) : Event :=
  .answer worker (.store ⟨now, now, auditId⟩ .acknowledged)

/-- The invocation is accepted, and cancelled at once. -/
def cancelledAtOnce : List Event :=
  accepted.map .call ++
    [.call (.acceptCancellation ⟨1, 1, "audit-1"⟩ ⟨"iso", "inv", "caller", "cancellation"⟩)]

/-- The driver denies the effect of the cancellation, and the operation fails. -/
def denied : List Event :=
  taking 0 "one" 2 ++ [stored 0 3 "", stored 0 4 "",
    .answer 0 (.observed (.error { denied := true })), stored 0 5 "", stored 0 6 "audit-2",
    .finish 0]

/-- An operator repairs the operation, and a worker takes it up. -/
def repairedAndStarted : List Event :=
  .call (.repairOperation ⟨7, 7, "audit-3"⟩ ⟨key, "operator", "retry it", "repair-1", 2000⟩) ::
    taking 0 "one" 8 ++ [stored 0 9 "audit-4"]

end Scenario

open Scenario

/-- A cancellation whose effect is denied leaves the operation failed. -/
theorem cancelled_until_repaired_denied : ∃ sys op,
    Run.run (System.step env) System.initial
      (cancelledAtOnce ++ denied) = some sys ∧
    sys.store.db.operations.lookup key = some op ∧
    op.observedState ∈ [State.cancelling, .cancelled, .failed] := by
  obtain ⟨sys, hsys, op, hop, hhead, hrepairs⟩ : ∃ sys,
      Run.run (System.step env) System.initial (cancelledAtOnce ++ denied) = some sys ∧
      ∃ op, sys.store.db.operations.lookup key = some op ∧
      ((sys.store.rowHistory key).drop 1).head? = some (.cancelled "caller" "cancellation" 1) ∧
      ∀ change ∈ (sys.store.rowHistory key).drop 2, ¬change.IsRepair := by
    decide +kernel
  have hsplit : sys.store.rowHistory key = (sys.store.rowHistory key).take 1 ++
      .cancelled "caller" "cancellation" 1 :: (sys.store.rowHistory key).drop 2 := by
    conv_lhs => rw [← List.take_append_drop 1 (sys.store.rowHistory key)]
    rw [List.eq_cons_of_mem_head? hhead, List.tail_drop]
  exact ⟨sys, op, hsys, hop, cancelled_until_repaired env _ sys hsys key rfl op hop
    _ _ _ _ _ hsplit hrepairs⟩

/-- **A repaired invocation starts although it was cancelled.**  The driver denies the effect of
the cancellation, so the operation fails; the repair puts it back into the queue under the
command `repair`, and the next worker starts it.  Its desired state is `cancelled` all the time. -/
theorem repaired_after_cancellation : ∃ sys op,
    Run.run (System.step env) System.initial
      (cancelledAtOnce ++ denied ++ repairedAndStarted) = some sys ∧
    sys.store.db.operations.lookup key = some op ∧
    op.desiredState = .cancelled ∧ op.observedState = .starting := by
  simp only [exists_and_left]
  decide +kernel

end DataGround
