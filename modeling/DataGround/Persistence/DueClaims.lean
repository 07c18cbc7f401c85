import DataGround.Persistence.Fenced

/-!
# Claims of operations that are due

`claimNext` chooses among operations that are due and in none of the excluded states, but it
chooses on a snapshot.  Its `UPDATE` repeats only the condition on the lease, so a claim may be
returned for a row that has been settled since: `claim_of_settled_row` is such a run.

What the claim statement needs is that nothing takes its candidate out of reach while it is in
flight.  `Undisturbed` spells that out for each call, and under it every claim returned is for a
row that is due and in no excluded state (`claimed_row_due`).
-/

namespace DataGround

/-- The row is still one that the statement may lease: it is in no excluded state, and due. -/
def ClaimStatement.StillDue (statement : ClaimStatement) (op : Operation) : Prop :=
  op.observedState ∉ excludedStates statement.candidate.kind ∧ op.dueAt ≤ statement.request.now

/-- The operation that a call puts back into the queue, and when it is due then. -/
def Call.requeues : Call → Option (OperationKey × Time)
  | .scheduleRetry _ claim _ _ dueAt => some (claim.key, dueAt)
  | .repairOperation m input => some (input.key, m.now)
  | _ => none

/-- The operation that a call publishes under a claim. -/
def Call.publishes : Call → Option OperationKey
  | .completeDevelopmentPublication _ claim _ _ _ => some claim.key
  | _ => none

/-- The invocation that a call cancels, and when. -/
def Call.cancels : Call → Option (ResourceKey × Time)
  | .acceptCancellation m input => some (input.key, m.now)
  | _ => none

/-- The transition that `advance` would make, if it gets that far. -/
def resolvedTransition (env : Environment) (s : Store) (claim : Claim)
    (transition : Operation.Transition) : Option Operation.Transition :=
  match resolveTransition env claim transition s with
  | .ok (made, _) => some made
  | .error _ => none

/-- The call leaves the candidate of `statement` claimable, judged by its arguments and the store
before it: it does not move the operation into an excluded state, and it does not make it due
later than the statement's claiming time. -/
def Call.Undisturbing (env : Environment) (s : Store) (statement : ClaimStatement)
    (call : Call) : Prop :=
  (∀ asked ∈ call.asksFor, asked.2.1.key = statement.candidate →
    ∀ made ∈ resolvedTransition env s asked.2.1 asked.2.2,
      made.next ∉ excludedStates statement.candidate.kind ∧ asked.1.now ≤ statement.request.now) ∧
  (∀ requeued ∈ call.requeues, requeued.1 = statement.candidate →
    requeued.2 ≤ statement.request.now) ∧
  (∀ published ∈ call.publishes, published ≠ statement.candidate) ∧
  (∀ cancelled ∈ call.cancels, statement.candidate ∈ operationsOf s.db cancelled.1 →
    cancelled.2 ≤ statement.request.now)

instance (env : Environment) (s : Store) (statement : ClaimStatement) (call : Call) :
    Decidable (call.Undisturbing env s statement) :=
  inferInstanceAs (Decidable (_ ∧ _ ∧ _ ∧ _))

/-- No claim statement in flight is disturbed by the call. -/
def Undisturbed (env : Environment) (s : Store) (call : Call) : Prop :=
  ∀ statement ∈ s.statements, call.Undisturbing env s statement

instance (env : Environment) (s : Store) (call : Call) : Decidable (Undisturbed env s call) :=
  inferInstanceAs (Decidable (∀ statement ∈ s.statements, call.Undisturbing env s statement))

/-- The candidate of every statement in flight is still claimable. -/
def Store.CandidatesDue (s : Store) : Prop :=
  ∀ statement ∈ s.statements, ∃ op,
    s.db.operations.lookup statement.candidate = some op ∧ statement.StillDue op

/-! ### One call -/

/-- An undisturbing call leaves the candidate's row claimable. -/
lemma RowStep.stillDue {env : Environment} {s : Store} {call : Call} {statement : ClaimStatement}
    {op op' : Operation} (h : RowStep env s call statement.candidate op op')
    (hcall : call.Undisturbing env s statement) (hop : statement.StillDue op) :
    statement.StillDue op' := by
  cases h with
  | same => exact hop
  | claimed _ _ update =>
    obtain rfl := Operation.claim_eq_some update
    exact hop
  | renewed _ _ update =>
    obtain ⟨-, rfl⟩ := Operation.renew_eq_some update
    exact hop
  | @advanced _ claim transition made _ asked at_key _ resolved _ _ update =>
    obtain ⟨-, rfl⟩ := Operation.advance_eq_some update
    have hmade : made ∈ resolvedTransition env s claim transition := by
      simp only [resolvedTransition, resolved, Option.mem_some_iff]
    exact hcall.1 _ asked at_key.symm made hmade
  | retried is at_key update =>
    subst is
    obtain ⟨-, rfl⟩ := Operation.scheduleRetry_eq_some update
    exact ⟨hop.1, hcall.2.1 _ rfl at_key.symm⟩
  | completed is at_key =>
    subst is
    exact (hcall.2.2.1 _ rfl at_key.symm).elim
  | cancelled is at_key =>
    subst is
    refine ⟨?_, hcall.2.2.2 _ rfl at_key⟩
    cases statement.candidate.kind <;> simp [Operation.cancel, excludedStates]
  | repaired is at_key update =>
    subst is
    obtain ⟨-, rfl⟩ := Operation.repair_eq_some update
    refine ⟨?_, hcall.2.1 _ rfl at_key.symm⟩
    cases statement.candidate.kind <;> simp [excludedStates]

/-- The statements in flight after a call were in flight before, or have just chosen a claimable
candidate. -/
lemma Store.step_statements {env : Environment} {s t : Store} {call : Call}
    (h : s.step env call = some t) : ∀ statement ∈ t.statements, statement ∈ s.statements ∨
      ∃ op, t.db.operations.lookup statement.candidate = some op ∧ statement.StillDue op := by
  intro statement hstatement
  have hsame : t.statements = s.statements → statement ∈ s.statements ∨ ∃ op,
      t.db.operations.lookup statement.candidate = some op ∧ statement.StillDue op :=
    fun heq => .inl (heq ▸ hstatement)
  cases Store.step_did h with
  | @chosen _ _ _ op row claimable core =>
    rw [core.statements] at hstatement
    rcases List.mem_append.mp hstatement with hold | hnew
    · exact .inl hold
    · obtain rfl := List.mem_singleton.mp hnew
      obtain ⟨-, hstate, -, -, -, -, hdue, -⟩ := claimable
      exact .inr ⟨op, core.operations ▸ row, hstate, hdue⟩
  | finished _ core | claimed _ _ _ core =>
    rw [core.statements] at hstatement
    exact .inl (List.mem_of_mem_erase hstatement)
  | cancelled _ _ rows core =>
    refine hsame ?_
    rw [core.statements, rows.rest]
    rfl
  | quiet core | acceptedInvocation _ _ _ _ core | acceptedPublication _ _ core
  | completed _ _ _ core | renewed _ _ core | advanced _ _ _ _ _ _ core | retried _ _ core
  | repaired _ core | insertedEffect core | recordedEffect _ core => exact hsame core.statements

/-- An undisturbed step keeps every candidate claimable. -/
lemma Store.CandidatesDue.step {env : Environment} {s t : Store} {call : Call}
    (hs : s.CandidatesDue) (hcall : Undisturbed env s call) (h : s.step env call = some t) :
    t.CandidatesDue := by
  intro statement hstatement
  obtain hold | hnew := Store.step_statements h statement hstatement
  · obtain ⟨_, hop, hdue⟩ := hs statement hold
    obtain ⟨op', hop', hrow⟩ := Store.step_row h hop
    exact ⟨op', hop', hrow.stillDue (hcall statement hold) hdue⟩
  · exact hnew

/-! ### Whole runs -/

/-- **A claim is returned only for a row that is due and in no excluded state**, in every run in
which no call disturbs a claim statement in flight: the row that the `UPDATE` of the statement
finds at that moment is in none of the states that the kind excludes, is due at the claiming time,
and is the row that the claim describes. -/
theorem claimed_row_due (env : Environment) (calls : List Call) (s t : Store)
    (h : Run.run (Store.step env) Store.empty calls = some s)
    (hcalls : Run.Along (Store.step env) (Undisturbed env) Store.empty calls)
    (statement : ClaimStatement) (claim : Claim)
    (hclaim : Repository.claimUpdate statement s = .ok (some claim, t)) :
    ∃ op, s.db.operations.lookup claim.key = some op ∧ claim.observedState = op.observedState ∧
      op.observedState ∉ excludedStates claim.key.kind ∧ op.dueAt ≤ statement.request.now := by
  have hdue : s.CandidatesDue :=
    Run.run_invariant_along (P := Store.CandidatesDue)
      (fun _ _ _ hs hcall hstep => hs.step hcall hstep) (by simp [Store.CandidatesDue, Store.empty])
      hcalls h
  obtain ⟨hmem, ⟨hnone, -⟩ | ⟨op, _, hop, hupdate, hreturned, -⟩⟩ := claimUpdate_eq_ok hclaim
  · cases hnone
  · obtain ⟨op', hop', hstate, hdueAt⟩ := hdue statement hmem
    obtain rfl : op = op' := Option.some.inj (hop.symm.trans hop')
    obtain rfl := Operation.claim_eq_some hupdate
    obtain rfl := Option.some.inj hreturned
    exact ⟨op, hop, rfl, hstate, hdueAt⟩

namespace Scenario

/-- Two workers put their claim statements in flight, and the first claims the operation. -/
def twoStatements : List Call :=
  accepted ++ [.claimSnapshot (request "one" 1), .claimSnapshot (request "two" 3),
    .claimUpdate ⟨request "one" 1, key⟩]

/-- The first worker starts the operation at 2, before the second worker's claiming time. -/
def startedBetween : List Call :=
  twoStatements ++ [.advance ⟨2, 2, "audit-1"⟩ (claim "one" 1 1 .queued) .starting none]

/-- The first worker's operation fails. -/
def failedBetween : List Call :=
  twoStatements ++ [.fail ⟨2, 2, "audit-1"⟩ (claim "one" 1 1 .queued) .deadline]

/-- The first worker schedules a retry for much later. -/
def retriedBetween : List Call :=
  twoStatements ++ [.scheduleRetry ⟨2, 2, "audit-1"⟩ (claim "one" 1 1 .queued) .retryable
    "RECONCILIATION_RETRY" 900]

end Scenario

open Scenario

/-- The second worker's statement claims the operation that the first worker has just started. -/
theorem claimed_row_due_after_start : ∃ s t claim op,
    Run.run (Store.step env) Store.empty startedBetween = some s ∧
    Repository.claimUpdate ⟨request "two" 3, key⟩ s = .ok (some claim, t) ∧
    s.db.operations.lookup claim.key = some op ∧ claim.observedState = op.observedState ∧
    op.observedState ∉ excludedStates claim.key.kind ∧ op.dueAt ≤ 3 := by
  obtain ⟨s, hs, ⟨_, t⟩, hclaim, claim, rfl, -⟩ : ∃ s,
      Run.run (Store.step env) Store.empty startedBetween = some s ∧
      ∃ result, (Repository.claimUpdate ⟨request "two" 3, key⟩ s).toOption = some result ∧
      ∃ claim, result.1 = some claim ∧ True := by decide +kernel
  have hundisturbed : Run.Along (Store.step env) (Undisturbed env) Store.empty
      startedBetween := by decide +kernel
  obtain ⟨op, hop, hsame, hstate, hdue⟩ := claimed_row_due env startedBetween s t hs hundisturbed _
    claim (Transaction.toOption_eq_some.mp hclaim)
  exact ⟨s, t, claim, op, hs, Transaction.toOption_eq_some.mp hclaim, hop, hsame, hstate, hdue⟩

/-- **The claim statement leases rows that are settled by now.**  Between the snapshot and the
`UPDATE` of the second worker's statement the first worker claims the operation and fails it, or
schedules its retry for 900.  The statement returns a claim in both cases: of a row in the
excluded state `failed`, and of a row due at 900 although the claiming time is 3. -/
theorem claim_of_settled_row :
    (∃ s t claim op,
      Run.run (Store.step env) Store.empty failedBetween = some s ∧
      Repository.claimUpdate ⟨request "two" 3, key⟩ s = .ok (some claim, t) ∧
      s.db.operations.lookup key = some op ∧
      op.observedState ∈ excludedStates key.kind) ∧
    ∃ s t claim op,
      Run.run (Store.step env) Store.empty retriedBetween = some s ∧
      Repository.claimUpdate ⟨request "two" 3, key⟩ s = .ok (some claim, t) ∧
      s.db.operations.lookup key = some op ∧
      (request "two" 3).now < op.dueAt := by
  constructor
  · obtain ⟨s, hs, ⟨_, t⟩, hclaim, claim, rfl, op, hop, hstate⟩ : ∃ s,
        Run.run (Store.step env) Store.empty failedBetween = some s ∧
        ∃ result, (Repository.claimUpdate ⟨request "two" 3, key⟩ s).toOption = some result ∧
        ∃ claim, result.1 = some claim ∧ ∃ op, s.db.operations.lookup key = some op ∧
        op.observedState ∈ excludedStates key.kind := by decide +kernel
    exact ⟨s, t, claim, op, hs, Transaction.toOption_eq_some.mp hclaim, hop, hstate⟩
  · obtain ⟨s, hs, ⟨_, t⟩, hclaim, claim, rfl, op, hop, hdue⟩ : ∃ s,
        Run.run (Store.step env) Store.empty retriedBetween = some s ∧
        ∃ result, (Repository.claimUpdate ⟨request "two" 3, key⟩ s).toOption = some result ∧
        ∃ claim, result.1 = some claim ∧ ∃ op, s.db.operations.lookup key = some op ∧
        (request "two" 3).now < op.dueAt := by decide +kernel
    exact ⟨s, t, claim, op, hs, Transaction.toOption_eq_some.mp hclaim, hop, hdue⟩

end DataGround
