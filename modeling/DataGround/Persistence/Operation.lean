import DataGround.Persistence.Schema

/-!
# The statements that change an operation row

Every change of an operation row is one `UPDATE` whose `WHERE` clause is evaluated on the latest
committed version of the row.  Each such statement is a function `Operation → Option Operation`:
the new version of the row, or nothing if the clause does not hold there.

`HeldBy` is the clause by which a statement that acts for a claim is fenced.
-/

namespace DataGround

/-- `OperationClaim`: what a worker is told when an operation is leased to it. -/
structure Claim where
  key : OperationKey
  resourceId : String
  command : Command
  observedState : State
  (stateMachineVersion attempt : Nat)
  leaseOwner : String
  fencingToken : Nat
  (deadlineAt leaseExpiresAt : Time)
  (correlationId actorId : String)
  deriving DecidableEq

/-- The resource the claimed operation is about. -/
def Claim.resource (claim : Claim) : ResourceKey :=
  ⟨claim.key.isolationDomainId, claim.resourceId⟩

/-- Two claims are the same grant: they differ at most in how long the lease lasts, which is all
that `RenewLease` changes. -/
def Claim.SameGrant (claim issued : Claim) : Prop :=
  { claim with leaseExpiresAt := issued.leaseExpiresAt } = issued

instance (claim issued : Claim) : Decidable (claim.SameGrant issued) :=
  inferInstanceAs (Decidable (_ = _))

namespace Claim.SameGrant

variable {claim issued : Claim} (h : claim.SameGrant issued)

include h

lemma fencingToken : claim.fencingToken = issued.fencingToken := by
  rw [← show _ = issued from h]

lemma resourceId : claim.resourceId = issued.resourceId := by
  rw [← show _ = issued from h]

lemma command : claim.command = issued.command := by
  rw [← show _ = issued from h]

lemma observedState : claim.observedState = issued.observedState := by
  rw [← show _ = issued from h]

end Claim.SameGrant

namespace Operation

/-- `lease_expires_at IS NULL OR lease_expires_at <= now`. -/
def LeaseFree (now : Time) (op : Operation) : Prop :=
  ∀ expiry ∈ op.leaseExpiresAt, expiry ≤ now

/-- `lease_expires_at > now`. -/
def LeaseLive (now : Time) (op : Operation) : Prop :=
  ∃ expiry ∈ op.leaseExpiresAt, now < expiry

instance (now : Time) (op : Operation) : Decidable (op.LeaseFree now) :=
  inferInstanceAs (Decidable (∀ expiry ∈ op.leaseExpiresAt, expiry ≤ now))

instance (now : Time) (op : Operation) : Decidable (op.LeaseLive now) :=
  inferInstanceAs (Decidable (∃ expiry ∈ op.leaseExpiresAt, now < expiry))

/-- The clause that fences a statement by its claim: the observed state is the one the claim
returned, the lease has the claim's owner and token, and it has not run out. -/
def HeldBy (claim : Claim) (now : Time) (op : Operation) : Prop :=
  op.observedState = claim.observedState ∧ op.leaseOwner = some claim.leaseOwner ∧
    op.leaseToken = claim.fencingToken ∧ op.LeaseLive now

instance (claim : Claim) (now : Time) (op : Operation) : Decidable (op.HeldBy claim now) :=
  inferInstanceAs (Decidable (_ ∧ _ ∧ _ ∧ _))

/-! ### Claiming and renewing -/

/-- The `UPDATE` of `claimNext`.  Of the conditions under which the row was chosen, its `WHERE`
repeats only the one about the lease. -/
def claim (workerId : String) (now leaseUntil : Time) (op : Operation) : Option Operation :=
  if op.LeaseFree now then
    some { op with
      leaseOwner := some workerId, leaseToken := op.leaseToken + 1
      leaseExpiresAt :=
        some (if op.deadlineAt > now then min leaseUntil op.deadlineAt else leaseUntil)
      attempt := op.attempt + 1, updatedAt := now }
  else none

/-- The `RETURNING` of `claimNext`, read off the new version of the row. -/
def toClaim (key : OperationKey) (workerId : String) (op : Operation) : Claim where
  key := key
  resourceId := op.resourceId
  command := op.command
  observedState := op.observedState
  stateMachineVersion := op.stateMachineVersion
  attempt := op.attempt
  leaseOwner := workerId
  fencingToken := op.leaseToken
  deadlineAt := op.deadlineAt
  leaseExpiresAt := op.leaseExpiresAt.getD 0
  correlationId := op.effectCorrelationId.getD op.correlationId
  actorId := op.effectActorId.getD op.actorId

/-- The `UPDATE` of `RenewLease`. -/
def renew (claim : Claim) (now expiresAt : Time) (op : Operation) : Option Operation :=
  if op.command = claim.command ∧ op.HeldBy claim now ∧ op.deadlineAt > now then
    some { op with
      leaseExpiresAt := op.leaseExpiresAt.map fun expiry =>
        min op.deadlineAt (max expiry expiresAt)
      updatedAt := now }
  else none

/-! ### Settling a claim -/

/-- What a transition writes: the next state, the result and the failure. -/
structure Transition where
  next : State
  result : Option Json
  failure : Option APIError
  deriving DecidableEq

/-- The extra clauses that `advance` puts on publications of the versions 3, 4 and 5: they enter
no state but validating, failed or cancelled, and only while lease and deadline are live by the
database's clock. -/
def GovernedGuard (kind : OperationKind) (next : State) (clock : Time) (op : Operation) : Prop :=
  kind ≠ .publication ∨ op.stateMachineVersion ∉ [3, 4, 5] ∨
    (next ∈ [State.validating, .failed, .cancelled] ∧ op.LeaseLive clock ∧
      (next ∈ [State.failed, .cancelled] ∨ op.deadlineAt > clock))

instance (kind : OperationKind) (next : State) (clock : Time) (op : Operation) :
    Decidable (op.GovernedGuard kind next clock) :=
  inferInstanceAs (Decidable (_ ∨ _ ∨ _))

/-- The error classification after a transition. -/
def classify (next : State) (old : Option ErrorClassification) : Option ErrorClassification :=
  match next with
  | .failed => some .terminal
  | .cancelled => some .cancelled
  | _ => old

/-- The `UPDATE` of `advance`. -/
def advance (claim : Claim) (now clock : Time) (transition : Transition) (op : Operation) :
    Option Operation :=
  if op.HeldBy claim now ∧ op.GovernedGuard claim.key.kind transition.next clock then
    some { op with
      observedState := transition.next, generation := op.generation + 1
      terminalResult := transition.result <|> op.terminalResult
      errorClassification := classify transition.next op.errorClassification
      error := transition.failure <|> op.error, dueAt := now, leaseOwner := none
      leaseExpiresAt := none, lastTransitionAt := now, updatedAt := now }
  else none

/-- The `UPDATE` of `ScheduleRetry`. -/
def scheduleRetry (claim : Claim) (now : Time) (classification : ErrorClassification)
    (error : APIError) (dueAt : Time) (op : Operation) : Option Operation :=
  if op.HeldBy claim now then
    some { op with
      errorClassification := some classification, error := some error, dueAt := dueAt
      leaseOwner := none, leaseExpiresAt := none, updatedAt := now }
  else none

/-- The row that `completeDevelopmentPublication` locks must be the claimed one in every respect,
and its `UPDATE` fences by the database's clock. -/
def CompletableBy (claim : Claim) (clock : Time) (op : Operation) : Prop :=
  op.resourceId = claim.resourceId ∧ op.command = claim.command ∧
    op.stateMachineVersion = claim.stateMachineVersion ∧ op.observedState = .validating ∧
    op.effectActorId.getD op.actorId = claim.actorId ∧
    op.effectCorrelationId.getD op.correlationId = claim.correlationId ∧
    op.HeldBy claim clock ∧ op.deadlineAt > clock

instance (claim : Claim) (clock : Time) (op : Operation) :
    Decidable (op.CompletableBy claim clock) :=
  inferInstanceAs (Decidable (_ ∧ _ ∧ _ ∧ _ ∧ _ ∧ _ ∧ _ ∧ _))

/-- The `UPDATE` of `completeDevelopmentPublication`.  It leaves the error columns alone. -/
def completePublication (claim : Claim) (verifiedAt clock : Time) (result : Json)
    (op : Operation) : Option Operation :=
  if op.CompletableBy claim clock then
    some { op with
      observedState := .published, generation := op.generation + 1, terminalResult := some result
      leaseOwner := none, leaseExpiresAt := none, dueAt := verifiedAt
      lastTransitionAt := verifiedAt, updatedAt := verifiedAt }
  else none

/-! ### Cancellation and repair -/

/-- The `UPDATE` of `AcceptCancellation`.  It takes the lease away but keeps its token. -/
def cancel (actorId correlationId : String) (now : Time) (op : Operation) : Operation :=
  { op with
    command := .cancel, desiredState := .cancelled, observedState := .cancelling
    generation := op.generation + 1, dueAt := now, effectActorId := some actorId
    effectCorrelationId := some correlationId, leaseOwner := none, leaseExpiresAt := none
    lastTransitionAt := now, updatedAt := now }

/-- The `UPDATE` of `RepairOperation`.  The desired state stays what it was. -/
def repair (actorId deduplicationId : String) (newDeadline now : Time) (op : Operation) :
    Option Operation :=
  if op.observedState = .failed then
    some { op with
      command := .repair, observedState := .queued, generation := op.generation + 1, dueAt := now
      deadlineAt := newDeadline, effectActorId := some actorId
      effectCorrelationId := some deduplicationId, errorClassification := none, error := none
      terminalResult := none, leaseOwner := none, leaseExpiresAt := none, lastTransitionAt := now
      updatedAt := now }
  else none

/-- A row as the accepting command inserts it: never leased, and without an error. -/
def Fresh (op : Operation) : Prop :=
  op.leaseOwner = none ∧ op.leaseToken = 0 ∧ op.leaseExpiresAt = none ∧ op.error = none ∧
    op.errorClassification = none

instance (op : Operation) : Decidable op.Fresh :=
  inferInstanceAs (Decidable (_ ∧ _ ∧ _ ∧ _ ∧ _))

end Operation

/-! ### The life of one row -/

/-- A committed change of one operation row, with everything the statement was given. -/
inductive RowCommit where
  /-- The row was inserted. -/
  | accepted (row : Operation)
  /-- `claimNext` returned `claim`. -/
  | claimed (claim : Claim) (now leaseUntil : Time)
  /-- `RenewLease` for `claim`. -/
  | renewed (claim : Claim) (now expiresAt : Time)
  /-- `Advance` or `Fail` for `claim`. -/
  | advanced (claim : Claim) (now clock : Time) (transition : Operation.Transition)
  /-- `ScheduleRetry` for `claim`. -/
  | retried (claim : Claim) (now : Time) (classification : ErrorClassification)
      (error : APIError) (dueAt : Time)
  /-- `completeDevelopmentPublication` for `claim`. -/
  | completed (claim : Claim) (verifiedAt clock : Time) (result : Json)
  /-- `AcceptCancellation`. -/
  | cancelled (actorId correlationId : String) (now : Time)
  /-- `RepairOperation`. -/
  | repaired (actorId deduplicationId : String) (newDeadline now : Time)
  deriving DecidableEq

/-- The row at `key` after a committed change; nothing if its statement does not apply. -/
def RowCommit.apply (key : OperationKey) : Option Operation → RowCommit → Option Operation
  | none, .accepted row => if row.Fresh then some row else none
  | some op, .claimed claim now leaseUntil =>
    match op.claim claim.leaseOwner now leaseUntil with
    | some row => if row.toClaim key claim.leaseOwner = claim then some row else none
    | none => none
  | some op, .renewed claim now expiresAt => op.renew claim now expiresAt
  | some op, .advanced claim now clock transition => op.advance claim now clock transition
  | some op, .retried claim now classification error dueAt =>
    op.scheduleRetry claim now classification error dueAt
  | some op, .completed claim verifiedAt clock result =>
    op.completePublication claim verifiedAt clock result
  | some op, .cancelled actorId correlationId now => some (op.cancel actorId correlationId now)
  | some op, .repaired actorId deduplicationId newDeadline now =>
    op.repair actorId deduplicationId newDeadline now
  | _, _ => none

/-! ### Taking a committed change apart

One lemma per statement: the clause that held, and the new version of the row in terms of the
columns that the statement does not simply copy. -/

namespace Operation

variable {op row : Operation} {c : Claim} {now : Time}

lemma claim_eq_some {workerId : String} {leaseUntil : Time}
    (h : op.claim workerId now leaseUntil = some row) :
    row = { op with
      leaseOwner := some workerId, leaseToken := op.leaseToken + 1
      leaseExpiresAt :=
        some (if op.deadlineAt > now then min leaseUntil op.deadlineAt else leaseUntil)
      attempt := op.attempt + 1
      updatedAt := now } := by
  simp only [claim, Option.ite_none_right_eq_some, Option.some.injEq] at h
  exact h.2.symm

lemma renew_eq_some {expiresAt : Time} (h : op.renew c now expiresAt = some row) :
    op.HeldBy c now ∧ row = { op with
      leaseExpiresAt := op.leaseExpiresAt.map fun expiry =>
        min op.deadlineAt (max expiry expiresAt)
      updatedAt := now } := by
  simp only [renew, Option.ite_none_right_eq_some, Option.some.injEq] at h
  exact ⟨h.1.2.1, h.2.symm⟩

lemma advance_eq_some {clock : Time} {t : Transition} (h : op.advance c now clock t = some row) :
    op.HeldBy c now ∧ row = { op with
      observedState := t.next, generation := op.generation + 1
      terminalResult := t.result <|> op.terminalResult
      errorClassification := classify t.next op.errorClassification
      error := t.failure <|> op.error, dueAt := now, leaseOwner := none, leaseExpiresAt := none
      lastTransitionAt := now
      updatedAt := now } := by
  simp only [advance, Option.ite_none_right_eq_some, Option.some.injEq] at h
  exact ⟨h.1.1, h.2.symm⟩

lemma scheduleRetry_eq_some {classification : ErrorClassification} {error : APIError}
    {dueAt : Time} (h : op.scheduleRetry c now classification error dueAt = some row) :
    op.HeldBy c now ∧ row = { op with
      errorClassification := some classification, error := some error, dueAt := dueAt
      leaseOwner := none, leaseExpiresAt := none
      updatedAt := now } := by
  simp only [scheduleRetry, Option.ite_none_right_eq_some, Option.some.injEq] at h
  exact ⟨h.1, h.2.symm⟩

lemma completePublication_eq_some {verifiedAt clock : Time} {result : Json}
    (h : op.completePublication c verifiedAt clock result = some row) :
    op.CompletableBy c clock ∧ row = { op with
      observedState := .published, generation := op.generation + 1, terminalResult := some result
      leaseOwner := none, leaseExpiresAt := none, dueAt := verifiedAt
      lastTransitionAt := verifiedAt
      updatedAt := verifiedAt } := by
  simp only [completePublication, Option.ite_none_right_eq_some, Option.some.injEq] at h
  exact ⟨h.1, h.2.symm⟩

lemma repair_eq_some {actorId deduplicationId : String} {newDeadline : Time}
    (h : op.repair actorId deduplicationId newDeadline now = some row) :
    op.observedState = .failed ∧ row = { op with
      command := .repair, observedState := .queued, generation := op.generation + 1, dueAt := now
      deadlineAt := newDeadline, effectActorId := some actorId
      effectCorrelationId := some deduplicationId, errorClassification := none, error := none
      terminalResult := none, leaseOwner := none, leaseExpiresAt := none, lastTransitionAt := now
      updatedAt := now } := by
  simp only [repair, Option.ite_none_right_eq_some, Option.some.injEq] at h
  exact ⟨h.1, h.2.symm⟩

end Operation

namespace RowCommit

/-- **What a committed change can do to a row.**  The row before and after, by the statement. -/
inductive Change (key : OperationKey) : Option Operation → RowCommit → Operation → Prop
  | accepted {row : Operation} (fresh : row.Fresh) :
      Change key none (.accepted row) row
  | claimed {op row : Operation} {claim : Claim} {now leaseUntil : Time}
      (update : op.claim claim.leaseOwner now leaseUntil = some row)
      (returning : row.toClaim key claim.leaseOwner = claim) :
      Change key (some op) (.claimed claim now leaseUntil) row
  | renewed {op row : Operation} {claim : Claim} {now expiresAt : Time}
      (update : op.renew claim now expiresAt = some row) :
      Change key (some op) (.renewed claim now expiresAt) row
  | advanced {op row : Operation} {claim : Claim} {now clock : Time}
      {transition : Operation.Transition} (update : op.advance claim now clock transition = some row) :
      Change key (some op) (.advanced claim now clock transition) row
  | retried {op row : Operation} {claim : Claim} {now : Time}
      {classification : ErrorClassification} {error : APIError} {dueAt : Time}
      (update : op.scheduleRetry claim now classification error dueAt = some row) :
      Change key (some op) (.retried claim now classification error dueAt) row
  | completed {op row : Operation} {claim : Claim} {verifiedAt clock : Time} {result : Json}
      (update : op.completePublication claim verifiedAt clock result = some row) :
      Change key (some op) (.completed claim verifiedAt clock result) row
  | cancelled {op : Operation} {actorId correlationId : String} {now : Time} :
      Change key (some op) (.cancelled actorId correlationId now)
        (op.cancel actorId correlationId now)
  | repaired {op row : Operation} {actorId deduplicationId : String} {newDeadline now : Time}
      (update : op.repair actorId deduplicationId newDeadline now = some row) :
      Change key (some op) (.repaired actorId deduplicationId newDeadline now) row

lemma apply_eq_some {key : OperationKey} {before : Option Operation} {after : Operation}
    {change : RowCommit} (h : change.apply key before = some after) :
    Change key before change after := by
  cases before with
  | none =>
    cases change <;> simp only [apply, Option.ite_none_right_eq_some, Option.some.injEq,
      reduceCtorEq] at h
    obtain ⟨hfresh, rfl⟩ := h
    exact .accepted hfresh
  | some =>
    cases change with
    | accepted =>
      simp only [apply, reduceCtorEq] at h
    | claimed =>
      simp only [apply] at h
      split at h
      · rename_i updated hupdate
        simp only [Option.ite_none_right_eq_some, Option.some.injEq] at h
        obtain ⟨hreturning, rfl⟩ := h
        exact .claimed hupdate hreturning
      · cases h
    | renewed => exact .renewed h
    | advanced => exact .advanced h
    | retried => exact .retried h
    | completed => exact .completed h
    | cancelled =>
      cases h
      exact .cancelled
    | repaired => exact .repaired h

end RowCommit

end DataGround
