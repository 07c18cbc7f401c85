import DataGround.Persistence.JournalCalls
import Mathlib.Data.Int.ConditionallyCompleteOrder

/-!
# Approvals: the rows and the methods

A runtime asks for an approval before it acts.  A controller resolves the approval, a worker
delivers the decision in two steps, and an approval that is not delivered in time is closed or
expires.  Six methods change the rows of `invocation_runtime_approvals`, and all of them may run at
once; they are modelled here by their statements, as the writers of the journal are.

The database is its log of row versions: every `INSERT` and every `UPDATE` adds one (see
`Library.WriteLog`).  A transaction that reads a row `FOR UPDATE`, or writes it, has its lock until
it ends.  Every statement is executed at a time of the database's clock, which never goes back.
What the statements find in other tables -- leases, attempts, targets, the journal -- is left open,
and every statement may fail, for instance at a trigger.
-/

namespace DataGround

open Process (ask ensure demand)

/-! ### Versions of a row -/

/-- The `UPDATE` statements of `invocation_runtime_approvals`, with the values they are given. -/
inductive ApprovalUpdate where
  | resolve (decision actorId correlationId : String) (now : Time) (version : ℕ)
  | beginDelivery (effectiveDecision : String) (now : Time)
  | completeDelivery (now : Time)
  | close (state : InteractionState) (reason : String) (now : Time)
  deriving DecidableEq

namespace ApprovalUpdate

/-- `expires_at IS NULL OR expires_at > clock_timestamp()`. -/
def isUnexpired (clock : Time) (row : RuntimeApproval) : Bool :=
  row.expiresAt.all fun expiresAt => clock < expiresAt

/-- The `WHERE` of a statement, as far as it is about the row. -/
def applies (clock : Time) (row : RuntimeApproval) : ApprovalUpdate → Bool
  | .resolve _ _ _ _ version =>
    row.state = .pending && row.version = version && isUnexpired clock row
  | .beginDelivery _ _ => row.state = .resolved && isUnexpired clock row
  | .completeDelivery _ => row.state = .delivering && isUnexpired clock row
  | .close _ _ _ => true

/-- The `WHERE` of a statement has `runtimeInteractionLiveAttemptSQL`. -/
def needsLiveAttempt : ApprovalUpdate → Bool
  | .close _ _ _ => false
  | _ => true

/-- The `SET` of a statement. -/
def set (row : RuntimeApproval) : ApprovalUpdate → RuntimeApproval
  | .resolve decision actorId correlationId now _ =>
    { row with
      state := .resolved, version := row.version + 1, decision := decision, resolvedBy := actorId
      resolutionCorrelationId := correlationId, resolvedAt := some now, updatedAt := now }
  | .beginDelivery effectiveDecision now =>
    { row with
      state := .delivering, version := row.version + 1, effectiveDecision := effectiveDecision
      updatedAt := now }
  | .completeDelivery now =>
    { row with
      state := .delivered, version := row.version + 1, deliveredAt := some now, updatedAt := now }
  | .close state reason now =>
    { row with
      state := state, version := row.version + 1, closedAt := some now, closeReason := reason
      updatedAt := now }

/-- The time that a statement writes. -/
def now : ApprovalUpdate → Time
  | .resolve _ _ _ now _ => now
  | .beginDelivery _ now => now
  | .completeDelivery now => now
  | .close _ _ now => now

/-- The statement reserves the delivery. -/
def isReservation : ApprovalUpdate → Bool
  | .beginDelivery _ _ => true
  | _ => false

end ApprovalUpdate

/-- A version of a row: what an `INSERT` (without an update) or an `UPDATE` has left. -/
structure ApprovalVersion where
  key : ResourceKey
  row : RuntimeApproval
  update : Option ApprovalUpdate
  deriving DecidableEq

namespace ApprovalVersion

/-- Two rows violate the primary key or the unique index on operation and number. -/
def conflicts (v v' : ApprovalVersion) : Bool :=
  v.update = none && v'.update = none &&
    (v.key = v'.key || (v.key.isolationDomainId = v'.key.isolationDomainId &&
      v.row.operationId = v'.row.operationId && v.row.sourceSequence = v'.row.sourceSequence))

/-- The row that a version is of. -/
def about (v : ApprovalVersion) : Option ResourceKey :=
  some v.key

end ApprovalVersion

/-! ### Statements -/

/-- A statement of a method, in its transaction. -/
inductive ApprovalStatement where
  /-- `SELECT clock_timestamp()`. -/
  | clock
  /-- The query of `lockInvocationRuntimeClaim`. -/
  | lockClaim (claim : Claim) (now : Time)
  /-- The query of `verifyInvocationRuntimeEffect`, with its comparison. -/
  | verifyEffect (effect : EffectRecord)
  /-- The second query of `lockRuntimeInteractionAttempt`. -/
  | lockAttempt (claim : Claim) (effect : ResourceKey)
  /-- `SELECT true FROM invocations … FOR UPDATE`: whether there is one. -/
  | lockInvocation (key : ResourceKey)
  /-- The query of `activeRuntimeInteraction`. -/
  | active (approval : RuntimeApproval)
  /-- The call of the authorizer. -/
  | authorize (candidate : RuntimeApproval)
  /-- An `INSERT` into audit trail, outbox or journal. -/
  | record (what : String)
  | readTarget (operation : ResourceKey)
  /-- `SELECT clock_timestamp(), deadline_at` of an operation. -/
  | readDeadline (operation : ResourceKey)
  /-- The query of `lockDueRuntimeInteractionInvocations`. -/
  | lockDue (isolationDomainId : String) (limit : ℕ)
  /-- The query of `getInvocationRuntimeApproval`. -/
  | read (key : ResourceKey)
  /-- The query of `getInvocationRuntimeApproval`, `FOR UPDATE`. -/
  | lock (key : ResourceKey)
  | insert (key : ResourceKey) (row : RuntimeApproval)
  | update (key : ResourceKey) (update : ApprovalUpdate)
  /-- The due approvals of invocations, `FOR UPDATE SKIP LOCKED`. -/
  | due (isolationDomainId : String) (limit : ℕ) (invocations : List String)
  deriving DecidableEq

/-- What a statement returns if it does not fail.  An `UPDATE` reports whether it affected a
row. -/
abbrev ApprovalStatement.Value : ApprovalStatement → Type
  | .clock => Time
  | .lockInvocation _ => Bool
  | .readTarget _ => Option RuntimeTarget
  | .readDeadline _ => Time × Time
  | .lockDue _ _ => List String
  | .read _ => Option RuntimeApproval
  | .lock _ => Option RuntimeApproval
  | .update _ _ => Bool
  | .due _ _ _ => List String
  | _ => Unit

/-- What comes back. -/
abbrev ApprovalStatement.Reply (statement : ApprovalStatement) : Type :=
  Except RepositoryError statement.Value

/-- A part of a transaction. -/
abbrev ApprovalAction (α : Type) :=
  ExceptT RepositoryError (Process ApprovalStatement ApprovalStatement.Reply) α

variable (env : RuntimeEnvironment)

namespace Approval

open Writer hiding demand

/-- One statement, whose error is returned as it is. -/
abbrev attempt (statement : ApprovalStatement) : ApprovalAction statement.Value :=
  Process.attemptWith id statement

/-- One statement, whose error is returned with a text. -/
abbrev attemptAs (text : String) (statement : ApprovalStatement) : ApprovalAction statement.Value :=
  Process.attemptWith (fun _ => .refused text) statement

/-! ### Methods -/

/-- `ErrInvocationRuntimeApprovalDeliveryAmbiguous`. -/
def deliveryAmbiguous : RepositoryError :=
  .refused "invocation runtime approval delivery is ambiguous"

variable (claim : Claim)

variable (effect : EffectRecord)

def lockRuntimeInteractionAttempt : ApprovalAction Unit := do
  let now ← attempt .clock
  attempt (.lockClaim claim now)
  attempt (.verifyEffect effect)
  attempt (.lockAttempt claim effect.key)

def activeRuntimeApproval (approval : RuntimeApproval) : ApprovalAction Unit :=
  Process.attemptWith (fun error => if error = .leaseLost then approvalConflict else error)
    (ApprovalStatement.active approval)

/-- The row of an approval is well formed: the checks of `getInvocationRuntimeApproval`. -/
def isWellFormed (value : RuntimeApproval) : Bool :=
  (value.contract = approvalContract || value.contract = approvalLegacyContract) &&
    value.operationId ≠ "" && value.invocationId ≠ "" && value.serviceId ≠ "" &&
    value.revisionId ≠ "" && value.effectId ≠ "" && value.sourceSequence ≠ 0 &&
    validInvocationRuntimeApprovalAction value.requestedAction &&
    validInvocationRuntimeApprovalState value

/-- The row that was found, if it is well formed. -/
def checkRow : Option RuntimeApproval → ApprovalAction (Option RuntimeApproval)
  | none => pure none
  | some value => do
    ensure (isWellFormed value = true) approvalConflict
    pure (some value)

def getInvocationRuntimeApproval (key : ResourceKey) :
    (forUpdate : Bool) → ApprovalAction (Option RuntimeApproval)
  | true => do checkRow (← attemptAs "read invocation runtime approval" (.lock key))
  | false => do checkRow (← attemptAs "read invocation runtime approval" (.read key))

/-- The row of the `INSERT`. -/
def pendingApproval (target : RuntimeTarget) (effect : EffectRecord) (request : ApprovalRequest)
    (now expiry : Time) : RuntimeApproval where
  contract := approvalContract
  operationId := target.operation.id
  invocationId := target.invocationId
  serviceId := target.serviceId
  revisionId := target.revisionId
  effectId := effect.key.id
  sourceSequence := request.sourceSequence
  requestedAction := request.requestedAction
  createdAt := now
  expiresAt := some expiry
  state := .pending
  version := 1
  decision := ""
  effectiveDecision := ""
  resolvedBy := ""
  resolutionCorrelationId := ""
  resolvedAt := none
  deliveredAt := none
  closedAt := none
  closeReason := ""
  updatedAt := now

/-- `RecordInvocationRuntimeApprovalRequest`, inside of its transaction. -/
def requestApproval (target : RuntimeTarget) (request : ApprovalRequest) :
    ApprovalAction RuntimeApproval := do
  lockRuntimeInteractionAttempt claim effect
  let actual ← demand (← attempt (.readTarget target.operation)) targetMissing
  ensure (actual = target) approvalConflict
  let key := interactionKey env "apr" target.operation request.sourceSequence
  match ← getInvocationRuntimeApproval key false with
  | some existing => do
    ensure (existing.operationId = target.operation.id ∧
      existing.invocationId = target.invocationId ∧ existing.serviceId = target.serviceId ∧
      existing.revisionId = target.revisionId ∧ existing.effectId = effect.key.id ∧
      existing.sourceSequence = request.sourceSequence ∧
      existing.requestedAction = request.requestedAction ∧
      (request.expiresAt = none ∨ existing.expiresAt = request.expiresAt)) approvalConflict
    attempt (.record "interaction.approval.requested")
    pure existing
  | none => do
    let (now, deadline) ← attempt (.readDeadline claim.operation)
    let expiry := request.expiresAt.getD (min (now + interactionLifetime) deadline)
    ensure (validExpiry now deadline expiry = true) approvalExpired
    attemptAs "persist invocation runtime approval request"
      (.insert key (pendingApproval target effect request now expiry))
    -- the source ignores whether the row is found: it has just been inserted
    let approval ← demand (← getInvocationRuntimeApproval key false) approvalMissing
    attempt (.record "interaction.approval.requested")
    pure approval

/-- A guarded `UPDATE` that affected no row. -/
def refuseUpdate (approval : RuntimeApproval) : ApprovalAction RuntimeApproval := do
  activeRuntimeApproval approval
  throw (if approval.expiresAt = none then approvalConflict else approvalExpired)

/-- The part of `resolveInvocationRuntimeApproval` that refuses a pending approval which has
expired. -/
def refuseExpired (approval : RuntimeApproval) : ApprovalAction Unit :=
  match approval.state, approval.expiresAt with
  | .pending, some expiresAt => do
    let now ← attempt .clock
    ensure (now < expiresAt) approvalExpired
  | _, _ => pure ()

/-- The call of the authorizer, where there is one. -/
def authorize (authorized : Bool) (candidate : RuntimeApproval) : ApprovalAction Unit :=
  if authorized then attempt (.authorize candidate) else pure ()

/-- The part of `resolveInvocationRuntimeApproval` that resolves a pending approval. -/
def resolvePending (key : ResourceKey) (approval : RuntimeApproval) (resolution : ApprovalResolution)
    (authorized : Bool) (candidate : RuntimeApproval) : ApprovalAction RuntimeApproval := do
  ensure (approval.version = resolution.expectedVersion) approvalConflict
  activeRuntimeApproval approval
  authorize authorized candidate
  activeRuntimeApproval approval
  let now ← attempt .clock
  let affected : Bool ← attemptAs "resolve invocation runtime approval"
    (.update key (.resolve resolution.decision resolution.actorId resolution.correlationId now
      resolution.expectedVersion))
  if affected then do
    attemptAs "audit invocation runtime approval resolution" (.record "invocation-approval.resolve")
    attempt (.record "interaction.approval.resolved")
    demand (← getInvocationRuntimeApproval key false) approvalMissing
  else refuseUpdate approval

def resolveInvocationRuntimeApproval (resolution : ApprovalResolution) (authorized : Bool) :
    ApprovalAction RuntimeApproval := do
  let found : Bool ← attempt (.lockInvocation resolution.invocation)
  ensure (found = true) approvalMissing
  let key : ResourceKey := ⟨resolution.invocation.isolationDomainId, resolution.approvalId⟩
  let approval ← demand (← getInvocationRuntimeApproval key true) approvalMissing
  ensure (approval.invocationId = resolution.invocation.id) approvalMissing
  ensure (¬(approval.state = .closed ∨ approval.state = .expired ∨
    approval.state = .deliveryUnknown)) approvalExpired
  refuseExpired approval
  let candidate := { approval with
    decision := resolution.decision, resolvedBy := resolution.actorId
    resolutionCorrelationId := resolution.correlationId }
  if approval.state = .pending then resolvePending key approval resolution authorized candidate
  else do
    ensure (approval.decision = resolution.decision ∧ approval.resolvedBy = resolution.actorId ∧
      approval.resolutionCorrelationId = resolution.correlationId) approvalConflict
    authorize authorized candidate
    pure approval

/-- The `UPDATE` of a delivery and what follows it. -/
def deliver (text : String) (key : ResourceKey) (approval : RuntimeApproval)
    (update : ApprovalUpdate) : ApprovalAction RuntimeApproval := do
  let affected : Bool ← attemptAs text (.update key update)
  if affected then demand (← getInvocationRuntimeApproval key false) approvalMissing
  else refuseUpdate approval

/-- The approval that a worker is to deliver. -/
def lockForDelivery (id : String) : ApprovalAction RuntimeApproval := do
  lockRuntimeInteractionAttempt claim effect
  let approval ← demand (← getInvocationRuntimeApproval ⟨claim.key.isolationDomainId, id⟩ true)
    approvalMissing
  ensure (approval.operationId = claim.key.id ∧ approval.effectId = effect.key.id) approvalConflict
  pure approval

/-- `BeginInvocationRuntimeApprovalDelivery`, inside of its transaction. -/
def beginDelivery (id effectiveDecision : String) : ApprovalAction RuntimeApproval := do
  let approval ← lockForDelivery claim effect id
  ensure (¬(approval.state = .closed ∨ approval.state = .expired)) approvalExpired
  ensure (¬(approval.state = .delivering ∨ approval.state = .deliveryUnknown)) deliveryAmbiguous
  ensure (approval.state ≠ .delivered) approvalConflict
  ensure (approval.state = .resolved ∧ approval.effectiveDecision = "" ∧
    ¬(effectiveDecision = "approve" ∧ approval.decision ≠ "approve")) approvalConflict
  let now ← attempt .clock
  deliver "reserve invocation runtime approval delivery" ⟨claim.key.isolationDomainId, id⟩ approval
    (.beginDelivery effectiveDecision now)

/-- `CompleteInvocationRuntimeApprovalDelivery`, inside of its transaction. -/
def completeDelivery (id : String) : ApprovalAction RuntimeApproval := do
  let approval ← lockForDelivery claim effect id
  if approval.state = .delivered then pure approval
  else do
    ensure (approval.state = .delivering ∧ approval.effectiveDecision ≠ "") approvalConflict
    let now ← attempt .clock
    deliver "complete invocation runtime approval delivery" ⟨claim.key.isolationDomainId, id⟩
      approval (.completeDelivery now)

def closeRuntimeApproval (key : ResourceKey) (value : RuntimeApproval) (reason : String) :
    ApprovalAction RuntimeApproval := do
  let now ← attempt .clock
  let reason := if value.expiresAt.any fun expiresAt => now < expiresAt then reason else "expired"
  match closedState .resolved reason value.state with
  | .error error => throw error
  | .ok none => pure value
  | .ok (some state) => do
    let _ ← attempt (.update key (.close state reason now))
    -- the source ignores whether the row is found: it has been read above
    let value ← demand (← getInvocationRuntimeApproval key false) approvalMissing
    attempt (.record "invocation-approval audit")
    attempt (.record "invocation-approval outbox event")
    attempt (.record "invocation-approval outcome")
    pure value

/-- `CloseInvocationRuntimeApproval`, inside of its transaction. -/
def closeApproval (id reason : String) : ApprovalAction RuntimeApproval := do
  lockRuntimeInteractionAttempt claim effect
  let key : ResourceKey := ⟨claim.key.isolationDomainId, id⟩
  let value ← demand (← getInvocationRuntimeApproval key true) approvalMissing
  ensure (value.contract = approvalContract ∧ value.operationId = claim.key.id ∧
    value.invocationId = claim.resourceId ∧ value.effectId = effect.key.id) approvalConflict
  closeRuntimeApproval key value reason

/-- The loop of `ExpireInvocationRuntimeApprovals`. -/
def expireEachApproval (isolationDomainId : String) : List String → ApprovalAction Unit
  | [] => pure ()
  | id :: ids => do
    let key : ResourceKey := ⟨isolationDomainId, id⟩
    -- the source ignores whether the row is found: it has just been locked
    let value ← demand (← getInvocationRuntimeApproval key false) approvalMissing
    let _ ← closeRuntimeApproval key value "expired"
    expireEachApproval isolationDomainId ids

/-- `ExpireInvocationRuntimeApprovals`, inside of its transaction. -/
def expireApprovals (isolationDomainId : String) (limit : ℕ) : ApprovalAction ℕ := do
  let invocations : List String ← attempt (.lockDue isolationDomainId limit)
  let ids : List String ← attempt (.due isolationDomainId limit invocations)
  expireEachApproval isolationDomainId ids
  pure ids.length

end Approval

/-! ### Calls -/

/-- A call of a method that changes approvals. -/
inductive ApprovalCall where
  | request (claim : Claim) (effect : EffectRecord) (target : RuntimeTarget)
      (request : Writer.ApprovalRequest)
  | resolve (resolution : Writer.ApprovalResolution)
  | resolveCommand (idempotency : Idempotency) (resolution : Writer.ApprovalResolution)
  | beginDelivery (claim : Claim) (effect : EffectRecord) (id effectiveDecision : String)
  | completeDelivery (claim : Claim) (effect : EffectRecord) (id : String)
  | close (claim : Claim) (effect : EffectRecord) (id reason : String)
  | expire (isolationDomainId actor correlation : String) (limit : ℕ)
  deriving DecidableEq

/-- What a call returns. -/
inductive ApprovalResult where
  | approval (approval : RuntimeApproval)
  | expired (count : ℕ)
  | command (result : CommandResult)
  deriving DecidableEq

/-- A call at the database. -/
abbrev ApprovalProgram :=
  Process (CommandRequest ApprovalStatement) (CommandRequest.Reply ApprovalStatement.Reply)
    (Except RepositoryError ApprovalResult)

/-- A transaction around its statements. -/
def committing (beginning committing : RepositoryError) (body : ApprovalAction ApprovalResult) :
    ApprovalProgram := do
  match ← ask CommandRequest.begin with
  | .error _ => pure (.error beginning)
  | .ok () =>
    match ← body.run.embed CommandRequest.action with
    | .error error => pure (.error error)
    | .ok result =>
      match ← ask CommandRequest.commit with
      | .error _ => pure (.error committing)
      | .ok () => pure (.ok result)

/-- The method that a call runs, with the checks it makes before its transaction. -/
def ApprovalCall.program (marshal : ApprovalResult → Option String) :
    ApprovalCall → ApprovalProgram
  | .request claim effect target asked =>
    if Writer.validInvocationRuntimeAttempt env.toEnvironment claim effect &&
        Writer.invocationRuntimeTargetMatchesApproval target claim &&
        asked.sourceSequence ≠ 0 &&
        Writer.validInvocationRuntimeApprovalAction asked.requestedAction then
      committing (.refused "begin invocation runtime approval request")
        (.refused "commit invocation runtime approval request")
        (.approval <$> Approval.requestApproval env claim effect target asked)
    else pure (.error Writer.approvalInvalid)
  | .resolve resolution =>
    if Writer.validInvocationRuntimeApprovalResolution resolution then
      committing (.refused "begin invocation runtime approval resolution")
        (.refused "commit invocation runtime approval resolution")
        (.approval <$> Approval.resolveInvocationRuntimeApproval resolution false)
    else pure (.error Writer.approvalInvalid)
  | .resolveCommand idempotency resolution =>
    if Writer.validInvocationRuntimeApprovalResolution resolution &&
        idempotency.isolationDomainId = resolution.invocation.isolationDomainId then do
      let result ← execute marshal idempotency fun _ => ExceptT.run do
        let approval ← Approval.resolveInvocationRuntimeApproval resolution true
        pure (200, .approval approval)
      pure (result.map .command)
    else pure (.error Writer.approvalInvalid)
  | .beginDelivery claim effect id effectiveDecision =>
    if Writer.validInvocationRuntimeAttempt env.toEnvironment claim effect &&
        Writer.idMatches "apr" id &&
        Writer.validInvocationRuntimeApprovalDecision effectiveDecision then
      committing (.refused "begin invocation runtime approval delivery")
        (.refused "commit invocation runtime approval delivery")
        (.approval <$> Approval.beginDelivery claim effect id effectiveDecision)
    else pure (.error Writer.approvalInvalid)
  | .completeDelivery claim effect id =>
    if Writer.validInvocationRuntimeAttempt env.toEnvironment claim effect &&
        Writer.idMatches "apr" id then
      committing (.refused "begin invocation runtime approval completion")
        (.refused "commit invocation runtime approval completion")
        (.approval <$> Approval.completeDelivery claim effect id)
    else pure (.error Writer.approvalInvalid)
  | .close claim effect id reason =>
    if Writer.idMatches "apr" id &&
        Writer.validInvocationRuntimeAttempt env.toEnvironment claim effect &&
        isCloseReason reason then
      committing statementFailed statementFailed
        (.approval <$> Approval.closeApproval claim effect id reason)
    else pure (.error Writer.approvalInvalid)
  | .expire isolationDomainId actor correlation limit =>
    if validExpiryBatch isolationDomainId actor correlation limit then
      committing statementFailed statementFailed
        (.expired <$> Approval.expireApprovals isolationDomainId limit)
    else pure (.error Writer.approvalInvalid)

/-! ### The database -/

/-- The versions of all rows with the locks, and the clock. -/
structure Approvals where
  log : WriteLog ResourceKey ApprovalVersion
  clock : Time

/-- The transaction of a call: the rows it has locked, as it sees them, and the time of its last
statement, if there was one. -/
structure ApprovalTx where
  rows : ResourceKey → Option RuntimeApproval
  clock : WithBot Time

/-- What becomes of a statement, and what it finds in other tables. -/
inductive ApprovalAnswer where
  | executed
  | failed (error : RepositoryError)
  | lost
  | flag (value : Bool)
  | time (now : Time)
  | target (target : Option RuntimeTarget)
  | ids (ids : List String)
  | record (record : IdempotencyRecord)
  deriving DecidableEq

namespace Approvals

/-- The versions of one row. -/
def versionsOf (key : ResourceKey) (versions : List ApprovalVersion) : List ApprovalVersion :=
  versions.filter fun version => version.key = key

/-- The row as a transaction sees it: its last version that is committed, or its own. -/
def current (s : Approvals) (id : ℕ) (key : ResourceKey) : Option RuntimeApproval :=
  (versionsOf key (s.log.visible id)).getLast?.map ApprovalVersion.row

/-- The row is due: the `WHERE` of the second query of `ExpireInvocationRuntimeApprovals`. -/
def isDue (s : Approvals) (id : ℕ) (invocations : List String) (key : ResourceKey) : Bool :=
  (s.current id key).any fun row =>
    row.invocationId ∈ invocations && row.contract = Writer.approvalContract &&
      (row.state = .pending || row.state = .resolved || row.state = .delivering) &&
      row.expiresAt.any fun expiresAt => expiresAt ≤ s.clock

end Approvals

namespace ApprovalTx

variable {α : Type}

/-- The transaction once it sees these rows, which it has locked. -/
def sees (tx : ApprovalTx) (s : Approvals) (id : ℕ) (keys : List ResourceKey) : ApprovalTx where
  rows := fun key => if key ∈ keys then s.current id key else tx.rows key
  clock := s.clock

/-- A statement that failed. -/
def fail (s : Approvals) (tx : ApprovalTx) (error : RepositoryError) :
    Option (Except RepositoryError α × ApprovalTx × Approvals) :=
  some (.error error, { tx with clock := s.clock }, s)

/-- A statement that has only read. -/
def look (s : Approvals) (tx : ApprovalTx) (value : α) :
    Option (Except RepositoryError α × ApprovalTx × Approvals) :=
  some (.ok value, { tx with clock := s.clock }, s)

/-- A statement that has locked these rows. -/
def lock (s : Approvals) (id : ℕ) (tx : ApprovalTx) (keys : List ResourceKey) (value : α) :
    Option (Except RepositoryError α × ApprovalTx × Approvals) :=
  (s.log.lock id keys).map fun log =>
    (.ok value, tx.sees { s with log := log } id keys, { s with log := log })

/-- A statement that writes a version.  It waits for the lock on the row. -/
def write (s : Approvals) (id : ℕ) (tx : ApprovalTx) (version : ApprovalVersion) (value : α) :
    Option (Except RepositoryError α × ApprovalTx × Approvals) :=
  match s.log.lock id [version.key] with
  | none => none
  | some locked =>
    match locked.write ApprovalVersion.conflicts id version with
    | .violates => tx.fail s statementFailed
    | .waits => none
    | .written log =>
      some (.ok value, tx.sees { s with log := log } id [version.key], { s with log := log })

/-- Statements at the database. -/
def serveStatement (s : Approvals) (id : ℕ) (tx : ApprovalTx) :
    (statement : ApprovalStatement) → ApprovalAnswer →
      Option (statement.Reply × ApprovalTx × Approvals)
  | _, .failed error => tx.fail s error
  | .clock, .executed => tx.look s s.clock
  | .lockClaim _ _, .executed => tx.look s ()
  | .verifyEffect _, .executed => tx.look s ()
  | .lockAttempt _ _, .executed => tx.look s ()
  | .lockInvocation _, .flag found => tx.look s found
  | .active _, .executed => tx.look s ()
  | .authorize _, .executed => tx.look s ()
  | .record _, .executed => tx.look s ()
  | .readTarget _, .target target => tx.look s target
  | .readDeadline _, .time deadline => tx.look s (s.clock, deadline)
  | .lockDue _ limit, .ids ids => if ids.length ≤ limit then tx.look s ids else none
  | .read key, .executed => tx.look s (s.current id key)
  | .lock key, .executed =>
    match s.current id key with
    | none => tx.look s none
    | some row => tx.lock s id [key] (some row)
  | .insert key row, .executed => tx.write s id ⟨key, row, none⟩ ()
  | .update key update, .flag live =>
    match s.current id key with
    | none => tx.look s false
    | some row =>
      if update.applies s.clock row && (live || !update.needsLiveAttempt) then
        tx.write s id ⟨key, update.set row, some update⟩ true
      else tx.look s false
  | .due isolationDomainId limit invocations, .ids ids =>
    if ids.length ≤ limit ∧ ∀ i ∈ ids, s.isDue id invocations ⟨isolationDomainId, i⟩ = true then
      tx.lock s id (ids.map (⟨isolationDomainId, ·⟩)) ids
    else none
  | _, _ => none

/-- The requests of a call, at the present time.  The records of `execute` are not part of the
log. -/
def serveNow (s : Approvals) (id : ℕ) (tx : ApprovalTx) :
    (request : CommandRequest ApprovalStatement) → ApprovalAnswer →
      Option (request.Reply ApprovalStatement.Reply × ApprovalTx × Approvals)
  | .begin, .executed => tx.look s ()
  | .begin, .failed error => tx.fail s error
  | .now, .time now => some (now, { tx with clock := s.clock }, s)
  | .reserve _ _, .flag value => tx.look s value
  | .reserve _ _, .failed error => tx.fail s error
  | .readRecord _, .record record => tx.look s record
  | .readRecord _, .failed error => tx.fail s error
  | .action statement, answer => tx.serveStatement s id statement answer
  | .complete _ _ _ _, .executed => tx.look s ()
  | .complete _ _ _ _, .failed error => tx.fail s error
  | .commit, .executed =>
    some (.ok (), ⟨fun _ => none, s.clock⟩, { s with log := s.log.commit id })
  | .commit, .lost =>
    some (.error statementFailed, ⟨fun _ => none, s.clock⟩, { s with log := s.log.commit id })
  | .commit, .failed error =>
    some (.error error, ⟨fun _ => none, s.clock⟩, { s with log := s.log.rollback id })
  | _, _ => none

/-- The requests of a call: a statement is executed at a time that is not before the last one. -/
def serve (s : Approvals) (id : ℕ) (tx : ApprovalTx) (request : CommandRequest ApprovalStatement)
    (answer : Time × ApprovalAnswer) :
    Option (request.Reply ApprovalStatement.Reply × ApprovalTx × Approvals) :=
  if s.clock ≤ answer.1 then tx.serveNow { s with clock := answer.1 } id request answer.2 else none

end ApprovalTx

/-- The database as a server of calls. -/
def approvalServer (marshal : ApprovalResult → Option String) :
    Server Approvals ApprovalTx (Time × ApprovalAnswer) ApprovalCall
      (CommandRequest ApprovalStatement) (CommandRequest.Reply ApprovalStatement.Reply)
      (Except RepositoryError ApprovalResult) where
  start call := (⟨fun _ => none, ⊥⟩, call.program env marshal)
  serve := ApprovalTx.serve
  release s id _ := { s with log := s.log.rollback id }

end DataGround
