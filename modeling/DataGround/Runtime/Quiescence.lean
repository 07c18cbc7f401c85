import DataGround.Runtime.Attempt

/-!
# Confirmed cleanup of a workspace

After the turn, the claim that prepared the workspace records its intent to stop everything in it
(`BeginInvocationWorkspaceQuiescence`) and then that this was confirmed
(`CompleteInvocationWorkspaceQuiescence`).  Both records are append-only.  Confirmed cleanup is what
the export of the workspace's changes requires.

The two functions of the database that lock the rows of such a claim join the same tables
(`RuntimeStore.workspaceRows`) under conditions that they mostly share (`WorkspaceRows.Current`):

* `lockWorkspaceQuiescenceClaim` lets through only the claim that the attempt belongs to;
* `lockWorkspaceExportAuthorization` lets through any current claim, and asks for the exact record
  of a confirmed cleanup.
-/

namespace DataGround

open Transaction

def workspaceQuiescenceContract : String :=
  "dataground.invocation-workspace-quiescence/v1"

/-- `ErrWorkspaceQuiescence`. -/
def quiescenceRefused : RepositoryError :=
  .refused "workspace cleanup is unconfirmed or conflicts with its original runtime"

/-! ### The functions of the database -/

/-- The rows that the two functions join. -/
structure WorkspaceRows where
  operation : Operation
  invocation : InvocationRow
  effect : Effect
  attempt : RuntimeAttempt
  preparation : WorkspacePreparation
  execution : ExecutionInstance
  plan : ExecutionPlan

/-- The `JOIN`: the attempt of an operation, with the completed preparation of the owner and the
token that the attempt names. -/
def RuntimeStore.workspaceRows (s : RuntimeStore) (key : ResourceKey) : Option WorkspaceRows := do
  let op ← s.operation key
  let invocation ← s.invocation key op
  let attempt ← s.attempts.lookup key
  let effect ← s.store.db.effects.lookup ⟨key.isolationDomainId, attempt.effectId⟩
  let preparation ← s.preparations.lookup ⟨key, attempt.fencingToken⟩
  let _ ← s.completions.lookup ⟨key, attempt.fencingToken⟩
  let execution ← s.instances.lookup key
  let plan ← s.plans.lookup ⟨key.isolationDomainId, invocation.revisionId⟩
  if effect.operationId = key.id ∧ preparation.leaseOwner = attempt.leaseOwner ∧
      preparation.effectId = attempt.effectId ∧ execution.id = preparation.executionId then
    some ⟨op, invocation, effect, attempt, preparation, execution, plan⟩
  else none

/-- The conditions that the two functions share: the operation is the running one of the owner and
the token, for the actor and the correlation, and the record names what the rows hold. -/
def WorkspaceRows.Current (rows : WorkspaceRows) (key : ResourceKey) (owner : String) (token : Nat)
    (actor correlation : String) (value : WorkspaceQuiescence) (clock : Time) : Prop :=
  rows.operation.LeasedTo owner token clock ∧ rows.operation.Running ∧
    rows.operation.stateMachineVersion = 2 ∧
    rows.operation.effectActorId.getD rows.operation.actorId = actor ∧
    rows.operation.effectCorrelationId.getD rows.operation.correlationId = correlation ∧
    rows.effect.operationKind = .invocation ∧ rows.effect.phase = .runInvocation ∧
    Writer.invocationRuntimeEffectMayStartAttempt rows.effect.status = true ∧
    rows.execution.observedState = .ready ∧ value.schemaVersion = workspaceQuiescenceContract ∧
    value.invocationId = rows.operation.resourceId ∧ value.operationId = key.id ∧
    value.effectId = rows.attempt.effectId ∧ value.executionId = rows.execution.id ∧
    value.source = rows.preparation.sourceRecord ∧
    value.planDigest = rows.preparation.planDigest ∧
    value.runtimeOwner = rows.attempt.leaseOwner ∧
    value.runtimeToken = rows.attempt.fencingToken ∧
    rows.plan.workspaceSource = some rows.preparation.sourceRecord ∧
    rows.plan.planDigest = rows.preparation.planDigest

instance (rows : WorkspaceRows) (key : ResourceKey) (owner : String) (token : Nat)
    (actor correlation : String) (value : WorkspaceQuiescence) (clock : Time) :
    Decidable (rows.Current key owner token actor correlation value clock) :=
  inferInstanceAs (Decidable (_ ∧ _))

/-- `LEAST(lease_expires_at, deadline_at)`. -/
def Operation.expires (op : Operation) : Time :=
  min (op.leaseExpiresAt.getD 0) op.deadlineAt

/-- `lock_workspace_quiescence_claim`: the expiry, or an exception. -/
def lockWorkspaceQuiescenceClaim (s : RuntimeStore) (clock : Time) (key : ResourceKey)
    (owner : String) (token : Nat) (actor correlation : String) (value : WorkspaceQuiescence) :
    Option Time := do
  let rows ← s.workspaceRows key
  if rows.Current key owner token actor correlation value clock ∧
      rows.attempt.leaseOwner = owner ∧ rows.attempt.fencingToken = token ∧
      value.actorId = actor ∧ value.correlationId = correlation then
    some rows.operation.expires
  else none

/-- `lock_workspace_export_authorization`: the expiry, or an exception. -/
def lockWorkspaceExportAuthorization (s : RuntimeStore) (clock : Time) (key : ResourceKey)
    (owner : String) (token : Nat) (actor correlation : String) (value : WorkspaceQuiescence) :
    Option Time := do
  let rows ← s.workspaceRows key
  if rows.Current key owner token actor correlation value clock ∧
      s.intents.lookup key = some value ∧ key ∈ s.confirmations then
    some rows.operation.expires
  else none

/-! ### The methods -/

def maximumArchiveBytes : Int := 33554432

def maximumSourceBytes : Int := 25165824

def maximumEntries : Int := 4096

def validSourceRecord (source : SourceRecord) : Bool :=
  source.schemaVersion = "dataground.workspace-source/v1" &&
    Writer.idMatches "iso" source.isolationDomainId && Writer.idMatches "wsp" source.workspaceId &&
    Writer.idMatches "src" source.id && sha256Matches source.archiveDigest &&
    sha256Matches source.storageProfileDigest && 1024 ≤ source.archiveBytes &&
    source.archiveBytes ≤ maximumArchiveBytes && source.archiveBytes % 512 = 0 &&
    0 ≤ source.entryCount && source.entryCount ≤ maximumEntries && 0 ≤ source.sourceBytes &&
    source.sourceBytes ≤ maximumSourceBytes

/-- The record that a claim retains for the preparation of its attempt. -/
def WorkspacePreparation.quiescence (preparation : WorkspacePreparation) (claim : Claim)
    (effect : EffectRecord) (attempt : RuntimeAttempt) (ownerBinding : String) :
    WorkspaceQuiescence where
  schemaVersion := workspaceQuiescenceContract
  source := preparation.sourceRecord
  invocationId := claim.resourceId
  operationId := claim.key.id
  effectId := effect.key.id
  executionId := preparation.executionId
  planDigest := preparation.planDigest
  ownerBinding := ownerBinding
  runtimeOwner := attempt.leaseOwner
  runtimeToken := attempt.fencingToken
  actorId := claim.actorId
  correlationId := claim.correlationId

/-- The checks of `readWorkspaceQuiescence` on a record that it has read. -/
def readableQuiescence (key : ResourceKey) (record : WorkspaceQuiescence) : Bool :=
  record.schemaVersion = workspaceQuiescenceContract && validSourceRecord record.source &&
    record.source.isolationDomainId = key.isolationDomainId && record.operationId = key.id &&
    sha256Matches record.ownerBinding

namespace Repository

/-- `readWorkspaceQuiescence`: the record, if there is one, and whether it is confirmed. -/
def readWorkspaceQuiescence (key : ResourceKey) :
    RuntimeMethod (Option (WorkspaceQuiescence × Bool)) := do
  let s ← read
  match s.intents.lookup key with
  | none => pure none
  | some record => do
    require (readableQuiescence key record = true) quiescenceRefused
    pure (some (record, decide (key ∈ s.confirmations)))

variable (claim : Claim)

/-- `lockWorkspaceQuiescence`, with the trigger that repeats it at the insert. -/
def lockWorkspaceQuiescence (record : WorkspaceQuiescence) (clock : Time) : RuntimeMethod Time := do
  let s ← read
  demand (lockWorkspaceQuiescenceClaim s clock claim.operationKey claim.leaseOwner
    claim.fencingToken claim.actorId claim.correlationId record) quiescenceRefused

/-- The outbox event and the audit record of a cleanup. -/
def quiescenceWrite (eventType outcome : String) : OutboxWrite where
  isolationDomainId := claim.key.isolationDomainId
  resourceType := "workspace-quiescence"
  resourceId := claim.key.id
  eventType := eventType
  actorId := claim.actorId
  correlationId := claim.correlationId
  outcome := outcome
  operationId := claim.key.id

/-- The first query of `BeginInvocationWorkspaceQuiescence`: the record of the attempt of the
claim. -/
def quiescenceRecord (effect : EffectRecord) (expected : ResourceKey) (ownerBinding : String) :
    RuntimeMethod WorkspaceQuiescence := do
  let s ← read
  let attempt ← demand (s.attempts.lookup claim.operationKey) quiescenceRefused
  let preparation ← demand (s.preparations.lookup ⟨claim.operationKey, attempt.fencingToken⟩)
    quiescenceRefused
  require (attempt.effectId = effect.key.id ∧ preparation.leaseOwner = attempt.leaseOwner ∧
    preparation.effectId = attempt.effectId) quiescenceRefused
  require (validSourceRecord preparation.sourceRecord = true ∧
    preparation.executionId = expected.id ∧
    preparation.sourceRecord.isolationDomainId = claim.key.isolationDomainId ∧
    attempt.leaseOwner = claim.leaseOwner ∧ attempt.fencingToken = claim.fencingToken)
    quiescenceRefused
  pure (preparation.quiescence claim effect attempt ownerBinding)

variable (env : Environment)

/-- The statements of `BeginInvocationWorkspaceQuiescence` from the lock on the rows on. -/
def recordQuiescence (m : Moment) (claim : Claim) (record : WorkspaceQuiescence) : RuntimeMethod Unit := do
  let _ ← lockWorkspaceQuiescence claim record m.clock
  let s ← read
  modify fun s => { s with intents := s.intents.insertIfAbsent claim.operationKey record }
  let entry ← readWorkspaceQuiescence claim.operationKey
  require (entry.map Prod.fst = some record) quiescenceRefused
  auditIf env m (decide (claim.operationKey ∉ s.intents))
    (quiescenceWrite claim "workspace.cleanup.prepared" "accepted")

def beginInvocationWorkspaceQuiescence (m : Moment) (claim : Claim) (effect : EffectRecord)
    (expected : ResourceKey) (ownerBinding : String) :
    RuntimeMethod Unit := do
  require (Writer.validInvocationRuntimeAttempt env claim effect = true ∧
    expected.isolationDomainId = claim.key.isolationDomainId ∧ expected.id ≠ "" ∧
    sha256Matches ownerBinding = true) quiescenceRefused
  let record ← quiescenceRecord claim effect expected ownerBinding
  let entry ← readWorkspaceQuiescence claim.operationKey
  require (∀ found ∈ entry, found.1 = record) quiescenceRefused
  if entry = some (record, true) then pure ()
  else do
    verifyInvocationRuntimeEffect effect
    recordQuiescence env m claim record

/-- The statements of `CompleteInvocationWorkspaceQuiescence` from the lock on the rows on. -/
def confirmQuiescence (m : Moment) (claim : Claim) (record : WorkspaceQuiescence) : RuntimeMethod Unit := do
  let _ ← lockWorkspaceQuiescence claim record m.clock
  let s ← read
  if claim.operationKey ∈ s.confirmations then pure ()
  else do
    -- The trigger locks the claim of the record that is there once more.
    let intent ← demand (s.intents.lookup claim.operationKey) quiescenceRefused
    let _ ← demand (lockWorkspaceQuiescenceClaim s m.clock claim.operationKey intent.runtimeOwner
      intent.runtimeToken claim.actorId claim.correlationId intent) quiescenceRefused
    modify fun s => { s with
      confirmations :=
        s.confirmations.insert claim.operationKey (claim.actorId, claim.correlationId) }
    onStore (writeOutboxAndAudit env m
      (quiescenceWrite claim "workspace.cleanup.confirmed" "succeeded"))

/-- The record is the one of the claim. -/
def WorkspaceQuiescence.IsOf (record : WorkspaceQuiescence) (claim : Claim)
    (effect : EffectRecord) : Prop :=
  record.source.isolationDomainId = claim.key.isolationDomainId ∧
    record.operationId = claim.key.id ∧ record.invocationId = claim.resourceId ∧
    record.effectId = effect.key.id ∧ record.runtimeOwner = claim.leaseOwner ∧
    record.runtimeToken = claim.fencingToken ∧ record.actorId = claim.actorId ∧
    record.correlationId = claim.correlationId

instance (record : WorkspaceQuiescence) (claim : Claim) (effect : EffectRecord) :
    Decidable (WorkspaceQuiescence.IsOf record claim effect) :=
  inferInstanceAs (Decidable (_ ∧ _))

def completeInvocationWorkspaceQuiescence (m : Moment) (claim : Claim) (effect : EffectRecord)
    (record : WorkspaceQuiescence) : RuntimeMethod Unit := do
  require (Writer.validInvocationRuntimeAttempt env claim effect = true ∧
    WorkspaceQuiescence.IsOf record claim effect) quiescenceRefused
  let entry ← readWorkspaceQuiescence claim.operationKey
  require (entry.map Prod.fst = some record) quiescenceRefused
  if entry = some (record, true) then pure ()
  else do
    verifyInvocationRuntimeEffect effect
    confirmQuiescence env m claim record

end Repository

end DataGround
