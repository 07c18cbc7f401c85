import DataGround.Runtime.Schema

/-!
# Workspace preparations

Before the runtime attempt of an operation whose plan selects a source, the source is prepared in
its sandbox: `BeginInvocationWorkspacePreparation` records what is being prepared, under the lease
of the claim, and `CompleteInvocationWorkspacePreparation` records that it was delivered.  The
records are append-only and keyed by the fencing token.  `requireWorkspaceCompletion` is the gate in
front of the attempt.

Every method begins with `lockInvocationRuntimeClaim` and `verifyInvocationRuntimeEffect`, which
lock the invocation but neither the operation nor the effect record: those may change before the
statements that follow.  So each method is in two parts here, and the second part -- from the lock
on operation and execution on -- is a transaction of its own.

`enforceWorkspacePreparation` and `enforceWorkspaceCompletion` are the triggers on the two tables.
-/

namespace DataGround

open Transaction

/-- `ErrWorkspacePreparation`. -/
def preparationRefused : RepositoryError :=
  .refused "workspace preparation is unavailable or conflicts with its claim"

structure InvocationWorkspacePreparation where
  execution : ResourceKey
  source : SourceRecord
  planDigest : String
  grantGeneration : Int
  expiresAt : Time
  deriving DecidableEq

/-- `workspace.Receipt`. -/
structure WorkspaceReceipt where
  (schemaVersion archiveDigest : String)
  (entryCount sourceBytes : Int)
  deriving DecidableEq

/-- The receipt of a materialized source. -/
def SourceRecord.receipt (source : SourceRecord) : WorkspaceReceipt where
  schemaVersion := "dataground.workspace-source-materialization/v1"
  archiveDigest := source.archiveDigest
  entryCount := source.entryCount
  sourceBytes := source.sourceBytes

/-- The row of a preparation. -/
def InvocationWorkspacePreparation.row (preparation : InvocationWorkspacePreparation)
    (claim : Claim) (effect : EffectRecord) (target : RuntimeTarget) : WorkspacePreparation where
  effectId := effect.key.id
  leaseOwner := claim.leaseOwner
  executionId := preparation.execution.id
  planDigest := preparation.planDigest
  sourceRecord := preparation.source
  grantGeneration := preparation.grantGeneration
  actorId := target.actorId
  correlationId := target.correlationId

/-! ### The triggers -/

/-- The trigger `enforce_workspace_preparation`. -/
def enforceWorkspacePreparation (s : RuntimeStore) (clock : Time) (key : PreparationKey)
    (row : WorkspacePreparation) : Bool :=
  match s.operation key.operation, s.plan key.operation, s.instances.lookup key.operation,
    s.store.db.effects.lookup ⟨key.operation.isolationDomainId, row.effectId⟩ with
  | some op, some plan, some execution, some effect =>
    op.Running ∧ op.stateMachineVersion = 2 ∧ op.LeasedTo row.leaseOwner key.fencingToken clock ∧
      row.actorId = op.effectActorId.getD op.actorId ∧
      row.correlationId = op.effectCorrelationId.getD op.correlationId ∧
      plan.workspaceSource = some row.sourceRecord ∧ plan.planDigest = row.planDigest ∧
      execution.id = row.executionId ∧ execution.observedState = .ready ∧
      effect.operationId = key.operation.id ∧ effect.operationKind = .invocation ∧
      effect.phase = .runInvocation ∧
      Writer.invocationRuntimeEffectMayStartAttempt effect.status = true ∧
      key.operation ∉ s.attempts
  | _, _, _, _ => false

/-- The trigger `enforce_workspace_completion`, for a decision that the same transaction has
recorded for the preparation. -/
def enforceWorkspaceCompletion (s : RuntimeStore) (clock : Time) (key : PreparationKey) : Bool :=
  match s.preparations.lookup key, s.operation key.operation with
  | some preparation, some op =>
    op.LeasedTo preparation.leaseOwner key.fencingToken clock ∧ op.Running ∧
      op.stateMachineVersion = 2 ∧ key.operation ∉ s.attempts
  | _, _ => false

/-! ### Statements -/

namespace Repository

/-- The statements of `lockWorkspacePreparationTarget` from its lock on operation and execution
on. -/
def lockWorkspaceExecution (claim : Claim) (clock : Time) :
    RuntimeMethod (RuntimeTarget × InvocationWorkspacePreparation) := do
  let s ← read
  let op ← demand (s.operation claim.operationKey) preparationRefused
  let execution ← demand (s.instances.lookup claim.operationKey) preparationRefused
  require (op.LeasedTo claim.leaseOwner claim.fencingToken clock ∧
    execution.observedState = .ready ∧ claim.operationKey ∉ s.attempts) preparationRefused
  let target ← getInvocationRuntimeTarget claim.operationKey
  let plan ← demand (s.plans.lookup ⟨claim.key.isolationDomainId, target.revisionId⟩)
    preparationRefused
  let source ← demand plan.workspaceSource preparationRefused
  pure (target,
    { execution := ⟨claim.key.isolationDomainId, execution.id⟩, source := source
      planDigest := plan.planDigest, grantGeneration := 0
      expiresAt := min (op.leaseExpiresAt.getD 0) op.deadlineAt })

/-- The statements of `lockWorkspacePreparationTarget` before that. -/
def checkWorkspaceClaim (env : Environment) (claim : Claim) (effect : EffectRecord)
    (clock : Time) : RuntimeMethod Unit := do
  require (Writer.validInvocationRuntimeAttempt env claim effect = true) preparationRefused
  let invocation ← lockInvocationRuntimeClaim claim clock
  require (invocation = claim.resourceId) preparationRefused
  verifyInvocationRuntimeEffect effect

def verifyWorkspacePreparation (claim : Claim) (effect : EffectRecord)
    (expected : InvocationWorkspacePreparation) : RuntimeMethod Unit := do
  let s ← read
  let row ← demand (s.preparations.lookup claim.preparationKey) preparationRefused
  require (row.sourceRecord = expected.source ∧ row.leaseOwner = claim.leaseOwner ∧
    row.effectId = effect.key.id ∧ row.executionId = expected.execution.id ∧
    row.planDigest = expected.planDigest ∧ row.grantGeneration = expected.grantGeneration)
    preparationRefused

/-- The `INSERT … ON CONFLICT DO NOTHING` of a preparation, and whether it inserted a row. -/
def insertPreparation (clock : Time) (key : PreparationKey) (row : WorkspacePreparation) :
    RuntimeMethod Bool := do
  let s ← read
  if (∃ op ∈ s.operation key.operation, op.LeasedTo row.leaseOwner key.fencingToken clock) then do
    require (enforceWorkspacePreparation s clock key row = true)
      (.refused "workspace preparation requires an inactive exact claimed execution")
    modify fun s => { s with preparations := s.preparations.insertIfAbsent key row }
    pure (decide (key ∉ s.preparations))
  else pure false

/-- The text `workspacePreparationResourceID`. -/
def workspacePreparationResourceId (claim : Claim) : String :=
  claim.key.id ++ ":" ++ toString claim.fencingToken

/-- The outbox event and the audit record of a preparation. -/
def preparationWrite (claim : Claim) (eventType actorId correlationId : String) : OutboxWrite where
  isolationDomainId := claim.key.isolationDomainId
  resourceType := "workspace-preparation"
  resourceId := workspacePreparationResourceId claim
  eventType := eventType
  actorId := actorId
  correlationId := correlationId
  outcome := "accepted"
  operationId := claim.key.id

/-- `writeOutboxAndAudit`, if the statement before it has written a row. -/
def auditIf (env : Environment) (m : Moment) (written : Bool) (write : OutboxWrite) :
    RuntimeMethod Unit :=
  if written then onStore (writeOutboxAndAudit env m write) else pure ()

/-- `BeginInvocationWorkspacePreparation` from the lock on operation and execution on. -/
def recordWorkspacePreparation (env : Environment) (m : Moment) (claim : Claim)
    (effect : EffectRecord) (expected : ResourceKey) (generation : Int) :
    RuntimeMethod InvocationWorkspacePreparation := do
  let (target, current) ← lockWorkspaceExecution claim m.clock
  require (current.execution = expected) preparationRefused
  let preparation := { current with grantGeneration := generation }
  let inserted ← insertPreparation m.clock claim.preparationKey
    (preparation.row claim effect target)
  verifyWorkspacePreparation claim effect preparation
  auditIf env m inserted (preparationWrite claim "workspace.source.preparation.started"
    target.actorId target.correlationId)
  pure preparation

def beginInvocationWorkspacePreparation (env : Environment) (m : Moment) (claim : Claim)
    (effect : EffectRecord) (expected : ResourceKey) (generation : Int) :
    RuntimeMethod InvocationWorkspacePreparation := do
  require (expected.isolationDomainId = claim.key.isolationDomainId ∧ expected.id ≠ "" ∧
    1 ≤ generation) preparationRefused
  checkWorkspaceClaim env claim effect m.clock
  recordWorkspacePreparation env m claim effect expected generation

def recordWorkspaceCompletion (env : Environment) (m : Moment) (claim : Claim)
    (target : RuntimeTarget) (decisionId : String) : RuntimeMethod Unit := do
  let s ← read
  require ((∃ op ∈ s.operation claim.operationKey,
      op.LeasedTo claim.leaseOwner claim.fencingToken m.clock) ∨
    claim.preparationKey ∈ s.completions) preparationRefused
  require ((∃ op ∈ s.operation claim.operationKey,
      op.LeasedTo claim.leaseOwner claim.fencingToken m.clock) →
    enforceWorkspaceCompletion s m.clock claim.preparationKey = true)
    (.refused "workspace completion requires a current exact delivery decision")
  modify fun s => { s with
    completions := s.completions.insertIfAbsent claim.preparationKey decisionId }
  auditIf env m (decide (claim.preparationKey ∉ s.completions))
    (preparationWrite claim "workspace.source.preparation.completed" target.actorId
      target.correlationId)

/-- The second transaction of `CompleteInvocationWorkspacePreparation`, from the lock on operation
and execution on.  `decision` is the identifier of the decision of policy and grant, if they allow
the delivery; a denied delivery completes nothing. -/
def deliverWorkspaceSource (env : Environment) (m : Moment) (claim : Claim) (effect : EffectRecord)
    (preparation : InvocationWorkspacePreparation) (decision : Option String) :
    RuntimeMethod Unit := do
  let (target, current) ← lockWorkspaceExecution claim m.clock
  require (current.execution = preparation.execution ∧ current.source = preparation.source ∧
    current.planDigest = preparation.planDigest) preparationRefused
  verifyWorkspacePreparation claim effect
    { current with grantGeneration := preparation.grantGeneration }
  let decisionId ← demand decision (.refused "workspace source use is unauthorized")
  recordWorkspaceCompletion env m claim target decisionId

/-- `Repository.CompleteInvocationWorkspacePreparation`, from its second transaction on. -/
def completeInvocationWorkspacePreparation (env : Environment) (m : Moment) (claim : Claim)
    (effect : EffectRecord) (preparation : InvocationWorkspacePreparation)
    (receipt : WorkspaceReceipt) (decision : Option String) : RuntimeMethod Unit := do
  require (preparation.source.isolationDomainId = claim.key.isolationDomainId ∧
    receipt = preparation.source.receipt) preparationRefused
  checkWorkspaceClaim env claim effect m.clock
  deliverWorkspaceSource env m claim effect preparation decision

/-- `requireWorkspaceCompletion` for a plan with a source. -/
def verifyWorkspaceCompletion (claim : Claim) (effect : EffectRecord) (clock : Time) :
    RuntimeMethod Unit := do
  let s ← read
  require (claim.operationKey ∉ s.attempts) attemptAmbiguous
  let (_, current) ← lockWorkspaceExecution claim clock
  let row ← demand (s.preparations.lookup claim.preparationKey) preparationRefused
  require (claim.preparationKey ∈ s.completions) preparationRefused
  verifyWorkspacePreparation claim effect { current with grantGeneration := row.grantGeneration }

/-- `requireWorkspaceCompletion`, without the checks of the claim that it repeats: nothing for a
plan without a source. -/
def requireWorkspaceCompletion (claim : Claim) (effect : EffectRecord) (clock : Time) :
    RuntimeMethod Unit := do
  let s ← read
  let op ← demand (s.operation claim.operationKey) .noRows
  let _ ← demand (s.invocation claim.operationKey op) .noRows
  if (∃ plan ∈ s.plan claim.operationKey, plan.workspaceSource ≠ none) then
    verifyWorkspaceCompletion claim effect clock
  else pure ()

end Repository

/-! ### What the statements did -/

open Repository

lemma readOnly_lockWorkspaceExecution (claim : Claim) (clock : Time) :
    ReadOnly (lockWorkspaceExecution claim clock) :=
  .bind .read fun _ => .bind (.demand _ _) fun _ => .bind (.demand _ _) fun _ =>
    .bind (.require _ _) fun _ => .bind (readOnly_getInvocationRuntimeTarget _) fun _ =>
      .bind (.demand _ _) fun _ => .bind (.demand _ _) fun _ => .pure _

lemma readOnly_verifyWorkspacePreparation (claim : Claim) (effect : EffectRecord)
    (expected : InvocationWorkspacePreparation) :
    ReadOnly (verifyWorkspacePreparation claim effect expected) :=
  .bind .read fun _ => .bind (.demand _ _) fun _ => .require _ _

lemma readOnly_requireWorkspaceCompletion (claim : Claim) (effect : EffectRecord) (clock : Time) :
    ReadOnly (requireWorkspaceCompletion claim effect clock) := by
  refine .bind .read fun _ => .bind (.demand _ _) fun _ => .bind (.demand _ _) fun _ => ?_
  split
  · exact .bind .read fun _ => .bind (.require _ _) fun _ =>
      .bind (readOnly_lockWorkspaceExecution _ _) fun _ => .bind (.demand _ _) fun _ =>
        .bind (.require _ _) fun _ => readOnly_verifyWorkspacePreparation _ _ _
  · exact .pure _

variable {env : Environment} {m : Moment} {claim : Claim} {effect : EffectRecord}
  {s t : RuntimeStore} {clock : Time}

/-- What `lockWorkspaceExecution` has seen: the operation is leased to the claim, its execution is
ready, its plan selects the source, and it has no attempt. -/
structure WorkspaceLocked (s : RuntimeStore) (claim : Claim) (clock : Time) (target : RuntimeTarget)
    (current : InvocationWorkspacePreparation) : Prop where
  operation : ∃ op ∈ s.operation claim.operationKey,
    op.LeasedTo claim.leaseOwner claim.fencingToken clock
  execution : ∃ execution ∈ s.instances.lookup claim.operationKey,
    current.execution = ⟨claim.key.isolationDomainId, execution.id⟩
  noAttempt : claim.operationKey ∉ s.attempts
  plan : ∃ plan ∈ s.plan claim.operationKey, plan.workspaceSource = some current.source ∧
    plan.planDigest = current.planDigest

lemma getInvocationRuntimeTarget_revisionId {operation : ResourceKey} {target : RuntimeTarget}
    (h : getInvocationRuntimeTarget operation s = .ok (target, t)) :
    ∃ op ∈ s.operation operation, ∃ invocation ∈ s.invocation operation op,
      target.revisionId = invocation.revisionId := by
  simp only [getInvocationRuntimeTarget, read_bind, demand_bind_eq_ok, require_bind_eq_ok,
    pure_eq_ok] at h
  obtain ⟨op, hop, invocation, hinvocation, _, -, -, -, heq⟩ := h
  cases heq
  exact ⟨op, hop, invocation, hinvocation, rfl⟩

lemma lockWorkspaceExecution_eq_ok {target : RuntimeTarget}
    {current : InvocationWorkspacePreparation}
    (h : lockWorkspaceExecution claim clock s = .ok ((target, current), t)) :
    WorkspaceLocked s claim clock target current := by
  have hread := readOnly_lockWorkspaceExecution claim clock s _ t h
  subst hread
  simp only [lockWorkspaceExecution, read_bind, demand_bind_eq_ok, require_bind_eq_ok,
    (readOnly_getInvocationRuntimeTarget _).bind_eq_ok, pure_eq_ok] at h
  obtain ⟨op, hop, execution, hexecution, ⟨hleased, -, hnone⟩, found, htarget, plan, hplan, source,
    hsource, heq⟩ := h
  obtain ⟨_, hop', _, hinvocation, hrevision⟩ :=
    getInvocationRuntimeTarget_revisionId htarget
  cases heq
  refine ⟨⟨op, hop, hleased⟩, ⟨execution, hexecution, rfl⟩, hnone, plan, ?_, hsource, rfl⟩
  rw [hrevision] at hplan
  simp only [RuntimeStore.plan, Option.mem_def.mp hop', Option.mem_def.mp hinvocation,
    Option.bind_eq_bind, Option.bind_some, Option.mem_def]
  exact hplan

/-- The row that `verifyWorkspacePreparation` has found. -/
lemma verifyWorkspacePreparation_eq_ok {expected : InvocationWorkspacePreparation} {u : Unit}
    (h : verifyWorkspacePreparation claim effect expected s = .ok (u, t)) :
    ∃ row, s.preparations.lookup claim.preparationKey = some row ∧
      row.sourceRecord = expected.source ∧ row.leaseOwner = claim.leaseOwner ∧
      row.effectId = effect.key.id ∧ row.executionId = expected.execution.id ∧
      row.planDigest = expected.planDigest := by
  simp only [verifyWorkspacePreparation, read_bind, demand_bind_eq_ok, require_eq_ok] at h
  obtain ⟨row, hrow, ⟨hsource, howner, heffect, hexecution, hdigest, -⟩, -⟩ := h
  exact ⟨row, hrow, hsource, howner, heffect, hexecution, hdigest⟩

end DataGround
