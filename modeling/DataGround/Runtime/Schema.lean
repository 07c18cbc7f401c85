import DataGround.Persistence.Calls
import DataGround.Persistence.JournalInteractions

/-!
# Runtime attempts and workspaces: the tables

A claimed invocation operation that is running consumes one runtime attempt.  When its execution
plan selects a workspace source, the source is prepared in the sandbox before the attempt, and the
cleanup of the workspace is confirmed after it.  These are the tables of that protocol, beside the
store of operations.

`RuntimeStore` is the state, and `lockInvocationRuntimeClaim`, `verifyInvocationRuntimeEffect` and
`getInvocationRuntimeTarget` are the reads that all methods of the protocol begin with.
-/

namespace DataGround

open Transaction

/-! ### Rows -/

structure SourceRecord where
  (schemaVersion isolationDomainId workspaceId id archiveDigest storageProfileDigest : String)
  (archiveBytes entryCount sourceBytes : Int)
  deriving DecidableEq

/-- A row of `service_revision_execution_plans`, as far as the protocol reads it.  The plan has the
schema `dataground.execution-plan/v2` exactly when it selects a source. -/
structure ExecutionPlan where
  workspaceSource : Option SourceRecord
  planDigest : String
  deriving DecidableEq

/-- The states of an execution. -/
inductive InstanceState where
  | provisioning
  | ready
  | running
  | waiting
  | deleting
  | terminated
  | error
  | unknown
  deriving DecidableEq

/-- A row of `execution_instances`, found by its operation. -/
structure ExecutionInstance where
  id : String
  observedState : InstanceState
  deriving DecidableEq

/-- `artifact.Record`, as far as the protocol reads it: a row of `invocation_artifact_objects`. -/
structure ArtifactRecord where
  (id invocationId operationId effectId name kind mediaType : String)
  sizeBytes : Int
  digest : String
  sensitive : Bool
  deriving DecidableEq

/-- The status of a runtime attempt, with its result. -/
inductive AttemptState where
  | reserved
  | outputInvalid (result : Members)
  | succeeded (result : Members)
  | failed (result : Members)
  deriving DecidableEq

namespace AttemptState

/-- The column `result`. -/
def result : AttemptState → Option Members
  | .reserved => none
  | .outputInvalid result | .succeeded result | .failed result => some result

/-- The attempt has come to its end. -/
def Terminal : AttemptState → Prop
  | .reserved | .outputInvalid _ => False
  | .succeeded _ | .failed _ => True

instance : DecidablePred Terminal := fun state =>
  match state with
  | .reserved | .outputInvalid _ => isFalse id
  | .succeeded _ | .failed _ => isTrue trivial

end AttemptState

/-- A row of `invocation_runtime_attempts`. -/
structure RuntimeAttempt where
  (effectId leaseOwner : String)
  fencingToken : Nat
  state : AttemptState
  deriving DecidableEq

/-- The primary key of preparations and their completions. -/
structure PreparationKey where
  operation : ResourceKey
  fencingToken : Nat
  deriving DecidableEq

/-- A row of `invocation_workspace_preparations`. -/
structure WorkspacePreparation where
  (effectId leaseOwner executionId planDigest : String)
  sourceRecord : SourceRecord
  grantGeneration : Int
  (actorId correlationId : String)
  deriving DecidableEq

/-- `InvocationWorkspaceQuiescence`: the record that an intent to clean up retains. -/
structure WorkspaceQuiescence where
  schemaVersion : String
  source : SourceRecord
  (invocationId operationId effectId executionId planDigest ownerBinding runtimeOwner : String)
  runtimeToken : Nat
  (actorId correlationId : String)
  deriving DecidableEq

/-! ### The state -/

/-- The store of operations and the tables of the protocol. -/
structure RuntimeStore where
  store : Store
  /-- By revision. -/
  plans : Table ResourceKey ExecutionPlan
  /-- By operation. -/
  instances : Table ResourceKey ExecutionInstance
  artifacts : Table ResourceKey ArtifactRecord
  /-- By operation. -/
  attempts : Table ResourceKey RuntimeAttempt
  preparations : Table PreparationKey WorkspacePreparation
  /-- The decision behind the completion of a preparation. -/
  completions : Table PreparationKey String
  /-- By operation. -/
  intents : Table ResourceKey WorkspaceQuiescence
  /-- By operation: who confirmed the cleanup, and the correlation it was confirmed under. -/
  confirmations : Table ResourceKey (String × String)

/-- The state before the first call. -/
def RuntimeStore.empty : RuntimeStore :=
  ⟨.empty, ∅, ∅, ∅, ∅, ∅, ∅, ∅, ∅⟩

/-- A method of the protocol. -/
abbrev RuntimeMethod (α : Type) :=
  Tx RuntimeStore RepositoryError α

/-- A method of the store of operations, as part of a method of the protocol. -/
def onStore {α : Type} (x : Method α) : RuntimeMethod α := fun s =>
  match x s.store with
  | .ok (a, store) => .ok (a, { s with store := store })
  | .error error => .error error

lemma onStore_eq_ok {α : Type} {x : Method α} {s : RuntimeStore} {r : α × RuntimeStore} :
    onStore x s = .ok r ↔
      ∃ a store, x s.store = .ok (a, store) ∧ r = (a, { s with store := store }) := by
  unfold onStore
  constructor
  · intro h
    split at h
    · rename_i a store hx
      cases h
      exact ⟨a, store, hx, rfl⟩
    · cases h
  · rintro ⟨a, store, hx, rfl⟩
    rw [hx]

variable (claim : Claim)

/-- The operation of a claim, by the key of the invocation operations. -/
def Claim.operationKey : ResourceKey :=
  ⟨claim.key.isolationDomainId, claim.key.id⟩

/-- The preparation of a claim. -/
def Claim.preparationKey : PreparationKey :=
  ⟨claim.operationKey, claim.fencingToken⟩

namespace RuntimeStore

/-- The invocation operation under a key. -/
def operation (s : RuntimeStore) (key : ResourceKey) : Option Operation :=
  s.store.db.operations.lookup ⟨.invocation, key.isolationDomainId, key.id⟩

/-- The invocation of an operation. -/
def invocation (s : RuntimeStore) (key : ResourceKey) (op : Operation) : Option InvocationRow :=
  s.store.db.invocations.lookup ⟨key.isolationDomainId, op.resourceId⟩

/-- The execution plan of the revision that an operation runs. -/
def plan (s : RuntimeStore) (key : ResourceKey) : Option ExecutionPlan := do
  let op ← s.operation key
  let invocation ← s.invocation key op
  s.plans.lookup ⟨key.isolationDomainId, invocation.revisionId⟩

end RuntimeStore

/-- The operation is the current one of an owner and a token by the database's clock:
`lease_owner`, `lease_token`, and lease and deadline not yet over. -/
def Operation.LeasedTo (owner : String) (token : Nat) (clock : Time) (op : Operation) : Prop :=
  op.leaseOwner = some owner ∧ op.leaseToken = token ∧ op.LeaseLive clock ∧ op.deadlineAt > clock

instance (owner : String) (token : Nat) (clock : Time) (op : Operation) :
    Decidable (op.LeasedTo owner token clock) :=
  inferInstanceAs (Decidable (_ ∧ _ ∧ _ ∧ _))

/-- The operation runs a turn: `command IN ('invoke','repair') AND observed_state='running'`. -/
def Operation.Running (op : Operation) : Prop :=
  (op.command = .invoke ∨ op.command = .repair) ∧ op.observedState = .running

instance (op : Operation) : Decidable op.Running :=
  inferInstanceAs (Decidable (_ ∧ _))

/-! ### What every method reads first -/

/-- `ErrInvocationRuntimeAttemptMissing`. -/
def attemptMissing : RepositoryError :=
  .refused "invocation runtime attempt is missing"

/-- `ErrInvocationRuntimeAttemptInvalid`. -/
def attemptInvalid : RepositoryError :=
  .refused "invocation runtime attempt is invalid"

/-- `ErrInvocationRuntimeAttemptAmbiguous`. -/
def attemptAmbiguous : RepositoryError :=
  .refused "invocation runtime attempt outcome is ambiguous"

/-- `ErrInvocationRuntimeAttemptConflict`. -/
def attemptConflict : RepositoryError :=
  .refused "invocation runtime attempt conflicts with persisted state"

namespace Repository

/-- `lockInvocationRuntimeClaim`: the invocation of the claim's operation.  It locks the row of the
invocation, and no other. -/
def lockInvocationRuntimeClaim (now : Time) : RuntimeMethod String := do
  require (Writer.validInvocationRuntimeClaim claim = true) .leaseLost
  let s ← read
  let op ← demand (s.operation claim.operationKey) .leaseLost
  let _ ← demand (s.invocation claim.operationKey op) .leaseLost
  require (op.command = claim.command ∧ op.observedState = claim.observedState ∧
    op.stateMachineVersion = claim.stateMachineVersion ∧
    op.LeasedTo claim.leaseOwner claim.fencingToken now) .leaseLost
  pure op.resourceId

/-- `verifyInvocationRuntimeEffect`: the record is still the one the worker holds. -/
def verifyInvocationRuntimeEffect (effect : EffectRecord) : RuntimeMethod Unit := do
  let s ← read
  let persisted ← demand (s.store.db.effects.lookup effect.key) attemptInvalid
  let persisted ← demand persisted.decoded (.refused "decode effect observation")
  require (persisted.operationKind = effect.effect.operationKind ∧
    persisted.operationId = effect.effect.operationId ∧ persisted.phase = effect.effect.phase ∧
    persisted.requestDigest = effect.effect.requestDigest ∧
    persisted.status = effect.effect.status ∧
    Writer.invocationRuntimeEffectMayStartAttempt persisted.status = true) attemptConflict

/-- The effect of a phase is recorded as succeeded. -/
def hasSucceeded (db : Database) (operation : ResourceKey) (phase : Phase) : Bool :=
  db.effects.entries.any fun entry =>
    entry.1.isolationDomainId = operation.isolationDomainId &&
      entry.2.operationKind = .invocation && entry.2.operationId = operation.id &&
      entry.2.phase = phase && entry.2.status = .succeeded

def getInvocationRuntimeTarget (operation : ResourceKey) : RuntimeMethod RuntimeTarget := do
  let s ← read
  let op ← demand (s.operation operation) Writer.targetMissing
  let invocation ← demand (s.invocation operation op) Writer.targetMissing
  let revision ← demand
    (s.store.db.revisions.lookup ⟨operation.isolationDomainId, invocation.revisionId⟩)
    Writer.targetMissing
  require (revision.serviceId = invocation.serviceId ∧
    hasSucceeded s.store.db operation .startInvocation = true ∧ op.observedState = .running ∧
    op.stateMachineVersion = Invocation.stateMachineVersion ∧
    (op.command = .invoke ∨ (op.command = .repair ∧ op.effectActorId ≠ none ∧
      op.effectCorrelationId ≠ none))) Writer.targetMissing
  let target : RuntimeTarget :=
    { operation := operation, invocationId := op.resourceId, serviceId := invocation.serviceId
      revisionId := invocation.revisionId, actorId := op.effectActorId.getD op.actorId
      correlationId := op.effectCorrelationId.getD op.correlationId }
  require (target.invocationId ≠ "" ∧ target.serviceId ≠ "" ∧ target.revisionId ≠ "" ∧
    target.actorId ≠ "" ∧ target.correlationId ≠ "") Writer.targetMissing
  pure target

end Repository

/-! ### Reads change nothing -/

lemma readOnly_lockInvocationRuntimeClaim (now : Time) :
    ReadOnly (Repository.lockInvocationRuntimeClaim claim now) :=
  .bind (.require _ _) fun _ => .bind .read fun _ => .bind (.demand _ _) fun _ =>
    .bind (.demand _ _) fun _ => .bind (.require _ _) fun _ => .pure _

lemma readOnly_verifyInvocationRuntimeEffect (effect : EffectRecord) :
    ReadOnly (Repository.verifyInvocationRuntimeEffect effect) :=
  .bind .read fun _ => .bind (.demand _ _) fun _ => .bind (.demand _ _) fun _ => .require _ _

lemma readOnly_getInvocationRuntimeTarget (operation : ResourceKey) :
    ReadOnly (Repository.getInvocationRuntimeTarget operation) :=
  .bind .read fun _ => .bind (.demand _ _) fun _ => .bind (.demand _ _) fun _ =>
    .bind (.demand _ _) fun _ => .bind (.require _ _) fun _ => .bind (.require _ _) fun _ => .pure _

end DataGround
