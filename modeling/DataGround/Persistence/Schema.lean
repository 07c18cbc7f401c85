import DataGround.Base.Domain
import DataGround.Library.Table
import DataGround.Lifecycle

/-!
# The tables of the control plane

The rows that durable operations read and write, one structure per table, and the `Database`
that holds them.  A row does not repeat its primary key: the key is where the row is found.

The two operation tables have the same columns and are one table here, keyed by the kind of the
operation as well; `resourceId` is the column `revision_id` or `invocation_id`.
-/

namespace DataGround

/-- The primary key of an operation. -/
structure OperationKey where
  kind : OperationKind
  (isolationDomainId id : String)
  deriving DecidableEq

/-- The primary key of a resource that lives in an isolation domain. -/
structure ResourceKey where
  (isolationDomainId id : String)
  deriving DecidableEq

/-- A row of `service_publication_operations` or `invocation_execution_operations`. -/
structure Operation where
  resourceId : String
  command : Command
  (desiredState observedState : State)
  (stateMachineVersion generation attempt : Nat)
  leaseOwner : Option String
  leaseToken : Nat
  leaseExpiresAt : Option Time
  (dueAt deadlineAt : Time)
  errorClassification : Option ErrorClassification
  error : Option APIError
  terminalResult : Option Json
  (correlationId actorId : String)
  /-- Who later effects act for, once a cancellation or a repair has been accepted. -/
  (effectActorId effectCorrelationId : Option String)
  (lastTransitionAt createdAt updatedAt : Time)
  deriving DecidableEq

/-- The public states of an invocation. -/
inductive InvocationState where
  | accepted
  | running
  | waiting
  | cancelling
  | succeeded
  | failed
  | cancelled
  deriving DecidableEq

/-- The text an invocation state is stored under. -/
def InvocationState.text : InvocationState → String
  | .accepted => "accepted"
  | .running => "running"
  | .waiting => "waiting"
  | .cancelling => "cancelling"
  | .succeeded => "succeeded"
  | .failed => "failed"
  | .cancelled => "cancelled"

/-- A row of `invocations`. -/
structure InvocationRow where
  (serviceId revisionId aliasName : String)
  state : InvocationState
  input : Json
  result : Option Json
  error : Option APIError
  (correlationId operationId : String)
  completedAt : Option Time
  (generation version : Nat)
  (createdAt updatedAt : Time)
  createdBy : String
  deriving DecidableEq

/-- The states of a service revision. -/
inductive RevisionState where
  | draft
  | published
  | retired
  deriving DecidableEq

/-- A row of `service_revisions`. -/
structure ServiceRevision where
  serviceId : String
  state : RevisionState
  runtimeProfile : String
  requiredCapabilities : List String
  (inputSchema outputSchema : Option Json)
  publishedAt : Option Time
  (generation version : Nat)
  updatedAt : Time
  deriving DecidableEq

/-- The primary key of `service_aliases`. -/
structure AliasKey where
  (isolationDomainId serviceId name : String)
  deriving DecidableEq

/-- A row of `service_aliases`. -/
structure ServiceAlias where
  revisionId : String
  withdrawnAt : Option Time
  deriving DecidableEq

/-- The states of an external effect. -/
inductive EffectStatus where
  | prepared
  | unknown
  | succeeded
  | failed
  deriving DecidableEq

/-- A row of `external_effects`, keyed by the effect's identifier. -/
structure Effect where
  operationKind : OperationKind
  operationId : String
  phase : Phase
  requestDigest : String
  status : EffectStatus
  attempt : Nat
  observation : Option Json
  lastErrorCode : Option String
  (createdAt updatedAt : Time)
  deriving DecidableEq

/-- A row of `invocation_events`, the journal of an invocation.  `sourceSequence` is the number
a runtime gave its event; the platform's own events have none. -/
structure InvocationEvent where
  invocation : ResourceKey
  id : String
  sequence : Nat
  eventType : String
  (occurredAt recordedAt : Time)
  (correlationId actorId serviceId revisionId : String)
  payload : Json
  sourceSequence : Option Nat
  deriving DecidableEq

/-- A row of `outbox_events`, keyed by its derived identifier. -/
structure OutboxEvent where
  (isolationDomainId aggregateType aggregateId eventType : String)
  payload : Json
  correlationId : String
  (availableAt createdAt : Time)
  deriving DecidableEq

/-- A row of `audit_records`, keyed by its random identifier. -/
structure AuditRecord where
  (isolationDomainId actorId action resourceType resourceId outcome correlationId : String)
  operationId : Option String
  safeMetadata : Json
  occurredAt : Time
  deriving DecidableEq

/-- The primary key of `inbox_records`, for the source kind `command`. -/
structure InboxKey where
  (isolationDomainId deduplicationId : String)
  deriving DecidableEq

/-- A row of `inbox_records`. -/
structure InboxRecord where
  payloadDigest : String
  actorId : Option String
  createdAt : Time
  deriving DecidableEq

/-- The tables behind durable operations. -/
structure Database where
  operations : Table OperationKey Operation
  invocations : Table ResourceKey InvocationRow
  revisions : Table ResourceKey ServiceRevision
  aliases : Table AliasKey ServiceAlias
  effects : Table ResourceKey Effect
  events : List InvocationEvent
  outbox : Table String OutboxEvent
  audit : Table String AuditRecord
  inbox : Table InboxKey InboxRecord

/-- The database before the first command. -/
def Database.empty : Database where
  operations := ∅
  invocations := ∅
  revisions := ∅
  aliases := ∅
  effects := ∅
  events := []
  outbox := ∅
  audit := ∅
  inbox := ∅

/-- The clocks a transaction reads: `now` is the caller's own clock, `clock` the database's
(`clock_timestamp()`); `auditId` is the fresh identifier drawn for its audit record. -/
structure Moment where
  (now clock : Time)
  auditId : String
  deriving DecidableEq

/-- The key of the resource an operation is about. -/
def OperationKey.resource (key : OperationKey) (op : Operation) : ResourceKey :=
  ⟨key.isolationDomainId, op.resourceId⟩

end DataGround
