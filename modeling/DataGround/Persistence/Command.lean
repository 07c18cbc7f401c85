import DataGround.Persistence.Transition

/-!
# Accepted commands

The commands that put an operation into the store or act on it from outside: `AcceptInvocation`,
`AcceptPublication`, `AcceptCancellation` and `RepairOperation`.  (The idempotency record around
the first three is the subject of `Persistence.Idempotency`; here they are the actions it wraps.)

A cancellation and a repair both take the lease away and keep its token.  A cancellation moves the
invocation along with its operation; a repair puts the operation back into the queue and leaves
the invocation alone.
-/

namespace DataGround

open Transaction

/-! ### New operations -/

/-- An operation of the kind exists for the resource: the unique index on the resource column. -/
def hasOperation (db : Database) (kind : OperationKind) (resource : ResourceKey) : Bool :=
  db.operations.entries.any fun entry =>
    entry.1.kind = kind && entry.1.isolationDomainId = resource.isolationDomainId &&
      entry.2.resourceId = resource.id

/-- The row of a newly accepted operation. -/
def Operation.queued (resourceId : String) (command : Command) (desiredState : State)
    (version : Nat) (deadline : Time) (correlationId actorId : String) (now : Time) :
    Operation where
  resourceId := resourceId
  command := command
  desiredState := desiredState
  observedState := .queued
  stateMachineVersion := version
  generation := 1
  attempt := 0
  leaseOwner := none
  leaseToken := 0
  leaseExpiresAt := none
  dueAt := now
  deadlineAt := deadline
  errorClassification := none
  error := none
  terminalResult := none
  correlationId := correlationId
  actorId := actorId
  effectActorId := none
  effectCorrelationId := none
  lastTransitionAt := now
  createdAt := now
  updatedAt := now

/-- `InvocationDispatchTarget`: the one revision a governed deployment dispatches to. -/
structure DispatchTarget where
  (isolationDomainId serviceId revisionId runtimeProfile : String)
  deriving DecidableEq

/-- `AcceptInvocationInput`, with the isolation domain of its idempotency record. -/
structure AcceptInvocationInput where
  (isolationDomainId id serviceId aliasName : String)
  input : Json
  deadline : Time
  (actorId correlationId : String)
  dispatchTarget : Option DispatchTarget
  deriving DecidableEq

/-- `AcceptPublicationInput`, with the isolation domain of its idempotency record. -/
structure AcceptPublicationInput where
  (isolationDomainId revisionId : String)
  expectedVersion : Nat
  deadline : Time
  (actorId correlationId : String)
  deriving DecidableEq

def invocationDispatchMismatch : RepositoryError :=
  .domain "INVOCATION_DISPATCH_TARGET_MISMATCH"
    "Invocation target is outside the configured governed dispatch scope."

/-- The invocation row that `AcceptInvocation` inserts. -/
def AcceptInvocationInput.row (input : AcceptInvocationInput) (revisionId operationId : String)
    (now : Time) : InvocationRow where
  serviceId := input.serviceId
  revisionId := revisionId
  aliasName := input.aliasName
  state := .accepted
  input := input.input
  result := none
  error := none
  correlationId := input.correlationId
  operationId := operationId
  completedAt := none
  generation := 1
  version := 1
  createdAt := now
  updatedAt := now
  createdBy := input.actorId

namespace Repository

def acceptInvocation (env : Environment) (m : Moment) (input : AcceptInvocationInput) :
    Method Unit := do
  require (∀ target ∈ input.dispatchTarget, input.isolationDomainId = target.isolationDomainId ∧
    input.serviceId = target.serviceId) invocationDispatchMismatch
  let s ← read
  let found ← demand
    (s.db.aliases.lookup ⟨input.isolationDomainId, input.serviceId, input.aliasName⟩)
    (.domain "RESOURCE_NOT_FOUND" "Published service alias was not found.")
  let revision ← demand (s.db.revisions.lookup ⟨input.isolationDomainId, found.revisionId⟩)
    (.domain "RESOURCE_NOT_FOUND" "Published service alias was not found.")
  require (revision.serviceId = input.serviceId ∧ found.withdrawnAt = none ∧
      revision.state = .published)
    (.domain "RESOURCE_NOT_FOUND" "Published service alias was not found.")
  require (∀ target ∈ input.dispatchTarget, found.revisionId = target.revisionId ∧
    revision.runtimeProfile = target.runtimeProfile) invocationDispatchMismatch
  match validateInvocationInput env revision.inputSchema input.input with
  | some problem => Transaction.fail (.domain problem.code problem.message)
  | none => do
    let key : ResourceKey := ⟨input.isolationDomainId, input.id⟩
    let operationId := derived env "op"
      (input.isolationDomainId ++ ":" ++ input.id ++ ":invocation:v1")
    let row := input.row found.revisionId operationId m.now
    require (key ∉ s.db.invocations) (.refused "insert invocation")
    modify fun s => { s with
      db := { s.db with invocations := s.db.invocations.insert key row } }
    require (hasOperation s.db .invocation key = false) (.refused "accept invocation execution")
    commitRow ⟨.invocation, input.isolationDomainId, operationId⟩
      (.accepted (.queued input.id .invoke .succeeded Invocation.stateMachineVersion
        input.deadline input.correlationId input.actorId m.now))
      (.refused "accept invocation execution")
    writeOutboxAndAudit env m
      { isolationDomainId := input.isolationDomainId, resourceType := "invocation"
        resourceId := input.id, eventType := "invocation.accepted", actorId := input.actorId
        correlationId := input.correlationId, outcome := "accepted", operationId := operationId }
    writeInvocationEvent env key row "lifecycle.accepted" input.actorId
      (.ofMembers [("state", .string "accepted")]) m.now

/-- `Repository.AcceptPublication`: the reference publication, version 1. -/
def acceptPublication (env : Environment) (m : Moment) (input : AcceptPublicationInput)
    (supported : String → Bool) : Method Unit := do
  let s ← read
  let key : ResourceKey := ⟨input.isolationDomainId, input.revisionId⟩
  let revision ← demand (s.db.revisions.lookup key) .noRows
  require (revision.version = input.expectedVersion)
    (.domain "VERSION_CONFLICT" "Revision version did not match.")
  require (revision.state = .draft)
    (.domain "REVISION_IMMUTABLE" "Only a draft revision can be published.")
  require (revision.runtimeProfile = "reference/v1")
    (.domain "RUNTIME_PROFILE_UNAVAILABLE" "Runtime profile is unavailable.")
  require (revision.requiredCapabilities.all supported = true)
    (.domain "REQUIRED_CAPABILITY_UNAVAILABLE" "A required runtime capability is unavailable.")
  match validateRevisionSchemas env revision.inputSchema revision.outputSchema with
  | some problem => Transaction.fail (.domain problem.code problem.message)
  | none => do
    let operationId := derived env "op"
      (input.isolationDomainId ++ ":" ++ input.revisionId ++ ":publication:v1")
    let operationKey : OperationKey := ⟨.publication, input.isolationDomainId, operationId⟩
    if hasOperation s.db .publication key then
      -- `ON CONFLICT (isolation_domain_id, revision_id) DO NOTHING`, then the operation is read.
      require (operationKey ∈ s.db.operations) .noRows
    else do
      commitRow operationKey
        (.accepted (.queued input.revisionId .publish .published Publication.stateMachineVersion
          input.deadline input.correlationId input.actorId m.now))
        (.refused "accept service publication")
      writeOutboxAndAudit env m
        { isolationDomainId := input.isolationDomainId, resourceType := "service-publication"
          resourceId := operationId, eventType := "service-publication.accepted"
          actorId := input.actorId, correlationId := input.correlationId, outcome := "accepted"
          operationId := operationId }

end Repository

/-! ### Cancellation -/

/-- `AcceptCancellationInput`, with the isolation domain of its idempotency record. -/
structure AcceptCancellationInput where
  (isolationDomainId invocationId actorId correlationId : String)
  deriving DecidableEq

/-- The invocation that is cancelled. -/
def AcceptCancellationInput.key (input : AcceptCancellationInput) : ResourceKey :=
  ⟨input.isolationDomainId, input.invocationId⟩

/-- The change of the operation row that a cancellation makes. -/
def AcceptCancellationInput.change (input : AcceptCancellationInput) (now : Time) : RowCommit :=
  .cancelled input.actorId input.correlationId now

/-- The operations of an invocation: `WHERE invocation_id = …`. -/
def operationsOf (db : Database) (invocation : ResourceKey) : List OperationKey :=
  (db.operations.entries.filter fun entry =>
    entry.1.kind = .invocation && entry.1.isolationDomainId = invocation.isolationDomainId &&
      entry.2.resourceId = invocation.id).map (·.1)

/-- The `UPDATE` that marks an invocation as being cancelled. -/
def InvocationRow.cancelling (now : Time) (row : InvocationRow) : InvocationRow :=
  { row with
    state := .cancelling, generation := row.generation + 1, version := row.version + 1
    updatedAt := now }

/-- One change for each of a list of rows. -/
def commitRows (change : RowCommit) : List OperationKey → Method Unit
  | [] => pure ()
  | key :: keys => do
    commitRow key change .leaseLost
    commitRows change keys

namespace Repository

def acceptCancellation (env : Environment) (m : Moment) (input : AcceptCancellationInput) :
    Method Unit := do
  require (input.actorId ≠ "" ∧ input.correlationId ≠ "")
    (.refused "cancellation actor and correlation are required")
  let s ← read
  let invocation ← demand (s.db.invocations.lookup input.key) .noRows
  if invocation.state = .cancelled ∨ invocation.state = .cancelling then
    pure ()
  else do
    require (invocation.state ≠ .succeeded ∧ invocation.state ≠ .failed)
      (.domain "INVOCATION_TERMINAL" "A completed invocation cannot be cancelled.")
    modify fun s => { s with
      db := { s.db with
        invocations := s.db.invocations.insert input.key (invocation.cancelling m.now) } }
    commitRows (input.change m.now) (operationsOf s.db input.key)
    writeOutboxAndAudit env m
      { isolationDomainId := input.isolationDomainId, resourceType := "invocation"
        resourceId := input.invocationId, eventType := "invocation.cancellation-accepted"
        actorId := input.actorId, correlationId := input.correlationId, outcome := "accepted"
        operationId := invocation.operationId }
    writeInvocationEvent env input.key (invocation.cancelling m.now)
      "lifecycle.cancellation.requested" input.actorId
      (.ofMembers [("state", .string "cancelling")]) m.now

end Repository

/-! ### Repair -/

/-- The arguments of `RepairOperation`. -/
structure RepairInput where
  key : OperationKey
  (actorId reason deduplicationId : String)
  newDeadline : Time
  deriving DecidableEq

/-- The digest under which a repair is deduplicated. -/
def RepairInput.digest (env : Environment) (input : RepairInput) : String :=
  env.digest (input.key.kind.text ++ ":" ++ input.key.id ++ ":" ++ input.reason ++ ":" ++
    toString input.newDeadline)

/-- The change of the operation row that a repair makes. -/
def RepairInput.change (input : RepairInput) (now : Time) : RowCommit :=
  .repaired input.actorId input.deduplicationId input.newDeadline now

/-- `lockRepairRevision`: the state of the revision behind a failed operation. -/
def repairRevisionState (db : Database) (key : OperationKey) : Option RevisionState := do
  let op ← db.operations.lookup key
  if op.observedState ≠ .failed then none
  else
    match key.kind with
    | .publication => (db.revisions.lookup (key.resource op)).map (·.state)
    | .invocation => do
      let invocation ← db.invocations.lookup (key.resource op)
      (db.revisions.lookup ⟨key.isolationDomainId, invocation.revisionId⟩).map (·.state)

/-- The revision state under which an operation of the kind may be repaired. -/
def repairableRevision : OperationKind → RevisionState
  | .invocation => .published
  | .publication => .draft

namespace Repository

def repairOperation (env : Environment) (m : Moment) (input : RepairInput) : Method Unit := do
  require (input.actorId ≠ "" ∧ input.reason ≠ "" ∧ input.deduplicationId ≠ "" ∧
      m.now < input.newDeadline)
    (.refused "repair requires actor, reason, deduplication ID, and a future deadline")
  let s ← read
  let inboxKey : InboxKey := ⟨input.key.isolationDomainId, input.deduplicationId⟩
  match s.db.inbox.lookup inboxKey with
  | some record =>
    require (record.payloadDigest = input.digest env ∧ record.actorId = some input.actorId)
      (.domain "IDEMPOTENCY_KEY_REUSED"
        "Repair deduplication ID was reused with different content.")
  | none => do
    modify fun s => { s with
      db := { s.db with
        inbox := s.db.inbox.insert inboxKey ⟨input.digest env, some input.actorId, m.now⟩ } }
    require (repairRevisionState s.db input.key = some (repairableRevision input.key.kind))
      (.domain "OPERATION_NOT_REPAIRABLE"
        "The revision no longer permits this operation to be repaired.")
    commitRow input.key (input.change m.now)
      (.domain "OPERATION_NOT_REPAIRABLE" "Only a failed operation can be repaired.")
    writeOutboxAndAudit env m
      { isolationDomainId := input.key.isolationDomainId, resourceType := input.key.kind.text
        resourceId := input.key.id, eventType := input.key.kind.text ++ ".repair-accepted"
        actorId := input.actorId, correlationId := input.deduplicationId, outcome := "accepted"
        operationId := input.key.id }

end Repository

/-! ### Taking a command apart -/

section

variable {env : Environment} {m : Moment} {s t : Store} {u : Unit}

/-- The key of the operation that `AcceptInvocation` creates. -/
def AcceptInvocationInput.operationKey (env : Environment) (input : AcceptInvocationInput) :
    OperationKey :=
  ⟨.invocation, input.isolationDomainId,
    derived env "op" (input.isolationDomainId ++ ":" ++ input.id ++ ":invocation:v1")⟩

/-- The operation that `AcceptInvocation` creates. -/
def AcceptInvocationInput.operation (input : AcceptInvocationInput) (now : Time) : Operation :=
  .queued input.id .invoke .succeeded Invocation.stateMachineVersion input.deadline
    input.correlationId input.actorId now

/-- The store with one more invocation. -/
def Store.putInvocation (s : Store) (key : ResourceKey) (row : InvocationRow) : Store :=
  { s with db := { s.db with invocations := s.db.invocations.insert key row } }

/-- A row that nobody acts for a claim on is inserted only where there is none. -/
lemma accepted_apply {key : OperationKey} {before : Option Operation} {op row : Operation}
    (h : (RowCommit.accepted op).apply key before = some row) : before = none ∧ row = op := by
  cases RowCommit.apply_eq_some h with
  | accepted => exact ⟨rfl, rfl⟩

/-- What changing several rows does to one of them. -/
structure RowsChanged (change : RowCommit) (keys : List OperationKey) (s t : Store) : Prop where
  changed : ∀ key ∈ keys, ∃ row, change.apply key (s.db.operations.lookup key) = some row ∧
    t.db.operations.lookup key = some row ∧ t.rowHistory key = s.rowHistory key ++ [change]
  unchanged : ∀ key ∉ keys, t.db.operations.lookup key = s.db.operations.lookup key ∧
    t.rowHistory key = s.rowHistory key
  rest : t = { s with db := { s.db with operations := t.db.operations }, history := t.history }

lemma commitRows_eq_ok {change : RowCommit} {keys : List OperationKey} (hnodup : keys.Nodup)
    (h : commitRows change keys s = .ok (u, t)) : RowsChanged change keys s t := by
  induction keys generalizing s with
  | nil =>
    cases pure_eq_ok.mp h
    exact ⟨by simp, fun _ _ => ⟨rfl, rfl⟩, rfl⟩
  | cons key _ ih =>
    obtain ⟨hnotMem, hnodup⟩ := List.nodup_cons.mp hnodup
    obtain ⟨_, _, hcommit, hrest⟩ := bind_eq_ok.mp h
    obtain ⟨row, -, happly, rfl⟩ := commitRow_eq_ok hcommit
    obtain ⟨hchanged, hunchanged, heq⟩ := ih hnodup hrest
    refine ⟨?_, ?_, by rw [heq]; rfl⟩
    · intro k hk
      rcases List.mem_cons.mp hk with rfl | hk
      · obtain ⟨hlookup, hhistory⟩ := hunchanged k hnotMem
        rw [Store.lookup_putRow_self] at hlookup
        rw [Store.rowHistory_putRow_self] at hhistory
        exact ⟨row, happly, hlookup, hhistory⟩
      · have hne : k ≠ key := fun heq => hnotMem (heq ▸ hk)
        obtain ⟨row', happly', hlookup, hhistory⟩ := hchanged k hk
        rw [Store.lookup_putRow_ne s change row hne] at happly'
        rw [Store.rowHistory_putRow_ne s change row hne] at hhistory
        exact ⟨row', happly', hlookup, hhistory⟩
    · intro k hk
      obtain ⟨hne, hk⟩ := not_or.mp (List.mem_cons.not.mp hk)
      obtain ⟨hlookup, hhistory⟩ := hunchanged k hk
      rw [Store.lookup_putRow_ne s change row hne] at hlookup
      rw [Store.rowHistory_putRow_ne s change row hne] at hhistory
      exact ⟨hlookup, hhistory⟩

lemma mem_operationsOf {db : Database} {invocation : ResourceKey} {key : OperationKey} :
    key ∈ operationsOf db invocation ↔ ∃ op, db.operations.lookup key = some op ∧
      key.kind = .invocation ∧ key.resource op = invocation := by
  simp only [operationsOf, List.mem_map, List.mem_filter, Bool.and_eq_true, decide_eq_true_eq]
  constructor
  · rintro ⟨entry, ⟨hmem, ⟨hkind, hdomain⟩, hresource⟩, rfl⟩
    refine ⟨entry.2, AList.mem_lookup_iff.mpr hmem, hkind, ?_⟩
    rw [OperationKey.resource, hdomain, hresource]
  · rintro ⟨op, hop, hkind, rfl⟩
    exact ⟨⟨key, op⟩, ⟨AList.mem_lookup_iff.mp hop, ⟨hkind, rfl⟩, rfl⟩, rfl⟩

lemma operationsOf_nodup (db : Database) (invocation : ResourceKey) :
    (operationsOf db invocation).Nodup :=
  (List.filter_sublist.map Sigma.fst).nodup db.operations.nodupKeys

end

end DataGround
