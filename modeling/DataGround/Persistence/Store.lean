import DataGround.Library.Transaction
import DataGround.Persistence.RowHistory

/-!
# The store

The state behind the repository: the database, the claim statements in flight, and two records
of what has been committed -- the changes of operation rows and the calls of
`writeOutboxAndAudit` -- which no method reads.

A method is a transaction over the store (`Method`).  Every change of an operation row goes
through `commitRow`, which applies one of the statements of `Persistence.Operation` to the latest
version of the row; `writeOutboxAndAudit` and `writeInvocationEvent` are the two other writes
that the methods share.

`Store.RowsFollow` is the invariant that ties the operation table to the recorded changes: the
row at each key is what its own history leads to.
-/

namespace DataGround

open Transaction

/-- The arguments of one call of `claimNext`; an empty text or a zero is an absent filter. -/
structure ClaimRequest where
  kind : OperationKind
  (isolationDomainId serviceId revisionId runtimeProfile workerId : String)
  (now leaseUntil : Time)
  operationId : String
  stateMachineVersion : Nat
  deriving DecidableEq

/-- A claim statement whose snapshot has chosen a candidate and whose `UPDATE` is still to run. -/
structure ClaimStatement where
  request : ClaimRequest
  candidate : OperationKey
  deriving DecidableEq

/-- The arguments of one call of `writeOutboxAndAudit`. -/
structure OutboxWrite where
  (isolationDomainId resourceType resourceId eventType actorId correlationId outcome : String)
  operationId : String
  deriving DecidableEq

/-- The database, the claim statements in flight, and what has been committed so far. -/
structure Store where
  db : Database
  statements : List ClaimStatement
  history : List (OperationKey × RowCommit)
  written : List OutboxWrite

/-- The store before the first call. -/
def Store.empty : Store :=
  ⟨.empty, [], [], []⟩

/-- A method of the repository. -/
abbrev Method (α : Type) :=
  Tx Store RepositoryError α

namespace Store

/-- The committed changes of one row, in order. -/
def rowHistory (s : Store) (key : OperationKey) : List RowCommit :=
  s.history.filterMap fun entry => if entry.1 = key then some entry.2 else none

/-- One row and the claims it has been leased under. -/
def life (s : Store) (key : OperationKey) : RowLife :=
  ⟨s.db.operations.lookup key, claimsOf (s.rowHistory key)⟩

/-- The store with a new version of the row at `key`. -/
def putRow (s : Store) (key : OperationKey) (change : RowCommit) (row : Operation) : Store :=
  { s with
    db := { s.db with operations := s.db.operations.insert key row }
    history := s.history ++ [(key, change)] }

@[simp]
lemma lookup_putRow_self (s : Store) (key : OperationKey) (change : RowCommit) (row : Operation) :
    (s.putRow key change row).db.operations.lookup key = some row :=
  AList.lookup_insert _

lemma lookup_putRow_ne (s : Store) {key k : OperationKey} (change : RowCommit) (row : Operation)
    (h : k ≠ key) : (s.putRow key change row).db.operations.lookup k = s.db.operations.lookup k :=
  AList.lookup_insert_ne h

@[simp]
lemma rowHistory_putRow_self (s : Store) (key : OperationKey) (change : RowCommit)
    (row : Operation) : (s.putRow key change row).rowHistory key = s.rowHistory key ++ [change] := by
  simp [rowHistory, putRow]

lemma rowHistory_putRow_ne (s : Store) {key k : OperationKey} (change : RowCommit)
    (row : Operation) (h : k ≠ key) : (s.putRow key change row).rowHistory k = s.rowHistory k := by
  simp [rowHistory, putRow, h.symm]

end Store

/-! ### Changing an operation row -/

/-- One `UPDATE` or `INSERT` of an operation row.  The caller's claim must have been issued; the
statement is evaluated on the latest version of the row. -/
def commitRow (key : OperationKey) (change : RowCommit) (error : RepositoryError) :
    Method Unit := do
  let s ← read
  require (∀ claim ∈ change.actsFor, (s.life key).Issued claim) error
  let row ← demand (change.apply key (s.db.operations.lookup key)) error
  modify fun s => s.putRow key change row

variable {u : Unit}

variable {s t : Store}

/-- **What `commitRow` does**: the changed row, and nothing else. -/
lemma commitRow_eq_ok {key : OperationKey} {change : RowCommit} {error : RepositoryError}
    (h : commitRow key change error s = .ok (u, t)) :
    ∃ row, (∀ claim ∈ change.actsFor, (s.life key).Issued claim) ∧
      change.apply key (s.db.operations.lookup key) = some row ∧ t = s.putRow key change row := by
  simp only [commitRow, read_bind, require_bind_eq_ok, demand_bind_eq_ok, modify_eq_ok] at h
  obtain ⟨hissued, row, hrow, heq⟩ := h
  cases heq
  exact ⟨row, hissued, hrow, rfl⟩

/-- The row at each key is what its own history leads to. -/
def Store.RowsFollow (s : Store) : Prop :=
  ∀ key, Run.run (RowLife.step key) .unborn (s.rowHistory key) = some (s.life key)

lemma Store.rowsFollow_empty : Store.empty.RowsFollow :=
  fun _ => rfl

/-- A committed change takes its row one step on, and leaves every other row where it was. -/
lemma Store.RowsFollow.putRow (hs : s.RowsFollow) {key : OperationKey} {change : RowCommit}
    {row : Operation} (hissued : ∀ claim ∈ change.actsFor, (s.life key).Issued claim)
    (hrow : change.apply key (s.db.operations.lookup key) = some row) :
    (s.putRow key change row).RowsFollow := by
  intro k
  by_cases hk : k = key
  · subst hk
    have hstep : RowLife.step k (s.life k) change = some ((s.putRow k change row).life k) := by
      refine RowLife.step_eq_some.mpr ⟨hissued, row, hrow, ?_⟩
      simp only [life, lookup_putRow_self, rowHistory_putRow_self, claimsOf, List.filterMap_append]
      cases change <;> rfl
    rw [rowHistory_putRow_self, Run.run_concat, hs k, Option.bind_some, hstep]
  · simp only [life, rowHistory_putRow_ne s change row hk, lookup_putRow_ne s change row hk]
    exact hs k

/-! ### Outbox, audit and journal -/

/-- The identifier under which `writeOutboxAndAudit` inserts its outbox event. -/
def outboxId (env : Environment) (write : OutboxWrite) : String :=
  derived env "out" (write.isolationDomainId ++ ":" ++ write.eventType ++ ":" ++
    write.resourceId ++ ":" ++ write.correlationId)

/-- The outbox row of a write. -/
def OutboxWrite.event (write : OutboxWrite) (now : Time) : OutboxEvent where
  isolationDomainId := write.isolationDomainId
  aggregateType := write.resourceType
  aggregateId := write.resourceId
  eventType := write.eventType
  payload := .ofMembers [("outcome", .string write.outcome),
    ("resourceId", .string write.resourceId), ("resourceType", .string write.resourceType)]
  correlationId := write.correlationId
  availableAt := now
  createdAt := now

/-- The audit row of a write. -/
def OutboxWrite.record (write : OutboxWrite) (now : Time) : AuditRecord where
  isolationDomainId := write.isolationDomainId
  actorId := write.actorId
  action := write.eventType
  resourceType := write.resourceType
  resourceId := write.resourceId
  outcome := write.outcome
  correlationId := write.correlationId
  operationId := if write.operationId = "" then none else some write.operationId
  safeMetadata := .ofMembers []
  occurredAt := now

/-- `writeOutboxAndAudit`: the outbox event under its derived identifier, unless one is there
already, and an audit record under a fresh one. -/
def writeOutboxAndAudit (env : Environment) (m : Moment) (write : OutboxWrite) : Method Unit := do
  let s ← read
  require (m.auditId ∉ s.db.audit) (.refused "write audit record")
  modify fun s => { s with
    db := { s.db with
      outbox := s.db.outbox.insertIfAbsent (outboxId env write) (write.event m.now)
      audit := s.db.audit.insert m.auditId (write.record m.now) }
    written := s.written ++ [write] }

/-- The next sequence number of an invocation's journal: `COALESCE(max(sequence), 0) + 1`. -/
def nextSequence (events : List InvocationEvent) (invocation : ResourceKey) : Nat :=
  (events.filter (·.invocation = invocation)).foldr (fun event => max event.sequence) 0 + 1

/-- `writeInvocationEvent`: one event of the platform's own, at the end of the journal. -/
def writeInvocationEvent (env : Environment) (key : ResourceKey) (invocation : InvocationRow)
    (eventType actorId : String) (payload : Json) (now : Time) : Method Unit := do
  let s ← read
  let sequence := nextSequence s.db.events key
  let id := derived env "evt" (key.id ++ ":" ++ toString sequence)
  require (∀ event ∈ s.db.events, event.id ≠ id) (.refused "persist invocation event")
  modify fun s => { s with
    db := { s.db with
      events := s.db.events ++ [{
        invocation := key, id := id, sequence := sequence, eventType := eventType
        occurredAt := now, recordedAt := now, correlationId := invocation.correlationId
        actorId := actorId, serviceId := invocation.serviceId, revisionId := invocation.revisionId
        payload := payload, sourceSequence := none }] } }

/-- Two stores agree on the operations, their histories, the claim statements in flight, the
invocations and the effect records. -/
structure Store.Core (s t : Store) : Prop where
  operations : t.db.operations = s.db.operations
  invocations : t.db.invocations = s.db.invocations
  effects : t.db.effects = s.db.effects
  statements : t.statements = s.statements
  history : t.history = s.history

lemma Store.Core.refl (s : Store) : Store.Core s s :=
  ⟨rfl, rfl, rfl, rfl, rfl⟩

lemma Store.Core.trans {r : Store} (h : Store.Core s t) (h' : Store.Core t r) : Store.Core s r :=
  ⟨h'.operations.trans h.operations, h'.invocations.trans h.invocations,
    h'.effects.trans h.effects, h'.statements.trans h.statements, h'.history.trans h.history⟩

variable {env : Environment}

lemma writeOutboxAndAudit_core {m : Moment} {write : OutboxWrite}
    (h : writeOutboxAndAudit env m write s = .ok (u, t)) : Store.Core s t := by
  simp only [writeOutboxAndAudit, read_bind, require_bind_eq_ok, modify_eq_ok] at h
  obtain ⟨-, heq⟩ := h
  cases heq
  exact ⟨rfl, rfl, rfl, rfl, rfl⟩

lemma writeInvocationEvent_core {key : ResourceKey} {invocation : InvocationRow}
    {eventType actorId : String} {payload : Json} {now : Time}
    (h : writeInvocationEvent env key invocation eventType actorId payload now s = .ok (u, t)) :
    Store.Core s t := by
  simp only [writeInvocationEvent, read_bind, require_bind_eq_ok, modify_eq_ok] at h
  obtain ⟨-, heq⟩ := h
  cases heq
  exact ⟨rfl, rfl, rfl, rfl, rfl⟩

end DataGround
