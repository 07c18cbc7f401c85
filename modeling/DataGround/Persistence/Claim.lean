import Mathlib.Data.Prod.Lex
import Mathlib.Data.String.Basic
import DataGround.Persistence.Store

/-!
# Claiming an operation

`claimNext` is one SQL statement in two parts.  Its common table expressions choose a candidate
on the statement's snapshot; its `UPDATE` then runs on the *latest* version of the candidate's
row and repeats only the condition on the lease.  Other transactions may commit between the two,
so the statement is two steps here: `claimSnapshot` puts a statement in flight, `claimUpdate`
finishes it.

`RenewLease` belongs here as well: it moves the expiry of a lease that is still held.
-/

namespace DataGround

open Transaction

/-- The states that `operationTable` gives `claimNext` to leave out. -/
def excludedStates : OperationKind → List State
  | .publication => [.published, .failed, .cancelled]
  | .invocation => [.succeeded, .failed, .cancelled, .waiting]

/-- The resource join with its service, revision and runtime-profile scopes. -/
def inScope (db : Database) (request : ClaimRequest) (key : OperationKey) (op : Operation) :
    Bool :=
  match key.kind with
  | .publication =>
    match db.revisions.lookup (key.resource op) with
    | none => false
    | some revision =>
      (request.serviceId = "" ||
          (revision.serviceId = request.serviceId && op.resourceId = request.revisionId)) &&
        (request.runtimeProfile = "" || revision.runtimeProfile = request.runtimeProfile)
  | .invocation =>
    match db.invocations.lookup (key.resource op) with
    | none => false
    | some invocation =>
      match db.revisions.lookup ⟨key.isolationDomainId, invocation.revisionId⟩ with
      | none => false
      | some revision =>
        revision.serviceId = invocation.serviceId &&
          (request.serviceId = "" ||
            (invocation.serviceId = request.serviceId &&
              invocation.revisionId = request.revisionId)) &&
          (request.runtimeProfile = "" || revision.runtimeProfile = request.runtimeProfile)

/-- The condition of `claimNext` on the operation row itself. -/
def Claimable (request : ClaimRequest) (key : OperationKey) (op : Operation) : Prop :=
  key.kind = request.kind ∧ op.observedState ∉ excludedStates key.kind ∧
    (request.isolationDomainId = "" ∨ key.isolationDomainId = request.isolationDomainId) ∧
    (request.operationId = "" ∨ key.id = request.operationId) ∧
    (request.stateMachineVersion = 0 ∨ op.stateMachineVersion = request.stateMachineVersion) ∧
    (op.command ≠ .repair ∨ (op.effectActorId.isSome ∧ op.effectCorrelationId.isSome)) ∧
    op.dueAt ≤ request.now ∧ op.LeaseFree request.now

instance (request : ClaimRequest) (key : OperationKey) (op : Operation) :
    Decidable (Claimable request key op) :=
  inferInstanceAs (Decidable (_ ∧ _ ∧ _ ∧ _ ∧ _ ∧ _ ∧ _ ∧ _))

/-- The rows the statement may choose from. -/
def eligible (db : Database) (request : ClaimRequest) : List (OperationKey × Operation) :=
  (db.operations.entries.map fun entry => (entry.1, entry.2)).filter fun entry =>
    Claimable request entry.1 entry.2 ∧ inScope db request entry.1 entry.2 = true

/-- `DISTINCT ON (isolation_domain_id)`: the first row of each domain. -/
def perDomain (rows : List (OperationKey × Operation)) : List (OperationKey × Operation) :=
  rows.filter fun entry => rows.all fun other =>
    other.1.isolationDomainId ≠ entry.1.isolationDomainId ∨
      toLex (entry.2.dueAt, toLex (entry.2.updatedAt, entry.1.id)) ≤
        toLex (other.2.dueAt, toLex (other.2.updatedAt, other.1.id))

/-- The candidate: the first of those rows over all domains. -/
def candidate (rows : List (OperationKey × Operation)) : Option OperationKey :=
  ((perDomain rows).find? fun entry => (perDomain rows).all fun other =>
    toLex (entry.2.dueAt, toLex (entry.2.updatedAt,
        toLex (entry.1.isolationDomainId, entry.1.id))) ≤
      toLex (other.2.dueAt, toLex (other.2.updatedAt,
        toLex (other.1.isolationDomainId, other.1.id)))).map (·.1)

namespace Repository

/-- The first part of `claimNext`: choose a candidate on the snapshot. -/
def claimSnapshot (request : ClaimRequest) : Method Unit := do
  let s ← read
  match candidate (eligible s.db request) with
  | none => pure ()
  | some key => modify fun s => { s with statements := s.statements ++ [⟨request, key⟩] }

/-- The second part of `claimNext`: the `UPDATE` on the latest version of the candidate's row.
Nothing is returned if the row is leased again by now. -/
def claimUpdate (statement : ClaimStatement) : Method (Option Claim) := do
  let s ← read
  require (statement ∈ s.statements) (.refused "no such statement")
  modify fun s => { s with statements := s.statements.erase statement }
  let request := statement.request
  let updated := (s.db.operations.lookup statement.candidate).bind
    (Operation.claim request.workerId request.now request.leaseUntil)
  match updated with
  | none => pure none
  | some row => do
    let claim := row.toClaim statement.candidate request.workerId
    commitRow statement.candidate (.claimed claim request.now request.leaseUntil) .leaseLost
    pure (some claim)

def renewLease (m : Moment) (claim : Claim) (leaseUntil : Time) : Method Claim := do
  require (claim.key.isolationDomainId ≠ "" ∧ claim.key.id ≠ "" ∧ claim.leaseOwner ≠ "" ∧
      claim.fencingToken > 0 ∧ m.now < leaseUntil)
    (.refused "complete operation claim and positive lease duration are required")
  require (m.now < claim.deadlineAt) .leaseLost
  commitRow claim.key (.renewed claim m.now (min leaseUntil claim.deadlineAt)) .leaseLost
  let s ← read
  let op ← demand (s.db.operations.lookup claim.key) .leaseLost
  pure { claim with leaseExpiresAt := op.leaseExpiresAt.getD 0 }

end Repository

/-! ### Taking a claim apart -/

/-- A candidate is a row that was claimable on the snapshot. -/
lemma claimable_of_candidate {db : Database} {request : ClaimRequest} {key : OperationKey}
    (h : candidate (eligible db request) = some key) :
    ∃ op, db.operations.lookup key = some op ∧ Claimable request key op := by
  obtain ⟨entry, hfind, rfl⟩ := Option.map_eq_some_iff.mp h
  have hmem : entry ∈ eligible db request :=
    List.mem_of_mem_filter (List.mem_of_find?_eq_some hfind)
  obtain ⟨hentry, hclaimable⟩ := List.mem_filter.mp hmem
  obtain ⟨stored, hstored, rfl⟩ := List.mem_map.mp hentry
  exact ⟨stored.2, AList.mem_lookup_iff.mpr hstored, (of_decide_eq_true hclaimable).1⟩

/-- The store once a claim statement is no longer in flight. -/
def Store.finish (s : Store) (statement : ClaimStatement) : Store :=
  { s with statements := s.statements.erase statement }

/-- **What the claiming `UPDATE` does**: either nothing is returned, or the latest version of the
candidate's row is leased -- whatever that version is, as long as its lease is free. -/
lemma claimUpdate_eq_ok {statement : ClaimStatement} {s t : Store} {result : Option Claim}
    (h : Repository.claimUpdate statement s = .ok (result, t)) :
    statement ∈ s.statements ∧
      ((result = none ∧ t = s.finish statement) ∨
        ∃ op row, s.db.operations.lookup statement.candidate = some op ∧
          op.claim statement.request.workerId statement.request.now
            statement.request.leaseUntil = some row ∧
          result = some (row.toClaim statement.candidate statement.request.workerId) ∧
          t = (s.finish statement).putRow statement.candidate
            (.claimed (row.toClaim statement.candidate statement.request.workerId)
              statement.request.now statement.request.leaseUntil) row) := by
  simp only [Repository.claimUpdate, read_bind, require_bind_eq_ok, modify_bind] at h
  obtain ⟨hmem, h⟩ := h
  refine ⟨hmem, ?_⟩
  cases hupdated : (s.db.operations.lookup statement.candidate).bind
      (Operation.claim statement.request.workerId statement.request.now
        statement.request.leaseUntil) with
  | none =>
    rw [hupdated] at h
    cases pure_eq_ok.mp h
    exact .inl ⟨rfl, rfl⟩
  | some row =>
    rw [hupdated] at h
    obtain ⟨op, hop, hclaim⟩ := Option.bind_eq_some_iff.mp hupdated
    obtain ⟨_, _, hcommit, hpure⟩ := bind_eq_ok.mp h
    cases pure_eq_ok.mp hpure
    obtain ⟨row', -, happly, rfl⟩ := commitRow_eq_ok hcommit
    have happly' : RowCommit.apply statement.candidate (some op) _ = some row' := hop ▸ happly
    have hrow' : row' = row := by
      simpa [RowCommit.apply, Operation.toClaim, hclaim, eq_comm] using happly'
    exact .inr ⟨op, row, hop, hclaim, rfl, by rw [hrow']; rfl⟩

end DataGround
