import DataGround.Persistence.Calls

/-!
# Leases are fenced

The first result about whole runs of the store: whatever calls interleave, on whatever clocks,
the claims of one operation row are numbered in strictly increasing order, each is settled at
most once, and a settlement finds the row exactly as the claim left it.

Everything that can happen to the row is in its history (`Store.rowHistory`), and the history is
a run of the row's own machine (`Store.RowsFollow`); the statement is about that run.
-/

namespace DataGround

/-! ### A small run

One published revision with one alias, one invocation of it, and claims of its operation. -/

namespace Scenario

/-- Digests that keep their text, and schemas that accept everything. -/
def env : Environment where
  digestText := id
  digest := id
  schemaCompiles := fun _ => true
  schemaAccepts := fun _ _ => true

/-- A published revision of the reference profile. -/
def revision : ServiceRevision where
  serviceId := "svc"
  state := .published
  runtimeProfile := "reference/v1"
  requiredCapabilities := []
  inputSchema := none
  outputSchema := none
  publishedAt := none
  generation := 1
  version := 1
  updatedAt := 0

/-- One invocation, due at once, with its deadline at 1000. -/
def input : AcceptInvocationInput where
  isolationDomainId := "iso"
  id := "inv"
  serviceId := "svc"
  aliasName := "live"
  input := .null
  deadline := 1000
  actorId := "caller"
  correlationId := "request"
  dispatchTarget := none

/-- The operation of that invocation. -/
def key : OperationKey :=
  input.operationKey env

/-- The invocation is accepted. -/
def accepted : List Call :=
  [.setRevision ⟨"iso", "rev"⟩ revision, .setAlias ⟨"iso", "svc", "live"⟩ ⟨"rev", none⟩,
    .acceptInvocation ⟨0, 0, "audit-0"⟩ input]

/-- A worker asks for any invocation operation at `now`, for thirty units of time. -/
def request (workerId : String) (now : Time) : ClaimRequest where
  kind := .invocation
  isolationDomainId := ""
  serviceId := ""
  revisionId := ""
  runtimeProfile := ""
  workerId := workerId
  now := now
  leaseUntil := now + 30
  operationId := ""
  stateMachineVersion := 0

/-- The `n`-th claim of the operation, returned at `now`. -/
def claim (workerId : String) (n : Nat) (now : Time) (state : State) : Claim where
  key := key
  resourceId := "inv"
  command := .invoke
  observedState := state
  stateMachineVersion := 2
  attempt := n
  leaseOwner := workerId
  fencingToken := n
  deadlineAt := 1000
  leaseExpiresAt := now + 30
  correlationId := "request"
  actorId := "caller"

/-- A worker claims the operation at `now`. -/
def claiming (workerId : String) (now : Time) : List Call :=
  [.claimSnapshot (request workerId now), .claimUpdate ⟨request workerId now, key⟩]

end Scenario

open Scenario

/-! ### The theorem -/

/-- **Claims of one operation are fenced.**  In every store that any interleaving of calls leads
to, for every operation:

* the tokens handed to claims strictly increase from one claim to the next;
* no claim is settled -- by `Advance`, `Fail`, `ScheduleRetry` or the completion of a governed
  publication -- more than once;
* a settlement comes after its claim with nothing but renewals of that lease in between: no other
  claim, no cancellation, no repair and no other settlement of the row; and the row it finds still
  has the command and the observed state that the claim returned. -/
theorem claims_fenced (env : Environment) (calls : List Call) (s : Store)
    (h : Run.run (Store.step env) Store.empty calls = some s) (key : OperationKey) :
    ((claimsOf (s.rowHistory key)).Pairwise fun first later =>
        first.fencingToken < later.fencingToken) ∧
    (∀ claim ∈ claimsOf (s.rowHistory key),
        (settlementsOf (s.rowHistory key)).countP (·.SameGrant claim) ≤ 1) ∧
    ∀ before change after claim, s.rowHistory key = before ++ change :: after →
      change.settles = some claim →
      ∃ first issued now leaseUntil renewals op,
        before = first ++ .claimed issued now leaseUntil :: renewals ∧
        (∀ renewal ∈ renewals, renewal.IsRenewal) ∧ claim.SameGrant issued ∧
        (Run.run (RowLife.step key) .unborn before).map RowLife.row = some (some op) ∧
        op.command = claim.command ∧ op.observedState = claim.observedState := by
  have hrow := Store.run_rowsFollow h key
  refine ⟨RowLife.claims_pairwise_lt hrow, fun claim _ => RowLife.settled_at_most_once hrow claim,
    ?_⟩
  intro before change after claim hsplit hsettles
  rw [hsplit, List.append_cons] at hrow
  obtain ⟨_, hsettled, -⟩ := Run.run_append_eq_some hrow
  exact RowLife.settled_after_claim hsettles hsettled

/-- One worker claims the operation and starts it, a second one claims it and is late: its lease
has run out when it tries again, and a third worker schedules a retry. -/
theorem claims_fenced_three_workers : ∃ s,
    Run.run (Store.step env) Store.empty (accepted ++ claiming "one" 1 ++
      [.advance ⟨2, 2, "audit-1"⟩ (claim "one" 1 1 .queued) .starting none] ++
      claiming "two" 3 ++ claiming "three" 50 ++
      [.scheduleRetry ⟨51, 51, "audit-2"⟩ (claim "three" 3 50 .starting) .retryable
        "RECONCILIATION_RETRY" 60]) = some s ∧
    claimsOf (s.rowHistory key) = [claim "one" 1 1 .queued,
      claim "two" 2 3 .starting, claim "three" 3 50 .starting] ∧
    settlementsOf (s.rowHistory key) = [claim "one" 1 1 .queued,
      claim "three" 3 50 .starting] ∧
    (claimsOf (s.rowHistory key)).Pairwise fun first later =>
      first.fencingToken < later.fencingToken := by
  exact Run.exists_some_of (P := fun s =>
      claimsOf (s.rowHistory key) = [claim "one" 1 1 .queued, claim "two" 2 3 .starting,
        claim "three" 3 50 .starting] ∧
      settlementsOf (s.rowHistory key) = [claim "one" 1 1 .queued, claim "three" 3 50 .starting])
    (by decide +kernel) fun s hs h => ⟨h.1, h.2, (claims_fenced env _ s hs key).1⟩

end DataGround
