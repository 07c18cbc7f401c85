import DataGround.Persistence.Store

/-!
# Fenced transitions

`Advance`, `Fail` and `ScheduleRetry` act for a claim.  A transition first revalidates the
contracts of the revision it is about, which may turn it into a failure; its fenced `UPDATE` then
decides whether the claim still holds the row; the resource, the journal, the outbox and the
audit trail follow in the same transaction.
-/

namespace DataGround

open Transaction

/-! ### The transition that is made -/

inductive OperationFailureReason where
  | deadline
  | effectDenied
  | effectInvalid
  | runtime
  deriving DecidableEq

def operationFailure (reason : OperationFailureReason) (correlationId : String) : APIError :=
  match reason with
  | .deadline =>
    { code := "OPERATION_DEADLINE_EXCEEDED"
      message := "The durable operation deadline was exceeded.", correlationId := correlationId }
  | .effectDenied =>
    { code := "OPERATION_EFFECT_DENIED"
      message := "The operation was denied before its external effect could be applied."
      correlationId := correlationId }
  | .effectInvalid =>
    { code := "OPERATION_EFFECT_INVALID"
      message := "The operation could not safely apply its external effect."
      correlationId := correlationId }
  | .runtime =>
    { code := "OPERATION_RUNTIME_FAILED"
      message := "The runtime completed with a terminal failure."
      correlationId := correlationId }

/-- The refusal of `ValidateTransition`. -/
def transitionRefused (kind : OperationKind) (source target : State) : RepositoryError :=
  .refused ((match kind with
    | .publication => "publication"
    | .invocation => "invocation") ++ " transition \"" ++ source.text ++ "\" -> \"" ++
      target.text ++ "\" is not allowed")

/-- A contract that no longer holds turns the transition into a failure. -/
def failInstead (claim : Claim) (problem : APIError) : Method Operation.Transition := do
  require (canTransition claim.key.kind claim.observedState .failed = true)
    (transitionRefused claim.key.kind claim.observedState .failed)
  pure ⟨.failed, none, some { problem with correlationId := claim.correlationId }⟩

/-- The contracts of a publication, checked again unless it fails or is cancelled. -/
def resolvePublication (env : Environment) (claim : Claim) (transition : Operation.Transition) :
    Method Operation.Transition := do
  if transition.next = .failed ∨ transition.next = .cancelled then
    pure transition
  else do
    let s ← read
    let revision ← demand (s.db.revisions.lookup claim.resource) .noRows
    match validateRevisionSchemas env revision.inputSchema revision.outputSchema with
    | none => pure transition
    | some problem => failInstead claim problem

/-- The output contract of an invocation, checked when it succeeds.  Only the reference profile
exposes its result directly; the others validate before they wrap it. -/
def resolveInvocation (env : Environment) (claim : Claim) (transition : Operation.Transition) :
    Method Operation.Transition := do
  if transition.next ≠ .succeeded then
    pure transition
  else do
    let s ← read
    let op ← demand (s.db.operations.lookup claim.key) (.refused "read invocation output contract")
    require (op.resourceId = claim.resourceId) (.refused "read invocation output contract")
    let invocation ← demand (s.db.invocations.lookup claim.resource)
      (.refused "read invocation output contract")
    let revision ← demand
      (s.db.revisions.lookup ⟨claim.key.isolationDomainId, invocation.revisionId⟩)
      (.refused "read invocation output contract")
    require (revision.serviceId = invocation.serviceId) (.refused "read invocation output contract")
    if revision.runtimeProfile ≠ "reference/v1" then
      pure transition
    else
      match validateInvocationOutput env revision.outputSchema (transition.result.getD .null) with
      | none => pure transition
      | some problem => failInstead claim problem

/-- The transition that `advance` makes. -/
def resolveTransition (env : Environment) (claim : Claim) (transition : Operation.Transition) :
    Method Operation.Transition :=
  match claim.key.kind with
  | .publication => resolvePublication env claim transition
  | .invocation => resolveInvocation env claim transition

/-! ### The resource behind the operation -/

def invocationResourceState : State → Option InvocationState
  | .starting | .running | .observing => some .running
  | .waiting => some .waiting
  | .cancelling => some .cancelling
  | .succeeded => some .succeeded
  | .failed => some .failed
  | .cancelled => some .cancelled
  | _ => none

/-- Whether an invocation in this state is complete. -/
def InvocationState.isComplete : InvocationState → Bool
  | .succeeded | .failed | .cancelled => true
  | _ => false

/-- The `UPDATE` of an invocation that follows its operation. -/
def InvocationRow.follow (state : InvocationState) (transition : Operation.Transition)
    (now : Time) (row : InvocationRow) : InvocationRow :=
  { row with
    state := state, result := transition.result <|> row.result
    error := transition.failure <|> row.error
    completedAt := if state.isComplete then some now else row.completedAt
    generation := row.generation + 1, version := row.version + 1, updatedAt := now }

/-- The `UPDATE` that publishes a draft revision. -/
def ServiceRevision.publish (now : Time) (revision : ServiceRevision) : ServiceRevision :=
  if revision.state = .draft then
    { revision with
      state := .published, publishedAt := some now, generation := revision.generation + 1
      version := revision.version + 1, updatedAt := now }
  else revision

def updateResourceForTransition (env : Environment) (claim : Claim)
    (transition : Operation.Transition) (now : Time) : Method Unit :=
  match claim.key.kind with
  | .publication =>
    if transition.next = .published then
      modify fun s => { s with
        db := { s.db with
          revisions := s.db.revisions.updateAt claim.resource (ServiceRevision.publish now) } }
    else pure ()
  | .invocation =>
    match invocationResourceState transition.next with
    | none => pure ()
    | some state => do
      modify fun s => { s with
        db := { s.db with
          invocations :=
            s.db.invocations.updateAt claim.resource (InvocationRow.follow state transition now) } }
      let s ← read
      let invocation ← demand (s.db.invocations.lookup claim.resource) .noRows
      writeInvocationEvent env claim.resource invocation ("lifecycle." ++ state.text)
        claim.actorId (.ofMembers [("state", .string state.text)]) now

/-! ### The methods -/

def transitionOutcome : State → String
  | .published | .succeeded => "succeeded"
  | .failed => "failed"
  | .cancelled => "cancelled"
  | _ => "accepted"

/-- The outbox and audit arguments of a method that acts for a claim. -/
def Claim.write (claim : Claim) (event outcome : String) : OutboxWrite where
  isolationDomainId := claim.key.isolationDomainId
  resourceType := claim.key.kind.text
  resourceId := claim.key.id
  eventType := claim.key.kind.text ++ "." ++ event
  actorId := claim.actorId
  correlationId := claim.correlationId
  outcome := outcome
  operationId := claim.key.id

/-- The error that `ScheduleRetry` records. -/
def retryError (claim : Claim) (errorCode : String) : APIError where
  code := errorCode
  message := "The operation will be reconciled again."
  correlationId := claim.correlationId
  retryable := true

namespace Repository

/-- `Repository.advance`. -/
def advanceTo (env : Environment) (m : Moment) (claim : Claim)
    (transition : Operation.Transition) : Method Unit := do
  require (canTransition claim.key.kind claim.observedState transition.next = true)
    (transitionRefused claim.key.kind claim.observedState transition.next)
  require (transition.next = .failed ↔ transition.failure.isSome = true)
    (.refused "failed transitions require exactly one bounded failure reason")
  let made ← resolveTransition env claim transition
  commitRow claim.key (.advanced claim m.now m.clock made) .leaseLost
  updateResourceForTransition env claim made m.now
  writeOutboxAndAudit env m (claim.write made.next.text (transitionOutcome made.next))

def fail (env : Environment) (m : Moment) (claim : Claim) (reason : OperationFailureReason) :
    Method Unit :=
  advanceTo env m claim ⟨.failed, none, some (operationFailure reason claim.correlationId)⟩

def advance (env : Environment) (m : Moment) (claim : Claim) (next : State)
    (result : Option Json) : Method Unit :=
  if next = .failed then fail env m claim .deadline
  else advanceTo env m claim ⟨next, result, none⟩

def scheduleRetry (env : Environment) (m : Moment) (claim : Claim)
    (classification : ErrorClassification) (errorCode : String) (dueAt : Time) :
    Method Unit := do
  require (classification = .retryable ∨ classification = .unknown)
    (.refused "classification cannot schedule a retry")
  commitRow claim.key (.retried claim m.now classification (retryError claim errorCode) dueAt)
    .leaseLost
  writeOutboxAndAudit env m (claim.write "retry-scheduled" "accepted")

end Repository

/-! ### Taking a transition apart -/

variable {env : Environment} {m : Moment} {claim : Claim} {s t : Store} {u : Unit}
  {transition made : Operation.Transition}

/-- The transition made is the one asked for, or a failure in its place. -/
def MadeFrom (claim : Claim) (transition made : Operation.Transition) : Prop :=
  made = transition ∨
    (canTransition claim.key.kind claim.observedState .failed = true ∧ made.next = .failed ∧
      made.result = none ∧ made.failure.isSome = true)

lemma failInstead_eq_ok {problem : APIError} (h : failInstead claim problem s = .ok (made, t)) :
    t = s ∧ MadeFrom claim transition made := by
  simp only [failInstead, require_bind_eq_ok, pure_eq_ok] at h
  obtain ⟨hallowed, heq⟩ := h
  cases heq
  exact ⟨rfl, .inr ⟨hallowed, rfl, rfl, rfl⟩⟩

lemma contract_eq_ok {problem : Option APIError} (h : (match problem with
      | none => pure transition
      | some problem => failInstead claim problem : Method Operation.Transition) s =
        .ok (made, t)) :
    t = s ∧ MadeFrom claim transition made := by
  cases problem with
  | none =>
    cases pure_eq_ok.mp h
    exact ⟨rfl, .inl rfl⟩
  | some => exact failInstead_eq_ok h

lemma resolveTransition_eq_ok (h : resolveTransition env claim transition s = .ok (made, t)) :
    t = s ∧ MadeFrom claim transition made := by
  cases hkind : claim.key.kind with
  | publication =>
    simp only [resolveTransition, hkind, resolvePublication] at h
    by_cases hend : transition.next = .failed ∨ transition.next = .cancelled
    · rw [if_pos hend] at h
      cases pure_eq_ok.mp h
      exact ⟨rfl, .inl rfl⟩
    · rw [if_neg hend] at h
      simp only [read_bind, demand_bind_eq_ok] at h
      obtain ⟨revision, -, h⟩ := h
      exact contract_eq_ok h
  | invocation =>
    simp only [resolveTransition, hkind, resolveInvocation] at h
    by_cases hend : transition.next ≠ .succeeded
    · rw [if_pos hend] at h
      cases pure_eq_ok.mp h
      exact ⟨rfl, .inl rfl⟩
    · rw [if_neg hend] at h
      simp only [read_bind, demand_bind_eq_ok, require_bind_eq_ok] at h
      obtain ⟨_, -, -, _, -, revision, -, -, h⟩ := h
      by_cases hprofile : revision.runtimeProfile ≠ "reference/v1"
      · rw [if_pos hprofile] at h
        cases pure_eq_ok.mp h
        exact ⟨rfl, .inl rfl⟩
      · rw [if_neg hprofile] at h
        exact contract_eq_ok h

/-- The resources after a transition. -/
def Database.follow (db : Database) (claim : Claim) (transition : Operation.Transition)
    (now : Time) : Database :=
  match claim.key.kind with
  | .publication =>
    if transition.next = .published then
      { db with
        revisions := db.revisions.updateAt claim.resource (ServiceRevision.publish now) }
    else db
  | .invocation =>
    match invocationResourceState transition.next with
    | none => db
    | some state =>
      { db with
        invocations :=
          db.invocations.updateAt claim.resource (InvocationRow.follow state transition now) }

lemma updateResourceForTransition_core {now : Time}
    (h : updateResourceForTransition env claim transition now s = .ok (u, t)) :
    Store.Core { s with db := s.db.follow claim transition now } t := by
  cases hkind : claim.key.kind with
  | publication =>
    simp only [updateResourceForTransition, hkind] at h
    simp only [Database.follow, hkind]
    by_cases hpublished : transition.next = .published
    · rw [if_pos hpublished] at h ⊢
      cases modify_eq_ok.mp h
      exact .refl _
    · rw [if_neg hpublished] at h ⊢
      cases pure_eq_ok.mp h
      exact .refl _
  | invocation =>
    simp only [updateResourceForTransition, hkind] at h
    simp only [Database.follow, hkind]
    cases hstate : invocationResourceState transition.next with
    | none =>
      rw [hstate] at h
      cases pure_eq_ok.mp h
      exact .refl _
    | some =>
      rw [hstate] at h
      simp only [modify_bind, read_bind, demand_bind_eq_ok] at h
      obtain ⟨_, -, h⟩ := h
      exact writeInvocationEvent_core h

/-- The store after a transition: the changed row, and the resource that follows it. -/
def Store.advanced (s : Store) (m : Moment) (claim : Claim) (made : Operation.Transition)
    (row : Operation) : Store :=
  let changed := s.putRow claim.key (.advanced claim m.now m.clock made) row
  { changed with db := changed.db.follow claim made m.now }

/-- **What a committed `advance` did.** -/
lemma advanceTo_eq_ok (h : Repository.advanceTo env m claim transition s = .ok (u, t)) :
    ∃ made row,
      canTransition claim.key.kind claim.observedState transition.next = true ∧
      resolveTransition env claim transition s = .ok (made, s) ∧
      MadeFrom claim transition made ∧ (s.life claim.key).Issued claim ∧
      (RowCommit.advanced claim m.now m.clock made).apply claim.key
        (s.db.operations.lookup claim.key) = some row ∧
      Store.Core (s.advanced m claim made row) t := by
  simp only [Repository.advanceTo, require_bind_eq_ok] at h
  obtain ⟨hallowed, -, h⟩ := h
  obtain ⟨made, _, hresolve, hrest⟩ := bind_eq_ok.mp h
  obtain ⟨rfl, hmade⟩ := resolveTransition_eq_ok hresolve
  obtain ⟨_, _, hcommit, hrest'⟩ := bind_eq_ok.mp hrest
  obtain ⟨row, hissued, happly, rfl⟩ := commitRow_eq_ok hcommit
  obtain ⟨_, _, hresource, hwrite⟩ := bind_eq_ok.mp hrest'
  exact ⟨made, row, hallowed, hresolve, hmade, hissued claim rfl, happly,
    (updateResourceForTransition_core hresource).trans (writeOutboxAndAudit_core hwrite)⟩

end DataGround
