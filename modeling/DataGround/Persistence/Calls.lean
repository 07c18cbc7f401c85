import DataGround.Persistence.Claim
import DataGround.Persistence.Effect
import DataGround.Persistence.Publication

/-!
# The store under any interleaving of calls

`Store.step` is the transition system of the store: one committed call of one of the methods, or
one of the two parts of a claim statement.  A call that fails commits nothing and is no step.
Transactions are single steps because every row they decide on is locked, or is checked again by
the statement that writes it; `claimNext` is the exception and takes two.

Revisions, aliases and runtime events have writers outside this model; `setRevision`, `setAlias`
and `journal` stand for whatever those may commit.
-/

namespace DataGround

open Transaction

/-- One committed call. -/
inductive Call where
  | setRevision (key : ResourceKey) (revision : ServiceRevision)
  | setAlias (key : AliasKey) (target : ServiceAlias)
  | journal (event : InvocationEvent)
  | acceptInvocation (m : Moment) (input : AcceptInvocationInput)
  | acceptPublication (m : Moment) (input : AcceptPublicationInput) (supported : List String)
  | queueDevelopmentPublication (m : Moment) (input : DevelopmentPublicationInput)
      (deadline : Time) (version : Nat)
  | publishDevelopmentRevision (m : Moment) (input : DevelopmentPublicationInput)
      (verified : VerifiedPublication)
  | completeDevelopmentPublication (m : Moment) (claim : Claim)
      (input : DevelopmentPublicationInput) (verified : VerifiedPublication) (version : Nat)
  | claimSnapshot (request : ClaimRequest)
  | claimUpdate (statement : ClaimStatement)
  | renewLease (m : Moment) (claim : Claim) (leaseUntil : Time)
  | advance (m : Moment) (claim : Claim) (next : State) (result : Option Json)
  | fail (m : Moment) (claim : Claim) (reason : OperationFailureReason)
  | scheduleRetry (m : Moment) (claim : Claim) (classification : ErrorClassification)
      (errorCode : String) (dueAt : Time)
  | acceptCancellation (m : Moment) (input : AcceptCancellationInput)
  | repairOperation (m : Moment) (input : RepairInput)
  | insertEffect (m : Moment) (claim : Claim) (phase : Phase) (requestDigest : String)
  | recordEffect (m : Moment) (key : ResourceKey) (status : EffectStatus)
      (observation : Option Json) (errorCode : String)

/-- The method behind a call. -/
def Call.method (env : Environment) : Call → Method Unit
  | .setRevision key revision => modify fun s =>
    { s with db := { s.db with revisions := s.db.revisions.insert key revision } }
  | .setAlias key target => modify fun s =>
    { s with db := { s.db with aliases := s.db.aliases.insert key target } }
  | .journal event => modify fun s => { s with db := { s.db with events := s.db.events ++ [event] } }
  | .acceptInvocation m input => Repository.acceptInvocation env m input
  | .acceptPublication m input supported =>
    Repository.acceptPublication env m input (supported.contains ·)
  | .queueDevelopmentPublication m input deadline version =>
    Repository.queueDevelopmentPublication env m input deadline version
  | .publishDevelopmentRevision m input verified =>
    Repository.publishDevelopmentRevision env m input verified
  | .completeDevelopmentPublication m claim input verified version =>
    Repository.completeDevelopmentPublication env m claim input verified version
  | .claimSnapshot request => Repository.claimSnapshot request
  | .claimUpdate statement => do
    let _ ← Repository.claimUpdate statement
    pure ()
  | .renewLease m claim leaseUntil => do
    let _ ← Repository.renewLease m claim leaseUntil
    pure ()
  | .advance m claim next result => Repository.advance env m claim next result
  | .fail m claim reason => Repository.fail env m claim reason
  | .scheduleRetry m claim classification errorCode dueAt =>
    Repository.scheduleRetry env m claim classification errorCode dueAt
  | .acceptCancellation m input => Repository.acceptCancellation env m input
  | .repairOperation m input => Repository.repairOperation env m input
  | .insertEffect m claim phase requestDigest => do
    let _ ← Repository.insertEffect env m claim phase requestDigest
    pure ()
  | .recordEffect m key status observation errorCode =>
    Repository.recordEffect m key status observation errorCode

/-- One step of the store. -/
def Store.step (env : Environment) (s : Store) (call : Call) : Option Store :=
  match call.method env s with
  | .ok (_, t) => some t
  | .error _ => none

lemma Store.step_eq_some {env : Environment} {s t : Store} {call : Call} :
    s.step env call = some t ↔ ∃ u, call.method env s = .ok (u, t) := by
  unfold Store.step
  cases call.method env s with
  | error => simp only [reduceCtorEq, exists_false]
  | ok => simp [Prod.ext_iff]

/-! ### What a call did -/

/-- The transition that `Advance` and `Fail` ask for. -/
def Call.asksFor : Call → Option (Moment × Claim × Operation.Transition)
  | .advance m claim next result =>
    some (m, claim, if next = .failed then
        ⟨.failed, none, some (operationFailure .deadline claim.correlationId)⟩
      else ⟨next, result, none⟩)
  | .fail m claim reason =>
    some (m, claim, ⟨.failed, none, some (operationFailure reason claim.correlationId)⟩)
  | _ => none

/-- **What a committed call did**, to everything but outbox, audit trail, journal, inbox,
revisions and aliases. -/
inductive Did (env : Environment) (s : Store) : Call → Store → Prop
  | quiet {call : Call} {t : Store} (core : Store.Core s t) : Did env s call t
  | acceptedInvocation {m : Moment} {input : AcceptInvocationInput} {t : Store}
      (revisionId : String)
      (newInvocation : s.db.invocations.lookup ⟨input.isolationDomainId, input.id⟩ = none)
      (newResource : hasOperation s.db .invocation ⟨input.isolationDomainId, input.id⟩ = false)
      (newOperation : s.db.operations.lookup (input.operationKey env) = none)
      (core : Store.Core ((s.putInvocation ⟨input.isolationDomainId, input.id⟩
          (input.row revisionId (input.operationKey env).id m.now)).putRow
        (input.operationKey env) (.accepted (input.operation m.now)) (input.operation m.now)) t) :
      Did env s (.acceptInvocation m input) t
  | acceptedPublication {call : Call} {t : Store} {domain id : String} {op : Operation}
      (fresh : op.Fresh) (newOperation : s.db.operations.lookup ⟨.publication, domain, id⟩ = none)
      (core : Store.Core (s.putRow ⟨.publication, domain, id⟩ (.accepted op) op) t) :
      Did env s call t
  | completed {m : Moment} {claim : Claim} {input : DevelopmentPublicationInput}
      {verified : VerifiedPublication} {version : Nat} {t : Store} {row : Operation}
      (kind : claim.key.kind = .publication) (issued : (s.life claim.key).Issued claim)
      (update : (RowCommit.completed claim verified.now m.clock
        (input.receipt claim.key.id)).apply claim.key (s.db.operations.lookup claim.key) = some row)
      (core : Store.Core (s.putRow claim.key
        (.completed claim verified.now m.clock (input.receipt claim.key.id)) row) t) :
      Did env s (.completeDevelopmentPublication m claim input verified version) t
  | chosen {request : ClaimRequest} {t : Store} {key : OperationKey} {op : Operation}
      (row : s.db.operations.lookup key = some op) (claimable : Claimable request key op)
      (core : Store.Core { s with statements := s.statements ++ [⟨request, key⟩] } t) :
      Did env s (.claimSnapshot request) t
  | finished {statement : ClaimStatement} {t : Store} (inFlight : statement ∈ s.statements)
      (core : Store.Core (s.finish statement) t) : Did env s (.claimUpdate statement) t
  | claimed {statement : ClaimStatement} {t : Store} {op row : Operation}
      (inFlight : statement ∈ s.statements)
      (found : s.db.operations.lookup statement.candidate = some op)
      (update : op.claim statement.request.workerId statement.request.now
        statement.request.leaseUntil = some row)
      (core : Store.Core ((s.finish statement).putRow statement.candidate
        (.claimed (row.toClaim statement.candidate statement.request.workerId)
          statement.request.now statement.request.leaseUntil) row) t) :
      Did env s (.claimUpdate statement) t
  | renewed {m : Moment} {claim : Claim} {leaseUntil : Time} {t : Store} {row : Operation}
      (issued : (s.life claim.key).Issued claim)
      (update : (RowCommit.renewed claim m.now (min leaseUntil claim.deadlineAt)).apply claim.key
        (s.db.operations.lookup claim.key) = some row)
      (core : Store.Core (s.putRow claim.key
        (.renewed claim m.now (min leaseUntil claim.deadlineAt)) row) t) :
      Did env s (.renewLease m claim leaseUntil) t
  | advanced {call : Call} {m : Moment} {claim : Claim} {transition made : Operation.Transition}
      {t : Store} {row : Operation} (asked : call.asksFor = some (m, claim, transition))
      (allowed : canTransition claim.key.kind claim.observedState transition.next = true)
      (resolved : resolveTransition env claim transition s = .ok (made, s))
      (madeFrom : MadeFrom claim transition made) (issued : (s.life claim.key).Issued claim)
      (update : (RowCommit.advanced claim m.now m.clock made).apply claim.key
        (s.db.operations.lookup claim.key) = some row)
      (core : Store.Core (s.advanced m claim made row) t) : Did env s call t
  | retried {m : Moment} {claim : Claim} {classification : ErrorClassification}
      {errorCode : String} {dueAt : Time} {t : Store} {row : Operation}
      (issued : (s.life claim.key).Issued claim)
      (update : (RowCommit.retried claim m.now classification (retryError claim errorCode)
        dueAt).apply claim.key (s.db.operations.lookup claim.key) = some row)
      (core : Store.Core (s.putRow claim.key
        (.retried claim m.now classification (retryError claim errorCode) dueAt) row) t) :
      Did env s (.scheduleRetry m claim classification errorCode dueAt) t
  | cancelled {m : Moment} {input : AcceptCancellationInput} {t changed : Store}
      {invocation : InvocationRow} (found : s.db.invocations.lookup input.key = some invocation)
      (live : invocation.state ∉ [InvocationState.cancelled, .cancelling, .succeeded, .failed])
      (rows : RowsChanged (input.change m.now) (operationsOf s.db input.key)
        (s.putInvocation input.key (invocation.cancelling m.now)) changed)
      (core : Store.Core changed t) : Did env s (.acceptCancellation m input) t
  | repaired {m : Moment} {input : RepairInput} {t : Store} {row : Operation}
      (update : (input.change m.now).apply input.key (s.db.operations.lookup input.key) = some row)
      (core : Store.Core (s.putRow input.key (input.change m.now) row) t) :
      Did env s (.repairOperation m input) t
  | insertedEffect {m : Moment} {claim : Claim} {phase : Phase} {requestDigest : String}
      {t : Store} (core : Store.Core (s.withEffects (s.db.effects.insertIfAbsent
        (claim.effectKey env phase) (.prepared claim phase requestDigest m.now))) t) :
      Did env s (.insertEffect m claim phase requestDigest) t
  | recordedEffect {m : Moment} {key : ResourceKey} {status : EffectStatus}
      {observation : Option Json} {errorCode : String} {t : Store} {effect : Effect}
      (found : s.db.effects.lookup key = some effect)
      (core : Store.Core (s.withEffects (s.db.effects.insert key
        (effect.record status observation errorCode m.now))) t) :
      Did env s (.recordEffect m key status observation errorCode) t

section

variable {env : Environment} {m : Moment} {s r t : Store} {call : Call} {u : Unit}

/-- A publication is inserted, and what comes behind it writes nothing but outbox, audit trail and
revisions. -/
lemma Did.of_accepted {domain id : String} {op : Operation} {error : RepositoryError}
    (fresh : op.Fresh)
    (hcommit : commitRow ⟨.publication, domain, id⟩ (.accepted op) error s = .ok (u, r))
    (core : Store.Core r t) : Did env s call t := by
  obtain ⟨_, -, happly, rfl⟩ := commitRow_eq_ok hcommit
  obtain ⟨hnone, rfl⟩ := accepted_apply happly
  exact .acceptedPublication fresh hnone core

lemma acceptInvocation_did {input : AcceptInvocationInput}
    (h : Repository.acceptInvocation env m input s = .ok (u, t)) :
    Did env s (.acceptInvocation m input) t := by
  simp only [Repository.acceptInvocation, require_bind_eq_ok, read_bind, demand_bind_eq_ok] at h
  obtain ⟨-, found, -, revision, -, -, -, h⟩ := h
  cases hproblem : validateInvocationInput env revision.inputSchema input.input with
  | some =>
    rw [hproblem] at h
    exact (fail_eq_ok.mp h).elim
  | none =>
    rw [hproblem] at h
    simp only [require_bind_eq_ok, modify_bind] at h
    obtain ⟨hinvocation, hoperation, hrest⟩ := h
    obtain ⟨_, _, hcommit, hrest'⟩ := bind_eq_ok.mp hrest
    obtain ⟨_, -, happly, rfl⟩ := commitRow_eq_ok hcommit
    obtain ⟨hnone, rfl⟩ := accepted_apply happly
    obtain ⟨_, _, hwrite, hevent⟩ := bind_eq_ok.mp hrest'
    exact .acceptedInvocation found.revisionId (AList.lookup_eq_none.mpr hinvocation) hoperation
      hnone ((writeOutboxAndAudit_core hwrite).trans (writeInvocationEvent_core hevent))

lemma acceptPublication_did {input : AcceptPublicationInput} {supported : String → Bool}
    (h : Repository.acceptPublication env m input supported s = .ok (u, t)) : Did env s call t := by
  simp only [Repository.acceptPublication, require_bind_eq_ok, read_bind, demand_bind_eq_ok] at h
  obtain ⟨revision, -, -, -, -, -, h⟩ := h
  cases hproblem : validateRevisionSchemas env revision.inputSchema revision.outputSchema with
  | some =>
    rw [hproblem] at h
    exact (fail_eq_ok.mp h).elim
  | none =>
    rw [hproblem] at h
    by_cases hexists : hasOperation s.db .publication
        ⟨input.isolationDomainId, input.revisionId⟩ = true
    · simp only [hexists, if_true, require_eq_ok] at h
      obtain ⟨-, heq⟩ := h
      cases heq
      exact .quiet (.refl _)
    · simp only [hexists] at h
      obtain ⟨_, _, hcommit, hwrite⟩ := bind_eq_ok.mp h
      exact .of_accepted ⟨rfl, rfl, rfl, rfl, rfl⟩ hcommit (writeOutboxAndAudit_core hwrite)

lemma queueDevelopmentPublication_did {input : DevelopmentPublicationInput} {deadline : Time}
    {version : Nat}
    (h : Repository.queueDevelopmentPublication env m input deadline version s = .ok (u, t)) :
    Did env s call t := by
  simp only [Repository.queueDevelopmentPublication, require_bind_eq_ok, read_bind,
    demand_bind_eq_ok] at h
  obtain ⟨-, _, -, -, -, -, -, hrest⟩ := h
  obtain ⟨_, _, hcommit, hwrite⟩ := bind_eq_ok.mp hrest
  exact .of_accepted ⟨rfl, rfl, rfl, rfl, rfl⟩ hcommit (writeOutboxAndAudit_core hwrite)

lemma publishDevelopmentRevision_did {input : DevelopmentPublicationInput}
    {verified : VerifiedPublication}
    (h : Repository.publishDevelopmentRevision env m input verified s = .ok (u, t)) :
    Did env s call t := by
  simp only [Repository.publishDevelopmentRevision, require_bind_eq_ok, read_bind,
    demand_bind_eq_ok] at h
  obtain ⟨_, -, -, -, hrest⟩ := h
  obtain ⟨_, _, hcommit, hrecord⟩ := bind_eq_ok.mp hrest
  exact .of_accepted ⟨rfl, rfl, rfl, rfl, rfl⟩ hcommit (recordDevelopmentPublication_core hrecord)

lemma claimSnapshot_did {request : ClaimRequest}
    (h : Repository.claimSnapshot request s = .ok (u, t)) : Did env s (.claimSnapshot request) t := by
  simp only [Repository.claimSnapshot, read_bind] at h
  cases hchosen : candidate (eligible s.db request) with
  | none =>
    rw [hchosen] at h
    cases pure_eq_ok.mp h
    exact .quiet (.refl _)
  | some =>
    rw [hchosen] at h
    cases modify_eq_ok.mp h
    obtain ⟨_, hop, hclaimable⟩ := claimable_of_candidate hchosen
    exact .chosen hop hclaimable (.refl _)

lemma renewLease_did {claim result : Claim} {leaseUntil : Time}
    (h : Repository.renewLease m claim leaseUntil s = .ok (result, t)) :
    Did env s (.renewLease m claim leaseUntil) t := by
  simp only [Repository.renewLease, require_bind_eq_ok] at h
  obtain ⟨-, -, h⟩ := h
  obtain ⟨_, _, hcommit, h⟩ := bind_eq_ok.mp h
  obtain ⟨_, hissued, happly, rfl⟩ := commitRow_eq_ok hcommit
  simp only [read_bind, demand_bind_eq_ok, pure_eq_ok] at h
  obtain ⟨_, -, heq⟩ := h
  cases heq
  exact .renewed (hissued claim rfl) happly (.refl _)

lemma advanceTo_did {claim : Claim} {transition : Operation.Transition}
    (asked : call.asksFor = some (m, claim, transition))
    (h : Repository.advanceTo env m claim transition s = .ok (u, t)) : Did env s call t := by
  obtain ⟨_, _, hallowed, hresolved, hmade, hissued, hupdate, hcore⟩ := advanceTo_eq_ok h
  exact .advanced asked hallowed hresolved hmade hissued hupdate hcore

lemma scheduleRetry_did {claim : Claim} {classification : ErrorClassification}
    {errorCode : String} {dueAt : Time}
    (h : Repository.scheduleRetry env m claim classification errorCode dueAt s = .ok (u, t)) :
    Did env s (.scheduleRetry m claim classification errorCode dueAt) t := by
  simp only [Repository.scheduleRetry, require_bind_eq_ok] at h
  obtain ⟨-, hrest⟩ := h
  obtain ⟨_, _, hcommit, hwrite⟩ := bind_eq_ok.mp hrest
  obtain ⟨_, hissued, happly, rfl⟩ := commitRow_eq_ok hcommit
  exact .retried (hissued claim rfl) happly (writeOutboxAndAudit_core hwrite)

lemma acceptCancellation_did {input : AcceptCancellationInput}
    (h : Repository.acceptCancellation env m input s = .ok (u, t)) :
    Did env s (.acceptCancellation m input) t := by
  simp only [Repository.acceptCancellation, require_bind_eq_ok, read_bind, demand_bind_eq_ok] at h
  obtain ⟨-, invocation, hinvocation, h⟩ := h
  by_cases hdone : invocation.state = .cancelled ∨ invocation.state = .cancelling
  · rw [if_pos hdone] at h
    cases pure_eq_ok.mp h
    exact .quiet (.refl _)
  · rw [if_neg hdone] at h
    simp only [require_bind_eq_ok, modify_bind] at h
    obtain ⟨_, hrest⟩ := h
    obtain ⟨_, _, hcommit, hrest'⟩ := bind_eq_ok.mp hrest
    obtain ⟨_, _, hwrite, hevent⟩ := bind_eq_ok.mp hrest'
    refine .cancelled hinvocation ?_ (commitRows_eq_ok (operationsOf_nodup _ _) hcommit)
      ((writeOutboxAndAudit_core hwrite).trans (writeInvocationEvent_core hevent))
    simp only [List.mem_cons, List.not_mem_nil, or_false]
    tauto

lemma repairOperation_did {input : RepairInput}
    (h : Repository.repairOperation env m input s = .ok (u, t)) :
    Did env s (.repairOperation m input) t := by
  simp only [Repository.repairOperation, require_bind_eq_ok, read_bind] at h
  obtain ⟨-, h⟩ := h
  cases hrecord : s.db.inbox.lookup ⟨input.key.isolationDomainId, input.deduplicationId⟩ with
  | some =>
    rw [hrecord] at h
    obtain ⟨-, heq⟩ := require_eq_ok.mp h
    cases heq
    exact .quiet (.refl _)
  | none =>
    rw [hrecord] at h
    simp only [modify_bind, require_bind_eq_ok] at h
    obtain ⟨-, hrest⟩ := h
    obtain ⟨_, _, hcommit, hwrite⟩ := bind_eq_ok.mp hrest
    obtain ⟨_, -, happly, rfl⟩ := commitRow_eq_ok hcommit
    exact .repaired happly { writeOutboxAndAudit_core hwrite with }

theorem Store.step_did (h : s.step env call = some t) : Did env s call t := by
  obtain ⟨_, h⟩ := Store.step_eq_some.mp h
  cases call with
  | setRevision | setAlias | journal =>
    simp only [Call.method, modify_eq_ok] at h
    cases h
    exact .quiet ⟨rfl, rfl, rfl, rfl, rfl⟩
  | acceptInvocation => exact acceptInvocation_did h
  | acceptPublication => exact acceptPublication_did h
  | queueDevelopmentPublication => exact queueDevelopmentPublication_did h
  | publishDevelopmentRevision => exact publishDevelopmentRevision_did h
  | completeDevelopmentPublication =>
    obtain ⟨_, hkind, hissued, hupdate, hcore⟩ := completeDevelopmentPublication_eq_ok h
    exact .completed hkind hissued hupdate hcore
  | claimSnapshot => exact claimSnapshot_did h
  | claimUpdate =>
    obtain ⟨_, h⟩ := forget_eq_ok.mp h
    obtain ⟨hmem, ⟨-, rfl⟩ | ⟨_, row, hop, hupdate, -, rfl⟩⟩ := claimUpdate_eq_ok h
    · exact .finished hmem (.refl _)
    · exact .claimed hmem hop hupdate (.refl _)
  | renewLease =>
    obtain ⟨_, h⟩ := forget_eq_ok.mp h
    exact renewLease_did h
  | advance _ _ next =>
    simp only [Call.method, Repository.advance] at h
    by_cases hfailed : next = .failed
    · rw [if_pos hfailed] at h
      exact advanceTo_did (by simp only [Call.asksFor, if_pos hfailed]) h
    · rw [if_neg hfailed] at h
      exact advanceTo_did (by simp only [Call.asksFor, if_neg hfailed]) h
  | fail => exact advanceTo_did rfl h
  | scheduleRetry => exact scheduleRetry_did h
  | acceptCancellation => exact acceptCancellation_did h
  | repairOperation => exact repairOperation_did h
  | insertEffect =>
    obtain ⟨_, h⟩ := forget_eq_ok.mp h
    obtain ⟨-, -, rfl⟩ := insertEffect_eq_ok h
    exact .insertedEffect (.refl _)
  | recordEffect =>
    obtain ⟨_, hfound, rfl⟩ := recordEffect_eq_ok h
    exact .recordedEffect hfound (.refl _)

end

/-! ### Rows and their history -/

variable {change : RowCommit} {row : Operation}

namespace Store

variable {env : Environment} {s t : Store} {call : Call}

/-- What two stores have in common when no operation row was changed. -/
lemma RowsFollow.of_eq (hs : s.RowsFollow) (hoperations : t.db.operations = s.db.operations)
    (hhistory : t.history = s.history) : t.RowsFollow := by
  intro key
  simp only [life, rowHistory, hoperations, hhistory]
  exact hs key

/-- Changing several rows, none of them for a claim, takes each of them one step on. -/
lemma RowsFollow.rowsChanged (hs : s.RowsFollow) {keys : List OperationKey}
    (hactsFor : change.actsFor = none) (h : RowsChanged change keys s t) : t.RowsFollow := by
  intro key
  by_cases hkey : key ∈ keys
  · obtain ⟨row, happly, hlookup, hhistory⟩ := h.changed key hkey
    have hput : (s.putRow key change row).RowsFollow := hs.putRow (by simp [hactsFor]) happly
    replace hput := hput key
    rw [rowHistory_putRow_self] at hput
    simp only [life, lookup_putRow_self, rowHistory_putRow_self] at hput
    simp only [life, hlookup, hhistory]
    exact hput
  · obtain ⟨hlookup, hhistory⟩ := h.unchanged key hkey
    simp only [life, hlookup, hhistory]
    exact hs key

lemma advanced_operations (s : Store) (m : Moment) (claim : Claim) (made : Operation.Transition)
    (row : Operation) : (s.advanced m claim made row).db.operations =
      (s.putRow claim.key (.advanced claim m.now m.clock made) row).db.operations := by
  simp only [Store.advanced, Database.follow]
  split
  · split <;> rfl
  · split <;> rfl

lemma RowsFollow.advanced (hs : s.RowsFollow) {m : Moment} {claim : Claim}
    {made : Operation.Transition} (hissued : (s.life claim.key).Issued claim)
    (happly : (RowCommit.advanced claim m.now m.clock made).apply claim.key
      (s.db.operations.lookup claim.key) = some row) :
    (s.advanced m claim made row).RowsFollow := by
  have hput : (s.putRow claim.key (.advanced claim m.now m.clock made) row).RowsFollow :=
    hs.putRow (fun c hc => by cases hc; exact hissued) happly
  exact hput.of_eq (s.advanced_operations m claim made row) rfl

lemma RowsFollow.core (hs : s.RowsFollow) (h : Core s t) : t.RowsFollow :=
  hs.of_eq h.operations h.history

lemma RowsFollow.putInvocation (hs : s.RowsFollow) (key : ResourceKey) (row : InvocationRow) :
    (s.putInvocation key row).RowsFollow :=
  hs.of_eq rfl rfl

/-- A row that is accepted where there was none. -/
lemma RowsFollow.accepted (hs : s.RowsFollow) {key : OperationKey} {op : Operation}
    (hfresh : op.Fresh) (hnone : s.db.operations.lookup key = none) :
    (s.putRow key (.accepted op) op).RowsFollow := by
  refine hs.putRow (by simp [RowCommit.actsFor]) ?_
  simp only [hnone, RowCommit.apply, if_pos hfresh]

/-- **Every step keeps the operation table tied to its history.** -/
theorem step_rowsFollow (hs : s.RowsFollow) (h : s.step env call = some t) : t.RowsFollow := by
  cases step_did h with
  | quiet core => exact hs.core core
  | acceptedInvocation _ _ _ newOperation core =>
    exact ((hs.putInvocation _ _).accepted ⟨rfl, rfl, rfl, rfl, rfl⟩ newOperation).core core
  | acceptedPublication fresh newOperation core => exact (hs.accepted fresh newOperation).core core
  | completed _ issued update core | renewed issued update core | retried issued update core =>
    exact (hs.putRow (fun c hc => by cases hc; exact issued) update).core core
  | chosen _ _ core | finished _ core | insertedEffect core | recordedEffect _ core =>
    exact hs.of_eq core.operations core.history
  | @claimed statement _ op _ _ found update core =>
    have hfinish : (s.finish statement).RowsFollow := hs.of_eq rfl rfl
    refine (hfinish.putRow (by simp [RowCommit.actsFor]) ?_).core core
    have hfound : (s.finish statement).db.operations.lookup statement.candidate = some op := found
    rw [hfound]
    simp only [RowCommit.apply, Operation.toClaim, update, if_true]
  | advanced _ _ _ _ issued update core =>
    exact (hs.advanced issued update).core core
  | cancelled _ _ rows core =>
    exact ((hs.putInvocation _ _).rowsChanged rfl rows).core core
  | repaired update core =>
    exact (hs.putRow (by simp [RepairInput.change, RowCommit.actsFor]) update).core core

/-- In every reachable store the operation table is tied to its history. -/
theorem run_rowsFollow {calls : List Call}
    (h : Run.run (Store.step env) Store.empty calls = some s) : s.RowsFollow :=
  Run.run_invariant (P := RowsFollow) (fun _ _ _ hs hstep => step_rowsFollow hs hstep)
    rowsFollow_empty h

end Store

/-! ### One row across a call -/

/-- Whether a change inserts its row. -/
def RowCommit.Inserts : RowCommit → Prop
  | .accepted _ => True
  | _ => False

/-- **What a call can do to the row `op` at `key`.** -/
inductive RowStep (env : Environment) (s : Store) (call : Call) (key : OperationKey)
    (op : Operation) : Operation → Prop
  | same : RowStep env s call key op op
  | claimed {statement : ClaimStatement} {row : Operation} (is : call = .claimUpdate statement)
      (at_key : key = statement.candidate)
      (update : op.claim statement.request.workerId statement.request.now
        statement.request.leaseUntil = some row) : RowStep env s call key op row
  | renewed {m : Moment} {claim : Claim} {leaseUntil : Time} {row : Operation}
      (is : call = .renewLease m claim leaseUntil) (at_key : key = claim.key)
      (update : op.renew claim m.now (min leaseUntil claim.deadlineAt) = some row) :
      RowStep env s call key op row
  | advanced {m : Moment} {claim : Claim} {transition made : Operation.Transition}
      {row : Operation} (asked : call.asksFor = some (m, claim, transition))
      (at_key : key = claim.key)
      (allowed : canTransition claim.key.kind claim.observedState transition.next = true)
      (resolved : resolveTransition env claim transition s = .ok (made, s))
      (madeFrom : MadeFrom claim transition made) (issued : (s.life claim.key).Issued claim)
      (update : op.advance claim m.now m.clock made = some row) : RowStep env s call key op row
  | retried {m : Moment} {claim : Claim} {classification : ErrorClassification}
      {errorCode : String} {dueAt : Time} {row : Operation}
      (is : call = .scheduleRetry m claim classification errorCode dueAt)
      (at_key : key = claim.key)
      (update : op.scheduleRetry claim m.now classification (retryError claim errorCode) dueAt =
        some row) : RowStep env s call key op row
  | completed {m : Moment} {claim : Claim} {input : DevelopmentPublicationInput}
      {verified : VerifiedPublication} {version : Nat} {row : Operation}
      (is : call = .completeDevelopmentPublication m claim input verified version)
      (at_key : key = claim.key) (kind : claim.key.kind = .publication)
      (update : op.completePublication claim verified.now m.clock (input.receipt claim.key.id) =
        some row) : RowStep env s call key op row
  | cancelled {m : Moment} {input : AcceptCancellationInput}
      (is : call = .acceptCancellation m input) (at_key : key ∈ operationsOf s.db input.key) :
      RowStep env s call key op (op.cancel input.actorId input.correlationId m.now)
  | repaired {m : Moment} {input : RepairInput} {row : Operation}
      (is : call = .repairOperation m input) (at_key : key = input.key)
      (update : op.repair input.actorId input.deduplicationId input.newDeadline m.now = some row) :
      RowStep env s call key op row

/-- A call leaves a row as it is, or commits a change of it. -/
lemma RowStep.committed {env : Environment} {s : Store} {call : Call} {key : OperationKey}
    {op row : Operation} (h : RowStep env s call key op row) :
    row = op ∨ ∃ change, RowCommit.Change key (some op) change row := by
  cases h with
  | same => exact .inl rfl
  | claimed _ _ update => exact .inr ⟨.claimed (row.toClaim key _) _ _, .claimed update rfl⟩
  | renewed _ _ update => exact .inr ⟨_, .renewed update⟩
  | advanced _ _ _ _ _ _ update => exact .inr ⟨_, .advanced update⟩
  | retried _ _ update => exact .inr ⟨_, .retried update⟩
  | completed _ _ _ update => exact .inr ⟨_, .completed update⟩
  | cancelled => exact .inr ⟨_, .cancelled⟩
  | repaired _ _ update => exact .inr ⟨_, .repaired update⟩

namespace Store

variable {env : Environment} {s t : Store} {call : Call} {key : OperationKey} {op : Operation}

/-- A row changed by `putRow`, seen from a key that had a row before. -/
lemma lookup_putRow_cases (hop : s.db.operations.lookup key = some op) (k : OperationKey)
    (change : RowCommit) (row : Operation) :
    (key = k ∧ (s.putRow k change row).db.operations.lookup key = some row) ∨
      (s.putRow k change row).db.operations.lookup key = some op := by
  by_cases hk : key = k
  · subst hk
    exact .inl ⟨rfl, lookup_putRow_self s key change row⟩
  · exact .inr ((lookup_putRow_ne s change row hk).trans hop)

/-- An inserted row leaves the others. -/
lemma lookup_putRow_new (hop : s.db.operations.lookup key = some op) {k : OperationKey}
    (hnone : s.db.operations.lookup k = none) :
    (s.putRow k change row).db.operations.lookup key = some op := by
  refine (lookup_putRow_ne s change row ?_).trans hop
  rintro rfl
  cases hnone.symm.trans hop

/-- A change at `k` that the new row `row` comes from, seen from `key`: either it is the change
of this row, or this row stays. -/
lemma row_of_putRow (hop : s.db.operations.lookup key = some op) {k : OperationKey}
    (hupdate : change.apply k (s.db.operations.lookup k) = some row)
    (hoperations : t.db.operations = (s.putRow k change row).db.operations)
    (hstep : key = k → change.apply key (some op) = some row → RowStep env s call key op row) :
    ∃ op', t.db.operations.lookup key = some op' ∧ RowStep env s call key op op' := by
  rw [hoperations]
  obtain ⟨rfl, hrow⟩ | hrow := lookup_putRow_cases hop k change row
  · exact ⟨row, hrow, hstep rfl (hop ▸ hupdate)⟩
  · exact ⟨op, hrow, .same⟩

/-- Every step does one of these to an existing row; in particular no row ever goes away. -/
theorem step_row (h : s.step env call = some t) (hop : s.db.operations.lookup key = some op) :
    ∃ op', t.db.operations.lookup key = some op' ∧ RowStep env s call key op op' := by
  cases step_did h with
  | quiet core | chosen _ _ core | finished _ core | insertedEffect core | recordedEffect _ core =>
    exact ⟨op, core.operations ▸ hop, .same⟩
  | acceptedInvocation _ _ _ newOperation core =>
    exact ⟨op, core.operations ▸ lookup_putRow_new (s := s.putInvocation _ _) hop newOperation, .same⟩
  | acceptedPublication _ newOperation core =>
    exact ⟨op, core.operations ▸ lookup_putRow_new hop newOperation, .same⟩
  | completed kind _ update core =>
    exact row_of_putRow hop update core.operations fun hkey happly =>
      .completed rfl hkey kind (by rw [hkey] at happly; exact happly)
  | @claimed statement _ found' row _ found update core =>
    obtain ⟨rfl, hrow⟩ | hrow := lookup_putRow_cases (s := s.finish statement) hop
      statement.candidate (.claimed (row.toClaim statement.candidate statement.request.workerId)
        statement.request.now statement.request.leaseUntil) row
    · obtain rfl : found' = op := Option.some.inj (found.symm.trans hop)
      exact ⟨row, core.operations ▸ hrow, .claimed rfl rfl update⟩
    · exact ⟨op, core.operations ▸ hrow, .same⟩
  | renewed _ update core =>
    exact row_of_putRow hop update core.operations fun hkey happly => .renewed rfl hkey happly
  | @advanced _ m claim _ made _ row asked allowed resolved madeFrom issued update core =>
    refine row_of_putRow (t := t) hop update ?_ fun hkey happly =>
      .advanced asked hkey allowed resolved madeFrom issued happly
    rw [core.operations]
    exact s.advanced_operations m claim made row
  | retried _ update core =>
    exact row_of_putRow hop update core.operations fun hkey happly => .retried rfl hkey happly
  | @cancelled m input _ changed invocation _ _ rows core =>
    rw [core.operations]
    by_cases hkey : key ∈ operationsOf s.db input.key
    · obtain ⟨_, happly, hrow, -⟩ := rows.changed key hkey
      have hop' : (s.putInvocation input.key (invocation.cancelling m.now)).db.operations.lookup
          key = some op := hop
      rw [hop'] at happly
      cases happly
      exact ⟨_, hrow, .cancelled rfl hkey⟩
    · exact ⟨op, (rows.unchanged key hkey).1.trans hop, .same⟩
  | repaired update core =>
    exact row_of_putRow hop update core.operations fun hkey happly => .repaired rfl hkey happly

/-- A row put at `k`, seen from a key that had none. -/
lemma eq_of_lookup_putRow (hnone : s.db.operations.lookup key = none) {k : OperationKey}
    (hop : (s.putRow k change row).db.operations.lookup key = some op) : key = k ∧ op = row := by
  by_cases hk : key = k
  · subst hk
    rw [lookup_putRow_self] at hop
    exact ⟨rfl, (Option.some.inj hop).symm⟩
  · rw [lookup_putRow_ne s change row hk, hnone] at hop
    cases hop

lemma exists_of_apply (h : change.apply key (s.db.operations.lookup key) = some row)
    (hchange : ¬change.Inserts) :
    ∃ op, s.db.operations.lookup key = some op ∧ change.apply key (some op) = some row := by
  cases hop : s.db.operations.lookup key with
  | none =>
    rw [hop] at h
    cases RowCommit.apply_eq_some h with
    | accepted => exact (hchange trivial).elim
  | some op => exact ⟨op, rfl, hop ▸ h⟩

/-- **A row that a step adds is the one of an accepted command.** -/
theorem step_new_row (h : s.step env call = some t) (hnone : s.db.operations.lookup key = none)
    (hop : t.db.operations.lookup key = some op) :
    key.kind = .publication ∨ ∃ m input, call = .acceptInvocation m input ∧
      key = input.operationKey env ∧ op = input.operation m.now := by
  have hunchanged (hsame : t.db.operations = s.db.operations) : False := by
    rw [hsame, hnone] at hop
    cases hop
  -- An `UPDATE` finds its row, so the row it leaves is none that was added.
  have hupdated {k : OperationKey} {change : RowCommit} {row : Operation}
      (happly : change.apply k (s.db.operations.lookup k) = some row)
      (hoperations : t.db.operations = (s.putRow k change row).db.operations)
      (hchange : ¬change.Inserts) : False := by
    rw [hoperations] at hop
    obtain ⟨rfl, -⟩ := eq_of_lookup_putRow hnone hop
    obtain ⟨_, hfound, -⟩ := exists_of_apply happly hchange
    cases hnone.symm.trans hfound
  cases step_did h with
  | quiet core | chosen _ _ core | finished _ core | insertedEffect core | recordedEffect _ core =>
    exact (hunchanged core.operations).elim
  | @acceptedInvocation m input _ _ _ _ _ core =>
    rw [core.operations] at hop
    obtain ⟨hkey, hrow⟩ := eq_of_lookup_putRow (s := s.putInvocation _ _) hnone hop
    exact .inr ⟨m, input, rfl, hkey, hrow⟩
  | acceptedPublication _ _ core =>
    rw [core.operations] at hop
    obtain ⟨rfl, -⟩ := eq_of_lookup_putRow hnone hop
    exact .inl rfl
  | completed _ _ update core | renewed _ update core | retried _ update core
  | repaired update core => exact (hupdated update core.operations id).elim
  | @claimed statement _ _ _ _ found _ core =>
    rw [core.operations] at hop
    obtain ⟨rfl, -⟩ := eq_of_lookup_putRow (s := s.finish statement) hnone hop
    rw [found] at hnone
    cases hnone
  | advanced _ _ _ _ _ update core =>
    exact (hupdated update (core.operations.trans (s.advanced_operations _ _ _ _)) id).elim
  | @cancelled _ input _ changed _ _ _ rows core =>
    rw [core.operations] at hop
    by_cases hkey : key ∈ operationsOf s.db input.key
    · obtain ⟨_, happly, -⟩ := rows.changed key hkey
      obtain ⟨_, hfound, -⟩ := exists_of_apply (s := s.putInvocation _ _) happly id
      cases hnone.symm.trans hfound
    · rw [(rows.unchanged key hkey).1] at hop
      cases hnone.symm.trans hop

end Store

end DataGround
