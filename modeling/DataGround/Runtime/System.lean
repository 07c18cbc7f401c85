import DataGround.Runtime.Quiescence

/-!
# Runtime attempts and workspaces under any interleaving of calls

`RuntimeStore.step` is the transition system of the protocol: one committed call of the store of
operations -- claims, renewals, transitions, cancellations, repairs, effect records, journal events
-- or one committed transaction of the protocol itself.  A transaction is a single step from where
it holds, or checks again, the rows it decides on; the checks of claim and effect before that point
are left out, so that a step may also be taken by a worker that has lost its lease since.

* `RuntimeDid` -- **what a step did**, table by table;
* `RuntimeStore.step_did` -- every step is one of these;
* `begin_isStep`, `finish_isStep` … -- a method that commits undisturbed is the step of that name.
-/

namespace DataGround

open Transaction Repository

/-- One committed call. -/
inductive RuntimeCall where
  | stored (call : Call)
  | bindExecutionPlan (key : ResourceKey) (plan : ExecutionPlan)
  | saveExecution (key : ResourceKey) (execution : ExecutionInstance)
  | bindArtifact (key : ResourceKey) (record : ArtifactRecord)
  | prepareWorkspace (m : Moment) (claim : Claim) (effect : EffectRecord) (expected : ResourceKey)
      (generation : Int)
  | completeWorkspace (m : Moment) (claim : Claim) (effect : EffectRecord)
      (preparation : InvocationWorkspacePreparation) (decision : Option String)
  | beginAttempt (clock : Time) (claim : Claim) (effect : EffectRecord)
  | finishAttempt (m : Moment) (claim : Claim) (effect : EffectRecord) (outcome : AttemptOutcome)
      (result : Members)
  | prepareOutputFailure (m : Moment) (claim : Claim) (effect : EffectRecord) (sequence : Nat)
  | beginQuiescence (m : Moment) (claim : Claim) (record : WorkspaceQuiescence)
  | completeQuiescence (m : Moment) (claim : Claim) (record : WorkspaceQuiescence)

/-! ### Writers outside of the protocol -/

/-- `BindExecutionPlan` for a new plan: a plan is never replaced, and one with a source is bound to
a draft. -/
def bindExecutionPlan (key : ResourceKey) (plan : ExecutionPlan) : RuntimeMethod Unit := do
  let s ← read
  let revision ← demand (s.store.db.revisions.lookup key)
    (.refused "execution plan revision is missing")
  require (plan.workspaceSource ≠ none → revision.state = .draft)
    (.refused "source plan requires a draft revision")
  modify fun s => { s with plans := s.plans.insertIfAbsent key plan }

/-- `SaveExecution` and `UpdateExecutionState`: an operation has one execution, and a terminated
one stays so. -/
def saveExecution (key : ResourceKey) (execution : ExecutionInstance) : RuntimeMethod Unit := do
  let s ← read
  require (∀ found ∈ s.instances.lookup key, execution.id = found.id ∧
    (found.observedState = .terminated → execution.observedState = .terminated))
    (.refused "execution state conflicts")
  modify fun s => { s with instances := s.instances.insert key execution }

/-- The row of `invocation_artifact_objects` that a finalized artifact gets. -/
def bindArtifact (key : ResourceKey) (record : ArtifactRecord) : RuntimeMethod Unit :=
  modify fun s => { s with artifacts := s.artifacts.insertIfAbsent key record }

/-! ### The transition system -/

/-- A method, without its result. -/
def discard {α : Type} (x : RuntimeMethod α) : RuntimeMethod Unit := do
  let _ ← x
  pure ()

lemma discard_eq_ok {α : Type} {x : RuntimeMethod α} {s t : RuntimeStore} {u : Unit} :
    discard x s = .ok (u, t) ↔ ∃ a, x s = .ok (a, t) :=
  forget_eq_ok

/-- The transaction behind a call. -/
def RuntimeCall.method (env : RuntimeEnvironment) : RuntimeCall → RuntimeMethod Unit
  | .stored call => onStore (call.method env.toEnvironment)
  | .bindExecutionPlan key plan => DataGround.bindExecutionPlan key plan
  | .saveExecution key execution => DataGround.saveExecution key execution
  | .bindArtifact key record => DataGround.bindArtifact key record
  | .prepareWorkspace m claim effect expected generation =>
    discard (recordWorkspacePreparation env.toEnvironment m claim effect expected generation)
  | .completeWorkspace m claim effect preparation decision =>
    deliverWorkspaceSource env.toEnvironment m claim effect preparation decision
  | .beginAttempt clock claim effect => do
    require (Writer.validInvocationRuntimeAttempt env.toEnvironment claim effect = true)
      attemptInvalid
    discard (reserveAttempt claim effect clock)
  | .finishAttempt m claim effect outcome result => do
    require (Writer.validInvocationRuntimeAttempt env.toEnvironment claim effect = true)
      attemptInvalid
    discard (settleAttempt env m claim effect outcome result)
  | .prepareOutputFailure m claim effect sequence => do
    require (Writer.validInvocationRuntimeAttempt env.toEnvironment claim effect = true)
      attemptInvalid
    let s ← read
    let op ← demand (s.operation claim.operationKey) .leaseLost
    discard (freezeAttempt env.toEnvironment m claim effect op.resourceId sequence)
  | .beginQuiescence m claim record => recordQuiescence env.toEnvironment m claim record
  | .completeQuiescence m claim record => confirmQuiescence env.toEnvironment m claim record

/-- One step of the protocol. -/
def RuntimeStore.step (env : RuntimeEnvironment) (s : RuntimeStore) (call : RuntimeCall) :
    Option RuntimeStore :=
  match call.method env s with
  | .ok (_, t) => some t
  | .error _ => none

lemma RuntimeStore.step_eq_some {env : RuntimeEnvironment} {s t : RuntimeStore}
    {call : RuntimeCall} :
    s.step env call = some t ↔ ∃ u, call.method env s = .ok (u, t) := by
  unfold RuntimeStore.step
  cases call.method env s with
  | error => simp only [reduceCtorEq, exists_false]
  | ok => simp [Prod.ext_iff]

/-! ### What the transactions did -/

/-- Two states differ only in their stores, which agree on their core and the journals. -/
def RuntimeStore.Framed (s t : RuntimeStore) : Prop :=
  ∃ store, Store.Core s.store store ∧ store.db.events = s.store.db.events ∧
    t = { s with store := store }

lemma RuntimeStore.Framed.refl (s : RuntimeStore) : s.Framed s :=
  ⟨s.store, .refl _, rfl, rfl⟩

lemma onStore_writeOutboxAndAudit_framed {env : Environment} {m : Moment} {write : OutboxWrite}
    {s t : RuntimeStore} {u : Unit} (h : onStore (writeOutboxAndAudit env m write) s = .ok (u, t)) :
    s.Framed t := by
  obtain ⟨_, store, hwrite, heq⟩ := onStore_eq_ok.mp h
  cases heq
  refine ⟨store, writeOutboxAndAudit_core hwrite, ?_, rfl⟩
  simp only [writeOutboxAndAudit, read_bind, require_bind_eq_ok, modify_eq_ok] at hwrite
  obtain ⟨-, heq⟩ := hwrite
  cases heq
  rfl

variable {env : RuntimeEnvironment} {m : Moment} {claim : Claim} {effect : EffectRecord}
  {s t : RuntimeStore} {u : Unit} {clock : Time}

lemma auditIf_framed {env : Environment} {written : Bool} {write : OutboxWrite}
    (h : auditIf env m written write s = .ok (u, t)) : s.Framed t := by
  unfold auditIf at h
  split at h
  · exact onStore_writeOutboxAndAudit_framed h
  · cases pure_eq_ok.mp h
    exact .refl _

/-- What `insertPreparation` did. -/
lemma insertPreparation_eq_ok {key : PreparationKey} {row : WorkspacePreparation} {inserted : Bool}
    (h : insertPreparation clock key row s = .ok (inserted, t)) :
    t = s ∨ (enforceWorkspacePreparation s clock key row = true ∧
      t = { s with preparations := s.preparations.insertIfAbsent key row }) := by
  simp only [insertPreparation, read_bind] at h
  split at h
  · simp only [require_bind_eq_ok, modify_bind, pure_eq_ok] at h
    obtain ⟨henforce, heq⟩ := h
    cases heq
    exact .inr ⟨henforce, rfl⟩
  · cases pure_eq_ok.mp h
    exact .inl rfl

/-- What `updateAttempt` did. -/
lemma updateAttempt_eq_ok {key : ResourceKey} {update : RuntimeAttempt → Option RuntimeAttempt}
    {changed : Bool} (h : updateAttempt key update s = .ok (changed, t)) :
    (changed = false ∧ t = s) ∨ ∃ old row, s.attempts.lookup key = some old ∧
      update old = some row ∧ t = s.putAttempt key row := by
  cases hold : s.attempts.lookup key with
  | none =>
    simp only [updateAttempt, read_bind, hold, pure_eq_ok] at h
    cases h
    exact .inl ⟨rfl, rfl⟩
  | some old =>
    cases hrow : update old with
    | none =>
      simp only [updateAttempt, read_bind, hold, hrow, pure_eq_ok] at h
      cases h
      exact .inl ⟨rfl, rfl⟩
    | some row =>
      simp only [updateAttempt, read_bind, hold, hrow, require_bind_eq_ok, modify_bind,
        pure_eq_ok] at h
      obtain ⟨-, heq⟩ := h
      cases heq
      exact .inr ⟨old, row, rfl, hrow, rfl⟩

/-- The workspace of an operation is prepared for a claim: the preparation under the token of the
claim is completed and names the claim's owner, the effect, the execution and the plan of the
operation. -/
structure RuntimeStore.PreparedFor (s : RuntimeStore) (claim : Claim) (effectId : String)
    (row : WorkspacePreparation) : Prop where
  found : s.preparations.lookup claim.preparationKey = some row
  completed : claim.preparationKey ∈ s.completions
  leaseOwner : row.leaseOwner = claim.leaseOwner
  effect : row.effectId = effectId
  execution : ∃ execution ∈ s.instances.lookup claim.operationKey, row.executionId = execution.id
  plan : ∃ plan ∈ s.plan claim.operationKey, plan.workspaceSource = some row.sourceRecord ∧
    plan.planDigest = row.planDigest

lemma requireWorkspaceCompletion_eq_ok
    (h : requireWorkspaceCompletion claim effect clock s = .ok (u, t))
    (hsource : ∃ plan ∈ s.plan claim.operationKey, plan.workspaceSource ≠ none) :
    ∃ row, s.PreparedFor claim effect.key.id row := by
  simp only [requireWorkspaceCompletion, read_bind, demand_bind_eq_ok, if_pos hsource] at h
  obtain ⟨_, -, _, -, h⟩ := h
  simp only [verifyWorkspaceCompletion, read_bind, require_bind_eq_ok,
    (readOnly_lockWorkspaceExecution _ _).bind_eq_ok, demand_bind_eq_ok] at h
  obtain ⟨-, ⟨_, _⟩, hlocked, row, hrow, hcompleted, hverify⟩ := h
  have hlocked := lockWorkspaceExecution_eq_ok hlocked
  obtain ⟨_, hrow', hsourceRecord, howner, heffect, hexecution, hdigest⟩ :=
    verifyWorkspacePreparation_eq_ok hverify
  cases hrow.symm.trans hrow'
  obtain ⟨execution, hfound, hcurrent⟩ := hlocked.execution
  obtain ⟨plan, hplan, hplanSource, hplanDigest⟩ := hlocked.plan
  refine ⟨row, hrow, hcompleted, howner, heffect, ⟨execution, hfound, ?_⟩, plan, hplan, ?_, ?_⟩
  · rw [hexecution]
    exact congrArg ResourceKey.id hcurrent
  · rw [hplanSource, hsourceRecord]
  · rw [hplanDigest, hdigest]

/-- What `PrepareInvocationRuntimeOutputFailure` found and wrote. -/
structure Froze (env : Environment) (s : RuntimeStore) (claim : Claim) (effect : EffectRecord)
    (invocationId : String) (sequence : Nat) (old row : RuntimeAttempt)
    (failure : OutputFailure) : Prop where
  found : s.attempts.lookup claim.operationKey = some old
  nonzero : sequence ≠ 0
  small : sequence < 2 ^ 63
  artifact : ∃ event content, s.store.db.runtimeEvent ⟨claim.key.isolationDomainId, invocationId⟩
      sequence = some event ∧
    outputArtifact env claim effect invocationId sequence event s =
      .ok ((failure.record, content), s)
  result : failure.result = outputFailureResult sequence failure.record
  update : old.freeze claim effect.key.id failure.result = some row

/-- **What a committed call did.** -/
inductive RuntimeDid (env : RuntimeEnvironment) (s : RuntimeStore) :
    RuntimeCall → RuntimeStore → Prop
  | stored {call : Call} {store : Store} (step : s.store.step env.toEnvironment call = some store) :
      RuntimeDid env s (.stored call) { s with store := store }
  | boundPlan {key : ResourceKey} {plan : ExecutionPlan} :
      RuntimeDid env s (.bindExecutionPlan key plan)
        { s with plans := s.plans.insertIfAbsent key plan }
  | savedExecution {key : ResourceKey} {execution : ExecutionInstance}
      (same : ∀ found ∈ s.instances.lookup key, execution.id = found.id) :
      RuntimeDid env s (.saveExecution key execution)
        { s with instances := s.instances.insert key execution }
  | boundArtifact {key : ResourceKey} {record : ArtifactRecord} :
      RuntimeDid env s (.bindArtifact key record)
        { s with artifacts := s.artifacts.insertIfAbsent key record }
  | prepared {m : Moment} {claim : Claim} {effect : EffectRecord} {expected : ResourceKey}
      {generation : Int} {row : WorkspacePreparation} {r t : RuntimeStore}
      (noAttempt : claim.operationKey ∉ s.attempts)
      (change : r = s ∨ (enforceWorkspacePreparation s m.clock claim.preparationKey row = true ∧
        r = { s with preparations := s.preparations.insertIfAbsent claim.preparationKey row }))
      (framed : r.Framed t) :
      RuntimeDid env s (.prepareWorkspace m claim effect expected generation) t
  | completed {m : Moment} {claim : Claim} {effect : EffectRecord}
      {preparation : InvocationWorkspacePreparation} {decision : Option String}
      {decisionId : String} {row : WorkspacePreparation} {t : RuntimeStore}
      (noAttempt : claim.operationKey ∉ s.attempts)
      (found : s.preparations.lookup claim.preparationKey = some row)
      (leaseOwner : row.leaseOwner = claim.leaseOwner) (ofEffect : row.effectId = effect.key.id)
      (framed : RuntimeStore.Framed { s with
        completions := s.completions.insertIfAbsent claim.preparationKey decisionId } t) :
      RuntimeDid env s (.completeWorkspace m claim effect preparation decision) t
  | reserved {clock : Time} {claim : Claim} {effect : EffectRecord}
      (valid : Writer.validInvocationRuntimeAttempt env.toEnvironment claim effect = true)
      (noAttempt : claim.operationKey ∉ s.attempts)
      (prepared : (∃ plan ∈ s.plan claim.operationKey, plan.workspaceSource ≠ none) →
        ∃ row, s.PreparedFor claim effect.key.id row) :
      RuntimeDid env s (.beginAttempt clock claim effect)
        (s.putAttempt claim.operationKey (.reservedBy claim effect.key.id))
  | replayed {m : Moment} {claim : Claim} {effect : EffectRecord} {outcome : AttemptOutcome}
      {result : Members} : RuntimeDid env s (.finishAttempt m claim effect outcome result) s
  | finished {m : Moment} {claim : Claim} {effect : EffectRecord} {outcome : AttemptOutcome}
      {result : Members} {old row : RuntimeAttempt}
      (found : s.attempts.lookup claim.operationKey = some old)
      (update : old.finish claim effect.key.id outcome result
        (artifactRetained s claim.operationKey effect.key.id result) = some row) :
      RuntimeDid env s (.finishAttempt m claim effect outcome result)
        (s.putAttempt claim.operationKey row)
  | froze {m : Moment} {claim : Claim} {effect : EffectRecord} {sequence frozen : Nat}
      {op : Operation} {old row : RuntimeAttempt} {failure : OutputFailure}
      (valid : Writer.validInvocationRuntimeAttempt env.toEnvironment claim effect = true)
      (operation : s.operation claim.operationKey = some op)
      (frozen : Froze env.toEnvironment s claim effect op.resourceId frozen old row failure) :
      RuntimeDid env s (.prepareOutputFailure m claim effect sequence)
        (s.putAttempt claim.operationKey row)
  | intended {m : Moment} {claim : Claim} {record : WorkspaceQuiescence} {expires : Time}
      {t : RuntimeStore}
      (locked : lockWorkspaceQuiescenceClaim s m.clock claim.operationKey claim.leaseOwner
        claim.fencingToken claim.actorId claim.correlationId record = some expires)
      (framed : RuntimeStore.Framed { s with
        intents := s.intents.insertIfAbsent claim.operationKey record } t) :
      RuntimeDid env s (.beginQuiescence m claim record) t
  | reconfirmed {m : Moment} {claim : Claim} {record : WorkspaceQuiescence} :
      RuntimeDid env s (.completeQuiescence m claim record) s
  | confirmed {m : Moment} {claim : Claim} {record intent : WorkspaceQuiescence} {expires : Time}
      {t : RuntimeStore} (found : s.intents.lookup claim.operationKey = some intent)
      (locked : lockWorkspaceQuiescenceClaim s m.clock claim.operationKey intent.runtimeOwner
        intent.runtimeToken claim.actorId claim.correlationId intent = some expires)
      (framed : RuntimeStore.Framed { s with
        confirmations :=
          s.confirmations.insert claim.operationKey (claim.actorId, claim.correlationId) } t) :
      RuntimeDid env s (.completeQuiescence m claim record) t

variable {attempt : RuntimeAttempt}

lemma reserveAttempt_did
    (hvalid : Writer.validInvocationRuntimeAttempt env.toEnvironment claim effect = true)
    (h : reserveAttempt claim effect clock s = .ok (attempt, t)) :
    RuntimeDid env s (.beginAttempt clock claim effect) t := by
  simp only [reserveAttempt, (readOnly_requireWorkspaceCompletion _ _ _).bind_eq_ok] at h
  obtain ⟨_, hcompletion, h⟩ := h
  obtain ⟨_, r, hinsert, h⟩ := bind_eq_ok.mp h
  obtain ⟨_, r', hget, h⟩ := bind_eq_ok.mp h
  simp only [require_bind_eq_ok, pure_eq_ok] at h
  obtain ⟨-, rfl, heq⟩ := h
  have hread : r' = r := by
    simp only [getInvocationRuntimeAttempt, read_bind, demand_bind_eq_ok, require_bind_eq_ok,
      pure_eq_ok] at hget
    obtain ⟨_, -, _, -, -, heq⟩ := hget
    cases heq
    rfl
  cases heq
  simp only [insertAttempt, read_bind, require_bind_eq_ok] at hinsert
  obtain ⟨-, hinsert⟩ := hinsert
  split at hinsert
  · rename_i hfree
    simp only [modify_bind, pure_eq_ok] at hinsert
    cases hinsert
    exact hread ▸ .reserved hvalid hfree.1 (requireWorkspaceCompletion_eq_ok hcompletion)
  · cases pure_eq_ok.mp hinsert

/-- `finishInvocationRuntimeAttempt` did nothing, or one `UPDATE` for a live claim. -/
lemma settleAttempt_did {outcome : AttemptOutcome} {result : Members}
    (h : settleAttempt env m claim effect outcome result s = .ok (attempt, t)) :
    RuntimeDid env s (.finishAttempt m claim effect outcome result) t := by
  simp only [settleAttempt, (readOnly_checkArtifactResult _ _ _ _).bind_eq_ok, read_bind] at h
  obtain ⟨_, -, h⟩ := h
  obtain ⟨_, _, hupdate, h⟩ := bind_eq_ok.mp h
  simp only [(readOnly_getInvocationRuntimeAttempt _).bind_eq_ok, require_bind_eq_ok,
    pure_eq_ok] at h
  obtain ⟨_, -, -, -, -, heq⟩ := h
  cases heq
  obtain ⟨-, rfl⟩ | ⟨old, row, hold, hrow, rfl⟩ := updateAttempt_eq_ok hupdate
  · exact .replayed
  · split at hrow
    · exact .finished hold hrow
    · cases hrow

lemma frozenSequence_ne_zero {sequence frozen : Nat}
    (h : frozenSequence claim attempt sequence = .ok frozen) : frozen ≠ 0 := by
  unfold frozenSequence at h
  split at h
  · split at h
    · cases h
    · rename_i hne
      cases h
      exact fun hzero => hne (.inl hzero)
  · split at h
    · cases h
    · split at h
      · cases h
      · split at h
        · cases h
        · rename_i hne
          cases h
          exact fun hzero => hne (.inl hzero)
  · cases h
  · cases h

lemma freezeAttempt_did {op : Operation} {sequence : Nat} {failure : OutputFailure}
    (hvalid : Writer.validInvocationRuntimeAttempt env.toEnvironment claim effect = true)
    (hop : s.operation claim.operationKey = some op)
    (h : freezeAttempt env.toEnvironment m claim effect op.resourceId sequence s = .ok (failure, t)) :
    RuntimeDid env s (.prepareOutputFailure m claim effect sequence) t := by
  simp only [freezeAttempt, (readOnly_getInvocationRuntimeAttempt _).bind_eq_ok,
    require_bind_eq_ok, ofExcept_bind_eq_ok, read_bind, demand_bind_eq_ok,
    (readOnly_outputArtifact _ _ _ _ _ _).bind_eq_ok] at h
  obtain ⟨_, -, -, frozen, hfrozen, hsmall, event, hevent, ⟨_, content⟩, hartifact, -, h⟩ := h
  obtain ⟨_, _, hupdate, h⟩ := bind_eq_ok.mp h
  simp only [require_bind_eq_ok, pure_eq_ok] at h
  obtain ⟨hchanged, heq⟩ := h
  obtain ⟨hfailure, rfl⟩ := Prod.mk.inj heq
  obtain ⟨hfalse, -⟩ | ⟨old, row, hold, hrow, rfl⟩ := updateAttempt_eq_ok hupdate
  · cases hfalse.symm.trans hchanged
  · split at hrow
    · refine .froze hvalid hop (?_ : Froze _ _ _ _ _ frozen old row failure)
      subst hfailure
      exact ⟨hold, frozenSequence_ne_zero hfrozen, hsmall, ⟨event, content, hevent, hartifact⟩, rfl,
        hrow⟩
    · cases hrow

variable {preparation : InvocationWorkspacePreparation}

lemma recordWorkspacePreparation_did {expected : ResourceKey} {generation : Int}
    (h : recordWorkspacePreparation env.toEnvironment m claim effect expected generation s =
      .ok (preparation, t)) :
    RuntimeDid env s (.prepareWorkspace m claim effect expected generation) t := by
  simp only [recordWorkspacePreparation, (readOnly_lockWorkspaceExecution _ _).bind_eq_ok] at h
  obtain ⟨⟨_, _⟩, hlocked, h⟩ := h
  simp only [require_bind_eq_ok] at h
  obtain ⟨-, h⟩ := h
  obtain ⟨_, r, hinsert, h⟩ := bind_eq_ok.mp h
  simp only [(readOnly_verifyWorkspacePreparation _ _ _).bind_eq_ok] at h
  obtain ⟨_, -, h⟩ := h
  obtain ⟨_, _, haudit, hpure⟩ := bind_eq_ok.mp h
  cases pure_eq_ok.mp hpure
  exact .prepared (lockWorkspaceExecution_eq_ok hlocked).noAttempt (insertPreparation_eq_ok hinsert)
    (auditIf_framed haudit)

lemma deliverWorkspaceSource_did {decision : Option String}
    (h : deliverWorkspaceSource env.toEnvironment m claim effect preparation decision s =
      .ok (u, t)) :
    RuntimeDid env s (.completeWorkspace m claim effect preparation decision) t := by
  simp only [deliverWorkspaceSource, (readOnly_lockWorkspaceExecution _ _).bind_eq_ok] at h
  obtain ⟨⟨_, _⟩, hlocked, h⟩ := h
  simp only [require_bind_eq_ok, (readOnly_verifyWorkspacePreparation _ _ _).bind_eq_ok,
    demand_bind_eq_ok] at h
  obtain ⟨-, _, hverify, _, -, h⟩ := h
  obtain ⟨_, hrow, -, howner, heffect, -⟩ := verifyWorkspacePreparation_eq_ok hverify
  simp only [recordWorkspaceCompletion, read_bind, require_bind_eq_ok, modify_bind] at h
  obtain ⟨-, -, haudit⟩ := h
  exact .completed (lockWorkspaceExecution_eq_ok hlocked).noAttempt hrow howner heffect
    (auditIf_framed haudit)

variable {record : WorkspaceQuiescence}

lemma lockWorkspaceQuiescence_eq_ok {expires : Time}
    (h : lockWorkspaceQuiescence claim record clock s = .ok (expires, t)) :
    t = s ∧ lockWorkspaceQuiescenceClaim s clock claim.operationKey claim.leaseOwner
      claim.fencingToken claim.actorId claim.correlationId record = some expires := by
  simp only [lockWorkspaceQuiescence, read_bind, demand_eq_ok] at h
  obtain ⟨_, hlocked, heq⟩ := h
  cases heq
  exact ⟨rfl, hlocked⟩

lemma readOnly_readWorkspaceQuiescence (key : ResourceKey) :
    ReadOnly (readWorkspaceQuiescence key) := by
  refine .bind .read fun s => ?_
  cases s.intents.lookup key with
  | none => exact .pure _
  | some => exact .bind (.require _ _) fun _ => .pure _

lemma recordQuiescence_did (h : recordQuiescence env.toEnvironment m claim record s = .ok (u, t)) :
    RuntimeDid env s (.beginQuiescence m claim record) t := by
  unfold recordQuiescence at h
  obtain ⟨_, _, hlock, hrest⟩ := bind_eq_ok.mp h
  obtain ⟨rfl, hlocked⟩ := lockWorkspaceQuiescence_eq_ok hlock
  simp only [read_bind, modify_bind, (readOnly_readWorkspaceQuiescence _).bind_eq_ok,
    require_bind_eq_ok] at hrest
  obtain ⟨_, -, -, haudit⟩ := hrest
  exact .intended hlocked (auditIf_framed haudit)

/-- `CompleteInvocationWorkspaceQuiescence` confirmed the intent that is there. -/
lemma confirmQuiescence_did
    (h : confirmQuiescence env.toEnvironment m claim record s = .ok (u, t)) :
    RuntimeDid env s (.completeQuiescence m claim record) t := by
  unfold confirmQuiescence at h
  obtain ⟨_, _, hlock, hrest⟩ := bind_eq_ok.mp h
  obtain ⟨rfl, -⟩ := lockWorkspaceQuiescence_eq_ok hlock
  simp only [read_bind] at hrest
  split at hrest
  · cases pure_eq_ok.mp hrest
    exact .reconfirmed
  · simp only [demand_bind_eq_ok, modify_bind] at hrest
    obtain ⟨_, hintent, _, hlocked, haudit⟩ := hrest
    exact .confirmed hintent hlocked (onStore_writeOutboxAndAudit_framed haudit)

theorem RuntimeStore.step_did {call : RuntimeCall} (h : s.step env call = some t) :
    RuntimeDid env s call t := by
  obtain ⟨_, h⟩ := RuntimeStore.step_eq_some.mp h
  cases call with
  | stored =>
    obtain ⟨_, _, hcall, heq⟩ := onStore_eq_ok.mp h
    cases heq
    exact .stored (Store.step_eq_some.mpr ⟨_, hcall⟩)
  | bindExecutionPlan =>
    simp only [RuntimeCall.method, DataGround.bindExecutionPlan, read_bind, demand_bind_eq_ok,
      require_bind_eq_ok, modify_eq_ok] at h
    obtain ⟨_, -, -, heq⟩ := h
    cases heq
    exact .boundPlan
  | saveExecution =>
    simp only [RuntimeCall.method, DataGround.saveExecution, read_bind, require_bind_eq_ok,
      modify_eq_ok] at h
    obtain ⟨hsame, heq⟩ := h
    cases heq
    exact .savedExecution fun found hfound => (hsame found hfound).1
  | bindArtifact =>
    simp only [RuntimeCall.method, DataGround.bindArtifact, modify_eq_ok] at h
    cases h
    exact .boundArtifact
  | prepareWorkspace =>
    obtain ⟨_, h⟩ := discard_eq_ok.mp h
    exact recordWorkspacePreparation_did h
  | completeWorkspace => exact deliverWorkspaceSource_did h
  | beginAttempt =>
    simp only [RuntimeCall.method, require_bind_eq_ok] at h
    obtain ⟨hvalid, h⟩ := h
    obtain ⟨_, h⟩ := discard_eq_ok.mp h
    exact reserveAttempt_did hvalid h
  | finishAttempt =>
    simp only [RuntimeCall.method, require_bind_eq_ok] at h
    obtain ⟨-, h⟩ := h
    obtain ⟨_, h⟩ := discard_eq_ok.mp h
    exact settleAttempt_did h
  | prepareOutputFailure =>
    simp only [RuntimeCall.method, require_bind_eq_ok, read_bind, demand_bind_eq_ok] at h
    obtain ⟨hvalid, _, hop, h⟩ := h
    obtain ⟨_, h⟩ := discard_eq_ok.mp h
    exact freezeAttempt_did hvalid hop h
  | beginQuiescence => exact recordQuiescence_did h
  | completeQuiescence => exact confirmQuiescence_did h

/-! ### Methods are steps -/

lemma lockInvocationRuntimeClaim_eq_ok {now : Time} {invocationId : String}
    (h : lockInvocationRuntimeClaim claim now s = .ok (invocationId, t)) :
    ∃ op, s.operation claim.operationKey = some op ∧ invocationId = op.resourceId := by
  simp only [lockInvocationRuntimeClaim, require_bind_eq_ok, read_bind, demand_bind_eq_ok,
    pure_eq_ok] at h
  obtain ⟨-, op, hop, _, -, -, heq⟩ := h
  cases heq
  exact ⟨op, hop, rfl⟩

lemma begin_isStep
    (h : beginInvocationRuntimeAttempt env.toEnvironment m claim effect s = .ok (attempt, t)) :
    s.step env (.beginAttempt m.clock claim effect) = some t := by
  simp only [beginInvocationRuntimeAttempt, require_bind_eq_ok,
    (readOnly_lockInvocationRuntimeClaim _ _).bind_eq_ok,
    (readOnly_verifyInvocationRuntimeEffect _).bind_eq_ok] at h
  obtain ⟨hvalid, _, -, _, -, h⟩ := h
  exact RuntimeStore.step_eq_some.mpr
    ⟨(), require_bind_eq_ok.mpr ⟨hvalid, discard_eq_ok.mpr ⟨attempt, h⟩⟩⟩

lemma finish_isStep {outcome : AttemptOutcome} {result : Members}
    (h : finishInvocationRuntimeAttempt env m claim effect outcome (some result) s = .ok (attempt, t)) :
    s.step env (.finishAttempt m claim effect outcome result) = some t := by
  simp only [finishInvocationRuntimeAttempt, require_bind_eq_ok, demand_bind_eq_ok,
    Option.some.injEq, exists_eq_left', (readOnly_lockInvocationRuntimeClaim _ _).bind_eq_ok,
    (readOnly_verifyInvocationRuntimeEffect _).bind_eq_ok] at h
  obtain ⟨hvalid, -, _, -, _, -, h⟩ := h
  exact RuntimeStore.step_eq_some.mpr
    ⟨(), require_bind_eq_ok.mpr ⟨hvalid, discard_eq_ok.mpr ⟨attempt, h⟩⟩⟩

lemma prepareOutputFailure_isStep {sequence : Nat} {failure : OutputFailure}
    (h : prepareInvocationRuntimeOutputFailure env.toEnvironment m claim effect sequence s =
      .ok (failure, t)) :
    s.step env (.prepareOutputFailure m claim effect sequence) = some t := by
  simp only [prepareInvocationRuntimeOutputFailure, require_bind_eq_ok,
    (readOnly_lockInvocationRuntimeClaim _ _).bind_eq_ok,
    (readOnly_verifyInvocationRuntimeEffect _).bind_eq_ok] at h
  obtain ⟨hvalid, _, hlocked, _, -, h⟩ := h
  obtain ⟨op, hop, rfl⟩ := lockInvocationRuntimeClaim_eq_ok hlocked
  exact RuntimeStore.step_eq_some.mpr ⟨(), require_bind_eq_ok.mpr ⟨hvalid,
    demand_bind_eq_ok.mpr ⟨op, hop, discard_eq_ok.mpr ⟨failure, h⟩⟩⟩⟩

lemma readOnly_checkWorkspaceClaim (env : Environment) (claim : Claim) (effect : EffectRecord)
    (clock : Time) : ReadOnly (checkWorkspaceClaim env claim effect clock) :=
  .bind (.require _ _) fun _ => .bind (readOnly_lockInvocationRuntimeClaim _ _) fun _ =>
    .bind (.require _ _) fun _ => readOnly_verifyInvocationRuntimeEffect _

lemma beginPreparation_isStep {expected : ResourceKey} {generation : Int}
    (h : beginInvocationWorkspacePreparation env.toEnvironment m claim effect expected generation s =
      .ok (preparation, t)) :
    s.step env (.prepareWorkspace m claim effect expected generation) = some t := by
  simp only [beginInvocationWorkspacePreparation, require_bind_eq_ok,
    (readOnly_checkWorkspaceClaim _ _ _ _).bind_eq_ok] at h
  obtain ⟨-, _, -, h⟩ := h
  exact RuntimeStore.step_eq_some.mpr ⟨(), discard_eq_ok.mpr ⟨preparation, h⟩⟩

lemma completePreparation_isStep {receipt : WorkspaceReceipt} {decision : Option String}
    (h : completeInvocationWorkspacePreparation env.toEnvironment m claim effect preparation receipt
      decision s = .ok (u, t)) :
    s.step env (.completeWorkspace m claim effect preparation decision) = some t := by
  simp only [completeInvocationWorkspacePreparation, require_bind_eq_ok,
    (readOnly_checkWorkspaceClaim _ _ _ _).bind_eq_ok] at h
  obtain ⟨-, _, -, h⟩ := h
  exact RuntimeStore.step_eq_some.mpr ⟨u, h⟩

end DataGround
