import DataGround.Persistence.Calls

/-!
# Properties that every write keeps

What a store owes to the outbox, the audit trail and the journals depends on the calls of
`writeOutboxAndAudit`, `writeInvocationEvent` and `recordDevelopmentPublication` alone; the other
statements of the methods change rows elsewhere.  `KeptByWrites` says that a property of the store
is of this kind, and `KeptByWrites.method` that every call keeps it then.
-/

namespace DataGround

open Transaction

/-- Two stores agree on outbox, audit trail and journals. -/
structure Store.SameTrail (s t : Store) : Prop where
  outbox : t.db.outbox = s.db.outbox
  audit : t.db.audit = s.db.audit
  events : t.db.events = s.db.events
  written : t.written = s.written

/-- The property says something about outbox, audit trail and journals only, and the writes to these
keep it. -/
structure KeptByWrites (env : Environment) (P : Store → Prop) : Prop where
  rows : ∀ s t : Store, s.SameTrail t → P s → P t
  journal : ∀ (s : Store) (event : InvocationEvent), P s →
    P { s with db := { s.db with events := s.db.events ++ [event] } }
  writeOutboxAndAudit : ∀ m write, Keeps P (writeOutboxAndAudit env m write)
  recordDevelopmentPublication : ∀ m input operationId verified,
    Keeps P (recordDevelopmentPublication env m input operationId verified)

namespace KeptByWrites

variable {env : Environment} {P : Store → Prop} (hP : KeptByWrites env P)

include hP

lemma modifyRows {f : Store → Store} (h : ∀ s : Store, s.SameTrail (f s)) :
    Keeps P (modify f : Method Unit) :=
  .modify fun s hs => hP.rows s (f s) (h s) hs

lemma commitRow (key : OperationKey) (change : RowCommit) (error : RepositoryError) :
    Keeps P (commitRow key change error) :=
  .bind .read fun _ => .bind (.require _ _) fun _ => .bind (.demand _ _) fun _ =>
    hP.modifyRows fun _ => ⟨rfl, rfl, rfl, rfl⟩

lemma writeInvocationEvent (key : ResourceKey) (invocation : InvocationRow)
    (eventType actorId : String) (payload : Json) (now : Time) :
    Keeps P (writeInvocationEvent env key invocation eventType actorId payload now) := by
  intro s u t hs h
  simp only [DataGround.writeInvocationEvent, read_bind, require_bind_eq_ok, modify_eq_ok] at h
  obtain ⟨-, heq⟩ := h
  cases heq
  exact hP.journal s _ hs

/-! ### The methods -/

omit hP in
lemma resolveTransition (claim : Claim) (transition : Operation.Transition) :
    Keeps P (resolveTransition env claim transition) := by
  intro s made t hs h
  obtain ⟨rfl, -⟩ := resolveTransition_eq_ok h
  exact hs

lemma updateResourceForTransition (claim : Claim) (transition : Operation.Transition)
    (now : Time) : Keeps P (updateResourceForTransition env claim transition now) := by
  unfold DataGround.updateResourceForTransition
  split
  · split
    · exact hP.modifyRows fun _ => ⟨rfl, rfl, rfl, rfl⟩
    · exact .pure ()
  · split
    · exact .pure ()
    · exact .bind (hP.modifyRows fun _ => ⟨rfl, rfl, rfl, rfl⟩) fun _ =>
        .bind .read fun _ => .bind (.demand _ _) fun _ => hP.writeInvocationEvent _ _ _ _ _ _

lemma advanceTo (m : Moment) (claim : Claim) (transition : Operation.Transition) :
    Keeps P (Repository.advanceTo env m claim transition) :=
  .bind (.require _ _) fun _ => .bind (.require _ _) fun _ =>
    .bind (resolveTransition claim transition) fun _ =>
    .bind (hP.commitRow _ _ _) fun _ =>
    .bind (hP.updateResourceForTransition _ _ _) fun _ => hP.writeOutboxAndAudit _ _

lemma commitRows (change : RowCommit) (keys : List OperationKey) :
    Keeps P (commitRows change keys) := by
  induction keys with
  | nil => exact .pure ()
  | cons _ _ ih => exact .bind (hP.commitRow _ _ _) fun _ => ih

lemma acceptInvocation (m : Moment) (input : AcceptInvocationInput) :
    Keeps P (Repository.acceptInvocation env m input) := by
  refine .bind (.require _ _) fun _ => .bind .read fun s => .bind (.demand _ _) fun found =>
    .bind (.demand _ _) fun revision => .bind (.require _ _) fun _ =>
    .bind (.require _ _) fun _ => ?_
  split
  · exact .fail _
  · exact .bind (.require _ _) fun _ =>
      .bind (hP.modifyRows fun _ => ⟨rfl, rfl, rfl, rfl⟩) fun _ =>
      .bind (.require _ _) fun _ => .bind (hP.commitRow _ _ _) fun _ =>
      .bind (hP.writeOutboxAndAudit _ _) fun _ => hP.writeInvocationEvent _ _ _ _ _ _

lemma acceptPublication (m : Moment) (input : AcceptPublicationInput)
    (supported : String → Bool) :
    Keeps P (Repository.acceptPublication env m input supported) := by
  refine .bind .read fun s => .bind (.demand _ _) fun revision => .bind (.require _ _) fun _ =>
    .bind (.require _ _) fun _ => .bind (.require _ _) fun _ => .bind (.require _ _) fun _ => ?_
  split
  · exact .fail _
  · split
    · exact .require _ _
    · exact .bind (hP.commitRow _ _ _) fun _ => hP.writeOutboxAndAudit _ _

lemma acceptCancellation (m : Moment) (input : AcceptCancellationInput) :
    Keeps P (Repository.acceptCancellation env m input) := by
  refine .bind (.require _ _) fun _ => .bind .read fun s => .bind (.demand _ _) fun invocation => ?_
  split
  · exact .pure ()
  · exact .bind (.require _ _) fun _ =>
      .bind (hP.modifyRows fun _ => ⟨rfl, rfl, rfl, rfl⟩) fun _ =>
      .bind (hP.commitRows _ _) fun _ => .bind (hP.writeOutboxAndAudit _ _) fun _ =>
      hP.writeInvocationEvent _ _ _ _ _ _

lemma repairOperation (m : Moment) (input : RepairInput) :
    Keeps P (Repository.repairOperation env m input) := by
  refine .bind (.require _ _) fun _ => .bind .read fun s => ?_
  dsimp only
  split
  · exact .require _ _
  · exact .bind (hP.modifyRows fun _ => ⟨rfl, rfl, rfl, rfl⟩) fun _ =>
      .bind (.require _ _) fun _ => .bind (hP.commitRow _ _ _) fun _ =>
      hP.writeOutboxAndAudit _ _

lemma queueDevelopmentPublication (m : Moment) (input : DevelopmentPublicationInput)
    (deadline : Time) (version : Nat) :
    Keeps P (Repository.queueDevelopmentPublication env m input deadline version) :=
  .bind (.require _ _) fun _ => .bind .read fun _ => .bind (.demand _ _) fun _ =>
    .bind (.require _ _) fun _ => .bind (.require _ _) fun _ => .bind (.require _ _) fun _ =>
    .bind (.require _ _) fun _ => .bind (hP.commitRow _ _ _) fun _ =>
    hP.writeOutboxAndAudit _ _

lemma completeDevelopmentPublication (m : Moment) (claim : Claim)
    (input : DevelopmentPublicationInput) (verified : VerifiedPublication) (version : Nat) :
    Keeps P (Repository.completeDevelopmentPublication env m claim input verified version) :=
  .bind (.require _ _) fun _ => .bind .read fun _ => .bind (.demand _ _) fun _ =>
    .bind (.require _ _) fun _ => .bind (hP.commitRow _ _ _) fun _ =>
    hP.recordDevelopmentPublication _ _ _ _

lemma publishDevelopmentRevision (m : Moment) (input : DevelopmentPublicationInput)
    (verified : VerifiedPublication) :
    Keeps P (Repository.publishDevelopmentRevision env m input verified) :=
  .bind .read fun _ => .bind (.demand _ _) fun _ => .bind (.require _ _) fun _ =>
    .bind (.require _ _) fun _ => .bind (hP.commitRow _ _ _) fun _ =>
    hP.recordDevelopmentPublication _ _ _ _

/-- **Every call keeps the property.** -/
lemma method (call : Call) : Keeps P (call.method env) := by
  cases call with
  | setRevision | setAlias => exact hP.modifyRows fun _ => ⟨rfl, rfl, rfl, rfl⟩
  | journal event => exact .modify fun s hs => hP.journal s event hs
  | acceptInvocation m input => exact hP.acceptInvocation m input
  | acceptPublication m input => exact hP.acceptPublication m input _
  | queueDevelopmentPublication m input deadline version =>
    exact hP.queueDevelopmentPublication m input deadline version
  | publishDevelopmentRevision m input verified =>
    exact hP.publishDevelopmentRevision m input verified
  | completeDevelopmentPublication m claim input verified version =>
    exact hP.completeDevelopmentPublication m claim input verified version
  | claimSnapshot =>
    refine .bind .read fun s => ?_
    split
    · exact .pure ()
    · exact hP.modifyRows fun _ => ⟨rfl, rfl, rfl, rfl⟩
  | claimUpdate =>
    refine .bind (.bind .read fun s => .bind (.require _ _) fun _ =>
      .bind (hP.modifyRows fun _ => ⟨rfl, rfl, rfl, rfl⟩) fun _ => ?_)
      fun _ => .pure ()
    dsimp only
    split
    · exact .pure none
    · exact .bind (hP.commitRow _ _ _) fun _ => .pure _
  | renewLease =>
    exact .bind (.bind (.require _ _) fun _ => .bind (.require _ _) fun _ =>
      .bind (hP.commitRow _ _ _) fun _ => .bind .read fun _ => .bind (.demand _ _) fun _ =>
      .pure _) fun _ => .pure ()
  | advance m claim =>
    simp only [Call.method, Repository.advance]
    split
    · exact hP.advanceTo m claim _
    · exact hP.advanceTo m claim _
  | fail m claim => exact hP.advanceTo m claim _
  | scheduleRetry =>
    exact .bind (.require _ _) fun _ => .bind (hP.commitRow _ _ _) fun _ =>
      hP.writeOutboxAndAudit _ _
  | acceptCancellation m input => exact hP.acceptCancellation m input
  | repairOperation m input => exact hP.repairOperation m input
  | insertEffect =>
    have hget : ∀ key, Keeps P (Repository.getEffect key) := fun key =>
      .bind .read fun _ => .bind (.demand _ _) fun _ => .bind (.demand _ _) fun _ => .pure _
    exact .bind (.bind (hP.modifyRows fun _ => ⟨rfl, rfl, rfl, rfl⟩)
      fun _ => .bind (hget _) fun _ => .bind (.require _ _) fun _ => .pure _) fun _ => .pure ()
  | recordEffect =>
    exact .bind (.require _ _) fun _ => .bind .read fun _ => .bind (.demand _ _) fun _ =>
      hP.modifyRows fun _ => ⟨rfl, rfl, rfl, rfl⟩

lemma step {s t : Store} {call : Call} (hs : P s) (h : s.step env call = some t) : P t := by
  obtain ⟨u, h⟩ := Store.step_eq_some.mp h
  exact hP.method call s u t hs h

end KeptByWrites

end DataGround
