import DataGround.Persistence.Columns
import DataGround.Reconcile.Effects

/-!
# The order of the effects of an invocation

The reconciler takes an invocation from effect to effect: it is started, then run, and may be
cancelled.  No table says in which order; it follows from which state each effect is applied in and
which record a worker has written before it asks for the next state.
-/

namespace DataGround

open Reconciler

/-- What is known about effects: the observations with which they have been recorded as succeeded,
and those that drivers have returned from `Observe` and from `Apply`.  It only grows. -/
structure Known where
  (recorded observed applied : ResourceKey → Option Json → Prop)

/-- What is known later. -/
structure Known.Within (known later : Known) : Prop where
  recorded : known.recorded ≤ later.recorded
  observed : known.observed ≤ later.observed
  applied : known.applied ≤ later.applied

lemma Known.Within.refl (known : Known) : known.Within known :=
  ⟨le_rfl, le_rfl, le_rfl⟩

lemma Known.Within.trans {known later last : Known} (h : known.Within later)
    (h' : later.Within last) : known.Within last :=
  ⟨h.recorded.trans h'.recorded, h.observed.trans h'.observed, h.applied.trans h'.applied⟩

/-- How a result is read from a record: it is what `getEffect` decodes, or what a driver has just
observed and the worker recorded. -/
inductive ReadFrom (observed : Option Json → Prop) : Option Json → Option Json → Prop
  | observed {observation : Option Json} (h : observed observation) :
      ReadFrom observed observation observation
  | absent : ReadFrom observed none none
  | decoded {document observation : Json} (h : document.decoded = some observation) :
      ReadFrom observed (some document) (some observation)

lemma ReadFrom.mono {observed observed' : Option Json → Prop} {o result : Option Json}
    (h : ReadFrom observed o result) (hle : observed ≤ observed') : ReadFrom observed' o result := by
  cases h with
  | observed h => exact .observed (hle _ h)
  | absent => exact .absent
  | decoded h => exact .decoded h

/-! ### What a worker asks for -/

section

variable (env : Environment) (claim : Claim)

/-- The record is one of the claimed operation. -/
def Claim.Owns (key : ResourceKey) : Prop :=
  ∃ phase, key = claim.effectKey env phase

/-- What a worker may ask for, given what is known. -/
def MayAsk (known : Known) : Request → Prop
  | .advance _ next result => claim.IsCurrent →
      (next = .running → ∃ o, known.recorded (claim.effectKey env .startInvocation) o) ∧
      (next = .succeeded → ∃ o, known.recorded (claim.effectKey env .runInvocation) o ∧
        ReadFrom (known.observed (claim.effectKey env .runInvocation)) o result) ∧
      (next = .cancelled → ∃ o, known.recorded (claim.effectKey env .cancelInvocation) o)
  | .observe _ effect => claim.Owns env effect.key
  | .apply _ effect => ∃ phase, effect.key = claim.effectKey env phase ∧
      effectAllowed claim.key.kind claim.command claim.observedState phase = true ∧
      (claim.IsCurrent → phase = .runInvocation →
        ∃ o, known.recorded (claim.effectKey env .startInvocation) o)
  | .recordEffect key status observation _ => claim.Owns env key ∧
      (status = .succeeded → known.observed key observation ∨ known.applied key observation)
  | _ => True

/-- What a reply says about what is known by then. -/
def Tells (known : Known) : (request : Request) → request.Reply → Prop
  | .insertEffect c phase _, reply => ∀ record, reply = .ok record →
      record.key = c.effectKey env phase ∧ (record.effect.status = .succeeded →
        ∃ o, known.recorded record.key o ∧ ReadFrom (fun _ => False) o record.effect.observation)
  | .recordEffect key status observation _, reply =>
    reply = .ok () → status = .succeeded → known.recorded key observation
  | .observe _ effect, reply => ∀ result, reply = .ok (some result) →
      known.observed effect.key result
  | .apply _ effect, reply => ∀ result, reply = .ok result → known.applied effect.key result
  | _, _ => True

/-- A reply arrives: more may be known, and the reply says some of it. -/
def Learns (known : Known) (request : Request) (reply : request.Reply) (later : Known) : Prop :=
  known.Within later ∧ Tells env later request reply

/-- From what is known on, the worker asks only for what it may. -/
def Ordered {α : Type} (post : Known → α → Prop) (known : Known) (x : Worker α) : Prop :=
  Process.Complies (MayAsk env claim) (Learns env) post known x

end

variable {env : Environment} {claim : Claim} {known later : Known}

lemma MayAsk.grow {request : Request} (hle : known.Within later)
    (h : MayAsk env claim known request) : MayAsk env claim later request := by
  cases request with
  | advance =>
    intro hcurrent
    obtain ⟨hrunning, hsucceeded, hcancelled⟩ := h hcurrent
    refine ⟨fun hnext => ?_, fun hnext => ?_, fun hnext => ?_⟩
    · exact (hrunning hnext).imp fun o => hle.recorded _ o
    · exact (hsucceeded hnext).imp fun o ho =>
        ⟨hle.recorded _ o ho.1, ho.2.mono (hle.observed _)⟩
    · exact (hcancelled hnext).imp fun o => hle.recorded _ o
  | observe => exact h
  | apply =>
    obtain ⟨phase, hkey, hallowed, hstarted⟩ := h
    exact ⟨phase, hkey, hallowed, fun hcurrent hphase =>
      (hstarted hcurrent hphase).imp fun o => hle.recorded _ o⟩
  | recordEffect =>
    exact ⟨h.1, fun hstatus => (h.2 hstatus).imp (hle.observed _ _) (hle.applied _ _)⟩
  | _ => trivial

section

variable {next : State} {result : Option Json} {o : Option Json}

/-- The other states may be asked for at any time. -/
lemma mayAsk_of_notMem (h : next ∉ [State.running, .succeeded, .cancelled]) :
    MayAsk env claim known (.advance claim next result) := by
  intro _
  refine ⟨?_, ?_, ?_⟩ <;> rintro rfl <;> simp at h

end

namespace Ordered

variable {α : Type}

/-- More may be known in the meantime. -/
lemma grow {x : Worker α} (h : Ordered env claim (fun _ _ => True) known x)
    (hle : known.Within later) : Ordered env claim (fun _ _ => True) later x := by
  refine Process.Complies.weaken Known.Within h hle (fun _ _ _ hle => MayAsk.grow hle) ?_
    fun _ _ _ _ => id
  intro t u request reply u' hle hlearns
  exact ⟨u', ⟨hle.trans hlearns.1, hlearns.2⟩, .refl u'⟩

/-- The requests that are not always allowed. -/
def IsStep : Request → Prop
  | .advance _ _ _ | .observe _ _ | .apply _ _ | .recordEffect _ _ _ _ => True
  | _ => False

lemma of_never {x : Worker α} (h : x.Never IsStep) :
    Ordered env claim (fun _ _ => True) known x := by
  refine Process.Complies.of_meets h fun t request hrequest => ?_
  cases request with
  | advance | observe | apply | recordEffect => exact (hrequest trivial).elim
  | _ => trivial

lemma never_ending {call : Worker (Except RepositoryError Unit)} (h : call.Never IsStep) :
    (ending call).Never IsStep := by
  refine .bind h fun reply => ?_
  cases reply <;> exact .pure _

lemma retry (cause : EffectError) : Ordered env claim (fun _ _ => True) known (retry claim cause) :=
  of_never (.bind (.ask id) fun _ => never_ending (.ask id))

lemma rejectEffect {effect : EffectRecord} (howns : claim.Owns env effect.key)
    (cause : EffectError) (reason : OperationFailureReason) (code : String) :
    Ordered env claim (fun _ _ => True) known (rejectEffect claim effect cause reason code) := by
  refine Process.Complies.ask_bind ⟨howns, nofun⟩ fun reply later _ => ?_
  match reply with
  | .error error => trivial
  | .ok () => exact of_never (never_ending (.ask id))

/-- Asking for a transition at the end. -/
lemma storeAdvance {next : State} {result : Option Json}
    (h : MayAsk env claim known (.advance claim next result)) :
    Ordered env claim (fun _ _ => True) known (ending (storeAdvance claim next result)) := by
  refine ⟨h, fun reply later hlearns => ?_⟩
  cases reply <;> trivial

/-! The functions of the reconciler, one by one. -/

/-- A prepared record is the one of the effect, and a succeeded one has been recorded. -/
lemma storePrepareEffect (phase : Phase) (digest : String) :
    Ordered env claim (fun later reply => known.Within later ∧ ∀ record, reply = .ok record →
        record.key = claim.effectKey env phase ∧ (record.effect.status = .succeeded →
          ∃ o, later.recorded record.key o ∧ ReadFrom (fun _ => False) o record.effect.observation))
      known (storePrepareEffect claim phase digest) := by
  refine ⟨trivial, fun lease mid hmid => ?_⟩
  match lease with
  | .error error => exact ⟨hmid.1, fun _ h => by cases h⟩
  | .ok () => exact ⟨trivial, fun reply later hlater => ⟨hmid.1.trans hlater.1, hlater.2⟩⟩

variable {phase : Phase}

/-- The effect is recorded as it was reported, and then the transition asked for. -/
lemma settleEffect {effect : EffectRecord} {next : State} {result : Option Json}
    (hkey : effect.key = claim.effectKey env phase)
    (hreported : known.observed effect.key result ∨ known.applied effect.key result)
    (hnext : ∀ later o, later.recorded (claim.effectKey env phase) o →
      MayAsk env claim later (.advance claim next none)) :
    Ordered env claim (fun _ _ => True) known (settleEffect claim effect result next) := by
  refine ⟨⟨⟨phase, hkey⟩, fun _ => hreported⟩, fun reply later hlearns => ?_⟩
  match reply with
  | .error error => exact retry _
  | .ok () => exact storeAdvance (hnext later result (hkey ▸ hlearns.2 rfl rfl))

lemma applyEffect {next : State}
    (hstarted : claim.IsCurrent → phase = .runInvocation →
      ∃ o, known.recorded (claim.effectKey env .startInvocation) o)
    (hnext : ∀ later o, later.recorded (claim.effectKey env phase) o →
      MayAsk env claim later (.advance claim next none)) :
    Ordered env claim (fun _ _ => True) known (applyEffect env claim phase next) := by
  unfold Reconciler.applyEffect
  split
  · rename_i hallowed
    refine Process.Complies.bind (storePrepareEffect phase _) fun prepared reply hprepared => ?_
    obtain ⟨hle, hrecord⟩ := hprepared
    cases reply with
    | error => trivial
    | ok effect =>
      obtain ⟨hkey, -⟩ := hrecord effect rfl
      refine Process.Complies.ask_bind ⟨phase, hkey⟩ fun observed seen hobserved => ?_
      rcases observed with cause | none | result
      · -- A rejected effect ends the operation; any other error is tried again.
        dsimp only
        split
        · exact rejectEffect ⟨phase, hkey⟩ _ _ _
        · exact retry cause
      · refine Process.Complies.ask_bind ⟨phase, hkey, hallowed, fun hcurrent hphase => ?_⟩
          fun applied later happlied => ?_
        · exact (hstarted hcurrent hphase).imp fun o => (hle.trans hobserved.1).recorded _ o
        cases applied with
        | ok result => exact settleEffect hkey (.inr (happlied.2 result rfl)) hnext
        | error cause =>
          dsimp only
          split
          · exact rejectEffect ⟨phase, hkey⟩ _ _ _
          refine Process.Complies.ask_bind ⟨⟨phase, hkey⟩, fun h => ?_⟩ fun reply last _ => ?_
          · -- An error is recorded as unknown or as failed.
            split at h <;> cases h
          cases reply with
          | error => trivial
          | ok => exact retry cause
      · exact settleEffect hkey (.inl (hobserved.2 result rfl)) hnext
  · trivial

/-- An effect that is observed has been recorded, and the result is read from its record. -/
lemma observeEffect (phase : Phase) :
    Ordered env claim (fun later reply => ∀ result, reply = .ok (some result) →
        ∃ o, later.recorded (claim.effectKey env phase) o ∧
          ReadFrom (later.observed (claim.effectKey env phase)) o result)
      known (observeEffect env claim phase) := by
  refine Process.Complies.bind (storePrepareEffect phase _) fun prepared reply hprepared => ?_
  match reply with
  | .error error => exact fun _ h => by cases h
  | .ok effect =>
    obtain ⟨hkey, hsucceeded⟩ := hprepared.2 effect rfl
    dsimp only
    split
    · rename_i hstatus
      intro result heq
      cases heq
      obtain ⟨o, ho, hread⟩ := hsucceeded hstatus
      exact ⟨o, hkey ▸ ho, hread.mono fun _ => False.elim⟩
    · refine Process.Complies.ask_bind ⟨phase, hkey⟩ fun observed seen hobserved => ?_
      match observed with
      | .error cause => exact fun _ h => by cases h
      | .ok none => exact fun _ h => by cases h
      | .ok (some result) =>
        have hseen : seen.observed effect.key result := hobserved.2 result rfl
        refine Process.Complies.ask_bind ⟨⟨phase, hkey⟩, fun _ => .inl hseen⟩
          fun reply later hlearns => ?_
        match reply with
        | .error error => exact fun _ h => by cases h
        | .ok () =>
          intro result' heq
          cases heq
          refine ⟨result, hkey ▸ hlearns.2 rfl rfl, .observed ?_⟩
          exact hkey ▸ hlearns.1.observed _ _ hseen

lemma finishObserved {next : State}
    (hnext : ∀ later o result, later.recorded (claim.effectKey env phase) o →
      ReadFrom (later.observed (claim.effectKey env phase)) o result →
      MayAsk env claim later (.advance claim next result)) :
    Ordered env claim (fun _ _ => True) known (finishObserved env claim phase next) := by
  refine Process.Complies.bind (observeEffect phase) fun later reply hobserved => ?_
  match reply with
  | .error cause => exact retry cause
  | .ok none => exact retry _
  | .ok (some result) =>
    obtain ⟨o, ho, hread⟩ := hobserved result rfl
    exact storeAdvance (hnext later o result ho hread)

/-- **A worker asks for its steps in order.** -/
theorem runOne (drivers : Drivers)
    (hrunning : claim.IsCurrent → claim.observedState = .running →
      ∃ o, known.recorded (claim.effectKey env .startInvocation) o) :
    Ordered env claim (fun _ _ => True) known (runOne env drivers claim) := by
  refine Process.Complies.ask_bind trivial fun time later hlearns => ?_
  split
  · exact of_never (never_ending (.ask id))
  have hdispatches := Dispatches.advance env drivers claim
  generalize Reconciler.advance env drivers claim = x at hdispatches ⊢
  cases hdispatches with
  | refused => trivial
  | transition _ hearly =>
    exact storeAdvance fun hcurrent => mayAsk_of_notMem (hearly hcurrent) hcurrent
  | effect _ horder =>
    refine applyEffect (fun hcurrent hphase => ?_) fun last o ho hcurrent => ?_
    · subst hphase
      rcases horder hcurrent with ⟨hphase, -⟩ | ⟨-, -, hstate⟩ | ⟨hphase, -⟩
      · cases hphase
      · exact (hrunning hcurrent hstate).imp fun o => hlearns.1.recorded _ o
      · cases hphase
    · rcases horder hcurrent with ⟨rfl, rfl⟩ | ⟨rfl, rfl, -⟩ | ⟨rfl, rfl⟩
      · exact ⟨fun _ => ⟨o, ho⟩, nofun, nofun⟩
      · exact mayAsk_of_notMem (by decide) hcurrent
      · exact ⟨nofun, nofun, fun _ => ⟨o, ho⟩⟩
  | observed _ horder =>
    refine finishObserved fun last o result ho hread hcurrent => ?_
    obtain ⟨rfl, rfl⟩ := horder hcurrent
    exact ⟨nofun, fun _ => ⟨o, ho, hread⟩, nofun⟩
  | published =>
    refine of_never (.bind (.ask id) fun published => ?_)
    match published with
    | .ok () => exact .pure _
    | .error .leaseLost => exact .pure _
    | .error (.effect cause) => exact .bind (.ask id) fun _ => never_ending (.ask id)

end Ordered

/-! ### What has been recorded once a row has come to a state -/

/-- The states of an invocation that is on its way to success. -/
def State.isPending : State → Bool
  | .queued | .starting | .running | .waiting | .observing => true
  | _ => false

/-- The row has come to its state only after the effects that lead there were recorded; its result
is read from a record. -/
structure Operation.FollowsEffects (env : Environment) (known : Known) (key : OperationKey)
    (op : Operation) : Prop where
  running : op.observedState = .running → ∃ o, known.recorded (key.effectKey env .startInvocation) o
  pending : op.observedState.isPending = true → op.terminalResult = none
  succeeded : op.observedState = .succeeded →
    ∃ o, known.recorded (key.effectKey env .runInvocation) o ∧
      ReadFrom (known.observed (key.effectKey env .runInvocation)) o op.terminalResult
  cancelled : op.observedState = .cancelled →
    ∃ o, known.recorded (key.effectKey env .cancelInvocation) o

namespace Operation.FollowsEffects

variable {key : OperationKey} {op row : Operation}

lemma grow (h : op.FollowsEffects env known key) (hle : known.Within later) :
    op.FollowsEffects env later key where
  running hstate := (h.running hstate).imp fun o => hle.recorded _ o
  pending := h.pending
  succeeded hstate := (h.succeeded hstate).imp fun o ho =>
    ⟨hle.recorded _ o ho.1, ho.2.mono (hle.observed _)⟩
  cancelled hstate := (h.cancelled hstate).imp fun o => hle.recorded _ o

/-- Only the state and the result matter. -/
lemma of_eq (h : op.FollowsEffects env known key)
    (hstate : row.observedState = op.observedState)
    (hresult : row.terminalResult = op.terminalResult) : row.FollowsEffects env known key where
  running := hstate ▸ h.running
  pending := by
    rw [hstate, hresult]
    exact h.pending
  succeeded := by
    rw [hstate, hresult]
    exact h.succeeded
  cancelled := hstate ▸ h.cancelled

/-- Nothing is said about the other states. -/
lemma of_notMem (hstate : row.observedState ∉ [State.running, .succeeded, .cancelled])
    (hpending : row.observedState.isPending = true → row.terminalResult = none) :
    row.FollowsEffects env known key := by
  refine ⟨fun h => ?_, hpending, fun h => ?_, fun h => ?_⟩ <;> simp [h] at hstate

lemma advance {transition : Transition} (h : op.FollowsEffects env known key) (hkey : claim.key = key)
    (hcurrent : claim.IsCurrent) (hstate : op.observedState = claim.observedState)
    (hmay : MayAsk env claim known (.advance claim transition.next transition.result))
    (hdispatched : Dispatched claim transition.next transition.result)
    (hrow : row.observedState = transition.next)
    (hresult : row.terminalResult = (transition.result <|> op.terminalResult)) :
    row.FollowsEffects env known key := by
  subst hkey
  obtain ⟨hnext, hsome⟩ := hdispatched hcurrent.1
  obtain ⟨hrunning, hsucceeded, hcancelled⟩ := hmay hcurrent
  -- Out of a state of the table the operation was pending, and had no result.
  have hnone : transition.next.isPending = true ∨ transition.next = .succeeded →
      op.terminalResult = none := by
    intro hforward
    refine h.pending ?_
    split at hnext
    · rcases hnext with hnext | hnext <;> simp [hnext, State.isPending] at hforward
    · rw [hstate]
      cases hobserved : claim.observedState <;> simp [hobserved, dispatchTable] at hnext <;> rfl
  refine ⟨fun hrow' => ?_, fun hrow' => ?_, fun hrow' => ?_, fun hrow' => ?_⟩
  · exact hrunning (hrow.symm.trans hrow')
  · rw [hrow] at hrow'
    rw [hresult, hnone (.inl hrow')]
    cases hgiven : transition.result with
    | none => rfl
    | some =>
      rw [hsome (by rw [hgiven]; rfl)] at hrow'
      cases hrow'
  · rw [hrow] at hrow'
    obtain ⟨o, ho, hread⟩ := hsucceeded hrow'
    have hgiven : row.terminalResult = transition.result := by
      rw [hresult, hnone (.inr hrow')]
      cases transition.result <;> rfl
    exact ⟨o, ho, hgiven ▸ hread⟩
  · exact hcancelled (hrow.symm.trans hrow')

end Operation.FollowsEffects

/-- **What a call does to a row of version 2**, if the transitions that are asked for are allowed. -/
lemma RowStep.followsEffects {s : Store} {call : Call} {key : OperationKey} {op row : Operation}
    (h : RowStep env s call key op row) (hkind : key.kind = .invocation)
    (hop : op.FollowsEffects env known key)
    (hasked : ∀ m claim transition, call.asksFor = some (m, claim, transition) →
      claim.key = key → transition.next = .failed ∨ (claim.IsCurrent ∧
        MayAsk env claim known (.advance claim transition.next transition.result) ∧
          Dispatched claim transition.next transition.result)) :
    row.FollowsEffects env known key := by
  cases h with
  | same => exact hop
  | claimed _ _ update =>
    obtain rfl := Operation.claim_eq_some update
    exact hop.of_eq rfl rfl
  | renewed _ _ update =>
    obtain ⟨-, rfl⟩ := Operation.renew_eq_some update
    exact hop.of_eq rfl rfl
  | @advanced m claim _ made _ asked at_key _ _ madeFrom _ update =>
    obtain ⟨hheld, hrow⟩ := Operation.advance_eq_some update
    have hnext : row.observedState = made.next := by rw [hrow]
    have hfailed : made.next = .failed → row.FollowsEffects env known key := by
      intro hmade
      rw [hmade] at hnext
      exact .of_notMem (by simp [hnext]) fun hpending => by simp [hnext, State.isPending] at hpending
    obtain rfl | ⟨-, hmade, -⟩ := madeFrom
    · obtain hmade | ⟨hcurrent, hmay, hdispatched⟩ := hasked m claim made asked at_key.symm
      · exact hfailed hmade
      · exact hop.advance at_key.symm hcurrent hheld.1 hmay hdispatched hnext (by rw [hrow])
    · exact hfailed hmade
  | retried _ _ update =>
    obtain ⟨-, rfl⟩ := Operation.scheduleRetry_eq_some update
    exact hop.of_eq rfl rfl
  | completed _ at_key kind =>
    subst at_key
    cases kind.symm.trans hkind
  | cancelled =>
    exact .of_notMem (by simp [Operation.cancel]) fun hpending => by
      simp [Operation.cancel, State.isPending] at hpending
  | repaired _ _ update =>
    obtain ⟨-, rfl⟩ := Operation.repair_eq_some update
    exact .of_notMem (by simp) fun _ => rfl

/-! ### Workers and rows in order -/

/-- The operation of a claim is there, with the version of the claim. -/
def Store.Holds (s : Store) (claim : Claim) : Prop :=
  ∃ op, s.db.operations.lookup claim.key = some op ∧ op.stateMachineVersion = claim.stateMachineVersion

/-- What is known covers the present records; the rows have followed it, and the workers will go
on so. -/
structure System.InOrder (env : Environment) (known : Known) (sys : System) : Prop where
  present : ∀ key effect, sys.store.db.effects.lookup key = some effect →
    effect.status = .succeeded → known.recorded key effect.observation
  rows : ∀ key op, sys.store.db.operations.lookup key = some op → key.kind = .invocation →
    op.stateMachineVersion = Invocation.stateMachineVersion → op.FollowsEffects env known key
  workers : ∀ worker claim rest, sys.tasks worker = .running claim rest →
    sys.store.Holds claim ∧ Ordered env claim (fun _ _ => True) known rest

/-- What a driver returns is known. -/
def Known.Covers (known : Known) : (request : Request) → request.Reply → Prop
  | .observe _ effect, reply => ∀ result, reply = .ok (some result) →
      known.observed effect.key result
  | .apply _ effect, reply => ∀ result, reply = .ok result → known.applied effect.key result
  | _, _ => True

/-- What a reply tells is so, if the present records and the answers of drivers are covered. -/
lemma tells_of_serve {s t : Store} {request : Request} {answer : Answer} {reply : request.Reply}
    (h : serve env s request answer = some (reply, t))
    (hpresent : ∀ key effect, t.db.effects.lookup key = some effect →
      effect.status = .succeeded → known.recorded key effect.observation)
    (hcovers : known.Covers request reply) : Tells env known request reply := by
  cases request with
  | insertEffect =>
    rintro record rfl
    cases answer with
    | store =>
      obtain ⟨-, _, herror⟩ | ⟨_, hmethod, hreply | ⟨_, herror⟩⟩ :=
        deliver_eq (Option.some.inj h)
      · cases herror
      · cases hreply
        obtain ⟨hkey, ⟨effect, hlookup, hdecoded⟩, -⟩ := insertEffect_eq_ok hmethod
        refine ⟨hkey, fun hstatus => ⟨effect.observation, ?_, ?_⟩⟩
        · exact hpresent _ _ hlookup ((Effect.status_of_decoded hdecoded).symm.trans hstatus)
        · obtain ⟨-, ⟨hnone, hnone'⟩ | ⟨_, _, hsome, hsome', hread⟩⟩ :=
            Effect.decoded_eq_some hdecoded
          · rw [hnone, hnone']
            exact .absent
          · rw [hsome, hsome']
            exact .decoded hread
      · cases herror
    | _ => cases h
  | recordEffect key =>
    rintro rfl rfl
    cases answer with
    | store =>
      obtain ⟨-, _, herror⟩ | ⟨_, hmethod, -⟩ := deliver_eq (Option.some.inj h)
      · cases herror
      · obtain ⟨_, -, rfl⟩ := recordEffect_eq_ok hmethod
        exact hpresent key _ (AList.lookup_insert _) rfl
    | _ => cases h
  | observe | apply => exact hcovers
  | _ => trivial

namespace System.InOrder

variable {sys sys' : System} {event : Event}

lemma asked (hsys : sys.InOrder env known) {call : Call} {m : Moment}
    {transition : Operation.Transition} {op : Operation} (hsource : Source sys call)
    (h : call.asksFor = some (m, claim, transition)) (hkind : claim.key.kind = .invocation)
    (hop : sys.store.db.operations.lookup claim.key = some op)
    (hversion : op.stateMachineVersion = Invocation.stateMachineVersion) :
    transition.next = .failed ∨ (claim.IsCurrent ∧
      MayAsk env claim known (.advance claim transition.next transition.result) ∧
        Dispatched claim transition.next transition.result) := by
  cases hsource with
  | external external =>
    rw [asksFor_of_isExternal external] at h
    cases h
  | snapshot | update => cases h
  | @worker _ worker _ _ _ task sanctioned makes =>
    cases makes with
    | advance =>
      obtain ⟨rfl, hdispatched⟩ := sanctioned
      simp only [Call.asksFor, Option.some.injEq, Prod.mk.injEq] at h
      obtain ⟨-, rfl, rfl⟩ := h
      obtain ⟨⟨_, hop', hsame⟩, hordered⟩ := hsys.workers worker _ _ task
      cases hop.symm.trans hop'
      split
      · exact .inl rfl
      · exact .inr ⟨⟨hkind, hsame.symm.trans hversion⟩, hordered.1, hdispatched⟩
    | fail =>
      cases h
      exact .inl rfl
    | scheduleRetry | insertEffect | recordEffect | publish => cases h

lemma rows_step (hsys : sys.InOrder env known) (hobedient : sys.Obedient)
    (h : sys.step env event = some sys') (key : OperationKey) (op : Operation)
    (hop : sys'.store.db.operations.lookup key = some op) (hkind : key.kind = .invocation)
    (hversion : op.stateMachineVersion = Invocation.stateMachineVersion) :
    op.FollowsEffects env known key := by
  obtain hsame | ⟨call, hsource, hcall⟩ := step_store hobedient h
  · exact hsys.rows key op (hsame ▸ hop) hkind hversion
  cases hbefore : sys.store.db.operations.lookup key with
  | none =>
    obtain hpublication | ⟨m, input, -, -, rfl⟩ := Store.step_new_row hcall hbefore hop
    · cases hpublication.symm.trans hkind
    · exact .of_notMem (by simp [AcceptInvocationInput.operation, Operation.queued])
        fun _ => rfl
  | some old =>
    obtain ⟨_, hrow, hstep⟩ := Store.step_row hcall hbefore
    cases hop.symm.trans hrow
    have hold := hstep.sameColumns.stateMachineVersion.symm.trans hversion
    refine hstep.followsEffects hkind (hsys.rows key old hbefore hkind hold) ?_
    rintro m claim transition hasked rfl
    exact hsys.asked hsource hasked hkind hbefore hold

/-- An operation row keeps its version. -/
lemma holds_step (hobedient : sys.Obedient) (h : sys.step env event = some sys')
    (hop : sys.store.Holds claim) : sys'.store.Holds claim := by
  obtain hsame | ⟨call, -, hcall⟩ := step_store hobedient h
  · exact hsame ▸ hop
  · obtain ⟨_, hlookup, hversion⟩ := hop
    obtain ⟨row, hrow, hcolumns⟩ := Store.step_operation hcall hlookup
    exact ⟨row, hrow, hcolumns.stateMachineVersion.trans hversion⟩

/-- A record that is succeeded after a step was there before, or a driver has reported it. -/
lemma present_step (hsys : sys.InOrder env known) (hobedient : sys.Obedient)
    (h : sys.step env event = some sys') {key : ResourceKey} {effect : Effect}
    (heffect : sys'.store.db.effects.lookup key = some effect)
    (hstatus : effect.status = .succeeded) :
    known.recorded key effect.observation ∨ known.observed key effect.observation ∨
      known.applied key effect.observation := by
  obtain hsame | ⟨call, hsource, hcall⟩ := step_store hobedient h
  · exact .inl (hsys.present key effect (hsame ▸ heffect) hstatus)
  obtain hsame | ⟨m, claim, phase, digest, -, hinsert⟩ |
    ⟨m, k, status, observation, errorCode, old, rfl, hrecord⟩ := Store.step_effects hcall
  · exact .inl (hsys.present key effect (hsame ▸ heffect) hstatus)
  · rw [hinsert, Table.insertIfAbsent] at heffect
    split at heffect
    · exact .inl (hsys.present key effect heffect hstatus)
    · rcases Table.lookup_insert_cases heffect with ⟨-, rfl⟩ | heffect
      · cases hstatus
      · exact .inl (hsys.present key effect heffect hstatus)
  · rw [hrecord] at heffect
    rcases Table.lookup_insert_cases heffect with ⟨rfl, rfl⟩ | heffect
    · cases hsource with
      | external external => cases external
      | worker task _ makes =>
        cases makes with
        | recordEffect => exact .inr ((hsys.workers _ _ _ task).2.1.2 hstatus)
    · exact .inl (hsys.present key effect heffect hstatus)

/-- **Every event keeps rows and workers in order.** -/
theorem step (hsys : sys.InOrder env known) (hobedient : sys.Obedient) (hle : known.Within later)
    (hpresent : ∀ key effect, sys'.store.db.effects.lookup key = some effect →
      effect.status = .succeeded → later.recorded key effect.observation)
    (hcovers : ∀ worker answer claim request next reply t, event = .answer worker answer →
      sys.tasks worker = .running claim (.request request next) →
      serve env sys.store request answer = some (reply, t) → later.Covers request reply)
    (h : sys.step env event = some sys') : sys'.InOrder env later := by
  have hrows : ∀ key op, sys'.store.db.operations.lookup key = some op → key.kind = .invocation →
      op.stateMachineVersion = Invocation.stateMachineVersion → op.FollowsEffects env later key :=
    fun key op hop hkind hversion => (hsys.rows_step hobedient h key op hop hkind hversion).grow hle
  have hworkers : ∀ worker claim rest, sys.tasks worker = .running claim rest →
      sys'.store.Holds claim ∧ Ordered env claim (fun _ _ => True) later rest :=
    fun worker claim rest htask => (hsys.workers worker claim rest htask).imp (holds_step hobedient h)
      fun hordered => hordered.grow hle
  cases step_moved h with
  | called => exact ⟨hpresent, hrows, hworkers⟩
  | chose _ waits =>
    exact ⟨hpresent, hrows, forall_running_update hworkers fun claim rest htask =>
      (waits claim rest htask).elim⟩
  | @leased _ drivers _ _ reply t _ delivered =>
    -- The claim is a copy of the row.
    have hclaimed : ∀ claim rest, Task.afterLease env drivers reply = .running claim rest →
        rest = Reconciler.runOne env drivers claim ∧
          ∃ op, t.db.operations.lookup claim.key = some op ∧
            op.stateMachineVersion = claim.stateMachineVersion ∧
            op.observedState = claim.observedState := by
      intro claim rest htask
      unfold Task.afterLease at htask
      split at htask
      · cases htask
        obtain ⟨-, _, herror⟩ | ⟨_, hmethod, hreply | ⟨_, herror⟩⟩ :=
          deliver_eq delivered
        · cases herror
        · cases hreply
          obtain ⟨-, ⟨hnone, -⟩ | ⟨op, row, hop, _, hresult, rfl⟩⟩ :=
            claimUpdate_eq_ok hmethod
          · cases hnone
          · cases hresult
            exact ⟨rfl, row, Store.lookup_putRow_self _ _ _ _, rfl, rfl⟩
        · cases herror
      · cases htask
    refine ⟨hpresent, hrows, forall_running_update hworkers fun claim rest htask => ?_⟩
    obtain ⟨rfl, op, hop, hsame, hstate⟩ := hclaimed claim rest htask
    refine ⟨⟨op, hop, hsame⟩, .runOne drivers fun hcurrent hrunning => ?_⟩
    exact (hrows claim.key op hop hcurrent.1 (hsame.trans hcurrent.2)).running
      (hstate.trans hrunning)
  | @answered worker _ claim _ _ reply _ task served =>
    refine ⟨hpresent, hrows, forall_running_update hworkers fun claim' rest htask => ?_⟩
    cases htask
    refine ⟨(hworkers worker claim _ task).1, (hsys.workers worker claim _ task).2.2 reply later ⟨hle, ?_⟩⟩
    exact tells_of_serve served hpresent (hcovers _ _ _ _ _ _ _ rfl task served)
  | stopped =>
    exact ⟨hpresent, hrows, forall_running_update hworkers fun claim rest htask => by cases htask⟩

end System.InOrder

/-! ### Whole runs -/

/-- At some point of the run the effect was recorded as succeeded with this observation. -/
def WasRecorded (env : Environment) (events : List Event) (key : ResourceKey)
    (observation : Option Json) : Prop :=
  ∃ before after sys effect, events = before ++ after ∧
    Run.run (System.step env) System.initial before = some sys ∧
    sys.store.db.effects.lookup key = some effect ∧ effect.status = .succeeded ∧
    effect.observation = observation

/-- The records of a run, whatever drivers return. -/
def recordedAlong (env : Environment) (events : List Event) : Known :=
  ⟨WasRecorded env events, fun _ _ => True, fun _ _ => True⟩

lemma System.inOrder_initial : System.initial.InOrder env known := by
  refine ⟨fun key effect heffect => ?_, fun key op hop => ?_, fun worker claim rest htask => ?_⟩
  · cases heffect
  · cases hop
  · cases htask

lemma System.inOrder_of_run {sys : System} {events : List Event}
    (h : Run.run (System.step env) System.initial events = some sys) :
    sys.Sound ∧ sys.InOrder env (recordedAlong env events) := by
  refine Run.run_history (P := fun events sys => sys.Sound ∧
    sys.InOrder env (recordedAlong env events)) (fun events sys event sys' hsys hinv hstep => ?_)
    ⟨sound_initial, inOrder_initial⟩ h
  refine ⟨hinv.1.step hstep, hinv.2.step hinv.1.obedient ⟨?_, le_rfl, le_rfl⟩ ?_ ?_ hstep⟩
  · rintro key o ⟨before, after, sys₀, effect, rfl, hrecorded⟩
    exact ⟨before, after ++ [event], sys₀, effect, by rw [List.append_assoc], hrecorded⟩
  · intro key effect heffect hstatus
    refine ⟨events ++ [event], [], sys', effect, (List.append_nil _).symm, ?_, heffect, hstatus,
      rfl⟩
    rw [Run.run_concat, hsys]
    exact hstep
  · intro worker answer claim request next reply t _ _ _
    cases request with
    | observe | apply => exact fun _ _ => trivial
    | _ => trivial

/-- **The effects of an invocation are applied, observed and cancelled in order.**  In every run of
any number of workers, with any answers of drivers and store and any commands in between, for every
operation of version 2:

* a worker that applies an effect applies the one of a phase that its claim allows, and if that is
  `run-invocation`, then `start-invocation` was recorded as succeeded before;
* an operation that has succeeded has a result that was read from a record of `run-invocation` which
  was succeeded;
* an operation is cancelled only after `cancel-invocation` was recorded as succeeded. -/
theorem effects_in_order (env : Environment) (events : List Event) (sys : System)
    (h : Run.run (System.step env) System.initial events = some sys) :
    (∀ worker claim c effect next,
      sys.tasks worker = .running claim (.request (.apply c effect) next) →
      claim.key.kind = .invocation →
      claim.stateMachineVersion = Invocation.stateMachineVersion →
      ∃ phase, effect.key = claim.effectKey env phase ∧
        effectAllowed .invocation claim.command claim.observedState phase = true ∧
        (phase = .runInvocation →
          ∃ o, WasRecorded env events (claim.effectKey env .startInvocation) o)) ∧
    (∀ key op, sys.store.db.operations.lookup key = some op → key.kind = .invocation →
      op.stateMachineVersion = Invocation.stateMachineVersion →
      (op.observedState = .succeeded →
        ∃ o, WasRecorded env events (key.effectKey env .runInvocation) o ∧
          ReadFrom (fun _ => True) o op.terminalResult) ∧
      (op.observedState = .cancelled →
        ∃ o, WasRecorded env events (key.effectKey env .cancelInvocation) o)) := by
  obtain ⟨-, hinv⟩ := System.inOrder_of_run h
  refine ⟨?_, fun key op hop hkind hversion => ?_⟩
  · intro worker claim c effect next htask hkind hversion
    obtain ⟨phase, hkey, hallowed, hstarted⟩ := (hinv.workers worker claim _ htask).2.1
    exact ⟨phase, hkey, hkind ▸ hallowed, hstarted ⟨hkind, hversion⟩⟩
  · have hrow := hinv.rows key op hop hkind hversion
    exact ⟨hrow.succeeded, hrow.cancelled⟩

namespace Scenario

/-- The output of the runtime. -/
def output : Json :=
  .ofMembers [("answer", .number 42)]

/-- A worker takes the operation at `now`, applies the effect of its state and takes it on. -/
def applying (worker : Nat) (workerId : String) (now : Time) (auditId : String) : List Event :=
  observing worker workerId now (.ok none) ++
    [.answer worker (.applied (.ok (some output))), stored worker (now + 3) "",
      stored worker (now + 4) auditId, .finish worker]

/-- The invocation is started, run and observed. -/
def succeeded : List Event :=
  starting ++ applying 0 "one" 10 "audit-2" ++ applying 1 "two" 20 "audit-3" ++
    taking 0 "one" 30 ++ [stored 0 31 "", stored 0 32 "", stored 0 33 "audit-4", .finish 0]

end Scenario

open Scenario

/-- An invocation that has succeeded with the output of its runtime. -/
theorem effects_in_order_succeeded : ∃ sys op o,
    Run.run (System.step Scenario.env) System.initial succeeded = some sys ∧
    sys.store.db.operations.lookup Scenario.key = some op ∧ op.observedState = .succeeded ∧
    op.terminalResult = some output ∧
    WasRecorded Scenario.env succeeded
      (Scenario.key.effectKey Scenario.env .runInvocation) o ∧
    ReadFrom (fun _ => True) o op.terminalResult := by
  obtain ⟨sys, hsys, op, hop, hstate, hversion, hresult⟩ : ∃ sys,
      Run.run (System.step Scenario.env) System.initial succeeded = some sys ∧
      ∃ op, sys.store.db.operations.lookup Scenario.key = some op ∧ op.observedState = .succeeded ∧
      op.stateMachineVersion = Invocation.stateMachineVersion ∧ op.terminalResult = some output := by
    decide +kernel
  obtain ⟨-, hrows⟩ := effects_in_order Scenario.env succeeded sys hsys
  obtain ⟨o, ho, hread⟩ := (hrows Scenario.key op hop rfl hversion).1 hstate
  exact ⟨sys, op, o, hsys, hop, hstate, hresult, ho, hread⟩

end DataGround
