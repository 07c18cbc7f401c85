import DataGround.Reconcile.Dispatch

/-!
# What a worker records

A worker prepares the record of an effect, has the effect observed or applied, and records what
came of it; only then does it settle its claim.  This file looks into what a worker is still going
to do, from any point of its run on:

* `Records` -- the records it will write are those of its own operation, and for effects that are
  settled by now they repeat what is recorded, as long as its replies are truthful;
* `RecordsOnce.runOne` -- so does every worker when it starts, and it writes at most one record.
-/

namespace DataGround

open Reconciler

/-! ### What a worker is going to record -/

/-- The observation with which an effect is recorded as succeeded. -/
def Effect.settled (effect : Effect) : Option Json :=
  if effect.status = .succeeded then effect.observation else none

/-- The requests that record an effect. -/
def Request.IsRecord : Request → Prop
  | .recordEffect _ _ _ _ => True
  | _ => False

section

variable (env : Environment) (claim : Claim) (settled : ResourceKey → Option Json)

/-- The worker holds a record of an effect of its operation, up to date if that is settled. -/
def Prepared (record : EffectRecord) : Prop :=
  (∃ phase, record.key = claim.effectKey env phase) ∧
    ∀ observation, settled record.key = some observation → record.effect.status = .succeeded

/-- A record that may be written: of the worker's operation, and for a settled effect the same
again. -/
def MayRecord : Request → Prop
  | .recordEffect key status observation _ =>
    (∃ phase, key = claim.effectKey env phase) ∧
      ∀ recorded, settled key = some recorded → status = .succeeded ∧ observation = some recorded
  | _ => True

/-- The replies a worker gets while the effects are settled as given. -/
def Truthful : (request : Request) → request.Reply → Prop
  | .insertEffect _ _ _, reply => ∀ record, reply = .ok record → Prepared env claim settled record
  | .observe _ effect, reply => ∀ observation, settled effect.key = some observation →
      reply = .ok (some (some observation))
  | _, _ => True

/-- As long as its replies are truthful, the worker records only what it may. -/
def Records {α : Type} (x : Worker α) : Prop :=
  x.Meets (MayRecord env claim settled) (Truthful env claim settled) fun _ => True

end

/-! ### At most one record -/

lemma never_ending {call : Worker (Except RepositoryError Unit)} (h : call.Never Request.IsRecord) :
    (ending call).Never Request.IsRecord := by
  refine .bind h fun reply => ?_
  cases reply <;> exact .pure _

lemma never_retry (claim : Claim) (cause : EffectError) :
    (retry claim cause).Never Request.IsRecord :=
  .bind (.ask id) fun _ => never_ending (.ask id)

lemma never_storePrepareEffect (claim : Claim) (phase : Phase) (digest : String) :
    (storePrepareEffect claim phase digest).Never Request.IsRecord := by
  refine .bind (.ask id) fun lease => ?_
  cases lease with
  | error => exact .pure _
  | ok => exact .ask id

lemma once_settleEffect (claim : Claim) (effect : EffectRecord) (result : Option Json)
    (next : State) : (settleEffect claim effect result next).Once Request.IsRecord := by
  refine .bind_never (.ask _) fun reply => ?_
  cases reply with
  | error => exact never_retry _ _
  | ok => exact never_ending (.ask id)

lemma once_rejectEffect (claim : Claim) (effect : EffectRecord) (cause : EffectError)
    (reason : OperationFailureReason) (code : String) :
    (rejectEffect claim effect cause reason code).Once Request.IsRecord := by
  refine .bind_never (.ask _) fun reply => ?_
  cases reply with
  | error => exact .pure _
  | ok => exact never_ending (.ask id)

lemma once_applyEffect (env : Environment) (claim : Claim) (phase : Phase) (next : State) :
    (applyEffect env claim phase next).Once Request.IsRecord := by
  unfold applyEffect
  split
  · refine .never_bind (never_storePrepareEffect _ _ _) fun prepared => ?_
    cases prepared with
    | error => exact (Process.Never.pure _).once
    | ok =>
      refine .never_bind (.ask id) fun observed => ?_
      match observed with
      | .error cause =>
        dsimp only
        split
        · exact once_rejectEffect _ _ _ _ _
        · exact (never_retry _ _).once
      | .ok (some result) => exact once_settleEffect _ _ _ _
      | .ok none =>
        refine .never_bind (.ask id) fun applied => ?_
        cases applied with
        | ok => exact once_settleEffect _ _ _ _
        | error =>
          dsimp only
          split
          · exact once_rejectEffect _ _ _ _ _
          · refine .bind_never (.ask _) fun recorded => ?_
            cases recorded with
            | error => exact .pure _
            | ok => exact never_retry _ _
  · exact (Process.Never.pure _).once

lemma once_observeEffect (env : Environment) (claim : Claim) (phase : Phase) :
    (observeEffect env claim phase).Once Request.IsRecord := by
  refine .never_bind (never_storePrepareEffect _ _ _) fun prepared => ?_
  cases prepared with
  | error => exact (Process.Never.pure _).once
  | ok =>
    dsimp only
    split
    · exact (Process.Never.pure _).once
    · refine .never_bind (.ask id) fun observed => ?_
      match observed with
      | .error cause => exact (Process.Never.pure _).once
      | .ok none => exact (Process.Never.pure _).once
      | .ok (some result) =>
        refine .bind_never (.ask _) fun recorded => ?_
        cases recorded <;> exact .pure _

lemma once_finishObserved (env : Environment) (claim : Claim) (phase : Phase) (next : State) :
    (finishObserved env claim phase next).Once Request.IsRecord := by
  refine .bind_never (once_observeEffect env claim phase) fun observed => ?_
  match observed with
  | .error cause => exact never_retry _ _
  | .ok none => exact never_retry _ _
  | .ok (some result) => exact never_ending (.ask id)

variable (phase : Phase)

namespace Records

variable {α β : Type} {env : Environment} {claim : Claim} {settled : ResourceKey → Option Json}

/-- A worker that records nothing more records nothing it may not. -/
lemma of_never {x : Worker α} (h : x.Never Request.IsRecord) : Records env claim settled x := by
  refine Process.Meets.mono h (fun request hrequest => ?_) (fun _ _ _ => trivial) fun _ h => h
  cases request with
  | recordEffect => exact (hrequest trivial).elim
  | _ => trivial

/-- An effect that was settled in the meantime is none of the worker's own. -/
lemma extend {settled' : ResourceKey → Option Json} {x : Worker α}
    (h : Records env claim settled x)
    (hextends : ∀ key observation, settled key = some observation → settled' key = some observation)
    (hown : ∀ phase, settled' (claim.effectKey env phase) = settled (claim.effectKey env phase)) :
    Records env claim settled' x := by
  refine Process.Meets.mono h (fun request hrequest => ?_) (fun request reply hreply => ?_)
    fun _ h => h
  · cases request with
    | recordEffect =>
      obtain ⟨⟨phase, rfl⟩, hsame⟩ := hrequest
      exact ⟨⟨phase, rfl⟩, fun recorded hrecorded => hsame recorded (hown phase ▸ hrecorded)⟩
    | _ => trivial
  · cases request with
    | insertEffect =>
      intro record hrecord
      obtain ⟨hkey, hsettled⟩ := hreply record hrecord
      exact ⟨hkey, fun observation h => hsettled observation (hextends _ _ h)⟩
    | observe => exact fun observation h => hreply observation (hextends _ _ h)
    | _ => trivial

/-! The functions of the reconciler, one by one. -/

lemma storePrepareEffect (digest : String) :
    (storePrepareEffect claim phase digest).Meets (MayRecord env claim settled)
      (Truthful env claim settled)
      fun reply => ∀ record, reply = .ok record → Prepared env claim settled record := by
  refine Process.Meets.bind (Process.Meets.ask trivial) fun lease _ => ?_
  cases lease with
  | error => exact fun _ h => by cases h
  | ok => exact Process.Meets.ask trivial

variable {effect : EffectRecord}

/-- The effect is known to have succeeded, as recorded if it is settled. -/
lemma settleEffect (heffect : Prepared env claim settled effect) {result : Option Json}
    (hresult : ∀ observation, settled effect.key = some observation → result = some observation)
    (next : State) : Records env claim settled (settleEffect claim effect result next) := by
  refine ⟨⟨heffect.1, fun recorded h => ⟨rfl, hresult recorded h⟩⟩, fun reply _ => ?_⟩
  cases reply with
  | error => exact of_never (never_retry _ _)
  | ok => exact of_never (never_ending (.ask id))

/-- The effect failed, so it is not settled. -/
lemma rejectEffect (heffect : Prepared env claim settled effect) (hnone : settled effect.key = none)
    (cause : EffectError) (reason : OperationFailureReason) (code : String) :
    Records env claim settled (rejectEffect claim effect cause reason code) := by
  refine ⟨⟨heffect.1, fun recorded h => by cases hnone.symm.trans h⟩, fun reply _ => ?_⟩
  cases reply with
  | error => exact .pure trivial
  | ok => exact of_never (never_ending (.ask id))

lemma applyEffect (next : State) :
    Records env claim settled (applyEffect env claim phase next) := by
  unfold Reconciler.applyEffect
  split
  · refine Process.Meets.bind (storePrepareEffect phase _) fun prepared hprepared => ?_
    cases prepared with
    | error => exact .pure trivial
    | ok effect =>
      have heffect := hprepared effect rfl
      refine Process.Meets.bind (.ask trivial) fun observed hobserved => ?_
      -- If the effect is settled, it is observed as recorded.
      cases hsettled : settled effect.key with
      | some observation =>
        rw [hobserved observation hsettled]
        refine settleEffect heffect (fun recorded h => ?_) next
        rw [hsettled] at h
        exact h
      | none =>
        have hresult : ∀ result observation, settled effect.key = some observation →
            result = some observation := fun _ _ h => by cases hsettled.symm.trans h
        match observed with
        | .error cause =>
          dsimp only
          split
          · exact rejectEffect heffect hsettled _ _ _
          · exact of_never (never_retry _ _)
        | .ok (some result) => exact settleEffect heffect (hresult result) next
        | .ok none =>
          refine Process.Meets.bind (.ask trivial) fun applied _ => ?_
          match applied with
          | .ok result => exact settleEffect heffect (hresult result) next
          | .error cause =>
            dsimp only
            split
            · exact rejectEffect heffect hsettled _ _ _
            · refine Process.Meets.bind (.ask ⟨heffect.1, fun _ h => ?_⟩) fun recorded _ => ?_
              · cases hsettled.symm.trans h
              match recorded with
              | .error error => exact .pure trivial
              | .ok () => exact of_never (never_retry _ _)
  · exact .pure trivial

lemma observeEffect : Records env claim settled (observeEffect env claim phase) := by
  refine Process.Meets.bind (storePrepareEffect phase _) fun prepared hprepared => ?_
  cases prepared with
  | error => exact .pure trivial
  | ok effect =>
    have heffect := hprepared effect rfl
    dsimp only
    split
    · exact .pure trivial
    · rename_i hstatus
      -- The record is not succeeded, so the effect is not settled.
      have hsettled : settled effect.key = none := by
        cases hsettled : settled effect.key with
        | none => rfl
        | some observation => exact (hstatus (heffect.2 observation hsettled)).elim
      refine Process.Meets.bind (.ask trivial) fun observed _ => ?_
      match observed with
      | .error cause => exact .pure trivial
      | .ok none => exact .pure trivial
      | .ok (some result) =>
        refine Process.Meets.bind (.ask ⟨heffect.1, fun _ h => ?_⟩) fun recorded _ => ?_
        · cases hsettled.symm.trans h
        match recorded with
        | .error error => exact .pure trivial
        | .ok () => exact .pure trivial

lemma finishObserved (next : State) :
    Records env claim settled (finishObserved env claim phase next) := by
  refine Process.Meets.bind (observeEffect phase) fun observed _ => ?_
  match observed with
  | .error cause => exact of_never (never_retry _ _)
  | .ok none => exact of_never (never_retry _ _)
  | .ok (some result) => exact of_never (never_ending (.ask id))

end Records

/-- A worker that records at most once, and then what it may. -/
structure RecordsOnce (env : Environment) (claim : Claim) (settled : ResourceKey → Option Json)
    (x : Worker (Except RunError Unit)) : Prop where
  once : x.Once Request.IsRecord
  records : Records env claim settled x

namespace RecordsOnce

variable {env : Environment} {claim : Claim} {settled : ResourceKey → Option Json}

lemma of_never {x : Worker (Except RunError Unit)} (h : x.Never Request.IsRecord) :
    RecordsOnce env claim settled x :=
  ⟨h.once, .of_never h⟩

lemma of_dispatches {x : Worker (Except RunError Unit)} (h : Dispatches env claim x) :
    RecordsOnce env claim settled x := by
  cases h with
  | refused => exact of_never (.pure _)
  | transition => exact of_never (never_ending (.ask id))
  | effect => exact ⟨once_applyEffect env claim _ _, .applyEffect _ _⟩
  | observed => exact ⟨once_finishObserved env claim _ _, .finishObserved _ _⟩
  | published =>
    refine of_never (.bind (.ask id) fun published => ?_)
    match published with
    | .ok () => exact .pure _
    | .error .leaseLost => exact .pure _
    | .error (.effect cause) => exact never_retry _ _

/-- **A worker records at most once, and only what it may**, whatever is settled when it starts. -/
theorem runOne (drivers : Drivers) : RecordsOnce env claim settled (runOne env drivers claim) := by
  have hrest : ∀ time : Time, RecordsOnce env claim settled
      (if claim.deadlineAt ≤ time then ending (storeFail claim .deadline)
        else Reconciler.advance env drivers claim) := by
    intro time
    split
    · exact of_never (never_ending (.ask id))
    · exact of_dispatches (.advance env drivers claim)
  exact ⟨.never_bind (.ask id) fun time => (hrest time).once,
    .bind (.ask trivial) fun time _ => (hrest time).records⟩

end RecordsOnce

end DataGround
