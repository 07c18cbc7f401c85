import DataGround.Reconcile.Reconciler

/-!
# What a worker asks for

A worker acts for its own claim only, and asks for the transitions that the reconciler dispatches
to the command and the observed state of that claim.  `runOne_sanctioned` says so for everything
a worker may still do, whatever replies it gets: in particular a worker whose claim returned the
command `cancel` never asks for a state in which the invocation would run.
-/

namespace DataGround

/-- The transitions of invocations that the reconciler dispatches. -/
def dispatchTable : State → List State
  | .queued => [.starting]
  | .starting => [.running, .observing]
  | .running => [.observing]
  | .observing => [.succeeded]
  | _ => []

/-- The transition that a worker asks for with a claim of an invocation. -/
def Dispatched (claim : Claim) (next : State) (result : Option Json) : Prop :=
  claim.key.kind = .invocation →
    (if claim.command = .cancel then next = .cancelling ∨ next = .cancelled
      else next ∈ dispatchTable claim.observedState) ∧
    (result.isSome = true → next = .succeeded)

/-- What is asked for with a claim: a failure, or the transition dispatched to it. -/
def Asked (claim : Claim) (transition : Operation.Transition) : Prop :=
  (transition.next = .failed ∧ transition.result = none ∧ transition.failure.isSome = true) ∨
    (Dispatched claim transition.next transition.result ∧ transition.failure = none)

/-- A request that a worker makes with its claim. -/
def Sanctioned (claim : Claim) : Request → Prop
  | .now => True
  | .advance c next result => c = claim ∧ Dispatched claim next result
  | .fail c _ => c = claim
  | .scheduleRetry c _ _ _ => c = claim
  | .verifyEffectLease c => c = claim
  | .insertEffect c _ _ => c = claim
  | .recordEffect _ _ _ _ => True
  | .observe c _ => c = claim
  | .apply c _ => c = claim
  | .publish c => c = claim ∧ claim.key.kind = .publication

/-- Whatever replies it gets, the worker makes no request but those its claim sanctions. -/
def Obeys {α : Type} (claim : Claim) (x : Worker α) : Prop :=
  x.Meets (Sanctioned claim) (fun _ _ => True) fun _ => True

variable (env : Environment)

namespace Obeys

open Reconciler

variable {α β : Type} {claim : Claim}

lemma pure (a : α) : Obeys claim (pure a : Worker α) :=
  trivial

lemma bind {x : Worker α} {f : α → Worker β} (hx : Obeys claim x) (hf : ∀ a, Obeys claim (f a)) :
    Obeys claim (x >>= f) :=
  Process.Meets.bind hx fun a _ => hf a

lemma ask {request : Request} (h : Sanctioned claim request) : Obeys claim (Process.ask request) :=
  ⟨h, fun _ _ => trivial⟩

lemma ending {call : Worker (Except RepositoryError Unit)} (h : Obeys claim call) :
    Obeys claim (ending call) := by
  refine .bind h fun reply => ?_
  cases reply <;> exact .pure _

variable {next : State}

lemma storeAdvance {result : Option Json} (h : Dispatched claim next result) :
    Obeys claim (Reconciler.ending (storeAdvance claim next result)) :=
  .ending (.ask ⟨rfl, h⟩)

lemma retry (cause : EffectError) : Obeys claim (retry claim cause) :=
  .bind (.ask trivial) fun _ => .ending (.ask rfl)

lemma rejectEffect (effect : EffectRecord) (cause : EffectError)
    (reason : OperationFailureReason) (code : String) :
    Obeys claim (rejectEffect claim effect cause reason code) := by
  refine .bind (.ask trivial) fun reply => ?_
  cases reply with
  | error => exact .pure _
  | ok => exact .ending (.ask rfl)

variable (phase : Phase)

lemma storePrepareEffect (digest : String) :
    Obeys claim (storePrepareEffect claim phase digest) := by
  refine .bind (.ask rfl) fun reply => ?_
  cases reply with
  | error => exact .pure _
  | ok => exact .ask rfl

lemma settleEffect (effect : EffectRecord) (result : Option Json) (h : Dispatched claim next none) :
    Obeys claim (settleEffect claim effect result next) := by
  refine .bind (.ask trivial) fun reply => ?_
  cases reply with
  | error => exact .retry _
  | ok => exact .storeAdvance h

lemma applyEffect {phase : Phase} (h : Dispatched claim next none) :
    Obeys claim (applyEffect env claim phase next) := by
  unfold Reconciler.applyEffect
  split
  · refine .bind (.storePrepareEffect _ _) fun prepared => ?_
    cases prepared with
    | error => exact .pure _
    | ok effect =>
      refine .bind (.ask rfl) fun observed => ?_
      match observed with
      | .error cause =>
        dsimp only
        split
        · exact .rejectEffect _ _ _ _
        · exact .retry _
      | .ok (some result) => exact .settleEffect effect result h
      | .ok none =>
        refine .bind (.ask rfl) fun applied => ?_
        cases applied with
        | ok result => exact .settleEffect effect result h
        | error =>
          dsimp only
          split
          · exact .rejectEffect _ _ _ _
          · refine .bind (.ask trivial) fun recorded => ?_
            cases recorded with
            | error => exact .pure _
            | ok => exact .retry _
  · exact .pure _

lemma observeEffect : Obeys claim (observeEffect env claim phase) := by
  refine .bind (.storePrepareEffect _ _) fun prepared => ?_
  cases prepared with
  | error => exact .pure _
  | ok =>
    dsimp only
    split
    · exact .pure _
    · refine .bind (.ask rfl) fun observed => ?_
      match observed with
      | .error cause => exact .pure _
      | .ok none => exact .pure _
      | .ok (some result) =>
        refine .bind (.ask trivial) fun recorded => ?_
        cases recorded <;> exact .pure _

lemma finishObserved (h : ∀ result, Dispatched claim next result) :
    Obeys claim (finishObserved env claim phase next) := by
  refine .bind (.observeEffect env phase) fun observed => ?_
  match observed with
  | .error cause => exact .retry _
  | .ok none => exact .retry _
  | .ok (some result) => exact .storeAdvance (h result)

end Obeys

/-! ### Dispatch -/

/-- The claim is one of an invocation of version 2. -/
def Claim.IsCurrent (claim : Claim) : Prop :=
  claim.key.kind = .invocation ∧ claim.stateMachineVersion = Invocation.stateMachineVersion

/-- What the reconciler may go on to do with a claim, and when. -/
inductive Dispatches (env : Environment) (claim : Claim) : Worker (Except RunError Unit) → Prop
  | refused (message : String) : Dispatches env claim (pure (.error (.unsupported message)))
  | transition {next : State} (dispatched : Dispatched claim next none)
      (early : claim.IsCurrent → next ∉ [State.running, .succeeded, .cancelled]) :
      Dispatches env claim (Reconciler.ending (Reconciler.storeAdvance claim next none))
  | effect {phase : Phase} {next : State} (dispatched : Dispatched claim next none)
      (order : claim.IsCurrent → phase = .startInvocation ∧ next = .running ∨
        phase = .runInvocation ∧ next = .observing ∧ claim.observedState = .running ∨
        phase = .cancelInvocation ∧ next = .cancelled) :
      Dispatches env claim (Reconciler.applyEffect env claim phase next)
  | observed {phase : Phase} {next : State} (dispatched : ∀ result, Dispatched claim next result)
      (order : claim.IsCurrent → phase = .runInvocation ∧ next = .succeeded) :
      Dispatches env claim (Reconciler.finishObserved env claim phase next)
  | published (kind : claim.key.kind = .publication) : Dispatches env claim do
      match ← Reconciler.publishClaimed claim with
      | .ok () => pure (.ok ())
      | .error .leaseLost => pure (.error (.store .leaseLost))
      | .error (.effect cause) => Reconciler.retry claim cause

namespace Dispatches

variable {claim : Claim} {next : State}

lemma publication (drivers : Drivers) (hkind : claim.key.kind = .publication) :
    Dispatches env claim (Reconciler.advancePublication env drivers claim) := by
  have hother : ¬claim.IsCurrent := fun h => by cases hkind.symm.trans h.1
  have hany : ∀ next result, Dispatched claim next result := fun next result h => by
    cases hkind.symm.trans h
  have htransition : ∀ next,
      Dispatches env claim (Reconciler.ending (Reconciler.storeAdvance claim next none)) :=
    fun next => .transition (hany _ _) fun h => (hother h).elim
  unfold Reconciler.advancePublication
  dsimp only
  split
  · split
    · exact htransition _
    split
    · exact .refused _
    split
    · exact .refused _
    split
    · exact htransition _
    · exact .published hkind
    · exact .refused _
  split
  · exact .refused _
  split
  · exact htransition _
  split
  · exact htransition _
  · exact htransition _
  · exact .effect (hany _ _) fun h => (hother h).elim
  · exact .observed (hany _) fun h => (hother h).elim
  · exact .refused _

/-- The transitions of the table are dispatched, with a result if they succeed. -/
lemma dispatched_of_mem {result : Option Json} (hcommand : claim.command ≠ .cancel)
    (hnext : next ∈ dispatchTable claim.observedState)
    (hresult : result.isSome = true → next = .succeeded) : Dispatched claim next result :=
  fun _ => ⟨by rwa [if_neg hcommand], hresult⟩

/-- A cancelled invocation is taken to `cancelling` and `cancelled` only. -/
lemma dispatched_of_cancel (hcommand : claim.command = .cancel)
    (hnext : next = .cancelling ∨ next = .cancelled) : Dispatched claim next none :=
  fun _ => ⟨by rwa [if_pos hcommand], nofun⟩

lemma invocationV1 (hcommand : claim.command ≠ .cancel) (hother : ¬claim.IsCurrent) :
    Dispatches env claim (Reconciler.advanceInvocationV1 env claim) := by
  unfold Reconciler.advanceInvocationV1
  split <;> rename_i hstate
  · exact .transition (dispatched_of_mem hcommand (by simp [hstate, dispatchTable]) nofun)
      fun h => (hother h).elim
  · exact .effect (dispatched_of_mem hcommand (by simp [hstate, dispatchTable]) nofun)
      fun h => (hother h).elim
  · exact .observed (fun _ => dispatched_of_mem hcommand (by simp [hstate, dispatchTable])
      fun _ => rfl) fun h => (hother h).elim
  · exact .refused _

lemma invocationV2 (hcommand : claim.command ≠ .cancel) :
    Dispatches env claim (Reconciler.advanceInvocationV2 env claim) := by
  unfold Reconciler.advanceInvocationV2
  split <;> rename_i hstate
  · exact .transition (dispatched_of_mem hcommand (by simp [hstate, dispatchTable]) nofun)
      fun _ => by decide
  · exact .effect (dispatched_of_mem hcommand (by simp [hstate, dispatchTable]) nofun)
      fun _ => .inl ⟨rfl, rfl⟩
  · exact .effect (dispatched_of_mem hcommand (by simp [hstate, dispatchTable]) nofun)
      fun _ => .inr (.inl ⟨rfl, rfl, hstate⟩)
  · exact .observed (fun _ => dispatched_of_mem hcommand (by simp [hstate, dispatchTable])
      fun _ => rfl) fun _ => ⟨rfl, rfl⟩
  · exact .refused _

lemma invocation : Dispatches env claim (Reconciler.advanceInvocation env claim) := by
  unfold Reconciler.advanceInvocation
  split
  · rename_i hversion
    have hother : ¬claim.IsCurrent := fun h => by cases hversion.symm.trans h.2
    split <;> rename_i hcommand
    · split
      · exact .transition (dispatched_of_cancel hcommand (.inl rfl)) fun h => (hother h).elim
      · exact .transition (dispatched_of_cancel hcommand (.inr rfl)) fun h => (hother h).elim
    · exact invocationV1 env hcommand hother
  split
  · split <;> rename_i hcommand
    · split
      · exact .transition (dispatched_of_cancel hcommand (.inl rfl)) fun _ => by decide
      · exact .effect (dispatched_of_cancel hcommand (.inr rfl)) fun _ => .inr (.inr ⟨rfl, rfl⟩)
    · exact invocationV2 env hcommand
  · exact .refused _

/-- **The reconciler does one of these with every claim.** -/
theorem advance (drivers : Drivers) (claim : Claim) :
    Dispatches env claim (Reconciler.advance env drivers claim) := by
  unfold Reconciler.advance
  split
  · rename_i hkind
    exact publication env drivers hkind
  · exact invocation env

end Dispatches

/-- **A worker acts for its claim, and as the claim demands.** -/
theorem runOne_sanctioned (drivers : Drivers) (claim : Claim) :
    Obeys claim (Reconciler.runOne env drivers claim) := by
  refine .bind (.ask trivial) fun time => ?_
  split
  · exact .ending (.ask rfl)
  have hdispatches := Dispatches.advance env drivers claim
  generalize Reconciler.advance env drivers claim = x at hdispatches ⊢
  cases hdispatches with
  | refused => exact .pure _
  | transition hdispatched => exact .storeAdvance hdispatched
  | effect hdispatched => exact .applyEffect env hdispatched
  | observed hdispatched => exact .finishObserved env _ hdispatched
  | published hkind =>
    refine .bind (.ask ⟨rfl, hkind⟩) fun published => ?_
    match published with
    | .ok () => exact .pure _
    | .error .leaseLost => exact .pure _
    | .error (.effect cause) => exact .retry _

end DataGround
