import DataGround.Persistence.Calls
import DataGround.Reconcile.Dispatch

/-!
# Workers over the store

Any number of workers run the reconciler over one store.  Each is idle, waits for its claim
statement, or runs with a claim; one event answers the request that one worker is waiting with,
so that the requests of different workers interleave in every possible way.  A store call may
fail without having run, or commit and lose its acknowledgement; drivers answer what they like;
a worker may crash at any point.  Commands of callers -- acceptances, cancellations, repairs,
lease renewals of drivers, changes of the catalogue -- come in between.

* `System.step_store` -- a step of the system is a step of the store, or none;
* `System.Sound` -- every worker still only does what its claim sanctions, and the operation table
  stays tied to its history.
-/

namespace DataGround

open Transaction

/-! ### Answering a request -/

/-- What becomes of a store call. -/
inductive Delivery where
  | acknowledged
  | failed
  | lost
  deriving DecidableEq

/-- The error of a call whose acknowledgement did not arrive. -/
def storeUnavailable : RepositoryError :=
  .refused "store unavailable"

/-- One call of a method: the reply that arrives, and the store afterwards. -/
def deliver {α : Type} (method : Method α) (delivery : Delivery) (s : Store) :
    Except RepositoryError α × Store :=
  match delivery, method s with
  | .acknowledged, .ok (a, t) => (.ok a, t)
  | .acknowledged, .error error => (.error error, s)
  | .lost, .ok (_, t) => (.error storeUnavailable, t)
  | .lost, .error _ => (.error storeUnavailable, s)
  | .failed, _ => (.error storeUnavailable, s)

/-- The answer to the request a worker is waiting with. -/
inductive Answer where
  | time (now : Time)
  | store (m : Moment) (delivery : Delivery)
  | observed (reply : Except EffectError (Option (Option Json)))
  | applied (reply : Except EffectError (Option Json))
  | published (m : Moment) (delivery : Delivery) (input : DevelopmentPublicationInput)
      (verified : VerifiedPublication) (version : Nat)
  | publicationRefused (error : PublishError)

/-- The error of a publication driver whose completion failed. -/
def publishError : RepositoryError → PublishError
  | .leaseLost => .leaseLost
  | _ => .effect {}

/-- The reply to a request and the store afterwards, if the answer fits the request. -/
def serve (env : Environment) (s : Store) :
    (request : Request) → Answer → Option (request.Reply × Store)
  | .now, .time now => some (now, s)
  | .advance claim next result, .store m delivery =>
    some (deliver (Repository.advance env m claim next result) delivery s)
  | .fail claim reason, .store m delivery =>
    some (deliver (Repository.fail env m claim reason) delivery s)
  | .scheduleRetry claim classification errorCode dueAt, .store m delivery =>
    some (deliver (Repository.scheduleRetry env m claim classification errorCode dueAt) delivery s)
  | .verifyEffectLease claim, .store m delivery =>
    some (deliver (Repository.verifyEffectLease m claim) delivery s)
  | .insertEffect claim phase requestDigest, .store m delivery =>
    some (deliver (Repository.insertEffect env m claim phase requestDigest) delivery s)
  | .recordEffect key status observation errorCode, .store m delivery =>
    some (deliver (Repository.recordEffect m key status observation errorCode) delivery s)
  | .observe _ _, .observed reply => some (reply, s)
  | .apply _ _, .applied reply => some (reply, s)
  | .publish claim, .published m delivery input verified version =>
    let reply := deliver
      (Repository.completeDevelopmentPublication env m claim input verified version) delivery s
    some (reply.1.mapError publishError, reply.2)
  | .publish _, .publicationRefused error => some (.error error, s)
  | _, _ => none

/-! ### The system -/

/-- What a worker is doing. -/
inductive Task where
  | idle
  | claiming (statement : ClaimStatement)
  | running (claim : Claim) (rest : Worker (Except RunError Unit))

/-- The store and the workers. -/
structure System where
  store : Store
  tasks : Nat → Task

/-- The system before the first event. -/
def System.initial : System :=
  ⟨.empty, fun _ => .idle⟩

/-- The calls that are made outside the workers. -/
def Call.isExternal : Call → Bool
  | .setRevision _ _ | .setAlias _ _ | .journal _ => true
  | .acceptInvocation _ _ | .acceptPublication _ _ _ => true
  | .queueDevelopmentPublication _ _ _ _ | .publishDevelopmentRevision _ _ _ => true
  | .renewLease _ _ _ => true
  | .acceptCancellation _ _ | .repairOperation _ _ => true
  | _ => false

/-- One event. -/
inductive Event where
  /-- A caller's command, or a lease renewal by a driver. -/
  | call (call : Call)
  /-- A worker asks for an operation, and the snapshot of its statement is taken. -/
  | choose (worker : Nat) (request : ClaimRequest)
  /-- The `UPDATE` of the statement runs. -/
  | lease (worker : Nat) (drivers : Drivers) (delivery : Delivery)
  /-- The request of a worker is answered. -/
  | answer (worker : Nat) (answer : Answer)
  /-- `RunOne` returns. -/
  | finish (worker : Nat)
  /-- A worker is gone, and started again. -/
  | crash (worker : Nat)

/-- The worker after its claim statement: with a claim, it runs. -/
def Task.afterLease (env : Environment) (drivers : Drivers) :
    Except RepositoryError (Option Claim) → Task
  | .ok (some claim) => .running claim (Reconciler.runOne env drivers claim)
  | _ => .idle

/-- One step of the system. -/
def System.step (env : Environment) (sys : System) (event : Event) : Option System :=
  match event with
  | .call call =>
    if call.isExternal then
      (sys.store.step env call).map fun t => { sys with store := t }
    else none
  | .choose worker request =>
    match sys.tasks worker with
    | .idle => (sys.store.step env (.claimSnapshot request)).map fun t =>
      ⟨t, Function.update sys.tasks worker (match candidate (eligible sys.store.db request) with
          | some key => .claiming ⟨request, key⟩
          | none => .idle)⟩
    | _ => none
  | .lease worker drivers delivery =>
    match sys.tasks worker with
    | .claiming statement =>
      let reply := deliver (Repository.claimUpdate statement) delivery sys.store
      some ⟨reply.2, Function.update sys.tasks worker (.afterLease env drivers reply.1)⟩
    | _ => none
  | .answer worker answer =>
    match sys.tasks worker with
    | .running claim (.request request next) =>
      (serve env sys.store request answer).map fun reply =>
        ⟨reply.2, Function.update sys.tasks worker (.running claim (next reply.1))⟩
    | _ => none
  | .finish worker =>
    match sys.tasks worker with
    | .running _ (.done _) => some { sys with tasks := Function.update sys.tasks worker .idle }
    | _ => none
  | .crash worker => some { sys with tasks := Function.update sys.tasks worker .idle }

/-! ### What an event did -/

/-- The store call that a request makes. -/
inductive Request.Makes : Request → Call → Prop
  | advance (m : Moment) (claim : Claim) (next : State) (result : Option Json) :
      Makes (.advance claim next result) (.advance m claim next result)
  | fail (m : Moment) (claim : Claim) (reason : OperationFailureReason) :
      Makes (.fail claim reason) (.fail m claim reason)
  | scheduleRetry (m : Moment) (claim : Claim) (classification : ErrorClassification)
      (errorCode : String) (dueAt : Time) :
      Makes (.scheduleRetry claim classification errorCode dueAt)
        (.scheduleRetry m claim classification errorCode dueAt)
  | insertEffect (m : Moment) (claim : Claim) (phase : Phase) (requestDigest : String) :
      Makes (.insertEffect claim phase requestDigest) (.insertEffect m claim phase requestDigest)
  | recordEffect (m : Moment) (key : ResourceKey) (status : EffectStatus)
      (observation : Option Json) (errorCode : String) :
      Makes (.recordEffect key status observation errorCode)
        (.recordEffect m key status observation errorCode)
  | publish (m : Moment) (claim : Claim) (input : DevelopmentPublicationInput)
      (verified : VerifiedPublication) (version : Nat) :
      Makes (.publish claim) (.completeDevelopmentPublication m claim input verified version)

variable {t : Store}

/-- A delivered call has committed or has left the store alone; what it returned arrived only if
it committed. -/
lemma deliver_eq {α : Type} {method : Method α} {delivery : Delivery} {s : Store}
    {reply : Except RepositoryError α} (h : deliver method delivery s = (reply, t)) :
    (t = s ∧ ∃ error, reply = .error error) ∨
      ∃ a, method s = .ok (a, t) ∧ (reply = .ok a ∨ ∃ error, reply = .error error) := by
  unfold deliver at h
  split at h
  · rename_i a r hmethod
    cases h
    exact .inr ⟨a, hmethod, .inl rfl⟩
  · cases h
    exact .inl ⟨rfl, _, rfl⟩
  · rename_i a r hmethod
    cases h
    exact .inr ⟨a, hmethod, .inr ⟨_, rfl⟩⟩
  · cases h
    exact .inl ⟨rfl, _, rfl⟩
  · cases h
    exact .inl ⟨rfl, _, rfl⟩

variable {env : Environment}

/-- A call delivered to the store is a step of the store, or none. -/
lemma step_of_deliver {α : Type} {method : Method α} {call : Call} {delivery : Delivery} {s : Store}
    {reply : Except RepositoryError α}
    (hcall : ∀ a r, method s = .ok (a, r) → s.step env call = some r)
    (h : deliver method delivery s = (reply, t)) : t = s ∨ s.step env call = some t := by
  obtain ⟨rfl, -⟩ | ⟨a, hmethod, -⟩ := deliver_eq h
  · exact .inl rfl
  · exact .inr (hcall a t hmethod)

/-- **Answering a request makes at most the store call that goes with it.** -/
lemma serve_store {s : Store} {request : Request} {answer : Answer} {reply : request.Reply}
    (h : serve env s request answer = some (reply, t)) :
    t = s ∨ ∃ call, request.Makes call ∧ s.step env call = some t := by
  have hstep : ∀ {α : Type} {method : Method α} {delivery : Delivery} {call : Call}
      {reply : Except RepositoryError α}, request.Makes call →
      (∀ a r, method s = .ok (a, r) → s.step env call = some r) →
      deliver method delivery s = (reply, t) →
      t = s ∨ ∃ call, request.Makes call ∧ s.step env call = some t :=
    fun hmakes hcall hdeliver => (step_of_deliver hcall hdeliver).imp_right fun h => ⟨_, hmakes, h⟩
  unfold serve at h
  split at h
  · cases h
    exact .inl rfl
  · rename_i claim next result m delivery
    exact hstep (.advance m claim next result)
      (fun u r h => Store.step_eq_some.mpr ⟨u, h⟩) (Option.some.inj h)
  · rename_i claim reason m delivery
    exact hstep (.fail m claim reason)
      (fun u r h => Store.step_eq_some.mpr ⟨u, h⟩) (Option.some.inj h)
  · rename_i claim classification errorCode dueAt m delivery
    exact hstep (.scheduleRetry m claim classification errorCode dueAt)
      (fun u r h => Store.step_eq_some.mpr ⟨u, h⟩) (Option.some.inj h)
  · obtain ⟨rfl, -⟩ | ⟨_, hmethod, -⟩ := deliver_eq (Option.some.inj h)
    · exact .inl rfl
    · exact .inl (verifyEffectLease_eq_ok hmethod)
  · rename_i claim phase digest m delivery
    refine hstep (.insertEffect m claim phase digest) (fun record r h => ?_) (Option.some.inj h)
    exact Store.step_eq_some.mpr ⟨(), bind_eq_ok.mpr ⟨record, r, h, rfl⟩⟩
  · rename_i key status observation errorCode m delivery
    exact hstep (.recordEffect m key status observation errorCode)
      (fun u r h => Store.step_eq_some.mpr ⟨u, h⟩) (Option.some.inj h)
  · cases h
    exact .inl rfl
  · cases h
    exact .inl rfl
  · rename_i claim m delivery input verified version
    obtain ⟨-, rfl⟩ := Prod.mk.inj (Option.some.inj h)
    exact hstep (.publish m claim input verified version)
      (fun u r h => Store.step_eq_some.mpr ⟨u, h⟩) rfl
  · cases h
    exact .inl rfl
  · cases h

namespace System

/-- **What an event did.** -/
inductive Moved (env : Environment) (sys : System) : Event → System → Prop
  | called {call : Call} {t : Store} (external : call.isExternal = true)
      (step : sys.store.step env call = some t) : Moved env sys (.call call) { sys with store := t }
  | chose {worker : Nat} {request : ClaimRequest} {t : Store} {task : Task}
      (step : sys.store.step env (.claimSnapshot request) = some t)
      (waits : ∀ claim rest, task ≠ .running claim rest) :
      Moved env sys (.choose worker request) ⟨t, Function.update sys.tasks worker task⟩
  | leased {worker : Nat} {drivers : Drivers} {delivery : Delivery} {statement : ClaimStatement}
      {reply : Except RepositoryError (Option Claim)} {t : Store}
      (task : sys.tasks worker = .claiming statement)
      (delivered : deliver (Repository.claimUpdate statement) delivery sys.store = (reply, t)) :
      Moved env sys (.lease worker drivers delivery)
        ⟨t, Function.update sys.tasks worker (.afterLease env drivers reply)⟩
  | answered {worker : Nat} {answer : Answer} {claim : Claim} {request : Request}
      {next : request.Reply → Worker (Except RunError Unit)} {reply : request.Reply} {t : Store}
      (task : sys.tasks worker = .running claim (.request request next))
      (served : serve env sys.store request answer = some (reply, t)) :
      Moved env sys (.answer worker answer)
        ⟨t, Function.update sys.tasks worker (.running claim (next reply))⟩
  | stopped {event : Event} {worker : Nat} :
      Moved env sys event { sys with tasks := Function.update sys.tasks worker .idle }

variable {sys sys' : System} {event : Event}

theorem step_moved (h : sys.step env event = some sys') : Moved env sys event sys' := by
  unfold System.step at h
  split at h
  · rename_i call
    split at h
    · rename_i hexternal
      obtain ⟨_, ht, rfl⟩ := Option.map_eq_some_iff.mp h
      exact .called hexternal ht
    · cases h
  · split at h
    · obtain ⟨_, ht, rfl⟩ := Option.map_eq_some_iff.mp h
      refine .chose ht fun claim rest => ?_
      split <;> exact nofun
    · cases h
  · split at h
    · rename_i statement htask
      cases h
      exact .leased htask rfl
    · cases h
  · split at h
    · rename_i claim request next htask
      obtain ⟨⟨_, _⟩, hserved, rfl⟩ := Option.map_eq_some_iff.mp h
      exact .answered htask hserved
    · cases h
  · split at h
    · cases h
      exact .stopped
    · cases h
  · cases h
    exact .stopped

/-! ### Workers obey their claims -/

/-- Every worker still only does what its claim sanctions. -/
def Obedient (sys : System) : Prop :=
  ∀ worker claim rest, sys.tasks worker = .running claim rest → Obeys claim rest

lemma obedient_initial : initial.Obedient := by
  intro worker claim rest h
  cases h

lemma running_update {tasks : Nat → Task} {worker w : Nat} {task : Task} {claim : Claim}
    {rest : Worker (Except RunError Unit)}
    (h : Function.update tasks worker task w = .running claim rest) :
    (w = worker ∧ task = .running claim rest) ∨ (w ≠ worker ∧ tasks w = .running claim rest) := by
  by_cases hw : w = worker
  · subst hw
    rw [Function.update_self] at h
    exact .inl ⟨rfl, h⟩
  · rw [Function.update_of_ne hw] at h
    exact .inr ⟨hw, h⟩

/-- One worker has another task, and the others go on. -/
lemma forall_running_update {P : Claim → Worker (Except RunError Unit) → Prop} {tasks : Nat → Task}
    {worker : Nat} {task : Task} (hold : ∀ w claim rest, tasks w = .running claim rest → P claim rest)
    (htask : ∀ claim rest, task = .running claim rest → P claim rest) (w : Nat) (claim : Claim)
    (rest : Worker (Except RunError Unit))
    (h : Function.update tasks worker task w = .running claim rest) : P claim rest := by
  obtain ⟨-, hnew⟩ | ⟨-, hw⟩ := running_update h
  · exact htask claim rest hnew
  · exact hold w claim rest hw

/-- A worker that is not running has nothing to obey. -/
lemma Obedient.update (hsys : sys.Obedient) {worker : Nat} {task : Task}
    (htask : ∀ claim rest, task = .running claim rest → Obeys claim rest) :
    Obedient ⟨t, Function.update sys.tasks worker task⟩ :=
  forall_running_update hsys htask

lemma Obedient.step (hsys : sys.Obedient) (h : sys.step env event = some sys') : sys'.Obedient := by
  cases step_moved h with
  | called => exact hsys
  | chose _ waits => exact hsys.update fun claim rest h => (waits claim rest h).elim
  | @leased _ drivers =>
    refine hsys.update fun claim rest h => ?_
    unfold Task.afterLease at h
    split at h
    · cases h
      exact runOne_sanctioned env drivers claim
    · cases h
  | @answered worker _ claim _ _ reply _ task =>
    refine hsys.update fun claim' rest h => ?_
    cases h
    exact (hsys worker claim _ task).2 reply trivial
  | stopped =>
    refine hsys.update fun claim rest h => ?_
    cases h

/-! ### Runs of the system are runs of the store -/

/-- Where a store call comes from. -/
inductive Source (sys : System) : Call → Prop
  | external {call : Call} (external : call.isExternal = true) : Source sys call
  | snapshot {request : ClaimRequest} : Source sys (.claimSnapshot request)
  | update {statement : ClaimStatement} : Source sys (.claimUpdate statement)
  | worker {call : Call} {worker : Nat} {claim : Claim} {request : Request}
      {next : request.Reply → Worker (Except RunError Unit)}
      (task : sys.tasks worker = .running claim (.request request next))
      (sanctioned : Sanctioned claim request) (makes : request.Makes call) : Source sys call

/-- **A step of the system is a step of the store, or none.** -/
theorem step_store (hsys : sys.Obedient) (h : sys.step env event = some sys') :
    sys'.store = sys.store ∨
      ∃ call, Source sys call ∧ sys.store.step env call = some sys'.store := by
  cases step_moved h with
  | called external step => exact .inr ⟨_, .external external, step⟩
  | chose step => exact .inr ⟨_, .snapshot, step⟩
  | @leased _ _ _ statement _ _ _ delivered =>
    have hcall : ∀ claim r, Repository.claimUpdate statement sys.store = .ok (claim, r) →
        sys.store.step env (.claimUpdate statement) = some r := fun claim r hupdate =>
      Store.step_eq_some.mpr ⟨(), bind_eq_ok.mpr ⟨claim, r, hupdate, rfl⟩⟩
    obtain hsame | hstep := step_of_deliver hcall delivered
    · exact .inl hsame
    · exact .inr ⟨_, .update, hstep⟩
  | @answered worker _ claim _ _ _ _ task served =>
    obtain hsame | ⟨call, hmakes, hstep⟩ := serve_store served
    · exact .inl hsame
    · exact .inr ⟨call, .worker task (hsys worker claim _ task).1 hmakes, hstep⟩
  | stopped => exact .inl rfl

/-- No caller outside the workers asks for a transition. -/
lemma asksFor_of_isExternal {call : Call} (h : call.isExternal = true) : call.asksFor = none := by
  cases call with
  | advance | fail => cases h
  | _ => rfl

lemma Source.dispatched {call : Call} {m : Moment} {claim : Claim} {transition : Operation.Transition}
    (hsource : Source sys call) (h : call.asksFor = some (m, claim, transition)) :
    Asked claim transition := by
  cases hsource with
  | external external =>
    rw [asksFor_of_isExternal external] at h
    cases h
  | snapshot | update => cases h
  | worker _ sanctioned makes =>
    cases makes with
    | advance =>
      obtain ⟨rfl, hdispatched⟩ := sanctioned
      simp only [Call.asksFor, Option.some.injEq, Prod.mk.injEq] at h
      obtain ⟨-, rfl, rfl⟩ := h
      split
      · exact .inl ⟨rfl, rfl, rfl⟩
      · exact .inr ⟨hdispatched, rfl⟩
    | fail =>
      cases h
      exact .inl ⟨rfl, rfl, rfl⟩
    | scheduleRetry | insertEffect | recordEffect | publish => cases h

/-- What every reachable system has: obedient workers over a store whose rows follow their
history. -/
structure Sound (sys : System) : Prop where
  obedient : sys.Obedient
  rowsFollow : sys.store.RowsFollow

lemma Sound.step (hsys : sys.Sound) (h : sys.step env event = some sys') : sys'.Sound := by
  refine ⟨hsys.obedient.step h, ?_⟩
  obtain hsame | ⟨call, -, hstep⟩ := step_store hsys.obedient h
  · exact hsame ▸ hsys.rowsFollow
  · exact Store.step_rowsFollow hsys.rowsFollow hstep

lemma sound_initial : initial.Sound :=
  ⟨obedient_initial, Store.rowsFollow_empty⟩

end System

end DataGround
