import DataGround.Reconcile.Agreement
import DataGround.Reconcile.EffectOrder
import DataGround.Runtime.AttemptLife
import DataGround.Runtime.Output

/-!
# Invocations of a runtime

The workers of the reconciler and the protocol of runtime attempts over one database.  For the
effect `run-invocation` the driver is `InvocationRuntimeDriver`:

* `ApplyClaimed` runs the turn, completes the attempt with the result of the output, and returns
  that result;
* `ObserveClaimed` returns the result of an attempt that has succeeded, as it reads it back.

So both answers are determined by the attempt, which is finished once.  Everything else that drivers
and callers do is arbitrary.
-/

namespace DataGround

/-! ### The system -/

/-- The result that `ApplyClaimed` returns once it has completed the attempt. -/
def RuntimeAttempt.appliedResult (attempt : RuntimeAttempt) : Option (Option Json) :=
  match attempt.state with
  | .succeeded result => some (some (.object result))
  | _ => none

/-- The result that `ObserveClaimed` returns for the attempt. -/
def RuntimeAttempt.observedResult (attempt : RuntimeAttempt) : Option (Option Json) :=
  attempt.decoded.bind RuntimeAttempt.appliedResult

/-- The effect is the turn of the claimed invocation. -/
def Claim.runs (env : Environment) (claim : Claim) (effect : EffectRecord) : Bool :=
  claim.key.kind = .invocation && effect.key = claim.effectKey env .runInvocation

/-- The answers that `InvocationRuntimeDriver` gives when it does not fail. -/
def runtimeAnswers (env : Environment) (attempts : Table ResourceKey RuntimeAttempt)
    (claim : Claim) : Request → Answer → Bool
  | .observe _ effect, .observed (.ok (some result)) => !claim.runs env effect ||
      (attempts.lookup claim.operationKey).bind RuntimeAttempt.observedResult = some result
  | .apply _ effect, .applied (.ok result) => !claim.runs env effect ||
      (attempts.lookup claim.operationKey).bind RuntimeAttempt.appliedResult = some result
  | _, _ => true

/-- The database with its runtime attempts, and the workers. -/
structure Hosted where
  runtime : RuntimeStore
  tasks : Nat → Task

namespace Hosted

/-- The state before the first event. -/
def initial : Hosted :=
  ⟨.empty, fun _ => .idle⟩

/-- The store and the workers alone. -/
def system (hosted : Hosted) : System :=
  ⟨hosted.runtime.store, hosted.tasks⟩

/-- One event: of the reconciler, or a call of the protocol. -/
inductive Event where
  | reconcile (event : DataGround.Event)
  | protocol (call : RuntimeCall)

/-- The driver of the runtime answers for itself. -/
def driven (env : Environment) (hosted : Hosted) : DataGround.Event → Bool
  | .answer worker answer =>
    match hosted.tasks worker with
    | .running claim (.request request _) =>
      runtimeAnswers env hosted.runtime.attempts claim request answer
    | _ => true
  | _ => true

end Hosted

/-- The calls that are not calls of the store. -/
def RuntimeCall.isProtocol : RuntimeCall → Bool
  | .stored _ => false
  | _ => true

/-- One step. -/
def Hosted.step (env : RuntimeEnvironment) (hosted : Hosted) : Event → Option Hosted
  | .reconcile event =>
    if hosted.driven env.toEnvironment event then
      (hosted.system.step env.toEnvironment event).map fun sys =>
        ⟨{ hosted.runtime with store := sys.store }, sys.tasks⟩
    else none
  | .protocol call =>
    if call.isProtocol then
      (hosted.runtime.step env call).map fun runtime => { hosted with runtime := runtime }
    else none

/-! ### What the parts of a step keep -/

/-- A call of the protocol writes to the store only outbox and audit trail. -/
lemma RuntimeStore.step_core {env : RuntimeEnvironment} {s t : RuntimeStore} {call : RuntimeCall}
    (hcall : call.isProtocol = true) (h : s.step env call = some t) :
    Store.Core s.store t.store := by
  have hframed : ∀ {r : RuntimeStore}, r.Framed t → r.store = s.store →
      Store.Core s.store t.store := by
    rintro r ⟨store, hframe, -, rfl⟩ hstore
    exact hstore ▸ hframe
  cases step_did h with
  | stored => cases hcall
  | boundPlan | savedExecution | boundArtifact | reserved | replayed | finished | froze
  | reconfirmed => exact .refl _
  | prepared _ change framed =>
    obtain rfl | ⟨-, rfl⟩ := change
    · exact hframed framed rfl
    · exact hframed framed rfl
  | completed _ _ _ _ framed | intended _ framed | confirmed _ _ framed => exact hframed framed rfl

/-- Another store with the same tables is as much in order. -/
lemma System.InOrder.of_core {env : Environment} {known later : Known} {sys : System} {t : Store}
    (hsys : sys.InOrder env known) (hcore : Store.Core sys.store t) (hle : known.Within later) :
    System.InOrder env later ⟨t, sys.tasks⟩ where
  present key effect heffect hstatus :=
    hle.recorded _ _ (hsys.present key effect (hcore.effects ▸ heffect) hstatus)
  rows key op hop hkind hversion :=
    (hsys.rows key op (hcore.operations ▸ hop) hkind hversion).grow hle
  workers worker claim rest htask := by
    obtain ⟨⟨op, hop, hversion⟩, hordered⟩ := hsys.workers worker claim rest htask
    exact ⟨⟨op, hcore.operations.symm ▸ hop, hversion⟩, hordered.grow hle⟩

variable {attempt : RuntimeAttempt}

namespace Hosted

variable {env : RuntimeEnvironment} {hosted hosted' : Hosted} {event : Event}

/-- **A finished attempt stays**, whatever happens. -/
lemma step_attempt (h : hosted.step env event = some hosted') {key : ResourceKey}
    (hattempt : hosted.runtime.attempts.lookup key = some attempt)
    (hterminal : attempt.state.Terminal) :
    hosted'.runtime.attempts.lookup key = some attempt := by
  cases event with
  | reconcile =>
    simp only [Hosted.step, Option.ite_none_right_eq_some] at h
    obtain ⟨_, -, rfl⟩ := Option.map_eq_some_iff.mp h.2
    exact hattempt
  | protocol =>
    simp only [Hosted.step, Option.ite_none_right_eq_some] at h
    obtain ⟨_, hstep, rfl⟩ := Option.map_eq_some_iff.mp h.2
    have hattempts := RuntimeStore.step_attempt hstep key
    rw [hattempt] at hattempts
    obtain ⟨_, hrow, hgoesOn⟩ := hattempts.goesOn
    rw [hrow, hgoesOn.final hterminal]

end Hosted

/-! ### What an effect can have been recorded with -/

lemma RuntimeAttempt.appliedResult_eq_some {result : Option Json}
    (h : attempt.appliedResult = some result) :
    ∃ members, attempt.state = .succeeded members ∧ result = some (.object members) := by
  unfold appliedResult at h
  split at h
  · rename_i members hstate
    cases h
    exact ⟨members, hstate, rfl⟩
  · cases h

/-- What is read back is the decoded result. -/
lemma RuntimeAttempt.observedResult_eq_some {result : Option Json}
    (h : attempt.observedResult = some result) :
    ∃ members document, attempt.state = .succeeded members ∧ result = some document ∧
      (Json.object members).decoded = some document := by
  obtain ⟨_, hread, h⟩ := Option.bind_eq_some_iff.mp h
  obtain ⟨decoded, hstate, rfl⟩ := appliedResult_eq_some h
  unfold RuntimeAttempt.decoded at hread
  split at hread
  · rename_i hreserved
    cases hread
    cases hstate.symm.trans hreserved
  · obtain ⟨members, -, rfl⟩ := Option.map_eq_some_iff.mp hread
    cases hstate
  · rename_i members hsucceeded
    obtain ⟨_, hmembers, rfl⟩ := Option.map_eq_some_iff.mp hread
    cases hstate
    refine ⟨members, _, hsucceeded, rfl, ?_⟩
    rw [Json.decoded, Json.mapNumbers, hmembers, Option.map_some]
  · obtain ⟨_, -, rfl⟩ := Option.map_eq_some_iff.mp hread
    cases hstate

/-- The record is the one of the turn of this invocation, and of no other effect. -/
structure OperationKey.RunsAt (env : Environment) (key : OperationKey) (record : ResourceKey) :
    Prop where
  kind : key.kind = .invocation
  is : record = key.effectKey env .runInvocation
  distinct : ∀ (other : OperationKey) (phase : Phase), other.effectKey env phase = record →
    other = key ∧ phase = .runInvocation

/-- The operation as the attempts are kept by. -/
def OperationKey.attemptKey (key : OperationKey) : ResourceKey :=
  ⟨key.isolationDomainId, key.id⟩

/-- What drivers have returned and workers recorded, as far as the turns of invocations go: the
results of their attempts. -/
def Hosted.known (env : Environment) (hosted : Hosted) : Known where
  observed record result := ∀ key : OperationKey, key.RunsAt env record →
    (hosted.runtime.attempts.lookup key.attemptKey).bind RuntimeAttempt.observedResult = some result
  applied record result := ∀ key : OperationKey, key.RunsAt env record →
    (hosted.runtime.attempts.lookup key.attemptKey).bind RuntimeAttempt.appliedResult = some result
  recorded record result := ∀ key : OperationKey, key.RunsAt env record →
    (hosted.runtime.attempts.lookup key.attemptKey).bind RuntimeAttempt.observedResult =
        some result ∨
      (hosted.runtime.attempts.lookup key.attemptKey).bind RuntimeAttempt.appliedResult =
        some result

namespace Hosted

variable {env : RuntimeEnvironment} {hosted hosted' : Hosted} {event : Event}

/-- The results of attempts do not change. -/
lemma known_within (h : hosted.step env event = some hosted') :
    (hosted.known env.toEnvironment).Within (hosted'.known env.toEnvironment) := by
  have happlied : ∀ {key : ResourceKey} {result : Option Json},
      (hosted.runtime.attempts.lookup key).bind RuntimeAttempt.appliedResult = some result →
      (hosted'.runtime.attempts.lookup key).bind RuntimeAttempt.appliedResult = some result := by
    intro key result hresult
    obtain ⟨_, hattempt, happlied⟩ := Option.bind_eq_some_iff.mp hresult
    obtain ⟨_, hstate, -⟩ := RuntimeAttempt.appliedResult_eq_some happlied
    rw [step_attempt h hattempt (by rw [hstate]; trivial)]
    exact happlied
  have hobserved : ∀ {key : ResourceKey} {result : Option Json},
      (hosted.runtime.attempts.lookup key).bind RuntimeAttempt.observedResult = some result →
      (hosted'.runtime.attempts.lookup key).bind RuntimeAttempt.observedResult = some result := by
    intro key result hresult
    obtain ⟨_, hattempt, hobserved⟩ := Option.bind_eq_some_iff.mp hresult
    obtain ⟨_, _, hstate, -⟩ := RuntimeAttempt.observedResult_eq_some hobserved
    rw [step_attempt h hattempt (by rw [hstate]; trivial)]
    exact hobserved
  refine ⟨fun record result hrecorded key hkey => ?_, fun record result hknown key hkey => ?_,
    fun record result hknown key hkey => ?_⟩
  · exact (hrecorded key hkey).imp hobserved happlied
  · exact hobserved (hknown key hkey)
  · exact happlied (hknown key hkey)

/-- The invariant of the system. -/
structure Consistent (env : Environment) (hosted : Hosted) : Prop where
  sound : hosted.system.Sound
  linked : hosted.runtime.store.Linked
  inOrder : hosted.system.InOrder env (hosted.known env)

lemma consistent_initial (env : Environment) : initial.Consistent env where
  sound := System.sound_initial
  linked := .empty
  inOrder := System.inOrder_initial

/-- The answers of the driver of the runtime are known. -/
lemma Consistent.covers (hinv : hosted.Consistent env.toEnvironment) {worker : Nat} {answer : Answer}
    {claim : Claim} {request : Request} {next : request.Reply → Worker (Except RunError Unit)}
    {reply : request.Reply} {t : Store}
    (hdriven : hosted.driven env.toEnvironment (.answer worker answer) = true)
    (htask : hosted.tasks worker = .running claim (.request request next))
    (hserve : serve env.toEnvironment hosted.runtime.store request answer = some (reply, t)) :
    (hosted.known env.toEnvironment).Covers request reply := by
  simp only [driven, htask] at hdriven
  have hmay := (hinv.inOrder.workers worker claim _ htask).2.1
  -- The effect of a turn is answered for by the worker of its own operation.
  have hruns : ∀ (effect : EffectRecord) (key : OperationKey) (phase : Phase),
      effect.key = claim.effectKey env.toEnvironment phase →
      key.RunsAt env.toEnvironment effect.key →
      claim.key = key ∧ claim.runs env.toEnvironment effect = true := by
    intro effect key phase howns hkey
    obtain ⟨rfl, rfl⟩ := hkey.distinct claim.key phase howns.symm
    refine ⟨rfl, ?_⟩
    rw [Claim.runs, howns, hkey.kind]
    simp
  cases request with
  | observe _ effect =>
    rintro result rfl key hkey
    obtain ⟨phase, howns⟩ := hmay
    obtain ⟨rfl, hown⟩ := hruns effect key phase howns hkey
    cases answer with
    | observed =>
      cases hserve
      simp only [runtimeAnswers, hown, Bool.not_true, Bool.false_or, decide_eq_true_eq] at hdriven
      exact hdriven
    | _ => cases hserve
  | apply _ effect =>
    rintro result rfl key hkey
    obtain ⟨phase, howns, -⟩ := hmay
    obtain ⟨rfl, hown⟩ := hruns effect key phase howns hkey
    cases answer with
    | applied =>
      cases hserve
      simp only [runtimeAnswers, hown, Bool.not_true, Bool.false_or, decide_eq_true_eq] at hdriven
      exact hdriven
    | _ => cases hserve
  | _ => trivial

/-- **Every event keeps the system consistent.** -/
lemma Consistent.step (hinv : hosted.Consistent env.toEnvironment)
    (h : hosted.step env event = some hosted') : hosted'.Consistent env.toEnvironment := by
  have hle := known_within h
  cases event with
  | reconcile =>
    simp only [Hosted.step, Option.ite_none_right_eq_some] at h
    obtain ⟨hdriven, h⟩ := h
    obtain ⟨_, hstep, rfl⟩ := Option.map_eq_some_iff.mp h
    refine ⟨hinv.sound.step hstep, ?_, hinv.inOrder.step hinv.sound.obedient hle ?_ ?_ hstep⟩
    · obtain hsame | ⟨call, hsource, hcall⟩ := System.step_store hinv.sound.obedient hstep
      · exact hsame ▸ hinv.linked
      · have hlinked : hosted.system.store.Linked := hinv.linked
        exact hlinked.step hinv.sound.rowsFollow hsource hcall
    · intro key effect heffect hstatus
      obtain hknown | hknown | hknown :=
        hinv.inOrder.present_step hinv.sound.obedient hstep heffect hstatus
      · exact hknown
      · exact fun key hkey => .inl (hknown key hkey)
      · exact fun key hkey => .inr (hknown key hkey)
    · rintro worker answer claim request next reply t rfl htask hserve
      exact hinv.covers hdriven htask hserve
  | protocol =>
    simp only [Hosted.step, Option.ite_none_right_eq_some] at h
    obtain ⟨hcall, h⟩ := h
    obtain ⟨_, hstep, rfl⟩ := Option.map_eq_some_iff.mp h
    have hcore := RuntimeStore.step_core hcall hstep
    refine ⟨⟨hinv.sound.obedient, ?_⟩, hinv.linked.of_core hcore, hinv.inOrder.of_core hcore hle⟩
    exact hinv.sound.rowsFollow.of_eq hcore.operations hcore.history

lemma consistent_of_run {events : List Event}
    (h : Run.run (Hosted.step env) initial events = some hosted) :
    hosted.Consistent env.toEnvironment :=
  Run.run_invariant (P := Consistent env.toEnvironment) (fun _ _ _ hinv hstep => hinv.step hstep)
    (consistent_initial _) h

/-- **The result of an invocation that has succeeded is the decoded result of its attempt.** -/
lemma Consistent.result (hinv : hosted.Consistent env.toEnvironment) {key : OperationKey}
    {op : Operation} (hop : hosted.runtime.store.db.operations.lookup key = some op)
    (hversion : op.stateMachineVersion = Invocation.stateMachineVersion)
    (hkey : key.RunsAt env.toEnvironment (key.effectKey env.toEnvironment .runInvocation))
    (hsucceeded : op.observedState = .succeeded) :
    ∃ row attempt members document,
      hosted.runtime.store.db.invocations.lookup (key.resource op) = some row ∧
      hosted.runtime.attempts.lookup key.attemptKey = some attempt ∧
      attempt.state = .succeeded members ∧ row.result = some document ∧
      (Json.object members).decoded = some document := by
  obtain ⟨row, hrow, -, hfollows⟩ := hinv.linked.operations key op hkey.kind hop
  obtain ⟨_, hrecorded, hread⟩ :=
    (hinv.inOrder.rows key op hop hkey.kind hversion).succeeded hsucceeded
  rw [← hfollows.copied] at hread
  rcases hrecorded key hkey with hobserved | happlied
  · obtain ⟨attempt, hattempt, hobserved⟩ := Option.bind_eq_some_iff.mp hobserved
    obtain ⟨members, document, hstate, rfl, hdecoded⟩ :=
      RuntimeAttempt.observedResult_eq_some hobserved
    refine ⟨row, attempt, members, document, hrow, hattempt, hstate, ?_, hdecoded⟩
    -- Decoding once more changes nothing.
    generalize row.result = result at hread
    cases hread with
    | observed => rfl
    | decoded hagain =>
      rw [Json.decoded_decoded hdecoded] at hagain
      exact hagain.symm
  · obtain ⟨attempt, hattempt, happlied⟩ := Option.bind_eq_some_iff.mp happlied
    obtain ⟨members, hstate, rfl⟩ := RuntimeAttempt.appliedResult_eq_some happlied
    generalize hresult : row.result = result at hread
    cases hread with
    | observed hseen =>
      have hobserved := hseen key hkey
      rw [hattempt, Option.bind_some] at hobserved
      obtain ⟨_, document, hstate', hsame, hdecoded⟩ :=
        RuntimeAttempt.observedResult_eq_some hobserved
      cases hstate.symm.trans hstate'
      exact ⟨row, attempt, members, document, hrow, hattempt, hstate, hresult.trans hsame, hdecoded⟩
    | @decoded _ document hdecoded =>
      exact ⟨row, attempt, members, document, hrow, hattempt, hstate, hresult, hdecoded⟩

end Hosted

namespace Scenario

/-- The two messages of this scenario, and what they say. -/
def small : String := "\x7b\"count\":42\x7d"

@[inherit_doc small]
def large : String := "\x7b\"count\":9007199254740993\x7d"

/-- The value of a message. -/
def countOf (n : ℚ) : Json :=
  .ofMembers [("count", .number n)]

/-- The decoder, for these two texts. -/
def parse (text : String) : Option Json :=
  if text = small then some (countOf 42)
  else if text = large then some (countOf 9007199254740993)
  else none

end Scenario

open Scenario

end DataGround
