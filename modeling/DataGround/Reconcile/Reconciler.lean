import DataGround.Library.Process
import DataGround.Persistence.Effect
import DataGround.Persistence.Transition

/-!
# The reconciler

`RunOne` claims one operation and takes it one step on.  Here is everything it does once it holds
the claim, as a process: its requests are the calls of the store and of the effect drivers, and
between two of them other workers, other callers and the clock go on.

The definitions follow `Reconciler` function by function.  An error that `RunOne` returns ends
the process; nothing is undone.
-/

namespace DataGround

/-- An error of an effect driver, by the sentinels that `errors.Is` finds in it. -/
structure EffectError where
  ambiguous : Bool := false
  denied : Bool := false
  invalid : Bool := false
  terminal : Bool := false
  retentionRequired : Bool := false
  deriving DecidableEq

/-- An error of a publication driver. -/
inductive PublishError where
  | leaseLost
  | effect (error : EffectError)
  deriving DecidableEq

/-- What `RunOne` returns when it fails. -/
inductive RunError where
  | store (error : RepositoryError)
  | joined (cause : EffectError) (error : RepositoryError)
  | unsupported (message : String)

/-- A call of the store or of a driver. -/
inductive Request where
  | now
  | advance (claim : Claim) (next : State) (result : Option Json)
  | fail (claim : Claim) (reason : OperationFailureReason)
  | scheduleRetry (claim : Claim) (classification : ErrorClassification) (errorCode : String)
      (dueAt : Time)
  | verifyEffectLease (claim : Claim)
  | insertEffect (claim : Claim) (phase : Phase) (requestDigest : String)
  | recordEffect (key : ResourceKey) (status : EffectStatus) (observation : Option Json)
      (errorCode : String)
  | observe (claim : Claim) (effect : EffectRecord)
  | apply (claim : Claim) (effect : EffectRecord)
  | publish (claim : Claim)

/-- The type of the reply.  `Observe` returns nothing if the effect was not observed; its result
and the one of `Apply` may be absent. -/
def Request.Reply : Request → Type
  | .now => Time
  | .insertEffect _ _ _ => Except RepositoryError EffectRecord
  | .observe _ _ => Except EffectError (Option (Option Json))
  | .apply _ _ => Except EffectError (Option Json)
  | .publish _ => Except PublishError Unit
  | _ => Except RepositoryError Unit

/-- What a worker does with a claim. -/
abbrev Worker (α : Type) :=
  Process Request Request.Reply α

/-- Which publication drivers a worker has. -/
structure Drivers where
  (governedPublication authorizedPublication : Bool)

namespace Reconciler

/-! ### The interfaces -/

def now : Worker Time :=
  Process.ask Request.now

/-- `Store.Advance`. -/
def storeAdvance (claim : Claim) (next : State) (result : Option Json) :
    Worker (Except RepositoryError Unit) :=
  Process.ask (Request.advance claim next result)

/-- `Store.Fail`. -/
def storeFail (claim : Claim) (reason : OperationFailureReason) :
    Worker (Except RepositoryError Unit) :=
  Process.ask (Request.fail claim reason)

/-- `Store.ScheduleRetry`. -/
def storeScheduleRetry (claim : Claim) (classification : ErrorClassification) (errorCode : String)
    (dueAt : Time) : Worker (Except RepositoryError Unit) :=
  Process.ask (Request.scheduleRetry claim classification errorCode dueAt)

/-- `Store.PrepareEffect`, in its two steps. -/
def storePrepareEffect (claim : Claim) (phase : Phase) (requestDigest : String) :
    Worker (Except RepositoryError EffectRecord) := do
  let lease : Except RepositoryError Unit ← Process.ask (Request.verifyEffectLease claim)
  match lease with
  | .error error => pure (.error error)
  | .ok () => Process.ask (Request.insertEffect claim phase requestDigest)

/-- `Store.RecordEffect`. -/
def storeRecordEffect (effect : EffectRecord) (status : EffectStatus)
    (observation : Option Json) (errorCode : String) : Worker (Except RepositoryError Unit) :=
  Process.ask (Request.recordEffect effect.key status observation errorCode)

def observeWithClaim (claim : Claim) (effect : EffectRecord) :
    Worker (Except EffectError (Option (Option Json))) :=
  Process.ask (Request.observe claim effect)

def applyWithClaim (claim : Claim) (effect : EffectRecord) :
    Worker (Except EffectError (Option Json)) :=
  Process.ask (Request.apply claim effect)

/-- `PublishClaimed` and `PublishAuthorizedClaimed`. -/
def publishClaimed (claim : Claim) : Worker (Except PublishError Unit) :=
  Process.ask (Request.publish claim)

/-- A call of the store that `RunOne` ends with. -/
def ending (call : Worker (Except RepositoryError Unit)) : Worker (Except RunError Unit) := do
  match ← call with
  | .ok () => pure (.ok ())
  | .error error => pure (.error (.store error))

/-! ### Retry and rejection -/

/-- One second. -/
def second : Time := 1000000000

def retry (claim : Claim) (cause : EffectError) : Worker (Except RunError Unit) := do
  let time ← now
  ending (storeScheduleRetry claim
    (if cause.ambiguous then .unknown else .retryable)
    (if cause.retentionRequired then "WORKSPACE_RETENTION_REQUIRED" else "RECONCILIATION_RETRY")
    (time + 2 ^ min claim.attempt 6 * second))

def effectRejection (effect : EffectRecord) (cause : EffectError) :
    Option (OperationFailureReason × String) :=
  if cause.denied then some (.effectDenied, "EXTERNAL_EFFECT_DENIED")
  else if cause.invalid then some (.effectInvalid, "EXTERNAL_EFFECT_INVALID")
  else if cause.terminal && effect.effect.operationKind = .invocation &&
      effect.effect.phase = .runInvocation then
    some (.runtime, "EXTERNAL_EFFECT_TERMINAL_FAILURE")
  else none

/-- `Reconciler.rejectEffect`, for a cause that `effectRejection` rejects. -/
def rejectEffect (claim : Claim) (effect : EffectRecord) (cause : EffectError)
    (reason : OperationFailureReason) (code : String) : Worker (Except RunError Unit) := do
  match ← storeRecordEffect effect .failed none code with
  | .error error => pure (.error (.joined cause error))
  | .ok () => ending (storeFail claim reason)

/-! ### Effects -/

variable (env : Environment)

/-- The digest of the request of an effect. -/
def requestDigest (claim : Claim) (phase : Phase) : String :=
  env.digest (claim.key.isolationDomainId ++ ":" ++ claim.key.id ++ ":" ++ phase.text)

/-- The end of `applyEffect`: the effect is known to have succeeded. -/
def settleEffect (claim : Claim) (effect : EffectRecord) (result : Option Json) (next : State) :
    Worker (Except RunError Unit) := do
  match ← storeRecordEffect effect .succeeded result "" with
  | .error _ =>
    -- The effect may have succeeded: the next worker observes it before any repeat.
    retry claim { ambiguous := true }
  | .ok () => ending (storeAdvance claim next none)

def applyEffect (claim : Claim) (phase : Phase) (next : State) : Worker (Except RunError Unit) := do
  if effectAllowed claim.key.kind claim.command claim.observedState phase then
    match ← storePrepareEffect claim phase (requestDigest env claim phase) with
    | .error error => pure (.error (.store error))
    | .ok effect =>
      match ← observeWithClaim claim effect with
      | .error cause =>
        match effectRejection effect cause with
        | some (reason, code) => rejectEffect claim effect cause reason code
        | none => retry claim cause
      | .ok (some result) => settleEffect claim effect result next
      | .ok none =>
        match ← applyWithClaim claim effect with
        | .ok result => settleEffect claim effect result next
        | .error cause =>
          match effectRejection effect cause with
          | some (reason, code) => rejectEffect claim effect cause reason code
          | none =>
            match ← storeRecordEffect effect (if cause.ambiguous then .unknown else .failed) none
                "EXTERNAL_EFFECT_UNCONFIRMED" with
            | .error error => pure (.error (.joined cause error))
            | .ok () => retry claim cause
  else
    pure (.error (.unsupported ("operation \"" ++ claim.key.kind.text ++ "\" in state \"" ++
      claim.observedState.text ++ "\" does not allow effect \"" ++ phase.text ++ "\"")))

/-- `Reconciler.observeEffect`.  An error of the store has none of the sentinels. -/
def observeEffect (claim : Claim) (phase : Phase) :
    Worker (Except EffectError (Option (Option Json))) := do
  match ← storePrepareEffect claim phase (requestDigest env claim phase) with
  | .error _ => pure (.error {})
  | .ok effect =>
    if effect.effect.status = .succeeded then
      pure (.ok (some effect.effect.observation))
    else
      match ← observeWithClaim claim effect with
      | .error cause => pure (.error cause)
      | .ok none => pure (.ok none)
      | .ok (some result) =>
        match ← storeRecordEffect effect .succeeded result "" with
        | .error _ => pure (.error {})
        | .ok () => pure (.ok (some result))

/-- The end of an operation whose last effect is observed. -/
def finishObserved (claim : Claim) (phase : Phase) (next : State) :
    Worker (Except RunError Unit) := do
  match ← observeEffect env claim phase with
  | .error cause => retry claim cause
  | .ok none => retry claim { ambiguous := true }
  | .ok (some result) => ending (storeAdvance claim next result)

/-! ### Dispatch -/

def advancePublication (drivers : Drivers) (claim : Claim) : Worker (Except RunError Unit) := do
  let authorized := Publication.isAuthorizedDevelopmentVersion claim.stateMachineVersion
  if claim.stateMachineVersion = Publication.queuedDevelopmentVersion ∨ authorized then
    if claim.command = .cancel then
      ending (storeAdvance claim .cancelled none)
    else if authorized && !drivers.authorizedPublication then
      pure (.error (.unsupported "authorized publication verifier is required"))
    else if !authorized && !drivers.governedPublication then
      pure (.error (.unsupported "governed publication verifier is required"))
    else
      match claim.observedState with
      | .queued => ending (storeAdvance claim .validating none)
      | .validating =>
        match ← publishClaimed claim with
        | .ok () => pure (.ok ())
        | .error .leaseLost => pure (.error (.store .leaseLost))
        | .error (.effect cause) => retry claim cause
      | _ => pure (.error (.unsupported "governed publication state is invalid"))
  else if claim.stateMachineVersion ≠ Publication.stateMachineVersion then
    pure (.error (.unsupported "publication state machine version is unsupported"))
  else if claim.command = .cancel then
    ending (storeAdvance claim .cancelled none)
  else
    match claim.observedState with
    | .queued => ending (storeAdvance claim .validating none)
    | .validating => ending (storeAdvance claim .applying none)
    | .applying => applyEffect env claim .publishRevision .observing
    | .observing => finishObserved env claim .publishRevision .published
    | state => pure (.error (.unsupported ("publication state \"" ++ state.text ++
        "\" is not reconcilable")))

def advanceInvocationV1 (claim : Claim) : Worker (Except RunError Unit) :=
  match claim.observedState with
  | .queued => ending (storeAdvance claim .starting none)
  | .starting => applyEffect env claim .startInvocation .observing
  | .observing => finishObserved env claim .startInvocation .succeeded
  | state => pure (.error (.unsupported ("version 1 invocation state \"" ++ state.text ++
      "\" is not reconcilable")))

def advanceInvocationV2 (claim : Claim) : Worker (Except RunError Unit) :=
  match claim.observedState with
  | .queued => ending (storeAdvance claim .starting none)
  | .starting => applyEffect env claim .startInvocation .running
  | .running => applyEffect env claim .runInvocation .observing
  | .observing => finishObserved env claim .runInvocation .succeeded
  | state => pure (.error (.unsupported ("version 2 invocation state \"" ++ state.text ++
      "\" is not reconcilable")))

def advanceInvocation (claim : Claim) : Worker (Except RunError Unit) :=
  if claim.stateMachineVersion = 1 then
    if claim.command = .cancel then
      if claim.observedState ≠ .cancelling then ending (storeAdvance claim .cancelling none)
      else ending (storeAdvance claim .cancelled none)
    else advanceInvocationV1 env claim
  else if claim.stateMachineVersion = Invocation.stateMachineVersion then
    if claim.command = .cancel then
      if claim.observedState ≠ .cancelling then ending (storeAdvance claim .cancelling none)
      else applyEffect env claim .cancelInvocation .cancelled
    else advanceInvocationV2 env claim
  else
    pure (.error (.unsupported ("invocation state machine version " ++
      toString claim.stateMachineVersion ++ " is unsupported")))

def advance (drivers : Drivers) (claim : Claim) : Worker (Except RunError Unit) :=
  match claim.key.kind with
  | .publication => advancePublication env drivers claim
  | .invocation => advanceInvocation env claim

/-- `Reconciler.RunOne`, from the claim on. -/
def runOne (drivers : Drivers) (claim : Claim) : Worker (Except RunError Unit) := do
  let time ← now
  if claim.deadlineAt ≤ time then ending (storeFail claim .deadline)
  else advance env drivers claim

end Reconciler

end DataGround
