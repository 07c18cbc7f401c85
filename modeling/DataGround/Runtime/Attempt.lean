import DataGround.Runtime.Workspace

/-!
# Runtime attempts

An operation has at most one runtime attempt, the permission to start one native turn:

* `BeginInvocationRuntimeAttempt` reserves it;
* `CompleteInvocationRuntimeAttempt` and `FailInvocationRuntimeAttempt` finish it with a result
  (`finishInvocationRuntimeAttempt`);
* `PrepareInvocationRuntimeOutputFailure` freezes a turn that came to an end with an output that
  the revision does not accept: the result that will be its failure is recorded before the output
  is retained as an artifact.

As with the preparations, a method is in two parts: the checks of claim and effect, and a
transaction that decides on rows that it holds or checks again.  `RuntimeAttempt.finish` and
`RuntimeAttempt.freeze` are the two statements that update an attempt.
-/

namespace DataGround

open Transaction

/-! ### Messages and artifacts -/

/-- `^sha256:[0-9a-f]{64}$`. -/
def sha256Matches (text : String) : Bool :=
  let rest := text.toList.drop 7
  text.toList.take 7 = "sha256:".toList && rest.length = 64 &&
    rest.all fun c => ('a' ≤ c && c ≤ 'f') || ('0' ≤ c && c ≤ '9')

/-- The phases of a message. -/
def messagePhases : List String :=
  ["commentary", "final", "unspecified"]

structure CompletedMessage where
  (text phase : String)
  deriving DecidableEq

def parseCompletedMessage (payload : Members) : Option CompletedMessage :=
  match (Json.object payload).text? "text", (Json.object payload).text? "phase" with
  | some text, some phase =>
    if Json.memberCount payload = 2 ∧ text.utf8ByteSize ≤ 1048576 ∧ phase ∈ messagePhases then
      some ⟨text, phase⟩
    else none
  | _, _ => none

structure MessageArtifact where
  (artifactId digest : String)
  sizeBytes : Int
  (phase preview : String)
  deriving DecidableEq

/-- An integer member. -/
def Json.int? (key : String) (document : Json) : Option Int :=
  match document.get? key with
  | some (.number value) => if value.den = 1 then some value.num else none
  | _ => none

def parseMessageArtifact (payload : Members) : Option MessageArtifact := do
  let document := Json.object payload
  let artifactId ← document.text? "artifactId"
  let digest ← document.text? "digest"
  let phase ← document.text? "phase"
  let preview ← document.text? "preview"
  let sizeBytes ← document.int? "sizeBytes"
  if Json.memberCount payload = 5 ∧ Writer.idMatches "art" artifactId = true ∧
      sha256Matches digest = true ∧ 0 < sizeBytes ∧ sizeBytes ≤ 1048576 ∧
      preview.utf8ByteSize ≤ 1024 ∧ '\x00' ∉ preview.toList ∧ phase ∈ messagePhases then
    some ⟨artifactId, digest, sizeBytes, phase, preview⟩
  else none

/-- The event of an invocation that a runtime numbered with `sequence`. -/
def Database.runtimeEvent (db : Database) (invocation : ResourceKey) (sequence : Nat) :
    Option InvocationEvent :=
  db.events.find? fun event => event.invocation = invocation && event.sourceSequence = some sequence

/-- An event of the runtime after `sequence` that is a message, and not commentary. -/
def InvocationEvent.IsLaterOutput (sequence : Nat) (event : InvocationEvent) : Prop :=
  event.eventType ∈ ["output.message.completed", "output.message.artifact"] ∧
    (∃ phase ∈ event.payload.text? "phase", phase ≠ "commentary") ∧
    ∃ later ∈ event.sourceSequence, sequence < later

instance (sequence : Nat) (event : InvocationEvent) : Decidable (event.IsLaterOutput sequence) :=
  inferInstanceAs (Decidable (_ ∧ _ ∧ _))

/-- The turn came to its end after the message `sequence`, and that message is its output. -/
def Database.OutputComplete (db : Database) (invocation : ResourceKey) (sequence : Nat) : Prop :=
  (∃ event ∈ db.events, event.invocation = invocation ∧ event.eventType = "lifecycle.succeeded" ∧
    ∃ later ∈ event.sourceSequence, sequence < later) ∧
  ∀ event ∈ db.events, event.invocation = invocation → event.sourceSequence ≠ none →
    event.eventType ∉ ["lifecycle.failed", "lifecycle.cancelled"] ∧ ¬ event.IsLaterOutput sequence

instance (db : Database) (invocation : ResourceKey) (sequence : Nat) :
    Decidable (db.OutputComplete invocation sequence) :=
  inferInstanceAs (Decidable (_ ∧ _))

/-! ### The statements -/

/-- The two ways in which an attempt is finished. -/
inductive AttemptOutcome where
  | succeeded
  | failed
  deriving DecidableEq

/-- The state of a finished attempt. -/
def AttemptOutcome.state : AttemptOutcome → Members → AttemptState
  | .succeeded => .succeeded
  | .failed => .failed

namespace RuntimeAttempt

/-- The row that `BeginInvocationRuntimeAttempt` inserts. -/
def reservedBy (claim : Claim) (effectId : String) : RuntimeAttempt where
  effectId := effectId
  leaseOwner := claim.leaseOwner
  fencingToken := claim.fencingToken
  state := .reserved

/-- The `UPDATE` of `finishInvocationRuntimeAttempt`; `retained` says that the artifact named by the
result is there. -/
def finish (claim : Claim) (effectId : String) (outcome : AttemptOutcome) (result : Members)
    (retained : Bool) (attempt : RuntimeAttempt) : Option RuntimeAttempt :=
  if attempt.effectId = effectId ∧ attempt.leaseOwner = claim.leaseOwner ∧
      attempt.fencingToken = claim.fencingToken ∧ (attempt.state = .reserved ∨
        (attempt.state = .outputInvalid result ∧ outcome = .failed ∧ retained = true)) then
    some { attempt with state := outcome.state result }
  else none

/-- The `UPDATE` of `PrepareInvocationRuntimeOutputFailure`. -/
def freeze (claim : Claim) (effectId : String) (result : Members) (attempt : RuntimeAttempt) :
    Option RuntimeAttempt :=
  if attempt.effectId = effectId ∧
      ((attempt.state = .reserved ∧ attempt.leaseOwner = claim.leaseOwner ∧
        attempt.fencingToken = claim.fencingToken) ∨ attempt.state = .outputInvalid result) then
    some { attempt with
      leaseOwner := claim.leaseOwner, fencingToken := claim.fencingToken
      state := .outputInvalid result }
  else none

/-- The row as `getInvocationRuntimeAttempt` returns it: its result has been through
`json.Unmarshal`. -/
def decoded (attempt : RuntimeAttempt) : Option RuntimeAttempt :=
  match attempt.state with
  | .reserved => some attempt
  | .outputInvalid result =>
    (Members.mapNumbers Binary64.decode result).map ({ attempt with state := .outputInvalid · })
  | .succeeded result =>
    (Members.mapNumbers Binary64.decode result).map ({ attempt with state := .succeeded · })
  | .failed result =>
    (Members.mapNumbers Binary64.decode result).map ({ attempt with state := .failed · })

end RuntimeAttempt

/-- The trigger `preserve_runtime_output_retention`. -/
def preserveRuntimeOutputRetention (old new : RuntimeAttempt) : Bool :=
  match old.state, new.state with
  | .outputInvalid frozen, .outputInvalid result => result = frozen && new.effectId = old.effectId
  | .outputInvalid frozen, .failed result => result = frozen && new.effectId = old.effectId
  | .outputInvalid _, _ => false
  | _, _ => true

/-- The trigger `require_workspace_preparation_for_runtime`. -/
def requireWorkspacePreparationForRuntime (s : RuntimeStore) (clock : Time) (key : ResourceKey)
    (row : RuntimeAttempt) : Prop :=
  row.state = .reserved → (∃ plan ∈ s.plan key, plan.workspaceSource ≠ none) →
    (∃ preparation ∈ s.preparations.lookup ⟨key, row.fencingToken⟩,
      preparation.leaseOwner = row.leaseOwner ∧ preparation.effectId = row.effectId) ∧
    (⟨key, row.fencingToken⟩ : PreparationKey) ∈ s.completions ∧
    ∃ op ∈ s.operation key, op.LeasedTo row.leaseOwner row.fencingToken clock ∧ op.Running ∧
      op.stateMachineVersion = 2

instance (s : RuntimeStore) (clock : Time) (key : ResourceKey) (row : RuntimeAttempt) :
    Decidable (requireWorkspacePreparationForRuntime s clock key row) :=
  inferInstanceAs (Decidable (_ → _ → _))

/-- No attempt stands in the way of a new one: neither of the operation nor of the effect. -/
def RuntimeStore.AttemptFree (s : RuntimeStore) (key : ResourceKey) (effectId : String) : Prop :=
  key ∉ s.attempts ∧ ∀ entry ∈ s.attempts.entries,
    entry.1.isolationDomainId = key.isolationDomainId → entry.2.effectId ≠ effectId

instance (s : RuntimeStore) (key : ResourceKey) (effectId : String) :
    Decidable (s.AttemptFree key effectId) :=
  inferInstanceAs (Decidable (_ ∧ _))

/-- The state with a new version of an attempt. -/
def RuntimeStore.putAttempt (s : RuntimeStore) (key : ResourceKey) (attempt : RuntimeAttempt) :
    RuntimeStore :=
  { s with attempts := s.attempts.insert key attempt }

variable (env : Environment)

namespace Repository

def getInvocationRuntimeAttempt (key : ResourceKey) : RuntimeMethod RuntimeAttempt := do
  let s ← read
  let row ← demand (s.attempts.lookup key) attemptMissing
  let attempt ← demand row.decoded (.refused "decode invocation runtime result")
  require (attempt.effectId ≠ "" ∧ attempt.leaseOwner ≠ "" ∧ 0 < attempt.fencingToken)
    attemptConflict
  pure attempt

/-- The `INSERT … ON CONFLICT DO NOTHING` of an attempt, and whether it inserted a row. -/
def insertAttempt (clock : Time) (key : ResourceKey) (row : RuntimeAttempt) :
    RuntimeMethod Bool := do
  let s ← read
  require (requireWorkspacePreparationForRuntime s clock key row)
    (.refused "runtime requires completed workspace preparation")
  if s.AttemptFree key row.effectId then do
    modify fun s => s.putAttempt key row
    pure true
  else pure false

/-- An `UPDATE` of an attempt, and whether it affected a row. -/
def updateAttempt (key : ResourceKey) (update : RuntimeAttempt → Option RuntimeAttempt) :
    RuntimeMethod Bool := do
  let s ← read
  match s.attempts.lookup key with
  | none => pure false
  | some old =>
    match update old with
    | none => pure false
    | some row => do
      require (preserveRuntimeOutputRetention old row = true)
        (.refused "runtime output retention intent is immutable")
      modify fun s => s.putAttempt key row
      pure true

/-- `BeginInvocationRuntimeAttempt` after the checks of claim and effect. -/
def reserveAttempt (claim : Claim) (effect : EffectRecord) (clock : Time) :
    RuntimeMethod RuntimeAttempt := do
  requireWorkspaceCompletion claim effect clock
  let inserted ← insertAttempt clock claim.operationKey (.reservedBy claim effect.key.id)
  let attempt ← getInvocationRuntimeAttempt claim.operationKey
  require (attempt.effectId = effect.key.id) attemptConflict
  require (inserted = true) attemptAmbiguous
  pure attempt

def beginInvocationRuntimeAttempt (m : Moment) (claim : Claim) (effect : EffectRecord) :
    RuntimeMethod RuntimeAttempt := do
  require (Writer.validInvocationRuntimeAttempt env claim effect = true) attemptInvalid
  let _ ← lockInvocationRuntimeClaim claim m.now
  verifyInvocationRuntimeEffect effect
  reserveAttempt claim effect m.clock

/-- `findInvocationArtifactRecord` and the checks of `getRuntimeMessageArtifact`. -/
def getRuntimeMessageArtifact (claim : Claim) (invocationId : String) (sequence : Nat)
    (reference : MessageArtifact) : RuntimeMethod ArtifactRecord := do
  require (reference.artifactId = derived env "art" (claim.key.isolationDomainId ++ ":" ++
    invocationId ++ ":runtime-message:" ++ toString sequence)) Writer.eventInvalid
  let s ← read
  let record ← demand (s.artifacts.lookup ⟨claim.key.isolationDomainId, reference.artifactId⟩)
    Writer.eventInvalid
  require (record.id = reference.artifactId ∧ record.invocationId = invocationId ∧
    record.operationId = claim.key.id ∧
    record.effectId = (claim.key.effectKey env .runInvocation).id ∧
    record.digest = reference.digest ∧ record.sizeBytes = reference.sizeBytes ∧
    record.name = "Completed runtime message" ∧ record.kind = "file" ∧
    record.mediaType = "text/plain; charset=utf-8" ∧ record.sensitive = true) Writer.eventInvalid
  pure record

/-- The payload of an event, which is always an object. -/
def payloadMembers (payload : Json) : Option Members :=
  match payload with
  | .object members => some members
  | _ => none

/-- The members of a result that refers to an artifact: `DisallowUnknownFields`. -/
def artifactResultFields : List String :=
  ["outputArtifact", "schemaVersion", "status"]

/-- `verifyRuntimeArtifactResult`: the result names the artifact of the turn's last message. -/
def verifyRuntimeArtifactResult (claim : Claim) (result : Members) : RuntimeMethod Unit := do
  let document := Json.object result
  let output ← demand (document.get? "outputArtifact") attemptInvalid
  require (Json.memberCount result = 3 ∧
    (∀ field ∈ artifactResultFields, document.get? field ≠ none) ∧
    document.text? "schemaVersion" = some "dataground.invocation-artifact-result/v1" ∧
    document.text? "status" = some "succeeded" ∧
    output.text? "mediaType" = some "text/plain; charset=utf-8") attemptInvalid
  let s ← read
  let event ← demand (s.store.db.events.find? fun event =>
    event.invocation = claim.resource && event.eventType = "output.message.artifact" &&
      event.payload.text? "phase" ≠ some "commentary" &&
      event.payload.text? "artifactId" = output.text? "artifactId" &&
      decide (∃ sequence ∈ event.sourceSequence,
        s.store.db.OutputComplete claim.resource sequence)) attemptConflict
  let sequence ← demand event.sourceSequence attemptConflict
  let payload ← demand (payloadMembers event.payload) attemptConflict
  let reference ← demand (parseMessageArtifact payload)
    (.refused "invocation artifact conflicts with persisted metadata")
  require (output.text? "digest" = some reference.digest ∧
    output.int? "sizeBytes" = some reference.sizeBytes)
    (.refused "invocation artifact conflicts with persisted metadata")
  let _ ← getRuntimeMessageArtifact env claim claim.resourceId sequence reference
  pure ()

/-- The result refers to an artifact. -/
def namesArtifact (result : Members) : Bool :=
  (Json.object result).get? "outputArtifact" ≠ none ||
    (Json.object result).text? "schemaVersion" = some "dataground.invocation-artifact-result/v1"

/-- The checks of a result that refers to an artifact. -/
def checkArtifactResult (claim : Claim) (outcome : AttemptOutcome) (result : Members) : RuntimeMethod Unit :=
  if namesArtifact result then do
    require (outcome = .succeeded) attemptInvalid
    verifyRuntimeArtifactResult env claim result
  else pure ()

/-- The artifact that a frozen failure names is retained. -/
def artifactRetained (s : RuntimeStore) (key : ResourceKey) (effectId : String)
    (result : Members) : Bool :=
  match (Json.object result).text? "artifactId" with
  | none => false
  | some id =>
    match s.artifacts.lookup ⟨key.isolationDomainId, id⟩ with
    | none => false
    | some record => record.operationId = key.id && record.effectId = effectId &&
        some record.digest = (Json.object result).text? "artifactDigest"

def maximumInvocationRuntimeResultBytes : Nat := 262144

/-- `finishInvocationRuntimeAttempt` after the checks of claim and effect. -/
def settleAttempt (env : RuntimeEnvironment) (m : Moment) (claim : Claim) (effect : EffectRecord)
    (outcome : AttemptOutcome) (result : Members) : RuntimeMethod RuntimeAttempt := do
  checkArtifactResult env.toEnvironment claim outcome result
  let s ← read
  let live := decide (∃ op ∈ s.operation claim.operationKey,
    op.Running ∧ op.LeasedTo claim.leaseOwner claim.fencingToken m.clock)
  let changed ← updateAttempt claim.operationKey fun attempt =>
    if live then
      attempt.finish claim effect.key.id outcome result
        (artifactRetained s claim.operationKey effect.key.id result)
    else none
  let attempt ← getInvocationRuntimeAttempt claim.operationKey
  require (attempt.effectId = effect.key.id) attemptConflict
  require (changed = true ∨ attempt.state ≠ .reserved) attemptAmbiguous
  -- A replay of the same outcome is read-only; it is compared after the result was decoded.
  require (changed = true ∨ attempt.state = outcome.state result) attemptConflict
  pure attempt

/-- The result is small enough to be recorded. -/
def resultFits (env : RuntimeEnvironment) (result : Members) : Bool :=
  env.encodedLength (.object result) ≤ maximumInvocationRuntimeResultBytes

def finishInvocationRuntimeAttempt (env : RuntimeEnvironment) (m : Moment) (claim : Claim)
    (effect : EffectRecord) (outcome : AttemptOutcome) (result : Option Members) :
    RuntimeMethod RuntimeAttempt := do
  require (Writer.validInvocationRuntimeAttempt env.toEnvironment claim effect = true)
    attemptInvalid
  let result ← demand result attemptInvalid
  require (resultFits env result = true) attemptInvalid
  let _ ← lockInvocationRuntimeClaim claim m.now
  verifyInvocationRuntimeEffect effect
  settleAttempt env m claim effect outcome result

/-! ### Output that the revision does not accept -/

/-- What `PrepareInvocationRuntimeOutputFailure` returns. -/
structure OutputFailure where
  record : ArtifactRecord
  content : Option String
  result : Members
  retained : Bool
  deriving DecidableEq

/-- `strconv.ParseUint(text, 10, 63)`. -/
def parseUint63 (text : String) : Option Nat :=
  if text.toList ≠ [] ∧ text.toList.all Char.isDigit ∧ Nat.ofDigitChars 10 text.toList 0 < 2 ^ 63 then
    some (Nat.ofDigitChars 10 text.toList 0)
  else none

lemma parseUint63_toString {n : Nat} (h : n < 2 ^ 63) : parseUint63 (toString n) = some n := by
  have hlist : (toString n).toList = Nat.toDigits 10 n := by
    rw [Nat.toString_eq_ofList_toDigits, String.toList_ofList]
  have hvalue : Nat.ofDigitChars 10 (Nat.toDigits 10 n) 0 = n := Nat.ofDigitChars_ten_toDigits
  rw [parseUint63, hlist, hvalue]
  refine if_pos ⟨Nat.toDigits_ne_nil, ?_, h⟩
  exact List.all_eq_true.mpr fun c hc => Nat.isDigit_of_mem_toDigits (by decide) (by decide) hc

/-- The message whose output is frozen: the one the worker names for a reserved attempt, the one of
the frozen result otherwise. -/
def frozenSequence (claim : Claim) (attempt : RuntimeAttempt) (sequence : Nat) :
    Except RepositoryError Nat :=
  match attempt.state with
  | .reserved =>
    if sequence = 0 ∨ attempt.leaseOwner ≠ claim.leaseOwner ∨
        attempt.fencingToken ≠ claim.fencingToken then .error attemptAmbiguous
    else .ok sequence
  | .outputInvalid result =>
    match (Json.object result).text? "sourceSequence" with
    | none => .error attemptConflict
    | some text =>
      match parseUint63 text with
      | none => .error attemptConflict
      | some frozen =>
        if frozen = 0 ∨ (sequence ≠ 0 ∧ sequence ≠ frozen) then .error attemptConflict
        else .ok frozen
  | .succeeded _ | .failed _ => .error attemptConflict

/-- The artifact that will hold a message that is too short to have one already. -/
def invalidResultRecord (claim : Claim) (effect : EffectRecord) (invocationId text : String) :
    ArtifactRecord where
  id := derived env "art" (claim.key.isolationDomainId ++ ":" ++ invocationId ++
    ":runtime-result:invalid")
  invocationId := invocationId
  operationId := claim.key.id
  effectId := effect.key.id
  name := "Invalid runtime result"
  kind := "file"
  mediaType := "text/plain; charset=utf-8"
  sizeBytes := text.utf8ByteSize
  digest := "sha256:" ++ env.digest text
  sensitive := true

/-- The artifact of the message, and its content if it still has to be stored. -/
def outputArtifact (claim : Claim) (effect : EffectRecord) (invocationId : String) (sequence : Nat)
    (event : InvocationEvent) :
    RuntimeMethod (ArtifactRecord × Option String) := do
  let payload ← demand (payloadMembers event.payload) attemptInvalid
  if event.eventType = "output.message.completed" then do
    let message ← demand (parseCompletedMessage payload) attemptInvalid
    require (message.text.utf8ByteSize ≤ 65536 ∧ message.phase ≠ "commentary") attemptInvalid
    pure (invalidResultRecord env claim effect invocationId message.text, some message.text)
  else if event.eventType = "output.message.artifact" then do
    let reference ← demand (parseMessageArtifact payload) attemptInvalid
    require (reference.phase ≠ "commentary") attemptInvalid
    let record ← getRuntimeMessageArtifact env claim invocationId sequence reference
    pure (record, none)
  else Transaction.fail attemptInvalid

/-- The result that is frozen. -/
def outputFailureResult (sequence : Nat) (record : ArtifactRecord) : Members :=
  .cons "artifactDigest" (.string record.digest) <| .cons "artifactId" (.string record.id) <|
    .cons "code" (.string "RUNTIME_OUTPUT_INVALID") <|
      .cons "sizeBytes" (.number record.sizeBytes) <|
        .cons "sourceSequence" (.string (toString sequence)) <|
          .cons "status" (.string "failed") .nil

/-- `PrepareInvocationRuntimeOutputFailure` after the checks of claim and effect. -/
def freezeAttempt (m : Moment) (claim : Claim) (effect : EffectRecord) (invocationId : String)
    (sequence : Nat) : RuntimeMethod OutputFailure := do
  let attempt ← getInvocationRuntimeAttempt claim.operationKey
  require (attempt.effectId = effect.key.id) attemptConflict
  let sequence ← ofExcept (frozenSequence claim attempt sequence)
  let s ← read
  let invocation : ResourceKey := ⟨claim.key.isolationDomainId, invocationId⟩
  require (sequence < 2 ^ 63) (.refused "read invocation runtime event")
  let event ← demand (s.store.db.runtimeEvent invocation sequence) attemptInvalid
  let (record, content) ← outputArtifact env claim effect invocationId sequence event
  require (s.store.db.OutputComplete invocation sequence) attemptInvalid
  let result := outputFailureResult sequence record
  let live := decide (∃ op ∈ s.operation claim.operationKey, op.command = claim.command ∧
    op.observedState = .running ∧ op.LeasedTo claim.leaseOwner claim.fencingToken m.clock)
  let changed ← updateAttempt claim.operationKey fun attempt =>
    if live then attempt.freeze claim effect.key.id result else none
  -- `errors.Join(ErrLeaseLost, ErrInvocationRuntimeAttemptConflict)`
  require (changed = true) .leaseLost
  pure ⟨record, content, result, content = none⟩

def prepareInvocationRuntimeOutputFailure (m : Moment) (claim : Claim) (effect : EffectRecord)
    (sequence : Nat) : RuntimeMethod OutputFailure := do
  require (Writer.validInvocationRuntimeAttempt env claim effect = true) attemptInvalid
  let invocationId ← lockInvocationRuntimeClaim claim m.now
  verifyInvocationRuntimeEffect effect
  freezeAttempt env m claim effect invocationId sequence

end Repository

/-! ### Reads change nothing -/

open Repository

lemma readOnly_getInvocationRuntimeAttempt (key : ResourceKey) :
    ReadOnly (getInvocationRuntimeAttempt key) :=
  .bind .read fun _ => .bind (.demand _ _) fun _ => .bind (.demand _ _) fun _ =>
    .bind (.require _ _) fun _ => .pure _

lemma readOnly_getRuntimeMessageArtifact (claim : Claim) (invocationId : String) (sequence : Nat)
    (reference : MessageArtifact) :
    ReadOnly (getRuntimeMessageArtifact env claim invocationId sequence reference) :=
  .bind (.require _ _) fun _ => .bind .read fun _ => .bind (.demand _ _) fun _ =>
    .bind (.require _ _) fun _ => .pure _

lemma readOnly_checkArtifactResult (claim : Claim) (outcome : AttemptOutcome) (result : Members) :
    ReadOnly (checkArtifactResult env claim outcome result) := by
  unfold checkArtifactResult
  split
  · exact .bind (.require _ _) fun _ => .bind (.demand _ _) fun _ => .bind (.require _ _) fun _ =>
      .bind .read fun _ => .bind (.demand _ _) fun _ => .bind (.demand _ _) fun _ =>
        .bind (.demand _ _) fun _ => .bind (.demand _ _) fun _ => .bind (.require _ _) fun _ =>
          .bind (readOnly_getRuntimeMessageArtifact _ _ _ _ _) fun _ => .pure _
  · exact .pure _

lemma readOnly_outputArtifact (claim : Claim) (effect : EffectRecord) (invocationId : String)
    (sequence : Nat) (event : InvocationEvent) :
    ReadOnly (outputArtifact env claim effect invocationId sequence event) := by
  refine .bind (.demand _ _) fun _ => ?_
  split
  · exact .bind (.demand _ _) fun _ => .bind (.require _ _) fun _ => .pure _
  · split
    · exact .bind (.demand _ _) fun _ => .bind (.require _ _) fun _ =>
        .bind (readOnly_getRuntimeMessageArtifact _ _ _ _ _) fun _ => .pure _
    · exact .fail _

end DataGround
