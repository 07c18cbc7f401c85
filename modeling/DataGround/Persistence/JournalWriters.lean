import DataGround.Persistence.Journal

/-!
# The writers of the journal: lifecycle and runtime events

The methods of the repository that write events, by their statements.  What these do to the rows of operations and invocations is modelled in `Persistence.Command` and
`Persistence.Transition`; here such a statement is a `change` under its error text.
-/

namespace DataGround

open Process (ask)

/-- What the journal's writers take from outside. -/
structure RuntimeEnvironment extends Environment where
  /-- The length of the encoding of a document. -/
  encodedLength : Json → ℕ
  /-- The parsers for the payloads of the event types that have one. -/
  payloadParses : String → Json → Bool
  /-- `json.Marshal` of a decoded document.  Numbers go through binary64. -/
  reencode : Json → Option Json
  /-- A time in `RFC3339Nano`. -/
  formatTime : Time → String
  /-- `domain.ValidateQuestionPrompts`. -/
  validQuestionPrompts : Json → Bool
  /-- `domain.ValidateQuestionAnswers`. -/
  validQuestionAnswers : Json → Json → Bool

/-- A part of a transaction. -/
abbrev JournalAction (α : Type) :=
  ExceptT RepositoryError (Process JournalStatement JournalStatement.Reply) α

namespace Writer

/-- One statement; its error is wrapped. -/
def attemptWith (wrap : RepositoryError → RepositoryError) (statement : JournalStatement) :
    JournalAction statement.Value :=
  ExceptT.mk do
    match ← ask statement with
    | .ok value => pure (.ok value)
    | .error error => pure (.error (wrap error))

/-- One statement, whose error is returned as it is. -/
abbrev attempt (statement : JournalStatement) : JournalAction statement.Value :=
  attemptWith id statement

/-- One statement, whose error is wrapped in a text. -/
abbrev attemptAs (text : String) (statement : JournalStatement) : JournalAction statement.Value :=
  attemptWith (fun _ => .refused text) statement

/-- Go on only if the condition holds. -/
def check (condition : Prop) [Decidable condition] (error : RepositoryError) : JournalAction Unit :=
  if condition then pure () else throw error

/-- The value, if there is one. -/
def demand {α : Type} (value : Option α) (error : RepositoryError) : JournalAction α :=
  match value with
  | some a => pure a
  | none => throw error

/-! ### Events of the platform -/

variable (env : RuntimeEnvironment)

def writeInvocationEvent (key : ResourceKey) (invocation : InvocationColumns)
    (eventType actorId : String) (payload : Json) (now : Time) :
    JournalAction Unit := do
  let sequence ← attemptAs "allocate invocation event sequence" (.nextSequence key)
  attemptAs "persist invocation event" (.insertEvent
    { invocation := key
      id := derived env.toEnvironment "evt" (key.id ++ ":" ++ toString sequence)
      sequence := sequence, eventType := eventType, occurredAt := now, recordedAt := now
      correlationId := invocation.correlationId, actorId := actorId
      serviceId := invocation.serviceId, revisionId := invocation.revisionId, payload := payload
      sourceSequence := none })

def writeOutboxAndAudit : JournalAction Unit := do
  let _ ← attemptAs "write outbox event" (.change "write outbox event")
  let _ ← attemptAs "write audit record" (.change "write audit record")

def getInvocationForUpdate (key : ResourceKey) :
    JournalAction (InvocationColumns × InvocationState) := do
  demand (← attemptAs "lock invocation" (.lockInvocation key))
    (.domain "RESOURCE_NOT_FOUND" "Invocation was not found.")

/-- The action of `AcceptInvocation`. -/
def acceptInvocation (input : AcceptInvocationInput) (now : Time) :
    JournalAction InvocationColumns := do
  check (∀ target ∈ input.dispatchTarget, input.isolationDomainId = target.isolationDomainId ∧
    input.serviceId = target.serviceId) invocationDispatchMismatch
  let revision ← demand
    (← attemptAs "resolve service alias"
      (.resolveAlias input.isolationDomainId input.serviceId input.aliasName))
    (.domain "RESOURCE_NOT_FOUND" "Published service alias was not found.")
  check (∀ target ∈ input.dispatchTarget, revision.revisionId = target.revisionId ∧
    revision.runtimeProfile = target.runtimeProfile) invocationDispatchMismatch
  match validateInvocationInput env.toEnvironment revision.inputSchema input.input with
  | some problem => throw (.domain problem.code problem.message)
  | none => do
    let key : ResourceKey := ⟨input.isolationDomainId, input.id⟩
    let operationId := derived env.toEnvironment "op"
      (input.isolationDomainId ++ ":" ++ input.id ++ ":invocation:v1")
    let columns : InvocationColumns :=
      ⟨input.serviceId, revision.revisionId, input.correlationId, operationId⟩
    attemptAs "insert invocation" (.insert (.invocation key columns))
    attemptAs "accept invocation execution"
      (.insert (.operation ⟨input.isolationDomainId, operationId⟩ input.id))
    writeOutboxAndAudit
    writeInvocationEvent env key columns "lifecycle.accepted" input.actorId
      (.ofMembers [("state", .string "accepted")]) now
    pure columns

/-- The statements of `AcceptCancellation` for an invocation that it cancels. -/
def markCancelling (input : AcceptCancellationInput) (invocation : InvocationColumns) (now : Time) :
    JournalAction Unit := do
  let _ ← attemptAs "mark invocation cancelling" (.change "mark invocation cancelling")
  let _ ← attemptAs "accept invocation cancellation" (.change "accept invocation cancellation")
  writeOutboxAndAudit
  writeInvocationEvent env input.key invocation "lifecycle.cancellation.requested" input.actorId
    (.ofMembers [("state", .string "cancelling")]) now

/-- The action of `AcceptCancellation`, with the status of its response. -/
def acceptCancellation (input : AcceptCancellationInput) (now : Time) :
    JournalAction (Int × InvocationColumns) := do
  let (invocation, state) ← getInvocationForUpdate input.key
  match state with
  | .cancelled => pure (200, invocation)
  | .cancelling => pure (202, invocation)
  | .succeeded | .failed =>
    throw (.domain "INVOCATION_TERMINAL" "A completed invocation cannot be cancelled.")
  | .accepted | .running | .waiting => do
    markCancelling env input invocation now
    pure (202, invocation)

variable (claim : Claim)

def updateResourceForTransition (next : State) (now : Time) : JournalAction Unit :=
  match claim.key.kind with
  | .publication =>
    if next = .published then do
      let _ ← attemptAs "publish service revision" (.change "publish service revision")
      pure ()
    else pure ()
  | .invocation =>
    match invocationResourceState next with
    | none => pure ()
    | some state => do
      let _ ← attemptAs "update invocation state" (.change "update invocation state")
      let (invocation, _) ← getInvocationForUpdate claim.resource
      writeInvocationEvent env claim.resource invocation ("lifecycle." ++ state.text)
        claim.actorId (.ofMembers [("state", .string state.text)]) now

/-- Whether `advance` checks a contract of the revision again before it makes the transition. -/
def revalidates (kind : OperationKind) (next : State) : Bool :=
  match kind with
  | .publication => next ≠ .failed && next ≠ .cancelled
  | .invocation => next = .succeeded

/-- The transition that `advance` makes: a contract that does not hold turns it into a failure. -/
def resolveTransition (next : State) : JournalAction State := do
  if revalidates claim.key.kind next then
    match ← attempt (.select "revision contract") with
    | none => throw (match claim.key.kind with
        | .publication => .noRows
        | .invocation => .refused "read invocation output contract")
    | some true => pure next
    | some false => do
      check (canTransition claim.key.kind claim.observedState .failed = true)
        (transitionRefused claim.key.kind claim.observedState .failed)
      pure .failed
  else pure next

/-- `advance`, inside of its transaction. -/
def advance (env : RuntimeEnvironment) (claim : Claim) (next : State) (now : Time) :
    JournalAction Unit := do
  let made ← resolveTransition claim next
  let affected : Bool ← attemptAs ("advance " ++ claim.key.kind.text ++ " operation")
    (.change "advance operation")
  check (affected = true) .leaseLost
  updateResourceForTransition env claim made now
  writeOutboxAndAudit

/-! ### Events of a runtime -/

/-- `ErrInvocationRuntimeTargetMissing`. -/
def targetMissing : RepositoryError :=
  .refused "invocation runtime target is missing"

/-- `ErrInvocationRuntimeEventInvalid`. -/
def eventInvalid : RepositoryError :=
  .refused "invocation runtime event is invalid"

/-- `ErrInvocationRuntimeEventConflict`. -/
def eventConflict : RepositoryError :=
  .refused "invocation runtime event conflicts with persisted event"

def validInvocationRuntimeClaim : Bool :=
  claim.key.kind = .invocation &&
    claim.key.isolationDomainId ≠ "" &&
    claim.key.id ≠ "" &&
    (claim.command = .invoke || claim.command = .repair) &&
    claim.observedState = .running &&
    claim.stateMachineVersion = Invocation.stateMachineVersion &&
    claim.leaseOwner ≠ "" &&
    0 < claim.fencingToken

/-- `lockInvocationRuntimeClaim`: the invocation of the claim's operation. -/
def lockInvocationRuntimeClaim (now : Time) : JournalAction String := do
  check (validInvocationRuntimeClaim claim = true) .leaseLost
  demand (← attemptAs "lock invocation runtime claim" (.lockClaim claim now)) .leaseLost

def getInvocationRuntimeTarget (operation : ResourceKey) : JournalAction RuntimeTarget := do
  let target ← demand (← attempt (.readTarget operation)) targetMissing
  check (target.operation = operation ∧ target.invocationId ≠ "" ∧ target.serviceId ≠ "" ∧
    target.revisionId ≠ "" ∧ target.actorId ≠ "" ∧ target.correlationId ≠ "") targetMissing
  pure target

variable (target : RuntimeTarget)

/-- The row of an event that a runtime has numbered. -/
def runtimeEnvelope (sourceSequence : ℕ) (eventType : String) (payload : Json) (sequence : ℕ)
    (now : Time) : InvocationEvent where
  invocation := target.invocation
  id := derived env.toEnvironment "evt"
    (target.invocationId ++ ":runtime:" ++ toString sourceSequence)
  sequence := sequence
  eventType := eventType
  occurredAt := now
  recordedAt := now
  correlationId := target.correlationId
  actorId := target.actorId
  serviceId := target.serviceId
  revisionId := target.revisionId
  payload := payload
  sourceSequence := some sourceSequence

/-- The statements that number the event and insert it, under the claim. -/
def insertRuntimeEvent (sourceSequence : ℕ) (eventType : String) (payload : Json) (what : String) :
    JournalAction InvocationEvent := do
  let sequence ← attemptAs ("allocate invocation " ++ what ++ " event sequence")
    (.nextSequence target.invocation)
  let now ← attempt .clock
  let value := runtimeEnvelope env target sourceSequence eventType payload sequence now
  let affected : Bool ← attemptAs ("persist invocation " ++ what ++ " event")
    (.insertEventLive claim value)
  check (affected = true) .leaseLost
  pure value

/-- A persisted event under the number must have this type and this payload. -/
def compareRuntimeEvent (existing : InvocationEvent) (eventType : String) (payload : Json)
    (what : String) : JournalAction Unit := do
  let encoded ← demand (env.reencode existing.payload)
    (.refused ("encode persisted invocation " ++ what ++ " event"))
  check (existing.eventType = eventType ∧ encoded = payload) eventConflict

def maximumInvocationRuntimeEventPayloadBytes : ℕ :=
  256 * 2 ^ 10

def recordInvocationRuntimeInteractionEvent (sourceSequence : ℕ) (eventType : String) (payload : Json) :
    JournalAction Unit := do
  check (env.encodedLength payload ≤ maximumInvocationRuntimeEventPayloadBytes) eventInvalid
  match ← attemptAs "read invocation runtime event"
      (.runtimeEvent target.invocation sourceSequence) with
  | some existing => compareRuntimeEvent env existing eventType payload "interaction"
  | none => do
    let _ ← insertRuntimeEvent env claim target sourceSequence eventType payload "interaction"
    pure ()

structure InvocationRuntimeEvent where
  sourceSequence : ℕ
  eventType : String
  payload : Option Json
  deriving DecidableEq

/-- `runtimeEventTypePattern`: two or more names of small letters and digits, with dots between
them, the first of which starts with a letter. -/
def eventTypeMatches (eventType : String) : Bool :=
  let isName := fun c : Char => ('a' ≤ c && c ≤ 'z') || ('0' ≤ c && c ≤ '9')
  let names := eventType.toList.splitOn '.'
  2 ≤ names.length && names.all (fun name => name ≠ [] && name.all isName) &&
    eventType.toList.head?.any fun c => 'a' ≤ c && c ≤ 'z'

/-- The events that the runtime driver replaces by references to artifacts. -/
def completedEvents : List String :=
  ["output.command.completed", "output.patch.completed", "output.image.completed",
    "output.tool.completed", "output.plan.updated"]

/-- The events that refer to artifacts, with the namespaces of these. -/
def artifactEvents : List (String × String) :=
  [("output.message.artifact", "runtime-message"), ("output.tool.artifact", "runtime-tool"),
    ("output.plan.artifact", "runtime-plan"), ("output.image.artifact", "runtime-image"),
    ("output.patch.artifact", "runtime-patch"), ("output.command.artifact", "runtime-command")]

/-- The event types whose payloads are parsed. -/
def parsedEvents : List String :=
  ["usage.recorded", "output.message.completed"] ++ artifactEvents.map Prod.fst

/-- The checks of `RecordInvocationRuntimeEvent` before it begins its transaction; they yield the
encoded payload. -/
def validatedPayload (event : InvocationRuntimeEvent) : Option Json :=
  match event.payload with
  | none => none
  | some payload =>
    if event.sourceSequence ≠ 0 ∧ event.eventType ≠ "" ∧ event.eventType.utf8ByteSize ≤ 128 ∧
        eventTypeMatches event.eventType = true ∧
        env.encodedLength payload ≤ maximumInvocationRuntimeEventPayloadBytes ∧
        event.eventType ∉ completedEvents ∧
        (event.eventType ∈ parsedEvents → env.payloadParses event.eventType payload = true) then
      some payload
    else none

/-- `getRuntimeMessageArtifact` and its siblings: the artifact that the payload refers to has the
identifier derived from the event, and its record is the one of the operation. -/
def getRuntimeArtifact (sourceSequence : ℕ) (payload : Json) (space : String) :
    JournalAction Unit := do
  let expected := derived env.toEnvironment "art" (target.operation.isolationDomainId ++ ":" ++
    target.invocationId ++ ":" ++ space ++ ":" ++ toString sourceSequence)
  check (payload.text? "artifactId" = some expected) eventInvalid
  let record ← attempt (.select ("artifact " ++ expected))
  check (record = some true) eventInvalid

/-- The artifact of an event that refers to one. -/
def getEventArtifact (sourceSequence : ℕ) (eventType : String) (payload : Json) : JournalAction Unit :=
  match artifactEvents.lookup eventType with
  | none => pure ()
  | some space => getRuntimeArtifact env target sourceSequence payload space

/-- The projection of a usage event onto its invocation. -/
def projectUsage (eventType : String) : JournalAction Unit :=
  if eventType = "usage.recorded" then do
    let _ ← attemptAs "persist invocation usage snapshot"
      (.change "persist invocation usage snapshot")
    pure ()
  else pure ()

/-- `RecordInvocationRuntimeEvent`, inside of its transaction. -/
def recordInvocationRuntimeEvent (sourceSequence : ℕ) (eventType : String) (payload : Json) :
    JournalAction InvocationEvent := do
  let now ← attempt .clock
  let invocationId ← lockInvocationRuntimeClaim claim now
  let target ← getInvocationRuntimeTarget claim.operation
  check (target.invocationId = invocationId) targetMissing
  getEventArtifact env target sourceSequence eventType payload
  match ← attemptAs "read invocation runtime event"
      (.runtimeEvent target.invocation sourceSequence) with
  | some existing => do
    compareRuntimeEvent env existing eventType payload "runtime"
    pure existing
  | none => do
    let value ← insertRuntimeEvent env claim target sourceSequence eventType payload "runtime"
    projectUsage eventType
    pure value

end Writer

end DataGround
