import DataGround.Persistence.JournalWriters

/-!
# The writers of the journal: approvals and questions

A runtime that needs a decision requests an approval or asks a question; both are rows of their
own, and what happens to them is written to the journal of the invocation: the request under the
number the runtime gave it, the resolution or the answer, and the end without one.

The delivery of a decision or an answer writes no event.  A call that the source makes to an
authorizer is a `select`.
-/

namespace DataGround

namespace Writer

/-- The patterns of identifiers: a tag, an underscore, and 20 to 32 small letters and digits. -/
def idMatches (tag text : String) : Bool :=
  let rest := text.toList.drop (tag.length + 1)
  text.toList.take (tag.length + 1) = (tag ++ "_").toList && 20 ≤ rest.length &&
    rest.length ≤ 32 && rest.all fun c => ('a' ≤ c && c ≤ 'z') || ('0' ≤ c && c ≤ '9')

/-- `validInvocationRuntimeApprovalActor`: no control characters. -/
def validInvocationRuntimeApprovalActor (value : String) : Bool :=
  value ≠ "" && value.utf8ByteSize ≤ 256 &&
    value.toList.all fun c => !(c.toNat < 0x20 || (0x7f ≤ c.toNat && c.toNat < 0xa0))

def invocationRuntimeEffectMayStartAttempt (status : EffectStatus) : Bool :=
  status = .prepared || status = .failed || status = .unknown

def validInvocationRuntimeAttempt (env : Environment) (claim : Claim) (effect : EffectRecord) :
    Bool :=
  validInvocationRuntimeClaim claim &&
    effect.key = claim.effectKey env .runInvocation &&
    effect.effect.operationKind = claim.key.kind &&
    effect.effect.operationId = claim.key.id &&
    effect.effect.phase = .runInvocation &&
    invocationRuntimeEffectMayStartAttempt effect.effect.status

def verifyInvocationRuntimeEffect : JournalAction Unit := do
  let same ← demand (← attempt (.select "external effect"))
    (.refused "invocation runtime attempt is invalid")
  check (same = true) (.refused "invocation runtime attempt conflicts with persisted state")

def lockRuntimeInteractionAttempt (claim : Claim) (effect : EffectRecord) : JournalAction Unit := do
  let _ ← lockInvocationRuntimeClaim claim (← attempt .clock)
  verifyInvocationRuntimeEffect
  let live : Bool ← attempt (.lockAttempt claim effect.key)
  check (live = true) .leaseLost

def invocationRuntimeTargetMatchesApproval (target : RuntimeTarget) (claim : Claim) : Bool :=
  target.operation = claim.operation &&
    target.invocationId = claim.resourceId &&
    target.serviceId ≠ "" && target.revisionId ≠ "" &&
    validInvocationRuntimeApprovalActor target.actorId &&
    idMatches "cor" target.correlationId

structure RuntimeInteractionOutcome where
  invocation : ResourceKey
  (serviceId revisionId id : String)
  kind : InteractionKind
  state : InteractionState
  (actor correlation closeReason : String)
  version : ℕ
  occurredAt : Time
  closedAt : Option Time

def validApprovalCloseReason (reason : String) : Bool :=
  reason = "expired" || reason = "runtime-request-cleared" || reason = "runtime-ended" ||
    reason = "cancelled"

/-- The end of the type of an outcome's event, and the members of its payload that only closed
interactions have. -/
def RuntimeInteractionOutcome.action (env : RuntimeEnvironment) (value : RuntimeInteractionOutcome) :
    Option (String × List (String × Json)) :=
  let closing := fun action : String =>
    match value.closedAt with
    | some closedAt =>
      if validApprovalCloseReason value.closeReason then
        some (action, [("closeReason", .string value.closeReason),
          ("closedAt", .string (env.formatTime closedAt))])
      else none
    | none => none
  match value.state with
  | .answered => if value.kind = .question then some ("answered", []) else none
  | .closed => closing "closed"
  | .expired => closing "expired"
  | .deliveryUnknown => closing "delivery.unknown"
  | _ => none

/-- The payload of an outcome's event, its members in order. -/
def RuntimeInteractionOutcome.payload (value : RuntimeInteractionOutcome)
    (closing : List (String × Json)) : Json :=
  let about : List (String × Json) := [(value.kind.text ++ "Id", .string value.id)]
  let state : List (String × Json) :=
    [("state", .string value.state.text), ("version", .number value.version)]
  match value.kind with
  | .approval => .ofMembers (about ++ closing ++ state)
  | .question => .ofMembers (closing ++ about ++ state)

variable (env : RuntimeEnvironment)

def recordRuntimeInteractionOutcome (value : RuntimeInteractionOutcome) : JournalAction Unit := do
  let (action, closing) ← demand (value.action env) eventInvalid
  attempt (.appendEvent
    { invocation := value.invocation
      id := derived env.toEnvironment "evt" (value.invocation.isolationDomainId ++ ":" ++
        value.invocation.id ++ ":" ++ value.kind.text ++ ":" ++ value.id ++ ":" ++
        toString value.version)
      sequence := 0, eventType := "interaction." ++ value.kind.text ++ "." ++ action
      occurredAt := value.occurredAt, recordedAt := 0, correlationId := value.correlation
      actorId := value.actor, serviceId := value.serviceId, revisionId := value.revisionId
      payload := value.payload closing, sourceSequence := none })

/-- `ErrInvocationRuntimeApprovalInvalid`. -/
def approvalInvalid : RepositoryError :=
  .refused "invocation runtime approval is invalid"

/-- `ErrInvocationRuntimeApprovalMissing`. -/
def approvalMissing : RepositoryError :=
  .refused "invocation runtime approval is missing"

/-- `ErrInvocationRuntimeApprovalConflict`. -/
def approvalConflict : RepositoryError :=
  .refused "invocation runtime approval conflicts with durable state"

/-- `ErrInvocationRuntimeApprovalExpired`. -/
def approvalExpired : RepositoryError :=
  .refused "invocation runtime approval has expired or closed"

/-- `ErrInvocationRuntimeQuestionInvalid`. -/
def questionInvalid : RepositoryError :=
  .refused "invocation runtime question is invalid"

/-- `ErrInvocationRuntimeQuestionMissing`. -/
def questionMissing : RepositoryError :=
  .refused "invocation runtime question is missing"

/-- `ErrInvocationRuntimeQuestionConflict`. -/
def questionConflict : RepositoryError :=
  .refused "invocation runtime question conflicts with durable state"

/-- `ErrInvocationRuntimeQuestionExpired`. -/
def questionExpired : RepositoryError :=
  .refused "invocation runtime question is expired"

/-! ### Approvals -/

/-- `InvocationRuntimeApprovalContract`. -/
def approvalContract : String :=
  "dataground.invocation-runtime-approval/v2"

/-- `InvocationRuntimeApprovalLegacyContract`. -/
def approvalLegacyContract : String :=
  "dataground.invocation-runtime-approval/v1"

/-- The time after which an interaction expires at the latest: 15 minutes, in seconds. -/
def interactionLifetime : Time :=
  15 * 60

def validInvocationRuntimeApprovalAction (value : String) : Bool :=
  value = "process.execute" || value = "workspace.change"

def validInvocationRuntimeApprovalDecision (value : String) : Bool :=
  value = "approve" || value = "deny"

/-- `validInvocationRuntimeApprovalState`.  A time that is not set is the zero time of the source,
which is not after any time. -/
def validInvocationRuntimeApprovalState (value : RuntimeApproval) : Bool :=
  let contract :=
    if value.contract = approvalLegacyContract then
      value.expiresAt = none && value.closedAt = none && value.closeReason = ""
    else value.contract = approvalContract && value.expiresAt.any fun expiresAt =>
      value.createdAt < expiresAt && expiresAt ≤ value.createdAt + interactionLifetime
  let closed := value.state = .closed || value.state = .expired || value.state = .deliveryUnknown
  let closing :=
    if closed then
      value.contract = approvalContract && validApprovalCloseReason value.closeReason &&
        value.closedAt.any fun closedAt =>
          value.createdAt ≤ closedAt &&
            (value.state ≠ .expired || value.closeReason = "expired") &&
            (value.closeReason ≠ "expired" ||
              value.expiresAt.all fun expiresAt => expiresAt ≤ closedAt) &&
            !(value.state = .closed && value.closeReason = "expired")
    else value.closedAt = none && value.closeReason = ""
  let decisions := !(value.effectiveDecision = "approve" && value.decision ≠ "approve")
  let resolved := validInvocationRuntimeApprovalDecision value.decision &&
    validInvocationRuntimeApprovalActor value.resolvedBy &&
    idMatches "cor" value.resolutionCorrelationId && value.resolvedAt ≠ none
  let unresolved := value.decision = "" && value.resolvedBy = "" &&
    value.resolutionCorrelationId = "" && value.resolvedAt = none
  contract && closing && decisions &&
    match value.state with
    | .closed | .expired =>
      value.effectiveDecision = "" && value.deliveredAt = none &&
        ((value.version = 2 && unresolved) || (value.version = 3 && resolved))
    | .deliveryUnknown =>
      value.version = 4 && resolved &&
        validInvocationRuntimeApprovalDecision value.effectiveDecision &&
        value.deliveredAt = none
    | .pending =>
      value.version = 1 && unresolved && value.effectiveDecision = "" && value.deliveredAt = none
    | .resolved =>
      value.version = 2 && resolved && value.effectiveDecision = "" && value.deliveredAt = none
    | .delivering =>
      value.version = 3 && resolved &&
        validInvocationRuntimeApprovalDecision value.effectiveDecision &&
        value.deliveredAt = none
    | .delivered =>
      value.version = 4 && resolved &&
        validInvocationRuntimeApprovalDecision value.effectiveDecision &&
        value.deliveredAt.any fun deliveredAt =>
          value.resolvedAt.all fun resolvedAt => resolvedAt ≤ deliveredAt
    | .answered => false

def getInvocationRuntimeApproval (key : ResourceKey) : JournalAction (Option RuntimeApproval) := do
  match ← attemptAs "read invocation runtime approval" (.readApproval key) with
  | none => pure none
  | some value => do
    check ((value.contract = approvalContract ∨ value.contract = approvalLegacyContract) ∧
      value.operationId ≠ "" ∧ value.invocationId ≠ "" ∧ value.serviceId ≠ "" ∧
      value.revisionId ≠ "" ∧ value.effectId ≠ "" ∧ value.sourceSequence ≠ 0 ∧
      validInvocationRuntimeApprovalAction value.requestedAction = true ∧
      validInvocationRuntimeApprovalState value = true) approvalConflict
    pure (some value)

/-- `InvocationRuntimeApprovalRequest`. -/
structure ApprovalRequest where
  expiresAt : Option Time
  sourceSequence : ℕ
  requestedAction : String
  deriving DecidableEq

/-- The payload of the event that records the request of an approval. -/
def approvalRequested (id requestedAction : String) : Json :=
  .ofMembers [("action", .string requestedAction), ("approvalId", .string id),
    ("version", .number 1)]

def recordInvocationRuntimeApprovalEvent (claim : Claim) (target : RuntimeTarget) (id : String)
    (approval : RuntimeApproval) : JournalAction Unit :=
  recordInvocationRuntimeInteractionEvent env claim target approval.sourceSequence
    "interaction.approval.requested" (approvalRequested id approval.requestedAction)

/-- The key of the approval or the question that a runtime requests under a number. -/
def interactionKey (tag : String) (operation : ResourceKey) (sourceSequence : ℕ) : ResourceKey :=
  ⟨operation.isolationDomainId, derived env.toEnvironment tag
    (operation.isolationDomainId ++ ":" ++ operation.id ++ ":" ++ toString sourceSequence)⟩

/-- The expiry of a new interaction is in the future, within its lifetime and the deadline of the
operation. -/
def validExpiry (now deadline expiry : Time) : Bool :=
  now < expiry && expiry ≤ now + interactionLifetime && expiry ≤ deadline

/-- `RecordInvocationRuntimeApprovalRequest`, inside of its transaction.  Times are whole here, so
that their truncation to microseconds changes nothing. -/
def requestApproval (claim : Claim) (effect : EffectRecord) (target : RuntimeTarget)
    (request : ApprovalRequest) : JournalAction RuntimeApproval := do
  lockRuntimeInteractionAttempt claim effect
  let actual ← getInvocationRuntimeTarget target.operation
  check (actual = target) approvalConflict
  let key := interactionKey env "apr" target.operation request.sourceSequence
  match ← getInvocationRuntimeApproval key with
  | some existing => do
    check (existing.operationId = target.operation.id ∧
      existing.invocationId = target.invocationId ∧ existing.serviceId = target.serviceId ∧
      existing.revisionId = target.revisionId ∧ existing.effectId = effect.key.id ∧
      existing.sourceSequence = request.sourceSequence ∧
      existing.requestedAction = request.requestedAction ∧
      (request.expiresAt = none ∨ existing.expiresAt = request.expiresAt)) approvalConflict
    recordInvocationRuntimeApprovalEvent env claim target key.id existing
    pure existing
  | none => do
    let (now, deadline) ← attempt (.readDeadline claim.operation)
    let expiry := request.expiresAt.getD (min (now + interactionLifetime) deadline)
    check (validExpiry now deadline expiry = true) approvalExpired
    attemptAs "persist invocation runtime approval request" (.insert (.approval key
      { contract := approvalContract, operationId := target.operation.id
        invocationId := target.invocationId, serviceId := target.serviceId
        revisionId := target.revisionId, effectId := effect.key.id
        sourceSequence := request.sourceSequence, requestedAction := request.requestedAction
        createdAt := now, expiresAt := some expiry }))
    -- the source ignores whether the row is found: it has just been inserted
    let approval ← demand (← getInvocationRuntimeApproval key) approvalMissing
    recordInvocationRuntimeApprovalEvent env claim target key.id approval
    pure approval

/-- `InvocationRuntimeApprovalResolution`. -/
structure ApprovalResolution where
  invocation : ResourceKey
  approvalId : String
  expectedVersion : ℕ
  (decision actorId correlationId : String)
  deriving DecidableEq

def validInvocationRuntimeApprovalResolution (resolution : ApprovalResolution) : Bool :=
  resolution.invocation.isolationDomainId ≠ "" &&
    idMatches "inv" resolution.invocation.id &&
    idMatches "apr" resolution.approvalId &&
    resolution.expectedVersion = 1 &&
    validInvocationRuntimeApprovalDecision resolution.decision &&
    validInvocationRuntimeApprovalActor resolution.actorId &&
    idMatches "cor" resolution.correlationId

/-- `activeRuntimeInteraction`, with the error of its two callers. -/
def activeRuntimeInteraction (conflict : RepositoryError) : JournalAction Unit := do
  let active ← attempt (.select "active runtime interaction")
  check (active = some true) conflict

/-- The call of the authorizer, where there is one. -/
def authorize (authorized : Bool) : JournalAction Unit := do
  if authorized then
    let _ ← attempt (.select "authorize")

def recordInvocationRuntimeApprovalResolutionEvent (approval : RuntimeApproval)
    (resolution : ApprovalResolution) (now : Time) :
    JournalAction Unit := do
  let payload : Json := .ofMembers [("approvalId", .string resolution.approvalId),
    ("decision", .string resolution.decision),
    ("version", .number (resolution.expectedVersion + 1 : ℕ))]
  check (env.encodedLength payload ≤ maximumInvocationRuntimeEventPayloadBytes) eventInvalid
  let key : ResourceKey := ⟨resolution.invocation.isolationDomainId, approval.invocationId⟩
  let sequence ← attemptAs "allocate invocation approval resolution event sequence"
    (.nextSequence key)
  attemptAs "persist invocation approval resolution event" (.insertEvent
    { invocation := key
      id := derived env.toEnvironment "evt"
        (approval.invocationId ++ ":" ++ resolution.approvalId ++ ":resolved:v1")
      sequence := sequence, eventType := "interaction.approval.resolved", occurredAt := now
      recordedAt := now, correlationId := resolution.correlationId, actorId := resolution.actorId
      serviceId := approval.serviceId, revisionId := approval.revisionId, payload := payload
      sourceSequence := none })

/-- The part of `resolveInvocationRuntimeApproval` that refuses a pending approval which has
expired. -/
def refuseExpired (approval : RuntimeApproval) : JournalAction Unit :=
  match approval.state, approval.expiresAt with
  | .pending, some expiresAt => do
    let now ← attempt .clock
    check (now < expiresAt) approvalExpired
  | _, _ => pure ()

/-- The part of `resolveInvocationRuntimeApproval` that resolves a pending approval. -/
def resolvePending (key : ResourceKey) (approval : RuntimeApproval) (resolution : ApprovalResolution)
    (authorized : Bool) : JournalAction RuntimeApproval := do
  check (approval.version = resolution.expectedVersion) approvalConflict
  activeRuntimeInteraction approvalConflict
  authorize authorized
  activeRuntimeInteraction approvalConflict
  let now ← attempt .clock
  let affected : Bool ← attemptAs "resolve invocation runtime approval"
    (.change "resolve invocation runtime approval")
  if affected then
    let _ ← attemptAs "audit invocation runtime approval resolution"
      (.change "audit invocation runtime approval resolution")
    recordInvocationRuntimeApprovalResolutionEvent env approval resolution now
    -- the source ignores whether the row is found: it has been read above
    demand (← getInvocationRuntimeApproval key) approvalMissing
  else do
    activeRuntimeInteraction approvalConflict
    throw (if approval.expiresAt = none then approvalConflict else approvalExpired)

def resolveInvocationRuntimeApproval (resolution : ApprovalResolution) (authorized : Bool) :
    JournalAction RuntimeApproval := do
  let _ ← demand (← attempt (.lockInvocation resolution.invocation)) approvalMissing
  let key : ResourceKey := ⟨resolution.invocation.isolationDomainId, resolution.approvalId⟩
  let approval ← demand (← getInvocationRuntimeApproval key) approvalMissing
  check (approval.invocationId = resolution.invocation.id) approvalMissing
  check (¬(approval.state = .closed ∨ approval.state = .expired ∨
    approval.state = .deliveryUnknown)) approvalExpired
  refuseExpired approval
  if approval.state = .pending then resolvePending env key approval resolution authorized
  else do
    check (approval.decision = resolution.decision ∧ approval.resolvedBy = resolution.actorId ∧
      approval.resolutionCorrelationId = resolution.correlationId) approvalConflict
    authorize authorized
    pure approval

def recordRuntimeApprovalClosure (key : ResourceKey) (value : RuntimeApproval)
    (actor correlation : String) : JournalAction Unit := do
  let _ ← attempt (.change "audit approval closure")
  let _ ← attempt (.change "approval closure outbox event")
  recordRuntimeInteractionOutcome env
    { invocation := ⟨key.isolationDomainId, value.invocationId⟩, serviceId := value.serviceId
      revisionId := value.revisionId, id := key.id, kind := .approval, state := value.state
      actor := actor, correlation := correlation, closeReason := value.closeReason
      version := value.version, occurredAt := value.updatedAt, closedAt := value.closedAt }

/-- The state that closing an interaction gives it, unless it is closed already; `decided` is the
state of one with a decision or an answer. -/
def closedState (decided : InteractionState) (reason : String) :
    InteractionState → Except RepositoryError (Option InteractionState)
  | .pending => .ok (some (if reason = "expired" then .expired else .closed))
  | .delivering => .ok (some .deliveryUnknown)
  | .closed | .expired | .deliveryUnknown | .delivered => .ok none
  | .resolved =>
    if decided = .resolved then .ok (some (if reason = "expired" then .expired else .closed))
    else .error questionConflict
  | .answered =>
    if decided = .answered then .ok (some (if reason = "expired" then .expired else .closed))
    else .error approvalConflict

def closeRuntimeApproval (key : ResourceKey) (value : RuntimeApproval)
    (reason actor correlation : String) : JournalAction RuntimeApproval := do
  let now ← attempt .clock
  let reason := if value.expiresAt.any fun expiresAt => now < expiresAt then reason else "expired"
  match closedState .resolved reason value.state with
  | .error error => throw error
  | .ok none => pure value
  | .ok (some state) => do
    let _ ← attempt (.change ("approval " ++ state.text ++ ": " ++ reason))
    -- the source ignores whether the row is found: it has been read above
    let value ← demand (← getInvocationRuntimeApproval key) approvalMissing
    recordRuntimeApprovalClosure env key value actor correlation
    pure value

/-- `CloseInvocationRuntimeApproval`, inside of its transaction. -/
def closeApproval (claim : Claim) (effect : EffectRecord) (id reason : String) :
    JournalAction RuntimeApproval := do
  lockRuntimeInteractionAttempt claim effect
  let key : ResourceKey := ⟨claim.key.isolationDomainId, id⟩
  let value ← demand (← getInvocationRuntimeApproval key) approvalMissing
  check (value.contract = approvalContract ∧ value.operationId = claim.key.id ∧
    value.invocationId = claim.resourceId ∧ value.effectId = effect.key.id) approvalConflict
  closeRuntimeApproval env key value reason claim.actorId claim.correlationId

/-- The loop of `ExpireInvocationRuntimeApprovals`. -/
def expireEachApproval (env : RuntimeEnvironment) (isolationDomainId actor correlation : String) :
    List String → JournalAction Unit
  | [] => pure ()
  | id :: ids => do
    let key : ResourceKey := ⟨isolationDomainId, id⟩
    -- the source ignores whether the row is found: it has just been locked
    let value ← demand (← getInvocationRuntimeApproval key) approvalMissing
    let _ ← closeRuntimeApproval env key value "expired" actor correlation
    expireEachApproval env isolationDomainId actor correlation ids

/-- `ExpireInvocationRuntimeApprovals`, inside of its transaction. -/
def expireApprovals (isolationDomainId actor correlation : String) (limit : ℕ) : JournalAction ℕ := do
  let invocations : List String ← attempt (.lockDue .approval isolationDomainId limit)
  let ids : List String ← attempt (.dueInteractions .approval isolationDomainId limit invocations)
  expireEachApproval env isolationDomainId actor correlation ids
  pure ids.length

/-! ### Questions -/

def getInvocationRuntimeQuestion (key : ResourceKey) : JournalAction (Option RuntimeQuestion) := do
  match ← attempt (.readQuestion key) with
  | none => pure none
  | some value => do
    check (env.validQuestionPrompts value.prompts = true ∧
      ∀ answers ∈ value.answers, env.validQuestionAnswers value.prompts answers = true)
      questionInvalid
    pure (some value)

/-- `InvocationRuntimeQuestionRequest`. -/
structure QuestionRequest where
  sourceSequence : ℕ
  prompts : Json
  expiresAt : Time
  deriving DecidableEq

/-- The payload of the event that records a question. -/
def questionRequested (id : String) (expiresAt : Time) : Json :=
  .ofMembers [("expiresAt", .string (env.formatTime expiresAt)), ("questionId", .string id),
    ("version", .number 1)]

def recordRuntimeQuestionEvent (claim : Claim) (target : RuntimeTarget) (id : String)
    (question : RuntimeQuestion) : JournalAction Unit :=
  recordInvocationRuntimeInteractionEvent env claim target question.sourceSequence
    "interaction.question.requested" (questionRequested env id question.expiresAt)

/-- `recordRuntimeQuestionChange`; the actions with an outcome are those that are states. -/
def recordRuntimeQuestionChange (key : ResourceKey) (value : RuntimeQuestion)
    (action actor correlation : String) (now : Time) :
    JournalAction Unit := do
  let _ ← attempt (.change ("audit question " ++ action))
  let _ ← attempt (.change ("question outbox event " ++ action))
  if action ∈ ["answered", "closed", "expired", "delivery_unknown"] then
    recordRuntimeInteractionOutcome env
      { invocation := ⟨key.isolationDomainId, value.invocationId⟩, serviceId := value.serviceId
        revisionId := value.revisionId, id := key.id, kind := .question, state := value.state
        actor := actor, correlation := correlation, closeReason := value.closeReason
        version := value.version, occurredAt := now, closedAt := value.closedAt }

/-- `RecordInvocationRuntimeQuestionRequest`, inside of its transaction.  A question that exists is
returned without a commit: the second component says so. -/
def requestQuestion (claim : Claim) (effect : EffectRecord) (target : RuntimeTarget)
    (request : QuestionRequest) :
    JournalAction (RuntimeQuestion × Bool) := do
  lockRuntimeInteractionAttempt claim effect
  let actual ← getInvocationRuntimeTarget target.operation
  check (actual = target) questionConflict
  let key := interactionKey env "qst" target.operation request.sourceSequence
  match ← getInvocationRuntimeQuestion env key with
  | some existing => do
    check (existing.effectId = effect.key.id ∧ existing.prompts = request.prompts ∧
      existing.expiresAt = request.expiresAt) questionConflict
    pure (existing, false)
  | none => do
    let (now, deadline) ← attempt (.readDeadline claim.operation)
    check (validExpiry now deadline request.expiresAt = true) questionExpired
    attemptAs "persist runtime question" (.insert (.question key
      { operationId := target.operation.id, invocationId := target.invocationId
        serviceId := target.serviceId, revisionId := target.revisionId, effectId := effect.key.id
        sourceSequence := request.sourceSequence, correlationId := target.correlationId
        requestedBy := target.actorId, prompts := request.prompts
        expiresAt := request.expiresAt }))
    -- the source ignores whether the row is found: it has just been inserted
    let value ← demand (← getInvocationRuntimeQuestion env key) questionMissing
    recordRuntimeQuestionEvent env claim target key.id value
    recordRuntimeQuestionChange env key value "requested" value.requestedBy value.correlationId now
    pure (value, true)

/-- `InvocationRuntimeQuestionAnswer`. -/
structure QuestionAnswer where
  invocation : ResourceKey
  questionId : String
  expectedVersion : ℕ
  answers : Json
  (actorId correlationId : String)
  deriving DecidableEq

def validInvocationRuntimeQuestionAnswer (answer : QuestionAnswer) : Bool :=
  idMatches "iso" answer.invocation.isolationDomainId && idMatches "inv" answer.invocation.id &&
    idMatches "qst" answer.questionId && 1 ≤ answer.expectedVersion &&
    validInvocationRuntimeApprovalActor answer.actorId && idMatches "cor" answer.correlationId

def answerInvocationRuntimeQuestion (answer : QuestionAnswer) : JournalAction RuntimeQuestion := do
  let _ ← demand (← attempt (.lockInvocation answer.invocation)) questionMissing
  let key : ResourceKey := ⟨answer.invocation.isolationDomainId, answer.questionId⟩
  let value ← demand (← getInvocationRuntimeQuestion env key) questionMissing
  check (value.invocationId = answer.invocation.id) questionMissing
  check (env.validQuestionAnswers value.prompts answer.answers = true) questionInvalid
  match value.answers with
  | some answers => do
    check (value.answeredBy = answer.actorId ∧ answer.expectedVersion = 1 ∧
      answers = answer.answers) questionConflict
    authorize true
    pure value
  | none => do
    check (value.state = .pending ∧ value.version = answer.expectedVersion) questionConflict
    let now ← attempt .clock
    check (now < value.expiresAt) questionExpired
    activeRuntimeInteraction questionConflict
    authorize true
    activeRuntimeInteraction questionConflict
    let affected : Bool ← attempt (.change "answer question")
    check (affected = true) questionExpired
    -- the source ignores whether the row is found: it has been read above
    let value ← demand (← getInvocationRuntimeQuestion env key) questionMissing
    recordRuntimeQuestionChange env key value "answered" answer.actorId answer.correlationId
      value.updatedAt
    pure value

def closeRuntimeQuestion (key : ResourceKey) (value : RuntimeQuestion)
    (reason actor correlation : String) : JournalAction RuntimeQuestion := do
  match closedState .answered reason value.state with
  | .error error => throw error
  | .ok none => pure value
  | .ok (some state) => do
    let _ ← attempt (.change ("question " ++ state.text ++ ": " ++ reason))
    -- the source ignores whether the row is found: it has been read above
    let value ← demand (← getInvocationRuntimeQuestion env key) questionMissing
    recordRuntimeQuestionChange env key value state.text actor correlation value.updatedAt
    pure value

/-- `CloseInvocationRuntimeQuestion`, inside of its transaction. -/
def closeQuestion (claim : Claim) (effect : EffectRecord) (id reason : String) :
    JournalAction RuntimeQuestion := do
  lockRuntimeInteractionAttempt claim effect
  let key : ResourceKey := ⟨claim.key.isolationDomainId, id⟩
  let value ← demand (← getInvocationRuntimeQuestion env key) questionMissing
  check (value.operationId = claim.key.id ∧ value.invocationId = claim.resourceId ∧
    value.effectId = effect.key.id) questionConflict
  closeRuntimeQuestion env key value reason value.requestedBy value.correlationId

/-- The loop of `ExpireInvocationRuntimeQuestions`. -/
def expireEachQuestion (env : RuntimeEnvironment) (isolationDomainId actor correlation : String) :
    List String → JournalAction Unit
  | [] => pure ()
  | id :: ids => do
    let key : ResourceKey := ⟨isolationDomainId, id⟩
    -- the source ignores whether the row is found: it has just been locked
    let value ← demand (← getInvocationRuntimeQuestion env key) questionMissing
    let _ ← closeRuntimeQuestion env key value "expired" actor correlation
    expireEachQuestion env isolationDomainId actor correlation ids

/-- `ExpireInvocationRuntimeQuestions`, inside of its transaction. -/
def expireQuestions (isolationDomainId actor correlation : String) (limit : ℕ) : JournalAction ℕ := do
  let invocations : List String ← attempt (.lockDue .question isolationDomainId limit)
  let ids : List String ← attempt (.dueInteractions .question isolationDomainId limit invocations)
  expireEachQuestion env isolationDomainId actor correlation ids
  pure ids.length

end Writer

end DataGround
