import DataGround.Base.Json
import DataGround.Library.Table
import DataGround.Library.Threads

/-!
# The client of the app-server

`Client` owns one turn at an app-server.  Messages of the server are handled one at a time, and turned
into events for the worker; requests of the server become approvals and questions that the worker
answers by their handles.  Meanwhile the worker may answer, interrupt or close, the server may go away,
and a question may expire.

Every critical section of the source is one step here, as is every operation on a channel; between two
steps of one goroutine all others may take theirs.  What the program takes from libraries -- JSON, digests,
the validators of normalized content -- is a parameter.
-/

namespace DataGround.Codex

open Thread (act)

/-! ### Messages and events -/

/-- The methods of the messages of the server. -/
inductive Method where
  | resolved
  | turnStarted
  | agentMessageDelta
  | planUpdated
  | tokenUsageUpdated
  | itemStarted
  | itemCompleted
  | turnCompleted
  | error
  | requestUserInput
  | requestCommandApproval
  | requestFileChangeApproval
  | other (text : String)
  deriving DecidableEq

/-- `wireMessage`, for a message with a method; the identifier and the parameters are JSON texts, and the
identifier of a notification is empty. -/
structure WireMessage where
  id : String
  method : Method
  params : String
  deriving DecidableEq

/-- What an item of a turn is about, `normalizeItemType`. -/
inductive Activity where
  | process
  | file
  | tool
  | plan
  | reasoning
  | runtime
  deriving DecidableEq

/-- The types of events. -/
inductive EventType where
  | lifecycleStarted
  | lifecycleSucceeded
  | lifecycleCancelled
  | lifecycleFailed
  | textDelta
  | planUpdated
  | usageRecorded
  | sessionUsageRecorded
  | activityStarted (activity : Activity)
  | activityCompleted (activity : Activity)
  | messageCompleted
  | commandCompleted
  | toolCompleted
  | imageCompleted
  | patchCompleted
  | errorOccurred
  | approvalRequested
  | questionRequested
  deriving DecidableEq

/-- An event that ends its turn. -/
def EventType.isTerminal : EventType → Bool
  | .lifecycleSucceeded | .lifecycleCancelled | .lifecycleFailed => true
  | _ => false

structure Event where
  sequence : ℕ
  type : EventType
  payload : Json
  deriving DecidableEq

/-- The errors of the adapter. -/
inductive CodexError where
  /-- `ErrProtocol`, with what is wrong. -/
  | protocol (message : String)
  | closed
  | context
  | encoding
  | rejected (method : String) (code : ℤ)
  | approvalDecision
  | approvalNotFound
  | questionNotFound
  | questionExpired
  | questionAnswers (message : String)
  | turnInterrupted
  | turnFailed
  | concurrentTurn
  | turnEventsPending
  deriving DecidableEq

/-! ### What the program takes from libraries -/

/-- The `threadId`, `turnId` and `turn.id` of a message. -/
structure Scope where
  (threadId turnId nestedTurnId : String)
  deriving DecidableEq

/-- The parameters of `turn/started` and `turn/completed`. -/
structure TurnParams where
  (threadId turnId status : String)
  deriving DecidableEq

/-- The parameters of `item/agentMessage/delta`. -/
structure DeltaParams where
  (threadId turnId delta : String)
  deriving DecidableEq

/-- The parameters of `item/started` and `item/completed`. -/
structure ItemParams where
  (threadId turnId item type : String)
  deriving DecidableEq

/-- `nativeUsageBreakdown`. -/
structure UsageBreakdown where
  (input output total cached reasoning : Option ℤ)
  deriving DecidableEq

/-- The parameters of `thread/tokenUsage/updated`. -/
structure UsageParams where
  (threadId turnId : String)
  (total last : UsageBreakdown)
  deriving DecidableEq

/-- The parameters of `item/tool/requestUserInput`. -/
structure QuestionParams where
  (threadId turnId itemId questions : String)
  deriving DecidableEq

/-- The items whose completed content is kept. -/
inductive ItemKind where
  | message
  | command
  | tool
  | image
  | patch
  deriving DecidableEq

/-- What is made of a completed item: its identifier, a digest of its content, the number of bytes of
an image, and the payloads of the events about it. -/
structure CompletedItem where
  id : String
  digest : BitVec 256
  imageBytes : ℕ
  (summary content : Option Json)
  deriving DecidableEq

/-- What is made of an update of the plan. -/
structure PlanUpdate where
  (threadId turnId : String)
  /-- The digest and the payload, if the plan is valid. -/
  snapshot : Option (BitVec 256 × Json)
  deriving DecidableEq

/-- JSON decoding, the validators of normalized content and the sizes of encoded documents. -/
structure CodexLibraries where
  trimSpace : String → String
  decodeString : String → Option String
  decodeInt64 : String → Option ℤ
  decodeScope : String → Option Scope
  decodeTurn : String → Option TurnParams
  decodeDelta : String → Option DeltaParams
  decodeItem : String → Option ItemParams
  decodeUsage : String → Option UsageParams
  decodePlan : String → Option PlanUpdate
  /-- The `threadId` and the `requestId` of `serverRequest/resolved`. -/
  decodeResolved : String → Option (String × String)
  /-- The content of a completed item, or what is wrong with it. -/
  normalizeItem : ItemKind → (workingDir : String) → String → Except String CompletedItem
  /-- The first checks on the text of a question. -/
  validQuestionText : String → Bool
  decodeQuestion : String → Option QuestionParams
  validQuestionNativeId : String → Bool
  /-- The native identifiers and the normalized prompts of questions, or why they are refused. -/
  normalizeQuestions : String → Except String (List String × Json)
  /-- `ValidateQuestionAnswers`. -/
  validateAnswers : (prompts answers : Json) → Option String
  /-- The answers with native identifiers and labels. -/
  nativeAnswers : List String → (prompts answers : Json) → Json
  formatTime : ℤ → String
  /-- The number of bytes of an encoded event. -/
  eventSize : Event → Option ℕ
  /-- The number of bytes of an encoded frame. -/
  frameSize : Json → Option ℕ

variable (libraries : CodexLibraries)

/-- `nativeRequestKey`: strings and integers are different identifiers, and how they are spelled does not
matter. -/
def nativeRequestKey (raw : String) : Option String :=
  let raw := libraries.trimSpace raw
  match if raw.toList.head? = some '"' then libraries.decodeString raw else none with
  | some text => some ("string:" ++ text)
  | none =>
    if raw = "" ∨ raw = "null" then none
    else (libraries.decodeInt64 raw).map fun number => "integer:" ++ toString number

/-! ### The state -/

structure Approval where
  requestId : String
  method : Method
  resolving : Bool
  nativeKey : String
  deriving DecidableEq

/-- `pendingQuestion`; the pointer tells one from another. -/
structure PendingQuestion where
  pointer : ℕ
  (requestId nativeKey : String)
  nativeIds : List String
  prompts : Json
  expiresAt : ℤ
  resolving : Bool
  deriving DecidableEq

/-- What the worker answers by. -/
inductive Handle where
  | approval (id : String)
  | question (id : String)
  deriving DecidableEq

inductive ApprovalMode where
  | unset
  | locked
  | interactive
  deriving DecidableEq

inductive QuestionMode where
  | unset
  | disabled
  | interactive
  deriving DecidableEq

/-- `connection`, as one of its clients sees it. -/
structure Connection where
  /-- `active` is this client. -/
  active : Bool
  /-- The goroutine that has `dispatchMu`. -/
  dispatching : Option ℕ
  (retiredTurns seenRequests : List String)
  /-- `failOnce` has been called. -/
  failing : Bool
  err : Option CodexError
  (done closed : Bool)

/-- `Client`.  All events that were ever queued are noted, and all handles that were ever given out, with
their native keys. -/
structure Client extends Connection where
  (sequential started : Bool)
  (threadId workingDir turnId : String)
  approvalMode : ApprovalMode
  questionMode : QuestionMode
  questionTimeout : ℤ
  interactionsClosed : Bool
  inFlightCommands : ℤ
  (nextSequence nextApproval nextQuestion : ℕ)
  approvals : Table String Approval
  nativeRequests : List String
  questions : Table String PendingQuestion
  completed : ItemKind → Table String (BitVec 256)
  completedImageBytes : ℕ
  lastPlanDigest : BitVec 256
  planUpdates : ℕ
  eventSizes : List ℕ
  eventBytes : ℤ
  events : List Event
  terminalDone : Bool
  terminalErr : Option CodexError
  queued : List Event
  issued : List (Handle × String)

/-- `newTurnClient`; a client of a session gets its thread and its modes right away. -/
def newTurnClient (connection : Connection) (sequential : Bool) : Client where
  toConnection := connection
  sequential := sequential
  started := false
  threadId := ""
  workingDir := ""
  turnId := ""
  approvalMode := .unset
  questionMode := .unset
  questionTimeout := 0
  interactionsClosed := false
  inFlightCommands := 0
  nextSequence := 0
  nextApproval := 0
  nextQuestion := 0
  approvals := ∅
  nativeRequests := []
  questions := ∅
  completed _ := ∅
  completedImageBytes := 0
  lastPlanDigest := 0
  planUpdates := 0
  eventSizes := []
  eventBytes := 0
  events := []
  terminalDone := false
  terminalErr := none
  queued := []
  issued := []

/-- `closeInteractionsLocked`. -/
def Client.closeInteractions (s : Client) : Client :=
  { s with interactionsClosed := true, approvals := ∅, nativeRequests := [], questions := ∅ }

/-! ### Steps -/

/-- What becomes of a write to the server, as the caller sees it. -/
inductive WriteStep where
  | proceed
  /-- The context was done before the write. -/
  | rejected
  /-- The transport is closed, or the write failed. -/
  | broken
  /-- The connection has failed meanwhile. -/
  | abandoned
  /-- The context is done meanwhile. -/
  | cancelled
  deriving DecidableEq

/-- The outcome of the `select` that sends an event. -/
inductive SendStep where
  | sent
  | done
  | closed
  | full
  deriving DecidableEq

/-- What comes of a request to the server. -/
inductive Response where
  | result (text : String)
  | error (code : ℤ)
  | done
  | cancelled
  deriving DecidableEq

/-- What the environment decides. -/
inductive CodexAnswer where
  | go
  | time (now : ℤ)
  | context (done : Bool)
  | write (step : WriteStep)
  | send (step : SendStep)
  | response (response : Response)
  deriving DecidableEq

/-- Steps that are told apart. -/
inductive CodexLabel where
  | plain
  /-- The handler of this message starts. -/
  | dispatch (message : WireMessage)
  /-- `ResolveApproval` removes its handle, and the native key of it. -/
  | cleanup (approvalId nativeKey : String)
  deriving DecidableEq

/-- A goroutine of the client. -/
abbrev ClientThread (α : Type) :=
  Thread Client CodexAnswer CodexLabel α

/-- A critical section. -/
def inSection {α : Type} (f : Client → α × Client) : ClientThread α :=
  act .plain fun _ _ s => some (f s)

/-- A critical section that only reads. -/
def reading {α : Type} (f : Client → α) : ClientThread α :=
  inSection fun s => (f s, s)

/-- A critical section without a result. -/
def updating (f : Client → Client) : ClientThread Unit :=
  inSection fun s => ((), f s)

/-- `time.Now()`. -/
def readClock : ClientThread ℤ :=
  act .plain fun _ answer s => match answer with
    | .time now => some (now, s)
    | _ => none

/-- `ctx.Err() != nil`. -/
def contextDone : ClientThread Bool :=
  act .plain fun _ answer s => match answer with
    | .context done => some (done, s)
    | _ => none

/-- Wait until the connection has failed. -/
def awaitDone : ClientThread Unit :=
  act .plain fun _ _ s => if s.done then some ((), s) else none

def failure : ClientThread CodexError :=
  reading fun s => s.err.getD .closed

/-- `fail`; calls after the first one wait for it. -/
def fail (error : CodexError) : ClientThread Unit := do
  let first ← inSection fun s => (!s.failing, { s with failing := true })
  if first then
    let active ← reading fun s => s.active
    if active then updating Client.closeInteractions
    updating fun s => { s with err := some error }
    updating fun s => { s with done := true }
  else awaitDone

def protocolFailure (message : String) : ClientThread CodexError := do
  fail (.protocol message)
  pure (.protocol message)

/-- The writer is free; the context and the connection are looked at. -/
def awaitWriter : ClientThread WriteStep :=
  act .plain fun _ answer s => match answer with
    | .write .broken => if s.closed ∨ s.done then some (.broken, s) else none
    | .write .abandoned => if s.done then some (.abandoned, s) else none
    | .write .proceed => if s.closed ∨ s.done then none else some (.proceed, s)
    | .write step => some (step, s)
    | _ => none

/-- `input.Write`. -/
def writeInput : ClientThread WriteStep :=
  act .plain fun _ answer s => match answer with
    | .write .abandoned => if s.done then some (.abandoned, s) else none
    | .write step => some (step, s)
    | _ => none

/-- What `writeGuarded` returns after a step that did not go on. -/
def writeFailure : WriteStep → ClientThread (Option CodexError)
  | .proceed => pure none
  | .rejected => pure (some .context)
  | .broken => do
    fail (.protocol "write failed")
    let error ← failure
    pure (some error)
  | .abandoned => do
    let error ← failure
    pure (some error)
  | .cancelled => do
    fail (.protocol "write cancelled")
    pure (some .context)

/-- `writeGuarded`.  The guard is looked at when it is this caller's turn to write. -/
def writeGuarded (message : Json) (guard : ClientThread (Option CodexError)) :
    ClientThread (Option CodexError) := do
  if ← contextDone then pure (some .context)
  else
    match libraries.frameSize message with
    | none => pure (some .encoding)
    | some size =>
      if 8388608 < size then do
        let error ← protocolFailure "outbound frame exceeds the size limit"
        pure (some error)
      else
        match ← awaitWriter with
        | .proceed =>
          match ← guard with
          | some error => pure (some error)
          | none => do
            let step ← writeInput
            writeFailure step
        | step => writeFailure step

def write (message : Json) : ClientThread (Option CodexError) :=
  writeGuarded libraries message (pure none)

/-- Fail with an error, if there is one. -/
def failWith : Option CodexError → ClientThread Unit
  | some error => fail error
  | none => pure ()

/-- `respondError`, and `fail` if it does not succeed; the identifier is valid here. -/
def refuse (id : String) (code : ℤ) (message : String) : ClientThread Unit := do
  let result ← write libraries (.ofMembers [("error", .ofMembers
    [("code", .number code), ("message", .string message)]), ("id", .string id)])
  failWith result

/-! ### Events -/

/-- The first part of `queueEvent`: what was consumed is taken off the account. -/
def Client.account (s : Client) : Bool × Client :=
  if s.eventSizes.length < s.events.length then (false, s)
  else
    let consumed := s.eventSizes.length - s.events.length
    (true, { s with
      eventBytes := s.eventBytes - ((s.eventSizes.take consumed).sum : ℕ)
      eventSizes := s.eventSizes.drop consumed })

/-- The `select` that sends an event; if several of its cases are ready, any of them may be taken. -/
def send (event : Event) (size : ℕ) : ClientThread SendStep :=
  act .plain fun _ answer s => match answer with
    | .send .sent =>
      if s.events.length < 256 then some (.sent, { s with
        events := s.events ++ [event], queued := s.queued ++ [event]
        eventSizes := s.eventSizes ++ [size], eventBytes := s.eventBytes + size })
      else none
    | .send .done => if s.done then some (.done, s) else none
    | .send .closed => if s.closed then some (.closed, s) else none
    | .send .full =>
      if s.done ∨ s.closed ∨ s.events.length < 256 then none else some (.full, s)
    | _ => none

def queueEvent (type : EventType) (payload : Json) : ClientThread (Option CodexError) := do
  let (done, closed) ← reading fun s => (s.done, s.closed)
  if done then do
    let error ← failure
    pure (some error)
  else if closed then pure (some .closed)
  else if ← inSection Client.account then do
    let sequence ← reading fun s => s.nextSequence + 1
    let eventBytes ← reading fun s => s.eventBytes
    match libraries.eventSize ⟨sequence, type, payload⟩ with
    | none => pure (some (.protocol "event byte budget exhausted"))
    | some size =>
      if 8388608 < size ∨ 16777216 - eventBytes < size then
        pure (some (.protocol "event byte budget exhausted"))
      else
        match ← send ⟨sequence, type, payload⟩ size with
        | .sent => do
          updating fun s => { s with nextSequence := sequence }
          pure none
        | .done => do
          let error ← failure
          pure (some error)
        | .closed => pure (some .closed)
        | .full => pure (some (.protocol "event buffer exhausted"))
  else pure (some (.protocol "event queue accounting is invalid"))

def emit (type : EventType) (payload : Json) : ClientThread Bool := do
  match ← queueEvent libraries type payload with
  | some error => do
    fail error
    pure false
  | none => pure true

/-- Emit, whatever comes of it. -/
def publish (type : EventType) (payload : Json) : ClientThread Unit := do
  let _ ← emit libraries type payload
  pure ()

/-! ### Requests of the server -/

def Client.matchesActiveTurn (threadId turnId : String) (s : Client) : Bool :=
  threadId ≠ "" && turnId ≠ "" && threadId = s.threadId && turnId = s.turnId

/-- The section of `handleServerRequest` that makes a handle. -/
def Client.registerApproval (requestId : String) (method : Method) (nativeKey : String) (s : Client) :
    Option String × Client :=
  if nativeKey ∈ s.nativeRequests ∨ s.interactionsClosed then (none, s)
  else
    let approvalId := "approval-" ++ toString (s.nextApproval + 1)
    (some approvalId, { s with
      nextApproval := s.nextApproval + 1, nativeRequests := nativeKey :: s.nativeRequests
      approvals := s.approvals.insert approvalId ⟨requestId, method, false, nativeKey⟩
      issued := (.approval approvalId, nativeKey) :: s.issued })

/-- The section of `handleQuestionRequest` that makes a handle. -/
def Client.registerQuestion (requestId nativeKey : String) (nativeIds : List String) (prompts : Json)
    (now : ℤ) (s : Client) : Option (String × ℤ) × Client :=
  if s.interactionsClosed ∨ nativeKey ∈ s.nativeRequests ∨ s.questions ≠ ∅ then (none, s)
  else
    let id := "question-" ++ toString (s.nextQuestion + 1)
    let expiresAt := now + s.questionTimeout
    (some (id, expiresAt), { s with
      nextQuestion := s.nextQuestion + 1
      questions := s.questions.insert id
        ⟨s.nextQuestion + 1, requestId, nativeKey, nativeIds, prompts, expiresAt, false⟩
      nativeRequests := nativeKey :: s.nativeRequests
      issued := (.question id, nativeKey) :: s.issued })

variable (message : WireMessage)

def handleQuestionRequest (nativeKey : String) : ClientThread Unit := do
  let enabled ← reading fun s => s.questionMode = .interactive && !s.interactionsClosed
  if enabled = false then refuse libraries message.id (-32601) "questions are unavailable for this turn"
  else if libraries.validQuestionText message.params = false then
    refuse libraries message.id (-32602) "question content is invalid"
  else
    match libraries.decodeQuestion message.params with
    | none => refuse libraries message.id (-32602) "question scope or content is invalid"
    | some params => do
      let current ← reading (Client.matchesActiveTurn params.threadId params.turnId)
      if current = false ∨ libraries.validQuestionNativeId params.itemId = false then
        refuse libraries message.id (-32602) "question scope or content is invalid"
      else
        match libraries.normalizeQuestions params.questions with
        | .error reason => refuse libraries message.id (-32602) reason
        | .ok (nativeIds, prompts) => do
          let now ← readClock
          match ← inSection (Client.registerQuestion message.id nativeKey nativeIds prompts now) with
          | none =>
            refuse libraries message.id (-32600) "question request is duplicate or unavailable"
          | some (id, expiresAt) =>
            publish libraries .questionRequested (.ofMembers
              [("expiresAt", .string (libraries.formatTime expiresAt)),
                ("questionId", .string id), ("questions", prompts)])

/-- The part of `handleServerRequest` about approvals. -/
def handleApprovalRequest (nativeKey action : String) : ClientThread Unit := do
  let (locked, closed) ← reading fun s => (decide (s.approvalMode = .locked), s.interactionsClosed)
  if closed then refuse libraries message.id (-32600) "approval turn is no longer active"
  else if locked then do
    let result ← write libraries (.ofMembers
      [("id", .string message.id), ("result", .ofMembers [("decision", .string "decline")])])
    failWith result
  else
    let scope := libraries.decodeScope message.params
    let current ← reading fun s => match scope with
      | some scope => s.matchesActiveTurn scope.threadId scope.turnId
      | none => false
    if current = false then refuse libraries message.id (-32602) "invalid approval scope"
    else
      match ← inSection (Client.registerApproval message.id message.method nativeKey) with
      | none => refuse libraries message.id (-32600) "duplicate approval request"
      | some approvalId =>
        publish libraries .approvalRequested (.ofMembers
          [("action", .string action), ("approvalId", .string approvalId)])

def handleServerRequest : ClientThread Unit :=
  match nativeRequestKey libraries message.id with
  | none => fail (.protocol "server request identifier is invalid")
  | some nativeKey => do
    let duplicate ← reading fun s => decide (nativeKey ∈ s.nativeRequests)
    if duplicate then refuse libraries message.id (-32600) "duplicate server request"
    else
      match message.method with
      | .requestUserInput => handleQuestionRequest libraries message nativeKey
      | .requestCommandApproval => handleApprovalRequest libraries message nativeKey "process.execute"
      | .requestFileChangeApproval =>
        handleApprovalRequest libraries message nativeKey "workspace.change"
      | _ => refuse libraries message.id (-32601) "unsupported server request"

/-! ### Notifications -/

/-- The section of `handleResolvedRequest`: what has the native key is gone. -/
def Client.resolveRequest (threadId : String) (key : Option String) (s : Client) : Bool × Client :=
  match key with
  | none => (false, s)
  | some key =>
    if threadId = "" ∨ threadId ≠ s.threadId then (false, s)
    else (true, { s with
      approvals := s.approvals.deleteWhere fun _ approval => approval.nativeKey = key
      questions := s.questions.deleteWhere fun _ question => question.nativeKey = key
      nativeRequests := s.nativeRequests.filter (· ≠ key) })

def handleResolvedRequest : ClientThread Unit :=
  match libraries.decodeResolved message.params with
  | none => fail (.protocol "resolved request payload is invalid")
  | some (threadId, requestId) => do
    let valid ← inSection (Client.resolveRequest threadId (nativeRequestKey libraries requestId))
    if valid then pure () else fail (.protocol "resolved request scope is invalid")

/-- The section of `turn/started`. -/
def Client.startTurn (threadId turnId : String) (s : Client) : Bool × Client :=
  if s.threadId ≠ threadId ∨ (s.turnId ≠ "" ∧ s.turnId ≠ turnId) then (false, s)
  else (true, { s with turnId := turnId })

/-- The case `turn/started` of `handleNotification`. -/
def handleTurnStarted : ClientThread Unit := do
  let sequential ← reading fun s => s.sequential
  match libraries.decodeTurn message.params with
  | none => fail (.protocol "turn/started payload is invalid")
  | some params => do
    let retired ← reading fun s => decide (params.turnId ∈ s.retiredTurns)
    if params.threadId = "" ∨ params.turnId = "" ∨
        (sequential ∧ 256 < params.turnId.utf8ByteSize) ∨ retired then
      fail (.protocol "turn/started payload is invalid")
    else if ← inSection (Client.startTurn params.threadId params.turnId) then
      publish libraries .lifecycleStarted (.ofMembers [("message", .string "Runtime turn started.")])
    else fail (.protocol "turn/started scope does not match")

/-- The case `item/agentMessage/delta` of `handleNotification`. -/
def handleDelta : ClientThread Unit :=
  match libraries.decodeDelta message.params with
  | none => fail (.protocol "agent message scope does not match")
  | some params => do
    let current ← reading (Client.matchesActiveTurn params.threadId params.turnId)
    if current = false then fail (.protocol "agent message scope does not match")
    else if 65536 < params.delta.utf8ByteSize then
      fail (.protocol "agent message delta exceeds the inline limit")
    else publish libraries .textDelta (.ofMembers [("text", .string params.delta)])

/-- Go on, unless the turn has ended. -/
def unlessTerminal (next : ClientThread Unit) : ClientThread Unit := do
  let terminal ← reading fun s => s.terminalDone
  if terminal then pure () else next

/-- `handlePlanUpdated`; adjacent identical plans are one. -/
def handlePlanUpdated : ClientThread Unit :=
  unlessTerminal <|
    match libraries.decodePlan message.params with
    | none => fail (.protocol "plan update is invalid")
    | some params => do
      let current ← reading (Client.matchesActiveTurn params.threadId params.turnId)
      match if current then params.snapshot else none with
      | none => fail (.protocol "plan update is invalid")
      | some (digest, payload) => do
        let (updates, lastDigest) ← reading fun s => (s.planUpdates, s.lastPlanDigest)
        if 0 < updates ∧ lastDigest = digest then pure ()
        else if 4096 ≤ updates then fail (.protocol "plan update is invalid")
        else if ← emit libraries .planUpdated payload then
          updating fun s => { s with lastPlanDigest := digest, planUpdates := s.planUpdates + 1 }
        else pure ()

def maximumUsageTokens : ℤ :=
  2 ^ 53 - 1

def UsageBreakdown.valid (usage : UsageBreakdown) : Bool :=
  [usage.input, usage.output, usage.total, usage.cached, usage.reasoning].all fun count =>
    match count with
    | none => false
    | some count => 0 ≤ count && count ≤ maximumUsageTokens

/-- `handleTokenUsage`; totals belong to the thread, and so to the session if there are more turns. -/
def handleTokenUsage : ClientThread Unit :=
  unlessTerminal <|
    match libraries.decodeUsage message.params with
    | none => fail (.protocol "runtime usage snapshot is invalid")
    | some params => do
      let current ← reading (Client.matchesActiveTurn params.threadId params.turnId)
      if current = false ∨ params.total.valid = false ∨ params.last.valid = false then
        fail (.protocol "runtime usage snapshot is invalid")
      else do
        let sequential ← reading fun s => s.sequential
        publish libraries (if sequential then .sessionUsageRecorded else .usageRecorded) (.ofMembers
          [("inputTokens", .number (params.total.input.getD 0)),
            ("outputTokens", .number (params.total.output.getD 0)),
            ("totalTokens", .number (params.total.total.getD 0))])

namespace ItemKind

/-- The type of the event that an item has completed, if it is about more than its content. -/
def summaryType : ItemKind → EventType
  | .command => .activityCompleted .process
  | .tool => .activityCompleted .tool
  | .patch => .activityCompleted .file
  | .message => .messageCompleted
  | .image => .imageCompleted

/-- The type of the event with the content of an item. -/
def contentType : ItemKind → EventType
  | .message => .messageCompleted
  | .command => .commandCompleted
  | .tool => .toolCompleted
  | .image => .imageCompleted
  | .patch => .patchCompleted

/-- The error if an item comes again with other content. -/
def changedText : ItemKind → String
  | .message => "completed message changed"
  | .command => "completed command changed"
  | .tool => "completed tool output is invalid"
  | .image => "completed generated image is invalid"
  | .patch => "completed patch is invalid"

/-- The error if there are too many items. -/
def limitText : ItemKind → String
  | .message => "completed message limit exceeded"
  | .command => "completed command limit exceeded"
  | .tool => "completed tool output is invalid"
  | .image => "completed generated image is invalid"
  | .patch => "completed patch is invalid"

/-- How many items of a kind there may be. -/
def limit : ItemKind → ℕ
  | .image => 256
  | _ => 4096

end ItemKind

/-- What is found about a completed item. -/
inductive ItemRecord where
  | recorded
  | known
  | changed
  | exhausted
  deriving DecidableEq

/-- The map of completed items, which only the handler of messages uses. -/
def Client.recordItem (kind : ItemKind) (item : CompletedItem) (s : Client) : ItemRecord × Client :=
  match (s.completed kind).lookup item.id with
  | some digest => (if digest = item.digest then .known else .changed, s)
  | none =>
    if kind.limit ≤ (s.completed kind).size ∨
        (kind = .image ∧ 16777216 < s.completedImageBytes + item.imageBytes) then (.exhausted, s)
    else (.recorded, { s with
      completed := Function.update s.completed kind ((s.completed kind).insert item.id item.digest)
      completedImageBytes :=
        if kind = .image then s.completedImageBytes + item.imageBytes else s.completedImageBytes })

/-- Publish a payload, if there is one. -/
def publishSome (type : EventType) : Option Json → ClientThread Unit
  | some payload => publish libraries type payload
  | none => pure ()

/-- `handleCompletedMessage`, `handleCompletedCommand`, `handleCompletedTool`, `handleCompletedImage` and
`handleCompletedPatch`: they differ in how they read an item, and in the events about it. -/
def handleCompletedItem (kind : ItemKind) (item : String) : ClientThread Unit := do
  let workingDir ← reading fun s => s.workingDir
  match libraries.normalizeItem kind workingDir item with
  | .error reason => fail (.protocol reason)
  | .ok completed =>
    match ← inSection (Client.recordItem kind completed) with
    | .known => pure ()
    | .changed => fail (.protocol kind.changedText)
    | .exhausted => fail (.protocol kind.limitText)
    | .recorded => do
      publishSome libraries kind.summaryType completed.summary
      publishSome libraries kind.contentType completed.content

def normalizeItemType (native : String) : Option (Activity × String) :=
  if native = "commandExecution" then some (.process, "command")
  else if native = "fileChange" then some (.file, "change")
  else if native ∈ ["mcpToolCall", "dynamicToolCall", "collabAgentToolCall", "webSearch"] then
    some (.tool, "tool")
  else if native = "plan" then some (.plan, "plan")
  else if native = "reasoning" then some (.reasoning, "reasoning")
  else if native ∈ ["hookPrompt", "imageView", "imageGeneration", "enteredReviewMode",
      "exitedReviewMode", "contextCompaction"] then some (.runtime, "runtime")
  else none

/-- The kind of item whose completed content is kept, by its native type. -/
def itemKind (native : String) : Option ItemKind :=
  if native = "agentMessage" then some .message
  else if native = "commandExecution" then some .command
  else if native = "mcpToolCall" ∨ native = "dynamicToolCall" then some .tool
  else if native = "imageGeneration" then some .image
  else if native = "fileChange" then some .patch
  else none

def handleItemLifecycle : ClientThread Unit :=
  unlessTerminal <|
    match libraries.decodeItem message.params with
    | none => fail (.protocol "item lifecycle scope does not match")
    | some params => do
      let current ← reading (Client.matchesActiveTurn params.threadId params.turnId)
      if params.type = "" ∨ current = false then
        fail (.protocol "item lifecycle scope does not match")
      else
        match if message.method = .itemCompleted then itemKind params.type else none with
        | some kind => handleCompletedItem libraries kind params.item
        | none =>
          match normalizeItemType params.type with
          | none => pure ()
          | some (activity, kind) =>
            publish libraries (if message.method = .itemCompleted then
                .activityCompleted activity else .activityStarted activity)
              (.ofMembers [("kind", .string kind)])

/-- The event that ends a turn, by the status of the turn. -/
def terminalEvent (status : String) : Option (EventType × Json × Option CodexError) :=
  if status = "completed" then
    some (.lifecycleSucceeded, .ofMembers [("message", .string "Runtime turn completed.")], none)
  else if status = "interrupted" then
    some (.lifecycleCancelled, .ofMembers [("reason", .string "runtime interruption")],
      some .turnInterrupted)
  else if status = "failed" then
    some (.lifecycleFailed, .ofMembers
      [("code", .string "RUNTIME_TURN_FAILED"), ("retryable", .bool false)], some .turnFailed)
  else none

/-- `terminalOnce`. -/
def Client.setTerminal (error : Option CodexError) (s : Client) : Client :=
  if s.terminalDone then s else { s with terminalDone := true, terminalErr := error }

def handleTurnCompleted : ClientThread Unit :=
  match libraries.decodeTurn message.params with
  | none => fail (.protocol "turn completion scope does not match")
  | some params => do
    let current ← reading (Client.matchesActiveTurn params.threadId params.turnId)
    if current = false then fail (.protocol "turn completion scope does not match")
    else
      match terminalEvent params.status with
      | none => fail (.protocol "terminal turn status is invalid")
      | some (type, payload, error) => do
        updating Client.closeInteractions
        if ← emit libraries type payload then updating (Client.setTerminal error) else pure ()

/-- The case `error` of `handleNotification`. -/
def handleError : ClientThread Unit := do
  let sequential ← reading fun s => s.sequential
  let scope := libraries.decodeScope message.params
  let current ← reading fun s => match scope with
    | some scope => s.matchesActiveTurn scope.threadId scope.turnId
    | none => false
  if sequential ∧ current = false then fail (.protocol "runtime error scope does not match")
  else publish libraries .errorOccurred (.ofMembers [("code", .string "RUNTIME_UPSTREAM_ERROR"),
    ("message", .string "The runtime reported an error."), ("retryable", .bool false)])

/-- `handleNotification`; what is unknown is left alone. -/
def handleNotification : ClientThread Unit :=
  match message.method with
  | .resolved => handleResolvedRequest libraries message
  | .turnStarted => handleTurnStarted libraries message
  | .agentMessageDelta => handleDelta libraries message
  | .planUpdated => handlePlanUpdated libraries message
  | .tokenUsageUpdated => handleTokenUsage libraries message
  | .itemStarted | .itemCompleted => handleItemLifecycle libraries message
  | .turnCompleted => handleTurnCompleted libraries message
  | .error => handleError libraries message
  | _ => pure ()

/-! ### Messages -/

/-- The map of `registerSessionRequest`. -/
def Client.seeRequest (key : String) (s : Client) : Bool × Client :=
  if key ∈ s.seenRequests ∨ 16384 ≤ s.seenRequests.length then (false, s)
  else (true, { s with seenRequests := key :: s.seenRequests })

/-- `registerSessionRequest`: in a session no identifier of a request comes twice. -/
def registerSessionRequest : ClientThread Bool :=
  match nativeRequestKey libraries message.id with
  | none => do
    fail (.protocol "server request identifier is invalid")
    pure false
  | some key => do
    if 263 < key.utf8ByteSize then
      fail (.protocol "server request identifier is invalid")
      pure false
    else if ← inSection (Client.seeRequest key) then pure true
    else
      fail (.protocol "session request identity is unavailable")
      pure false

/-- The last part of `handleInbound`. -/
def handleMessage : ClientThread Unit :=
  if message.id ≠ "" then handleServerRequest libraries message
  else handleNotification libraries message

/-- The part of `handleInbound` about turns of a session that are over. -/
def handleScoped : ClientThread Unit := do
  let scope := libraries.decodeScope message.params
  let retired ← reading fun s => match scope with
    | some scope => decide (scope.threadId = s.threadId ∧
        (scope.turnId ∈ s.retiredTurns ∨ scope.nestedTurnId ∈ s.retiredTurns))
    | none => false
  if retired then
    if message.id ≠ "" then refuse libraries message.id (-32600) "turn is no longer active"
    else pure ()
  else handleMessage libraries message

def handleInbound : ClientThread Unit := do
  let sequential ← reading fun s => s.sequential
  if sequential = false then handleMessage libraries message
  else if message.id ≠ "" then
    if ← registerSessionRequest libraries message then handleScoped libraries message else pure ()
  else unlessTerminal (handleScoped libraries message)

end DataGround.Codex
