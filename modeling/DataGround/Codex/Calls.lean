import DataGround.Codex.Client

/-!
# What goes on at a client

The goroutines of a client: the handlers of messages, which `dispatchMu` keeps apart, the calls of the
worker, the timers of questions, and what ends the connection.
-/

namespace DataGround.Codex

open Thread (act)

/-! ### Approvals -/

/-- The first section of `ResolveApproval`. -/
def Client.beginResolve (approvalId : String) (s : Client) : Option Approval × Client :=
  match s.approvals.lookup approvalId with
  | none => (none, s)
  | some pending =>
    if s.interactionsClosed ∨ pending.resolving then (none, s)
    else (some pending, { s with
      inFlightCommands := s.inFlightCommands + 1
      approvals := s.approvals.insert approvalId { pending with resolving := true } })

/-- The guard of `ResolveApproval`. -/
def Client.guardApproval (approvalId nativeKey : String) (s : Client) : Option CodexError :=
  match s.approvals.lookup approvalId with
  | none => some .approvalNotFound
  | some current =>
    if s.interactionsClosed ∨ current.resolving = false ∨ current.nativeKey ≠ nativeKey then
      some .approvalNotFound
    else none

/-- The section of `ResolveApproval` after a write that failed. -/
def Client.releaseApproval (approvalId nativeKey : String) (s : Client) : Client :=
  match s.approvals.lookup approvalId with
  | none => s
  | some current =>
    if s.interactionsClosed = false ∧ current.nativeKey = nativeKey then
      { s with approvals := s.approvals.insert approvalId { current with resolving := false } }
    else s

/-- The last section of `ResolveApproval`. -/
def Client.removeApproval (approvalId nativeKey : String) (s : Client) : Client :=
  { s with
    approvals := s.approvals.erase approvalId
    nativeRequests := s.nativeRequests.filter (· ≠ nativeKey) }

def Client.finishCommand (s : Client) : Client :=
  { s with inFlightCommands := s.inFlightCommands - 1 }

/-- `ApprovalDecision`. -/
inductive Decision where
  | approve
  | deny
  | other (text : String)
  deriving DecidableEq

/-- The native decision. -/
def Decision.native : Decision → String
  | .approve => "accept"
  | _ => "decline"

variable (libraries : CodexLibraries)

/-- The part of `ResolveApproval` that writes. -/
def writeDecision (approvalId : String) (decision : Decision) (pending : Approval) :
    ClientThread (Option CodexError) := do
  if pending.method ≠ .requestCommandApproval ∧ pending.method ≠ .requestFileChangeApproval then
    pure (some .approvalNotFound)
  else
    let response := Json.ofMembers [("id", .string pending.requestId),
      ("result", .ofMembers [("decision", .string decision.native)])]
    let guard := reading (Client.guardApproval approvalId pending.nativeKey)
    match ← writeGuarded libraries response guard with
    | some error => do
      updating (Client.releaseApproval approvalId pending.nativeKey)
      pure (some error)
    | none => do
      act (.cleanup approvalId pending.nativeKey) fun _ _ s =>
        some ((), s.removeApproval approvalId pending.nativeKey)
      pure none

def resolveApproval (approvalId : String) (decision : Decision) :
    ClientThread (Option CodexError) := do
  if decision ≠ .approve ∧ decision ≠ .deny then pure (some .approvalDecision)
  else
    match ← inSection (Client.beginResolve approvalId) with
    | none => pure (some .approvalNotFound)
    | some pending => do
      let result ← writeDecision libraries approvalId decision pending
      updating Client.finishCommand
      pure result

/-! ### Questions -/

/-- The first section of `AnswerQuestion`. -/
def Client.beginAnswer (id : String) (answers : Json) (now : ℤ) (s : Client) :
    Except CodexError PendingQuestion × Client :=
  match s.questions.lookup id with
  | none => (.error .questionNotFound, s)
  | some pending =>
    if s.interactionsClosed ∨ pending.resolving then (.error .questionNotFound, s)
    else if pending.expiresAt ≤ now then (.error .questionExpired, s)
    else
      match libraries.validateAnswers pending.prompts answers with
      | some message => (.error (.questionAnswers message), s)
      | none => (.ok pending, { s with
          inFlightCommands := s.inFlightCommands + 1
          questions := s.questions.insert id { pending with resolving := true } })

/-- The guard of `AnswerQuestion`. -/
def Client.guardQuestion (id : String) (pointer : ℕ) (now : ℤ) (s : Client) : Option CodexError :=
  match s.questions.lookup id with
  | none => some .questionNotFound
  | some current =>
    if current.pointer ≠ pointer ∨ s.interactionsClosed then some .questionNotFound
    else if current.expiresAt ≤ now then some .questionExpired
    else none

/-- The section of `AnswerQuestion` after a write that failed. -/
def Client.releaseQuestion (id : String) (pointer : ℕ) (s : Client) : Client :=
  match s.questions.lookup id with
  | none => s
  | some current =>
    if current.pointer = pointer ∧ s.interactionsClosed = false then
      { s with questions := s.questions.insert id { current with resolving := false } }
    else s

/-- The last section of `AnswerQuestion`. -/
def Client.removeQuestion (id : String) (pointer : ℕ) (s : Client) : Client :=
  match s.questions.lookup id with
  | none => s
  | some current =>
    if current.pointer = pointer then
      { s with
        questions := s.questions.erase id
        nativeRequests := s.nativeRequests.filter (· ≠ current.nativeKey) }
    else s

/-- The part of `AnswerQuestion` that writes. -/
def writeAnswers (id : String) (answers : Json) (pending : PendingQuestion) :
    ClientThread (Option CodexError) := do
  let response := Json.ofMembers [("id", .string pending.requestId), ("result", .ofMembers
    [("answers", libraries.nativeAnswers pending.nativeIds pending.prompts answers)])]
  let guard := do
    let now ← readClock
    reading (Client.guardQuestion id pending.pointer now)
  match ← writeGuarded libraries response guard with
  | some error => do
    updating (Client.releaseQuestion id pending.pointer)
    pure (some error)
  | none => do
    updating (Client.removeQuestion id pending.pointer)
    pure none

def answerQuestion (id : String) (answers : Json) : ClientThread (Option CodexError) := do
  if ← contextDone then pure (some .context)
  else
    let now ← readClock
    match ← inSection (Client.beginAnswer libraries id answers now) with
    | .error error => pure (some error)
    | .ok pending => do
      let result ← writeAnswers libraries id answers pending
      updating Client.finishCommand
      pure result

/-- The section of the timer of a question. -/
def Client.expire (id : String) (pointer : ℕ) (s : Client) : Bool × Client :=
  match s.questions.lookup id with
  | none => (false, s)
  | some current =>
    if current.pointer = pointer then
      (true, { s.closeInteractions with inFlightCommands := s.inFlightCommands + 1 })
    else (false, s)

/-- The timer of a question; what is not answered stops the transport. -/
def questionTimer (id : String) (pointer : ℕ) : ClientThread (Option CodexError) := do
  if ← inSection (Client.expire id pointer) then
    fail .questionExpired
    updating Client.finishCommand
    pure none
  else pure none

/-! ### Other calls -/

/-- A request to the server and its response, `request`. -/
def request (libraries : CodexLibraries) (method : String) (params : Json) :
    ClientThread (Except CodexError String) := do
  match ← write libraries (.ofMembers [("method", .string method), ("params", params)]) with
  | some error => pure (.error error)
  | none =>
    let response ← act .plain fun _ answer s => match answer with
      | .response .done => if s.done then some (Response.done, s) else none
      | .response response => some (response, s)
      | _ => none
    match response with
    | .result text => pure (.ok text)
    | .error code => pure (.error (.rejected method code))
    | .done => do
      let error ← failure
      pure (.error error)
    | .cancelled => do
      fail (.protocol "request cancelled")
      pure (.error .context)

/-- The first section of `Interrupt`. -/
def Client.beginInterrupt (s : Client) : Option (String × String) × Client :=
  if s.interactionsClosed then (none, s)
  else (some (s.threadId, s.turnId),
    { s.closeInteractions with inFlightCommands := s.inFlightCommands + 1 })

/-- The part of `Interrupt` that asks the server. -/
def requestInterrupt (threadId turnId : String) : ClientThread (Option CodexError) := do
  if threadId = "" ∨ turnId = "" then pure (some .closed)
  else
    let params := Json.ofMembers [("threadId", .string threadId), ("turnId", .string turnId)]
    match ← request libraries "turn/interrupt" params with
    | .ok _ => pure none
    | .error error => pure (some error)

def interrupt : ClientThread (Option CodexError) := do
  match ← inSection Client.beginInterrupt with
  | none => pure (some .closed)
  | some (threadId, turnId) => do
    let result ← requestInterrupt libraries threadId turnId
    updating Client.finishCommand
    pure result

/-- What a turn is started with; it has been normalized. -/
structure StartRequest where
  approvalMode : ApprovalMode
  questionMode : QuestionMode
  questionTimeout : ℤ
  workingDir : String
  params : Json
  deriving DecidableEq

/-- What `thread/start` and `turn/start` return, as far as it is decoded. -/
structure StartLibraries where
  /-- The identifier and the working directory of the thread. -/
  decodeThread : String → Option (String × String)
  /-- The identifier of the turn. -/
  decodeTurn : String → Option String
  validWorkingDirectory : String → Bool

/-- Fail, and return the error. -/
def protocolFailed (message : String) : ClientThread (Option CodexError) := do
  let error ← protocolFailure message
  pure (some error)

/-- The section of `startTurn`. -/
def Client.beginTurn (turnId : String) (s : Client) : Bool × Client :=
  if s.turnId ≠ "" ∧ s.turnId ≠ turnId then (false, s)
  else (true, { s with turnId := turnId })

def startTurn (decoding : StartLibraries) (params : Json) : ClientThread (Option CodexError) := do
  match ← request libraries "turn/start" params with
  | .error error => pure (some error)
  | .ok text =>
    match decoding.decodeTurn text with
    | none => protocolFailed "response result is invalid"
    | some turnId => do
      let (sequential, retired) ← reading fun s => (s.sequential, decide (turnId ∈ s.retiredTurns))
      if turnId = "" ∨ (sequential ∧ 256 < turnId.utf8ByteSize) ∨ retired then
        protocolFailed "turn/start response identifier is invalid"
      else if ← inSection (Client.beginTurn turnId) then pure none
      else protocolFailed "turn/start response conflicts with the active turn"

/-- The first section of `Start`. -/
def Client.begin (start : StartRequest) (s : Client) : Bool × Client :=
  if s.started then (false, s)
  else (true, { s with
    started := true, approvalMode := start.approvalMode, questionMode := start.questionMode
    questionTimeout := start.questionTimeout })

/-- The working directory of a thread: the one that was asked for, or the one that the server has, which
must not differ. -/
def workingDirectory (decoding : StartLibraries) (requested found : String) : Option String :=
  if found = "" then some requested
  else if decoding.validWorkingDirectory found = false ∨ (requested ≠ "" ∧ requested ≠ found) then none
  else some found

/-- `Start`. -/
def startClient (decoding : StartLibraries) (start : StartRequest) :
    ClientThread (Option CodexError) := do
  if ← inSection (Client.begin start) then
    match ← request libraries "initialize" start.params with
    | .error error => pure (some error)
    | .ok _ =>
      match ← write libraries (.ofMembers [("method", .string "initialized")]) with
      | some error => pure (some error)
      | none =>
        match ← request libraries "thread/start" start.params with
        | .error error => pure (some error)
        | .ok text =>
          match decoding.decodeThread text with
          | none => protocolFailed "response result is invalid"
          | some (threadId, found) => do
            let sequential ← reading fun s => s.sequential
            if threadId = "" ∨ (sequential ∧ 256 < threadId.utf8ByteSize) then
              protocolFailed "thread/start response is missing its identifier"
            else
              match workingDirectory decoding start.workingDir found with
              | none => protocolFailed "thread/start workspace does not match"
              | some root => do
                updating fun s => { s with workingDir := root, threadId := threadId }
                startTurn libraries decoding start.params
  else pure (some .concurrentTurn)

/-- The section of `closeTurn`: a turn of a session that is over does not close the connection. -/
def Client.claimClose (s : Client) : Bool × Client :=
  if s.sequential ∧ (s.terminalDone ∨ s.active = false) then (false, s)
  else (!s.closed, { s with closed := true })

def close : ClientThread (Option CodexError) := do
  if ← inSection Client.claimClose then
    fail .closed
    pure none
  else pure none

/-- Take `dispatchMu`. -/
def lockDispatch : ClientThread Unit :=
  act .plain fun id _ s => if s.dispatching = none then some ((), { s with dispatching := some id })
    else none

/-- Give `dispatchMu` back. -/
def unlockDispatch : ClientThread Unit :=
  updating fun s => { s with dispatching := none }

/-- The section of `StartTurn` that makes another client the active one. -/
def Client.retire (s : Client) : Option CodexError × Client :=
  if s.closed then (some .closed, s)
  else if s.done then (some (s.err.getD .closed), s)
  else (none, { s with active := false, retiredTurns := s.turnId :: s.retiredTurns })

/-- `StartTurn` of a session, as far as the client of the previous turn is concerned. -/
def nextTurn : ClientThread (Option CodexError) := do
  let (terminal, inFlight) ← reading fun s => (s.terminalDone, s.inFlightCommands)
  if terminal = false ∨ inFlight ≠ 0 then pure (some .concurrentTurn)
  else
    let pending ← reading fun s => s.events.length
    if pending ≠ 0 then pure (some .turnEventsPending)
    else
      lockDispatch
      let error ← inSection Client.retire
      unlockDispatch
      pure error

/-- The worker takes an event off the channel. -/
def receive : ClientThread (Option CodexError) :=
  act .plain fun _ _ s => match s.events with
    | [] => none
    | _ :: events => some (none, { s with events := events })

/-! ### All goroutines -/

/-- The handler of messages takes one from the queue, and `dispatchMu` with it. -/
def dispatch (message : WireMessage) : ClientThread Unit :=
  act (.dispatch message) fun id _ s =>
    if s.dispatching = none ∧ s.active then some ((), { s with dispatching := some id }) else none

/-- One turn of `inboundLoop`. -/
def inbound (libraries : CodexLibraries) (message : WireMessage) : ClientThread (Option CodexError) := do
  dispatch message
  handleInbound libraries message
  unlockDispatch
  pure none

/-- A goroutine. -/
inductive CodexCall where
  | inbound (message : WireMessage)
  | resolveApproval (approvalId : String) (decision : Decision)
  | answerQuestion (id : String) (answers : Json)
  | questionTimer (id : String) (pointer : ℕ)
  | interrupt
  | start (request : StartRequest)
  | nextTurn
  | close
  /-- `readLoop` or `waitProcess` has found an error. -/
  | fail (error : CodexError)
  | receive
  deriving DecidableEq

/-- What a goroutine runs. -/
def CodexCall.program (decoding : StartLibraries) :
    CodexCall → ClientThread (Option CodexError)
  | .inbound message => Codex.inbound libraries message
  | .resolveApproval approvalId decision => Codex.resolveApproval libraries approvalId decision
  | .answerQuestion id answers => Codex.answerQuestion libraries id answers
  | .questionTimer id pointer => Codex.questionTimer id pointer
  | .interrupt => Codex.interrupt libraries
  | .start request => startClient libraries decoding request
  | .nextTurn => Codex.nextTurn
  | .close => Codex.close
  | .fail error => do
    Codex.fail error
    pure none
  | .receive => Codex.receive

/-- The goroutines of a client. -/
def codexThreads (decoding : StartLibraries) :=
  threads (CodexCall.program libraries decoding)

/-- A state of a client with its goroutines. -/
abbrev CodexSystem :=
  Server.State Client CodexCall (ThreadAction Client CodexAnswer CodexLabel) ThreadAction.Reply (Option CodexError)

end DataGround.Codex
