import DataGround.Persistence.JournalInteractions

/-!
# The calls that write the journal

`JournalCall` lists the methods of the repository that write events, with their arguments, and
`JournalCall.program` is what each of them does: the checks before its transaction, the statements,
and the commit.  Commands run inside of `execute`.  `journalServer` is the database with any number
of such calls at work.

`JournalCall.recording` says for which event a call answers: the one that a runtime has numbered.
-/

namespace DataGround

open Process (ask)

/-- A call of a method that writes events. -/
inductive JournalCall where
  | acceptInvocation (idempotency : Idempotency) (input : AcceptInvocationInput)
  | acceptCancellation (idempotency : Idempotency) (input : AcceptCancellationInput)
  | advance (claim : Claim) (next : State)
  | recordRuntimeEvent (claim : Claim) (event : Writer.InvocationRuntimeEvent)
  | requestApproval (claim : Claim) (effect : EffectRecord) (target : RuntimeTarget)
      (request : Writer.ApprovalRequest)
  | resolveApproval (resolution : Writer.ApprovalResolution)
  | resolveApprovalCommand (idempotency : Idempotency) (resolution : Writer.ApprovalResolution)
  | closeApproval (claim : Claim) (effect : EffectRecord) (id reason : String)
  | expireApprovals (isolationDomainId actor correlation : String) (limit : ℕ)
  | requestQuestion (claim : Claim) (effect : EffectRecord) (target : RuntimeTarget)
      (request : Writer.QuestionRequest)
  | answerQuestion (answer : Writer.QuestionAnswer)
  | answerQuestionCommand (idempotency : Idempotency) (answer : Writer.QuestionAnswer)
  | closeQuestion (claim : Claim) (effect : EffectRecord) (id reason : String)
  | expireQuestions (isolationDomainId actor correlation : String) (limit : ℕ)
  deriving DecidableEq

/-- What a call returns. -/
inductive JournalResult where
  | done
  | invocation (key : ResourceKey) (columns : InvocationColumns)
  | event (event : InvocationEvent)
  | approval (approval : RuntimeApproval)
  | question (question : RuntimeQuestion)
  | expired (count : ℕ)
  | command (result : CommandResult)
  deriving DecidableEq

/-- A call at the database. -/
abbrev JournalProgram :=
  Process (CommandRequest JournalStatement) (CommandRequest.Reply JournalStatement.Reply)
    (Except RepositoryError JournalResult)

/-- A transaction around its statements; a body that is not to be committed is rolled back by the
deferred `Rollback`. -/
def inTransaction (beginning committing : RepositoryError)
    (body : JournalAction (JournalResult × Bool)) : JournalProgram := do
  match ← ask CommandRequest.begin with
  | .error _ => pure (.error beginning)
  | .ok () =>
    match ← body.run.embed CommandRequest.action with
    | .error error => pure (.error error)
    | .ok (result, false) => pure (.ok result)
    | .ok (result, true) =>
      match ← ask CommandRequest.commit with
      | .error _ => pure (.error committing)
      | .ok () => pure (.ok result)

/-- A command: `execute` around the statements of its action. -/
def commandProgram (marshal : JournalResult → Option String) (idempotency : Idempotency)
    (action : Time → JournalAction (Int × JournalResult)) :
    Process (CommandRequest JournalStatement) (CommandRequest.Reply JournalStatement.Reply)
      (Except RepositoryError CommandResult) :=
  execute marshal idempotency fun now => (action now).run

/-- The response of a command as the result of its call. -/
def commandResult (result : Except RepositoryError CommandResult) :
    Except RepositoryError JournalResult :=
  result.map .command

variable (env : RuntimeEnvironment)

/-- The check of a replayed answer, after the command. -/
def recheckAnswer (answer : Writer.QuestionAnswer) : JournalAction Unit := do
  let value ← Writer.demand
    (← Writer.getInvocationRuntimeQuestion env
      ⟨answer.invocation.isolationDomainId, answer.questionId⟩) Writer.questionMissing
  Writer.check (value.invocationId = answer.invocation.id) Writer.questionMissing
  Writer.check (answer.expectedVersion = 1 ∧ value.answeredBy = answer.actorId ∧
    value.answers = some answer.answers) Writer.questionConflict
  Writer.authorize true

/-- The reasons that a worker may close an interaction for. -/
def isCloseReason (reason : String) : Bool :=
  reason = "runtime-request-cleared" || reason = "runtime-ended" || reason = "cancelled"

/-- The arguments of the two methods that expire interactions are valid. -/
def validExpiryBatch (isolationDomainId actor correlation : String) (limit : ℕ) : Bool :=
  Writer.idMatches "iso" isolationDomainId &&
    Writer.validInvocationRuntimeApprovalActor actor && Writer.idMatches "cor" correlation &&
    1 ≤ limit && limit ≤ 100

namespace JournalCall

/-- The method that a call runs, with the checks it makes before its transaction. -/
def program (marshal : JournalResult → Option String) :
    JournalCall → JournalProgram
  | .acceptInvocation idempotency input => do
    let result ← commandProgram marshal idempotency fun now => do
      let columns ← Writer.acceptInvocation env input now
      pure (202, .invocation ⟨input.isolationDomainId, input.id⟩ columns)
    pure (commandResult result)
  | .acceptCancellation idempotency input =>
    if input.actorId = "" ∨ input.correlationId = "" then
      pure (.error (.refused "cancellation actor and correlation are required"))
    else do
      let result ← commandProgram marshal idempotency fun now => do
        let (status, columns) ← Writer.acceptCancellation env input now
        pure (status, .invocation input.key columns)
      pure (commandResult result)
  | .advance claim next =>
    if canTransition claim.key.kind claim.observedState next then do
      let now ← ask CommandRequest.now
      inTransaction (.refused "begin operation transition")
        (.refused "commit operation transition") do
          Writer.advance env claim next now
          pure (.done, true)
    else pure (.error (transitionRefused claim.key.kind claim.observedState next))
  | .recordRuntimeEvent claim event =>
    if Writer.validInvocationRuntimeClaim claim = false then pure (.error .leaseLost)
    else
      match Writer.validatedPayload env event with
      | none => pure (.error Writer.eventInvalid)
      | some payload =>
        inTransaction (.refused "begin invocation runtime event")
          (.refused "commit invocation runtime event") do
            let value ← Writer.recordInvocationRuntimeEvent env claim event.sourceSequence
              event.eventType payload
            pure (.event value, true)
  | .requestApproval claim effect target request =>
    if Writer.validInvocationRuntimeAttempt env.toEnvironment claim effect &&
        Writer.invocationRuntimeTargetMatchesApproval target claim &&
        request.sourceSequence ≠ 0 &&
        Writer.validInvocationRuntimeApprovalAction request.requestedAction then
      inTransaction (.refused "begin invocation runtime approval request")
        (.refused "commit invocation runtime approval request") do
          let approval ← Writer.requestApproval env claim effect target request
          pure (.approval approval, true)
    else pure (.error Writer.approvalInvalid)
  | .resolveApproval resolution =>
    if Writer.validInvocationRuntimeApprovalResolution resolution then
      inTransaction (.refused "begin invocation runtime approval resolution")
        (.refused "commit invocation runtime approval resolution") do
          let approval ← Writer.resolveInvocationRuntimeApproval env resolution false
          pure (.approval approval, true)
    else pure (.error Writer.approvalInvalid)
  | .resolveApprovalCommand idempotency resolution =>
    if Writer.validInvocationRuntimeApprovalResolution resolution &&
        idempotency.isolationDomainId = resolution.invocation.isolationDomainId then do
      let result ← commandProgram marshal idempotency fun _ => do
        let approval ← Writer.resolveInvocationRuntimeApproval env resolution true
        pure (200, .approval approval)
      pure (commandResult result)
    else pure (.error Writer.approvalInvalid)
  | .closeApproval claim effect id reason =>
    if Writer.idMatches "apr" id &&
        Writer.validInvocationRuntimeAttempt env.toEnvironment claim effect &&
        isCloseReason reason then
      inTransaction statementFailed statementFailed do
        let approval ← Writer.closeApproval env claim effect id reason
        pure (.approval approval, true)
    else pure (.error Writer.approvalInvalid)
  | .expireApprovals isolationDomainId actor correlation limit =>
    if validExpiryBatch isolationDomainId actor correlation limit then
      inTransaction statementFailed statementFailed do
        let count ← Writer.expireApprovals env isolationDomainId actor correlation limit
        pure (.expired count, true)
    else pure (.error Writer.approvalInvalid)
  | .requestQuestion claim effect target request =>
    if Writer.validInvocationRuntimeAttempt env.toEnvironment claim effect &&
        Writer.invocationRuntimeTargetMatchesApproval target claim &&
        request.sourceSequence ≠ 0 && env.validQuestionPrompts request.prompts then
      inTransaction statementFailed statementFailed do
        let (question, committed) ← Writer.requestQuestion env claim effect target request
        pure (.question question, committed)
    else pure (.error Writer.questionInvalid)
  | .answerQuestion answer =>
    if Writer.validInvocationRuntimeQuestionAnswer answer then
      inTransaction statementFailed statementFailed do
        let question ← Writer.answerInvocationRuntimeQuestion env answer
        pure (.question question, true)
    else pure (.error Writer.questionInvalid)
  | .answerQuestionCommand idempotency answer =>
    if Writer.validInvocationRuntimeQuestionAnswer answer &&
        idempotency.isolationDomainId = answer.invocation.isolationDomainId then do
      match ← commandProgram marshal idempotency fun _ => do
          let question ← Writer.answerInvocationRuntimeQuestion env answer
          pure (200, .question question) with
      | .error error => pure (.error error)
      | .ok result =>
        if result.replayed then do
          let rechecked ← (recheckAnswer env answer).run.embed CommandRequest.action
          pure (rechecked.map fun _ => .command result)
        else pure (.ok (.command result))
    else pure (.error Writer.questionInvalid)
  | .closeQuestion claim effect id reason =>
    if Writer.idMatches "qst" id &&
        Writer.validInvocationRuntimeAttempt env.toEnvironment claim effect &&
        isCloseReason reason then
      inTransaction statementFailed statementFailed do
        let question ← Writer.closeQuestion env claim effect id reason
        pure (.question question, true)
    else pure (.error Writer.questionInvalid)
  | .expireQuestions isolationDomainId actor correlation limit =>
    if validExpiryBatch isolationDomainId actor correlation limit then
      inTransaction statementFailed statementFailed do
        let count ← Writer.expireQuestions env isolationDomainId actor correlation limit
        pure (.expired count, true)
    else pure (.error Writer.questionInvalid)

/-- What the request of an approval asks the journal to record. -/
def approvalRecording (target : RuntimeTarget) (request : Writer.ApprovalRequest) : Recording :=
  ⟨target.operation, request.sourceSequence, "interaction.approval.requested",
    Writer.approvalRequested
      (Writer.interactionKey env "apr" target.operation request.sourceSequence).id
      request.requestedAction, false⟩

/-- What a question asks the journal to record. -/
def questionRecording (target : RuntimeTarget) (request : Writer.QuestionRequest) : Recording :=
  ⟨target.operation, request.sourceSequence, "interaction.question.requested",
    Writer.questionRequested env
      (Writer.interactionKey env "qst" target.operation request.sourceSequence).id
      request.expiresAt, false⟩

/-- What a call asks the journal to record under a number of the runtime. -/
def recording : JournalCall → Option Recording
  | .recordRuntimeEvent claim event => (Writer.validatedPayload env event).map fun payload =>
    ⟨claim.operation, event.sourceSequence, event.eventType, payload, true⟩
  | .requestApproval _ _ target request => some (approvalRecording env target request)
  | .requestQuestion _ _ target request => some (questionRecording env target request)
  | _ => none

/-- The transaction that a call starts with. -/
def start (call : JournalCall) : JournalTx :=
  ⟨call.recording env, [], [], [], none, [], false⟩

end JournalCall

/-- The database as a server of calls.  A call that ends has its transaction rolled back, unless it
is committed. -/
def journalServer (marshal : JournalResult → Option String) :
    Server Journal JournalTx JournalAnswer JournalCall (CommandRequest JournalStatement)
      (CommandRequest.Reply JournalStatement.Reply) (Except RepositoryError JournalResult) where
  start call := (call.start env, call.program env marshal)
  serve := JournalTx.serve
  release s id _ := s.rollback id

end DataGround
