import DataGround.Library.WriteLog
import DataGround.Persistence.Command
import DataGround.Persistence.Effect
import DataGround.Persistence.Execute

/-!
# The journal of an invocation: the database

The events of an invocation are numbered by `COALESCE(max(sequence), 0) + 1`, read in one statement
and inserted in another.  So what the journal says depends on how the statements of its writers
interleave, and the writers are modelled here by their statements: each is a session at the
database, under `READ COMMITTED`, in a transaction of its own (see `Library.Sessions`,
`Library.WriteLog`).

The database is its log of writes.  It knows

* the columns of invocations, operations, approvals and questions that no statement ever updates
  -- among them the invocation that an operation, an approval or a question belongs to,
* the events, with the unique indexes of `invocation_events`,
* the row locks on invocations.

Everything else that a statement may depend on -- leases, states, versions, the other tables -- is
left open: the answer may say anything about it.  In particular a read under conditions may find
nothing, a guarded write may affect no row, and any statement may fail.
-/

namespace DataGround

/-! ### Rows -/

/-- The columns of `invocations` that do not change and that the journal repeats. -/
structure InvocationColumns where
  (serviceId revisionId correlationId operationId : String)
  deriving DecidableEq

/-- The columns of `invocation_runtime_approvals` that do not change. -/
structure ApprovalColumns where
  (contract operationId invocationId serviceId revisionId effectId : String)
  sourceSequence : ℕ
  requestedAction : String
  createdAt : Time
  expiresAt : Option Time
  deriving DecidableEq

/-- The columns of `invocation_runtime_questions` that do not change. -/
structure QuestionColumns where
  (operationId invocationId serviceId revisionId effectId : String)
  sourceSequence : ℕ
  (correlationId requestedBy : String)
  prompts : Json
  expiresAt : Time
  deriving DecidableEq

/-- The two kinds of interactions with a runtime. -/
inductive InteractionKind where
  | approval
  | question
  deriving DecidableEq

/-- The text a kind of interactions is written with. -/
def InteractionKind.text : InteractionKind → String
  | .approval => "approval"
  | .question => "question"

/-- The states of approvals and questions. -/
inductive InteractionState where
  | pending
  | resolved
  | answered
  | delivering
  | delivered
  | closed
  | expired
  | deliveryUnknown
  deriving DecidableEq

/-- The text an interaction's state is stored under. -/
def InteractionState.text : InteractionState → String
  | .pending => "pending"
  | .resolved => "resolved"
  | .answered => "answered"
  | .delivering => "delivering"
  | .delivered => "delivered"
  | .closed => "closed"
  | .expired => "expired"
  | .deliveryUnknown => "delivery_unknown"

/-- `InvocationRuntimeApproval`. -/
structure RuntimeApproval extends ApprovalColumns where
  state : InteractionState
  version : ℕ
  (decision effectiveDecision resolvedBy resolutionCorrelationId : String)
  (resolvedAt deliveredAt closedAt : Option Time)
  closeReason : String
  updatedAt : Time
  deriving DecidableEq

/-- `InvocationRuntimeQuestion`. -/
structure RuntimeQuestion extends QuestionColumns where
  state : InteractionState
  version : ℕ
  answers : Option Json
  answeredBy : String
  closedAt : Option Time
  closeReason : String
  updatedAt : Time
  deriving DecidableEq

/-- `InvocationRuntimeTarget`, as far as the journal depends on it. -/
structure RuntimeTarget where
  operation : ResourceKey
  (invocationId serviceId revisionId actorId correlationId : String)
  deriving DecidableEq

/-- The invocation of a target. -/
def RuntimeTarget.invocation (target : RuntimeTarget) : ResourceKey :=
  ⟨target.operation.isolationDomainId, target.invocationId⟩

/-- The published revision behind an alias. -/
structure AliasTarget where
  (revisionId runtimeProfile : String)
  inputSchema : Option Json
  deriving DecidableEq

/-! ### Writes -/

/-- The tables whose rows are part of the log. -/
inductive JournalTable where
  | invocations
  | operations
  | approvals
  | questions
  deriving DecidableEq

/-- A row, by its key and the columns that do not change. -/
inductive JournalRow where
  | invocation (key : ResourceKey) (columns : InvocationColumns)
  | operation (key : ResourceKey) (invocationId : String)
  | approval (key : ResourceKey) (columns : ApprovalColumns)
  | question (key : ResourceKey) (columns : QuestionColumns)
  deriving DecidableEq

/-- The table and the primary key of a row. -/
def JournalRow.key : JournalRow → JournalTable × ResourceKey
  | .invocation key _ => (.invocations, key)
  | .operation key _ => (.operations, key)
  | .approval key _ => (.approvals, key)
  | .question key _ => (.questions, key)

/-- A write: a new row, an event, or a change that the log only names. -/
inductive JournalWrite where
  | row (row : JournalRow)
  | event (event : InvocationEvent)
  | other (what : String)
  deriving DecidableEq

/-- Two events violate a unique index of `invocation_events`: the primary key, the identifier, or
the number that the runtime gave them. -/
def InvocationEvent.collides (event other : InvocationEvent) : Bool :=
  event.id = other.id ||
    (event.invocation = other.invocation &&
      (event.sequence = other.sequence ||
        (event.sourceSequence ≠ none && event.sourceSequence = other.sourceSequence)))

/-- Two writes violate a primary key or a unique index. -/
def JournalWrite.conflicts : JournalWrite → JournalWrite → Bool
  | .row r, .row r' => r.key = r'.key
  | .event e, .event e' => e.collides e'
  | _, _ => false

/-- The invocation whose journal a write adds to. -/
def JournalWrite.about : JournalWrite → Option ResourceKey
  | .event e => some e.invocation
  | _ => none

/-- The event that is written. -/
def JournalWrite.event? : JournalWrite → Option InvocationEvent
  | .event e => some e
  | _ => none

/-- The events among writes. -/
def journalEvents (writes : List JournalWrite) : List InvocationEvent :=
  writes.filterMap JournalWrite.event?

/-! ### Statements -/

/-- A statement of a writer, in its transaction. -/
inductive JournalStatement where
  /-- `SELECT clock_timestamp()`, or the clock of the process. -/
  | clock
  /-- A read of columns that are not part of the log: whether there is such a row, and whether the
  writer goes on with what it finds in it. -/
  | select (what : String)
  /-- An `INSERT` or `UPDATE` of columns that are not part of the log. -/
  | change (what : String)
  | resolveAlias (isolationDomainId serviceId aliasName : String)
  | insert (row : JournalRow)
  /-- `SELECT … FROM invocations … FOR UPDATE`. -/
  | lockInvocation (key : ResourceKey)
  /-- The query of `lockInvocationRuntimeClaim`, `FOR UPDATE OF invocation`. -/
  | lockClaim (claim : Claim) (now : Time)
  /-- The second query of `lockRuntimeInteractionAttempt`. -/
  | lockAttempt (claim : Claim) (effect : ResourceKey)
  /-- The query of `lockDueRuntimeInteractionInvocations`, `SKIP LOCKED`. -/
  | lockDue (kind : InteractionKind) (isolationDomainId : String) (limit : ℕ)
  /-- The due approvals or questions of invocations. -/
  | dueInteractions (kind : InteractionKind) (isolationDomainId : String) (limit : ℕ)
      (invocations : List String)
  /-- `SELECT clock_timestamp(), deadline_at` of an operation. -/
  | readDeadline (operation : ResourceKey)
  | readTarget (operation : ResourceKey)
  | readApproval (key : ResourceKey)
  | readQuestion (key : ResourceKey)
  /-- The query of `getInvocationRuntimeEvent`. -/
  | runtimeEvent (invocation : ResourceKey) (sourceSequence : ℕ)
  /-- `SELECT COALESCE(max(sequence), 0) + 1`. -/
  | nextSequence (invocation : ResourceKey)
  | insertEvent (event : InvocationEvent)
  /-- The `INSERT … SELECT` of an event that a live claim guards. -/
  | insertEventLive (claim : Claim) (event : InvocationEvent)
  /-- The `INSERT … SELECT` of an event that numbers it too, and records its time. -/
  | appendEvent (event : InvocationEvent)
  deriving DecidableEq

/-- What a statement returns if it does not fail.  Writes under conditions report whether they
affected a row. -/
abbrev JournalStatement.Value : JournalStatement → Type
  | .clock => Time
  | .select _ => Option Bool
  | .change _ => Bool
  | .resolveAlias _ _ _ => Option AliasTarget
  | .insert _ => Unit
  | .lockInvocation _ => Option (InvocationColumns × InvocationState)
  | .lockClaim _ _ => Option String
  | .lockAttempt _ _ => Bool
  | .lockDue _ _ _ => List String
  | .dueInteractions _ _ _ _ => List String
  | .readDeadline _ => Time × Time
  | .readTarget _ => Option RuntimeTarget
  | .readApproval _ => Option RuntimeApproval
  | .readQuestion _ => Option RuntimeQuestion
  | .runtimeEvent _ _ => Option InvocationEvent
  | .nextSequence _ => ℕ
  | .insertEvent _ => Unit
  | .insertEventLive _ _ => Bool
  | .appendEvent _ => Unit

/-- What comes back. -/
abbrev JournalStatement.Reply (statement : JournalStatement) : Type :=
  Except RepositoryError statement.Value

/-! ### The database -/

/-- The writes and the locks on invocations. -/
abbrev Journal := WriteLog ResourceKey JournalWrite

/-- What a call asks the journal to record for a runtime: the event of an operation under the
number that the runtime gave it.  `isRuntimeEvent` tells `RecordInvocationRuntimeEvent` from the
calls that request an interaction. -/
structure Recording where
  operation : ResourceKey
  sourceSequence : ℕ
  eventType : String
  payload : Json
  isRuntimeEvent : Bool
  deriving DecidableEq

/-- The transaction of a call: what the call is to record, the invocations it has locked, the rows
and the runtime events it has seen, the number it has allocated, and what it has written. -/
structure JournalTx where
  recording : Option Recording
  locked : List ResourceKey
  known : List JournalRow
  seen : List InvocationEvent
  allocated : Option (ResourceKey × ℕ)
  written : List JournalWrite
  committed : Bool
  deriving DecidableEq

/-- What becomes of a statement, and what it finds in the columns that the log does not have. -/
inductive JournalAnswer where
  | executed
  | failed
  | lost
  | nothing
  | flag (value : Bool)
  | time (now : Time)
  | times (now deadline : Time)
  | alias (target : AliasTarget)
  | invocation (columns : InvocationColumns) (state : InvocationState)
  | belongs (invocationId : String)
  | ids (ids : List String)
  | due (rows : List JournalRow)
  | target (target : RuntimeTarget)
  | approval (approval : RuntimeApproval)
  | question (question : RuntimeQuestion)
  | record (record : IdempotencyRecord)
  deriving DecidableEq

/-- The key of the operation of a claim. -/
def Claim.operation (claim : Claim) : ResourceKey :=
  ⟨claim.key.isolationDomainId, claim.key.id⟩

/-- The invocations that inserting a row locks: its own one, for the row of an invocation. -/
def JournalRow.locks : JournalRow → List ResourceKey
  | .invocation key _ => [key]
  | _ => []

/-- The row is an approval or a question of one of the invocations. -/
def JournalRow.isDue (kind : InteractionKind) (isolationDomainId : String)
    (invocations : List String) : JournalRow → Bool
  | .approval key columns => kind = .approval && key.isolationDomainId = isolationDomainId &&
      columns.invocationId ∈ invocations
  | .question key columns => kind = .question && key.isolationDomainId = isolationDomainId &&
      columns.invocationId ∈ invocations
  | _ => false

namespace JournalTx

variable {α : Type}

/-- A statement that failed. -/
def fail (s : Journal) (tx : JournalTx) : Option (Except RepositoryError α × JournalTx × Journal) :=
  some (.error statementFailed, tx, s)

/-- A read that found these rows. -/
def look (s : Journal) (id : ℕ) (tx : JournalTx) (rows : List JournalRow) (value : α) :
    Option (Except RepositoryError α × JournalTx × Journal) :=
  if ∀ row ∈ rows, .row row ∈ s.visible id then
    some (.ok value, { tx with known := rows ++ tx.known }, s)
  else none

/-- No row has the key. -/
def isAbsent (s : Journal) (id : ℕ) (key : JournalTable × ResourceKey) : Bool :=
  (s.visible id).all fun write =>
    match write with
    | .row row => row.key ≠ key
    | _ => true

/-- A read by primary key that found nothing. -/
def miss (s : Journal) (id : ℕ) (tx : JournalTx) (key : JournalTable × ResourceKey) (value : α) :
    Option (Except RepositoryError α × JournalTx × Journal) :=
  if isAbsent s id key then tx.look s id [] value else none

/-- A read that found these rows and locked these invocations. -/
def lock (s : Journal) (id : ℕ) (tx : JournalTx) (keys : List ResourceKey) (rows : List JournalRow)
    (value : α) : Option (Except RepositoryError α × JournalTx × Journal) :=
  if (∀ row ∈ rows, .row row ∈ s.visible id) ∧
      ∀ key ∈ keys, isAbsent s id (.invocations, key) = false then
    (s.lock id keys).map fun s' =>
      (.ok value,
        { tx with locked := keys ++ tx.locked, known := rows ++ tx.known, allocated := none }, s')
  else none

/-- A write, with the rows and the locks that it leaves with the transaction. -/
def write (s : Journal) (id : ℕ) (tx : JournalTx) (keys : List ResourceKey) (rows : List JournalRow)
    (w : JournalWrite) (value : α) : Option (Except RepositoryError α × JournalTx × Journal) :=
  match s.lock id keys with
  | none => none
  | some locked =>
    match locked.write JournalWrite.conflicts id w with
    | .violates => tx.fail s
    | .waits => none
    | .written s' =>
      some (.ok value, { tx with
          locked := keys ++ tx.locked, known := rows ++ tx.known, allocated := none
          written := tx.written ++ [w] }, s')

/-- The query of `getInvocationRuntimeEvent`. -/
def runtimeEvent (s : Journal) (id : ℕ) (tx : JournalTx) (invocation : ResourceKey)
    (sourceSequence : ℕ) :
    Option (Except RepositoryError (Option InvocationEvent) × JournalTx × Journal) :=
  let found := (journalEvents (s.visible id)).find? fun event =>
    event.invocation = invocation && event.sourceSequence = some sourceSequence
  some (.ok found, { tx with seen := found.toList ++ tx.seen }, s)

/-- The query that numbers an event. -/
def allocate (s : Journal) (id : ℕ) (tx : JournalTx) (invocation : ResourceKey) :
    Option (Except RepositoryError ℕ × JournalTx × Journal) :=
  let sequence := nextSequence (journalEvents (s.visible id)) invocation
  some (.ok sequence, { tx with allocated := some (invocation, sequence) }, s)

/-- Statements at the database. -/
def serveStatement (s : Journal) (id : ℕ) (tx : JournalTx) :
    (statement : JournalStatement) → JournalAnswer → Option (statement.Reply × JournalTx × Journal)
  | _, .failed => tx.fail s
  | .clock, .time now => tx.look s id [] now
  | .select _, .flag accepted => tx.look s id [] (some accepted)
  | .select _, .nothing => tx.look s id [] none
  | .change what, .flag true => tx.write s id [] [] (.other what) true
  | .change _, .flag false => tx.look s id [] false
  | .resolveAlias _ _ _, .alias target => tx.look s id [] (some target)
  | .resolveAlias _ _ _, .nothing => tx.look s id [] none
  | .insert row, .executed => tx.write s id row.locks [row] (.row row) ()
  | .lockInvocation key, .invocation columns state =>
    tx.lock s id [key] [.invocation key columns] (some (columns, state))
  | .lockInvocation key, .nothing => tx.miss s id (.invocations, key) none
  | .lockClaim claim _, .belongs invocationId =>
    tx.lock s id [⟨claim.key.isolationDomainId, invocationId⟩]
      [.operation claim.operation invocationId] (some invocationId)
  | .lockClaim _ _, .nothing => tx.look s id [] none
  | .lockAttempt claim _, .flag true =>
    tx.look s id [.operation claim.operation claim.resourceId] true
  | .lockAttempt _ _, .flag false => tx.look s id [] false
  | .lockDue _ isolationDomainId limit, .ids ids =>
    if ids.length ≤ limit then tx.lock s id (ids.map (⟨isolationDomainId, ·⟩)) [] ids else none
  | .dueInteractions kind isolationDomainId limit invocations, .due rows =>
    if rows.length ≤ limit ∧ rows.all (·.isDue kind isolationDomainId invocations) then
      tx.look s id rows (rows.map (·.key.2.id))
    else none
  | .readDeadline _, .times now deadline => tx.look s id [] (now, deadline)
  | .readTarget operation, .target target =>
    if target.operation = operation then
      tx.look s id [.operation operation target.invocationId] (some target)
    else none
  | .readTarget _, .nothing => tx.look s id [] none
  | .readApproval key, .approval approval =>
    tx.look s id [.approval key approval.toApprovalColumns] (some approval)
  | .readApproval key, .nothing => tx.miss s id (.approvals, key) none
  | .readQuestion key, .question question =>
    tx.look s id [.question key question.toQuestionColumns] (some question)
  | .readQuestion key, .nothing => tx.miss s id (.questions, key) none
  | .runtimeEvent invocation sourceSequence, .executed =>
    tx.runtimeEvent s id invocation sourceSequence
  | .nextSequence invocation, .executed => tx.allocate s id invocation
  | .insertEvent event, .executed => tx.write s id [] [] (.event event) ()
  | .insertEventLive _ event, .flag true => tx.write s id [] [] (.event event) true
  | .insertEventLive _ _, .flag false => tx.look s id [] false
  | .appendEvent event, .time now =>
    tx.write s id [] [] (.event { event with
      sequence := nextSequence (journalEvents (s.visible id)) event.invocation
      recordedAt := now }) ()
  | _, _ => none

/-- The requests of a call at the database.  The records of `execute` are not part of the log, so
its requests find them in any state. -/
def serve (s : Journal) (id : ℕ) (tx : JournalTx) :
    (request : CommandRequest JournalStatement) → JournalAnswer →
      Option (request.Reply JournalStatement.Reply × JournalTx × Journal)
  | .begin, .executed => some (.ok (), tx, s)
  | .begin, .failed => tx.fail s
  | .now, .time now => some (now, tx, s)
  | .reserve _ _, .flag true => tx.write s id [] [] (.other "reserve idempotency key") true
  | .reserve _ _, .flag false => tx.look s id [] false
  | .reserve _ _, .failed => tx.fail s
  | .readRecord _, .record record => tx.look s id [] record
  | .readRecord _, .failed => tx.fail s
  | .action statement, answer => tx.serveStatement s id statement answer
  | .complete _ _ _ _, .executed =>
    tx.write s id [] [] (.other "complete idempotency record") ()
  | .complete _ _ _ _, .failed => tx.fail s
  | .commit, .executed =>
    some (.ok (), { tx with locked := [], allocated := none, committed := true }, s.commit id)
  | .commit, .lost =>
    some (.error statementFailed,
      { tx with locked := [], allocated := none, committed := true }, s.commit id)
  | .commit, .failed =>
    some (.error statementFailed,
      { tx with locked := [], known := [], seen := [], allocated := none, written := [] },
      s.rollback id)
  | _, _ => none

end JournalTx

end DataGround
