import DataGround.Base.Domain
import DataGround.Library.Sessions
import DataGround.Library.Table

/-!
# Commands that run once

`execute` runs the action of a command in one transaction with a record of its idempotency key.
The record is inserted first, without a response (`ON CONFLICT DO NOTHING`), and completed with the
response of the action before the commit.  A later call with the key finds the record and returns
the response again; a concurrent one waits at the unique index until the first has ended.

Calls are sessions at the database: one statement of one call at a time, in every order, under
`READ COMMITTED`.  The action is any program over statements of its own, which may reply anything;
any statement may fail, a commit may take place without its acknowledgement, and a call may be cut
off at any point, which rolls its transaction back.
-/

namespace DataGround

open Process (ask)

/-! ### The table -/

/-- The primary key of `idempotency_records`. -/
structure IdempotencyKey where
  (isolationDomainId method path key : String)
  deriving DecidableEq

structure Idempotency extends IdempotencyKey where
  requestDigest : String
  deriving DecidableEq

/-- A row of `idempotency_records`. -/
structure IdempotencyRecord where
  requestDigest : String
  responseStatus : Option Int
  responseBody : Option String
  completedAt : Option Time
  (createdAt expiresAt : Time)
  deriving DecidableEq

structure CommandResult where
  status : Int
  body : String
  replayed : Bool
  deriving DecidableEq

/-- `idempotencyRetention`: 24 hours, in seconds. -/
def idempotencyRetention : Time :=
  24 * 3600

/-- The row of the reserving `INSERT`. -/
def IdempotencyRecord.reserved (idempotency : Idempotency) (now : Time) : IdempotencyRecord where
  requestDigest := idempotency.requestDigest
  responseStatus := none
  responseBody := none
  completedAt := none
  createdAt := now
  expiresAt := now + idempotencyRetention

/-- The completing `UPDATE`. -/
def IdempotencyRecord.complete (status : Int) (body : String) (now : Time)
    (record : IdempotencyRecord) : IdempotencyRecord :=
  { record with responseStatus := some status, responseBody := some body, completedAt := some now }

/-! ### The program -/

/-- What a call sends to the database; `ι` are the statements of its action. -/
inductive CommandRequest (ι : Type) where
  | begin
  | now
  | reserve (idempotency : Idempotency) (now : Time)
  | readRecord (key : IdempotencyKey)
  | action (statement : ι)
  | complete (key : IdempotencyKey) (status : Int) (body : String) (now : Time)
  | commit

variable {ι : Type} {ρ : ι → Type} {ν : Type}

/-- What comes back.  The reserving `INSERT` reports whether it affected a row. -/
def CommandRequest.Reply (ρ : ι → Type) : CommandRequest ι → Type
  | .begin => Except RepositoryError Unit
  | .now => Time
  | .reserve _ _ => Except RepositoryError Bool
  | .readRecord _ => Except RepositoryError IdempotencyRecord
  | .action statement => ρ statement
  | .complete _ _ _ _ => Except RepositoryError Unit
  | .commit => Except RepositoryError Unit

/-- The action of a command: it gets the time of the call, and returns a status and a value. -/
abbrev CommandAction (ρ : ι → Type) (ν : Type) :=
  Time → Process ι ρ (Except RepositoryError (Int × ν))

/-- A call of `execute`. -/
abbrev CommandCall (ρ : ι → Type) :=
  Process (CommandRequest ι) (CommandRequest.Reply ρ) (Except RepositoryError CommandResult)

/-- The branch of `execute` that finds its key reserved. -/
def replayCommand (ρ : ι → Type) (idempotency : Idempotency) : CommandCall ρ := do
  match ← ask (CommandRequest.readRecord idempotency.toIdempotencyKey) with
  | .error _ => pure (.error (.refused "read idempotency result"))
  | .ok record =>
    if record.requestDigest ≠ idempotency.requestDigest then
      pure (.error (.domain "IDEMPOTENCY_KEY_REUSED"
        "Idempotency key was reused with a different request."))
    else
      match record.responseStatus, record.responseBody with
      | some status, some body =>
        match ← ask CommandRequest.commit with
        | .error _ => pure (.error (.refused "finish idempotency replay"))
        | .ok () => pure (.ok ⟨status, body, true⟩)
      | _, _ => pure (.error (.domain "COMMAND_IN_PROGRESS"
          "The original command is still being committed."))

/-- The branch of `execute` that has reserved its key, once the action has returned. -/
def completeCommand (ρ : ι → Type) (marshal : ν → Option String) (idempotency : Idempotency)
    (now : Time) (outcome : Except RepositoryError (Int × ν)) : CommandCall ρ := do
  match outcome with
  | .error error => pure (.error error)
  | .ok (status, value) =>
    match marshal value with
    | none => pure (.error (.refused "encode command result"))
    | some body =>
      match ← ask (CommandRequest.complete idempotency.toIdempotencyKey status body now) with
      | .error _ => pure (.error (.refused "complete idempotency record"))
      | .ok () =>
        match ← ask CommandRequest.commit with
        | .error _ => pure (.error (.refused "commit command"))
        | .ok () => pure (.ok ⟨status, body, false⟩)

/-- `Repository.execute`.  Whatever it returns, the deferred `Rollback` ends the transaction. -/
def execute (marshal : ν → Option String) (idempotency : Idempotency) (action : CommandAction ρ ν) :
    CommandCall ρ := do
  match ← ask CommandRequest.begin with
  | .error _ => pure (.error (.refused "begin command transaction"))
  | .ok () =>
    let now ← ask CommandRequest.now
    match ← ask (CommandRequest.reserve idempotency now) with
    | .error _ => pure (.error (.refused "reserve idempotency key"))
    | .ok false => replayCommand ρ idempotency
    | .ok true =>
      let outcome ← (action now).embed CommandRequest.action
      completeCommand ρ marshal idempotency now outcome

/-! ### Rules for commands -/

/-- The request is a statement of the action. -/
def CommandRequest.isAction : CommandRequest ι → Bool
  | .action _ => true
  | _ => false

section

variable {τ : Type*}

/-- Around its action, a command is allowed what it requests, and the replies keep `I` up to the
commit. -/
structure CommandFrame (allowed : τ → CommandRequest ι → Prop)
    (moves : τ → (request : CommandRequest ι) → request.Reply ρ → τ → Prop) (I : τ → Prop) :
    Prop where
  allowed : ∀ t request, request.isAction = false → I t → allowed t request
  keeps : ∀ t request reply t', request.isAction = false → request ≠ .commit → I t →
    moves t request reply t' → I t'

namespace CommandFrame

variable {allowed : τ → CommandRequest ι → Prop}
  {moves : τ → (request : CommandRequest ι) → request.Reply ρ → τ → Prop} {I : τ → Prop}
  {idempotency : Idempotency} {t : τ}

lemma replayCommand (h : CommandFrame allowed moves I) (ht : I t) :
    Process.Complies allowed moves (fun _ _ => True) t (replayCommand ρ idempotency) := by
  refine .ask_bind (h.allowed t _ rfl ht) fun reply t' hmoves => ?_
  replace ht := h.keeps t _ reply t' rfl nofun ht hmoves
  cases reply with
  | error => exact .pure trivial
  | ok =>
    dsimp only
    split
    · exact .pure trivial
    · split
      · refine .ask_bind (h.allowed t' _ rfl ht) fun reply _ _ => ?_
        cases reply with
        | error | ok => exact .pure trivial
      · exact .pure trivial

lemma completeCommand (h : CommandFrame allowed moves I) {marshal : ν → Option String} {now : Time}
    {outcome : Except RepositoryError (Int × ν)} (ht : ∀ value, outcome = .ok value → I t) :
    Process.Complies allowed moves (fun _ _ => True) t
      (completeCommand ρ marshal idempotency now outcome) := by
  unfold DataGround.completeCommand
  split
  · exact .pure trivial
  · replace ht := ht _ rfl
    split
    · exact .pure trivial
    · refine .ask_bind (h.allowed t _ rfl ht) fun reply t' hmoves => ?_
      replace ht := h.keeps t _ reply t' rfl nofun ht hmoves
      cases reply with
      | error => exact .pure trivial
      | ok =>
        refine .ask_bind (h.allowed t' _ rfl ht) fun reply _ _ => ?_
        cases reply with
        | error | ok => exact .pure trivial

/-- **A command complies if its action does**, and keeps `I`. -/
lemma execute (h : CommandFrame allowed moves I) {marshal : ν → Option String}
    {action : CommandAction ρ ν} (ht : I t)
    (haction : ∀ now t, I t → Process.Complies (fun t statement => allowed t (.action statement))
      (fun t statement => moves t (.action statement))
      (fun t outcome => ∀ value, outcome = .ok value → I t) t (action now)) :
    Process.Complies allowed moves (fun _ _ => True) t (execute marshal idempotency action) := by
  refine .ask_bind (h.allowed t _ rfl ht) fun reply t' hmoves => ?_
  replace ht := h.keeps t _ reply t' rfl nofun ht hmoves
  cases reply with
  | error => exact .pure trivial
  | ok =>
    refine .ask_bind (h.allowed t' _ rfl ht) fun now t' hmoves => ?_
    replace ht := h.keeps _ _ now t' rfl nofun ht hmoves
    refine .ask_bind (h.allowed t' _ rfl ht) fun reply t' hmoves => ?_
    replace ht := h.keeps _ _ reply t' rfl nofun ht hmoves
    match reply with
    | .error error => exact .pure trivial
    | .ok false => exact h.replayCommand ht
    | .ok true =>
      refine .bind (.embed (haction now t' ht)) fun t outcome houtcome => ?_
      exact h.completeCommand houtcome

end CommandFrame

end

/-! ### The database -/

/-- A committed command: the call, the record it left, and the statements of its action. -/
structure CommandCommit (ρ : ι → Type) where
  call : ℕ
  key : IdempotencyKey
  record : IdempotencyRecord
  statements : List ((i : ι) × ρ i)

/-- What all calls share: the committed records, the uncommitted entries of the unique index with
the calls they belong to, and the committed commands in order. -/
structure Commands (ρ : ι → Type) where
  records : Table IdempotencyKey IdempotencyRecord
  pending : IdempotencyKey → Option ℕ
  commits : List (CommandCommit ρ)

/-- The database before the first command. -/
def Commands.empty : Commands ρ :=
  ⟨∅, fun _ => none, []⟩

/-- The transaction of a call: what it was called with and the time it read, the row it has
inserted, the row it has read, and the statements of its action with their replies. -/
structure CommandTx (ρ : ι → Type) (ν : Type) where
  idempotency : Idempotency
  action : CommandAction ρ ν
  now : Time
  reservation : Option (IdempotencyKey × IdempotencyRecord)
  found : Option IdempotencyRecord
  statements : List ((i : ι) × ρ i)
  committed : Bool

/-- What becomes of a statement. -/
inductive CommandAnswer (ρ : ι → Type) where
  | executed
  | failed
  | lost
  | time (now : Time)
  | action (reply : (i : ι) → Option (ρ i))

/-- The error of a statement that failed. -/
def statementFailed : RepositoryError :=
  .refused "statement failed"

/-- The values of an `integer` column. -/
def isInt4 (value : Int) : Bool :=
  -2 ^ 31 ≤ value && value < 2 ^ 31

namespace Commands

/-- The index entries of a call are gone. -/
def release (s : Commands ρ) (call : ℕ) (tx : CommandTx ρ ν) : Commands ρ :=
  match tx.reservation with
  | none => s
  | some (key, _) =>
    if s.pending key = some call then { s with pending := Function.update s.pending key none }
    else s

/-- The transaction of a call is committed. -/
def commit (s : Commands ρ) (call : ℕ) (tx : CommandTx ρ ν) : Commands ρ :=
  match tx.reservation with
  | none => s
  | some (key, record) =>
    ⟨s.records.insert key record, Function.update s.pending key none,
      s.commits ++ [⟨call, key, record, tx.statements⟩]⟩

/-- The reserving `INSERT`.  It waits while another call has an uncommitted row with the key. -/
def reserve (s : Commands ρ) (call : ℕ) (tx : CommandTx ρ ν) (idempotency : Idempotency)
    (now : Time) : Option (Except RepositoryError Bool × CommandTx ρ ν × Commands ρ) :=
  match s.records.lookup idempotency.toIdempotencyKey, s.pending idempotency.toIdempotencyKey with
  | some _, _ => some (.ok false, tx, s)
  | none, some other => if other = call then some (.ok false, tx, s) else none
  | none, none =>
    some (.ok true,
      { tx with reservation := some (idempotency.toIdempotencyKey, .reserved idempotency now) },
      { s with pending := Function.update s.pending idempotency.toIdempotencyKey (some call) })

/-- The `SELECT` of a committed record.  A call that makes it has no row of its own. -/
def readRecord (s : Commands ρ) (tx : CommandTx ρ ν) (key : IdempotencyKey) :
    Except RepositoryError IdempotencyRecord × CommandTx ρ ν × Commands ρ :=
  match s.records.lookup key with
  | some record => (.ok record, { tx with found := some record }, s)
  | none => (.error .noRows, tx, s)

/-- The completing `UPDATE`, of the row that the call has inserted. -/
def complete (s : Commands ρ) (tx : CommandTx ρ ν) (key : IdempotencyKey) (status : Int)
    (body : String) (now : Time) :
    Option (Except RepositoryError Unit × CommandTx ρ ν × Commands ρ) :=
  match tx.reservation with
  | some (k, record) =>
    if k = key ∧ isInt4 status then
      some (.ok (), { tx with reservation := some (k, record.complete status body now) }, s)
    else some (.error statementFailed, tx, s)
  | none => none

/-- Statements at the database. -/
def serve (s : Commands ρ) (call : ℕ) (tx : CommandTx ρ ν) :
    (request : CommandRequest ι) → CommandAnswer ρ →
      Option (request.Reply ρ × CommandTx ρ ν × Commands ρ)
  | .begin, .executed => some (.ok (), tx, s)
  | .begin, .failed => some (.error statementFailed, tx, s)
  | .now, .time now => some (now, { tx with now := now }, s)
  | .reserve idempotency now, .executed => s.reserve call tx idempotency now
  | .reserve _ _, .failed => some (.error statementFailed, tx, s)
  | .readRecord key, .executed => some (s.readRecord tx key)
  | .readRecord _, .failed => some (.error statementFailed, tx, s)
  | .action i, .action reply => (reply i).map fun reply =>
    (reply, { tx with statements := tx.statements ++ [⟨i, reply⟩] }, s)
  | .complete key status body now, .executed => s.complete tx key status body now
  | .complete _ _ _ _, .failed => some (.error statementFailed, tx, s)
  | .commit, .executed => some (.ok (), { tx with committed := true }, s.commit call tx)
  | .commit, .lost => some (.error statementFailed, { tx with committed := true }, s.commit call tx)
  | .commit, .failed =>
    some (.error statementFailed, { tx with reservation := none }, s.release call tx)
  | _, _ => none

/-- The database as a server of calls. -/
def server (ρ : ι → Type) (marshal : ν → Option String) :
    Server (Commands ρ) (CommandTx ρ ν) (CommandAnswer ρ) (Idempotency × CommandAction ρ ν)
      (CommandRequest ι) (CommandRequest.Reply ρ) (Except RepositoryError CommandResult) where
  start input := (⟨input.1, input.2, 0, none, none, [], false⟩, execute marshal input.1 input.2)
  serve := serve
  release := release

end Commands

/-! ### What a call does -/

/-- A statement can move the transaction this way. -/
def CommandMoves (tx : CommandTx ρ ν) (request : CommandRequest ι) (reply : request.Reply ρ)
    (tx' : CommandTx ρ ν) : Prop :=
  ∃ s call answer s', Commands.serve s call tx request answer = some (reply, tx', s')

/-- The call has done nothing yet. -/
def CommandTx.Blank (tx : CommandTx ρ ν) : Prop :=
  tx.reservation = none ∧ tx.statements = [] ∧ tx.committed = false

/-- The call has its row, and its action has come to `rest`. -/
def CommandTx.Acting (tx : CommandTx ρ ν)
    (rest : Process ι ρ (Except RepositoryError (Int × ν))) : Prop :=
  tx.reservation = some (tx.idempotency.toIdempotencyKey, .reserved tx.idempotency tx.now) ∧
    (tx.action tx.now).Runs tx.statements rest ∧ tx.committed = false

/-- The action of the call has returned this status and this value, which is encoded as the body;
the row is completed with it. -/
def CommandTx.Performed (marshal : ν → Option String) (tx : CommandTx ρ ν) (status : Int)
    (body : String) : Prop :=
  ∃ value, (tx.action tx.now).Runs tx.statements (.done (.ok (status, value))) ∧
    marshal value = some body ∧
    tx.reservation = some (tx.idempotency.toIdempotencyKey,
      (IdempotencyRecord.reserved tx.idempotency tx.now).complete status body tx.now)

/-- What the call sends, and when. -/
def CommandAllowed (marshal : ν → Option String) (tx : CommandTx ρ ν) : CommandRequest ι → Prop
  | .begin => tx.Blank
  | .now => tx.Blank
  | .reserve idempotency now => tx.Blank ∧ idempotency = tx.idempotency ∧ now = tx.now
  | .readRecord key => tx.Blank ∧ key = tx.idempotency.toIdempotencyKey
  | .action _ => ∃ rest, tx.Acting rest
  | .complete _ _ _ _ => ∃ rest, tx.Acting rest
  | .commit => tx.committed = false ∧
      (tx.reservation = none ∨ ∃ status body, tx.Performed marshal status body)

/-- What the call returns: the response of its own action once that is committed, or the response
it has found under its own digest. -/
def CommandReturns (marshal : ν → Option String) (tx : CommandTx ρ ν)
    (result : Except RepositoryError CommandResult) : Prop :=
  ∀ response, result = .ok response →
    (tx.committed = true ∧ tx.Performed marshal response.status response.body) ∨
      ∃ record, tx.found = some record ∧ record.requestDigest = tx.idempotency.requestDigest ∧
        record.responseStatus = some response.status ∧ record.responseBody = some response.body

/-- **What a statement did** to the transaction and to what is shared, and what it replied. -/
inductive CommandServed (s : Commands ρ) (call : ℕ) (tx : CommandTx ρ ν) :
    (request : CommandRequest ι) → request.Reply ρ → CommandTx ρ ν → Commands ρ → Prop
  | began (reply : Except RepositoryError Unit) : CommandServed s call tx .begin reply tx s
  | timed (now : Time) : CommandServed s call tx .now now { tx with now := now } s
  | reserved {idempotency : Idempotency} {now : Time}
      (fresh : s.records.lookup idempotency.toIdempotencyKey = none)
      (free : s.pending idempotency.toIdempotencyKey = none) :
      CommandServed s call tx (.reserve idempotency now) (.ok true)
        { tx with reservation := some (idempotency.toIdempotencyKey, .reserved idempotency now) }
        { s with pending := Function.update s.pending idempotency.toIdempotencyKey (some call) }
  | taken {idempotency : Idempotency} {now : Time} {reply : Except RepositoryError Bool}
      (reply_ne : reply ≠ .ok true) : CommandServed s call tx (.reserve idempotency now) reply tx s
  | found {key : IdempotencyKey} {record : IdempotencyRecord}
      (lookup : s.records.lookup key = some record) :
      CommandServed s call tx (.readRecord key) (.ok record) { tx with found := some record } s
  | unread {key : IdempotencyKey} (error : RepositoryError) :
      CommandServed s call tx (.readRecord key) (.error error) tx s
  | acted (i : ι) (reply : ρ i) : CommandServed s call tx (.action i) reply
      { tx with statements := tx.statements ++ [⟨i, reply⟩] } s
  | completed {key : IdempotencyKey} {record : IdempotencyRecord} {status : Int} {body : String}
      {now : Time} (reservation : tx.reservation = some (key, record)) :
      CommandServed s call tx (.complete key status body now) (.ok ())
        { tx with reservation := some (key, record.complete status body now) } s
  | incomplete {key : IdempotencyKey} {status : Int} {body : String} {now : Time}
      (error : RepositoryError) :
      CommandServed s call tx (.complete key status body now) (.error error) tx s
  | committed (reply : Except RepositoryError Unit) :
      CommandServed s call tx .commit reply { tx with committed := true } (s.commit call tx)
  | rolledBack (error : RepositoryError) : CommandServed s call tx .commit (.error error)
      { tx with reservation := none } (s.release call tx)

lemma commandServed {s s' : Commands ρ} {call : ℕ} {tx tx' : CommandTx ρ ν}
    {request : CommandRequest ι} {answer : CommandAnswer ρ} {reply : request.Reply ρ}
    (h : Commands.serve s call tx request answer = some (reply, tx', s')) :
    CommandServed s call tx request reply tx' s' := by
  cases request with
  | begin => cases answer <;> cases h <;> exact .began _
  | now =>
    cases answer with
    | time =>
      cases h
      exact .timed _
    | _ => cases h
  | reserve idempotency now =>
    cases answer with
    | executed =>
      replace h : s.reserve call tx idempotency now = some (reply, tx', s') := h
      unfold Commands.reserve at h
      split at h
      · cases h
        exact .taken (by simp)
      · split at h
        · cases h
          exact .taken (by simp)
        · cases h
      · rename_i hfresh hfree
        cases h
        exact .reserved hfresh hfree
    | failed =>
      cases h
      exact .taken (by simp)
    | _ => cases h
  | readRecord key =>
    cases answer with
    | executed =>
      replace h : s.readRecord tx key = (reply, tx', s') := Option.some.inj h
      unfold Commands.readRecord at h
      split at h
      · rename_i hrecord
        cases h
        exact .found hrecord
      · cases h
        exact .unread _
    | failed =>
      cases h
      exact .unread _
    | _ => cases h
  | action i =>
    cases answer with
    | action =>
      obtain ⟨_, -, heq⟩ := Option.map_eq_some_iff.mp h
      cases heq
      exact .acted i _
    | _ => cases h
  | complete key status body now =>
    cases answer with
    | executed =>
      replace h : s.complete tx key status body now = some (reply, tx', s') := h
      unfold Commands.complete at h
      split at h
      · rename_i hreservation
        split at h
        · rename_i hkey
          cases h
          rw [hkey.1] at hreservation ⊢
          exact .completed hreservation
        · cases h
          exact .incomplete _
      · cases h
    | failed =>
      cases h
      exact .incomplete _
    | _ => cases h
  | commit =>
    cases answer with
    | executed | lost =>
      cases h
      exact .committed _
    | failed =>
      cases h
      exact .rolledBack _
    | _ => cases h

lemma CommandMoves.served {tx tx' : CommandTx ρ ν} {request : CommandRequest ι}
    {reply : request.Reply ρ} (h : CommandMoves tx request reply tx') :
    ∃ s call s', CommandServed s call tx request reply tx' s' := by
  obtain ⟨s, call, _, s', h⟩ := h
  exact ⟨s, call, s', commandServed h⟩

/-! `execute` keeps to that, part by part. -/

variable {marshal : ν → Option String} {tx : CommandTx ρ ν}

/-- The program complies from this transaction on. -/
abbrev CommandComplies (marshal : ν → Option String) (tx : CommandTx ρ ν) (x : CommandCall ρ) :
    Prop :=
  x.Complies (CommandAllowed marshal) CommandMoves (CommandReturns marshal) tx

lemma complies_error (error : RepositoryError) :
    CommandComplies marshal tx (pure (.error error)) := by
  intro response h
  cases h

/-- Once it is committed, the call returns its response. -/
lemma complies_commit {response : CommandResult} {refusal : RepositoryError}
    (htx : CommandAllowed marshal tx .commit)
    (hreturns : CommandReturns marshal { tx with committed := true } (.ok response)) :
    CommandComplies marshal tx (do
      match ← ask CommandRequest.commit with
      | .error _ => pure (.error refusal)
      | .ok () => pure (.ok response)) := by
  refine .ask_bind htx fun reply tx' hmoves => ?_
  obtain ⟨_, _, _, hserved⟩ := hmoves.served
  cases hserved with
  | committed reply =>
    cases reply with
    | error => exact complies_error _
    | ok => exact hreturns
  | rolledBack => exact complies_error _

lemma complies_replayCommand (htx : tx.Blank) :
    CommandComplies marshal tx (replayCommand ρ tx.idempotency) := by
  refine .ask_bind ⟨htx, rfl⟩ fun reply tx' hmoves => ?_
  obtain ⟨_, _, _, hserved⟩ := hmoves.served
  cases hserved with
  | @found _ record =>
    dsimp only
    split
    · exact complies_error _
    · rename_i hdigest
      split
      · rename_i status body hstatus hbody
        refine complies_commit ⟨htx.2.2, .inl htx.1⟩ fun response hresponse => ?_
        cases hresponse
        exact .inr ⟨record, rfl, not_not.mp hdigest, hstatus, hbody⟩
      · exact complies_error _
  | unread => exact complies_error _

lemma complies_completeCommand {outcome : Except RepositoryError (Int × ν)}
    {idempotency : Idempotency} {now : Time} (htx : tx.Acting (.done outcome))
    (hidempotency : tx.idempotency = idempotency) (hnow : tx.now = now) :
    CommandComplies marshal tx (completeCommand ρ marshal idempotency now outcome) := by
  subst hidempotency hnow
  obtain ⟨hreservation, hruns, hcommitted⟩ := htx
  unfold completeCommand
  split
  · exact complies_error _
  · rename_i status value
    split
    · exact complies_error _
    · rename_i body hbody
      refine .ask_bind ⟨_, hreservation, hruns, hcommitted⟩ fun reply tx' hmoves => ?_
      obtain ⟨_, _, _, hserved⟩ := hmoves.served
      cases hserved with
      | completed hrecord =>
        rw [hreservation] at hrecord
        cases hrecord
        refine complies_commit ⟨hcommitted, .inr ⟨status, body, value, hruns, hbody, rfl⟩⟩
          fun response hresponse => ?_
        cases hresponse
        exact .inl ⟨rfl, value, hruns, hbody, rfl⟩
      | incomplete => exact complies_error _

lemma complies_action {rest : Process ι ρ (Except RepositoryError (Int × ν))}
    (htx : tx.Acting rest) :
    (rest.embed CommandRequest.action).Complies (CommandAllowed marshal) CommandMoves
      (fun tx' outcome => tx'.Acting (.done outcome) ∧ tx'.idempotency = tx.idempotency ∧
        tx'.now = tx.now) tx := by
  induction rest generalizing tx with
  | done => exact ⟨htx, rfl, rfl⟩
  | request i next ih =>
    refine ⟨⟨_, htx⟩, fun reply tx' hmoves => ?_⟩
    obtain ⟨_, _, _, ⟨⟩⟩ := hmoves.served
    have hacting : CommandTx.Acting { tx with statements := tx.statements ++ [⟨i, reply⟩] }
        (next reply) := ⟨htx.1, htx.2.1.concat reply, htx.2.2⟩
    exact ih reply hacting

/-- **`execute` complies** from the start of its transaction on. -/
lemma complies_execute (htx : tx.Blank) :
    CommandComplies marshal tx (execute marshal tx.idempotency tx.action) := by
  refine .ask_bind htx fun reply tx' hmoves => ?_
  obtain ⟨_, _, _, ⟨⟩⟩ := hmoves.served
  cases reply with
  | error => exact complies_error _
  | ok =>
    refine .ask_bind htx fun now tx' hmoves => ?_
    obtain ⟨_, _, _, ⟨⟩⟩ := hmoves.served
    refine .ask_bind ⟨htx, rfl, rfl⟩ fun reply tx' hmoves => ?_
    obtain ⟨_, _, _, hserved⟩ := hmoves.served
    cases hserved with
    | reserved =>
      refine .bind (complies_action ⟨rfl, ?_, htx.2.2⟩) fun tx' outcome hacted => ?_
      · dsimp only
        rw [htx.2.1]
        exact .nil
      · obtain ⟨hacting, hidempotency, hnow⟩ := hacted
        exact complies_completeCommand hacting hidempotency hnow
    | taken hreply =>
      match reply with
      | .error error => exact complies_error _
      | .ok false => exact complies_replayCommand htx
      | .ok true => exact (hreply rfl).elim

end DataGround
