import DataGround.Persistence.JournalCalls
import DataGround.Persistence.JournalStatements

/-!
# What the writers of the journal keep to

Every writer locks the invocation before it numbers an event, inserts the event under the number it
has just allocated, and commits only if the event that it answers for is in the journal: it has
written it, or it has seen it with the same content.  An event with a number of the runtime has the
payload that the call was made with.  `JournalAllowed` is that discipline, and
every call keeps to it (`complies_program`).
-/

namespace DataGround

namespace JournalTx

/-! ### The discipline -/

/-- The rows that the transaction knows are determined by their keys. -/
def KnownOnce (tx : JournalTx) : Prop :=
  ∀ row ∈ tx.known, ∀ row' ∈ tx.known, row.key = row'.key → row = row'

/-- The event may be inserted: its invocation is locked, and its number has just been allocated. -/
def MayInsert (tx : JournalTx) (event : InvocationEvent) : Prop :=
  tx.committed = false ∧ event.invocation ∈ tx.locked ∧
    tx.allocated = some (event.invocation, event.sequence)

end JournalTx

/-- The event is what a call was to record.  A persisted payload is compared as Go encodes it once
it is decoded. -/
def InvocationEvent.Records (env : RuntimeEnvironment) (event : InvocationEvent)
    (recording : Recording) : Prop :=
  event.sourceSequence = some recording.sourceSequence ∧
    event.eventType = recording.eventType ∧
    (event.payload = recording.payload ∨ env.reencode event.payload = some recording.payload)

namespace JournalTx

/-- The transaction has written the event that it is to record, or it has seen it -- and then it
has written nothing, if it records the event of a runtime. -/
def Answers (env : RuntimeEnvironment) (tx : JournalTx) (recording : Recording) : Prop :=
  ∃ invocationId event, .operation recording.operation invocationId ∈ tx.known ∧
    event.invocation = ⟨recording.operation.isolationDomainId, invocationId⟩ ∧
    event.Records env recording ∧
    (.event event ∈ tx.written ∨
      event ∈ tx.seen ∧ (recording.isRuntimeEvent = true → tx.written = []))

/-- The transaction answers for the event that its call is to record, if there is one. -/
def Recorded (env : RuntimeEnvironment) (tx : JournalTx) : Prop :=
  ∀ recording, tx.recording = some recording → tx.Answers env recording

end JournalTx

/-- What a request needs in its transaction. -/
def JournalAllowed (env : RuntimeEnvironment) (tx : JournalTx) :
    CommandRequest JournalStatement → Prop
  | .commit => tx.committed = false ∧ tx.Recorded env
  | .action (.nextSequence key) => tx.committed = false ∧ key ∈ tx.locked
  | .action (.insertEvent event) => tx.MayInsert event ∧ event.sourceSequence = none
  | .action (.insertEventLive _ event) => tx.MayInsert event ∧
      ∃ recording, tx.recording = some recording ∧ event.payload = recording.payload
  | .action (.appendEvent event) => tx.committed = false ∧ event.invocation ∈ tx.locked ∧
      event.sourceSequence = none
  | .action (.select _) => True
  | .action (.readQuestion _) => True
  | _ => tx.committed = false

/-- A request can move the transaction this way. -/
def JournalMoves (tx : JournalTx) (request : CommandRequest JournalStatement)
    (reply : request.Reply JournalStatement.Reply) (tx' : JournalTx) : Prop :=
  tx'.KnownOnce ∧ ∃ s id answer s', tx.serve s id request answer = some (reply, tx', s')

/-! ### Transactions grow -/

/-- The transaction has come to lock, know, see or write more. -/
structure JournalTx.Grows (tx tx' : JournalTx) : Prop where
  recording : tx'.recording = tx.recording
  committed : tx'.committed = tx.committed
  locked : tx.locked ⊆ tx'.locked
  known : tx.known ⊆ tx'.known
  seen : tx.seen ⊆ tx'.seen
  written : tx.written ⊆ tx'.written

/-- And has not written. -/
structure JournalTx.Looks (tx tx' : JournalTx) : Prop extends JournalTx.Grows tx tx' where
  written_eq : tx'.written = tx.written

section

variable {tx tx' : JournalTx}

lemma JournalMoves.growth {request : CommandRequest JournalStatement}
    {reply : request.Reply JournalStatement.Reply} (hrequest : request ≠ .commit)
    (h : JournalMoves tx request reply tx') :
    tx.Grows tx' ∧ (request.writes = false → tx'.written = tx.written) := by
  obtain ⟨-, _, _, _, _, hserved⟩ := h
  cases JournalTx.serve_did hserved with
  | looked =>
    exact ⟨⟨rfl, rfl, List.Subset.refl _, List.subset_append_right _ _,
      List.subset_append_right _ _, List.Subset.refl _⟩, fun _ => rfl⟩
  | allocated =>
    exact ⟨⟨rfl, rfl, List.Subset.refl _, List.Subset.refl _, List.Subset.refl _,
      List.Subset.refl _⟩, fun _ => rfl⟩
  | locked =>
    exact ⟨⟨rfl, rfl, List.subset_append_right _ _, List.subset_append_right _ _,
      List.Subset.refl _, List.Subset.refl _⟩, fun _ => rfl⟩
  | wrote hwrites =>
    refine ⟨⟨rfl, rfl, List.subset_append_right _ _, List.subset_append_right _ _,
      List.Subset.refl _, List.subset_append_left _ _⟩, fun hreads => ?_⟩
    rw [hreads] at hwrites
    cases hwrites
  | committed hcommit | rolledBack hcommit => exact (hrequest hcommit).elim

variable {statement : JournalStatement} {reply : statement.Reply}

lemma JournalMoves.grows (h : JournalMoves tx (.action statement) reply tx') : tx.Grows tx' :=
  (h.growth (by intro hcommit; cases hcommit)).1

lemma JournalMoves.looks (h : JournalMoves tx (.action statement) reply tx')
    (hstatement : statement.writes = false) : tx.Looks tx' :=
  ⟨h.grows, (h.growth (by intro hcommit; cases hcommit)).2 hstatement⟩

lemma JournalMoves.found {value : statement.Value}
    (h : JournalMoves tx (.action statement) (.ok value) tx') : tx'.Found statement value := by
  obtain ⟨-, _, _, _, _, hserved⟩ := h
  exact JournalTx.serveStatement_found hserved

end

/-! ### Rules -/

/-- A property of open transactions that lasts while the transaction only reads. -/
structure Idle (P : JournalTx → Prop) : Prop where
  isOpen : ∀ tx, P tx → tx.committed = false
  looks : ∀ tx tx', tx.Looks tx' → P tx → P tx'

/-- A property of open transactions that lasts. -/
structure Stable (P : JournalTx → Prop) : Prop where
  isOpen : ∀ tx, P tx → tx.committed = false
  grows : ∀ tx tx', tx.Grows tx' → P tx → P tx'

lemma Stable.idle {P : JournalTx → Prop} (hP : Stable P) : Idle P :=
  ⟨hP.isOpen, fun tx tx' h => hP.grows tx tx' h.toGrows⟩

/-- Pre- and postconditions of a part of a transaction. -/
def JournalTriple {α : Type} (env : RuntimeEnvironment) (P : JournalTx → Prop)
    (x : JournalAction α) (Q : α → JournalTx → Prop) : Prop :=
  Process.Triple (fun tx statement => JournalAllowed env tx (.action statement))
    (fun tx statement => JournalMoves tx (.action statement)) P x Q

namespace JournalTriple

variable {α β : Type} {env : RuntimeEnvironment} {P : JournalTx → Prop}
  {Q : α → JournalTx → Prop} {R : β → JournalTx → Prop} {x : JournalAction α}

lemma bind {f : α → JournalAction β} (hx : JournalTriple env P x Q)
    (hf : ∀ a, JournalTriple env (Q a) (f a) R) : JournalTriple env P (x >>= f) R :=
  Process.Triple.bind hx hf

/-- A part of the precondition that does not depend on the transaction. -/
lemma intro {p : Prop} (h : p → JournalTriple env P x Q) :
    JournalTriple env (fun tx => p ∧ P tx) x Q :=
  Process.Triple.intro h

lemma check {condition : Prop} [Decidable condition] {error : RepositoryError} :
    JournalTriple env P (Writer.check condition error) (fun _ tx => condition ∧ P tx) :=
  Process.Triple.ensure

lemma demand {value : Option α} {error : RepositoryError} :
    JournalTriple env P (Writer.demand value error) (fun a tx => value = some a ∧ P tx) :=
  Process.Triple.demand

lemma check_bind {condition : Prop} [Decidable condition] {error : RepositoryError}
    {f : Unit → JournalAction β} (h : condition → JournalTriple env P (f ()) R) :
    JournalTriple env P (Writer.check condition error >>= f) R :=
  Process.Triple.ensure_bind h

variable {wrap : RepositoryError → RepositoryError} {statement : JournalStatement}

lemma attempt {Q : statement.Value → JournalTx → Prop}
    (hallowed : ∀ tx, P tx → JournalAllowed env tx (.action statement))
    (hQ : ∀ tx value tx', P tx → JournalMoves tx (.action statement) (.ok value) tx' → Q value tx') :
    JournalTriple env P (Writer.attemptWith wrap statement) Q := by
  intro tx hP
  refine Process.Complies.ask_bind (hallowed tx hP) fun reply tx' hmoves => ?_
  cases reply with
  | error =>
    intro value hvalue
    cases hvalue
  | ok value =>
    intro value' hvalue
    cases hvalue
    exact hQ tx value tx' hP hmoves

lemma look (hP : Idle P) (hstatement : statement.writes = false)
    (hallowed : ∀ tx, tx.committed = false → JournalAllowed env tx (.action statement)) :
    JournalTriple env P (Writer.attemptWith wrap statement) (fun _ => P) :=
  attempt (fun tx h => hallowed tx (hP.isOpen tx h))
    fun tx _ tx' h hmoves => hP.looks tx tx' (hmoves.looks hstatement) h

lemma finds (hP : Idle P) (hstatement : statement.writes = false)
    (hallowed : ∀ tx, tx.committed = false → JournalAllowed env tx (.action statement)) :
    JournalTriple env P (Writer.attemptWith wrap statement)
      (fun value tx => P tx ∧ tx.Found statement value ∧ tx.KnownOnce) :=
  attempt (fun tx h => hallowed tx (hP.isOpen tx h)) fun tx _ tx' h hmoves =>
    ⟨hP.looks tx tx' (hmoves.looks hstatement) h, hmoves.found, hmoves.1⟩

/-- A statement that writes something that is not part of the log. -/
lemma change {what : String} (hP : Stable P) :
    JournalTriple env P (Writer.attemptWith wrap (.change what)) (fun _ => P) :=
  attempt hP.isOpen fun tx _ tx' h hmoves => hP.grows tx tx' hmoves.grows h

lemma select {what : String} (hP : Idle P) :
    JournalTriple env P (Writer.attemptWith wrap (.select what)) (fun _ => P) :=
  look hP rfl fun _ _ => trivial

lemma clock (hP : ∀ tx, P tx → tx.committed = false) :
    JournalTriple env P (Writer.attemptWith wrap .clock) (fun _ => P) := by
  refine attempt hP fun tx now tx' h hmoves => ?_
  obtain ⟨-, _, _, _, _, hserved⟩ := hmoves
  rw [JournalTx.clock_ok hserved]
  exact h

lemma insert {row : JournalRow} (hP : Stable P) :
    JournalTriple env P (Writer.attemptWith wrap (.insert row))
      (fun _ tx => P tx ∧ row ∈ tx.known ∧ row.locks ⊆ tx.locked) :=
  attempt hP.isOpen fun tx _ tx' h hmoves => ⟨hP.grows tx tx' hmoves.grows h, hmoves.found⟩

/-- Inserting an invocation locks it. -/
lemma insertInvocation {key : ResourceKey} {columns : InvocationColumns} (hP : Stable P) :
    JournalTriple env P (Writer.attemptWith wrap (.insert (.invocation key columns)))
      (fun _ tx => P tx ∧ key ∈ tx.locked) :=
  (insert hP).post fun _ _ h => ⟨h.1, h.2.2 List.mem_cons_self⟩

/-- Numbering an event of an invocation that is locked. -/
lemma allocate {key : ResourceKey} (hP : Idle P) (hkey : ∀ tx, P tx → key ∈ tx.locked) :
    JournalTriple env P (Writer.attemptWith wrap (.nextSequence key))
      (fun sequence tx => P tx ∧ tx.allocated = some (key, sequence)) :=
  attempt (fun tx h => ⟨hP.isOpen tx h, hkey tx h⟩) fun tx _ tx' h hmoves =>
    ⟨hP.looks tx tx' (hmoves.looks rfl) h, hmoves.found⟩

end JournalTriple

/-! ### Lifecycle events -/

/-- A part that keeps every lasting property of its transaction. -/
def JournalKeeps {α : Type} (env : RuntimeEnvironment) (x : JournalAction α) : Prop :=
  ∀ P, Stable P → JournalTriple env P x (fun _ => P)

section

variable {α β : Type} {env : RuntimeEnvironment} {P F : JournalTx → Prop} {key : ResourceKey}

lemma Stable.and (hP : Stable P) (hF : ∀ tx tx', tx.Grows tx' → F tx → F tx') :
    Stable fun tx => P tx ∧ F tx :=
  ⟨fun tx h => hP.isOpen tx h.1,
    fun tx tx' hgrows h => ⟨hP.grows tx tx' hgrows h.1, hF tx tx' hgrows h.2⟩⟩

/-- A property that lasts under reads, with one that lasts. -/
lemma Idle.and (hP : Idle P) (hF : ∀ tx tx', tx.Grows tx' → F tx → F tx') :
    Idle fun tx => P tx ∧ F tx :=
  ⟨fun tx h => hP.isOpen tx h.1,
    fun tx tx' hlooks h => ⟨hP.looks tx tx' hlooks h.1, hF tx tx' hlooks.toGrows h.2⟩⟩

lemma Stable.locked (hP : Stable P) (key : ResourceKey) : Stable fun tx => P tx ∧ key ∈ tx.locked :=
  hP.and fun _ _ hgrows h => hgrows.locked h

lemma Stable.known (hP : Stable P) (row : JournalRow) : Stable fun tx => P tx ∧ row ∈ tx.known :=
  hP.and fun _ _ hgrows h => hgrows.known h

variable {x : JournalAction α}

lemma JournalKeeps.bind {f : α → JournalAction β} (hx : JournalKeeps env x)
    (hf : ∀ a, JournalKeeps env (f a)) : JournalKeeps env (x >>= f) :=
  fun P hP => .bind (hx P hP) fun a => hf a P hP

lemma JournalKeeps.pure (a : α) : JournalKeeps env (pure a) :=
  fun _ _ => .pure fun _ h => h

lemma JournalKeeps.throw (e : RepositoryError) : JournalKeeps env (MonadExcept.throw e : JournalAction α) :=
  fun _ _ => .throw

lemma JournalKeeps.check (condition : Prop) [Decidable condition] (error : RepositoryError) :
    JournalKeeps env (Writer.check condition error) :=
  fun _ _ => JournalTriple.check.post fun _ _ h => h.2

lemma JournalKeeps.demand (value : Option α) (error : RepositoryError) :
    JournalKeeps env (Writer.demand value error) :=
  fun _ _ => JournalTriple.demand.post fun _ _ h => h.2

lemma JournalKeeps.change (wrap : RepositoryError → RepositoryError) (what : String) :
    JournalKeeps env (Writer.attemptWith wrap (.change what)) :=
  fun _ hP => .change hP

lemma JournalKeeps.select (wrap : RepositoryError → RepositoryError) (what : String) :
    JournalKeeps env (Writer.attemptWith wrap (.select what)) :=
  fun _ hP => .select hP.idle

lemma JournalKeeps.clock (wrap : RepositoryError → RepositoryError) :
    JournalKeeps env (Writer.attemptWith wrap .clock) :=
  fun _ hP => .clock hP.isOpen

namespace Writer

lemma keeps_writeOutboxAndAudit : JournalKeeps env writeOutboxAndAudit :=
  (JournalKeeps.change _ _).bind fun _ => (JournalKeeps.change _ _).bind fun _ => .pure _

lemma triple_getInvocationForUpdate (hP : Idle P) :
    JournalTriple env P (getInvocationForUpdate key) (fun _ tx => P tx ∧ key ∈ tx.locked) :=
  .bind (.finds hP rfl (fun _ h => h)) fun _ =>
    JournalTriple.demand.post fun invocation _ h => ⟨h.2.1, h.2.2.1 invocation h.1⟩

/-- **`writeInvocationEvent`** may be called once the invocation is locked. -/
lemma triple_writeInvocationEvent (hP : Stable P) (hkey : ∀ tx, P tx → key ∈ tx.locked)
    (invocation : InvocationColumns) (eventType actorId : String) (payload : Json) (now : Time) :
    JournalTriple env P (writeInvocationEvent env key invocation eventType actorId payload now)
      (fun _ => P) := by
  refine .bind (.allocate hP.idle hkey) fun sequence => ?_
  refine .attempt (fun tx h => ⟨⟨hP.isOpen tx h.1, hkey tx h.1, h.2⟩, rfl⟩) ?_
  exact fun tx _ tx' h hmoves => hP.grows tx tx' hmoves.grows h.1

lemma keeps_acceptInvocation (input : AcceptInvocationInput) (now : Time) :
    JournalKeeps env (acceptInvocation env input now) := by
  refine (JournalKeeps.check _ _).bind fun _ => ?_
  refine JournalKeeps.bind (fun P hP => .look hP.idle rfl fun _ h => h) fun _ => ?_
  refine (JournalKeeps.demand _ _).bind fun revision => ?_
  refine (JournalKeeps.check _ _).bind fun _ => ?_
  split
  · exact .throw _
  · intro P hP
    -- inserting the invocation locks it, for the event at the end
    have hlocked := hP.locked ⟨input.isolationDomainId, input.id⟩
    refine .bind (.insertInvocation hP) fun _ => ?_
    refine .bind ((JournalTriple.insert hlocked).post fun _ _ h => h.1) fun _ => ?_
    refine .bind (keeps_writeOutboxAndAudit _ hlocked) fun _ => ?_
    refine .bind (triple_writeInvocationEvent hlocked (fun _ h => h.2) _ _ _ _ _) fun _ => ?_
    exact .pure fun _ h => h.1

lemma triple_markCancelling (hP : Stable P) (input : AcceptCancellationInput)
    (hkey : ∀ tx, P tx → input.key ∈ tx.locked) (invocation : InvocationColumns) (now : Time) :
    JournalTriple env P (markCancelling env input invocation now) (fun _ => P) := by
  refine .bind (.change hP) fun _ => .bind (.change hP) fun _ => ?_
  refine .bind (keeps_writeOutboxAndAudit _ hP) fun _ => ?_
  exact triple_writeInvocationEvent hP hkey _ _ _ _ _

lemma keeps_acceptCancellation (input : AcceptCancellationInput) (now : Time) :
    JournalKeeps env (acceptCancellation env input now) := by
  intro P hP
  refine .bind (triple_getInvocationForUpdate hP.idle) fun found => ?_
  obtain ⟨invocation, state⟩ := found
  have hcancels : JournalTriple env _ (markCancelling env input invocation now)
      (fun _ tx => P tx ∧ input.key ∈ tx.locked) :=
    triple_markCancelling (hP.locked input.key) input (fun _ h => h.2) invocation now
  cases state with
  | cancelled | cancelling => exact .pure fun _ h => h.1
  | succeeded | failed => exact .throw
  | accepted | running | waiting => exact .bind hcancels fun _ => .pure fun _ h => h.1

lemma keeps_updateResourceForTransition (claim : Claim) (next : State) (now : Time) :
    JournalKeeps env (updateResourceForTransition env claim next now) := by
  unfold updateResourceForTransition
  split
  · split
    · exact (JournalKeeps.change _ _).bind fun _ => .pure _
    · exact .pure _
  · split
    · exact .pure _
    · intro P hP
      refine .bind (.change hP) fun _ => ?_
      refine .bind (triple_getInvocationForUpdate hP.idle) fun found => ?_
      exact (triple_writeInvocationEvent (hP.locked claim.resource) (fun _ h => h.2)
        _ _ _ _ _).post fun _ _ h => h.1

lemma keeps_resolveTransition (claim : Claim) (next : State) :
    JournalKeeps env (resolveTransition claim next) := by
  unfold resolveTransition
  split
  · refine (JournalKeeps.select _ _).bind fun contract => ?_
    split
    · exact .throw _
    · exact .pure _
    · exact (JournalKeeps.check _ _).bind fun _ => .pure _
  · exact .pure _

lemma keeps_advance (claim : Claim) (next : State) (now : Time) :
    JournalKeeps env (advance env claim next now) := by
  refine (keeps_resolveTransition claim next).bind fun made => ?_
  refine (JournalKeeps.change _ _).bind fun affected => (JournalKeeps.check _ _).bind fun _ => ?_
  exact (keeps_updateResourceForTransition claim made now).bind fun _ => keeps_writeOutboxAndAudit

/-! ### Events of a runtime -/

lemma triple_lockInvocationRuntimeClaim (hP : Idle P) (claim : Claim) (now : Time) :
    JournalTriple env P (lockInvocationRuntimeClaim claim now)
      (fun invocationId tx => P tx ∧ ⟨claim.key.isolationDomainId, invocationId⟩ ∈ tx.locked ∧
        .operation claim.operation invocationId ∈ tx.known) := by
  refine .check_bind fun _ => ?_
  refine .bind (.finds hP rfl (fun _ h => h)) fun found => ?_
  exact JournalTriple.demand.post fun invocationId tx h => ⟨h.2.1, h.2.2.1 invocationId h.1⟩

variable {invocationId : String}

/-- The target of an operation has the invocation that the transaction knows the operation by. -/
lemma triple_getInvocationRuntimeTarget (hP : Idle P) {operation : ResourceKey}
    (hknown : ∀ tx, P tx → .operation operation invocationId ∈ tx.known) :
    JournalTriple env P (getInvocationRuntimeTarget operation)
      (fun target tx => (target.operation = operation ∧ target.invocationId = invocationId) ∧
        P tx) := by
  refine .bind (.finds hP rfl (fun _ h => h)) fun found => ?_
  refine .bind JournalTriple.demand fun target => ?_
  refine .bind JournalTriple.check fun _ => .pure fun tx h => ?_
  obtain ⟨hchecked, hfound, htx, hrow, honce⟩ := h
  have heq := honce _ (hrow target hfound) _ (hknown tx htx) rfl
  exact ⟨⟨hchecked.1, (JournalRow.operation.inj heq).2⟩, htx⟩

/-- The event is of the target's invocation, and has the number, the type and the payload that are
to be recorded. -/
def IsRuntimeEvent (target : RuntimeTarget) (recording : Recording) (event : InvocationEvent) :
    Prop :=
  event.invocation = target.invocation ∧ event.sourceSequence = some recording.sourceSequence ∧
    event.eventType = recording.eventType ∧ event.payload = recording.payload

variable {target : RuntimeTarget} {recording : Recording}

lemma triple_insertRuntimeEvent (hP : Stable P) (hkey : ∀ tx, P tx → target.invocation ∈ tx.locked)
    (hrecording : ∀ tx, P tx → tx.recording = some recording) (claim : Claim) (what : String) :
    JournalTriple env P
      (insertRuntimeEvent env claim target recording.sourceSequence recording.eventType
        recording.payload what)
      (fun event tx => IsRuntimeEvent target recording event ∧ P tx ∧
        .event event ∈ tx.written) := by
  refine .bind (.allocate hP.idle hkey) fun sequence => ?_
  refine .bind (.clock fun tx h => hP.isOpen tx h.1) fun now => ?_
  have hinsert : JournalTriple env (fun tx => P tx ∧ tx.allocated = some (target.invocation, sequence))
      (attemptAs ("persist invocation " ++ what ++ " event") (.insertEventLive claim
        (runtimeEnvelope env target recording.sourceSequence recording.eventType recording.payload
          sequence now)))
      (fun affected tx => P tx ∧ (affected = true → .event
        (runtimeEnvelope env target recording.sourceSequence recording.eventType recording.payload
          sequence now) ∈ tx.written)) := by
    refine .attempt (fun tx h =>
      ⟨⟨hP.isOpen tx h.1, hkey tx h.1, h.2⟩, recording, hrecording tx h.1, rfl⟩)
      fun tx affected tx' h hmoves => ⟨hP.grows tx tx' hmoves.grows h.1, hmoves.found⟩
  refine .bind hinsert fun affected => .bind JournalTriple.check fun _ => .pure fun tx h => ?_
  exact ⟨⟨rfl, rfl, rfl, rfl⟩, h.2.1, h.2.2 h.1⟩

lemma triple_compareRuntimeEvent {existing : InvocationEvent} {eventType : String} {payload : Json}
    (what : String) :
    JournalTriple env P (compareRuntimeEvent env existing eventType payload what)
      (fun _ tx => P tx ∧ existing.eventType = eventType ∧
        env.reencode existing.payload = some payload) := by
  refine .bind JournalTriple.demand fun encoded => ?_
  refine JournalTriple.check.post fun _ tx h => ?_
  exact ⟨h.2.2, h.1.1, by rw [h.2.1, h.1.2]⟩

/-- The transaction has an event of the target's invocation with this number and this content: it
has written it or seen it. -/
def Has (env : RuntimeEnvironment) (target : RuntimeTarget) (recording : Recording)
    (tx : JournalTx) : Prop :=
  ∃ event, event.invocation = target.invocation ∧ event.Records env recording ∧
    (.event event ∈ tx.written ∨ event ∈ tx.seen)

variable {tx : JournalTx}

lemma Has.grows {tx' : JournalTx} (hgrows : tx.Grows tx') (h : Has env target recording tx) :
    Has env target recording tx' := by
  obtain ⟨event, hinvocation, hrecords, hwritten | hseen⟩ := h
  · exact ⟨event, hinvocation, hrecords, .inl (hgrows.written hwritten)⟩
  · exact ⟨event, hinvocation, hrecords, .inr (hgrows.seen hseen)⟩

lemma triple_recordInvocationRuntimeInteractionEvent (hP : Stable P)
    (hkey : ∀ tx, P tx → target.invocation ∈ tx.locked) (claim : Claim)
    (hrecording : ∀ tx, P tx → tx.recording = some recording) :
    JournalTriple env P
      (recordInvocationRuntimeInteractionEvent env claim target recording.sourceSequence
        recording.eventType recording.payload)
      (fun _ tx => P tx ∧ Has env target recording tx) := by
  refine .check_bind fun _ => ?_
  refine .bind (.finds hP.idle rfl (fun _ h => h)) fun found => ?_
  cases found with
  | some existing =>
    refine (triple_compareRuntimeEvent "interaction").post fun _ tx h => ?_
    obtain ⟨⟨htx, hfound, -⟩, htype, hpayload⟩ := h
    obtain ⟨hseen, hinvocation, hsource⟩ := hfound existing rfl
    exact ⟨htx, existing, hinvocation, ⟨hsource, htype, .inr hpayload⟩, .inr hseen⟩
  | none =>
    refine .bind ((triple_insertRuntimeEvent hP hkey hrecording claim _).pre fun _ h => h.1)
      fun event => .pure fun tx h => ?_
    obtain ⟨⟨hinvocation, hsource, htype, hpayload⟩, htx, hwritten⟩ := h
    exact ⟨htx, event, hinvocation, ⟨hsource, htype, .inl hpayload⟩, .inl hwritten⟩

lemma triple_getRuntimeArtifact (hP : Idle P) (target : RuntimeTarget) (sourceSequence : ℕ)
    (payload : Json) (space : String) :
    JournalTriple env P (getRuntimeArtifact env target sourceSequence payload space)
      (fun _ => P) := by
  refine .check_bind fun _ => ?_
  refine .bind (.select hP) fun record => ?_
  exact JournalTriple.check.post fun _ _ h => h.2

lemma triple_getEventArtifact (hP : Idle P) (target : RuntimeTarget) (sourceSequence : ℕ)
    (eventType : String) (payload : Json) :
    JournalTriple env P (getEventArtifact env target sourceSequence eventType payload)
      (fun _ => P) := by
  unfold getEventArtifact
  split
  · exact .pure fun _ h => h
  · exact triple_getRuntimeArtifact hP target sourceSequence payload _

lemma keeps_projectUsage (eventType : String) : JournalKeeps env (projectUsage eventType) := by
  unfold projectUsage
  split
  · exact (JournalKeeps.change _ _).bind fun _ => .pure _
  · exact .pure _

/-- The transaction is open, to record this. -/
def IsOpen (recording : Option Recording) (tx : JournalTx) : Prop :=
  tx.recording = recording ∧ tx.committed = false

lemma stable_isOpen (recording : Option Recording) : Stable (IsOpen recording) :=
  ⟨fun _ h => h.2, fun _ _ hgrows h => ⟨hgrows.recording.trans h.1, hgrows.committed.trans h.2⟩⟩

/-- And it has written nothing yet. -/
def Unwritten (recording : Option Recording) (tx : JournalTx) : Prop :=
  IsOpen recording tx ∧ tx.written = []

lemma idle_unwritten (recording : Option Recording) : Idle (Unwritten recording) :=
  ⟨fun _ h => h.1.2, fun tx tx' hlooks h =>
    ⟨(stable_isOpen recording).grows tx tx' hlooks.toGrows h.1, hlooks.written_eq.trans h.2⟩⟩

/-- The transaction knows and has locked the invocation of its operation. -/
def Owns (operation : ResourceKey) (invocationId : String) (tx : JournalTx) : Prop :=
  ⟨operation.isolationDomainId, invocationId⟩ ∈ tx.locked ∧
    .operation operation invocationId ∈ tx.known

lemma Owns.grows {operation : ResourceKey} (tx tx' : JournalTx) (hgrows : tx.Grows tx')
    (h : Owns operation invocationId tx) : Owns operation invocationId tx' :=
  ⟨hgrows.locked h.1, hgrows.known h.2⟩

/-- **`RecordInvocationRuntimeEvent`** answers for its event: it has inserted it, or it has found it
and written nothing. -/
lemma triple_recordInvocationRuntimeEvent (claim : Claim) (recording : Recording)
    (hoperation : recording.operation = claim.operation) :
    JournalTriple env (Unwritten (some recording))
      (recordInvocationRuntimeEvent env claim recording.sourceSequence recording.eventType
        recording.payload)
      (fun _ tx => tx.committed = false ∧ tx.Recorded env) := by
  have hstart := idle_unwritten (some recording)
  refine .bind (.clock hstart.isOpen) fun now => ?_
  refine .bind (triple_lockInvocationRuntimeClaim hstart claim now) fun invocationId => ?_
  -- from here on the transaction has locked the invocation of its operation
  have hidle : Idle fun tx => Unwritten (some recording) tx ∧ Owns claim.operation invocationId tx :=
    hstart.and Owns.grows
  refine .bind (triple_getInvocationRuntimeTarget hidle fun tx h => h.2.2) fun target => ?_
  refine .intro fun ⟨htarget, hinvocationId⟩ => ?_
  have hinvocation : target.invocation = ⟨claim.operation.isolationDomainId, invocationId⟩ := by
    rw [RuntimeTarget.invocation, htarget, hinvocationId]
  refine .check_bind fun _ => ?_
  refine .bind (triple_getEventArtifact hidle target _ _ _) fun _ => ?_
  refine .bind (.finds hidle rfl (fun _ h => h)) fun found => ?_
  cases found with
  | some existing =>
    refine .bind (triple_compareRuntimeEvent "runtime") fun _ => .pure fun tx h => ?_
    obtain ⟨⟨⟨hunwritten, howns⟩, hfound, -⟩, htype, hpayload⟩ := h
    obtain ⟨hseen, hof, hsource⟩ := hfound existing rfl
    refine ⟨hunwritten.1.2, fun other hother => ?_⟩
    cases hunwritten.1.1.symm.trans hother
    rw [← hoperation] at howns hinvocation
    exact ⟨invocationId, existing, howns.2, hof.trans hinvocation, ⟨hsource, htype, .inr hpayload⟩,
      .inr ⟨hseen, fun _ => hunwritten.2⟩⟩
  | none =>
    have hstable : Stable fun tx => IsOpen (some recording) tx ∧ Owns claim.operation invocationId tx :=
      (stable_isOpen _).and Owns.grows
    refine .bind ((triple_insertRuntimeEvent hstable (fun tx h => hinvocation ▸ h.2.1)
      (fun tx h => h.1.1) claim _).pre fun tx h => ⟨h.1.1.1, h.1.2⟩) fun event => ?_
    refine .intro fun ⟨hof, hsource, htype, hpayload⟩ => ?_
    refine .bind (keeps_projectUsage _ _
      (hstable.and fun _ _ hgrows h => hgrows.written h)) fun _ => .pure fun tx h => ?_
    obtain ⟨⟨hopen, howns⟩, hwritten⟩ := h
    refine ⟨hopen.2, fun other hother => ?_⟩
    cases hopen.1.symm.trans hother
    rw [← hoperation] at howns hinvocation
    exact ⟨invocationId, event, howns.2, hof.trans hinvocation, ⟨hsource, htype, .inl hpayload⟩,
      .inl hwritten⟩

/-! ### Approvals and questions -/

lemma triple_verifyInvocationRuntimeEffect (hP : Idle P) :
    JournalTriple env P verifyInvocationRuntimeEffect (fun _ => P) := by
  refine .bind (.select hP) fun found => .bind JournalTriple.demand fun same => ?_
  exact JournalTriple.check.post fun _ _ h => h.2.2

/-- `lockRuntimeInteractionAttempt` has locked the invocation that the claim names. -/
lemma triple_lockRuntimeInteractionAttempt (hP : Idle P) (claim : Claim) (effect : EffectRecord) :
    JournalTriple env P (lockRuntimeInteractionAttempt claim effect)
      (fun _ tx => P tx ∧ Owns claim.operation claim.resourceId tx) := by
  refine .bind (.clock hP.isOpen) fun now => ?_
  refine .bind (triple_lockInvocationRuntimeClaim hP claim now) fun invocationId => ?_
  have howns : Idle fun tx => P tx ∧ Owns claim.operation invocationId tx := hP.and Owns.grows
  refine .bind (triple_verifyInvocationRuntimeEffect howns) fun _ => ?_
  refine .bind (.finds howns rfl (fun _ h => h)) fun live => ?_
  refine JournalTriple.check.post fun _ tx h => ?_
  obtain ⟨hlive, ⟨htx, hlocked, hknown⟩, hrow, honce⟩ := h
  -- the operation belongs to one invocation only
  have heq := honce _ hknown _ (hrow hlive) rfl
  obtain rfl := (JournalRow.operation.inj heq).2
  exact ⟨htx, hlocked, hknown⟩

/-- A method that reads a row by its key: the row that it returns is known then. -/
def ReadsRow {α : Type} (env : RuntimeEnvironment) (get : ResourceKey → JournalAction (Option α))
    (row : ResourceKey → α → JournalRow) : Prop :=
  ∀ P key, Idle P → JournalTriple env P (get key) fun found tx =>
    P tx ∧ (∀ value, found = some value → row key value ∈ tx.known) ∧ tx.KnownOnce

lemma readsRow_approval :
    ReadsRow env getInvocationRuntimeApproval
      fun key approval => .approval key approval.toApprovalColumns := by
  intro P key hP
  refine .bind (.finds hP rfl (fun _ h => h)) fun found => ?_
  split
  · exact .pure fun _ h => h
  · exact .bind JournalTriple.check fun _ => .pure fun _ h => h.2

lemma readsRow_question :
    ReadsRow env (getInvocationRuntimeQuestion env)
      fun key question => .question key question.toQuestionColumns := by
  intro P key hP
  refine .bind (.finds hP rfl (fun _ _ => trivial)) fun found => ?_
  split
  · exact .pure fun _ h => h
  · exact .bind JournalTriple.check fun _ => .pure fun _ h => h.2

/-- Reading a row again that is known already. -/
lemma ReadsRow.again {get : ResourceKey → JournalAction (Option α)}
    {row : ResourceKey → α → JournalRow} (hget : ReadsRow env get row) (hP : Idle P)
    {known : JournalRow} (hknown : ∀ tx, P tx → known ∈ tx.known)
    (hkey : ∀ value, (row key value).key = known.key) :
    JournalTriple env P (get key) fun found tx =>
      (∀ value, found = some value → row key value = known) ∧ P tx :=
  (hget P key hP).post fun _ tx h =>
    ⟨fun value hfound => h.2.2 _ (h.2.1 value hfound) _ (hknown tx h.1) (hkey value), h.1⟩

/-- A transaction that has its event, and answers for it. -/
lemma recorded_of_has (hruntime : recording.isRuntimeEvent = false)
    (htarget : target.invocation = ⟨recording.operation.isolationDomainId, invocationId⟩)
    (hopen : IsOpen (some recording) tx) (howns : Owns recording.operation invocationId tx)
    (hhas : Has env target recording tx) : tx.committed = false ∧ tx.Recorded env := by
  refine ⟨hopen.2, fun other hother => ?_⟩
  cases hopen.1.symm.trans hother
  obtain ⟨event, hof, hrecords, hwritten | hseen⟩ := hhas
  · exact ⟨invocationId, event, howns.2, hof.trans htarget, hrecords, .inl hwritten⟩
  · refine ⟨invocationId, event, howns.2, hof.trans htarget, hrecords, .inr ⟨hseen, ?_⟩⟩
    intro htrue
    rw [hruntime] at htrue
    cases htrue

variable {claim : Claim}

variable (effect : EffectRecord)

variable {Q : α → JournalTx → Prop}

/-- What the requests of an approval and of a question have in common: the attempt is locked, and
the target is that of the operation. -/
lemma triple_lockTarget (hP : Idle P)
    (htarget : invocationRuntimeTargetMatchesApproval target claim = true) (error : RepositoryError)
    {f : JournalAction α}
    (hf : target.invocation = ⟨target.operation.isolationDomainId, claim.resourceId⟩ →
      JournalTriple env (fun tx => P tx ∧ Owns target.operation claim.resourceId tx) f Q) :
    JournalTriple env P (do
      lockRuntimeInteractionAttempt claim effect
      let actual ← getInvocationRuntimeTarget target.operation
      check (actual = target) error
      f) Q := by
  simp only [invocationRuntimeTargetMatchesApproval, Bool.and_eq_true, decide_eq_true_eq] at htarget
  obtain ⟨⟨⟨⟨⟨hoperation, hinvocation⟩, -⟩, -⟩, -⟩, -⟩ := htarget
  refine .bind (triple_lockRuntimeInteractionAttempt hP claim effect) fun _ => ?_
  rw [← hoperation]
  have howns : Idle fun tx => P tx ∧ Owns target.operation claim.resourceId tx := hP.and Owns.grows
  refine .bind (triple_getInvocationRuntimeTarget howns fun _ h => h.2.2) fun actual => .intro fun _ => ?_
  refine .check_bind fun _ => hf ?_
  rw [RuntimeTarget.invocation, hinvocation]

lemma triple_readDeadline (hP : Idle P) (operation : ResourceKey) :
    JournalTriple env P (attempt (.readDeadline operation)) (fun _ => P) :=
  .look hP rfl fun _ h => h

/-- The transaction is open, to record this, and has locked the invocation. -/
def Holds (recording : Recording) (invocationId : String) (tx : JournalTx) : Prop :=
  IsOpen (some recording) tx ∧ Owns recording.operation invocationId tx

lemma stable_holds (recording : Recording) (invocationId : String) :
    Stable (Holds recording invocationId) :=
  (stable_isOpen _).and Owns.grows

/-- Once the event of a request is recorded, the transaction may be committed. -/
lemma triple_recordRequest (recording : Recording) (hruntime : recording.isRuntimeEvent = false)
    (htarget : target.invocation = ⟨recording.operation.isolationDomainId, invocationId⟩)
    (claim : Claim) {f : JournalAction α} (hf : JournalKeeps env f) :
    JournalTriple env (Holds recording invocationId) (do
        recordInvocationRuntimeInteractionEvent env claim target recording.sourceSequence
          recording.eventType recording.payload
        f)
      (fun _ tx => tx.committed = false ∧ tx.Recorded env) := by
  have hstable := stable_holds recording invocationId
  refine .bind (triple_recordInvocationRuntimeInteractionEvent hstable
    (fun tx h => htarget ▸ h.2.1) claim fun tx h => h.1.1) fun _ => ?_
  refine (hf _ (hstable.and fun _ _ hgrows h => h.grows hgrows)).post fun _ tx h => ?_
  exact recorded_of_has hruntime htarget h.1.1 h.1.2 h.2

/-- **`RecordInvocationRuntimeApprovalRequest`** answers for the event of its request. -/
lemma triple_requestApproval (request : ApprovalRequest)
    (htarget : invocationRuntimeTargetMatchesApproval target claim = true) :
    JournalTriple env
      (IsOpen ((JournalCall.requestApproval claim effect target request).recording env))
      (requestApproval env claim effect target request)
      (fun _ tx => tx.committed = false ∧ tx.Recorded env) := by
  refine triple_lockTarget effect (stable_isOpen _).idle htarget approvalConflict
    fun hinvocation => ?_
  have hstable := stable_holds (JournalCall.approvalRecording env target request) claim.resourceId
  have hrecords : ∀ approval : RuntimeApproval, approval.sourceSequence = request.sourceSequence →
      approval.requestedAction = request.requestedAction → JournalTriple env
        (Holds (JournalCall.approvalRecording env target request) claim.resourceId)
        (do
          recordInvocationRuntimeApprovalEvent env claim target
            (interactionKey env "apr" target.operation request.sourceSequence).id approval
          pure approval)
        (fun _ tx => tx.committed = false ∧ tx.Recorded env) := by
    intro approval hsource haction
    unfold recordInvocationRuntimeApprovalEvent
    rw [hsource, haction]
    exact triple_recordRequest (JournalCall.approvalRecording env target request) rfl
      hinvocation claim (.pure approval)
  refine .bind (readsRow_approval _ _ hstable.idle) fun found => ?_
  cases found with
  | some existing =>
    refine .check_bind fun hsame => ?_
    obtain ⟨-, -, -, -, -, hsource, haction, -⟩ := hsame
    exact (hrecords existing hsource haction).pre fun _ h => h.1
  | none =>
    refine .bind ((triple_readDeadline hstable.idle _).pre fun _ h => h.1) fun times => ?_
    refine .check_bind fun _ => ?_
    refine .bind (.insert hstable) fun _ => ?_
    -- the row that is read back is the one that has just been inserted
    refine .bind ((readsRow_approval.again (hstable.known _).idle (fun _ h => h.2)
      (fun _ => rfl)).pre fun _ h => ⟨h.1, h.2.1⟩) fun found => .intro fun hfound => ?_
    refine .bind JournalTriple.demand fun approval => .intro fun happroval => ?_
    have hcolumns := (JournalRow.approval.inj (hfound approval happroval)).2
    exact (hrecords approval (by rw [hcolumns]) (by rw [hcolumns])).pre fun _ h => h.1

/-- **`RecordInvocationRuntimeQuestionRequest`** answers for the event of its request, if it is to be
committed. -/
lemma triple_requestQuestion (request : QuestionRequest)
    (htarget : invocationRuntimeTargetMatchesApproval target claim = true) :
    JournalTriple env
      (IsOpen ((JournalCall.requestQuestion claim effect target request).recording env))
      (requestQuestion env claim effect target request)
      (fun result tx => result.2 = true → tx.committed = false ∧ tx.Recorded env) := by
  refine triple_lockTarget effect (stable_isOpen _).idle htarget questionConflict
    fun hinvocation => ?_
  have hstable := stable_holds (JournalCall.questionRecording env target request) claim.resourceId
  refine .bind (readsRow_question _ _ hstable.idle) fun found => ?_
  cases found with
  | some =>
    refine .bind JournalTriple.check fun _ => .pure fun tx _ h => ?_
    cases h
  | none =>
    refine .bind ((triple_readDeadline hstable.idle _).pre fun _ h => h.1) fun times => ?_
    refine .check_bind fun _ => ?_
    refine .bind (.insert hstable) fun _ => ?_
    refine .bind ((readsRow_question.again (hstable.known _).idle (fun _ h => h.2)
      (fun _ => rfl)).pre fun _ h => ⟨h.1, h.2.1⟩) fun found => .intro fun hfound => ?_
    refine .bind JournalTriple.demand fun question => .intro fun hquestion => ?_
    have hcolumns := (JournalRow.question.inj (hfound question hquestion)).2
    have hsource : question.sourceSequence = request.sourceSequence := by rw [hcolumns]
    have hexpires : question.expiresAt = request.expiresAt := by rw [hcolumns]
    unfold recordRuntimeQuestionEvent
    rw [hsource, hexpires]
    refine (triple_recordRequest (JournalCall.questionRecording env target request) rfl
      hinvocation claim (.bind ?_ fun _ => .pure _)).conseq (fun _ h => h.1) fun _ _ h _ => h
    exact (JournalKeeps.change _ _).bind fun _ => (JournalKeeps.change _ _).bind fun _ => .pure _

lemma triple_recordRuntimeInteractionOutcome (hP : Stable P) (value : RuntimeInteractionOutcome)
    (hkey : ∀ tx, P tx → value.invocation ∈ tx.locked) :
    JournalTriple env P (recordRuntimeInteractionOutcome env value) (fun _ => P) := by
  refine .bind JournalTriple.demand fun found => .intro fun _ => ?_
  obtain ⟨_, _⟩ := found
  refine .attempt (fun tx h => ⟨hP.isOpen tx h, hkey tx h, rfl⟩) ?_
  exact fun tx _ tx' h hmoves => hP.grows tx tx' hmoves.grows h

lemma keeps_activeRuntimeInteraction (conflict : RepositoryError) :
    JournalKeeps env (activeRuntimeInteraction conflict) :=
  (JournalKeeps.select _ _).bind fun _ => .check _ _

lemma keeps_authorize (authorized : Bool) : JournalKeeps env (authorize authorized) := by
  unfold authorize
  split
  · exact (JournalKeeps.select _ _).bind fun _ => .pure _
  · exact .pure _

lemma keeps_getInvocationRuntimeApproval (key : ResourceKey) :
    JournalKeeps env (getInvocationRuntimeApproval key) :=
  fun P hP => (readsRow_approval P key hP.idle).post fun _ _ h => h.1

lemma keeps_refuseExpired (approval : RuntimeApproval) : JournalKeeps env (refuseExpired approval) := by
  unfold refuseExpired
  split
  · exact (JournalKeeps.clock _).bind fun _ => .check _ _
  · exact .pure _

lemma triple_recordInvocationRuntimeApprovalResolutionEvent (hP : Stable P)
    (approval : RuntimeApproval) (resolution : ApprovalResolution)
    (hkey : ∀ tx, P tx → ⟨resolution.invocation.isolationDomainId, approval.invocationId⟩ ∈ tx.locked)
    (now : Time) :
    JournalTriple env P (recordInvocationRuntimeApprovalResolutionEvent env approval resolution now)
      (fun _ => P) := by
  refine .check_bind fun _ => ?_
  refine .bind (.allocate hP.idle hkey) fun sequence => ?_
  refine .attempt (fun tx h => ⟨⟨hP.isOpen tx h.1, hkey tx h.1, h.2⟩, rfl⟩) ?_
  exact fun tx _ tx' h hmoves => hP.grows tx tx' hmoves.grows h.1

lemma triple_resolvePending (hP : Stable P) (key : ResourceKey) (approval : RuntimeApproval)
    (resolution : ApprovalResolution)
    (hkey : ∀ tx, P tx → ⟨resolution.invocation.isolationDomainId, approval.invocationId⟩ ∈ tx.locked)
    (authorized : Bool) :
    JournalTriple env P (resolvePending env key approval resolution authorized) (fun _ => P) := by
  refine .bind (JournalKeeps.check _ _ P hP) fun _ => ?_
  refine .bind (keeps_activeRuntimeInteraction _ P hP) fun _ => ?_
  refine .bind (keeps_authorize authorized P hP) fun _ => ?_
  refine .bind (keeps_activeRuntimeInteraction _ P hP) fun _ => ?_
  refine .bind (.clock hP.isOpen) fun now => .bind (.change hP) fun affected => ?_
  split
  · refine .bind (.change hP) fun _ => ?_
    refine .bind (triple_recordInvocationRuntimeApprovalResolutionEvent hP approval resolution hkey
      now) fun _ => ?_
    exact .bind (keeps_getInvocationRuntimeApproval key P hP) fun _ => JournalKeeps.demand _ _ P hP
  · exact .bind (keeps_activeRuntimeInteraction _ P hP) fun _ => .throw

lemma keeps_resolveInvocationRuntimeApproval (resolution : ApprovalResolution) (authorized : Bool) :
    JournalKeeps env (resolveInvocationRuntimeApproval env resolution authorized) := by
  intro P hP
  have hlocked := hP.locked resolution.invocation
  refine .bind (.finds hP.idle rfl (fun _ h => h)) fun found => ?_
  refine .bind (JournalTriple.demand.post fun invocation _ h =>
    (⟨h.2.1, h.2.2.1 invocation h.1⟩ : _ ∧ resolution.invocation ∈ _)) fun _ => ?_
  refine .bind (keeps_getInvocationRuntimeApproval _ _ hlocked) fun found => ?_
  refine .bind (JournalKeeps.demand _ _ _ hlocked) fun approval => ?_
  refine .check_bind fun hsame => ?_
  refine .bind (JournalKeeps.check _ _ _ hlocked) fun _ => ?_
  refine .bind (keeps_refuseExpired approval _ hlocked) fun _ => ?_
  split
  · refine (triple_resolvePending hlocked _ approval resolution (fun tx h => ?_)
      authorized).post fun _ _ h => h.1
    rw [hsame]
    exact h.2
  · refine .bind (JournalKeeps.check _ _ _ hlocked) fun _ => ?_
    exact .bind (keeps_authorize authorized _ hlocked) fun _ => .pure fun _ h => h.1

lemma triple_recordRuntimeApprovalClosure (hP : Stable P) (key : ResourceKey)
    (value : RuntimeApproval)
    (hkey : ∀ tx, P tx → ⟨key.isolationDomainId, value.invocationId⟩ ∈ tx.locked)
    (actor correlation : String) :
    JournalTriple env P (recordRuntimeApprovalClosure env key value actor correlation)
      (fun _ => P) := by
  refine .bind (.change hP) fun _ => .bind (.change hP) fun _ => ?_
  exact triple_recordRuntimeInteractionOutcome hP _ hkey

/-- The row of an interaction is known, and its invocation is locked. -/
def Guards (row : JournalRow) (invocation : ResourceKey) (tx : JournalTx) : Prop :=
  row ∈ tx.known ∧ invocation ∈ tx.locked

lemma Guards.grows {row : JournalRow} {invocation : ResourceKey} (tx tx' : JournalTx)
    (hgrows : tx.Grows tx') (h : Guards row invocation tx) : Guards row invocation tx' :=
  ⟨hgrows.known h.1, hgrows.locked h.2⟩

/-- A method that closes an interaction, once its row is known and its invocation locked. -/
def ClosesRow {α β : Type} (env : RuntimeEnvironment) (close : ResourceKey → α → JournalAction β)
    (row : ResourceKey → α → JournalRow) (invocationId : α → String) : Prop :=
  ∀ P key value, Stable P → JournalTriple env
    (fun tx => P tx ∧ Guards (row key value) ⟨key.isolationDomainId, invocationId value⟩ tx)
    (close key value) (fun _ => P)

lemma closesRow_approval (reason actor correlation : String) :
    ClosesRow env (closeRuntimeApproval env · · reason actor correlation)
      (fun key approval => .approval key approval.toApprovalColumns) (·.invocationId) := by
  intro P key value hP
  have hstable : Stable fun tx => P tx ∧ Guards (.approval key value.toApprovalColumns)
      ⟨key.isolationDomainId, value.invocationId⟩ tx := hP.and Guards.grows
  refine .bind (.clock hstable.isOpen) fun now => ?_
  dsimp only
  split
  · exact .throw
  · exact .pure fun _ h => h.1
  · refine .bind (.change hstable) fun _ => ?_
    refine .bind (readsRow_approval.again hstable.idle (fun _ h => h.2.1) fun _ => rfl)
      fun found => .intro fun hfound => ?_
    refine .bind JournalTriple.demand fun value' => .intro fun hvalue => ?_
    have hcolumns := (JournalRow.approval.inj (hfound value' hvalue)).2
    refine .bind (triple_recordRuntimeApprovalClosure hstable key value' (fun tx h => ?_) actor
      correlation) fun _ => .pure fun _ h => h.1
    rw [hcolumns]
    exact h.2.2

lemma keeps_closeApproval (claim : Claim) (effect : EffectRecord) (id reason : String) :
    JournalKeeps env (closeApproval env claim effect id reason) := by
  intro P hP
  refine .bind (triple_lockRuntimeInteractionAttempt hP.idle claim effect) fun _ => ?_
  refine .bind (readsRow_approval _ _ (hP.idle.and Owns.grows)) fun found => ?_
  refine .bind JournalTriple.demand fun value => .intro fun hvalue => ?_
  refine .check_bind fun hsame => ?_
  refine (closesRow_approval _ _ _ P _ value hP).pre fun tx h => ?_
  obtain ⟨⟨htx, howns⟩, hknown, -⟩ := h
  refine ⟨htx, hknown value hvalue, ?_⟩
  dsimp only
  rw [hsame.2.2.1]
  exact howns.1

/-- The invocations are locked, and the rows of the interactions known. -/
def Due (kind : InteractionKind) (isolationDomainId : String) (invocations ids : List String)
    (tx : JournalTx) : Prop :=
  invocations.map (⟨isolationDomainId, ·⟩) ⊆ tx.locked ∧
    ∀ i ∈ ids, ∃ row ∈ tx.known, row.isDue kind isolationDomainId invocations = true ∧
      row.key.2.id = i

variable {invocations ids : List String} {isolationDomainId : String}

lemma Due.grows {kind : InteractionKind} (tx tx' : JournalTx) (hgrows : tx.Grows tx')
    (h : Due kind isolationDomainId invocations ids tx) :
    Due kind isolationDomainId invocations ids tx' := by
  refine ⟨List.Subset.trans h.1 hgrows.locked, fun i hi => ?_⟩
  obtain ⟨row, hrow, hdue⟩ := h.2 i hi
  exact ⟨row, hgrows.known hrow, hdue⟩

/-- Locking the due invocations and reading their due interactions. -/
lemma triple_due (hP : Idle P) (kind : InteractionKind) (isolationDomainId : String) (limit : ℕ)
    {f : List String → JournalAction α} (hf : ∀ invocations ids,
      JournalTriple env (fun tx => P tx ∧ Due kind isolationDomainId invocations ids tx) (f ids) Q)
    :
    JournalTriple env P (do
      let invocations ← attempt (.lockDue kind isolationDomainId limit)
      let ids ← attempt (.dueInteractions kind isolationDomainId limit invocations)
      f ids) Q := by
  refine .bind (.finds hP rfl (fun _ h => h)) fun invocations => ?_
  have hidle : Idle fun tx => P tx ∧ invocations.map (⟨isolationDomainId, ·⟩) ⊆ tx.locked :=
    hP.and fun _ _ hgrows h => List.Subset.trans h hgrows.locked
  have hread : JournalTriple env _
      (attempt (.dueInteractions kind isolationDomainId limit invocations)) _ :=
    .finds hidle rfl (fun _ h => h)
  refine .bind (hread.pre fun tx h => ⟨h.1, h.2.1⟩) fun ids => ?_
  exact (hf invocations ids).pre fun tx h => ⟨h.1.1, h.1.2, h.2.1⟩

/-- **The loop over the interactions that are due**: each belongs to a locked invocation. -/
lemma triple_expireEach {kind : InteractionKind} {get : ResourceKey → JournalAction (Option α)}
    {close : ResourceKey → α → JournalAction β} {row : ResourceKey → α → JournalRow}
    {invocationId : α → String} {error : RepositoryError} {loop : List String → JournalAction Unit}
    (hget : ReadsRow env get row) (hclose : ClosesRow env close row invocationId)
    (hdue : ∀ key value, (row key value).isDue kind isolationDomainId invocations = true →
      invocationId value ∈ invocations)
    (hkey : ∀ i value other, JournalRow.isDue kind isolationDomainId invocations other = true →
      other.key.2.id = i → (row ⟨isolationDomainId, i⟩ value).key = other.key)
    (hnil : loop [] = pure ())
    (hcons : ∀ i ids, loop (i :: ids) = do
      let value ← demand (← get ⟨isolationDomainId, i⟩) error
      let _ ← close ⟨isolationDomainId, i⟩ value
      loop ids) (hP : Stable P) (ids : List String) :
    JournalTriple env (fun tx => P tx ∧ Due kind isolationDomainId invocations ids tx) (loop ids)
      (fun _ => P) := by
  induction ids with
  | nil =>
    rw [hnil]
    exact .pure fun _ h => h.1
  | cons i ids ih =>
    have hstable : Stable fun tx => P tx ∧ Due kind isolationDomainId invocations (i :: ids) tx :=
      hP.and Due.grows
    rw [hcons]
    refine .bind (hget _ _ hstable.idle) fun found => ?_
    refine .bind JournalTriple.demand fun value => .intro fun hvalue => ?_
    refine .bind ((hclose _ _ value hstable).pre fun tx h => ?_) fun _ => ?_
    · obtain ⟨htx, hknown, honce⟩ := h
      obtain ⟨other, hother, hisDue, hid⟩ := htx.2.2 i List.mem_cons_self
      -- the row that is read is the one that was found to be due
      have hrow := honce _ (hknown value hvalue) other hother (hkey i value other hisDue hid)
      exact ⟨htx, hknown value hvalue, htx.2.1 (List.mem_map_of_mem (hdue _ value (hrow ▸ hisDue)))⟩
    · exact ih.pre fun tx h => ⟨h.1, h.2.1, fun j hj => h.2.2 j (List.mem_cons_of_mem _ hj)⟩

lemma keeps_expireApprovals (isolationDomainId actor correlation : String) (limit : ℕ) :
    JournalKeeps env (expireApprovals env isolationDomainId actor correlation limit) := by
  intro P hP
  refine triple_due hP.idle _ _ _ fun invocations ids => ?_
  refine .bind (triple_expireEach readsRow_approval (closesRow_approval "expired" actor correlation)
    (fun key value h => ?_) (fun i value other hdue hid => ?_) rfl (fun _ _ => rfl) hP ids) fun _ =>
    .pure fun _ h => h
  · exact (by simpa [JournalRow.isDue] using h : _ ∧ _).2
  · rcases other with _ | _ | ⟨⟨_, _⟩, _⟩ | ⟨⟨_, _⟩, _⟩ <;> simp_all [JournalRow.isDue, JournalRow.key]

lemma triple_recordRuntimeQuestionChange (hP : Stable P) (key : ResourceKey)
    (value : RuntimeQuestion)
    (hkey : ∀ tx, P tx → ⟨key.isolationDomainId, value.invocationId⟩ ∈ tx.locked)
    (action actor correlation : String) (now : Time) :
    JournalTriple env P (recordRuntimeQuestionChange env key value action actor correlation now)
      (fun _ => P) := by
  refine .bind (.change hP) fun _ => .bind (.change hP) fun _ => ?_
  split
  · exact triple_recordRuntimeInteractionOutcome hP _ hkey
  · exact .pure fun _ h => h

/-- Reading a question again, and writing what has happened to it. -/
lemma triple_rereadQuestion (hP : Stable P) (key : ResourceKey) (value : RuntimeQuestion)
    (action actor correlation : String) :
    JournalTriple env
      (fun tx => P tx ∧ Guards (.question key value.toQuestionColumns)
        ⟨key.isolationDomainId, value.invocationId⟩ tx)
      (do
        let value' ← demand (← getInvocationRuntimeQuestion env key) questionMissing
        recordRuntimeQuestionChange env key value' action actor correlation value'.updatedAt
        pure value') (fun _ => P) := by
  refine .bind (readsRow_question.again (hP.and Guards.grows).idle (fun _ h => h.2.1)
    fun _ => rfl) fun found => .intro fun hfound => ?_
  refine .bind JournalTriple.demand fun value' => .intro fun hvalue => ?_
  refine .bind (triple_recordRuntimeQuestionChange (hP.and Guards.grows) key value'
    (fun tx h => ?_) _ _ _ _) fun _ => .pure fun _ h => h.1
  rw [(JournalRow.question.inj (hfound value' hvalue)).2]
  exact h.2.2

lemma keeps_answerInvocationRuntimeQuestion (answer : QuestionAnswer) :
    JournalKeeps env (answerInvocationRuntimeQuestion env answer) := by
  intro P hP
  have hlocked := hP.locked answer.invocation
  refine .bind (.finds hP.idle rfl (fun _ h => h)) fun found => ?_
  refine .bind (JournalTriple.demand.post fun invocation _ h =>
    (⟨h.2.1, h.2.2.1 invocation h.1⟩ : _ ∧ answer.invocation ∈ _)) fun _ => ?_
  refine .bind (readsRow_question _ _ hlocked.idle) fun found => ?_
  refine .bind JournalTriple.demand fun value => .intro fun hvalue => ?_
  refine .check_bind fun hsame => ?_
  have hstable : Stable fun tx => P tx ∧ Guards
      (.question ⟨answer.invocation.isolationDomainId, answer.questionId⟩ value.toQuestionColumns)
      ⟨answer.invocation.isolationDomainId, value.invocationId⟩ tx := hP.and Guards.grows
  refine .pre ?_ fun tx h => (⟨h.1.1, h.2.1 value hvalue, by rw [hsame]; exact h.1.2⟩ :
    P tx ∧ Guards (.question ⟨answer.invocation.isolationDomainId, answer.questionId⟩
      value.toQuestionColumns) ⟨answer.invocation.isolationDomainId, value.invocationId⟩ tx)
  refine .bind (JournalKeeps.check _ _ _ hstable) fun _ => ?_
  split
  · refine .bind (JournalKeeps.check _ _ _ hstable) fun _ => ?_
    exact .bind (keeps_authorize true _ hstable) fun _ => .pure fun _ h => h.1
  · refine .bind (JournalKeeps.check _ _ _ hstable) fun _ => ?_
    refine .bind (JournalTriple.clock hstable.isOpen) fun now => ?_
    refine .bind (JournalKeeps.check _ _ _ hstable) fun _ => ?_
    refine .bind (keeps_activeRuntimeInteraction _ _ hstable) fun _ => ?_
    refine .bind (keeps_authorize true _ hstable) fun _ => ?_
    refine .bind (keeps_activeRuntimeInteraction _ _ hstable) fun _ => ?_
    refine .bind (JournalTriple.change hstable) fun affected => .bind (JournalKeeps.check _ _ _ hstable) fun _ => ?_
    exact triple_rereadQuestion hP _ value _ _ _

lemma closesRow_question (reason actor correlation : String) :
    ClosesRow env (closeRuntimeQuestion env · · reason actor correlation)
      (fun key question => .question key question.toQuestionColumns) (·.invocationId) := by
  intro P key value hP
  dsimp only
  unfold closeRuntimeQuestion
  split
  · exact .throw
  · exact .pure fun _ h => h.1
  · refine .bind (.change (hP.and Guards.grows)) fun _ => ?_
    exact triple_rereadQuestion hP _ value _ _ _

lemma keeps_closeQuestion (claim : Claim) (effect : EffectRecord) (id reason : String) :
    JournalKeeps env (closeQuestion env claim effect id reason) := by
  intro P hP
  refine .bind (triple_lockRuntimeInteractionAttempt hP.idle claim effect) fun _ => ?_
  refine .bind (readsRow_question _ _ (hP.idle.and Owns.grows)) fun found => ?_
  refine .bind JournalTriple.demand fun value => .intro fun hvalue => ?_
  refine .check_bind fun hsame => ?_
  refine (closesRow_question _ _ _ P _ value hP).pre fun tx h => ?_
  obtain ⟨⟨htx, howns⟩, hknown, -⟩ := h
  refine ⟨htx, hknown value hvalue, ?_⟩
  dsimp only
  rw [hsame.2.1]
  exact howns.1

lemma keeps_expireQuestions (isolationDomainId actor correlation : String) (limit : ℕ) :
    JournalKeeps env (expireQuestions env isolationDomainId actor correlation limit) := by
  intro P hP
  refine triple_due hP.idle _ _ _ fun invocations ids => ?_
  refine .bind (triple_expireEach readsRow_question (closesRow_question "expired" actor correlation)
    (fun key value h => ?_) (fun i value other hdue hid => ?_) rfl (fun _ _ => rfl) hP ids) fun _ =>
    .pure fun _ h => h
  · exact (by simpa [JournalRow.isDue] using h : _ ∧ _).2
  · rcases other with _ | _ | ⟨⟨_, _⟩, _⟩ | ⟨⟨_, _⟩, _⟩ <;> simp_all [JournalRow.isDue, JournalRow.key]

end Writer

/-! ### Whole calls -/

open Writer

/-- A call that keeps to the discipline. -/
def JournalComplies {α : Type} (env : RuntimeEnvironment) (tx : JournalTx)
    (x : Process (CommandRequest JournalStatement) (CommandRequest.Reply JournalStatement.Reply) α) :
    Prop :=
  Process.Complies (JournalAllowed env) JournalMoves (fun _ _ => True) tx x

variable {tx : JournalTx}

lemma JournalTriple.embed {Q : α → JournalTx → Prop} (hx : JournalTriple env P x Q) (htx : P tx) :
    Process.Complies (JournalAllowed env) JournalMoves
      (fun tx result => ∀ a, result = .ok a → Q a tx) tx (x.run.embed CommandRequest.action) :=
  Process.Complies.embed (hx tx htx)

/-- **`inTransaction`**: a body that is to be committed answers for its event. -/
lemma complies_inTransaction {beginning committing : RepositoryError}
    {body : JournalAction (JournalResult × Bool)} (hP : Idle P) (htx : P tx)
    (hbody : JournalTriple env P body
      fun result tx => result.2 = true → tx.committed = false ∧ tx.Recorded env) :
    JournalComplies env tx (inTransaction beginning committing body) := by
  refine .ask_bind (hP.isOpen tx htx) fun reply tx' hmoves => ?_
  have hbegun := hmoves.growth (by intro h; cases h)
  have htx' := hP.looks tx tx' ⟨hbegun.1, hbegun.2 rfl⟩ htx
  cases reply with
  | error => exact .pure trivial
  | ok =>
    refine .bind (hbody.embed htx') fun tx result hresult => ?_
    match result, hresult with
    | .error error, _ => exact .pure trivial
    | .ok (result, false), _ => exact .pure trivial
    | .ok (result, true), hresult =>
      refine .ask_bind (hresult _ rfl rfl) fun reply _ _ => ?_
      cases reply with
      | error | ok => exact .pure trivial

/-- Outside of its action, a command without an event of its own may do what it does. -/
lemma commandFrame_isOpen : CommandFrame (JournalAllowed env) JournalMoves (IsOpen none) where
  allowed tx request haction htx := by
    cases request with
    | action => cases haction
    | commit => exact ⟨htx.2, fun _ h => by cases htx.1.symm.trans h⟩
    | _ => exact htx.2
  keeps tx request reply tx' _ hcommit htx hmoves :=
    (stable_isOpen none).grows tx tx' (hmoves.growth hcommit).1 htx

/-- **A command** keeps to the discipline if its action keeps its transaction open. -/
lemma complies_commandProgram {marshal : JournalResult → Option String} {idempotency : Idempotency}
    {action : Time → JournalAction (Int × JournalResult)} (htx : IsOpen none tx)
    (haction : ∀ now, JournalKeeps env (action now)) :
    JournalComplies env tx (commandProgram marshal idempotency action) :=
  commandFrame_isOpen.execute htx fun now tx htx => haction now _ (stable_isOpen none) tx htx

/-- The rule of consequence, without a postcondition. -/
lemma JournalTriple.drop {Q : α → JournalTx → Prop} (hx : JournalTriple env P x Q)
    : JournalTriple env P x (fun _ _ => True) :=
  hx.post fun _ _ _ => trivial

/-- After a command, the check of a replayed answer reads only. -/
lemma complies_recheckAnswer (answer : QuestionAnswer) (tx : JournalTx) :
    JournalComplies env tx ((recheckAnswer env answer).run.embed CommandRequest.action) := by
  have hget : JournalTriple env (fun _ => True) (getInvocationRuntimeQuestion env
      ⟨answer.invocation.isolationDomainId, answer.questionId⟩) (fun _ _ => True) := by
    refine .bind (.attempt (fun _ _ => trivial) fun _ _ _ _ _ => trivial) fun found => ?_
    split
    · exact .pure fun _ _ => trivial
    · exact .bind JournalTriple.check.drop fun _ => .pure fun _ _ => trivial
  have hauthorize : JournalTriple env (fun _ => True) (authorize true) (fun _ _ => True) :=
    .bind (.attempt (fun _ _ => trivial) fun _ _ _ _ _ => trivial) fun _ => .pure fun _ _ => trivial
  have hread : JournalTriple env (fun _ => True) (recheckAnswer env answer) (fun _ _ => True) :=
    .bind hget fun _ => .bind JournalTriple.demand.drop fun _ =>
      .bind JournalTriple.check.drop fun _ => .bind JournalTriple.check.drop fun _ => hauthorize
  exact (hread.embed trivial).mono fun _ _ _ => trivial

/-- A body that keeps its transaction open, for a call without an event of its own. -/
lemma complies_inTransaction_keeps {beginning committing : RepositoryError}
    (hx : JournalKeeps env x) (f : α → JournalResult) (htx : IsOpen none tx) :
    JournalComplies env tx (inTransaction beginning committing do
      let a ← x
      pure (f a, true)) := by
  refine complies_inTransaction (stable_isOpen none).idle htx ?_
  refine .bind (hx _ (stable_isOpen none)) fun a => .pure fun tx h _ => ⟨h.2, fun _ hnone => ?_⟩
  cases h.1.symm.trans hnone

lemma JournalComplies.map {β : Type}
    {x : Process (CommandRequest JournalStatement) (CommandRequest.Reply JournalStatement.Reply) α}
    (hx : JournalComplies env tx x) (f : α → β) :
    JournalComplies env tx (do
      let a ← x
      pure (f a)) :=
  .bind hx fun _ _ _ => .pure trivial

/-- A call that is made only if its arguments are valid. -/
lemma JournalComplies.guard {c : Prop} [Decidable c] {x : JournalProgram}
    {result : Except RepositoryError JournalResult} (hx : c → JournalComplies env tx x) :
    JournalComplies env tx (if c then x else pure result) := by
  split
  · rename_i hc
    exact hx hc
  · exact .pure trivial

/-- **Every call keeps to the discipline.** -/
theorem complies_program (marshal : JournalResult → Option String) (call : JournalCall) :
    JournalComplies env (call.start env) (call.program env marshal) := by
  cases call with
  | acceptInvocation _ input =>
    refine (complies_commandProgram ⟨rfl, rfl⟩ fun now => ?_).map _
    exact (keeps_acceptInvocation input now).bind fun _ => .pure _
  | acceptCancellation _ input =>
    change JournalComplies env _ (if _ then _ else _)
    split
    · exact .pure trivial
    · refine (complies_commandProgram ⟨rfl, rfl⟩ fun now => ?_).map _
      exact (keeps_acceptCancellation input now).bind fun _ => .pure _
  | advance claim next =>
    refine JournalComplies.guard fun _ => .ask_bind rfl fun now tx hmoves => ?_
    have htx := (stable_isOpen none).grows _ tx (hmoves.growth (by intro h; cases h)).1
      ⟨rfl, rfl⟩
    exact complies_inTransaction_keeps (keeps_advance claim next now) (fun _ => .done) htx
  | recordRuntimeEvent claim event =>
    change JournalComplies env _ (if _ then _ else _)
    split
    · exact .pure trivial
    · cases hpayload : validatedPayload env event with
      | none => exact .pure trivial
      | some payload =>
        refine complies_inTransaction (idle_unwritten (some
          ⟨claim.operation, event.sourceSequence, event.eventType, payload, true⟩))
          ⟨⟨congrArg (Option.map _) hpayload, rfl⟩, rfl⟩ ?_
        exact .bind (triple_recordInvocationRuntimeEvent claim
          ⟨claim.operation, event.sourceSequence, event.eventType, payload, true⟩ rfl)
          fun _ => .pure fun _ h _ => h
  | requestApproval _ effect _ request =>
    refine JournalComplies.guard fun hvalid => ?_
    simp only [Bool.and_eq_true] at hvalid
    refine complies_inTransaction (stable_isOpen _).idle ⟨rfl, rfl⟩ ?_
    exact .bind (triple_requestApproval effect request hvalid.1.1.2) fun _ => .pure fun _ h _ => h
  | resolveApproval resolution =>
    exact .guard fun _ => complies_inTransaction_keeps
      (keeps_resolveInvocationRuntimeApproval resolution false) _ ⟨rfl, rfl⟩
  | resolveApprovalCommand _ resolution =>
    refine JournalComplies.guard fun _ => (complies_commandProgram ⟨rfl, rfl⟩ fun now => ?_).map _
    exact (keeps_resolveInvocationRuntimeApproval resolution true).bind fun _ => .pure _
  | closeApproval claim effect id reason =>
    exact .guard fun _ => complies_inTransaction_keeps
      (keeps_closeApproval claim effect id reason) _ ⟨rfl, rfl⟩
  | expireApprovals isolationDomainId actor correlation limit =>
    exact .guard fun _ => complies_inTransaction_keeps
      (keeps_expireApprovals isolationDomainId actor correlation limit) _ ⟨rfl, rfl⟩
  | requestQuestion _ effect _ request =>
    refine JournalComplies.guard fun hvalid => ?_
    simp only [Bool.and_eq_true] at hvalid
    refine complies_inTransaction (stable_isOpen _).idle ⟨rfl, rfl⟩ ?_
    exact .bind (triple_requestQuestion effect request hvalid.1.1.2) fun _ => .pure fun _ h => h
  | answerQuestion answer =>
    exact .guard fun _ => complies_inTransaction_keeps
      (keeps_answerInvocationRuntimeQuestion answer) _ ⟨rfl, rfl⟩
  | answerQuestionCommand _ answer =>
    refine JournalComplies.guard fun _ =>
      .bind (complies_commandProgram ⟨rfl, rfl⟩ fun now => ?_) fun tx result _ => ?_
    · exact (keeps_answerInvocationRuntimeQuestion answer).bind fun _ => .pure _
    · cases result with
      | error => exact .pure trivial
      | ok =>
        dsimp only
        split
        · exact (complies_recheckAnswer answer tx).map _
        · exact .pure trivial
  | closeQuestion claim effect id reason =>
    exact .guard fun _ => complies_inTransaction_keeps
      (keeps_closeQuestion claim effect id reason) _ ⟨rfl, rfl⟩
  | expireQuestions isolationDomainId actor correlation limit =>
    exact .guard fun _ => complies_inTransaction_keeps
      (keeps_expireQuestions isolationDomainId actor correlation limit) _ ⟨rfl, rfl⟩

end

end DataGround
