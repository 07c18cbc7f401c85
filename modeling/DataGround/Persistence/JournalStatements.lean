import DataGround.Persistence.Journal

/-!
# What a statement of a writer does

* `JournalTx.Did`, `serve_did` -- what a request did to its transaction and to the database, case
  by case: it has read, numbered an event, locked, written, or ended the transaction;
* `JournalTx.Found`, `serveStatement_found` -- what a statement that returned has found.
-/

namespace DataGround

/-! ### What a statement did -/

/-- The event that a request inserts, if it inserts one. -/
def CommandRequest.Inserts (s : Journal) (id : ℕ) (event : InvocationEvent) :
    CommandRequest JournalStatement → Prop
  | .action (.insertEvent e) => event = e
  | .action (.insertEventLive _ e) => event = e
  | .action (.appendEvent e) => event.invocation = e.invocation ∧
      event.sequence = nextSequence (journalEvents (s.visible id)) e.invocation ∧
      event.sourceSequence = e.sourceSequence
  | _ => False

/-- The statement may write. -/
def JournalStatement.writes : JournalStatement → Bool
  | .change _ | .insert _ | .insertEvent _ | .insertEventLive _ _ | .appendEvent _ => true
  | _ => false

/-- The request may write. -/
def CommandRequest.writes : CommandRequest JournalStatement → Bool
  | .action statement => statement.writes
  | .reserve _ _ | .complete _ _ _ _ => true
  | _ => false

namespace JournalTx

variable {s s' : Journal} {id : ℕ} {tx tx' : JournalTx}

/-- **What a request did** to the transaction and to the database. -/
inductive Did (s : Journal) (id : ℕ) (tx : JournalTx) (request : CommandRequest JournalStatement) :
    JournalTx → Journal → Prop
  | looked {rows : List JournalRow} {seen : List InvocationEvent}
      (rows_visible : ∀ row ∈ rows, .row row ∈ s.visible id)
      (seen_visible : ∀ event ∈ seen, .event event ∈ s.visible id) :
      Did s id tx request { tx with known := rows ++ tx.known, seen := seen ++ tx.seen } s
  | allocated {key : ResourceKey} (request_eq : request = .action (.nextSequence key)) :
      Did s id tx request
        { tx with allocated := some (key, nextSequence (journalEvents (s.visible id)) key) } s
  | locked {keys : List ResourceKey} {rows : List JournalRow} {s' : Journal}
      (rows_visible : ∀ row ∈ rows, .row row ∈ s.visible id)
      (locked_eq : s.lock id keys = some s') :
      Did s id tx request
        { tx with locked := keys ++ tx.locked, known := rows ++ tx.known, allocated := none } s'
  | wrote {keys : List ResourceKey} {rows : List JournalRow} {w : JournalWrite} {t s' : Journal}
      (writes : request.writes = true)
      (rows_written : ∀ row ∈ rows, w = .row row)
      (inserts : ∀ event, w = .event event → request.Inserts s id event)
      (locked_eq : s.lock id keys = some t)
      (written_eq : t.write JournalWrite.conflicts id w = .written s') :
      Did s id tx request { tx with
          locked := keys ++ tx.locked, known := rows ++ tx.known, allocated := none
          written := tx.written ++ [w] } s'
  | committed (request_eq : request = .commit) :
      Did s id tx request { tx with locked := [], allocated := none, committed := true }
        (s.commit id)
  | rolledBack (request_eq : request = .commit) :
      Did s id tx request
        { tx with locked := [], known := [], seen := [], allocated := none, written := [] }
        (s.rollback id)

section

variable {α : Type} {reply : Except RepositoryError α} {value : α} {rows : List JournalRow}
  {keys : List ResourceKey} {w : JournalWrite}

lemma fail_eq_some (h : tx.fail s = some (reply, tx', s')) :
    reply = .error statementFailed ∧ tx' = tx ∧ s' = s := by
  cases h
  exact ⟨rfl, rfl, rfl⟩

lemma look_eq_some (h : tx.look s id rows value = some (reply, tx', s')) :
    (∀ row ∈ rows, .row row ∈ s.visible id) ∧ reply = .ok value ∧
      tx' = { tx with known := rows ++ tx.known } ∧ s' = s := by
  unfold look at h
  split at h
  · rename_i hrows
    cases h
    exact ⟨hrows, rfl, rfl, rfl⟩
  · cases h

lemma lock_eq_some (h : tx.lock s id keys rows value = some (reply, tx', s')) :
    (∀ row ∈ rows, .row row ∈ s.visible id) ∧ s.lock id keys = some s' ∧ reply = .ok value ∧
      tx' = { tx with locked := keys ++ tx.locked, known := rows ++ tx.known, allocated := none } := by
  unfold lock at h
  split at h
  · rename_i hrows
    obtain ⟨_, ht, heq⟩ := Option.map_eq_some_iff.mp h
    cases heq
    exact ⟨hrows.1, ht, rfl, rfl⟩
  · cases h

lemma write_eq_some (h : tx.write s id keys rows w value = some (reply, tx', s')) :
    (reply = .error statementFailed ∧ tx' = tx ∧ s' = s) ∨
      ∃ t, s.lock id keys = some t ∧ t.write JournalWrite.conflicts id w = .written s' ∧
        reply = .ok value ∧ tx' = { tx with
          locked := keys ++ tx.locked, known := rows ++ tx.known, allocated := none
          written := tx.written ++ [w] } := by
  unfold write at h
  split at h
  · cases h
  · rename_i t ht
    split at h
    · exact .inl (fail_eq_some h)
    · cases h
    · rename_i hwritten
      cases h
      exact .inr ⟨t, ht, hwritten, rfl, rfl⟩

namespace Did

variable {request : CommandRequest JournalStatement}

lemma nothing : Did s id tx request tx s :=
  show Did s id tx request { tx with known := [] ++ tx.known, seen := [] ++ tx.seen } s from
    .looked (fun _ h => by cases h) (fun _ h => by cases h)

lemma of_fail (h : tx.fail s = some (reply, tx', s')) : Did s id tx request tx' s' := by
  obtain ⟨-, rfl, rfl⟩ := fail_eq_some h
  exact nothing

lemma of_look (h : tx.look s id rows value = some (reply, tx', s')) :
    Did s id tx request tx' s' := by
  obtain ⟨hrows, -, rfl, rfl⟩ := look_eq_some h
  exact show Did s' id tx request
      { tx with known := rows ++ tx.known, seen := [] ++ tx.seen } s' from
    .looked hrows (fun _ h => by cases h)

lemma of_miss {key : JournalTable × ResourceKey}
    (h : tx.miss s id key value = some (reply, tx', s')) : Did s id tx request tx' s' := by
  unfold miss at h
  split at h
  · exact of_look h
  · cases h

lemma of_lock (h : tx.lock s id keys rows value = some (reply, tx', s')) :
    Did s id tx request tx' s' := by
  obtain ⟨hrows, hlock, -, rfl⟩ := lock_eq_some h
  exact .locked hrows hlock

lemma of_write (hwrites : request.writes = true) (hrows : ∀ row ∈ rows, w = .row row)
    (hinserts : ∀ event, w = .event event → request.Inserts s id event)
    (h : tx.write s id keys rows w value = some (reply, tx', s')) :
    Did s id tx request tx' s' := by
  obtain ⟨-, rfl, rfl⟩ | ⟨_, hlock, hwritten, -, rfl⟩ := write_eq_some h
  · exact nothing
  · exact .wrote hwrites hrows hinserts hlock hwritten

/-- A write of something that is not part of the log. -/
lemma of_change {what : String} (hwrites : request.writes = true)
    (h : tx.write s id [] [] (.other what) value = some (reply, tx', s')) :
    Did s id tx request tx' s' :=
  of_write hwrites (fun _ h => by cases h) (fun _ h => by cases h) h

lemma of_runtimeEvent {invocation : ResourceKey} {sourceSequence : ℕ}
    {reply : Except RepositoryError (Option InvocationEvent)}
    (h : tx.runtimeEvent s id invocation sourceSequence = some (reply, tx', s')) :
    Did s id tx request tx' s' := by
  cases h
  refine show Did s id tx request { tx with known := [] ++ tx.known, seen := _ ++ tx.seen } s from
    .looked (fun _ h => by cases h) fun event hevent => ?_
  have hfound := List.mem_of_find?_eq_some (Option.mem_toList.mp hevent)
  obtain ⟨write, hwrite, heq⟩ := List.mem_filterMap.mp hfound
  cases write with
  | event =>
    cases heq
    exact hwrite
  | row | other => cases heq

end Did

end

variable {answer : JournalAnswer}

lemma serveStatement_did {statement : JournalStatement} {reply : statement.Reply}
    (h : tx.serveStatement s id statement answer = some (reply, tx', s')) :
    Did s id tx (.action statement) tx' s' := by
  unfold serveStatement at h
  split at h
  all_goals try first
    | exact Did.of_fail h
    | exact Did.of_look h
    | exact Did.of_miss h
    | exact Did.of_lock h
    | exact Did.of_change rfl h
    | exact Did.of_runtimeEvent h
  case h_9 =>
    exact Did.of_write rfl (fun _ hrow => by rw [List.mem_singleton.mp hrow])
      (fun _ h => by cases h) h
  case h_16 =>
    split at h
    · exact Did.of_lock h
    · cases h
  case h_17 =>
    split at h
    · exact Did.of_look h
    · cases h
  case h_19 =>
    split at h
    · exact Did.of_look h
    · cases h
  case h_26 =>
    cases h
    exact .allocated rfl
  case h_27 => exact Did.of_write rfl (fun _ h => by cases h) (fun _ h => by cases h; rfl) h
  case h_28 => exact Did.of_write rfl (fun _ h => by cases h) (fun _ h => by cases h; rfl) h
  case h_30 =>
    exact Did.of_write rfl (fun _ h => by cases h) (fun _ h => by cases h; exact ⟨rfl, rfl, rfl⟩) h
  case h_31 => cases h

lemma serve_did {request : CommandRequest JournalStatement}
    {reply : request.Reply JournalStatement.Reply}
    (h : tx.serve s id request answer = some (reply, tx', s')) : Did s id tx request tx' s' := by
  cases request with
  | action => exact serveStatement_did h
  | begin =>
    cases answer with
    | executed =>
      cases h
      exact .nothing
    | failed => exact Did.of_fail h
    | _ => cases h
  | now =>
    cases answer with
    | time =>
      cases h
      exact .nothing
    | _ => cases h
  | reserve =>
    cases answer with
    | flag value =>
      cases value with
      | true => exact Did.of_change rfl h
      | false => exact Did.of_look h
    | failed => exact Did.of_fail h
    | _ => cases h
  | readRecord =>
    cases answer with
    | record => exact Did.of_look h
    | failed => exact Did.of_fail h
    | _ => cases h
  | complete =>
    cases answer with
    | executed => exact Did.of_change rfl h
    | failed => exact Did.of_fail h
    | _ => cases h
  | commit =>
    cases answer with
    | executed | lost =>
      cases h
      exact .committed rfl
    | failed =>
      cases h
      exact .rolledBack rfl
    | _ => cases h

/-! ### What a statement that returned found -/

/-- What a transaction has once a statement has returned. -/
def Found (tx : JournalTx) : (statement : JournalStatement) → statement.Value → Prop
  | .insert row, _ => row ∈ tx.known ∧ row.locks ⊆ tx.locked
  | .lockInvocation key, found => ∀ invocation, found = some invocation → key ∈ tx.locked
  | .lockClaim claim _, found => ∀ invocationId, found = some invocationId →
      ⟨claim.key.isolationDomainId, invocationId⟩ ∈ tx.locked ∧
        .operation claim.operation invocationId ∈ tx.known
  | .lockAttempt claim _, live => live = true → .operation claim.operation claim.resourceId ∈ tx.known
  | .lockDue _ isolationDomainId _, ids => ids.map (⟨isolationDomainId, ·⟩) ⊆ tx.locked
  | .dueInteractions kind isolationDomainId _ invocations, ids => ∀ i ∈ ids, ∃ row ∈ tx.known,
      row.isDue kind isolationDomainId invocations = true ∧ row.key.2.id = i
  | .readTarget key, found => ∀ target, found = some target →
      .operation key target.invocationId ∈ tx.known
  | .readApproval key, found => ∀ approval, found = some approval →
      .approval key approval.toApprovalColumns ∈ tx.known
  | .readQuestion key, found => ∀ question, found = some question →
      .question key question.toQuestionColumns ∈ tx.known
  | .runtimeEvent key sourceSequence, found => ∀ event, found = some event →
      event ∈ tx.seen ∧ event.invocation = key ∧ event.sourceSequence = some sourceSequence
  | .nextSequence key, sequence => tx.allocated = some (key, sequence)
  | .insertEventLive _ event, affected => affected = true → .event event ∈ tx.written
  | _, _ => True

section

variable {α : Type} {value value' : α} {rows : List JournalRow} {keys : List ResourceKey}
  {w : JournalWrite}

lemma look_ok (h : tx.look s id rows value = some (.ok value', tx', s')) :
    value' = value ∧ rows ⊆ tx'.known := by
  obtain ⟨-, hreply, rfl, -⟩ := look_eq_some h
  cases hreply
  exact ⟨rfl, List.subset_append_left _ _⟩

lemma miss_ok {key : JournalTable × ResourceKey}
    (h : tx.miss s id key value = some (.ok value', tx', s')) : value' = value := by
  unfold miss at h
  split at h
  · exact (look_ok h).1
  · cases h

lemma lock_ok (h : tx.lock s id keys rows value = some (.ok value', tx', s')) :
    value' = value ∧ keys ⊆ tx'.locked ∧ rows ⊆ tx'.known := by
  obtain ⟨-, -, hreply, rfl⟩ := lock_eq_some h
  cases hreply
  exact ⟨rfl, List.subset_append_left _ _, List.subset_append_left _ _⟩

lemma write_ok (h : tx.write s id keys rows w value = some (.ok value', tx', s')) :
    keys ⊆ tx'.locked ∧ rows ⊆ tx'.known ∧ w ∈ tx'.written := by
  obtain ⟨hreply, -⟩ | ⟨_, -, -, -, rfl⟩ := write_eq_some h
  · cases hreply
  · exact ⟨List.subset_append_left _ _, List.subset_append_left _ _,
      List.mem_append_right _ List.mem_cons_self⟩

end

/-- **What a statement that returned has found.** -/
lemma serveStatement_found {statement : JournalStatement} {value : statement.Value}
    (h : tx.serveStatement s id statement answer = some (.ok value, tx', s')) :
    tx'.Found statement value := by
  unfold serveStatement at h
  split at h
  all_goals try exact trivial
  case h_1 => cases (fail_eq_some h).1
  case h_9 => exact ⟨(write_ok h).2.1 List.mem_cons_self, (write_ok h).1⟩
  case h_10 => exact fun _ _ => (lock_ok h).2.1 List.mem_cons_self
  case h_11 => exact fun _ hsome => absurd (hsome.symm.trans (miss_ok h)) nofun
  case h_12 =>
    obtain ⟨rfl, hlocked, hknown⟩ := lock_ok h
    rintro _ ⟨⟩
    exact ⟨hlocked List.mem_cons_self, hknown List.mem_cons_self⟩
  case h_13 => exact fun _ hsome => absurd (hsome.symm.trans (look_ok h).1) nofun
  case h_14 => exact fun _ => (look_ok h).2 List.mem_cons_self
  case h_15 => exact fun htrue => absurd (htrue.symm.trans (look_ok h).1) nofun
  case h_16 =>
    split at h
    · obtain ⟨rfl, hlocked, -⟩ := lock_ok h
      exact hlocked
    · cases h
  case h_17 =>
    split at h
    · rename_i hdue
      obtain ⟨rfl, hknown⟩ := look_ok h
      intro i hi
      obtain ⟨row, hrow, rfl⟩ := List.mem_map.mp hi
      exact ⟨row, hknown hrow, List.all_eq_true.mp hdue.2 row hrow, rfl⟩
    · cases h
  case h_19 =>
    split at h
    · obtain ⟨rfl, hknown⟩ := look_ok h
      rintro _ ⟨⟩
      exact hknown List.mem_cons_self
    · cases h
  case h_20 => exact fun _ hsome => absurd (hsome.symm.trans (look_ok h).1) nofun
  case h_21 =>
    obtain ⟨rfl, hknown⟩ := look_ok h
    rintro _ ⟨⟩
    exact hknown List.mem_cons_self
  case h_22 => exact fun _ hsome => absurd (hsome.symm.trans (miss_ok h)) nofun
  case h_23 =>
    obtain ⟨rfl, hknown⟩ := look_ok h
    rintro _ ⟨⟩
    exact hknown List.mem_cons_self
  case h_24 => exact fun _ hsome => absurd (hsome.symm.trans (miss_ok h)) nofun
  case h_25 =>
    simp only [runtimeEvent, Option.some.injEq, Prod.mk.injEq, Except.ok.injEq] at h
    obtain ⟨rfl, rfl, -⟩ := h
    intro event hfound
    have hevent := List.find?_some hfound
    simp only [Bool.and_eq_true, decide_eq_true_eq] at hevent
    exact ⟨List.mem_append_left _ (Option.mem_toList.mpr hfound), hevent⟩
  case h_26 =>
    cases h
    rfl
  case h_28 => exact fun _ => (write_ok h).2.2
  case h_29 => exact fun htrue => absurd (htrue.symm.trans (look_ok h).1) nofun
  case h_31 => cases h

lemma clock_ok {now : Time} (h : tx.serveStatement s id .clock answer = some (.ok now, tx', s'))
    : tx' = tx := by
  cases answer with
  | time now =>
    obtain ⟨-, -, rfl, -⟩ := look_eq_some (show tx.look s id [] now = some _ from h)
    rfl
  | _ => cases h

end JournalTx

end DataGround
