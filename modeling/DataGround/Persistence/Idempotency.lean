import DataGround.Persistence.Execute

/-!
# What concurrent calls of one command leave behind

The invariant, in `Commands.Sound` and `CommandTx.Agrees`: an uncommitted index entry belongs to exactly
one open transaction, and to a key without a record; every record is that of one committed command; a
record that a call has read is still there.  With what each call complies with (`complies_execute`), this
gives `command_once`: whatever the interleaving, the calls that share a key commit the effects of
at most one action, and return its response and nothing else.
-/

namespace DataGround

variable {ι : Type} {ρ : ι → Type} {ν : Type} {marshal : ν → Option String}

/-- The key of the row that the transaction has inserted. -/
def CommandTx.reservedKey (tx : CommandTx ρ ν) : Option IdempotencyKey :=
  tx.reservation.map Prod.fst

/-! ### The invariant -/

/-- The calls at the database. -/
abbrev CommandSystem (ρ : ι → Type) (ν : Type) :=
  Server.State (Commands ρ) (CommandTx ρ ν) (CommandRequest ι) (CommandRequest.Reply ρ)
    (Except RepositoryError CommandResult)

/-- One call at the database. -/
abbrev CommandSession (ρ : ι → Type) (ν : Type) :=
  Server.Session (CommandTx ρ ν) (CommandRequest ι) (CommandRequest.Reply ρ)
    (Except RepositoryError CommandResult)

/-- Index entries belong to keys without a record, and the records are those of the committed commands,
one for each key. -/
structure Commands.Sound (s : Commands ρ) : Prop where
  fresh : ∀ key call, s.pending key = some call → s.records.lookup key = none
  records : ∀ key record, s.records.lookup key = some record ↔
    ∃ commit ∈ s.commits, commit.key = key ∧ commit.record = record
  keys : (s.commits.map CommandCommit.key).Nodup

/-- **A call agrees with the database**: its index entry is that of its open transaction; its command is
committed if its transaction is, and then its action was performed; and a record that it has read is
there. -/
structure CommandTx.Agrees (marshal : ν → Option String) (tx : CommandTx ρ ν) (s : Commands ρ)
    (call : ℕ) (isOpen : Bool) : Prop where
  pending : ∀ key, s.pending key = some call ↔
    isOpen = true ∧ tx.committed = false ∧ tx.reservedKey = some key
  performed : ∀ commit ∈ s.commits, commit.call = call → tx.committed = true ∧
    tx.reservation = some (commit.key, commit.record) ∧ tx.statements = commit.statements ∧
    ∃ status body, tx.Performed marshal status body
  committed : ∀ reservation, tx.committed = true → tx.reservation = some reservation →
    ∃ commit ∈ s.commits, (commit.key, commit.record) = reservation
  found : ∀ record, tx.found = some record →
    s.records.lookup tx.idempotency.toIdempotencyKey = some record

/-- What a call has changed, as far as the other ones can tell: nothing but records are new. -/
structure Commands.Spares (call : ℕ) (s s' : Commands ρ) : Prop where
  pending : ∀ key other, other ≠ call → (s'.pending key = some other ↔ s.pending key = some other)
  commits : ∀ commit, commit.call ≠ call → commit ∈ s'.commits → commit ∈ s.commits
  kept : s.commits ⊆ s'.commits
  records : ∀ key record, s.records.lookup key = some record → s'.records.lookup key = some record

lemma CommandTx.Agrees.spared {s s' : Commands ρ} {call other : ℕ} (hspares : s.Spares call s')
    (tx : CommandTx ρ ν) (isOpen : Bool) (hne : other ≠ call) (h : tx.Agrees marshal s other isOpen) :
    tx.Agrees marshal s' other isOpen where
  pending key := (hspares.pending key other hne).trans (h.pending key)
  performed commit hcommit hcall :=
    h.performed commit (hspares.commits commit (hcall ▸ hne) hcommit) hcall
  committed reservation hcommitted hreservation := by
    obtain ⟨commit, hcommit, hsame⟩ := h.committed reservation hcommitted hreservation
    exact ⟨commit, hspares.kept hcommit, hsame⟩
  found record hfound := hspares.records _ record (h.found record hfound)

/-- A transaction that sends a statement is not committed. -/
lemma CommandAllowed.uncommitted {tx : CommandTx ρ ν} {request : CommandRequest ι}
    (h : CommandAllowed marshal tx request) : tx.committed = false := by
  cases request with
  | begin | now => exact h.2.2
  | reserve | readRecord => exact h.1.2.2
  | action | complete =>
    obtain ⟨_, hacting⟩ := h
    exact hacting.2.2
  | commit => exact h.1

namespace Commands

variable {s : Commands ρ} {call : ℕ} {tx : CommandTx ρ ν}

/-- Only entries of the index are released. -/
lemma release_eq : s.release call tx = { s with pending := (s.release call tx).pending } := by
  unfold release
  split
  · rfl
  · split <;> rfl

/-- The entry of a call is released, every other one stays. -/
lemma pending_release {key : IdempotencyKey} {other : ℕ} :
    (s.release call tx).pending key = some other ↔
      s.pending key = some other ∧ ¬(tx.reservedKey = some key ∧ other = call) := by
  unfold release CommandTx.reservedKey
  split
  · rename_i hnone
    simp [hnone]
  · rename_i k record hsome
    rw [hsome, Option.map_some, Option.some.injEq]
    split
    · rename_i hpending
      by_cases hk : k = key
      · subst hk
        simp [Function.update_self, hpending, eq_comm]
      · simp [Function.update_of_ne (Ne.symm hk), hk]
    · rename_i hpending
      constructor
      · rintro h
        refine ⟨h, ?_⟩
        rintro ⟨rfl, rfl⟩
        exact hpending h
      · exact fun h => h.1

end Commands

section

variable {s : Commands ρ} {call : ℕ} {tx tx' : CommandTx ρ ν}

/-- A statement that moves neither records nor index entries. -/
lemma CommandTx.Agrees.inside (h : tx.Agrees marshal s call true) (htx : tx.committed = false)
    (htx' : tx'.committed = false) (hkey : tx'.reservedKey = tx.reservedKey)
    (hfound : ∀ record, tx'.found = some record →
      s.records.lookup tx'.idempotency.toIdempotencyKey = some record) :
    tx'.Agrees marshal s call true where
  pending key := by rw [h.pending, hkey, htx, htx']
  performed commit hcommit hcall := by
    cases htx.symm.trans (h.performed commit hcommit hcall).1
  committed reservation hcommitted := by cases htx'.symm.trans hcommitted
  found := hfound

/-- A transaction is gone, and with it its row. -/
lemma CommandTx.Agrees.released (h : tx.Agrees marshal s call true) (hs : s.Sound) {isOpen : Bool}
    (hgone : ∀ key, ¬(isOpen = true ∧ tx'.committed = false ∧ tx'.reservedKey = some key))
    (hperformed : ∀ commit ∈ s.commits, commit.call = call → tx'.committed = true ∧
      tx'.reservation = some (commit.key, commit.record) ∧ tx'.statements = commit.statements ∧
      ∃ status body, tx'.Performed marshal status body)
    (hcommitted : ∀ reservation, tx'.committed = true → tx'.reservation = some reservation →
      ∃ commit ∈ s.commits, (commit.key, commit.record) = reservation)
    (hfound : tx'.found = tx.found) (hidempotency : tx'.idempotency = tx.idempotency) :
    Server.Keeps Commands.Sound (CommandTx.Agrees marshal) s (s.release call tx) call tx' isOpen := by
  rw [Commands.release_eq]
  refine ⟨⟨fun key other hpending => ?_, hs.records, hs.keys⟩,
    ⟨fun key => ?_, hperformed, hcommitted, fun record hrecord => ?_⟩,
    fun other => CommandTx.Agrees.spared ⟨fun key other hne => ?_, fun _ _ hcommit => hcommit,
      fun _ hcommit => hcommit, fun _ _ hrecord => hrecord⟩⟩
  · exact hs.fresh key other (Commands.pending_release.mp hpending).1
  · refine ⟨fun hpending => ?_, fun hholds => (hgone key hholds).elim⟩
    obtain ⟨hpending, hkept⟩ := Commands.pending_release.mp hpending
    exact (hkept ⟨((h.pending key).mp hpending).2.2, rfl⟩).elim
  · rw [hidempotency]
    exact h.found record (hfound ▸ hrecord)
  · dsimp only
    rw [Commands.pending_release]
    exact ⟨fun hpending => hpending.1, fun hpending => ⟨hpending, fun hsame => hne hsame.2⟩⟩

lemma CommandTx.Agrees.reserved (h : tx.Agrees marshal s call true) (hs : s.Sound) (htx : tx.Blank)
    {key : IdempotencyKey} {record : IdempotencyRecord} (hfresh : s.records.lookup key = none)
    (hfree : s.pending key = none) :
    Server.Keeps Commands.Sound (CommandTx.Agrees marshal) s
      { s with pending := Function.update s.pending key (some call) } call
      { tx with reservation := some (key, record) } true := by
  have hnone : ∀ key, s.pending key ≠ some call := by
    intro key hpending
    have hkey := ((h.pending key).mp hpending).2.2
    simp [CommandTx.reservedKey, htx.1] at hkey
  have hpending : ∀ k other, Function.update s.pending key (some call) k = some other ↔
      (k = key ∧ other = call) ∨ s.pending k = some other := by
    intro k other
    by_cases hk : k = key
    · subst hk
      simp [hfree, eq_comm]
    · simp [hk]
  refine ⟨⟨fun k other hk => ?_, hs.records, hs.keys⟩, ⟨fun k => ?_, fun commit hcommit hcall => ?_,
    fun _ hcommitted => ?_, h.found⟩, fun other => CommandTx.Agrees.spared ⟨fun k other hne => ?_,
      fun _ _ hcommit => hcommit, fun _ hcommit => hcommit, fun _ _ hrecord => hrecord⟩⟩
  · rcases (hpending k other).mp hk with ⟨rfl, -⟩ | hold
    · exact hfresh
    · exact hs.fresh k other hold
  · dsimp only
    rw [hpending]
    simp [hnone k, CommandTx.reservedKey, htx.2.2, eq_comm]
  · cases htx.2.2.symm.trans (h.performed commit hcommit hcall).1
  · cases htx.2.2.symm.trans hcommitted
  · dsimp only
    rw [hpending]
    simp [hne]

/-- **A command is committed.**  No other one has its key. -/
lemma CommandTx.Agrees.commits (h : tx.Agrees marshal s call true) (hs : s.Sound)
    (htx : tx.committed = false) {key : IdempotencyKey} {record : IdempotencyRecord} {status : Int}
    {body : String} (hreservation : tx.reservation = some (key, record))
    (hperformed : tx.Performed marshal status body) :
    Server.Keeps Commands.Sound (CommandTx.Agrees marshal) s (s.commit call tx) call
      { tx with committed := true } true := by
  have hkey : tx.reservedKey = some key := by simp [CommandTx.reservedKey, hreservation]
  have hown : s.pending key = some call := (h.pending key).mpr ⟨rfl, htx, hkey⟩
  have hnone := hs.fresh key call hown
  have hcommit : s.commit call tx = ⟨s.records.insert key record, Function.update s.pending key none,
      s.commits ++ [⟨call, key, record, tx.statements⟩]⟩ := by
    simp only [Commands.commit, hreservation]
  have hnew : ∀ commit ∈ s.commits, commit.key ≠ key := by
    rintro commit hmem rfl
    have := (hs.records commit.key commit.record).mpr ⟨commit, hmem, rfl, rfl⟩
    cases hnone.symm.trans this
  -- Records that were there stay as they are.
  have hkeeps : ∀ k r, s.records.lookup k = some r →
      (s.records.insert key record).lookup k = some r :=
    fun _ _ => Table.lookup_insert_of_fresh (AList.lookup_eq_none.mp hnone)
  have hpending : ∀ k other, Function.update s.pending key none k = some other ↔
      k ≠ key ∧ s.pending k = some other := by
    intro k other
    by_cases hk : k = key
    · simp [hk]
    · simp [hk]
  rw [hcommit]
  refine ⟨⟨fun k other hk => ?_, fun k r => ?_, ?_⟩, ⟨fun k => ?_, fun commit hmem hcall => ?_,
    fun reservation _ hreservation' => ?_, fun r hfound => hkeeps _ r (h.found r hfound)⟩,
    fun other => CommandTx.Agrees.spared ⟨fun k other hne => ?_, fun commit hcall hmem => ?_,
      List.subset_append_left _ _, hkeeps⟩⟩
  · obtain ⟨hne, hold⟩ := (hpending k other).mp hk
    exact (AList.lookup_insert_ne hne).trans (hs.fresh k other hold)
  · dsimp only
    by_cases hk : k = key
    · subst hk
      rw [AList.lookup_insert, Option.some.injEq]
      constructor
      · rintro rfl
        exact ⟨_, List.mem_append_right _ (List.mem_singleton_self _), rfl, rfl⟩
      · rintro ⟨commit, hmem, hcommitKey, rfl⟩
        rcases List.mem_append.mp hmem with hmem | hmem
        · exact (hnew commit hmem hcommitKey).elim
        · rw [List.mem_singleton.mp hmem]
    · rw [AList.lookup_insert_ne hk, hs.records]
      constructor
      · rintro ⟨commit, hmem, hrest⟩
        exact ⟨commit, List.mem_append_left _ hmem, hrest⟩
      · rintro ⟨commit, hmem, hcommitKey, hrest⟩
        rcases List.mem_append.mp hmem with hmem | hmem
        · exact ⟨commit, hmem, hcommitKey, hrest⟩
        · rw [List.mem_singleton.mp hmem] at hcommitKey
          exact (hk hcommitKey.symm).elim
  · rw [List.map_append, List.nodup_append]
    refine ⟨hs.keys, List.nodup_singleton _, ?_⟩
    rintro k hk k' hk' rfl
    obtain ⟨commit, hmem, rfl⟩ := List.mem_map.mp hk
    exact hnew commit hmem (List.mem_singleton.mp hk')
  · dsimp only
    rw [hpending, h.pending, hkey, Option.some.injEq]
    simp only [Bool.true_eq_false, false_and, and_false, iff_false]
    rintro ⟨hne, -, -, rfl⟩
    exact hne rfl
  · rcases List.mem_append.mp hmem with hmem | hmem
    · cases htx.symm.trans (h.performed commit hmem hcall).1
    · rw [List.mem_singleton.mp hmem]
      exact ⟨rfl, hreservation, rfl, status, body, hperformed⟩
  · refine ⟨_, List.mem_append_right _ (List.mem_singleton_self _), ?_⟩
    exact Option.some.inj (hreservation.symm.trans hreservation')
  · dsimp only
    rw [hpending]
    refine ⟨fun hold => hold.2, fun hold => ⟨?_, hold⟩⟩
    rintro rfl
    exact hne (Option.some.inj (hold.symm.trans hown))
  · refine (List.mem_append.mp hmem).resolve_right fun hlast => hcall ?_
    rw [List.mem_singleton.mp hlast]

end

/-- **What `execute` sends keeps the database sound**, and the calls in agreement with it. -/
lemma commands_discipline : Server.Discipline Commands.Sound (CommandTx.Agrees marshal)
    (Commands.server ρ marshal) (CommandAllowed marshal) where
  serve s call tx request answer reply tx' s' hs h hallowed hserved := by
    have htx := hallowed.uncommitted
    have hsame : ∀ {tx' : CommandTx ρ ν}, tx'.Agrees marshal s call true →
        Server.Keeps Commands.Sound (CommandTx.Agrees marshal) s s call tx' true :=
      fun h' => ⟨hs, h', fun _ _ _ _ hother => hother⟩
    cases commandServed hserved with
    | began | taken | unread | incomplete => exact hsame h
    | timed | acted => exact hsame (h.inside htx htx rfl h.found)
    | found hrecord =>
      refine hsame (h.inside htx htx rfl fun record' hrecord' => ?_)
      cases hrecord'
      exact hallowed.2 ▸ hrecord
    | completed hreservation =>
      exact hsame (h.inside htx htx (by simp [CommandTx.reservedKey, hreservation]) h.found)
    | reserved hfresh hfree => exact h.reserved hs hallowed.1 hfresh hfree
    | committed =>
      rcases hallowed.2 with hnone | ⟨status, body, value, hruns, hbody, hreservation⟩
      · -- Nothing was written.
        have hcommit : s.commit call tx = s.release call tx := by
          simp only [Commands.commit, Commands.release, hnone]
        rw [hcommit]
        refine h.released hs (fun key hholds => by cases hholds.2.1) (fun commit hcommit hcall => ?_)
          (fun reservation _ hreservation => ?_) rfl rfl
        · cases htx.symm.trans (h.performed commit hcommit hcall).1
        · cases hnone.symm.trans hreservation
      · exact h.commits hs htx hreservation ⟨value, hruns, hbody, hreservation⟩
    | rolledBack =>
      refine h.released hs (fun key hholds => by cases hholds.2.2) (fun commit hcommit hcall => ?_)
        (fun reservation hcommitted => ?_) rfl rfl
      · cases htx.symm.trans (h.performed commit hcommit hcall).1
      · cases htx.symm.trans hcommitted
  release s call tx hs h :=
    h.released hs (fun key hholds => by cases hholds.1) h.performed h.committed rfl rfl

/-- The system of calls is consistent. -/
abbrev CommandSystem.Consistent (marshal : ν → Option String) (sys : CommandSystem ρ ν) : Prop :=
  Server.Consistent Commands.Sound (CommandTx.Agrees marshal) (Commands.server ρ marshal)
    (CommandAllowed marshal) (CommandReturns marshal) sys

/-- **In every run of any calls the system stays consistent.** -/
lemma CommandSystem.run_consistent {sys : CommandSystem ρ ν}
    {events : List (Server.Event (CommandAnswer ρ) (Idempotency × CommandAction ρ ν))}
    (h : Run.run (Commands.server ρ marshal).step (Server.initial Commands.empty) events =
      some sys) : sys.Consistent marshal := by
  have hcomplies : ∀ input, ((Commands.server ρ marshal).start input).2.Complies
      (CommandAllowed marshal) (Server.Moves Commands.Sound (CommandTx.Agrees marshal)
        (Commands.server ρ marshal).serve) (CommandReturns marshal)
      ((Commands.server ρ marshal).start input).1 := by
    refine fun input => (complies_execute ⟨rfl, rfl, rfl⟩).of_moves fun tx request reply tx' _ h => ?_
    obtain ⟨s, call, answer, s', -, -, hserved⟩ := h
    exact ⟨s, call, answer, s', hserved⟩
  refine commands_discipline.of_run hcomplies (s := Commands.empty)
    ⟨fun _ _ hpending => (by cases hpending), fun key record => ?_, List.nodup_nil⟩
    (fun call input => ⟨fun key => ?_, fun _ hcommit => (by cases hcommit),
      fun _ hcommitted => (by cases hcommitted), fun _ hfound => (by cases hfound)⟩) h
  · simp [Commands.empty]
  · simp [Commands.empty, Commands.server, CommandTx.reservedKey]

variable {idempotency : Idempotency}

/-! ### The theorem -/

/-- A call with this key and digest has returned the response. -/
def CommandSystem.Returned (sys : CommandSystem ρ ν) (idempotency : Idempotency)
    (response : CommandResult) : Prop :=
  ∃ call session, sys.sessions call = some session ∧ session.tx.idempotency = idempotency ∧
    session.rest = .done (.ok response)

/-- The action of the call has failed. -/
def CommandTx.ActionFailed (tx : CommandTx ρ ν) : Prop :=
  ∃ error, (tx.action tx.now).Runs tx.statements (.done (.error error))

namespace CommandSystem.Consistent

variable {sys : CommandSystem ρ ν}

/-- A committed command is that of a call whose action was performed. -/
lemma performed (hsys : sys.Consistent marshal) {commit : CommandCommit ρ}
    (hcommit : commit ∈ sys.shared.commits) :
    ∃ session, sys.sessions commit.call = some session ∧
      session.tx.reservation = some (commit.key, commit.record) ∧
      session.tx.statements = commit.statements ∧
      ∃ status body, session.tx.Performed marshal status body := by
  cases hsession : sys.sessions commit.call with
  | none =>
    have hfresh := hsys.fresh commit.call (⟨⟨"", "", "", ""⟩, ""⟩, fun _ => pure (.error .noRows))
      hsession
    cases (hfresh.performed commit hcommit rfl).1
  | some session =>
    exact ⟨session, rfl, ((hsys.sessions _ session hsession).performed commit hcommit rfl).2⟩

/-- What a call returns is what the command of its key has left, under its own digest. -/
lemma returned (hsys : sys.Consistent marshal) {response : CommandResult}
    (h : sys.Returned idempotency response) :
    ∃ commit ∈ sys.shared.commits, commit.key = idempotency.toIdempotencyKey ∧
      commit.record.requestDigest = idempotency.requestDigest ∧
      commit.record.responseStatus = some response.status ∧
      commit.record.responseBody = some response.body := by
  obtain ⟨call, session, hsession, rfl, hrest⟩ := h
  have hreturns : CommandReturns marshal session.tx (.ok response) := by
    have hcomplies := hsys.complying call session hsession
    rw [hrest] at hcomplies
    exact hcomplies
  obtain ⟨hcommitted, _, _, hbody, hreservation⟩ | ⟨record, hfound, hdigest, hstatus, hbody⟩ :=
    hreturns response rfl
  · obtain ⟨commit, hcommit, hsame⟩ :=
      (hsys.sessions call session hsession).committed _ hcommitted hreservation
    obtain ⟨hkey, hrecord⟩ := Prod.mk.inj hsame
    refine ⟨commit, hcommit, hkey, ?_⟩
    rw [hrecord]
    exact ⟨rfl, rfl, rfl⟩
  · have hlookup := (hsys.sessions call session hsession).found record hfound
    obtain ⟨commit, hcommit, hkey, rfl⟩ := (hsys.sound.records _ _).mp hlookup
    exact ⟨commit, hcommit, hkey, hdigest, hstatus, hbody⟩

/-- A call whose action has failed is not committed. -/
lemma failed (hsys : sys.Consistent marshal) {call : ℕ} {session : CommandSession ρ ν}
    (hsession : sys.sessions call = some session) (hfailed : session.tx.ActionFailed)
    {commit : CommandCommit ρ} (hcommit : commit ∈ sys.shared.commits) : commit.call ≠ call := by
  rintro rfl
  obtain ⟨_, hsession', -, -, _, _, _, hruns, -⟩ := hsys.performed hcommit
  cases hsession.symm.trans hsession'
  obtain ⟨_, hfailed⟩ := hfailed
  cases hruns.unique hfailed

end CommandSystem.Consistent

/-- **Commands run once.**  After every interleaving of the statements, failures, lost commits and
ends of any calls of `execute`, for the calls that share a key:

* at most one of them has committed its action, with all of its statements, and the record is that
  call's, with the status that its action returned and the body its value is encoded as;
* every call with its digest that returned a response returned that status and that body;
* no call with another digest returned a response, and no call did without such a commit;
* a call whose action failed is not committed and left no record; what record there is is that of
  another call.  Once it has ended, it also holds nobody up at the index. -/
theorem command_once (marshal : ν → Option String)
    (events : List (Server.Event (CommandAnswer ρ) (Idempotency × CommandAction ρ ν)))
    (sys : CommandSystem ρ ν)
    (h : Run.run (Commands.server ρ marshal).step (Server.initial Commands.empty) events =
      some sys) (key : IdempotencyKey) :
    ((sys.shared.commits.filter fun commit => commit.key = key).length ≤ 1 ∧
      ∀ commit ∈ sys.shared.commits, commit.key = key → ∃ session status value body,
        sys.sessions commit.call = some session ∧
        session.tx.idempotency.toIdempotencyKey = key ∧
        session.tx.idempotency.requestDigest = commit.record.requestDigest ∧
        (session.tx.action session.tx.now).Runs commit.statements (.done (.ok (status, value))) ∧
        marshal value = some body ∧ commit.record.responseStatus = some status ∧
        commit.record.responseBody = some body ∧
        sys.shared.records.lookup key = some commit.record) ∧
    (∀ commit ∈ sys.shared.commits, commit.key = key → ∀ idempotency response,
      idempotency.toIdempotencyKey = key → sys.Returned idempotency response →
      idempotency.requestDigest = commit.record.requestDigest →
      commit.record.responseStatus = some response.status ∧
        commit.record.responseBody = some response.body) ∧
    (∀ idempotency response, idempotency.toIdempotencyKey = key →
      (∀ commit ∈ sys.shared.commits, commit.key = key →
        idempotency.requestDigest ≠ commit.record.requestDigest) →
      ¬sys.Returned idempotency response) ∧
    (∀ call session, sys.sessions call = some session →
      session.tx.idempotency.toIdempotencyKey = key → session.tx.ActionFailed →
      (∀ commit ∈ sys.shared.commits, commit.call ≠ call) ∧
      (∀ record, sys.shared.records.lookup key = some record →
        ∃ commit ∈ sys.shared.commits, commit.call ≠ call ∧ commit.key = key ∧
          commit.record = record) ∧
      (session.isOpen = false → sys.shared.pending key ≠ some call)) := by
  have hsys := CommandSystem.run_consistent h
  refine ⟨⟨?_, fun commit hcommit hkey => ?_⟩, ?_, ?_, ?_⟩
  · have hnodup : ((sys.shared.commits.filter fun commit => commit.key = key).map
        CommandCommit.key).Nodup := hsys.sound.keys.sublist ((List.filter_sublist).map _)
    have hconst : (sys.shared.commits.filter fun commit => commit.key = key).map
        CommandCommit.key = List.replicate
          (sys.shared.commits.filter fun commit => commit.key = key).length key := by
      rw [← List.map_const']
      refine List.map_congr_left fun commit hcommit => ?_
      exact of_decide_eq_true (List.mem_filter.mp hcommit).2
    rw [hconst] at hnodup
    exact List.nodup_replicate.mp hnodup
  · obtain ⟨session, hsession, hreservation, hstatements, status, body, value, hruns, hbody,
      hreservation'⟩ := hsys.performed hcommit
    obtain ⟨hown, hrecord⟩ := Prod.mk.inj (Option.some.inj (hreservation.symm.trans hreservation'))
    refine ⟨session, status, value, body, hsession, hown.symm.trans hkey, by rw [hrecord]; rfl,
      hstatements ▸ hruns, hbody, by rw [hrecord]; rfl, by rw [hrecord]; rfl, ?_⟩
    exact (hsys.sound.records key commit.record).mpr ⟨commit, hcommit, hkey, rfl⟩
  · intro commit hcommit hkey idempotency response hsame hreturned _
    obtain ⟨_, hcommit', hkey', -, hresponse⟩ := hsys.returned hreturned
    cases List.inj_on_of_nodup_map hsys.sound.keys hcommit hcommit'
      (hkey.trans (hsame.symm.trans hkey'.symm))
    exact hresponse
  · intro idempotency response hsame hother hreturned
    obtain ⟨commit, hcommit, hkey, hdigest, -⟩ := hsys.returned hreturned
    exact hother commit hcommit (hkey.trans hsame) hdigest.symm
  · intro call session hsession _ hfailed
    refine ⟨fun commit hcommit => hsys.failed hsession hfailed hcommit, fun record hrecord => ?_,
      fun hclosed hpending => ?_⟩
    · obtain ⟨commit, hcommit, hkey, hsame⟩ := (hsys.sound.records key record).mp hrecord
      exact ⟨commit, hcommit, hsys.failed hsession hfailed hcommit, hkey, hsame⟩
    · obtain ⟨hopen, -⟩ := ((hsys.sessions call session hsession).pending key).mp hpending
      cases hclosed.symm.trans hopen

namespace Scenario

/-- One key with some digest. -/
def posting (digest : String) : Idempotency :=
  ⟨⟨"iso", "POST", "/v1/services", "key-0001"⟩, digest⟩

/-- An action of one statement, which succeeds. -/
def creating : CommandAction (fun _ : String => Unit) String := fun _ => do
  Process.ask "INSERT"
  pure (.ok (201, "created"))

/-- An action of one statement, which fails. -/
def rejecting : CommandAction (fun _ : String => Unit) String := fun _ => do
  Process.ask "INSERT"
  pure (.error (.refused "rejected"))

/-- The calls, and what the database answers them. -/
abbrev CommandEvent :=
  Server.Event (CommandAnswer fun _ : String => Unit)
    (Idempotency × CommandAction (fun _ : String => Unit) String)

/-- The first call reserves the key; the second one, with the same request, waits for it. -/
def contending : List CommandEvent :=
  [.start 0 (posting "digest", rejecting), .start 1 (posting "digest", creating),
    .answer 0 .executed, .answer 0 (.time 5), .answer 0 .executed,
    .answer 1 .executed, .answer 1 (.time 6)]

/-- The action of the first call fails, and the second one commits its own. -/
def handedOver : List CommandEvent :=
  [.answer 0 (.action fun _ => some ()), .close 0, .answer 1 .executed,
    .answer 1 (.action fun _ => some ()), .answer 1 .executed, .answer 1 .executed]

/-- The request is repeated, and another one sent with the same key. -/
def repeated : List CommandEvent :=
  [.start 2 (posting "digest", creating), .start 3 (posting "other", creating),
    .answer 2 .executed, .answer 2 (.time 7), .answer 2 .executed, .answer 2 .executed,
    .answer 2 .executed, .answer 3 .executed, .answer 3 (.time 8), .answer 3 .executed,
    .answer 3 .executed]

/-- What a call was sent with and has returned. -/
def returnedTo (sys : CommandSystem (fun _ : String => Unit) String) (call : ℕ) :
    Option (Idempotency × CommandResult) :=
  match sys.sessions call with
  | some ⟨tx, .done (.ok response), _⟩ => some (tx.idempotency, response)
  | _ => none

lemma returned_of_returnedTo {sys : CommandSystem (fun _ : String => Unit) String} {call : ℕ}
    {response : CommandResult} (h : returnedTo sys call = some (idempotency, response)) :
    sys.Returned idempotency response := by
  unfold returnedTo at h
  split at h
  · rename_i hsession
    cases h
    exact ⟨call, _, hsession, rfl, rfl⟩
  · cases h

end Scenario

open Scenario

/-- The second call gets the key when the first has failed; a repeated request gets its response
again, and a different one with the same key gets none. -/
theorem command_once_handed_over : ∃ sys : CommandSystem (fun _ : String => Unit) String,
    Run.run (Commands.server (fun _ : String => Unit) some).step (Server.initial Commands.empty)
      (contending ++ handedOver ++ repeated) = some sys ∧
    sys.Returned (posting "digest") ⟨201, "created", false⟩ ∧
    sys.Returned (posting "digest") ⟨201, "created", true⟩ ∧
    (∀ response, ¬sys.Returned (posting "other") response) ∧
    (sys.shared.commits.filter fun commit =>
      commit.key = (posting "digest").toIdempotencyKey).length ≤ 1 := by
  refine Run.exists_some_of (P := fun sys =>
      (sys.shared.commits.map fun commit => commit.record.requestDigest) = ["digest"] ∧
      returnedTo sys 1 = some (posting "digest", ⟨201, "created", false⟩) ∧
      returnedTo sys 2 = some (posting "digest", ⟨201, "created", true⟩))
    (by decide +kernel) fun sys hsys ⟨hdigests, hfirst, hsecond⟩ => ?_
  obtain ⟨⟨honce, -⟩, -, hother, -⟩ := command_once some _ sys hsys
    (posting "digest").toIdempotencyKey
  refine ⟨returned_of_returnedTo hfirst, returned_of_returnedTo hsecond, fun response => ?_, honce⟩
  refine hother (posting "other") response rfl fun commit hcommit _ hdigest => ?_
  have hmem := List.mem_map_of_mem (f := fun commit => commit.record.requestDigest) hcommit
  rw [hdigests, List.mem_singleton, ← hdigest] at hmem
  exact absurd hmem (by decide)

end DataGround
