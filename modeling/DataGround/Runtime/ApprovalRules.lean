import DataGround.Runtime.ApprovalLife

/-!
# What the methods of approvals keep to

* `Approvals.Sound` -- the database: the versions of every row are a `Life`, and the uncommitted ones
  come from the transaction that has the row's lock;
* `ApprovalTx.Agrees` -- what a transaction knows about the rows that it has locked is so;
* `ApprovalAllowed` -- a row is changed by its lock's holder only, and by an update that may follow it.
-/

namespace DataGround

open Writer hiding demand
open WriteLog (onKey own)

/-! ### The database -/

variable {v : ApprovalVersion} {now : Time}

namespace Approvals

variable {s : Approvals} {id : ℕ} {key : ResourceKey}

/-- All versions of a row, committed or not. -/
def life (s : Approvals) (key : ResourceKey) : List ApprovalVersion :=
  versionsOf key (s.log.all.map Prod.snd)

lemma versionsOf_map (writes : List (ℕ × ApprovalVersion)) :
    versionsOf key (writes.map Prod.snd) =
      (onKey ApprovalVersion.about key writes).map Prod.snd := by
  rw [versionsOf, List.filter_map, onKey]
  congr 1
  refine List.filter_congr fun write _ => ?_
  simp [ApprovalVersion.about]

lemma conflicts_comm (v v' : ApprovalVersion) :
    ApprovalVersion.conflicts v v' = ApprovalVersion.conflicts v' v := by
  simp only [ApprovalVersion.conflicts]
  grind

/-- A write adds a version to its row, and to no other. -/
lemma life_concat (id : ℕ) (key : ResourceKey) (v : ApprovalVersion) :
    ({ s with log := { s.log with pending := s.log.pending ++ [(id, v)] } } : Approvals).life key =
      s.life key ++ if v.key = key then [v] else [] := by
  simp only [life, versionsOf, WriteLog.all, List.map_append, List.filter_append, List.map_cons,
    List.map_nil, List.append_assoc, List.filter_cons, List.filter_nil, decide_eq_true_eq]

/-- The holder of the lock on a row sees its last version. -/
lemma current_of_holder (hs : s.log.Guarded ApprovalVersion.about)
    (hkey : s.log.holder key = some id) :
    s.current id key = (s.life key).getLast?.map ApprovalVersion.row := by
  rw [current, life, WriteLog.visible, versionsOf_map, versionsOf_map, hs.onKey_visible hkey]

/-- Who has written a version sees it. -/
lemma current_of_written {locked log : WriteLog ResourceKey ApprovalVersion}
    (h : locked.write ApprovalVersion.conflicts id v = .written log) (clock : Time) :
    (⟨log, clock⟩ : Approvals).current id v.key = some v.row := by
  obtain ⟨rfl, -⟩ := WriteLog.write_eq_written h
  rw [current]
  dsimp only
  rw [WriteLog.visible_concat_self]
  simp [versionsOf]

/-- The invariant of the database. -/
structure Sound (s : Approvals) : Prop where
  guarded : s.log.Guarded ApprovalVersion.about
  distinct : s.log.Distinct ApprovalVersion.conflicts
  lives : ∀ key, Life s.clock (s.life key)

namespace Sound

lemma tick (hs : s.Sound) (hle : s.clock ≤ now) : ({ s with clock := now } : Approvals).Sound :=
  ⟨hs.guarded, hs.distinct, fun key => (hs.lives key).later hle⟩

variable {log : WriteLog ResourceKey ApprovalVersion}

lemma lock (hs : s.Sound) {keys : List ResourceKey} (h : s.log.lock id keys = some log)
    : ({ s with log := log } : Approvals).Sound := by
  have hguarded := hs.guarded.lock h
  obtain ⟨-, rfl⟩ := WriteLog.lock_eq_some h
  exact ⟨hguarded, hs.distinct, hs.lives⟩

lemma commit (hs : s.Sound) (id : ℕ) : ({ s with log := s.log.commit id } : Approvals).Sound := by
  refine ⟨hs.guarded.others _ id, hs.distinct.commit conflicts_comm id, fun key => ?_⟩
  have hlife := hs.lives key
  rw [life, versionsOf_map] at hlife ⊢
  rw [hs.guarded.onKey_commit]
  exact hlife

lemma rollback (hs : s.Sound) (id : ℕ) :
    ({ s with log := s.log.rollback id } : Approvals).Sound := by
  refine ⟨hs.guarded.others _ id, hs.distinct.rollback id, fun key => ?_⟩
  have hlife := hs.lives key
  rw [life, versionsOf_map] at hlife ⊢
  exact hlife.earlier ((hs.guarded.onKey_rollback).map _)

/-- **A new version**: the insert of a valid row, or an update that may follow the last version. -/
lemma write (hs : s.Sound) {locked : WriteLog ResourceKey ApprovalVersion}
    (hlock : s.log.lock id [v.key] = some locked)
    (hwrite : locked.write ApprovalVersion.conflicts id v = .written log)
    (hpassed : v.row.Until s.clock) (hv : v.update = none ∧ v.row.IsValid ∨
      ∃ last, (s.life v.key).getLast? = some last ∧ last.LeadsTo v) :
    ({ s with log := log } : Approvals).Sound := by
  obtain ⟨rfl, hdistinct⟩ := WriteLog.Distinct.write conflicts_comm (hs.lock hlock).distinct hwrite
  obtain ⟨-, rfl⟩ := WriteLog.lock_eq_some hlock
  refine ⟨(hs.lock hlock).guarded.write fun key hkey => ?_, hdistinct, fun key => ?_⟩
  · cases hkey
    simp
  · have hlife : Life s.clock (s.life key ++ if v.key = key then [v] else []) := by
      by_cases hkey : v.key = key
      · subst hkey
        rw [if_pos rfl]
        rcases hv with ⟨hinsert, hvalid⟩ | ⟨last, hlast, hnext⟩
        · -- a row that exists has an insert, which the new one would conflict with
          have hnone : s.life v.key = [] := by
            cases hlife : s.life v.key with
            | nil => rfl
            | cons first =>
              obtain ⟨hfirst, -⟩ := (hs.lives v.key).first first (by rw [hlife]; rfl)
              have hmem : first ∈ s.life v.key := hlife ▸ List.mem_cons_self
              obtain ⟨hall, hkey⟩ := List.mem_filter.mp hmem
              obtain ⟨write, hwritten, rfl⟩ := List.mem_map.mp hall
              have hconflict := (WriteLog.write_eq_written hwrite).2 write hwritten
              simp [ApprovalVersion.conflicts, hinsert, hfirst, of_decide_eq_true hkey] at hconflict
          rw [hnone]
          exact .insert hinsert hvalid hpassed
        · exact (hs.lives v.key).update hlast hnext hpassed
      · rw [if_neg hkey, List.append_nil]
        exact hs.lives key
    rw [← life_concat id] at hlife
    exact hlife

end Sound

end Approvals

/-! ### Transactions -/

/-- What a transaction knows is so: it has the locks on its rows, and they are the last versions. -/
structure ApprovalTx.Agrees (tx : ApprovalTx) (s : Approvals) (id : ℕ) (isOpen : Bool) : Prop where
  clock : tx.clock ≤ s.clock
  rows : isOpen = true → ∀ key row, tx.rows key = some row →
    s.log.holder key = some id ∧ (s.life key).getLast?.map ApprovalVersion.row = some row

variable {row : RuntimeApproval}

namespace ApprovalTx.Agrees

variable {s t : Approvals} {id : ℕ} {tx : ApprovalTx} {isOpen : Bool}

lemma blank (hclock : tx.clock ≤ s.clock) (hrows : ∀ key, tx.rows key = none) :
    tx.Agrees s id isOpen :=
  ⟨hclock, fun _ key row hrow => by rw [hrows key] at hrow; cases hrow⟩

/-- Others leave the rows of a transaction alone. -/
lemma spared (h : tx.Agrees s id isOpen) (hclock : s.clock ≤ t.clock)
    (hspares : WriteLog.Spares ApprovalVersion.about id s.log t.log) : tx.Agrees t id isOpen := by
  refine ⟨h.clock.trans (WithBot.coe_le_coe.mpr hclock), fun hopen key row hrow => ?_⟩
  obtain ⟨hholder, hlast⟩ := h.rows hopen key row hrow
  refine ⟨hspares.holder key hholder, ?_⟩
  rw [Approvals.life, Approvals.versionsOf_map, hspares.onKey key hholder,
    ← Approvals.versionsOf_map]
  exact hlast

/-- The row that a transaction has locked is the one that it sees. -/
lemma current (h : tx.Agrees s id true) (hs : s.Sound) {key : ResourceKey}
    (hrow : tx.rows key = some row) : s.current id key = some row := by
  obtain ⟨hholder, hlast⟩ := h.rows rfl key row hrow
  rw [Approvals.current_of_holder hs.guarded hholder, hlast]

lemma passed (h : tx.Agrees s id true) (hs : s.Sound) {key : ResourceKey}
    (hrow : tx.rows key = some row) : row.Until s.clock := by
  obtain ⟨-, hlast⟩ := h.rows rfl key row hrow
  obtain ⟨v, hv, rfl⟩ := Option.map_eq_some_iff.mp hlast
  exact (hs.lives key).passed v (List.mem_of_getLast? hv)

lemma tick (h : tx.Agrees s id isOpen) (hle : s.clock ≤ now) :
    tx.Agrees { s with clock := now } id isOpen :=
  ⟨h.clock.trans (WithBot.coe_le_coe.mpr hle), h.rows⟩

/-- The transaction comes to see rows that it has locked, and keeps the others. -/
lemma sees (h : tx.Agrees s id true) (ht : t.Sound) {keys : List ResourceKey}
    (hkeys : ∀ key ∈ keys, t.log.holder key = some id)
    (hholder : ∀ key, s.log.holder key = some id → t.log.holder key = some id)
    (hlife : ∀ key, key ∉ keys → t.life key = s.life key) : (tx.sees t id keys).Agrees t id true := by
  refine ⟨le_rfl, fun _ key row hrow => ?_⟩
  simp only [ApprovalTx.sees] at hrow
  split at hrow
  · rename_i hmem
    rw [Approvals.current_of_holder ht.guarded (hkeys key hmem)] at hrow
    exact ⟨hkeys key hmem, hrow⟩
  · rename_i hmem
    obtain ⟨hheld, hlast⟩ := h.rows rfl key row hrow
    exact ⟨hholder key hheld, hlife key hmem ▸ hlast⟩

end ApprovalTx.Agrees

/-! ### What a request did -/

/-- The version that a request writes. -/
def CommandRequest.WritesApproval (s : Approvals) (id : ℕ) (version : ApprovalVersion) :
    CommandRequest ApprovalStatement → Prop
  | .action (.insert key row) => version = ⟨key, row, none⟩
  | .action (.update key update) =>
    ∃ row, s.current id key = some row ∧ version = ⟨key, update.set row, some update⟩
  | _ => False

/-- The request locks rows. -/
def CommandRequest.locksApprovals : CommandRequest ApprovalStatement → Bool
  | .action (.lock _) => true
  | .action (.due _ _ _) => true
  | _ => false

variable {statement : ApprovalStatement}

namespace ApprovalTx

variable {s s' : Approvals} {id : ℕ} {tx tx' : ApprovalTx}

/-- **What a request did** to the transaction and to the database. -/
inductive Did (s : Approvals) (id : ℕ) (tx : ApprovalTx)
    (request : CommandRequest ApprovalStatement) : ApprovalTx → Approvals → Prop
  | looked : Did s id tx request { tx with clock := s.clock } s
  | locked {keys : List ResourceKey} {log : WriteLog ResourceKey ApprovalVersion}
      (locks : request.locksApprovals = true) (locked_eq : s.log.lock id keys = some log) :
      Did s id tx request (tx.sees { s with log := log } id keys) { s with log := log }
  | wrote {version : ApprovalVersion} {locked log : WriteLog ResourceKey ApprovalVersion}
      (writes : request.WritesApproval s id version)
      (locked_eq : s.log.lock id [version.key] = some locked)
      (written_eq : locked.write ApprovalVersion.conflicts id version = .written log) :
      Did s id tx request (tx.sees { s with log := log } id [version.key]) { s with log := log }
  | committed (request_eq : request = .commit) :
      Did s id tx request ⟨fun _ => none, s.clock⟩ { s with log := s.log.commit id }
  | rolledBack (request_eq : request = .commit) :
      Did s id tx request ⟨fun _ => none, s.clock⟩ { s with log := s.log.rollback id }

section

variable {α : Type} {reply : Except RepositoryError α} {value : α} {error : RepositoryError}
  {keys : List ResourceKey} {version : ApprovalVersion}

lemma lock_eq_some (h : tx.lock s id keys value = some (reply, tx', s')) :
    ∃ log, s.log.lock id keys = some log ∧ reply = .ok value ∧
      tx' = tx.sees { s with log := log } id keys ∧ s' = { s with log := log } := by
  obtain ⟨log, hlog, heq⟩ := Option.map_eq_some_iff.mp h
  cases heq
  exact ⟨log, hlog, rfl, rfl, rfl⟩

namespace Did

variable {request : CommandRequest ApprovalStatement}

lemma of_fail (h : tx.fail s error = some (reply, tx', s')) : Did s id tx request tx' s' := by
  cases h
  exact .looked

lemma of_look (h : tx.look s value = some (reply, tx', s')) : Did s id tx request tx' s' := by
  cases h
  exact .looked

lemma of_lock (hlocks : request.locksApprovals = true)
    (h : tx.lock s id keys value = some (reply, tx', s')) : Did s id tx request tx' s' := by
  obtain ⟨_, hlog, -, rfl, rfl⟩ := lock_eq_some h
  exact .locked hlocks hlog

lemma of_write (hwrites : request.WritesApproval s id version)
    (h : tx.write s id version value = some (reply, tx', s')) : Did s id tx request tx' s' := by
  unfold write at h
  split at h
  · cases h
  · rename_i hlocked
    split at h
    · exact of_fail h
    · cases h
    · rename_i hwritten
      cases h
      exact .wrote hwrites hlocked hwritten

end Did

end

lemma serveStatement_did {answer : ApprovalAnswer} {reply : statement.Reply}
    (h : tx.serveStatement s id statement answer = some (reply, tx', s')) :
    Did s id tx (.action statement) tx' s' := by
  unfold serveStatement at h
  split at h
  all_goals try first
    | exact Did.of_fail h
    | exact Did.of_look h
    | exact Did.of_write rfl h
    | cases h
  case h_12 =>
    split at h
    · exact Did.of_look h
    · cases h
  case h_14 =>
    split at h
    · exact Did.of_look h
    · exact Did.of_lock rfl h
  case h_16 =>
    split at h
    · exact Did.of_look h
    · rename_i row hrow
      split at h
      · exact Did.of_write ⟨row, hrow, rfl⟩ h
      · exact Did.of_look h
  case h_17 =>
    split at h
    · exact Did.of_lock rfl h
    · cases h

variable {request : CommandRequest ApprovalStatement}
  {reply : request.Reply ApprovalStatement.Reply}

lemma serveNow_did {answer : ApprovalAnswer}
    (h : tx.serveNow s id request answer = some (reply, tx', s')) :
    Did s id tx request tx' s' := by
  cases request with
  | action => exact serveStatement_did h
  | now =>
    cases answer with
    | time =>
      cases h
      exact .looked
    | _ => cases h
  | commit =>
    cases answer with
    | executed | lost =>
      cases h
      exact .committed rfl
    | failed =>
      cases h
      exact .rolledBack rfl
    | _ => cases h
  | _ =>
    -- The other requests read, or fail.
    cases answer with
    | failed => exact Did.of_fail h
    | _ => first | exact Did.of_look h | cases h

lemma serve_eq_some {answer : Time × ApprovalAnswer}
    (h : tx.serve s id request answer = some (reply, tx', s')) :
    s.clock ≤ answer.1 ∧
      tx.serveNow { s with clock := answer.1 } id request answer.2 = some (reply, tx', s') :=
  Option.ite_none_right_eq_some.mp h

end ApprovalTx

/-! ### The discipline -/

/-- What a request needs in its transaction: a new row is valid, and a row is changed only if it is
locked, by an update that may follow it. -/
def ApprovalAllowed (tx : ApprovalTx) : CommandRequest ApprovalStatement → Prop
  | .action (.insert _ row) => row.IsValid ∧ row.Until tx.clock
  | .action (.update key update) => ∃ row, tx.rows key = some row ∧ update.Follows row ∧
      (update.now : WithBot Time) ≤ tx.clock
  | _ => True

section

variable {s s' : Approvals} {id : ℕ} {tx tx' : ApprovalTx}
  {request : CommandRequest ApprovalStatement}

/-- The version that an allowed request writes continues the life of its row. -/
lemma ApprovalAllowed.writes (h : ApprovalAllowed tx request) (hs : s.Sound)
    (htx : tx.Agrees s id true) (hwrites : request.WritesApproval s id v) :
    v.row.Until s.clock ∧ (v.update = none ∧ v.row.IsValid ∨
      ∃ last, (s.life v.key).getLast? = some last ∧ last.LeadsTo v) := by
  cases request with
  | action statement =>
    cases statement with
    | insert =>
      subst hwrites
      exact ⟨h.2.mono htx.clock, .inl ⟨rfl, h.1⟩⟩
    | update key update =>
      obtain ⟨row, hrow, hfollows, hnow⟩ := h
      obtain ⟨_, hcurrent, rfl⟩ := hwrites
      cases (htx.current hs hrow).symm.trans hcurrent
      obtain ⟨last, hlast, rfl⟩ := Option.map_eq_some_iff.mp (htx.rows rfl key row hrow).2
      exact ⟨hfollows.until_set.mono (hnow.trans htx.clock),
        .inr ⟨last, hlast, update, rfl, hfollows, rfl⟩⟩
    | _ => cases hwrites
  | _ => cases hwrites

/-- **One request** that is allowed: the database stays sound, the transaction agrees with it, and
the others are left alone. -/
lemma ApprovalTx.Did.keeps (hdid : ApprovalTx.Did s id tx request tx' s') (hs : s.Sound)
    (htx : tx.Agrees s id true) (hallowed : ApprovalAllowed tx request) :
    s'.Sound ∧ tx'.Agrees s' id true ∧ s'.clock = s.clock ∧
      ∀ other, other ≠ id → WriteLog.Spares ApprovalVersion.about other s.log s'.log := by
  cases hdid with
  | looked => exact ⟨hs, ⟨le_rfl, htx.rows⟩, rfl, fun _ _ => .refl⟩
  | @locked _ _ _ hlock =>
    have hsound := hs.lock hlock
    refine ⟨hsound, htx.sees hsound (fun key hmem => WriteLog.holder_of_lock hlock (.inl hmem))
      (fun key hkey => WriteLog.holder_of_lock hlock (.inr hkey)) fun key _ => ?_, rfl,
      fun _ hne => WriteLog.spares_lock hne hlock⟩
    obtain ⟨-, rfl⟩ := WriteLog.lock_eq_some hlock
    rfl
  | @wrote v locked log hwrites hlock hwritten =>
    obtain ⟨hpassed, hv⟩ := hallowed.writes hs htx hwrites
    have hsound := hs.write hlock hwritten hpassed hv
    have hholder : ∀ key, key ∈ [v.key] ∨ s.log.holder key = some id →
        locked.holder key = some id := fun key => WriteLog.holder_of_lock hlock
    have hspares : ∀ other, other ≠ id → WriteLog.Spares ApprovalVersion.about other s.log locked :=
      fun _ hne => WriteLog.spares_lock hne hlock
    obtain ⟨rfl, -⟩ := WriteLog.write_eq_written hwritten
    refine ⟨hsound, htx.sees hsound (fun key hmem => hholder key (.inl hmem))
      (fun key hkey => hholder key (.inr hkey)) fun key hkey => ?_, rfl, fun other hne => ?_⟩
    · obtain ⟨-, rfl⟩ := WriteLog.lock_eq_some hlock
      have hne : ¬v.key = key := by
        rintro rfl
        exact hkey List.mem_cons_self
      have hlife := Approvals.life_concat (s := s) id key v
      rw [if_neg hne, List.append_nil] at hlife
      exact hlife
    · refine (hspares other hne).trans (WriteLog.spares_write hne fun key hkey => ?_)
      cases hkey
      exact hholder v.key (.inl List.mem_cons_self)
  | committed =>
    exact ⟨hs.commit id, .blank le_rfl fun _ => rfl, rfl,
      fun _ hne => WriteLog.spares_commit hs.guarded hne⟩
  | rolledBack =>
    exact ⟨hs.rollback id, .blank le_rfl fun _ => rfl, rfl,
      fun _ hne => WriteLog.spares_rollback hs.guarded hne⟩

end

/-! ### What a statement tells its transaction -/

/-- A request can move the transaction this way. -/
def ApprovalMoves : ApprovalTx → (request : CommandRequest ApprovalStatement) →
    request.Reply ApprovalStatement.Reply → ApprovalTx → Prop :=
  Server.Moves Approvals.Sound ApprovalTx.Agrees ApprovalTx.serve

/-- The statement changes nothing, and locks nothing. -/
def ApprovalStatement.reads : ApprovalStatement → Bool
  | .lock _ | .insert _ _ | .update _ _ | .due _ _ _ => false
  | _ => true

/-- The transaction has gone on, without a change to what it has locked. -/
structure ApprovalTx.Looks (tx tx' : ApprovalTx) : Prop where
  rows : tx'.rows = tx.rows
  clock : tx.clock ≤ tx'.clock

/-- The transaction has gone on: what it has locked is locked, and may have been updated. -/
structure ApprovalTx.Later (tx tx' : ApprovalTx) : Prop where
  rows : ∀ key row, tx.rows key = some row → ∃ row', tx'.rows key = some row' ∧
    row'.toApprovalColumns = row.toApprovalColumns
  clock : tx.clock ≤ tx'.clock

lemma ApprovalTx.Looks.later {tx tx' : ApprovalTx} (h : tx.Looks tx') : tx.Later tx' :=
  ⟨fun _ row hrow => ⟨row, h.rows ▸ hrow, rfl⟩, h.clock⟩

/-- An update leaves the other columns as they are. -/
lemma ApprovalUpdate.columns_set (row : RuntimeApproval) (update : ApprovalUpdate) :
    (update.set row).toApprovalColumns = row.toApprovalColumns := by
  cases update <;> rfl

/-- The transaction has locked approvals that are due. -/
def Approval.Due (isolationDomainId : String) (ids : List String) (tx : ApprovalTx) : Prop :=
  ∀ i ∈ ids, ∃ row expiresAt, tx.rows ⟨isolationDomainId, i⟩ = some row ∧
    row.contract = approvalContract ∧ row.expiresAt = some expiresAt ∧
    (expiresAt : WithBot Time) ≤ tx.clock

/-- What a statement tells: the times of locked rows have passed, a locked row is read as it is, and a
row that is read `FOR UPDATE`, or that is due, is locked. -/
def ApprovalTx.Told (tx tx' : ApprovalTx) : (statement : ApprovalStatement) → statement.Value → Prop
  | .clock, now => tx'.clock = now ∧ ∀ key row, tx.rows key = some row → row.Until now
  | .readDeadline _, times => tx'.clock = times.1
  | .read key, found => ∀ row, tx.rows key = some row → found = some row
  | .lock key, found => ∀ row, found = some row → tx'.rows key = some row
  | .due isolationDomainId _ _, ids => Approval.Due isolationDomainId ids tx'
  | _, _ => True

namespace ApprovalMoves

variable {tx tx' : ApprovalTx}

lemma looks {reply : statement.Reply} (h : ApprovalMoves tx (.action statement) reply tx')
    (hreads : statement.reads = true) :
    tx.Looks tx' := by
  obtain ⟨_, _, ⟨_, _⟩, _, -, htx, hserved⟩ := h
  obtain ⟨hclock, hserved⟩ := ApprovalTx.serve_eq_some hserved
  cases ApprovalTx.serveNow_did hserved with
  | looked => exact ⟨rfl, (htx.tick hclock).clock⟩
  | locked =>
    cases statement <;> simp_all [CommandRequest.locksApprovals, ApprovalStatement.reads]
  | wrote =>
    cases statement <;> simp_all [CommandRequest.WritesApproval, ApprovalStatement.reads]
  | committed hcommit | rolledBack hcommit => cases hcommit

/-- An update, of a row that the transaction has locked. -/
lemma updates {key : ResourceKey} {update : ApprovalUpdate} {reply : Except RepositoryError Bool}
    (h : ApprovalMoves tx (.action (.update key update)) reply tx') : tx.Later tx' := by
  obtain ⟨_, _, ⟨_, _⟩, _, hs, htx, hserved⟩ := h
  obtain ⟨hclock, hserved⟩ := ApprovalTx.serve_eq_some hserved
  replace hs := hs.tick hclock
  replace htx := htx.tick hclock
  cases ApprovalTx.serveNow_did hserved with
  | looked => exact ⟨fun _ row hrow => ⟨row, hrow, rfl⟩, htx.clock⟩
  | locked hlocks => cases hlocks
  | @wrote _ _ _ hwrites _ hwritten =>
    obtain ⟨row, hcurrent, rfl⟩ := hwrites
    refine ⟨fun key' row' hrow' => ?_, htx.clock⟩
    simp only [ApprovalTx.sees]
    split
    · rename_i hmem
      obtain rfl := List.mem_singleton.mp hmem
      cases (htx.current hs hrow').symm.trans hcurrent
      exact ⟨update.set row, Approvals.current_of_written hwritten _, update.columns_set row⟩
    · exact ⟨row', hrow', rfl⟩
  | committed hcommit | rolledBack hcommit => cases hcommit

/-- **What a statement that returned has told.** -/
lemma told {value : statement.Value} (h : ApprovalMoves tx (.action statement) (.ok value) tx') :
    tx.Told tx' statement value := by
  obtain ⟨s, id, ⟨time, answer⟩, _, hs, htx, hserved⟩ := h
  obtain ⟨hclock, hserved⟩ := ApprovalTx.serve_eq_some hserved
  replace hs := hs.tick hclock
  replace htx := htx.tick hclock
  replace hserved : tx.serveStatement { s with clock := time } id statement answer = some _ := hserved
  unfold ApprovalTx.serveStatement at hserved
  split at hserved
  all_goals try exact trivial
  case h_1 => cases hserved
  case h_2 =>
    cases hserved
    exact ⟨rfl, fun key row => htx.passed hs⟩
  case h_11 =>
    cases hserved
    rfl
  case h_13 =>
    cases hserved
    exact fun row => htx.current hs
  case h_14 =>
    rintro row rfl
    split at hserved
    · cases hserved
    · rename_i found hfound
      obtain ⟨_, hlock, hreply, rfl, -⟩ := ApprovalTx.lock_eq_some hserved
      cases hreply
      obtain ⟨-, rfl⟩ := WriteLog.lock_eq_some hlock
      simp only [ApprovalTx.sees, List.mem_singleton, if_true]
      exact hfound
  case h_17 =>
    split at hserved
    · rename_i hfound
      obtain ⟨_, hlock, hreply, rfl, -⟩ := ApprovalTx.lock_eq_some hserved
      cases hreply
      obtain ⟨-, rfl⟩ := WriteLog.lock_eq_some hlock
      intro i hi
      have hdue := hfound.2 i hi
      simp only [Approvals.isDue, Option.any_eq_true, Bool.and_eq_true, decide_eq_true_eq] at hdue
      obtain ⟨row, hrow, ⟨⟨-, hcontract⟩, -⟩, expiresAt, hexpires, hlate⟩ := hdue
      refine ⟨row, expiresAt, ?_, hcontract, hexpires, WithBot.coe_le_coe.mpr hlate⟩
      simp only [ApprovalTx.sees]
      rw [if_pos (List.mem_map.mpr ⟨i, hi, rfl⟩)]
      exact hrow
    · cases hserved
  case h_18 => cases hserved

end ApprovalMoves

/-! ### Rules -/

/-- Pre- and postconditions of a part of a transaction. -/
def ApprovalTriple {α : Type} (P : ApprovalTx → Prop) (x : ApprovalAction α)
    (Q : α → ApprovalTx → Prop) : Prop :=
  Process.Triple (fun tx statement => ApprovalAllowed tx (.action statement))
    (fun tx statement => ApprovalMoves tx (.action statement)) P x Q

/-- A property that lasts while the transaction reads. -/
def LastsReading (P : ApprovalTx → Prop) : Prop :=
  ∀ tx tx', tx.Looks tx' → P tx → P tx'

/-- A property that lasts while the transaction reads and updates. -/
def Lasts (P : ApprovalTx → Prop) : Prop :=
  ∀ tx tx', tx.Later tx' → P tx → P tx'

lemma Lasts.reading {P : ApprovalTx → Prop} (hP : Lasts P) : LastsReading P :=
  fun tx tx' h => hP tx tx' h.later

lemma lastsReading_row (key : ResourceKey) (row : RuntimeApproval) :
    LastsReading fun tx => tx.rows key = some row :=
  fun _ _ h hrow => (congrFun h.rows key).trans hrow

lemma LastsReading.and {P Q : ApprovalTx → Prop} (hP : LastsReading P) (hQ : LastsReading Q) :
    LastsReading fun tx => P tx ∧ Q tx :=
  fun tx tx' h htx => ⟨hP tx tx' h htx.1, hQ tx tx' h htx.2⟩

lemma lasts_true : Lasts fun _ => True :=
  fun _ _ _ _ => trivial

namespace ApprovalTriple

open Process (Triple)

variable {α β : Type} {P P' : ApprovalTx → Prop} {Q : α → ApprovalTx → Prop}
  {R : β → ApprovalTx → Prop} {x : ApprovalAction α}

lemma bind {f : α → ApprovalAction β} (hx : ApprovalTriple P x Q)
    (hf : ∀ a, ApprovalTriple (Q a) (f a) R) : ApprovalTriple P (x >>= f) R :=
  Triple.bind hx hf

lemma pre (hx : ApprovalTriple P x Q) (hP : ∀ tx, P' tx → P tx) : ApprovalTriple P' x Q :=
  Triple.pre hx hP

/-- What needs no precondition may come after anything. -/
lemma anyway (hx : ApprovalTriple (fun _ => True) x Q) : ApprovalTriple P x Q :=
  hx.pre fun _ _ => trivial

lemma intro {p : Prop} (h : p → ApprovalTriple P x Q) : ApprovalTriple (fun tx => p ∧ P tx) x Q :=
  Triple.intro h

lemma ensure_bind {condition : Prop} [Decidable condition] {error : RepositoryError}
    {f : PUnit → ApprovalAction β} (h : condition → ApprovalTriple P (f ⟨⟩) R) :
    ApprovalTriple P (Process.ensure condition error >>= f) R :=
  Triple.ensure_bind h

variable {wrap : RepositoryError → RepositoryError}

lemma look (hP : LastsReading P) (hreads : statement.reads = true) :
    ApprovalTriple P (Process.attemptWith wrap statement) (fun _ => P) := by
  refine Triple.attempt (fun tx _ => ?_) fun tx _ tx' h hmoves => hP tx tx' (hmoves.looks hreads) h
  cases statement with
  | insert | update => cases hreads
  | _ => trivial

/-- The clock: the times of the rows that are locked have passed. -/
lemma clock (hP : LastsReading P) :
    ApprovalTriple P (Process.attemptWith wrap .clock)
      (fun now tx => P tx ∧ tx.clock = now ∧ ∀ key row, tx.rows key = some row → row.Until now) := by
  refine Triple.attempt (fun _ _ => trivial) fun tx now tx' h hmoves => ?_
  have hlooks := hmoves.looks rfl
  obtain ⟨hclock, hpassed⟩ := hmoves.told
  exact ⟨hP tx tx' hlooks h, hclock, fun key row hrow => hpassed key row (hlooks.rows ▸ hrow)⟩

/-- An update of a locked row, at the time that the clock has just shown. -/
lemma update {key : ResourceKey} {update : ApprovalUpdate} (hP : Lasts P) (hvalid : row.IsValid)
    (hnow : update.now = now) (hadmissible : ∀ tx, P tx → tx.clock = now → update.Admissible row) :
    ApprovalTriple
      (fun tx => (P tx ∧ tx.rows key = some row) ∧ tx.clock = now ∧
        ∀ key row, tx.rows key = some row → row.Until now)
      (Process.attemptWith wrap (.update key update)) (fun _ => P) := by
  subst hnow
  refine Triple.attempt (fun tx h => ?_) fun tx _ tx' h hmoves => hP tx tx' hmoves.updates h.1.1
  obtain ⟨⟨htx, hrow⟩, hclock, hpassed⟩ := h
  exact ⟨row, hrow, ⟨hvalid, hpassed key row hrow, hadmissible tx htx hclock⟩, hclock.ge⟩

end ApprovalTriple

/-! ### The methods -/

namespace Approval

variable {P : ApprovalTx → Prop}

lemma valid_of_isWellFormed {value : RuntimeApproval} (h : isWellFormed value = true) :
    value.IsValid := by
  simp only [isWellFormed, Bool.and_eq_true] at h
  exact RuntimeApproval.valid_iff.mp h.2

lemma triple_lockRuntimeInteractionAttempt (hP : LastsReading P) (claim : Claim)
    (effect : EffectRecord) :
    ApprovalTriple P (lockRuntimeInteractionAttempt claim effect) (fun _ => P) :=
  .bind (.look hP rfl) fun _ => .bind (.look hP rfl) fun _ => .bind (.look hP rfl) fun _ =>
    .look hP rfl

lemma triple_checkRow (found : Option RuntimeApproval) :
    ApprovalTriple P (checkRow found) (fun checked tx =>
      (∀ value, checked = some value → found = some value ∧ value.IsValid) ∧ P tx) := by
  cases found with
  | none => exact .pure fun tx h => ⟨fun value hvalue => (by cases hvalue), h⟩
  | some =>
    refine .ensure_bind fun hformed => .pure fun tx h => ⟨?_, h⟩
    intro checked hchecked
    obtain rfl := Option.some.inj hchecked
    exact ⟨rfl, valid_of_isWellFormed hformed⟩

/-- A plain read: a row that is locked is the one that is found. -/
lemma triple_read (hP : LastsReading P) (key : ResourceKey) :
    ApprovalTriple P (getInvocationRuntimeApproval key false) (fun found tx =>
      (∀ value, found = some value → value.IsValid ∧ ∀ row, tx.rows key = some row → value = row) ∧
        P tx) := by
  have hread : ApprovalTriple P (attemptAs "read invocation runtime approval" (.read key))
      (fun found tx => (∀ row, tx.rows key = some row → found = some row) ∧ P tx) := by
    refine Process.Triple.attempt (fun _ _ => trivial) fun tx found tx' h hmoves => ?_
    have hlooks := hmoves.looks rfl
    exact ⟨fun row hrow => hmoves.told row (hlooks.rows ▸ hrow), hP tx tx' hlooks h⟩
  refine .bind hread fun found => (triple_checkRow found).post ?_
  rintro checked tx ⟨hchecked, hfound, h⟩
  refine ⟨fun value hvalue => ?_, h⟩
  obtain ⟨rfl, hvalid⟩ := hchecked value hvalue
  exact ⟨hvalid, fun row hrow => Option.some.inj (hfound row hrow)⟩

/-- A read `FOR UPDATE`. -/
lemma triple_lock (key : ResourceKey) :
    ApprovalTriple (fun _ => True) (getInvocationRuntimeApproval key true) (fun found tx =>
      ∀ value, found = some value → value.IsValid ∧ tx.rows key = some value) := by
  have hlock : ApprovalTriple (fun _ => True)
      (attemptAs "read invocation runtime approval" (.lock key))
      (fun found tx => ∀ row, found = some row → tx.rows key = some row) :=
    Process.Triple.attempt (fun _ _ => trivial) fun _ _ _ _ hmoves => hmoves.told
  refine .bind hlock fun found => (triple_checkRow found).post ?_
  rintro checked tx ⟨hchecked, hfound⟩ value hvalue
  obtain ⟨hrow, hvalid⟩ := hchecked value hvalue
  exact ⟨hvalid, hfound value hrow⟩

/-- What follows an update, or a request that found its row. -/
lemma triple_reread (hP : LastsReading P) (key : ResourceKey) :
    ApprovalTriple P (do Process.demand (← getInvocationRuntimeApproval key false) approvalMissing)
      (fun _ => P) :=
  .bind (triple_read hP key) fun _ => .conseq .demand (fun _ h => h.2) fun _ _ h => h.2

lemma triple_refuseUpdate (hP : LastsReading P) (approval : RuntimeApproval) :
    ApprovalTriple P (refuseUpdate approval) (fun _ => P) :=
  .bind (.look hP rfl) fun _ => .throw

lemma triple_refuseExpired (hP : LastsReading P) (approval : RuntimeApproval) :
    ApprovalTriple P (refuseExpired approval) (fun _ => P) := by
  unfold refuseExpired
  split
  · exact .bind (.look hP rfl) fun _ => .post .ensure fun _ _ h => h.2
  · exact .pure fun _ h => h

lemma triple_authorize (hP : LastsReading P) (authorized : Bool) (candidate : RuntimeApproval) :
    ApprovalTriple P (authorize authorized candidate) (fun _ => P) := by
  unfold authorize
  split
  · exact .look hP rfl
  · exact .pure fun _ h => h

/-- **The request** of an approval: the row that is inserted is valid. -/
lemma valid_pendingApproval {now deadline expiry : Time} (target : RuntimeTarget)
    (effect : EffectRecord) (request : ApprovalRequest)
    (h : validExpiry now deadline expiry = true) :
    (pendingApproval target effect request now expiry).IsValid := by
  simp only [validExpiry, Bool.and_eq_true, decide_eq_true_eq] at h
  refine ⟨.inr ⟨rfl, expiry, rfl, h.1.1, h.1.2⟩, ?_, fun happrove => ?_,
    rfl, ⟨rfl, rfl, rfl, rfl⟩, rfl, rfl⟩
  · rw [if_neg (by simp [RuntimeApproval.IsClosed, pendingApproval])]
    exact ⟨rfl, rfl⟩
  · simp [pendingApproval] at happrove

lemma triple_requestApproval (env : RuntimeEnvironment) (claim : Claim) (effect : EffectRecord)
    (target : RuntimeTarget) (request : ApprovalRequest) :
    ApprovalTriple (fun _ => True) (requestApproval env claim effect target request)
      (fun _ _ => True) := by
  have hreading := lasts_true.reading
  refine .bind (triple_lockRuntimeInteractionAttempt hreading claim effect) fun _ => ?_
  refine .bind (.look hreading rfl) fun found => .bind .demand fun actual => .bind .ensure fun _ => ?_
  refine .anyway (.bind (triple_read hreading _) fun found => .anyway ?_)
  cases found with
  | some =>
    exact .bind .ensure fun _ => .anyway (.bind (.look hreading rfl) fun _ =>
      .pure fun _ _ => trivial)
  | none =>
    have hdeadline : ApprovalTriple (fun _ => True) (attempt (.readDeadline claim.operation))
        (fun found tx => tx.clock = found.1) :=
      Process.Triple.attempt (fun _ _ => trivial) fun _ _ _ _ hmoves => hmoves.told
    refine .bind hdeadline fun ⟨now, deadline⟩ => .ensure_bind fun hexpiry => ?_
    refine .bind (Q := fun _ _ => True) (Process.Triple.attempt (fun tx hclock => ?_)
      fun _ _ _ _ _ => trivial) fun _ => ?_
    · refine ⟨valid_pendingApproval target effect request hexpiry, fun time htime => ?_⟩
      have hnow : time = now := by simpa [RuntimeApproval.times, pendingApproval] using htime
      rw [hnow, hclock]
    · exact .bind (triple_read hreading _) fun _ => .bind .demand fun _ => .anyway
        (.bind (.look hreading rfl) fun _ => .pure fun _ _ => trivial)

variable {key : ResourceKey}

/-- **The resolution** of a pending approval. -/
lemma triple_resolvePending {approval candidate : RuntimeApproval} {resolution : ApprovalResolution}
    (authorized : Bool) (hvalid : approval.IsValid) (hstate : approval.state = .pending)
    (hresolution : validInvocationRuntimeApprovalResolution resolution = true) :
    ApprovalTriple (fun tx => tx.rows key = some approval)
      (resolvePending key approval resolution authorized candidate) (fun _ _ => True) := by
  have hreading := lasts_true.reading
  have hrow := lastsReading_row key approval
  simp only [validInvocationRuntimeApprovalResolution, Bool.and_eq_true] at hresolution
  obtain ⟨⟨⟨-, hdecision⟩, hactor⟩, hcorrelation⟩ := hresolution
  refine .ensure_bind fun _ => ?_
  refine .bind (.look hrow rfl) fun _ => .bind (triple_authorize hrow authorized candidate) fun _ =>
    .bind (.look hrow rfl) fun _ => .bind (.clock hrow) fun now => ?_
  refine .bind (.pre (.update lasts_true hvalid rfl fun _ _ _ =>
    ⟨hstate, hdecision, hactor, hcorrelation⟩) fun tx h => ⟨⟨trivial, h.1⟩, h.2⟩) fun affected => ?_
  cases affected with
  | true => exact .bind (.look hreading rfl) fun _ => .bind (.look hreading rfl) fun _ =>
    triple_reread hreading key
  | false => exact triple_refuseUpdate hreading approval

lemma triple_resolveInvocationRuntimeApproval {resolution : ApprovalResolution} (authorized : Bool)
    (hresolution : validInvocationRuntimeApprovalResolution resolution = true) :
    ApprovalTriple (fun _ => True) (resolveInvocationRuntimeApproval resolution authorized)
      (fun _ _ => True) := by
  refine .bind (.look lasts_true.reading rfl) fun _ => .bind .ensure fun _ => .anyway ?_
  refine .bind (triple_lock _) fun found => .bind .demand fun approval => .intro fun hfound => ?_
  subst hfound
  refine .pre (.intro fun hvalid => ?_) fun tx h => h approval rfl
  have hrow := lastsReading_row
    ⟨resolution.invocation.isolationDomainId, resolution.approvalId⟩ approval
  refine .ensure_bind fun _ => .ensure_bind fun _ =>
    .bind (triple_refuseExpired hrow approval) fun _ => ?_
  split
  · rename_i hpending
    exact triple_resolvePending authorized hvalid hpending hresolution
  · exact .ensure_bind fun _ => .bind (triple_authorize hrow authorized _) fun _ =>
      .pure fun _ _ => trivial

/-- The two steps of a delivery. -/
lemma triple_deliver {text : String} {approval : RuntimeApproval} {update : ApprovalUpdate}
    (hvalid : approval.IsValid) (hnow : update.now = now) (hadmissible : update.Admissible approval)
    :
    ApprovalTriple
      (fun tx => tx.rows key = some approval ∧ tx.clock = now ∧
        ∀ key row, tx.rows key = some row → row.Until now)
      (deliver text key approval update) (fun _ _ => True) := by
  refine .bind (.pre (.update lasts_true hvalid hnow fun _ _ _ => hadmissible)
    fun tx h => ⟨⟨trivial, h.1⟩, h.2⟩) fun affected => ?_
  cases affected with
  | true => exact triple_reread lasts_true.reading key
  | false => exact triple_refuseUpdate lasts_true.reading approval

variable (claim : Claim)

variable (effect : EffectRecord)

lemma triple_lockForDelivery (id : String) :
    ApprovalTriple (fun _ => True) (lockForDelivery claim effect id) (fun approval tx =>
      approval.IsValid ∧ tx.rows ⟨claim.key.isolationDomainId, id⟩ = some approval) := by
  refine .bind (triple_lockRuntimeInteractionAttempt lasts_true.reading claim effect) fun _ => ?_
  refine .bind (triple_lock _) fun found => .bind .demand fun approval => .intro fun hfound => ?_
  exact .ensure_bind fun _ => .pure fun tx h => h approval hfound

/-- **Reserving** the delivery. -/
lemma triple_beginDelivery (id : String) {effectiveDecision : String}
    (hdecision : validInvocationRuntimeApprovalDecision effectiveDecision = true) :
    ApprovalTriple (fun _ => True) (beginDelivery claim effect id effectiveDecision)
      (fun _ _ => True) := by
  refine .bind (triple_lockForDelivery claim effect id) fun approval => .intro fun hvalid => ?_
  refine .ensure_bind fun _ => .ensure_bind fun _ =>
    .ensure_bind fun _ => .ensure_bind fun hresolved => ?_
  refine .bind (.clock (lastsReading_row _ approval)) fun now => ?_
  exact triple_deliver hvalid rfl ⟨hresolved.1, hdecision, hresolved.2.2⟩

/-- **Completing** the delivery. -/
lemma triple_completeDelivery (id : String) :
    ApprovalTriple (fun _ => True) (completeDelivery claim effect id) (fun _ _ => True) := by
  refine .bind (triple_lockForDelivery claim effect id) fun approval => .intro fun hvalid => ?_
  split
  · exact .pure fun _ _ => trivial
  · refine .ensure_bind fun hdelivering => ?_
    refine .bind (.clock (lastsReading_row _ approval)) fun now => ?_
    exact triple_deliver hvalid rfl hdelivering.1

/-- **Closing** an approval that is locked.  An approval expires only once it is due. -/
lemma triple_closeRuntimeApproval {value : RuntimeApproval} {reason : String} (hP : Lasts P)
    (hvalid : value.IsValid) (hcontract : value.contract = approvalContract)
    (hreason : validApprovalCloseReason reason = true)
    (hdue : reason = "expired" → ∀ tx, P tx → ∀ expiresAt ∈ value.expiresAt,
      (expiresAt : WithBot Time) ≤ tx.clock) :
    ApprovalTriple (fun tx => P tx ∧ tx.rows key = some value)
      (closeRuntimeApproval key value reason) (fun _ => P) := by
  refine .bind (.clock (hP.reading.and (lastsReading_row key value))) fun now => ?_
  dsimp only
  split
  · exact .throw
  · exact .pure fun tx h => h.1.1
  · rename_i state hstate
    refine .bind (.update hP hvalid rfl fun tx htx hclock => ?_) fun _ => ?_
    · refine ⟨hcontract, hstate, ?_, fun hexpired expiresAt hexpires => ?_⟩
      · split
        · exact hreason
        · rfl
      · split at hexpired
        · have hlate := hdue hexpired tx htx expiresAt hexpires
          exact WithBot.coe_le_coe.mp (hlate.trans hclock.le)
        · rename_i hlate
          simp only [Option.any_eq_true, not_exists, not_and, decide_eq_true_eq, not_lt] at hlate
          exact hlate expiresAt hexpires
    · have hreading := hP.reading
      exact .bind (triple_read hreading key) fun _ => .bind .demand fun _ => .pre
        (.bind (.look hreading rfl) fun _ => .bind (.look hreading rfl) fun _ =>
          .bind (.look hreading rfl) fun _ => .pure fun _ h => h) fun tx h => h.2.2

lemma triple_closeApproval (id : String) {reason : String} (hreason : isCloseReason reason = true) :
    ApprovalTriple (fun _ => True) (closeApproval claim effect id reason) (fun _ _ => True) := by
  have hvalid : validApprovalCloseReason reason = true ∧ reason ≠ "expired" := by
    simp only [isCloseReason, Bool.or_eq_true, decide_eq_true_eq] at hreason
    rcases hreason with (rfl | rfl) | rfl <;> decide
  refine .bind (triple_lockRuntimeInteractionAttempt lasts_true.reading claim effect) fun _ => ?_
  refine .bind (triple_lock _) fun found => .bind .demand fun value => .intro fun hfound => ?_
  refine .ensure_bind fun hvalue => ?_
  refine .pre (.intro fun hrow => ?_) fun tx h => h value hfound
  exact .pre (triple_closeRuntimeApproval lasts_true hrow hvalue.1 hvalid.1
    fun h => (hvalid.2 h).elim) fun tx h => ⟨trivial, h⟩

lemma lasts_due (isolationDomainId : String) (ids : List String) :
    Lasts (Due isolationDomainId ids) := by
  intro tx tx' hlater hdue i hi
  obtain ⟨row, expiresAt, hrow, hcontract, hexpires, hlate⟩ := hdue i hi
  obtain ⟨row', hrow', hcolumns⟩ := hlater.rows _ row hrow
  refine ⟨row', expiresAt, hrow', ?_, ?_, hlate.trans hlater.clock⟩
  · exact (congrArg ApprovalColumns.contract hcolumns).trans hcontract
  · exact (congrArg ApprovalColumns.expiresAt hcolumns).trans hexpires

/-- **The loop** that expires approvals: those that are left stay due. -/
lemma triple_expireEachApproval (isolationDomainId : String) (ids : List String) :
    ApprovalTriple (Due isolationDomainId ids) (expireEachApproval isolationDomainId ids)
      (fun _ _ => True) := by
  induction ids with
  | nil => exact .pure fun _ _ => trivial
  | cons id ids ih =>
    refine .bind (triple_read (lasts_due _ _).reading _) fun found =>
      .bind .demand fun value => .intro fun hfound => ?_
    subst hfound
    have hlasts : Lasts fun tx => Due isolationDomainId ids tx ∧
        ∀ expiresAt ∈ value.expiresAt, (expiresAt : WithBot Time) ≤ tx.clock :=
      fun tx tx' hlater h => ⟨lasts_due _ _ tx tx' hlater h.1,
        fun expiresAt hexpires => (h.2 expiresAt hexpires).trans hlater.clock⟩
    refine .pre (.intro (p := value.IsValid ∧ value.contract = approvalContract) fun hvalue =>
      .bind (triple_closeRuntimeApproval hlasts hvalue.1 hvalue.2 rfl fun _ tx h => h.2)
        fun _ => .pre ih fun tx h => h.1) ?_
    rintro tx ⟨hread, hdue⟩
    obtain ⟨row, _, hrow, hcontract, hexpires, hlate⟩ := hdue id List.mem_cons_self
    obtain ⟨hvalid, hlocked⟩ := hread value rfl
    obtain rfl := hlocked row hrow
    refine ⟨⟨hvalid, hcontract⟩, ⟨fun i hi => hdue i (List.mem_cons_of_mem _ hi), ?_⟩, hrow⟩
    rintro time htime
    cases hexpires.symm.trans htime
    exact hlate

lemma triple_expireApprovals (isolationDomainId : String) (limit : ℕ) :
    ApprovalTriple (fun _ => True) (expireApprovals isolationDomainId limit) (fun _ _ => True) := by
  refine .bind (.look lasts_true.reading rfl) fun invocations => ?_
  refine .bind (Process.Triple.attempt (fun _ _ => trivial) fun _ _ _ _ hmoves => hmoves.told)
    fun ids => ?_
  exact .bind (triple_expireEachApproval isolationDomainId ids) fun _ => .pure fun _ _ => trivial

end Approval

/-! ### The calls -/

section

variable {env : RuntimeEnvironment} {tx : ApprovalTx}

/-- A call that keeps to the discipline. -/
def ApprovalComplies {α : Type} (tx : ApprovalTx)
    (x : Process (CommandRequest ApprovalStatement) (CommandRequest.Reply ApprovalStatement.Reply) α) :
    Prop :=
  Process.Complies ApprovalAllowed ApprovalMoves (fun _ _ => True) tx x

lemma ApprovalComplies.guard {c : Prop} [Decidable c] {x : ApprovalProgram}
    {result : Except RepositoryError ApprovalResult} (hx : c → ApprovalComplies tx x) :
    ApprovalComplies tx (if c then x else pure result) := by
  split
  · rename_i hc
    exact hx hc
  · exact .pure trivial

/-- Every request around the statements is allowed. -/
lemma commandFrame_approvals : CommandFrame ApprovalAllowed ApprovalMoves fun _ => True where
  allowed tx request haction _ := by
    cases request with
    | action => cases haction
    | _ => trivial
  keeps _ _ _ _ _ _ _ _ := trivial

lemma complies_committing {α : Type} {beginning ending : RepositoryError} {body : ApprovalAction α}
    {f : α → ApprovalResult} (hbody : ApprovalTriple (fun _ => True) body (fun _ _ => True)) :
    ApprovalComplies tx (committing beginning ending (f <$> body)) := by
  refine .ask_bind trivial fun reply tx _ => ?_
  cases reply with
  | error => exact .pure trivial
  | ok =>
    have hmap : ApprovalTriple (fun _ => True) (f <$> body) (fun _ _ => True) := .map hbody
    refine .bind (.embed (hmap tx trivial)) fun tx result _ => ?_
    cases result with
    | error => exact .pure trivial
    | ok =>
      refine .ask_bind trivial fun reply tx _ => ?_
      cases reply with
      | error | ok => exact .pure trivial

/-- **Every call keeps to the discipline.** -/
theorem complies_approvalProgram (marshal : ApprovalResult → Option String) (call : ApprovalCall) :
    ApprovalComplies tx (call.program env marshal) := by
  cases call with
  | request claim effect target request =>
    exact .guard fun _ => complies_committing
      (Approval.triple_requestApproval env claim effect target request)
  | resolve =>
    exact .guard fun hvalid =>
      complies_committing (Approval.triple_resolveInvocationRuntimeApproval false hvalid)
  | resolveCommand =>
    refine .guard fun hvalid => .bind (commandFrame_approvals.execute trivial fun now tx _ => ?_)
      fun _ _ _ => .pure trivial
    rw [Bool.and_eq_true] at hvalid
    refine ApprovalTriple.bind
      (Approval.triple_resolveInvocationRuntimeApproval true hvalid.1) (fun approval => ?_) tx trivial
    exact .pure fun _ _ => trivial
  | beginDelivery claim effect id =>
    refine .guard fun hvalid => complies_committing ?_
    rw [Bool.and_eq_true] at hvalid
    exact Approval.triple_beginDelivery claim effect id hvalid.2
  | completeDelivery claim effect id =>
    exact .guard fun _ => complies_committing (Approval.triple_completeDelivery claim effect id)
  | close claim effect id =>
    refine .guard fun hvalid => complies_committing ?_
    rw [Bool.and_eq_true] at hvalid
    exact Approval.triple_closeApproval claim effect id hvalid.2
  | expire isolationDomainId _ _ limit =>
    exact .guard fun _ => complies_committing
      (Approval.triple_expireApprovals isolationDomainId limit)

end

end DataGround
