import DataGround.Persistence.Fenced
import DataGround.Persistence.JournalRules

/-!
# The journal of an invocation has no gaps

Any number of calls write events at the same time.  The events of an invocation, committed or not,
are numbered `1, 2, …` in the order of the log (`Journal.Sound`), because a call inserts only the
number it has computed under the lock of the invocation, and nobody else inserts meanwhile.  With
what each session has written, seen and locked (`JournalTx.Agrees`) and what each call complies
with (`complies_program`), every step keeps this.

* `journal_gapless` -- committed events are numbered without a gap or a repetition; a call that was
  to record an event under a number of the runtime and is committed agrees with the one event that
  the journal has under it; and a repeated runtime event changes nothing.
-/

namespace DataGround

open WriteLog (own others onKey)

/-! ### Numbers -/

/-- The events of an invocation among writes, in order. -/
def eventsOn (key : ResourceKey) (writes : List (ℕ × JournalWrite)) : List InvocationEvent :=
  journalEvents ((onKey JournalWrite.about key writes).map Prod.snd)

variable {event : InvocationEvent}

section

variable {key : ResourceKey} {writes writes' : List (ℕ × JournalWrite)}

lemma eventsOn_append : eventsOn key (writes ++ writes') = eventsOn key writes ++ eventsOn key writes' := by
  simp only [eventsOn, WriteLog.onKey_append, List.map_append, journalEvents, List.filterMap_append]

lemma mem_journalEvents {events : List JournalWrite} :
    event ∈ journalEvents events ↔ .event event ∈ events := by
  simp only [journalEvents, List.mem_filterMap]
  constructor
  · rintro ⟨write, hwrite, hevent⟩
    cases write with
    | event =>
      cases hevent
      exact hwrite
    | row | other => cases hevent
  · exact fun h => ⟨_, h, rfl⟩

lemma mem_eventsOn :
    event ∈ eventsOn key writes ↔
      event.invocation = key ∧ ∃ writer, (writer, .event event) ∈ writes := by
  simp only [eventsOn, mem_journalEvents, List.mem_map, onKey, List.mem_filter, decide_eq_true_eq,
    Prod.exists, exists_eq_right]
  constructor
  · rintro ⟨writer, hmem, habout⟩
    exact ⟨Option.some.inj habout, writer, hmem⟩
  · rintro ⟨rfl, writer, hmem⟩
    exact ⟨writer, hmem, rfl⟩

/-- The events of an invocation, as the query that numbers an event sees them. -/
lemma filter_journalEvents :
    (journalEvents (writes.map Prod.snd)).filter (·.invocation = key) = eventsOn key writes := by
  induction writes with
  | nil => rfl
  | cons write writes ih =>
    obtain ⟨writer, w⟩ := write
    have hcons : eventsOn key ((writer, w) :: writes) =
        eventsOn key [(writer, w)] ++ eventsOn key writes := by
      rw [← eventsOn_append]
      rfl
    rw [hcons, ← ih]
    cases w with
    | event e =>
      by_cases hkey : e.invocation = key <;>
        simp [eventsOn, onKey, journalEvents, JournalWrite.about, JournalWrite.event?, hkey]
    | row | other => rfl

/-- The events are numbered `1, 2, …` in order. -/
def Numbered (events : List InvocationEvent) : Prop :=
  events.map (·.sequence) = List.range' 1 events.length

variable {events : List InvocationEvent}

lemma Numbered.of_append {events' : List InvocationEvent} (h : Numbered (events ++ events')) :
    Numbered events := by
  rw [Numbered, List.map_append] at h
  obtain ⟨_, -, hevents, -⟩ := List.range'_eq_append_iff.mp h.symm
  have hlength := congrArg List.length hevents
  simp only [List.length_map, List.length_range'] at hlength
  rw [Numbered, hevents, hlength]

lemma Numbered.concat (h : Numbered events) (hevent : event.sequence = events.length + 1) :
    Numbered (events ++ [event]) := by
  unfold Numbered at h ⊢
  rw [List.map_append, h, List.length_append, List.length_singleton, List.range'_concat]
  simp [hevent, Nat.add_comm]

lemma foldr_max_range' {n bound : ℕ} (h : n ≤ bound) :
    (List.range' 1 n).foldr max bound = bound := by
  induction n with
  | zero => rfl
  | succ n ih =>
    rw [List.range'_concat, List.foldr_append]
    have hmax : max (1 + 1 * n) bound = bound := by omega
    simp only [List.foldr_cons, List.foldr_nil, hmax]
    exact ih (by omega)

/-- Under the lock, `COALESCE(max(sequence), 0) + 1` is one more than there are events. -/
lemma Numbered.nextSequence (h : Numbered (events.filter (·.invocation = key))) :
    nextSequence events key = (events.filter (·.invocation = key)).length + 1 := by
  have hmap : (events.filter (·.invocation = key)).foldr (fun event => max event.sequence) 0 =
      ((events.filter (·.invocation = key)).map (·.sequence)).foldr max 0 := by
    rw [List.foldr_map]
  rw [DataGround.nextSequence, hmap, h]
  generalize (events.filter (·.invocation = key)).length = n
  cases n with
  | zero => rfl
  | succ n =>
    rw [List.range'_concat, List.foldr_append]
    have hlast : max (1 + 1 * n) 0 = n + 1 := by omega
    simp only [List.foldr_cons, List.foldr_nil, hlast]
    rw [foldr_max_range' (by omega)]

end

/-! ### The database -/

lemma InvocationEvent.collides_comm (event other : InvocationEvent) :
    event.collides other = other.collides event := by
  have hnone : event.sourceSequence = other.sourceSequence →
      (event.sourceSequence = none ↔ other.sourceSequence = none) := fun h => by rw [h]
  simp only [InvocationEvent.collides, eq_comm (a := event.id),
    eq_comm (a := event.invocation), eq_comm (a := event.sequence)]
  by_cases h : event.sourceSequence = other.sourceSequence
  · simp [h]
  · simp [h, Ne.symm h]

lemma JournalWrite.conflicts_comm (w w' : JournalWrite) : w.conflicts w' = w'.conflicts w := by
  cases w with
  | row => cases w' <;> simp [JournalWrite.conflicts, eq_comm]
  | event e => cases w' <;> simp [JournalWrite.conflicts, e.collides_comm]
  | other => cases w' <;> rfl

/-- The writes respect the unique indexes and the locks, and the events of every invocation are
numbered in order. -/
structure Journal.Sound (s : Journal) : Prop where
  distinct : s.Distinct JournalWrite.conflicts
  guarded : s.Guarded JournalWrite.about
  numbered : ∀ key, Numbered (eventsOn key s.all)

variable {w : JournalWrite}

namespace Journal.Sound

variable {s t : Journal} {id : ℕ} {key : ResourceKey}

lemma empty : Journal.Sound WriteLog.empty :=
  ⟨WriteLog.distinct_empty, WriteLog.guarded_empty, fun _ => rfl⟩

/-- What is visible under a lock are all events of the invocation. -/
lemma nextSequence (hs : Sound s) (hkey : s.holder key = some id) :
    nextSequence (journalEvents (s.visible id)) key = (eventsOn key s.all).length + 1 := by
  have hvisible : (journalEvents (s.visible id)).filter (·.invocation = key) = eventsOn key s.all := by
    rw [WriteLog.visible, filter_journalEvents, eventsOn, hs.guarded.onKey_visible hkey]
    rfl
  rw [Numbered.nextSequence (hvisible ▸ hs.numbered key), hvisible]

lemma lock (hs : Sound s) {keys : List ResourceKey} (h : s.lock id keys = some t) : Sound t := by
  have hguarded := hs.guarded.lock h
  obtain ⟨-, rfl⟩ := WriteLog.lock_eq_some h
  exact ⟨hs.distinct, hguarded, hs.numbered⟩

/-- A write of something else, or of the next event under the lock of the invocation. -/
lemma write (hs : Sound s)
    (hw : ∀ event, w = .event event → s.holder event.invocation = some id ∧
      event.sequence = (eventsOn event.invocation s.all).length + 1)
    (h : s.write JournalWrite.conflicts id w = .written t) :
    t = { s with pending := s.pending ++ [(id, w)] } ∧ Sound t := by
  obtain ⟨rfl, hdistinct⟩ := hs.distinct.write JournalWrite.conflicts_comm h
  refine ⟨rfl, hdistinct, hs.guarded.write fun key hkey => ?_, fun key => ?_⟩
  · cases w with
    | event e =>
      cases hkey
      exact (hw e rfl).1
    | row | other => cases hkey
  · have hall : eventsOn key (WriteLog.all { s with pending := s.pending ++ [(id, w)] }) =
        eventsOn key s.all ++ eventsOn key [(id, w)] := by
      rw [← eventsOn_append, WriteLog.all, WriteLog.all, List.append_assoc]
    rw [hall]
    cases w with
    | event e =>
      by_cases hkey : e.invocation = key
      · have hnew : eventsOn key [(id, .event e)] = [e] := by
          simp [eventsOn, onKey, journalEvents, JournalWrite.about, JournalWrite.event?, hkey]
        rw [hnew]
        refine (hs.numbered key).concat ?_
        rw [(hw e rfl).2, hkey]
      · have hnew : eventsOn key [(id, .event e)] = [] := by
          simp [eventsOn, onKey, journalEvents, JournalWrite.about, hkey]
        rw [hnew, List.append_nil]
        exact hs.numbered key
    | row | other =>
      simpa [eventsOn, onKey, journalEvents, JournalWrite.about] using hs.numbered key

lemma commit (hs : Sound s) (id : ℕ) : Sound (s.commit id) where
  distinct := hs.distinct.commit JournalWrite.conflicts_comm id
  guarded := hs.guarded.others _ id
  numbered key := by
    rw [eventsOn, hs.guarded.onKey_commit]
    exact hs.numbered key

lemma rollback (hs : Sound s) (id : ℕ) : Sound (s.rollback id) where
  distinct := hs.distinct.rollback id
  guarded := hs.guarded.others _ id
  numbered key := by
    have hkept : onKey JournalWrite.about key (s.rollback id).all <+:
        onKey JournalWrite.about key s.all := hs.guarded.onKey_rollback
    obtain ⟨rest, hrest⟩ := hkept
    have hall : eventsOn key s.all =
        eventsOn key (s.rollback id).all ++ journalEvents (rest.map Prod.snd) := by
      rw [eventsOn, ← hrest, List.map_append]
      exact List.filterMap_append
    have hnumbered := hs.numbered key
    rw [hall] at hnumbered
    exact hnumbered.of_append

/-- The committed events are numbered in order too. -/
lemma numbered_log (hs : Sound s) (key : ResourceKey) : Numbered (eventsOn key s.log) := by
  have hall := hs.numbered key
  rw [WriteLog.all, eventsOn_append] at hall
  exact hall.of_append

end Journal.Sound

/-! ### Sessions -/

/-- An event with a number of the runtime has the payload that the call was made with. -/
def JournalTx.Faithful (tx : JournalTx) : Prop :=
  ∀ event, .event event ∈ tx.written → event.sourceSequence ≠ none →
    ∃ recording, tx.recording = some recording ∧ event.payload = recording.payload

/-- **A session agrees with the database**: what it has written is there, uncommitted or committed;
it has the locks it has taken; it sees what it has seen; a number it has allocated is still the
next one; and it is committed only with the event that it answers for. -/
structure JournalTx.Agrees (env : RuntimeEnvironment) (s : Journal) (id : ℕ) (isOpen : Bool)
    (tx : JournalTx) : Prop where
  log : (own id s.log).map Prod.snd = if tx.committed then tx.written else []
  pending : (own id s.pending).map Prod.snd =
    if isOpen = true ∧ tx.committed = false then tx.written else []
  locked : isOpen = true → ∀ key ∈ tx.locked, s.holder key = some id
  known : isOpen = true ∨ tx.committed = true → ∀ row ∈ tx.known, .row row ∈ s.visible id
  seen : isOpen = true ∨ tx.committed = true → ∀ event ∈ tx.seen, .event event ∈ s.visible id
  allocated : isOpen = true → ∀ key number, tx.allocated = some (key, number) →
    key ∈ tx.locked ∧ number = (eventsOn key s.all).length + 1
  recorded : tx.committed = true → tx.Recorded env
  faithful : tx.Faithful

namespace JournalTx.Agrees

variable {env : RuntimeEnvironment} {s t : Journal} {id other : ℕ} {isOpen : Bool}
  {tx tx' : JournalTx}

lemma spared (h : tx.Agrees env s other isOpen)
    (hspares : WriteLog.Spares JournalWrite.about other s t) : tx.Agrees env t other isOpen where
  log := by rw [hspares.own_log, h.log]
  pending := by rw [hspares.own_pending, h.pending]
  locked hopen key hkey := hspares.holder key (h.locked hopen key hkey)
  known hopen row hrow := hspares.visible (h.known hopen row hrow)
  seen hopen event hevent := hspares.visible (h.seen hopen event hevent)
  allocated hopen key number hnumber := by
    obtain ⟨hlocked, hnext⟩ := h.allocated hopen key number hnumber
    refine ⟨hlocked, ?_⟩
    rw [hnext, eventsOn, eventsOn, hspares.onKey key (h.locked hopen key hlocked)]
  recorded := h.recorded
  faithful := h.faithful

/-- Rows that an open session knows are determined by their keys. -/
lemma knownOnce (h : tx.Agrees env s id true) (hs : s.Sound) : tx.KnownOnce := by
  intro row hrow row' hrow' hkey
  have hall : ∀ row ∈ tx.known, ∃ writer, (writer, JournalWrite.row row) ∈ s.all := by
    intro row hrow
    rcases WriteLog.mem_visible.mp (h.known (.inl rfl) row hrow) with ⟨writer, hlog⟩ | hpending
    · exact ⟨writer, List.mem_append_left _ hlog⟩
    · exact ⟨id, List.mem_append_right _ hpending⟩
  obtain ⟨_, hwrite⟩ := hall row hrow
  obtain ⟨_, hwrite'⟩ := hall row' hrow'
  have heq := hs.distinct.eq_of_conflicts JournalWrite.conflicts_comm hwrite hwrite'
    (decide_eq_true hkey)
  exact JournalWrite.row.inj (Prod.mk.inj heq).2

variable {rows : List JournalRow}

lemma looked (h : tx.Agrees env s id true) {seen : List InvocationEvent}
    (hrows : ∀ row ∈ rows, .row row ∈ s.visible id)
    (hseen : ∀ event ∈ seen, .event event ∈ s.visible id) :
    ({ tx with known := rows ++ tx.known, seen := seen ++ tx.seen } : JournalTx).Agrees env s id
      true := by
  refine { h with
    known := fun hopen row hrow => (List.mem_append.mp hrow).elim (hrows row) (h.known hopen row)
    seen := fun hopen event hevent => (List.mem_append.mp hevent).elim (hseen event) (h.seen hopen event)
    recorded := fun hcommitted recording hrecording => ?_ }
  obtain ⟨invocationId, event, hknown, hof, hrecords, hevent⟩ :=
    h.recorded hcommitted recording hrecording
  exact ⟨invocationId, event, List.mem_append_right _ hknown, hof, hrecords,
    hevent.imp_right fun hevent => ⟨List.mem_append_right _ hevent.1, hevent.2⟩⟩

lemma allocates (h : tx.Agrees env s id true) (hs : s.Sound) {key : ResourceKey}
    (hkey : key ∈ tx.locked) :
    ({ tx with allocated := some (key, nextSequence (journalEvents (s.visible id)) key) } :
      JournalTx).Agrees env s id true := by
  refine { h with allocated := fun hopen key' number hnumber => ?_ }
  cases hnumber
  exact ⟨hkey, hs.nextSequence (h.locked hopen key hkey)⟩

lemma locks (h : tx.Agrees env s id true) {keys : List ResourceKey}
    (hrows : ∀ row ∈ rows, .row row ∈ s.visible id) (hlock : s.lock id keys = some t) :
    ({ tx with locked := keys ++ tx.locked, known := rows ++ tx.known, allocated := none } :
      JournalTx).Agrees env t id true := by
  obtain ⟨-, rfl⟩ := WriteLog.lock_eq_some hlock
  refine ⟨h.log, h.pending, fun hopen key hkey => ?_, fun hopen row hrow => ?_, h.seen,
    fun _ _ _ hnone => (by cases hnone), fun hcommitted recording hrecording => ?_, h.faithful⟩
  · by_cases hmem : key ∈ keys
    · exact if_pos hmem
    · refine (if_neg hmem).trans (h.locked hopen key ?_)
      exact (List.mem_append.mp hkey).resolve_left hmem
  · exact (List.mem_append.mp hrow).elim (hrows row) (h.known hopen row)
  · obtain ⟨invocationId, event, hknown, hrest⟩ := h.recorded hcommitted recording hrecording
    exact ⟨invocationId, event, List.mem_append_right _ hknown, hrest⟩

lemma writes (h : tx.Agrees env s id true) (hopen : tx.committed = false)
    (hrows : ∀ row ∈ rows, w = .row row)
    (hfaithful : ∀ event, w = .event event → event.sourceSequence ≠ none →
      ∃ recording, tx.recording = some recording ∧ event.payload = recording.payload) :
    ({ tx with known := rows ++ tx.known, allocated := none, written := tx.written ++ [w] } :
      JournalTx).Agrees env { s with pending := s.pending ++ [(id, w)] } id true := by
  have hvisible : s.visible id ⊆
      WriteLog.visible { s with pending := s.pending ++ [(id, w)] } id := by
    rw [WriteLog.visible_concat_self]
    exact List.subset_append_left _ _
  have hnew : w ∈ WriteLog.visible { s with pending := s.pending ++ [(id, w)] } id := by
    rw [WriteLog.visible_concat_self]
    exact List.mem_append_right _ List.mem_cons_self
  refine ⟨?_, ?_, h.locked, fun hlive row hrow => ?_, fun hlive event hevent => ?_,
    fun _ _ _ hnone => (by cases hnone), fun hcommitted => ?_, fun event hevent => ?_⟩
  · rw [h.log]
    simp [hopen]
  · have hown : own id (s.pending ++ [(id, w)]) = own id s.pending ++ [(id, w)] := by
      simp [own]
    rw [hown, List.map_append, h.pending]
    simp [hopen]
  · rcases List.mem_append.mp hrow with hrow | hrow
    · exact hrows row hrow ▸ hnew
    · exact hvisible (h.known hlive row hrow)
  · exact hvisible (h.seen hlive event hevent)
  · cases hopen.symm.trans hcommitted
  · rcases List.mem_append.mp hevent with hold | hnew
    · exact h.faithful event hold
    · exact hfaithful event (List.mem_singleton.mp hnew).symm

lemma commits (h : tx.Agrees env s id true) (hopen : tx.committed = false)
    (hrecorded : tx.Recorded env) :
    ({ tx with locked := [], allocated := none, committed := true } : JournalTx).Agrees env
      (s.commit id) id true := by
  have hown : ∀ writes : List (ℕ × JournalWrite), own id (own id writes) = own id writes := by
    intro writes
    simp [own]
  have hnone := WriteLog.own_others_self id s.pending
  have hvisible : s.visible id = (s.commit id).visible id := by
    simp only [WriteLog.visible, WriteLog.commit, hnone, List.append_nil]
  refine ⟨?_, ?_, fun _ key hkey => (by cases hkey), fun _ row hrow => ?_, fun _ event hevent => ?_,
    fun _ _ _ hnone => (by cases hnone), fun _ => hrecorded, h.faithful⟩
  · have hlog : own id (s.commit id).log = own id s.log ++ own id s.pending := by
      conv_rhs => rw [← hown s.pending]
      simp [WriteLog.commit, own]
    rw [hlog, List.map_append, h.log, h.pending]
    simp [hopen]
  · simp [WriteLog.commit, hnone]
  · exact hvisible ▸ h.known (.inl rfl) row hrow
  · exact hvisible ▸ h.seen (.inl rfl) event hevent

lemma rollsBack (h : tx.Agrees env s id true) (hopen : tx.committed = false) :
    ({ tx with locked := [], known := [], seen := [], allocated := none, written := [] } :
      JournalTx).Agrees env (s.rollback id) id true := by
  have hnone := WriteLog.own_others_self id s.pending
  refine ⟨?_, ?_, fun _ key hkey => (by cases hkey), fun _ row hrow => (by cases hrow),
    fun _ event hevent => (by cases hevent), fun _ _ _ hnone => (by cases hnone), fun h => ?_,
    fun event hevent => (by cases hevent)⟩
  · refine h.log.trans ?_
    simp [hopen]
  · simp [WriteLog.rollback, hnone]
  · cases hopen.symm.trans h

lemma closes (h : tx.Agrees env s id true) : tx.Agrees env (s.rollback id) id false := by
  have hnone := WriteLog.own_others_self id s.pending
  have hvisible : tx.committed = true → s.visible id = (s.rollback id).visible id := by
    intro hcommitted
    have hpending : own id s.pending = [] := by
      refine List.map_eq_nil_iff.mp (h.pending.trans ?_)
      simp [hcommitted]
    simp only [WriteLog.visible, WriteLog.rollback, hnone, hpending]
  refine ⟨h.log, ?_, fun hopen => (by cases hopen), fun hlive row hrow => ?_,
    fun hlive event hevent => ?_, fun hopen => (by cases hopen), h.recorded, h.faithful⟩
  · simp [WriteLog.rollback, hnone]
  · have hcommitted := hlive.resolve_left (by simp)
    exact hvisible hcommitted ▸ h.known (.inl rfl) row hrow
  · have hcommitted := hlive.resolve_left (by simp)
    exact hvisible hcommitted ▸ h.seen (.inl rfl) event hevent

end JournalTx.Agrees

/-! ### One request -/

section

variable {env : RuntimeEnvironment} {s s' : Journal} {id : ℕ} {tx tx' : JournalTx}
  {request : CommandRequest JournalStatement} {answer : JournalAnswer}
  {reply : request.Reply JournalStatement.Reply}

lemma JournalAllowed.isOpen (h : JournalAllowed env tx request) (hwrites : request.writes = true) :
    tx.committed = false := by
  cases request with
  | action statement =>
    cases statement with
    | change | insert => exact h
    | insertEvent | insertEventLive => exact h.1.1
    | appendEvent => exact h.1
    | _ => cases hwrites
  | reserve | complete => exact h
  | _ => cases hwrites

/-- An event that may be inserted is the next one of a locked invocation. -/
lemma JournalAllowed.inserts (h : JournalAllowed env tx request) (hs : s.Sound)
    (htx : tx.Agrees env s id true) (hinserts : request.Inserts s id event) :
    (s.holder event.invocation = some id ∧
      event.sequence = (eventsOn event.invocation s.all).length + 1) ∧
    (event.sourceSequence ≠ none →
      ∃ recording, tx.recording = some recording ∧ event.payload = recording.payload) := by
  have hmay : ∀ e, event = e → tx.MayInsert e → s.holder event.invocation = some id ∧
      event.sequence = (eventsOn event.invocation s.all).length + 1 := by
    rintro e rfl ⟨-, hlocked, hallocated⟩
    exact ⟨htx.locked rfl _ hlocked, (htx.allocated rfl _ _ hallocated).2⟩
  cases request with
  | action statement =>
    cases statement with
    | insertEvent e =>
      refine ⟨hmay e hinserts h.1, fun hsource => ?_⟩
      rw [show event = e from hinserts] at hsource
      exact (hsource h.2).elim
    | insertEventLive _ e =>
      refine ⟨hmay e hinserts h.1, fun _ => ?_⟩
      rw [show event = e from hinserts]
      exact h.2
    | appendEvent =>
      obtain ⟨hof, hsequence, hsource⟩ := hinserts
      have hholder := htx.locked rfl _ h.2.1
      rw [hsequence, hof, hsource]
      exact ⟨⟨hholder, hs.nextSequence hholder⟩, fun hne => (hne h.2.2).elim⟩
    | _ => cases hinserts
  | _ => cases hinserts

/-- **One request** of a call that keeps to the discipline: the database stays sound, the session
agrees with it, and the others are left alone. -/
lemma JournalTx.Agrees.served (htx : tx.Agrees env s id true) (hs : s.Sound)
    (hallowed : JournalAllowed env tx request)
    (hserved : tx.serve s id request answer = some (reply, tx', s')) :
    s'.Sound ∧ tx'.Agrees env s' id true ∧
      ∀ other, other ≠ id → WriteLog.Spares JournalWrite.about other s s' := by
  cases JournalTx.serve_did hserved with
  | looked hrows hseen => exact ⟨hs, htx.looked hrows hseen, fun _ _ => .refl⟩
  | allocated hrequest =>
    subst hrequest
    exact ⟨hs, htx.allocates hs hallowed.2, fun _ _ => .refl⟩
  | locked hrows hlock =>
    exact ⟨hs.lock hlock, htx.locks hrows hlock, fun _ hne => WriteLog.spares_lock hne hlock⟩
  | @wrote _ _ w t _ hwrites hrows hinserts hlock hwritten =>
    have hlocked := htx.locks (fun row (h : row ∈ []) => by cases h) hlock
    have hevent : ∀ event, w = .event event → t.holder event.invocation = some id ∧
        event.sequence = (eventsOn event.invocation t.all).length + 1 := by
      intro event hw
      obtain ⟨⟨hholder, hsequence⟩, -⟩ := hallowed.inserts hs htx (hinserts event hw)
      have hkept := WriteLog.holder_of_lock hlock (.inr hholder)
      obtain ⟨-, rfl⟩ := WriteLog.lock_eq_some hlock
      exact ⟨hkept, hsequence⟩
    obtain ⟨rfl, hsound⟩ := (hs.lock hlock).write hevent hwritten
    refine ⟨hsound, hlocked.writes (hallowed.isOpen hwrites) hrows fun event hw =>
      (hallowed.inserts hs htx (hinserts event hw)).2, fun other hne => ?_⟩
    refine (WriteLog.spares_lock hne hlock).trans (WriteLog.spares_write hne fun key hkey => ?_)
    cases w with
    | event e =>
      cases hkey
      exact (hevent e rfl).1
    | row | other => cases hkey
  | committed hrequest =>
    subst hrequest
    exact ⟨hs.commit id, htx.commits hallowed.1 hallowed.2,
      fun _ hne => WriteLog.spares_commit hs.guarded hne⟩
  | rolledBack hrequest =>
    subst hrequest
    exact ⟨hs.rollback id, htx.rollsBack hallowed.1,
      fun _ hne => WriteLog.spares_rollback hs.guarded hne⟩

end

/-! ### Whole runs -/

/-- The database with the calls at work. -/
abbrev JournalSystem :=
  Server.State Journal JournalTx (CommandRequest JournalStatement)
    (CommandRequest.Reply JournalStatement.Reply) (Except RepositoryError JournalResult)

/-- One event at the database. -/
abbrev JournalStep := Server.Event JournalAnswer JournalCall

/-- **What the calls do keeps the database sound**, and their sessions in agreement with it. -/
lemma journal_discipline {env : RuntimeEnvironment} {marshal : JournalResult → Option String} :
    Server.Discipline Journal.Sound (fun tx s id isOpen => tx.Agrees env s id isOpen)
      (journalServer env marshal) (JournalAllowed env) where
  serve s id tx request answer reply tx' s' hs htx hallowed hserved := by
    obtain ⟨hs', htx', hspares⟩ := htx.served hs hallowed hserved
    exact ⟨hs', htx', fun other _ _ hne h => h.spared (hspares other hne)⟩
  release s id tx hs htx :=
    ⟨hs.rollback id, htx.closes,
      fun other _ _ hne h => h.spared (WriteLog.spares_rollback hs.guarded hne)⟩

/-- The system of calls is consistent. -/
abbrev JournalSystem.Consistent (env : RuntimeEnvironment) (marshal : JournalResult → Option String)
    (sys : JournalSystem) : Prop :=
  Server.Consistent Journal.Sound (fun tx s id isOpen => tx.Agrees env s id isOpen)
    (journalServer env marshal) (JournalAllowed env) (fun _ _ => True) sys

namespace JournalSystem.Consistent

variable {env : RuntimeEnvironment} {marshal : JournalResult → Option String} {sys : JournalSystem}

lemma of_run {events : List JournalStep}
    (h : Run.run (journalServer env marshal).step (Server.initial WriteLog.empty) events = some sys) :
    sys.Consistent env marshal := by
  refine journal_discipline.of_run (s := WriteLog.empty) (fun call => ?_) Journal.Sound.empty
    (fun id call => ⟨rfl, rfl, ?_, ?_, ?_, ?_, ?_, ?_⟩) h
  · refine (complies_program marshal call).of_moves fun tx request reply tx' hallowed hmoves => ?_
    obtain ⟨s, id, answer, s', hs, htx, hserved⟩ := hmoves
    obtain ⟨hs', htx', -⟩ := htx.served hs hallowed hserved
    exact ⟨htx'.knownOnce hs', s, id, answer, s', hserved⟩
  · exact fun _ key hkey => by cases hkey
  · exact fun _ row hrow => by cases hrow
  · exact fun _ event hevent => by cases hevent
  · exact fun _ key number hnone => by cases hnone
  · exact fun hcommitted => by cases hcommitted
  · exact fun event hevent => by cases hevent

/-- A call that is not committed has left nothing. -/
lemma not_mem_log (hsys : sys.Consistent env marshal) {id : ℕ} {session} (hsession : sys.sessions id = some session)
    (hwritten : session.tx.committed = false ∨ session.tx.written = []) (w : JournalWrite) :
    (id, w) ∉ sys.shared.log := by
  intro hmem
  have hown : w ∈ (own id sys.shared.log).map Prod.snd :=
    List.mem_map.mpr ⟨(id, w), WriteLog.mem_own.mpr ⟨hmem, rfl⟩, rfl⟩
  rw [(hsys.sessions id session hsession).log] at hown
  rcases hwritten with hopen | hnone
  · simp [hopen] at hown
  · simp [hnone] at hown

/-- What a committed call sees is committed. -/
lemma mem_log_of_visible (hsys : sys.Consistent env marshal) {id : ℕ} {session}
    (hsession : sys.sessions id = some session) (hcommitted : session.tx.committed = true)
    (hw : w ∈ sys.shared.visible id) : ∃ writer, (writer, w) ∈ sys.shared.log := by
  refine (WriteLog.mem_visible.mp hw).resolve_right fun hpending => ?_
  have hown : w ∈ (own id sys.shared.pending).map Prod.snd :=
    List.mem_map.mpr ⟨(id, w), WriteLog.mem_own.mpr ⟨hpending, rfl⟩, rfl⟩
  rw [(hsys.sessions id session hsession).pending] at hown
  simp [hcommitted] at hown

/-- A committed event was written by a session. -/
lemma writer (hsys : sys.Consistent env marshal) {id : ℕ} (hw : (id, w) ∈ sys.shared.log) :
    ∃ session, sys.sessions id = some session ∧ w ∈ session.tx.written := by
  have hown : (id, w) ∈ own id sys.shared.log := WriteLog.mem_own.mpr ⟨hw, rfl⟩
  cases hsession : sys.sessions id with
  | none =>
    have hnone := (hsys.fresh id (.expireApprovals "" "" "" 0) hsession).log
    rw [List.map_eq_nil_iff.mp hnone] at hown
    cases hown
  | some session =>
    refine ⟨session, rfl, ?_⟩
    have hmem := List.mem_map_of_mem (f := Prod.snd) hown
    rw [(hsys.sessions id session hsession).log] at hmem
    split at hmem
    · exact hmem
    · cases hmem

/-- **A committed call has its event in the journal**, and it is the only one under its number. -/
lemma recorded (hsys : sys.Consistent env marshal) {id : ℕ} {session}
    (hsession : sys.sessions id = some session) (hcommitted : session.tx.committed = true)
    {recording : Recording} (hrecording : session.tx.recording = some recording) :
    ∃ invocationId writer event,
      (∃ inserter, (inserter, .row (.operation recording.operation invocationId)) ∈ sys.shared.log) ∧
      (writer, .event event) ∈ sys.shared.log ∧
      event.invocation = ⟨recording.operation.isolationDomainId, invocationId⟩ ∧
      event.Records env recording ∧
      (∀ other ∈ eventsOn event.invocation sys.shared.log,
        other.sourceSequence = some recording.sourceSequence → other = event) ∧
      (recording.isRuntimeEvent = true → writer ≠ id → ∀ w, (id, w) ∉ sys.shared.log) := by
  have hagrees := hsys.sessions id session hsession
  obtain ⟨invocationId, event, hknown, hof, hrecords, hevent⟩ :=
    hagrees.recorded hcommitted recording hrecording
  obtain ⟨inserter, hinserted⟩ := hsys.mem_log_of_visible hsession hcommitted
    (hagrees.known (.inr hcommitted) _ hknown)
  have hunique : ∀ writer, (writer, .event event) ∈ sys.shared.log →
      ∀ other ∈ eventsOn event.invocation sys.shared.log,
        other.sourceSequence = some recording.sourceSequence → other = event := by
    intro writer hwriter other hother hsource
    obtain ⟨hinvocation, _, hwriter'⟩ := mem_eventsOn.mp hother
    have hcollides : other.collides event = true := by
      simp [InvocationEvent.collides, hinvocation, hsource, hrecords.1]
    have heq := hsys.sound.distinct.eq_of_conflicts JournalWrite.conflicts_comm
      (List.mem_append_left _ hwriter') (List.mem_append_left _ hwriter) hcollides
    exact JournalWrite.event.inj (Prod.mk.inj heq).2
  rcases hevent with hwritten | ⟨hseen, hreads⟩
  · have hlog : (id, .event event) ∈ sys.shared.log := by
      have hmem : .event event ∈ (own id sys.shared.log).map Prod.snd := by
        rw [hagrees.log, if_pos hcommitted]
        exact hwritten
      obtain ⟨⟨writer, _⟩, hown, rfl⟩ := List.mem_map.mp hmem
      obtain ⟨hlog, rfl⟩ := WriteLog.mem_own.mp hown
      exact hlog
    exact ⟨invocationId, id, event, ⟨inserter, hinserted⟩, hlog, hof, hrecords, hunique id hlog,
      fun _ hne => (hne rfl).elim⟩
  · obtain ⟨writer, hwriter⟩ := hsys.mem_log_of_visible hsession hcommitted
      (hagrees.seen (.inr hcommitted) _ hseen)
    exact ⟨invocationId, writer, event, ⟨inserter, hinserted⟩, hwriter, hof, hrecords,
      hunique writer hwriter, fun hruntime _ => hsys.not_mem_log hsession (.inr (hreads hruntime))⟩

end JournalSystem.Consistent

/-- Serving a call does not change what it is to record. -/
lemma serve_recording {env : RuntimeEnvironment} {marshal : JournalResult → Option String}
    (s : Journal) (id : ℕ) (tx : JournalTx) (request : CommandRequest JournalStatement)
    (answer : JournalAnswer) (reply : request.Reply JournalStatement.Reply) (tx' : JournalTx)
    (s' : Journal) (h : (journalServer env marshal).serve s id tx request answer =
      some (reply, tx', s')) : tx'.recording = tx.recording := by
  cases JournalTx.serve_did h <;> rfl

/-- **The journal has no gaps, and keeps what was recorded first.**  After every interleaving of the
statements, failures, lost commits and ends of any calls:

* the committed events of every invocation are numbered `1, 2, …, n` in the order of their commits;
* a call that is not committed has left nothing;
* a committed call that was to record an event under a number of the runtime finds exactly one event
  of the invocation of its operation under this number, of its type, and if the call repeats a
  runtime event that another one has written, it has changed nothing;
* if all payloads are kept by Go's decoder, the payload is that of the call too: a number is not used
  again with another content. -/
theorem journal_gapless (env : RuntimeEnvironment) (marshal : JournalResult → Option String)
    (steps : List JournalStep) (sys : JournalSystem)
    (h : Run.run (journalServer env marshal).step (Server.initial WriteLog.empty) steps =
      some sys) :
    (∀ key, (eventsOn key sys.shared.log).map (·.sequence) =
      List.range' 1 (eventsOn key sys.shared.log).length) ∧
    ∀ id call, .start id call ∈ steps → ∃ session, sys.sessions id = some session ∧
      (session.tx.committed = false → ∀ w, (id, w) ∉ sys.shared.log) ∧
      ∀ recording, call.recording env = some recording → session.tx.committed = true →
        ∃ invocationId writer event,
          (∃ inserter,
            (inserter, .row (.operation recording.operation invocationId)) ∈ sys.shared.log) ∧
          (writer, .event event) ∈ sys.shared.log ∧
          event.invocation = ⟨recording.operation.isolationDomainId, invocationId⟩ ∧
          event.sourceSequence = some recording.sourceSequence ∧
          event.eventType = recording.eventType ∧
          (∀ other ∈ eventsOn event.invocation sys.shared.log,
            other.sourceSequence = some recording.sourceSequence → other = event) ∧
          (recording.isRuntimeEvent = true → writer ≠ id → ∀ w, (id, w) ∉ sys.shared.log) ∧
          ((∀ id call recording, .start id call ∈ steps → call.recording env = some recording →
              env.reencode recording.payload = some recording.payload) →
            event.payload = recording.payload) := by
  have hsys := JournalSystem.Consistent.of_run h
  refine ⟨hsys.sound.numbered_log, fun id call hstart => ?_⟩
  obtain ⟨session, hsession, hcall⟩ := Server.session_of_start serve_recording h hstart
  refine ⟨session, hsession, fun hopen => hsys.not_mem_log hsession (.inl hopen),
    fun recording hrecording hcommitted => ?_⟩
  obtain ⟨invocationId, writer, event, hinserted, hwriter, hof, ⟨hsource, htype, hpayload⟩, hunique,
    hreplay⟩ := hsys.recorded hsession hcommitted (hcall.trans hrecording)
  refine ⟨invocationId, writer, event, hinserted, hwriter, hof, hsource, htype, hunique, hreplay,
    fun hkept => ?_⟩
  rcases hpayload with hsame | hdecoded
  · exact hsame
  · -- the event has the payload of the call that wrote it, which the decoder keeps
    obtain ⟨first, hfirst, hwritten⟩ := hsys.writer hwriter
    obtain ⟨recording', hrecording', hpayload'⟩ := (hsys.sessions writer first hfirst).faithful event
      hwritten (by rw [hsource]; exact Option.some_ne_none _)
    obtain ⟨call', hstart', hcall'⟩ := Server.start_of_session serve_recording h hfirst
    have hsame := hkept writer call' recording' hstart' (hcall'.symm.trans hrecording')
    rw [hpayload'] at hdecoded ⊢
    exact Option.some.inj (hsame.symm.trans hdecoded)

namespace Scenario

/-- Documents that are short and accepted, and decoded by `json.Unmarshal`. -/
def runtimeEnv : RuntimeEnvironment where
  toEnvironment := env
  encodedLength := fun _ => 0
  payloadParses := fun _ _ => true
  reencode := Json.decoded
  formatTime := toString
  validQuestionPrompts := fun _ => true
  validQuestionAnswers := fun _ _ => true

/-- The target of the operation. -/
def target : RuntimeTarget where
  operation := ⟨key.isolationDomainId, key.id⟩
  invocationId := "inv"
  serviceId := "svc"
  revisionId := "rev"
  actorId := "caller"
  correlationId := "request"

/-- A runtime event with the number 7, whose payload counts to `n`. -/
def counting (n : ℚ) : JournalCall :=
  .recordRuntimeEvent (claim "one" 1 10 .running)
    ⟨7, "session.progress", some (.ofMembers [("count", .number n)])⟩

/-- What the database answers one call after the other. -/
def answering (id : ℕ) (call : JournalCall) (answers : List JournalAnswer) : List JournalStep :=
  .start id call :: answers.map (.answer id)

/-- The invocation is accepted. -/
def journalAccepted : List JournalStep :=
  answering 0 (.acceptInvocation ⟨⟨"iso", "POST", "/v1/invocations", "key-0001"⟩, "digest"⟩ input)
    [.executed, .time 0, .flag true, .alias ⟨"rev", "reference/v1", none⟩, .executed, .executed,
      .flag true, .flag true, .executed, .executed, .executed, .executed]

/-- The event is recorded for the first time. -/
def recordedFirst (id : ℕ) (n : ℚ) : List JournalStep :=
  answering id (counting n) [.executed, .time 11, .belongs "inv", .target target, .executed,
    .executed, .time 11, .flag true, .executed]

/-- The number is used again. -/
def recordedAgain (id : ℕ) (n : ℚ) : List JournalStep :=
  answering id (counting n) [.executed, .time 12, .belongs "inv", .target target, .executed,
    .executed]

/-- What a call has recorded, if it is committed. -/
def committedRecording (sys : JournalSystem) (id : ℕ) : Option Recording :=
  match sys.sessions id with
  | some session => if session.tx.committed then session.tx.recording else none
  | none => none

/-- The first call has recorded `2 ^ 53 + 1` under the number; a second one comes with `2 ^ 53`. -/
def reused : List JournalStep :=
  journalAccepted ++ recordedFirst 1 (2 ^ 53 + 1) ++ recordedAgain 2 (2 ^ 53)

/-- The first call has recorded `5` under the number, and is repeated. -/
def repeatedEvent : List JournalStep :=
  journalAccepted ++ recordedFirst 1 5 ++ recordedAgain 2 5

end Scenario

open Scenario

/-- Two calls with different payloads are both committed under one number: `float64` does not have
`2 ^ 53 + 1`. -/
theorem journal_number_reused :
    ((Run.run (journalServer runtimeEnv fun _ => some "").step
      (Server.initial WriteLog.empty) reused).map fun sys =>
        (committedRecording sys 1, committedRecording sys 2)) =
      some ((counting (2 ^ 53 + 1)).recording runtimeEnv,
        (counting (2 ^ 53)).recording runtimeEnv) ∧
    ((counting (2 ^ 53 + 1)).recording runtimeEnv).map
        (fun recording => (recording.operation, recording.sourceSequence)) =
      ((counting (2 ^ 53)).recording runtimeEnv).map
        (fun recording => (recording.operation, recording.sourceSequence)) ∧
    ((counting (2 ^ 53 + 1)).recording runtimeEnv).map Recording.payload ≠
      ((counting (2 ^ 53)).recording runtimeEnv).map Recording.payload := by
  decide +kernel

/-- A repeated event leaves the journal of the invocation as it is: two events, numbered 1 and 2. -/
theorem journal_gapless_repeated : ∃ sys,
    Run.run (journalServer runtimeEnv fun _ => some "").step
      (Server.initial WriteLog.empty) repeatedEvent = some sys ∧
    (eventsOn ⟨"iso", "inv"⟩ sys.shared.log).map (·.sequence) =
      List.range' 1 (eventsOn ⟨"iso", "inv"⟩ sys.shared.log).length ∧
    (eventsOn ⟨"iso", "inv"⟩ sys.shared.log).length = 2 ∧
    committedRecording sys 1 = committedRecording sys 2 := by
  exact Run.exists_some_of (P := fun sys => (eventsOn ⟨"iso", "inv"⟩ sys.shared.log).length = 2 ∧
      committedRecording sys 1 = committedRecording sys 2)
    (by decide +kernel) fun sys hsys h => ⟨(journal_gapless _ _ _ sys hsys).1 ⟨"iso", "inv"⟩, h⟩

end DataGround
