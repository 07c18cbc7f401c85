import Mathlib.Data.List.MinMax
import DataGround.Workspace.Records

/-!
# Dispatching the outbox

`Dispatcher.RunOne` claims an event, publishes it, and completes or retries the claim.
`claimOutbox` chooses on a snapshot and checks its choice again in the `UPDATE`, on the latest
version of the row: two steps here.  Each statement reads the database clock at some time up to the
present, other dispatchers may come between any two steps, and a dispatcher may crash after each
(a payload that cannot be decoded ends the same way).

`outbox_dispatch` says what holds of an event in every run.
-/

namespace DataGround.Outbox

-- the order of times as a part of the one that can be computed
local instance : Preorder Time :=
  Int.instLinearOrder.toPreorder

/-- The `status` of an event. -/
inductive OutboxStatus
  | pending | delivered | deadLetter
  deriving DecidableEq, Inhabited

/-- A row of `outbox_events`, as far as its delivery reads it. -/
structure OutboxRow where
  isolationDomainId : String
  (availableAt createdAt : Time)
  status : OutboxStatus
  attempt : ℕ
  leaseOwner : Option String
  leaseToken : ℕ
  leaseExpiresAt : Option Time
  deriving Inhabited

/-- `OutboxClaim`, without what only the publisher reads. -/
structure OutboxClaim where
  (id isolationDomainId : String)
  attempt : ℕ
  leaseOwner : String
  fencingToken : ℕ
  deriving DecidableEq

/-- Where a call of `RunOne` is: between the parts of `claimOutbox`, before `Publish`, or before
the statement that ends the claim. -/
inductive Task
  | claiming (id isolationDomainId workerId : String) (leaseDuration : Time)
  | publishing (claim : OutboxClaim)
  | completing (claim : OutboxClaim)
  | retrying (claim : OutboxClaim) (dueAt : Time)
  deriving DecidableEq

/-- The table, the clock and the calls under way.  The rest is history: the claims granted with
their expiry, those whose `Publish` succeeded, and those completed or retried with the status they
left. -/
structure System where
  events : Table String OutboxRow
  clock : Time
  tasks : List Task
  granted : List (OutboxClaim × Time)
  published : List OutboxClaim
  settled : List (OutboxClaim × OutboxStatus)

/-! ### The statements -/

/-- What snapshot and `UPDATE` of `claimOutbox` ask of a row. -/
def OutboxRow.free (row : OutboxRow) (now : Time) : Bool :=
  row.status = .pending && row.availableAt ≤ now && row.leaseExpiresAt.all (· ≤ now)

/-- The rows `claimOutbox` may choose from. -/
def due (events : Table String OutboxRow) (scope : String) (now : Time) :
    List ((_ : String) × OutboxRow) :=
  events.entries.filter fun e => e.2.free now && (scope = "" || e.2.isolationDomainId = scope)

/-- `DISTINCT ON (isolation_domain_id)`: the first row of each domain. -/
def perDomain (rows : List ((_ : String) × OutboxRow)) : List ((_ : String) × OutboxRow) :=
  (rows.map (·.2.isolationDomainId)).dedup.filterMap fun domain =>
    (rows.filter (·.2.isolationDomainId = domain)).argmin fun e =>
      toLex (e.2.availableAt, toLex (e.2.createdAt, e.1))

/-- The first of those rows over all domains. -/
def candidate (rows : List ((_ : String) × OutboxRow)) : Option ((_ : String) × OutboxRow) :=
  (perDomain rows).argmin fun e =>
    toLex (e.2.availableAt, toLex (e.2.createdAt, toLex (e.2.isolationDomainId, e.1)))

/-- The check of the arguments of `claimOutbox`; durations are in microseconds. -/
def validClaim (workerId : String) (leaseDuration : Time) : Bool :=
  workerId ≠ "" && workerId.utf8ByteSize ≤ 128 && Workspace.isTrimmed workerId &&
    workerId.toList.all (· ∉ ['\x00', '\r', '\n']) && 1 ≤ leaseDuration &&
    leaseDuration ≤ 3600 * 1000000

/-- The lease that `RunOne` asks for. -/
def runLease : Time :=
  30 * 1000000

/-- What the `UPDATE` of `claimOutbox` sets. -/
def OutboxRow.claimed (row : OutboxRow) (workerId : String) (expiresAt : Time) : OutboxRow :=
  { row with
    leaseOwner := some workerId, leaseToken := row.leaseToken + 1
    leaseExpiresAt := some expiresAt, attempt := row.attempt + 1 }

/-- What it returns. -/
def OutboxRow.claim (row : OutboxRow) (id workerId : String) : OutboxClaim :=
  ⟨id, row.isolationDomainId, row.attempt + 1, workerId, row.leaseToken + 1⟩

namespace System

/-- `claimOutbox` up to its choice. -/
def claimOutbox (s : System) (scope workerId : String) (leaseDuration readAt : Time) : System :=
  match validClaim workerId leaseDuration, candidate (due s.events scope readAt) with
  | true, some e => { s with
      tasks := .claiming e.1 e.2.isolationDomainId workerId leaseDuration :: s.tasks }
  | _, _ => s

/-- The `UPDATE` of `claimOutbox`: it may read the clock once for its condition and again for the
new expiry. -/
def claimUpdate (s : System) (id isolationDomainId workerId : String)
    (leaseDuration readAt setAt : Time) : System :=
  match (s.events.lookup id).filter fun row =>
      row.isolationDomainId = isolationDomainId && row.free readAt with
  | none => s
  | some row => { s with
      events := s.events.insert id (row.claimed workerId (setAt + leaseDuration))
      tasks := .publishing (row.claim id workerId) :: s.tasks
      granted := s.granted ++ [(row.claim id workerId, setAt + leaseDuration)] }

/-- The `UPDATE` that ends a claim which still holds its event; otherwise `ErrLeaseLost`. -/
def settle (s : System) (claim : OutboxClaim) (readAt : Time) (status : OutboxRow → OutboxStatus)
    (availableAt : OutboxRow → Time) : System :=
  match (s.events.lookup claim.id).filter fun row =>
      row.isolationDomainId = claim.isolationDomainId && row.status = .pending &&
        row.leaseOwner = some claim.leaseOwner && row.leaseToken = claim.fencingToken &&
        row.leaseExpiresAt.any (readAt < ·) with
  | none => s
  | some row => { s with
      events := s.events.insert claim.id { row with
        status := status row, availableAt := availableAt row
        leaseOwner := none, leaseExpiresAt := none }
      settled := (claim, status row) :: s.settled }

def completeOutbox (s : System) (claim : OutboxClaim) (readAt : Time) : System :=
  s.settle claim readAt (fun _ => .delivered) (·.availableAt)

def retryOutbox (s : System) (claim : OutboxClaim) (dueAt readAt : Time) : System :=
  s.settle claim readAt (fun row => if 20 ≤ row.attempt then .deadLetter else .pending)
    fun _ => dueAt

end System

/-! ### The dispatchers -/

/-- What can happen: a transaction inserts an event, time passes, a dispatcher calls `RunOne`, or a
call goes on or crashes.  `failedAt` is the dispatcher's time if `Publish` fails. -/
inductive Event
  | insert (id isolationDomainId : String) (availableAt createdAt : Time)
  | tick (now : Time)
  | runOne (scope workerId : String) (readAt : Time)
  | resume (task : Task) (readAt setAt : Time) (failedAt : Option Time)
  | crash (task : Task)

/-- The rest of `RunOne`. -/
def System.resume (s : System) (readAt setAt : Time) (failedAt : Option Time) : Task → System
  | .claiming id domain workerId leaseDuration =>
    s.claimUpdate id domain workerId leaseDuration readAt setAt
  | .publishing claim =>
    match failedAt with
    | none => { s with tasks := .completing claim :: s.tasks, published := claim :: s.published }
    | some now => { s with
        tasks := .retrying claim (now + 2 ^ min claim.attempt 6 * 1000000) :: s.tasks }
  | .completing claim => s.completeOutbox claim readAt
  | .retrying claim dueAt => s.retryOutbox claim dueAt readAt

/-- One step of the system. -/
def step (s : System) : Event → Option System
  | .insert id domain availableAt createdAt =>
    if id ∈ s.events then none
    else some { s with
      events := s.events.insert id ⟨domain, availableAt, createdAt, .pending, 0, none, 0, none⟩ }
  | .tick now => if s.clock ≤ now then some { s with clock := now } else none
  | .runOne scope workerId readAt =>
    if readAt ≤ s.clock then some (s.claimOutbox scope workerId runLease readAt) else none
  | .resume task readAt setAt failedAt =>
    if task ∈ s.tasks ∧ readAt ≤ setAt ∧ setAt ≤ s.clock then
      some (({ s with tasks := s.tasks.erase task } : System).resume readAt setAt failedAt task)
    else none
  | .crash task =>
    if task ∈ s.tasks then some { s with tasks := s.tasks.erase task } else none

/-- No event yet. -/
def System.empty (clock : Time) : System :=
  ⟨∅, clock, [], [], [], []⟩

/-- The row of an event; one that is not there is as good as fresh. -/
def System.row (s : System) (id : String) : OutboxRow :=
  (s.events.lookup id).getD default

/-- The claims of an event, in the order in which they were granted. -/
def System.grantsOf (s : System) (id : String) : List (OutboxClaim × Time) :=
  s.granted.filter (·.1.id = id)

/-- The claim is no longer live: it was completed or retried, or its lease has expired. -/
def System.Over (s : System) (grant : OutboxClaim × Time) : Prop :=
  (∃ e ∈ s.settled, e.1.id = grant.1.id ∧ e.1.fencingToken = grant.1.fencingToken) ∨
    grant.2 ≤ s.clock

/-! ### The invariant -/

/-- The tokens of an event count its claims, only the last of them can be live, and its status is
what its claims have made of it. -/
structure System.Explains (s : System) (id : String) (row : OutboxRow) : Prop where
  tokens : (s.grantsOf id).map (·.1.fencingToken) = List.range' 1 row.leaseToken
  attempts : row.attempt = row.leaseToken
  last : ∀ grant ∈ s.grantsOf id, s.Over grant ∨
    row.leaseToken = grant.1.fencingToken ∧ row.leaseExpiresAt = some grant.2
  delivered : row.status = .delivered →
    ∃ claim ∈ s.published, claim.id = id ∧ (claim, .delivered) ∈ s.settled
  deadLetter : row.status = .deadLetter → 20 ≤ row.attempt

/-- The invariant of a run; `CompleteOutbox` is called after a successful `Publish`. -/
structure System.Sound (s : System) : Prop where
  rows : ∀ id, s.Explains id (s.row id)
  completing : ∀ claim, .completing claim ∈ s.tasks → claim ∈ s.published

variable {s t : System} {e : Event} {k id : String} {row : OutboxRow} {claim : OutboxClaim}
  {readAt setAt : Time}

lemma row_insert (h : t.events = s.events.insert id row) :
    t.row k = if k = id then row else s.row k := by
  rw [System.row, h]
  split
  · subst k
    rw [AList.lookup_insert, Option.getD_some]
  · rw [AList.lookup_insert_ne ‹_›, System.row]

lemma row_eq {p : OutboxRow → Bool} (h : (s.events.lookup id).filter p = some row) :
    s.row id = row ∧ p row = true := by
  obtain ⟨hrow, hp⟩ := Option.filter_eq_some_iff.mp h
  exact ⟨by rw [System.row, hrow, Option.getD_some], hp⟩

lemma System.Explains.mono (h : s.Explains id row) (grants : t.grantsOf id = s.grantsOf id)
    (clock : s.clock ≤ t.clock) (published : s.published ⊆ t.published)
    (settled : s.settled ⊆ t.settled) : t.Explains id row where
  tokens := grants ▸ h.tokens
  attempts := h.attempts
  last grant hgrant := (h.last grant (grants ▸ hgrant)).imp_left
    (.imp (fun ⟨e, he, hsame⟩ => ⟨e, settled he, hsame⟩) (·.trans clock))
  delivered hrow :=
    have ⟨claim, hclaim, hid, hsettled⟩ := h.delivered hrow
    ⟨claim, published hclaim, hid, settled hsettled⟩
  deadLetter := h.deadLetter

/-- The invariant goes on to hold, and an event that is no longer pending stays as it is. -/
def System.Goes (s t : System) : Prop :=
  t.Sound ∧ ∀ id, (s.row id).status ≠ .pending → (t.row id).status = (s.row id).status

namespace System.Sound

lemma write (hs : s.Sound) (hpending : (s.row id).status = .pending)
    (events : t.events = s.events.insert id row) (hrow : t.Explains id row)
    (hrest : ∀ k ≠ id, s.Explains k (s.row k) → t.Explains k (s.row k))
    (tasks : ∀ claim, .completing claim ∈ t.tasks → claim ∈ t.published) : s.Goes t := by
  refine ⟨⟨fun k => ?_, tasks⟩, fun k hk => ?_⟩ <;> rw [row_insert events] <;> split
  · subst k
    exact hrow
  · exact hrest k ‹_› (hs.rows k)
  · subst k
    exact (hk hpending).elim
  · rfl

/-- A claim is granted only when all before it are over. -/
lemma claimUpdate (hs : s.Sound) (hread : readAt ≤ s.clock) {domain workerId : String}
    {leaseDuration : Time} :
    s.Goes (s.claimUpdate id domain workerId leaseDuration readAt setAt) := by
  unfold System.claimUpdate
  split
  · exact ⟨hs, fun _ _ => rfl⟩
  rename_i hfound
  obtain ⟨rfl, hp⟩ := row_eq hfound
  simp only [OutboxRow.free, Bool.and_eq_true, decide_eq_true_eq, Option.all_eq_true] at hp
  obtain ⟨-, ⟨hpending, -⟩, hfree⟩ := hp
  have hid := hs.rows id
  refine hs.write hpending rfl ⟨?_, congrArg (· + 1) hid.attempts, fun grant h => ?_,
    hid.delivered, fun h => ?_⟩ (fun k hk h => h.mono ?_ le_rfl (fun _ => (·)) fun _ => (·))
    (by simpa using hs.completing)
  · simp [grantsOf, OutboxRow.claim, OutboxRow.claimed, List.range'_1_concat, add_comm 1,
      ← hid.tokens]
  · rw [grantsOf, List.filter_append, List.mem_append] at h
    rcases h with hold | hnew
    · exact .inl ((hid.last grant hold).elim (·) fun h => .inr ((hfree _ h.2).trans hread))
    · obtain rfl := List.mem_singleton.mp (List.mem_of_mem_filter hnew)
      exact .inr ⟨rfl, rfl⟩
  · cases hpending.symm.trans h
  · simp [grantsOf, OutboxRow.claim, hk.symm]

/-- A claim that still holds its event is its last one. -/
lemma settle (hs : s.Sound) {status : OutboxRow → OutboxStatus} {availableAt : OutboxRow → Time}
    (hdelivered : ∀ row, status row = .delivered → claim ∈ s.published)
    (hdead : ∀ row, status row = .deadLetter → 20 ≤ row.attempt) :
    s.Goes (s.settle claim readAt status availableAt) := by
  unfold System.settle
  split
  · exact ⟨hs, fun _ _ => rfl⟩
  rename_i hfound
  obtain ⟨rfl, hp⟩ := row_eq hfound
  simp only [Bool.and_eq_true, decide_eq_true_eq] at hp
  have hid := hs.rows claim.id
  refine hs.write hp.1.1.1.2 rfl ⟨hid.tokens, hid.attempts, fun grant h => .inl ?_,
    fun h => ⟨claim, hdelivered _ h, rfl, List.mem_cons.mpr (.inl (by rw [← h]))⟩, hdead _⟩
    (fun k _ h => h.mono rfl le_rfl (fun _ => (·)) (List.subset_cons_self ..)) hs.completing
  have hgrant : grant.1.id = claim.id := of_decide_eq_true (List.mem_filter.mp h).2
  rcases hid.last grant h with hover | hlast
  · exact hover.imp_left fun ⟨e, he, hsame⟩ => ⟨e, .tail _ he, hsame⟩
  · exact .inl ⟨_, .head _, hgrant.symm, hp.1.2.symm.trans hlast.1⟩

lemma step (hs : s.Sound) (h : step s e = some t) : s.Goes t := by
  have herase (task : Task) : ({ s with tasks := s.tasks.erase task } : System).Sound :=
    ⟨fun k => { hs.rows k with }, fun _ h => hs.completing _ (List.mem_of_mem_erase h)⟩
  cases e with
  | insert id =>
    obtain ⟨hid, heq⟩ := Option.ite_none_left_eq_some.mp h
    cases heq
    have hrow : s.row id = default := by rw [row, AList.lookup_eq_none.mpr hid, Option.getD_none]
    have hfresh := hs.rows id
    rw [hrow] at hfresh
    exact hs.write (hrow ▸ rfl) rfl { hfresh with } (fun _ _ h => { h with }) hs.completing
  | tick =>
    obtain ⟨hnow, heq⟩ := Option.ite_none_right_eq_some.mp h
    cases heq
    exact ⟨⟨fun k => (hs.rows k).mono rfl hnow (fun _ => (·)) fun _ => (·), hs.completing⟩,
      fun _ _ => rfl⟩
  | runOne =>
    obtain ⟨-, heq⟩ := Option.ite_none_right_eq_some.mp h
    cases heq
    unfold claimOutbox
    split
    · exact ⟨⟨fun k => { hs.rows k with }, by simpa using hs.completing⟩, fun _ _ => rfl⟩
    · exact ⟨hs, fun _ _ => rfl⟩
  | resume task _ _ failedAt =>
    obtain ⟨⟨htask, hread, hset⟩, heq⟩ := Option.ite_none_right_eq_some.mp h
    cases heq
    have hs' := herase task
    cases task with
    | claiming => exact hs'.claimUpdate (hread.trans hset)
    | publishing claim =>
      cases failedAt with
      | none =>
        refine ⟨⟨fun k => (hs'.rows k).mono rfl le_rfl (List.subset_cons_self ..) fun _ => (·), ?_⟩,
          fun _ _ => rfl⟩
        simpa [resume] using fun claim h => .inr (hs.completing claim h)
      | some =>
        exact ⟨⟨fun k => { hs'.rows k with }, by simpa [resume] using hs.completing⟩,
          fun _ _ => rfl⟩
    | completing => exact hs'.settle (fun _ _ => hs.completing _ htask) nofun
    | retrying => exact hs'.settle (by simp [ite_eq_iff]) (by simp)
  | crash task =>
    obtain ⟨-, heq⟩ := Option.ite_none_right_eq_some.mp h
    cases heq
    exact ⟨herase task, fun _ _ => rfl⟩

lemma run (hs : s.Sound) {es : List Event} (h : Run.run Outbox.step s es = some t) : s.Goes t :=
  Run.run_invariant (fun _ _ _ ⟨hr, hkept⟩ h =>
    have ⟨ht, hstep⟩ := hr.step h
    ⟨ht, fun id hid => (hstep id (hkept id hid ▸ hid)).trans (hkept id hid)⟩)
    ⟨hs, fun _ _ => rfl⟩ h

end System.Sound

/-! ### Events that are due -/

lemma mem_due {events : Table String OutboxRow} {scope : String} {now : Time}
    {e : (_ : String) × OutboxRow} : e ∈ due events scope now ↔ events.lookup e.1 = some e.2 ∧
      e.2.free now = true ∧ (scope = "" ∨ e.2.isolationDomainId = scope) := by
  simp only [due, List.mem_filter, Bool.and_eq_true, Bool.or_eq_true, decide_eq_true_eq]
  exact and_congr_left' AList.mem_lookup_iff.symm

variable {rows : List ((_ : String) × OutboxRow)} {first : (_ : String) × OutboxRow}

lemma candidate_mem (h : candidate rows = some first) : first ∈ rows := by
  obtain ⟨_, -, hfirst⟩ := List.mem_filterMap.mp (List.argmin_mem h)
  exact List.mem_of_mem_filter (List.argmin_mem hfirst)

lemma exists_candidate (h : first ∈ rows) : ∃ first, candidate rows = some first := by
  refine Option.ne_none_iff_exists'.mp fun hnone => ?_
  have hempty := List.filterMap_eq_nil_iff.mp (List.argmin_eq_none.mp hnone) _
    (List.mem_dedup.mpr (List.mem_map_of_mem h))
  have hnot := List.filter_eq_nil_iff.mp (List.argmin_eq_none.mp hempty) first h
  exact hnot (decide_eq_true rfl)

variable {scope workerId : String}

/-- A call of `ClaimOutbox` that nothing comes between gets its candidate. -/
lemma run_claim (hworker : validClaim workerId runLease = true)
    (h : candidate (due s.events scope s.clock) = some first) : ∃ es t,
      Run.run step s es = some t ∧ t.clock = s.clock ∧
      t.events = s.events.insert first.1 (first.2.claimed workerId (s.clock + runLease)) ∧
      (first.2.claim first.1 workerId, s.clock + runLease) ∈ t.granted := by
  obtain ⟨hrow, hfree, -⟩ := mem_due.mp (candidate_mem h)
  let task := Task.claiming first.1 first.2.isolationDomainId workerId runLease
  refine ⟨[.runOne scope workerId s.clock, .resume task s.clock s.clock none], { s with
    events := s.events.insert first.1 (first.2.claimed workerId (s.clock + runLease))
    tasks := .publishing (first.2.claim first.1 workerId) :: s.tasks
    granted := s.granted ++ [(first.2.claim first.1 workerId, s.clock + runLease)] }, ?_, rfl, rfl,
    by simp⟩
  have hupdate := Option.filter_some_pos (a := first.2) (p := fun row =>
    row.isolationDomainId = first.2.isolationDomainId && row.free s.clock) (by simp [hfree])
  simp [Run.run, step, System.claimOutbox, hworker, h, task, System.resume, System.claimUpdate,
    hrow, hupdate]

/-- An event that is due is claimed after at most as many calls as there are events before it: each
call leases one of those. -/
lemma exists_claim (hworker : validClaim workerId runLease = true)
    (hscope : scope = "" ∨ row.isolationDomainId = scope) (ids : Finset String)
    (hids : ∀ e ∈ due s.events scope s.clock, e.1 ∈ ids) (hrow : s.events.lookup id = some row)
    (hfree : row.free s.clock = true) : ∃ es t, Run.run step s es = some t ∧
      (row.claim id workerId, s.clock + runLease) ∈ t.granted := by
  induction ids using Finset.strongInduction generalizing s with
  | H ids ih =>
    obtain ⟨first, hfirst⟩ := exists_candidate (mem_due (e := ⟨id, row⟩).mpr ⟨hrow, hfree, hscope⟩)
    obtain ⟨es, t, hes, hclock, hevents, hgranted⟩ := run_claim hworker hfirst
    by_cases hid : id = first.1
    · have hsame := (mem_due.mp (candidate_mem hfirst)).1
      rw [← hid, hrow] at hsame
      cases hsame
      exact ⟨es, t, hes, hid ▸ hgranted⟩
    · have hrest : ∀ e ∈ due t.events scope t.clock, e.1 ∈ ids.erase first.1 := by
        intro e he
        obtain ⟨hlookup, hdue, hin⟩ := mem_due.mp he
        have hne : e.1 ≠ first.1 := by
          intro heq
          rw [hevents, heq, AList.lookup_insert] at hlookup
          rw [← Option.some.inj hlookup, hclock] at hdue
          simp [OutboxRow.free, OutboxRow.claimed, runLease] at hdue
        rw [hevents, AList.lookup_insert_ne hne] at hlookup
        exact Finset.mem_erase.mpr ⟨hne, hids e (mem_due.mpr ⟨hlookup, hclock ▸ hdue, hin⟩)⟩
      obtain ⟨fs, u, hfs, hclaimed⟩ := ih _ (Finset.erase_ssubset (hids _ (candidate_mem hfirst)))
        hrest (by rw [hevents, AList.lookup_insert_ne hid, hrow]) (hclock ▸ hfree)
      exact ⟨es ++ fs, u, by rw [Run.run_append, hes]; exact hfs, hclock ▸ hclaimed⟩

/-- **Every event in every run.**  Its tokens increase, and a claim is over before the next is
granted.  It is marked as delivered by a claim whose `Publish` succeeded, and as a dead letter after
20 claims, and then stays so.  Until then every dispatcher in whose scope it is can claim it again,
whenever it is due and its lease has expired. -/
theorem outbox_dispatch {clock : Time} {es : List Event}
    (h : Run.run step (.empty clock) es = some s) (id : String) :
    ((s.grantsOf id).Pairwise fun earlier later =>
      earlier.1.fencingToken < later.1.fencingToken ∧ s.Over earlier) ∧
    ((s.row id).status = .delivered →
      ∃ claim ∈ s.published, claim.id = id ∧ (claim, .delivered) ∈ s.settled) ∧
    ((s.row id).status = .deadLetter → 20 ≤ (s.grantsOf id).length) ∧
    ((s.row id).status ≠ .pending → ∀ fs t, Run.run step s fs = some t →
      (t.row id).status = (s.row id).status) ∧
    ∀ row now scope workerId, s.events.lookup id = some row → s.clock ≤ now →
      row.free now = true → (scope = "" ∨ row.isolationDomainId = scope) →
      validClaim workerId runLease = true → ∃ fs t, Run.run step s fs = some t ∧
        (row.claim id workerId, now + runLease) ∈ t.granted := by
  have hempty : (System.empty clock).Sound :=
    ⟨fun _ => ⟨rfl, rfl, nofun, nofun, nofun⟩, nofun⟩
  have hs := (hempty.run h).1
  have hid := hs.rows id
  refine ⟨?_, hid.delivered, fun hdead => ?_, fun hdone fs t ht => (hs.run ht).2 id hdone, ?_⟩
  · have hlt := List.pairwise_map.mp (hid.tokens ▸ List.pairwise_lt_range')
    refine hlt.imp_of_mem fun {earlier later} hearlier hlater hlt => ⟨hlt, ?_⟩
    refine (hid.last earlier hearlier).resolve_right fun hlast => ?_
    have hmem := List.mem_map_of_mem (f := (·.1.fencingToken)) hlater
    rw [hid.tokens, List.mem_range'_1] at hmem
    omega
  · have hlength := congrArg List.length hid.tokens
    rw [List.length_map, List.length_range'] at hlength
    exact hlength ▸ hid.attempts ▸ hid.deadLetter hdead
  · intro row now scope workerId hrow hnow hfree hscope hworker
    obtain ⟨fs, t, hfs, hclaimed⟩ := exists_claim (s := { s with clock := now }) hworker hscope
      _ (fun e he => List.mem_toFinset.mpr (List.mem_map_of_mem he)) hrow hfree
    exact ⟨.tick now :: fs, t, by rw [Run.run_cons, step, if_pos hnow]; exact hfs, hclaimed⟩

/-- An event is claimed, published and completed. -/
def delivery : List Event :=
  let claim := ⟨"out_1", "iso_1", 1, "worker", 1⟩
  [.insert "out_1" "iso_1" 0 0, .runOne "" "worker" 0,
    .resume (.claiming "out_1" "iso_1" "worker" runLease) 0 0 none,
    .resume (.publishing claim) 0 0 none, .resume (.completing claim) 0 0 none]

theorem outbox_dispatch_delivery : ∃ s, Run.run step (.empty 0) delivery = some s ∧
    (s.row "out_1").status = .delivered ∧
    ∃ claim ∈ s.published, claim.id = "out_1" ∧ (claim, .delivered) ∈ s.settled :=
  ⟨_, rfl, rfl, (@outbox_dispatch _ 0 delivery rfl "out_1").2.1 rfl⟩

end DataGround.Outbox
