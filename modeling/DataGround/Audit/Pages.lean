import DataGround.Audit.Resource
import DataGround.Library.Checks
import Mathlib.Data.List.TakeWhile

/-!
# The pages are the snapshot

* `Database.Keeps` -- what a snapshot shows never changes;
* `readSources_took` -- a page takes what comes behind its start, as much as asked for;
* `pages_are_snapshot` -- the pages that follow the cursors from the first one are, one after the
  other, the records that were committed when the first one was read.
-/

namespace DataGround.Audit

open Keyset (orderBy after Increasing)

/-! ### What a snapshot shows -/

/-- A transaction is over. -/
def IsOver (transactions : List TransactionState) (transaction : ℕ) : Prop :=
  ∃ state, transactions[transaction]? = some state ∧ state ≠ .running

variable {transactions : List TransactionState} {transaction : ℕ}

/-- Whatever comes behind the last transaction that is over is running. -/
lemma lt_xmax_of_isOver (h : IsOver transactions transaction) :
    transaction < (transactions.reverse.dropWhile (· = .running)).length := by
  obtain ⟨_, hstate, hover⟩ := h
  have hsplit : transactions = (transactions.reverse.dropWhile (· = .running)).reverse ++
      (transactions.reverse.takeWhile (· = .running)).reverse := by
    rw [← List.reverse_append, List.takeWhile_append_dropWhile, List.reverse_reverse]
  by_contra hle
  rw [hsplit, List.getElem?_append_right (by simpa using hle)] at hstate
  have hmem := List.mem_of_getElem? hstate
  rw [List.mem_reverse] at hmem
  have hrunning := List.mem_takeWhile_imp hmem
  exact hover (of_decide_eq_true hrunning)

lemma xmax_le (transactions : List TransactionState) :
    (transactions.reverse.dropWhile (· = .running)).length ≤ transactions.length := by
  simpa using (List.dropWhile_suffix (· = TransactionState.running) (l := transactions.reverse)).length_le

/-- **The current snapshot shows the transactions that are over.** -/
lemma pgVisibleInSnapshot_current :
    pgVisibleInSnapshot transaction (pgCurrentSnapshot transactions) = true ↔
      IsOver transactions transaction := by
  have hxip : ∀ other, other ∈ (pgCurrentSnapshot transactions).xip ↔
      other < (pgCurrentSnapshot transactions).xmax ∧ transactions[other]? = some .running := by
    intro other
    simp [pgCurrentSnapshot]
  have hxmin : transaction < (pgCurrentSnapshot transactions).xmin →
      transaction < (pgCurrentSnapshot transactions).xmax ∧
        transaction ∉ (pgCurrentSnapshot transactions).xip := by
    have hsorted : (pgCurrentSnapshot transactions).xip.Pairwise (· < ·) :=
      List.pairwise_lt_range.filter _
    have hdef : (pgCurrentSnapshot transactions).xmin =
        (pgCurrentSnapshot transactions).xip.head?.getD (pgCurrentSnapshot transactions).xmax := rfl
    rw [hdef]
    cases hlist : (pgCurrentSnapshot transactions).xip with
    | nil => simp
    | cons first =>
      rw [hlist] at hsorted
      intro hlt
      have hfirst := ((hxip first).mp (by rw [hlist]; exact List.mem_cons_self)).1
      refine ⟨lt_trans hlt hfirst, fun hmem => ?_⟩
      rcases List.mem_cons.mp hmem with rfl | hmem
      · exact lt_irrefl _ hlt
      · exact lt_asymm hlt (List.rel_of_pairwise_cons hsorted hmem)
  have hvisible : pgVisibleInSnapshot transaction (pgCurrentSnapshot transactions) = true ↔
      transaction < (pgCurrentSnapshot transactions).xmax ∧
        transaction ∉ (pgCurrentSnapshot transactions).xip := by
    simp only [pgVisibleInSnapshot, Bool.or_eq_true, Bool.and_eq_true, decide_eq_true_eq]
    exact ⟨fun h => h.elim hxmin id, .inr⟩
  rw [hvisible, hxip]
  constructor
  · rintro ⟨hlt, hnot⟩
    have hlength := lt_of_lt_of_le hlt (xmax_le transactions)
    exact ⟨_, List.getElem?_eq_getElem hlength, fun h => hnot ⟨hlt, h ▸ List.getElem?_eq_getElem hlength⟩⟩
  · intro hover
    refine ⟨lt_xmax_of_isOver hover, fun hrunning => ?_⟩
    obtain ⟨_, hstate, hne⟩ := hover
    exact hne (Option.some.inj (hstate.symm.trans hrunning.2))

/-- A snapshot shows only transactions that are over. -/
def Settled (transactions : List TransactionState) (snapshot : Snapshot) : Prop :=
  ∀ transaction, pgVisibleInSnapshot transaction snapshot = true → IsOver transactions transaction

/-- What a step does to the tables: rows and transactions are added, and those that are over stay so. -/
structure Database.Keeps (db db' : Database) : Prop where
  finished : ∀ transaction, IsOver db.transactions transaction →
    db'.transactions[transaction]? = db.transactions[transaction]?
  rows : ∃ new : Rows, db'.rows = db.rows ++ new ∧ ∀ row ∈ new, ¬ IsOver db.transactions row.1

variable {db db' : Database} {snapshot : Snapshot}

lemma Database.Keeps.settled (h : db.Keeps db') (hsettled : Settled db.transactions snapshot) :
    Settled db'.transactions snapshot := by
  intro transaction hvisible
  have hover := hsettled transaction hvisible
  unfold IsOver
  rw [h.finished transaction hover]
  exact hover

/-- **What a snapshot shows never changes.** -/
lemma Database.Keeps.within (h : db.Keeps db') (hsettled : Settled db.transactions snapshot) :
    db'.committed.within snapshot = db.committed.within snapshot := by
  obtain ⟨new, hrows, hnew⟩ := h.rows
  have hnone : new.filter (fun row => pgVisibleInSnapshot row.1 snapshot &&
      db'.transactions[row.1]? = some .committed) = [] := by
    refine List.filter_eq_nil_iff.mpr fun row hrow => ?_
    simp only [Bool.and_eq_true, not_and]
    exact fun hvisible => absurd (hsettled row.1 hvisible) (hnew row hrow)
  have hsame : ∀ row ∈ db.rows, (pgVisibleInSnapshot row.1 snapshot &&
      decide (db'.transactions[row.1]? = some .committed)) = (pgVisibleInSnapshot row.1 snapshot &&
      decide (db.transactions[row.1]? = some .committed)) := by
    intro row _
    cases hvisible : pgVisibleInSnapshot row.1 snapshot with
    | false => rfl
    | true => rw [h.finished row.1 (hsettled row.1 hvisible)]
  simp only [Database.committed, Rows.within, List.filter_filter]
  rw [hrows, List.filter_append, hnone, List.append_nil, List.filter_congr hsame]

lemma not_isOver_of_running (h : transactions[transaction]? = some .running) :
    ¬ IsOver transactions transaction := by
  rintro ⟨state, hstate, hne⟩
  exact hne (Option.some.inj (hstate.symm.trans h))

lemma Database.Keeps.of_eq (htransactions : db'.transactions = db.transactions)
    (hrows : db'.rows = db.rows) : db.Keeps db' :=
  ⟨fun _ _ => by rw [htransactions], [], by simp [hrows], nofun⟩

/-- The current snapshot shows all that is committed. -/
lemma committed_within_current (db : Database) :
    db.committed.within (pgCurrentSnapshot db.transactions) = db.committed := by
  refine List.filter_eq_self.mpr fun row hrow => pgVisibleInSnapshot_current.mpr ?_
  have hcommitted := of_decide_eq_true (List.mem_filter.mp hrow).2
  exact ⟨_, hcommitted, nofun⟩

/-! ### Pages -/

/-- The entries of a source. -/
def entries (source : ℕ) (items : List (ℤ × ResourceAuditRecord)) :
    List (Position × ResourceAuditRecord) :=
  items.map fun item => (toLex (source, item.1), item.2)

def Progress.position (progress : Progress) : Position :=
  toLex (progress.lastSource, progress.lastSequence)

/-- Items were taken from these entries, up to the limit. -/
structure Took (limit : ℕ) (old new : Progress) (taken : List (Position × ResourceAuditRecord)) :
    Prop where
  items : new.items = old.items ++ (taken.take (limit - old.items.length)).map Prod.snd
  position : new.position =
    ((taken.take (limit - old.items.length)).getLast?.map Prod.fst).getD old.position
  hasMore : new.hasMore = decide (limit - old.items.length < taken.length)

section

variable {limit source : ℕ} {old mid new : Progress} {taken rest : List (Position × ResourceAuditRecord)}

lemma collect_took {rows : List (ℤ × ResourceAuditRecord)} (hmore : old.hasMore = false)
    (hle : old.items.length ≤ limit) (h : collect limit source rows old = .ok new) :
    Took limit old new (entries source rows) := by
  induction rows generalizing old with
  | nil =>
    cases h
    exact ⟨by simp [entries], by simp [entries], by simp [entries, hmore]⟩
  | cons row _ ih =>
    obtain ⟨sequence, item⟩ := row
    rw [collect] at h
    split_ifs at h with hsequence hvalid hfull
    · cases h
      have hzero : limit - old.items.length = 0 := by omega
      exact ⟨by simp [hzero], by simp [hzero, Progress.position], by simp [hzero, entries]⟩
    · have hlength : (old.items ++ [item]).length = old.items.length + 1 := by simp
      have hsub : limit - old.items.length = (limit - (old.items ++ [item]).length) + 1 := by omega
      have hmore' : Progress.hasMore ⟨old.items ++ [item], source, sequence, old.hasMore⟩ = false := hmore
      obtain ⟨hitems, hposition, hhasMore⟩ := ih hmore' (by dsimp only; omega) h
      refine ⟨?_, ?_, ?_⟩
      · rw [hitems, hsub]
        simp [entries]
      · rw [hposition, hsub]
        simp only [entries, List.map_cons, List.take_succ_cons, List.getLast?_cons]
        cases (List.take (limit - (old.items ++ [item]).length) _).getLast? <;> rfl
      · rw [hhasMore, hsub]
        simp [entries]

/-- The query stops one row behind the limit. -/
lemma Took.of_take (h : Took limit old new (taken.take (limit + 1 - old.items.length)))
    (hle : old.items.length ≤ limit) : Took limit old new taken := by
  have hmin : min (limit - old.items.length) (limit + 1 - old.items.length) =
      limit - old.items.length := by omega
  refine ⟨?_, ?_, ?_⟩
  · rw [h.items, List.take_take, hmin]
  · rw [h.position, List.take_take, hmin]
  · rw [h.hasMore, List.length_take]
    exact decide_eq_decide.mpr (by omega)

/-- There was more in the first source: the second one does not count. -/
lemma Took.stop (h : Took limit old new taken) (hmore : new.hasMore = true) :
    Took limit old new (taken ++ rest) := by
  have hlt := of_decide_eq_true (h.hasMore ▸ hmore)
  refine ⟨?_, ?_, ?_⟩
  · rw [h.items, List.take_append_of_le_length hlt.le]
  · rw [h.position, List.take_append_of_le_length hlt.le]
  · rw [hmore, List.length_append]
    exact (decide_eq_true (by omega)).symm

/-- The whole first source was taken, and something of the second one. -/
lemma Took.trans (h : Took limit old mid taken) (hmore : mid.hasMore = false)
    (hrest : Took limit mid new rest) : Took limit old new (taken ++ rest) := by
  have hle : taken.length ≤ limit - old.items.length :=
    not_lt.mp (of_decide_eq_false (h.hasMore ▸ hmore))
  have hitems : mid.items = old.items ++ taken.map Prod.snd := by rw [h.items, List.take_of_length_le hle]
  have hlength : limit - mid.items.length = limit - old.items.length - taken.length := by
    rw [hitems]
    simp
    omega
  have htake : (taken ++ rest).take (limit - old.items.length) =
      taken ++ rest.take (limit - mid.items.length) := by
    rw [List.take_append, List.take_of_length_le hle, hlength]
  refine ⟨?_, ?_, ?_⟩
  · rw [hrest.items, htake, List.map_append, ← List.append_assoc, ← hitems]
  · rw [hrest.position, h.position, htake, List.take_of_length_le hle, List.getLast?_append]
    cases (rest.take (limit - mid.items.length)).getLast? <;> rfl
  · rw [hrest.hasMore, List.length_append, hlength]
    exact decide_eq_decide.mpr (by omega)

end

/-! ### The records of a resource -/

/-- Numbers are positive, and used once. -/
structure Rows.Numbered (rows : Rows) : Prop where
  distinct : rows.numbers.Nodup
  positive : ∀ number ∈ rows.numbers, 0 < number.2

variable {rows : Rows} {request : Request} {operationId : String} {source : ℕ}

lemma Rows.Numbered.filter (h : rows.Numbered) (p : ℕ × Row → Bool) : Rows.Numbered (rows.filter p) :=
  have hsub := List.filter_sublist.filterMap fun row : ℕ × Row => row.2.number
  ⟨h.distinct.sublist hsub, fun number hnumber => h.positive number (hsub.subset hnumber)⟩

lemma Rows.Numbered.within (h : rows.Numbered) (snapshot : Snapshot) : (rows.within snapshot).Numbered :=
  h.filter _

/-- Where the numbers of a source are unique. -/
def numbering (request : Request) (source : ℕ) : Numbering :=
  if source = 0 then .lifecycle request.scope else .decisions request.kind

lemma number_of_sourceItem {row : Row} {item : ℤ × ResourceAuditRecord}
    (h : sourceItem request operationId source row = some item) :
    row.number = some (numbering request source, item.1) := by
  unfold sourceItem at h
  unfold numbering
  split_ifs at h ⊢
  · cases row with
    | lifecycle =>
      simp only [lifecycleItem, Option.ite_none_right_eq_some, Option.some.injEq] at h
      obtain ⟨⟨rfl, -⟩, rfl⟩ := h
      rfl
    | _ => cases h
  · cases row with
    | decision =>
      simp only [decisionItem, Option.ite_none_right_eq_some, Option.some.injEq] at h
      obtain ⟨⟨rfl, -⟩, rfl⟩ := h
      rfl
    | _ => cases h

lemma Rows.Numbered.items_nodup (h : rows.Numbered) :
    ((rows.items request operationId source).map Prod.fst).Nodup := by
  have hdistinct := List.pairwise_filterMap.mp h.distinct
  rw [Rows.items, List.map_filterMap]
  refine List.pairwise_filterMap.mpr (hdistinct.imp fun hrows => ?_)
  intro sequence hsequence sequence' hsequence' heq
  obtain ⟨_, hitem, rfl⟩ := Option.map_eq_some_iff.mp hsequence
  obtain ⟨_, hitem', rfl⟩ := Option.map_eq_some_iff.mp hsequence'
  exact hrows _ (number_of_sourceItem hitem) _ (number_of_sourceItem hitem') (by rw [heq])

lemma Rows.Numbered.items_positive (h : rows.Numbered) {item : ℤ × ResourceAuditRecord}
    (hitem : item ∈ rows.items request operationId source) : 0 < item.1 := by
  obtain ⟨row, hrow, hsource⟩ := List.mem_filterMap.mp hitem
  exact h.positive _ (List.mem_filterMap.mpr ⟨row, hrow, number_of_sourceItem hsource⟩)

/-- The items of a source, in order. -/
def Rows.ordered (rows : Rows) (request : Request) (operationId : String) (source : ℕ) :
    List (ℤ × ResourceAuditRecord) :=
  orderBy Prod.fst (rows.items request operationId source)

lemma records_eq (rows : Rows) (request : Request) (operationId : String) :
    rows.records request operationId = entries 0 (rows.ordered request operationId 0) ++
      entries 1 (rows.ordered request operationId 1) := by
  simp [Rows.records, entries, Rows.ordered]

lemma Rows.Numbered.records_increasing (h : rows.Numbered) :
    Increasing Prod.fst (rows.records request operationId) := by
  have hsource : ∀ source, (entries source (rows.ordered request operationId source)).Pairwise
      fun a b => a.1 < b.1 := by
    intro source
    have hordered : (rows.ordered request operationId source).Pairwise fun a b => a.1 < b.1 :=
      Keyset.increasing_orderBy h.items_nodup
    refine List.pairwise_map.mpr (hordered.imp fun hlt => ?_)
    exact Prod.Lex.toLex_lt_toLex.mpr (.inr ⟨rfl, hlt⟩)
  rw [records_eq]
  refine List.pairwise_append.mpr ⟨hsource 0, hsource 1, fun a ha b hb => ?_⟩
  obtain ⟨_, -, rfl⟩ := List.mem_map.mp ha
  obtain ⟨_, -, rfl⟩ := List.mem_map.mp hb
  exact Prod.Lex.toLex_lt_toLex.mpr (.inl Nat.zero_lt_one)

/-- What comes behind a place, in a source. -/
lemma after_entries (place : ℕ × ℤ) (items : List (ℤ × ResourceAuditRecord)) :
    after Prod.fst (toLex place) (entries source items) =
      entries source (items.filter fun item => place.1 < source ∨ place.1 = source ∧ place.2 < item.1) := by
  rw [after, entries, List.filter_map, entries]
  congr 1
  refine List.filter_congr fun item _ => ?_
  simp [Prod.Lex.toLex_lt_toLex]

/-- All records come behind the first place. -/
lemma Rows.Numbered.after_zero (h : rows.Numbered) :
    after Prod.fst (toLex (0, 0)) (rows.records request operationId) =
      rows.records request operationId := by
  refine List.filter_eq_self.mpr fun entry hentry => decide_eq_true ?_
  rw [records_eq, List.mem_append] at hentry
  rcases hentry with hentry | hentry
  · obtain ⟨_, hitem, rfl⟩ := List.mem_map.mp hentry
    have hpositive := h.items_positive ((Keyset.orderBy_perm _).mem_iff.mp hitem)
    exact Prod.Lex.toLex_lt_toLex.mpr (.inr ⟨rfl, hpositive⟩)
  · obtain ⟨_, -, rfl⟩ := List.mem_map.mp hentry
    exact Prod.Lex.toLex_lt_toLex.mpr (.inl Nat.zero_lt_one)

/-! ### Reading -/

section

variable {start : Start} {old new : Progress}

lemma Took.length_le {limit : ℕ} {taken : List (Position × ResourceAuditRecord)}
    (h : Took limit old new taken) (hle : old.items.length ≤ limit) : new.items.length ≤ limit := by
  rw [h.items, List.length_append, List.length_map, List.length_take]
  omega

/-- The number behind which a source is read. -/
def Start.behind (start : Start) (source : ℕ) : ℤ :=
  if source = start.afterSource then start.afterSequence else 0

lemma readSource_took (hrows : rows.Numbered) (hmore : old.hasMore = false)
    (hle : old.items.length ≤ request.limit) (h : readSource rows request start old source = .ok new) :
    Took request.limit old new (entries source
      (((rows.within start.snapshot).ordered request start.operationId source).filter
        fun item => start.behind source < item.1)) := by
  rw [readSource, hmore, if_neg Bool.false_ne_true] at h
  have htook := collect_took hmore hle h
  rw [Rows.query, Keyset.orderBy_filter (hrows.within _).items_nodup, entries, List.map_take] at htook
  exact htook.of_take hle

/-- **A page takes what comes behind its start.** -/
lemma readSources_took (hrows : rows.Numbered) (hsource : start.afterSource ≤ 1)
    (h : readSources rows request start = .ok new) :
    Took request.limit ⟨[], start.afterSource, start.afterSequence, false⟩ new
      (after Prod.fst (toLex (start.afterSource, start.afterSequence))
        ((rows.within start.snapshot).records request start.operationId)) := by
  rw [records_eq, after, List.filter_append, ← after, ← after, after_entries, after_entries]
  obtain ⟨snapshot, operationId, _, afterSequence⟩ := start
  dsimp only at hsource ⊢
  rcases Nat.le_one_iff_eq_zero_or_eq_one.mp hsource with rfl | rfl
  · obtain ⟨mid, hmid, hnew⟩ : ∃ mid, readSource rows request ⟨snapshot, operationId, 0, afterSequence⟩
        ⟨[], 0, afterSequence, false⟩ 0 = .ok mid ∧
        readSource rows request ⟨snapshot, operationId, 0, afterSequence⟩ mid 1 = .ok new := by
      simp only [readSources, List.range', List.foldlM_cons, List.foldlM_nil, bind_pure] at h
      exact Checks.bind_eq_ok.mp h
    have htook := readSource_took hrows rfl (Nat.zero_le _) hmid
    simp only [Start.behind, if_true] at htook
    cases hmore : mid.hasMore with
    | true =>
      rw [readSource, hmore, if_pos rfl] at hnew
      cases hnew
      simpa using htook.stop hmore
    | false =>
      -- All numbers of the second source are positive.
      have hrest := readSource_took hrows hmore (htook.length_le (Nat.zero_le _)) hnew
      have hpositive : ((rows.within snapshot).ordered request operationId 1).filter
          (fun item => (0 : ℤ) < item.1) = (rows.within snapshot).ordered request operationId 1 := by
        refine List.filter_eq_self.mpr fun item hitem => decide_eq_true ?_
        exact (hrows.within _).items_positive ((Keyset.orderBy_perm _).mem_iff.mp hitem)
      simp only [Start.behind, one_ne_zero, if_false] at hrest
      rw [hpositive] at hrest
      simpa using htook.trans hmore hrest
  · simp only [readSources, List.range', List.foldlM_cons, List.foldlM_nil, bind_pure] at h
    have htook := readSource_took hrows rfl (Nat.zero_le _) h
    simp only [Start.behind, if_true] at htook
    simpa [entries] using htook

end

/-! ### Reads and their receipts -/

/-- What a read pages through: the records that its snapshot shows. -/
def Reading.base (reading : Reading) (db : Database) : List (Position × ResourceAuditRecord) :=
  (db.committed.within reading.receipt.snapshot).records reading.request reading.receipt.operationId

/-- Where a read has ended. -/
def Reading.position (reading : Reading) : Position :=
  toLex (reading.receipt.afterSource, reading.receipt.afterSequence)

/-- The page of a read, from its start on. -/
structure Reading.PageOf (reading : Reading) (start : Position)
    (base : List (Position × ResourceAuditRecord)) : Prop where
  limit : 1 ≤ reading.request.limit
  items : reading.page.items = ((after Prod.fst start base).take reading.request.limit).map Prod.snd
  position : reading.position =
    (((after Prod.fst start base).take reading.request.limit).getLast?.map Prod.fst).getD start
  hasMore : reading.receipt.hasMore = decide (reading.request.limit < (after Prod.fst start base).length)
  cursor : reading.page.nextCursor = if reading.receipt.hasMore then reading.receipt.id else ""
  source : reading.receipt.afterSource ≤ 1

/-- A read is a first page, or it goes on where another one has ended. -/
def Reading.Origin (reading : Reading) (db : Database) : Prop :=
  (reading.request.cursor = "" ∧ reading.PageOf (toLex (0, 0)) (reading.base db) ∧
    reading.visible = reading.base db) ∨
  ∃ earlier ∈ db.finished, earlier.receipt.id = reading.request.cursor ∧
    reading.base db = earlier.base db ∧ reading.PageOf earlier.position (reading.base db)

/-- The reads, finished or not. -/
def Database.reads (db : Database) : List Reading :=
  db.reading.map Prod.snd ++ db.finished

/-- What holds of a read, finished or not. -/
structure Reading.Sound (reading : Reading) (db : Database) : Prop where
  settled : Settled db.transactions reading.receipt.snapshot
  origin : reading.Origin db
  scope : reading.receipt.isolationDomainId = reading.request.scope
  kind : reading.receipt.resourceType = reading.request.kind
  id : reading.receipt.resourceId = reading.request.id

/-- What holds of the database, whatever has happened. -/
structure Database.Sound (db : Database) : Prop where
  numbered : db.rows.Numbered
  reads : ∀ reading ∈ db.reads, reading.Sound db
  receipts : (db.finished.map fun reading => reading.receipt.id).Nodup
  named : ∀ reading ∈ db.finished, reading.receipt.id ≠ ""

variable {reading : Reading}

lemma Reading.base_keeps (h : db.Keeps db')
    (hsettled : Settled db.transactions reading.receipt.snapshot) :
    reading.base db' = reading.base db := by
  rw [Reading.base, h.within hsettled, Reading.base]

lemma Reading.Sound.pageOf (h : reading.Sound db) : ∃ start, reading.PageOf start (reading.base db) := by
  rcases h.origin with ⟨-, hpage, -⟩ | ⟨_, _, _, _, hpage⟩ <;> exact ⟨_, hpage⟩

lemma Database.Sound.of_finished (hs : db.Sound) (h : reading ∈ db.finished) : reading.Sound db :=
  hs.reads reading (List.mem_append_right _ h)

/-- A read that was there before. -/
lemma Database.Sound.transfer (hs : db.Sound) (h : db.Keeps db')
    (hfinished : db.finished ⊆ db'.finished) (hmem : reading ∈ db.reads) : reading.Sound db' := by
  have hold := hs.reads reading hmem
  refine { hold with settled := h.settled hold.settled, origin := ?_ }
  unfold Reading.Origin
  rw [Reading.base_keeps h hold.settled]
  rcases hold.origin with hfirst | ⟨earlier, hearlier, hid, hsame, hpage⟩
  · exact .inl hfirst
  · refine .inr ⟨earlier, hfinished hearlier, hid, ?_, hpage⟩
    rw [Reading.base_keeps h (hs.of_finished hearlier).settled]
    exact hsame

/-- A step that leaves the reads as they are. -/
lemma Database.Sound.keeps (hs : db.Sound) (h : db.Keeps db') (hnumbered : db'.rows.Numbered)
    (hreading : db'.reading = db.reading) (hfinished : db'.finished = db.finished) : db'.Sound := by
  have hreads : db'.reads = db.reads := by rw [Database.reads, hreading, hfinished, Database.reads]
  exact ⟨hnumbered, fun reading hmem => hs.transfer h (hfinished ▸ fun _ h => h) (hreads ▸ hmem),
    hfinished ▸ hs.receipts, hfinished ▸ hs.named⟩

variable {render : Snapshot → String}

lemma readResourceAudit_eq_ok {receipts : List Receipt} {current : Snapshot} {receiptId : String}
    {page : Page} {receipt : Receipt}
    (h : readResourceAudit render rows receipts current request receiptId = .ok (page, receipt)) :
    1 ≤ request.limit ∧ ∃ operationId start progress, rows.operation request = some operationId ∧
      startOf request current operationId receipts = .ok start ∧
      readSources rows request start = .ok progress ∧
      page = ⟨receiptId, progress.items, if progress.hasMore then receiptId else ""⟩ ∧
      receipt = receiptOf request start progress receiptId := by
  unfold readResourceAudit at h
  split_ifs at h with hvalid
  have hlimit : 1 ≤ request.limit := by
    simp only [Request.valid, Bool.not_eq_false, Bool.and_eq_true, decide_eq_true_eq] at hvalid
    exact hvalid.1.1.1.2
  split at h
  · cases h
  · rename_i operationId hoperation
    obtain ⟨start, hstart, h⟩ := Checks.bind_eq_ok.mp h
    split_ifs at h
    · cases h
    · obtain ⟨progress, hprogress, h⟩ := Checks.bind_eq_ok.mp h
      cases h
      exact ⟨hlimit, operationId, start, progress, hoperation, hstart, hprogress, rfl, rfl⟩

/-- A read, with what it has read. -/
def readingOf (request : Request) (start : Start) (progress : Progress) (receiptId : String)
    (visible : List (Position × ResourceAuditRecord)) : Reading :=
  ⟨request, ⟨receiptId, progress.items, if progress.hasMore then receiptId else ""⟩,
    receiptOf request start progress receiptId, visible⟩

/-- The page of a read that starts at a place that can be. -/
lemma pageOf_of_took {start : Start} {progress : Progress} (receiptId : String)
    (visible : List (Position × ResourceAuditRecord)) {base : List (Position × ResourceAuditRecord)}
    (hlimit : 1 ≤ request.limit)
    (hsource : start.afterSource ≤ 1) (hbase : ∀ entry ∈ base, (ofLex entry.1).1 ≤ 1)
    (h : Took request.limit ⟨[], start.afterSource, start.afterSequence, false⟩ progress
      (after Prod.fst (toLex (start.afterSource, start.afterSequence)) base)) :
    (readingOf request start progress receiptId visible).PageOf
      (toLex (start.afterSource, start.afterSequence)) base := by
  have hposition := h.position
  have hhasMore := h.hasMore
  simp only [List.length_nil, Nat.sub_zero] at hposition hhasMore
  refine ⟨hlimit, by simpa [readingOf] using h.items, hposition, hhasMore, rfl, ?_⟩
  have hplace : (ofLex progress.position).1 ≤ 1 := by
    rw [hposition]
    cases hlast : ((after Prod.fst (toLex (start.afterSource, start.afterSequence)) base).take
        request.limit).getLast? with
    | none => exact hsource
    | some entry =>
      have hmem := List.mem_of_mem_take (List.mem_of_getLast? hlast)
      exact hbase entry (List.mem_of_mem_filter hmem)
  exact hplace

lemma source_le_of_mem_records {entry : Position × ResourceAuditRecord}
    (h : entry ∈ rows.records request operationId) : (ofLex entry.1).1 ≤ 1 := by
  rw [records_eq, List.mem_append] at h
  rcases h with h | h
  · obtain ⟨_, -, rfl⟩ := List.mem_map.mp h
    exact Nat.zero_le 1
  · obtain ⟨_, -, rfl⟩ := List.mem_map.mp h
    exact le_rfl

/-- The records depend on the resource only. -/
lemma records_congr {request' : Request} (hscope : request.scope = request'.scope)
    (hkind : request.kind = request'.kind) (hid : request.id = request'.id) :
    rows.records request operationId = rows.records request' operationId := by
  have hitem : ∀ source, sourceItem request operationId source = sourceItem request' operationId source := by
    intro source
    funext row
    unfold sourceItem
    split_ifs
    · cases row <;> simp only [lifecycleItem, hscope, hkind, hid]
    · cases row <;> simp only [decisionItem, hscope, hkind, hid]
  simp only [Rows.records, Rows.items, hitem]

lemma Database.Sound.read {id : ℕ} {receiptId : String} (hs : db.Sound)
    (h : db.read render id request receiptId = some db') : db'.Sound := by
  unfold Database.read at h
  split_ifs at h
  have hnumbered : db.committed.Numbered := hs.numbered.filter _
  split at h
  · cases h
    exact hs
  · rename_i page receipt hread
    obtain ⟨hlimit, _, start, progress, hoperation, hstart, hprogress, rfl, rfl⟩ :=
      readResourceAudit_eq_ok hread
    cases h
    have hpage := fun hsource => pageOf_of_took receiptId
      (db.committed.records request ((db.committed.operation request).getD "")) hlimit hsource
      (fun entry => source_le_of_mem_records) (readSources_took hnumbered hsource hprogress)
    have hnew : (readingOf request start progress receiptId
        (db.committed.records request ((db.committed.operation request).getD ""))).Sound db := by
      unfold startOf at hstart
      split_ifs at hstart with hcursor
      · cases hstart
        refine ⟨fun _ => pgVisibleInSnapshot_current.mp, .inl ⟨hcursor, hpage (Nat.zero_le 1), ?_⟩, rfl, rfl, rfl⟩
        simp only [Reading.base, readingOf, receiptOf, hoperation, Option.getD_some]
        rw [committed_within_current]
      · split at hstart
        · cases hstart
        · rename_i found hfind
          cases hstart
          obtain ⟨earlier, hearlier, rfl⟩ := List.mem_map.mp (List.mem_of_find?_eq_some hfind)
          have hsound := hs.of_finished hearlier
          have hnames := List.find?_some hfind
          simp only [Request.names, Bool.and_eq_true, decide_eq_true_eq] at hnames
          obtain ⟨⟨⟨⟨⟨⟨hid, hscope⟩, hkind⟩, hresource⟩, -⟩, -⟩, -⟩ := hnames
          obtain ⟨_, hearlierPage⟩ := hsound.pageOf
          refine ⟨hsound.settled, .inr ⟨earlier, hearlier, hid, ?_, hpage hearlierPage.source⟩, rfl, rfl, rfl⟩
          exact records_congr (hscope.symm.trans hsound.scope) (hkind.symm.trans hsound.kind)
            (hresource.symm.trans hsound.id)
    refine ⟨hs.numbered, List.forall_mem_cons.mpr ⟨{ hnew with }, fun reading hmem => ?_⟩,
      hs.receipts, hs.named⟩
    exact hs.transfer (.of_eq rfl rfl) (List.Subset.refl _) hmem

lemma Database.Sound.finish {id : ℕ} (hs : db.Sound) (h : db.finish id = some db') : db'.Sound := by
  unfold Database.finish at h
  split at h
  · cases h
  · rename_i id' reading hfind
    split_ifs at h with hid
    cases h
    have hreads : ∀ other ∈ Database.reads { db with
        reading := db.reading.filter (·.1 ≠ id), finished := reading :: db.finished }, other ∈ db.reads := by
      intro other hother
      rcases List.mem_append.mp hother with hother | hother
      · obtain ⟨_, hentry, rfl⟩ := List.mem_map.mp hother
        exact List.mem_append_left _ (List.mem_map_of_mem (List.mem_of_mem_filter hentry))
      · rcases List.mem_cons.mp hother with rfl | hother
        · exact List.mem_append_left _ (List.mem_map_of_mem (List.mem_of_find?_eq_some hfind))
        · exact List.mem_append_right _ hother
    refine ⟨hs.numbered, fun other hother =>
      hs.transfer (.of_eq rfl rfl) (List.subset_cons_self _ _) (hreads other hother),
      List.nodup_cons.mpr ⟨hid.2, hs.receipts⟩, List.forall_mem_cons.mpr ⟨?_, hs.named⟩⟩
    intro hempty
    rw [hempty] at hid
    exact absurd hid.1 (by decide)

lemma Rows.Numbered.insert (h : rows.Numbered) {row : Row}
    (hnumber : row.number.all (fun number => decide (0 < number.2) && decide (number ∉ rows.numbers)) = true) :
    Rows.Numbered (rows ++ [(transaction, row)]) := by
  have hnumbers : Rows.numbers (rows ++ [(transaction, row)]) = rows.numbers ++ row.number.toList := by
    rw [Rows.numbers, List.filterMap_append]
    cases hrow : row.number <;> simp [hrow, Rows.numbers]
  cases hrow : row.number with
  | none => exact ⟨by simpa [hnumbers, hrow] using h.distinct, by simpa [hnumbers, hrow] using h.positive⟩
  | some number =>
    simp only [hrow, Option.all_some, Bool.and_eq_true, decide_eq_true_eq] at hnumber
    rw [hrow] at hnumbers
    refine ⟨?_, fun other hother => ?_⟩
    · rw [hnumbers]
      refine h.distinct.append (List.nodup_singleton number) fun other hother hsame => ?_
      rw [List.mem_singleton.mp hsame] at hother
      exact hnumber.2 hother
    · rw [hnumbers] at hother
      rcases List.mem_append.mp hother with hother | hother
      · exact h.positive other hother
      · rw [List.mem_singleton.mp hother]
        exact hnumber.1

lemma Database.Sound.settle {state : TransactionState} (hs : db.Sound)
    (h : db.settle transaction state = some db') : db'.Sound := by
  simp only [Database.settle, Option.ite_none_right_eq_some] at h
  obtain ⟨hrunning, heq⟩ := h
  cases heq
  refine hs.keeps ⟨fun other hover => List.getElem?_set_ne ?_, [], by simp, nofun⟩ hs.numbered rfl rfl
  rintro rfl
  exact not_isOver_of_running hrunning hover

/-- **Every step keeps it.** -/
lemma Database.Sound.step {event : Event} (hs : db.Sound) (h : db.step render event = some db') :
    db'.Sound := by
  cases event with
  | begin =>
    cases h
    refine hs.keeps ⟨fun transaction hover => ?_, [], by simp, nofun⟩ hs.numbered rfl rfl
    obtain ⟨_, hstate, -⟩ := hover
    exact List.getElem?_append_left (List.getElem?_eq_some_iff.mp hstate).1
  | insert transaction row =>
    simp only [Database.step, Database.insert, Option.ite_none_right_eq_some] at h
    obtain ⟨⟨hrunning, hnumber⟩, heq⟩ := h
    cases heq
    refine hs.keeps ⟨fun _ _ => rfl, [(transaction, row)], rfl, ?_⟩ (hs.numbered.insert hnumber) rfl rfl
    exact List.forall_mem_singleton.mpr (not_isOver_of_running hrunning)
  | commit | abort => exact hs.settle h
  | read => exact hs.read h
  | finish => exact hs.finish h

lemma sound_empty : Database.Sound {} where
  numbered := ⟨List.nodup_nil, by simp [Rows.numbers]⟩
  reads := by simp [Database.reads]
  receipts := List.nodup_nil
  named := by simp

/-! ### Following the cursor -/

/-- The next page was asked for with the cursor of this one. -/
def Follows (reading next : Reading) : Prop :=
  reading.page.nextCursor ≠ "" ∧ next.request.cursor = reading.page.nextCursor

lemma Reading.PageOf.rest {start : Position} {base : List (Position × ResourceAuditRecord)}
    (h : reading.PageOf start base) (hbase : Increasing Prod.fst base) :
    after Prod.fst reading.position base = (after Prod.fst start base).drop reading.request.limit := by
  rw [h.position]
  cases hlast : ((after Prod.fst start base).take reading.request.limit).getLast? with
  | some => exact Keyset.after_last hbase hlast
  | none =>
    -- The limit is positive, so there was nothing.
    have hnone : after Prod.fst start base = [] := by
      have htake := List.getLast?_eq_none_iff.mp hlast
      have hlimit := h.limit
      rcases List.take_eq_nil_iff.mp htake with hzero | hnil
      · omega
      · exact hnil
    rw [Option.map_none, Option.getD_none, hnone, List.drop_nil]

/-- **A page goes on where the one before has ended.** -/
lemma Database.Sound.follows (hs : db.Sound) {reading next : Reading} (hreading : reading ∈ db.finished)
    (hnext : next ∈ db.finished) (h : Follows reading next) :
    next.base db = reading.base db ∧ next.PageOf reading.position (reading.base db) := by
  have hid : reading.page.nextCursor = reading.receipt.id := by
    obtain ⟨_, hpage⟩ := (hs.of_finished hreading).pageOf
    have hcursor := hpage.cursor
    split_ifs at hcursor
    · exact hcursor
    · exact absurd hcursor h.1
  rcases (hs.of_finished hnext).origin with ⟨hfirst, -⟩ | ⟨earlier, hearlier, hsame, hbase, hpage⟩
  · exact absurd (h.2.symm.trans hfirst) h.1
  · have heq : earlier = reading := List.inj_on_of_nodup_map hs.receipts hearlier hreading
      (hsame.trans (h.2.trans hid))
    subst heq
    exact ⟨hbase, hbase ▸ hpage⟩

/-- The pages behind a page, and what is left behind them. -/
lemma Database.Sound.pages (hs : db.Sound) {start : Position} (hreading : reading ∈ db.finished)
    (hpage : reading.PageOf start (reading.base db)) {rest : List Reading}
    (hrest : ∀ next ∈ rest, next ∈ db.finished) (hchain : (reading :: rest).IsChain Follows) :
    ∃ left : List (Position × ResourceAuditRecord),
      (after Prod.fst start (reading.base db)).map Prod.snd =
        (reading :: rest).flatMap (fun next => next.page.items) ++ left.map Prod.snd ∧
      ((∀ last ∈ (reading :: rest).getLast?, last.page.nextCursor = "") → left = []) ∧
      rest.length + left.length ≤ (after Prod.fst start (reading.base db)).length := by
  have hincreasing : Increasing Prod.fst (reading.base db) :=
    ((hs.numbered.filter _).within _).records_increasing
  have hsplit := List.take_append_drop reading.request.limit (after Prod.fst start (reading.base db))
  induction rest generalizing reading start with
  | nil =>
    refine ⟨(after Prod.fst start (reading.base db)).drop reading.request.limit, ?_, fun hlast => ?_, ?_⟩
    · rw [List.flatMap_singleton, hpage.items, ← List.map_append, hsplit]
    · have hcursor := hlast reading (by simp)
      rw [hpage.cursor] at hcursor
      split_ifs at hcursor with hmore
      · exact absurd hcursor (hs.named reading hreading)
      · have hle := of_decide_eq_false (hpage.hasMore ▸ Bool.not_eq_true _ ▸ hmore)
        exact List.drop_eq_nil_of_le (not_lt.mp hle)
    · simp
  | cons next rest ih =>
    obtain ⟨hfollows, hchain⟩ := List.isChain_cons_cons.mp hchain
    have hnext := hrest next List.mem_cons_self
    obtain ⟨hbase, hpage'⟩ := hs.follows hreading hnext hfollows
    obtain ⟨left, hleft, hlast, hlength⟩ := ih hnext (hbase ▸ hpage')
      (fun other hother => hrest other (List.mem_cons_of_mem _ hother)) hchain
      (by rw [hbase]; exact hincreasing) (List.take_append_drop _ _)
    rw [hbase, hpage.rest hincreasing] at hleft hlength
    refine ⟨left, ?_, fun h => hlast (by simpa using h), ?_⟩
    · rw [List.flatMap_cons, List.append_assoc, ← hleft, hpage.items, ← List.map_append, hsplit]
    · have hmore : reading.request.limit < (after Prod.fst start (reading.base db)).length := by
        have hcursor := hpage.cursor
        split_ifs at hcursor with hmore
        · exact of_decide_eq_true (hpage.hasMore ▸ hmore)
        · exact absurd hcursor hfollows.1
      have hlimit := hpage.limit
      rw [List.length_drop] at hlength
      rw [List.length_cons]
      omega

/-- **The pages are the snapshot.**  Whatever transactions and other reads do in between, the pages that
follow the cursors from the first one are, one after the other, the records of the resource that were
committed when the first one was read: each once, by source and number, as far as the pages go, and all
of them if the last page has no cursor.  There are not more pages than records, besides the first. -/
theorem pages_are_snapshot (render : Snapshot → String) {events : List Event} {db : Database}
    (h : Run.run (Database.step render) {} events = some db) {first : Reading} {rest : List Reading}
    (hfinished : ∀ reading ∈ first :: rest, reading ∈ db.finished) (hfirst : first.request.cursor = "")
    (hchain : (first :: rest).IsChain Follows) :
    Increasing Prod.fst first.visible ∧
    (first :: rest).flatMap (fun reading => reading.page.items) <+: first.visible.map Prod.snd ∧
    ((∀ last ∈ (first :: rest).getLast?, last.page.nextCursor = "") →
      (first :: rest).flatMap (fun reading => reading.page.items) = first.visible.map Prod.snd) ∧
    rest.length ≤ first.visible.length := by
  have hs : db.Sound := Run.run_invariant (fun _ _ _ hs hstep => hs.step hstep) sound_empty h
  have hmem := hfinished first List.mem_cons_self
  rcases (hs.of_finished hmem).origin with ⟨-, hpage, hvisible⟩ | ⟨earlier, hearlier, hid, -⟩
  · have hincreasing : Increasing Prod.fst (first.base db) :=
      ((hs.numbered.filter _).within _).records_increasing
    have hall : after Prod.fst (toLex (0, 0)) (first.base db) = first.base db :=
      ((hs.numbered.filter _).within _).after_zero
    obtain ⟨_, hleft, hlast, hlength⟩ := hs.pages hmem hpage
      (fun next hnext => hfinished next (List.mem_cons_of_mem _ hnext)) hchain
    rw [hall, ← hvisible] at hleft hlength
    refine ⟨hvisible ▸ hincreasing, ⟨_, hleft.symm⟩, fun h => ?_, by omega⟩
    rw [hleft, hlast h, List.map_nil, List.append_nil]
  · exact absurd (hid.trans hfirst) (hs.named earlier hearlier)

namespace Scenario

def principal : Principal where
  id := "reader"
  kind := .human
  issuer := "issuer"
  subject := "subject"
  audience := apiAudience
  isolationDomains := ["iso_00000000000000000000"]

def asking (cursor : String) (limit : ℕ) : Request :=
  ⟨principal, "iso_00000000000000000000", .invocation, "inv_00000000000000000000",
    "cor_00000000000000000000", cursor, limit⟩

def columns (sequence : ℤ) (id : String) : AuditColumns :=
  ⟨sequence, id, 0, "actor", "accepted", "accepted", "cor_00000000000000000000", "", "", "", ""⟩

def lifecycle (sequence : ℤ) (id : String) : Row :=
  .lifecycle "iso_00000000000000000000" "invocation" "inv_00000000000000000000" (columns sequence id)

def item (id : String) : ResourceAuditRecord :=
  ⟨id, "lifecycle", 0, "actor", "accepted", "accepted", "cor_00000000000000000000", "", "", "", ""⟩

/-- A row with a number between those of the pages is committed after the first page. -/
def lateCommit : List Event :=
  [.begin, .begin,
    .insert 0 (.invocation "iso_00000000000000000000" "inv_00000000000000000000"
      "op_00000000000000000000"),
    .insert 0 (lifecycle 1 "aud_00000000000000000001"), .insert 1 (lifecycle 2 "aud_00000000000000000002"),
    .insert 0 (lifecycle 3 "aud_00000000000000000003"), .commit 0,
    .read 0 (asking "" 1) "arr_00000000000000000000", .finish 0, .commit 1,
    .read 1 (asking "arr_00000000000000000000" 5) "arr_00000000000000000001", .finish 1]

end Scenario

open Audit.Scenario in
/-- Two pages, with a commit between them. -/
theorem pages_are_snapshot_late :
    ∃ db first second, Run.run (Database.step fun _ => "") {} lateCommit = some db ∧
      db.finished = [second, first] ∧ first.page.items = [item "aud_00000000000000000001"] ∧
      second.page.items = [item "aud_00000000000000000003"] ∧
      first.page.items ++ second.page.items = first.visible.map Prod.snd := by
  have hrun : (Run.run (Database.step fun _ => "") {} lateCommit).map (fun db =>
      db.finished.map fun reading => (reading.page, reading.request.cursor)) =
      some [(⟨"arr_00000000000000000001", [item "aud_00000000000000000003"], ""⟩,
        "arr_00000000000000000000"),
        (⟨"arr_00000000000000000000", [item "aud_00000000000000000001"], "arr_00000000000000000000"⟩,
        "")] := by
    decide +kernel
  obtain ⟨db, hdb, hfinished⟩ := Option.map_eq_some_iff.mp hrun
  obtain ⟨second, _, hsecond, hpage₂, hothers⟩ := List.map_eq_cons_iff.mp hfinished
  obtain ⟨first, _, rfl, hpage₁, hnothing⟩ := List.map_eq_cons_iff.mp hothers
  obtain rfl := List.map_eq_nil_iff.mp hnothing
  obtain ⟨hpage₁, hcursor₁⟩ := Prod.mk.inj hpage₁
  obtain ⟨hpage₂, hcursor₂⟩ := Prod.mk.inj hpage₂
  have hfollows : Follows first second := by
    unfold Follows
    rw [hpage₁, hcursor₂]
    exact ⟨by decide, rfl⟩
  have hmem : ∀ reading ∈ [first, second], reading ∈ db.finished := by simp [hsecond]
  obtain ⟨-, -, hall, -⟩ := pages_are_snapshot _ hdb hmem hcursor₁ (List.isChain_pair.mpr hfollows)
  refine ⟨db, first, second, hdb, hsecond, by rw [hpage₁], by rw [hpage₂], ?_⟩
  simpa using hall (by simp [hpage₂])

end DataGround.Audit
