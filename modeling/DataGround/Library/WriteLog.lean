import Mathlib.Data.List.Pairwise
import Mathlib.Data.List.Perm.Basic

/-!
# A database as its log of writes

What transactions have written is a list of writes, each with the transaction it comes from: the
committed ones in the order of their commits, and the uncommitted ones, which only their own
transaction sees.  A transaction may lock keys; it keeps its locks until it ends.  A write that
conflicts with another one -- as two rows with one key of a unique index do -- is an error if it
can see that one, and waits if that one is uncommitted elsewhere.

* `Distinct` -- no two writes conflict; every operation keeps that;
* `Guarded about` -- an uncommitted write about a key comes from the transaction that has its lock;
* `Guarded.onKey_visible`, `Guarded.onKey_commit` -- then the holder of the lock on a key sees all
  writes about it, and committing them keeps their order.
-/

/-- Writes of type `W` and locks on keys of type `κ`. -/
structure WriteLog (κ W : Type*) where
  (log pending : List (ℕ × W))
  holder : κ → Option ℕ

namespace WriteLog

variable {κ W : Type*}

/-- Nothing is written, and nothing locked. -/
def empty : WriteLog κ W :=
  ⟨[], [], fun _ => none⟩

/-- The writes of one transaction. -/
def own (id : ℕ) (writes : List (ℕ × W)) : List (ℕ × W) :=
  writes.filter fun write => write.1 = id

/-- The writes of all other transactions. -/
def others (id : ℕ) (writes : List (ℕ × W)) : List (ℕ × W) :=
  writes.filter fun write => write.1 ≠ id

/-- What a transaction sees: what is committed, and what it has written itself. -/
def visible (s : WriteLog κ W) (id : ℕ) : List W :=
  (s.log ++ own id s.pending).map Prod.snd

/-- All writes, committed or not. -/
def all (s : WriteLog κ W) : List (ℕ × W) :=
  s.log ++ s.pending

/-- The locks of a transaction are gone. -/
def unlocked (s : WriteLog κ W) (id : ℕ) (key : κ) : Option ℕ :=
  if s.holder key = some id then none else s.holder key

/-- The transaction commits. -/
def commit (s : WriteLog κ W) (id : ℕ) : WriteLog κ W :=
  ⟨s.log ++ own id s.pending, others id s.pending, s.unlocked id⟩

/-- The transaction is rolled back. -/
def rollback (s : WriteLog κ W) (id : ℕ) : WriteLog κ W :=
  ⟨s.log, others id s.pending, s.unlocked id⟩

/-- Locks are taken; this waits while another transaction has one of them. -/
def lock [DecidableEq κ] (s : WriteLog κ W) (id : ℕ) (keys : List κ) : Option (WriteLog κ W) :=
  if ∀ key ∈ keys, s.holder key = none ∨ s.holder key = some id then
    some { s with holder := fun key => if key ∈ keys then some id else s.holder key }
  else none

/-- What becomes of a write. -/
inductive Outcome (κ W : Type*) where
  | violates
  | waits
  | written (s : WriteLog κ W)

/-- A transaction writes. -/
def write (conflicts : W → W → Bool) (s : WriteLog κ W) (id : ℕ) (w : W) : Outcome κ W :=
  if (s.visible id).any (conflicts w) then .violates
  else if (others id s.pending).any fun write => conflicts w write.2 then .waits
  else .written { s with pending := s.pending ++ [(id, w)] }

variable {s t : WriteLog κ W} {id other : ℕ} {w : W}

/-! ### Rules -/

variable {keys : List κ}

lemma lock_eq_some [DecidableEq κ] (h : s.lock id keys = some t) :
    (∀ key ∈ keys, s.holder key = none ∨ s.holder key = some id) ∧
      t = { s with holder := fun key => if key ∈ keys then some id else s.holder key } := by
  simp only [lock, Option.ite_none_right_eq_some, Option.some.injEq] at h
  exact ⟨h.1, h.2.symm⟩

/-- A transaction has the locks that it takes, and keeps those that it has. -/
lemma holder_of_lock [DecidableEq κ] (h : s.lock id keys = some t) {key : κ}
    (hkey : key ∈ keys ∨ s.holder key = some id) : t.holder key = some id := by
  obtain ⟨-, rfl⟩ := lock_eq_some h
  dsimp only
  split
  · rfl
  · rename_i hmem
    exact hkey.resolve_left hmem

lemma mem_own {writes : List (ℕ × W)} {write : ℕ × W} :
    write ∈ own id writes ↔ write ∈ writes ∧ write.1 = id := by
  simp [own]

lemma mem_others {writes : List (ℕ × W)} {write : ℕ × W} :
    write ∈ others id writes ↔ write ∈ writes ∧ write.1 ≠ id := by
  simp [others]

/-- The writes of one transaction are among those of the others. -/
lemma own_others (hne : other ≠ id) (writes : List (ℕ × W)) :
    own other (others id writes) = own other writes := by
  simp only [own, others, List.filter_filter]
  refine List.filter_congr fun write _ => ?_
  by_cases h : write.1 = other
  · simp [h, hne]
  · simp [h]

lemma own_others_self (id : ℕ) (writes : List (ℕ × W)) : own id (others id writes) = [] := by
  simp [own, others]

/-- Own writes and others' are all. -/
lemma own_append_others (id : ℕ) (writes : List (ℕ × W)) :
    (own id writes ++ others id writes).Perm writes := by
  simpa [own, others] using
    List.filter_append_perm (fun write : ℕ × W => decide (write.1 = id)) writes

lemma mem_visible : w ∈ s.visible id ↔ (∃ writer, (writer, w) ∈ s.log) ∨ (id, w) ∈ s.pending := by
  simp only [visible, List.map_append, List.mem_append, List.mem_map, mem_own, Prod.exists,
    exists_eq_right]

lemma visible_concat_self :
    ({ s with pending := s.pending ++ [(id, w)] } : WriteLog κ W).visible id =
      s.visible id ++ [w] := by
  simp [visible, own]

lemma visible_concat_ne (hne : other ≠ id) :
    ({ s with pending := s.pending ++ [(id, w)] } : WriteLog κ W).visible other =
      s.visible other := by
  simp [visible, own, hne.symm]

lemma visible_commit_ne (hne : other ≠ id) :
    (s.commit id).visible other =
      (s.log ++ own id s.pending ++ own other s.pending).map Prod.snd := by
  simp only [visible, commit, own_others hne]

lemma visible_rollback_ne (hne : other ≠ id) : (s.rollback id).visible other = s.visible other := by
  simp only [visible, rollback, own_others hne]

lemma unlocked_eq_some {key : κ} :
    s.unlocked id key = some other ↔ s.holder key = some other ∧ other ≠ id := by
  unfold unlocked
  split
  · rename_i h
    simp [h, eq_comm]
  · rename_i h
    constructor
    · intro hother
      refine ⟨hother, ?_⟩
      rintro rfl
      exact h hother
    · exact fun hother => hother.1

/-! ### Writes do not conflict -/

variable {conflicts : W → W → Bool}

/-- No two writes conflict, committed or not. -/
def Distinct (conflicts : W → W → Bool) (s : WriteLog κ W) : Prop :=
  (s.all.map Prod.snd).Pairwise fun w w' => conflicts w w' = false

lemma distinct_empty : (empty : WriteLog κ W).Distinct conflicts :=
  List.Pairwise.nil

/-- **A write that is accepted conflicts with none.** -/
lemma write_eq_written (h : s.write conflicts id w = .written t) :
    t = { s with pending := s.pending ++ [(id, w)] } ∧
      ∀ write ∈ s.all, conflicts w write.2 = false := by
  unfold write at h
  split at h
  · cases h
  · rename_i hvisible
    split at h
    · cases h
    · rename_i hothers
      cases h
      refine ⟨rfl, ?_⟩
      rintro ⟨writer, w'⟩ hmem
      simp only [List.any_eq_true, not_exists, not_and] at hvisible hothers
      rcases List.mem_append.mp hmem with hlog | hpending
      · exact Bool.eq_false_iff.mpr (hvisible w' (mem_visible.mpr (.inl ⟨writer, hlog⟩)))
      · by_cases hwriter : writer = id
        · subst hwriter
          exact Bool.eq_false_iff.mpr (hvisible w' (mem_visible.mpr (.inr hpending)))
        · exact Bool.eq_false_iff.mpr (hothers (writer, w') (mem_others.mpr ⟨hpending, hwriter⟩))

lemma Distinct.write (hsymm : ∀ w w', conflicts w w' = conflicts w' w)
    (hs : s.Distinct conflicts) (h : s.write conflicts id w = .written t) :
    t = { s with pending := s.pending ++ [(id, w)] } ∧ t.Distinct conflicts := by
  obtain ⟨rfl, hnone⟩ := write_eq_written h
  refine ⟨rfl, ?_⟩
  unfold Distinct all at hs ⊢
  simp only [← List.append_assoc, List.map_append, List.map_cons, List.map_nil]
  rw [← List.map_append, List.pairwise_append]
  refine ⟨hs, List.pairwise_singleton _ _, fun w' hw' w'' hw'' => ?_⟩
  rw [List.mem_singleton.mp hw'', hsymm]
  obtain ⟨write, hmem, rfl⟩ := List.mem_map.mp hw'
  exact hnone write hmem

lemma Distinct.commit (hsymm : ∀ w w', conflicts w w' = conflicts w' w)
    (hs : s.Distinct conflicts) (id : ℕ) : (s.commit id).Distinct conflicts := by
  unfold Distinct at hs ⊢
  have hperm : (s.commit id).all.Perm s.all := by
    simp only [WriteLog.commit, all, List.append_assoc]
    exact (own_append_others id s.pending).append_left s.log
  refine ((hperm.map Prod.snd).pairwise_iff fun {w w'} h => ?_).mpr hs
  rw [hsymm]
  exact h

lemma Distinct.rollback (hs : s.Distinct conflicts) (id : ℕ) :
    (s.rollback id).Distinct conflicts := by
  refine List.Pairwise.sublist (List.Sublist.map _ ?_) hs
  exact (List.Sublist.refl _).append List.filter_sublist

/-- Two writes that conflict are one. -/
lemma Distinct.eq_of_conflicts (hs : s.Distinct conflicts) {write write' : ℕ × W}
    (hsymm : ∀ w w', conflicts w w' = conflicts w' w) (hwrite : write ∈ s.all)
    (hwrite' : write' ∈ s.all) (h : conflicts write.2 write'.2 = true) : write = write' := by
  have : Std.Symm fun a b : ℕ × W => conflicts a.2 b.2 = false :=
    ⟨fun a b hab => by rw [hsymm]; exact hab⟩
  by_contra hne
  have hfalse := (List.pairwise_map.mp hs).forall hwrite hwrite' hne
  rw [h] at hfalse
  cases hfalse

/-! ### Writes under locks -/

section

variable {about : W → Option κ} {key : κ}

/-- An uncommitted write about a key comes from the transaction that has the lock on it. -/
def Guarded (about : W → Option κ) (s : WriteLog κ W) : Prop :=
  ∀ id w key, (id, w) ∈ s.pending → about w = some key → s.holder key = some id

lemma guarded_empty : (empty : WriteLog κ W).Guarded about := by
  intro id w key h
  cases h

lemma Guarded.lock [DecidableEq κ] (hs : s.Guarded about) (h : s.lock id keys = some t) :
    t.Guarded about := by
  obtain ⟨hfree, rfl⟩ := lock_eq_some h
  intro other w k hw hk
  have hold := hs other w k hw hk
  dsimp only
  split
  · rename_i hmem
    have hk := hfree k hmem
    rw [hold] at hk
    simpa [eq_comm] using hk
  · exact hold

lemma Guarded.write (hs : s.Guarded about)
    (hw : ∀ key, about w = some key → s.holder key = some id) :
    ({ s with pending := s.pending ++ [(id, w)] } : WriteLog κ W).Guarded about := by
  intro other w' k hw' hk
  rcases List.mem_append.mp hw' with hold | hnew
  · exact hs other w' k hold hk
  · cases List.mem_singleton.mp hnew
    exact hw k hk

/-- Ending a transaction leaves the others' writes with their locks. -/
lemma Guarded.others (hs : s.Guarded about) (log : List (ℕ × W)) (id : ℕ) :
    (⟨log, WriteLog.others id s.pending, s.unlocked id⟩ : WriteLog κ W).Guarded about := by
  intro other w k hw hk
  obtain ⟨hpending, hne⟩ := mem_others.mp hw
  exact unlocked_eq_some.mpr ⟨hs other w k hpending hk, hne⟩

variable [DecidableEq κ]

/-- The writes about a key, in order. -/
def onKey (about : W → Option κ) (key : κ) (writes : List (ℕ × W)) : List (ℕ × W) :=
  writes.filter fun write => about write.2 = some key

lemma onKey_append (writes writes' : List (ℕ × W)) :
    onKey about key (writes ++ writes') = onKey about key writes ++ onKey about key writes' :=
  List.filter_append writes writes'

/-- The holder of a lock has made all uncommitted writes about the key. -/
lemma Guarded.onKey_own (hs : s.Guarded about) (hkey : s.holder key = some id) :
    onKey about key (own id s.pending) = onKey about key s.pending := by
  simp only [onKey, own, List.filter_filter]
  refine List.filter_congr fun write hwrite => ?_
  by_cases h : about write.2 = some key
  · have := hs write.1 write.2 key hwrite h
    rw [hkey] at this
    simp [h, (Option.some.inj this).symm]
  · simp [h]

/-- And another transaction none. -/
lemma Guarded.onKey_own_ne (hs : s.Guarded about) (hkey : s.holder key ≠ some id) :
    onKey about key (own id s.pending) = [] := by
  refine List.filter_eq_nil_iff.mpr fun write hwrite => ?_
  obtain ⟨hpending, rfl⟩ := mem_own.mp hwrite
  simp only [decide_eq_true_eq]
  exact fun h => hkey (hs write.1 write.2 key hpending h)

lemma Guarded.onKey_others (hs : s.Guarded about) (hkey : s.holder key = some id) :
    onKey about key (WriteLog.others id s.pending) = [] := by
  refine List.filter_eq_nil_iff.mpr fun write hwrite => ?_
  obtain ⟨hpending, hne⟩ := mem_others.mp hwrite
  simp only [decide_eq_true_eq]
  intro h
  have := hs write.1 write.2 key hpending h
  rw [hkey] at this
  exact hne (Option.some.inj this).symm

lemma Guarded.onKey_others_ne (hs : s.Guarded about) (hkey : s.holder key ≠ some id) :
    onKey about key (WriteLog.others id s.pending) = onKey about key s.pending := by
  simp only [onKey, WriteLog.others, List.filter_filter]
  refine List.filter_congr fun write hwrite => ?_
  by_cases h : about write.2 = some key
  · have := hs write.1 write.2 key hwrite h
    simp only [h, decide_true, Bool.true_and, ne_eq, decide_not, Bool.not_eq_eq_eq_not,
      Bool.not_true, decide_eq_false_iff_not]
    rintro rfl
    exact hkey this
  · simp [h]

/-- **A commit keeps the writes about a key, and their order.** -/
lemma Guarded.onKey_commit (hs : s.Guarded about) :
    onKey about key (s.commit id).all = onKey about key s.all := by
  simp only [commit, all, onKey_append]
  by_cases hkey : s.holder key = some id
  · rw [hs.onKey_own hkey, hs.onKey_others hkey, List.append_nil]
  · rw [hs.onKey_own_ne hkey, hs.onKey_others_ne hkey, List.append_nil]

/-- A rollback leaves them as they are, or drops the uncommitted ones. -/
lemma Guarded.onKey_rollback (hs : s.Guarded about) :
    onKey about key (s.rollback id).all <+: onKey about key s.all := by
  simp only [rollback, all, onKey_append]
  by_cases hkey : s.holder key = some id
  · rw [hs.onKey_others hkey, List.append_nil]
    exact List.prefix_append _ _
  · exact hs.onKey_others_ne hkey ▸ List.prefix_rfl

/-- The holder of the lock on a key sees all writes about it. -/
lemma Guarded.onKey_visible (hs : s.Guarded about) (hkey : s.holder key = some id) :
    onKey about key (s.log ++ own id s.pending) = onKey about key s.all := by
  rw [all, onKey_append, onKey_append, hs.onKey_own hkey]

/-! ### What one transaction leaves alone of another -/

/-- What the transaction `other` has written, sees and has locked is left alone, and so are the
writes about the keys that it has locked. -/
structure Spares (about : W → Option κ) (other : ℕ) (s t : WriteLog κ W) : Prop where
  own_log : own other t.log = own other s.log
  own_pending : own other t.pending = own other s.pending
  holder : ∀ key, s.holder key = some other → t.holder key = some other
  visible : s.visible other ⊆ t.visible other
  onKey : ∀ key, s.holder key = some other → onKey about key t.all = onKey about key s.all

lemma Spares.trans {u : WriteLog κ W} (hst : Spares about other s t) (htu : Spares about other t u) :
    Spares about other s u where
  own_log := htu.own_log.trans hst.own_log
  own_pending := htu.own_pending.trans hst.own_pending
  holder key h := htu.holder key (hst.holder key h)
  visible := List.Subset.trans hst.visible htu.visible
  onKey key h := (htu.onKey key (hst.holder key h)).trans (hst.onKey key h)

lemma Spares.refl : Spares about other s s :=
  ⟨rfl, rfl, fun _ h => h, List.Subset.refl _, fun _ _ => rfl⟩

lemma spares_lock (hne : other ≠ id) (h : s.lock id keys = some t) : Spares about other s t := by
  obtain ⟨hfree, rfl⟩ := lock_eq_some h
  refine ⟨rfl, rfl, fun key hkey => ?_, List.Subset.refl _, fun _ _ => rfl⟩
  dsimp only
  split
  · rename_i hmem
    have hk := hfree key hmem
    rw [hkey] at hk
    simp [hne] at hk
  · exact hkey

lemma spares_write (hne : other ≠ id) (hw : ∀ key, about w = some key → s.holder key = some id) :
    Spares about other s { s with pending := s.pending ++ [(id, w)] } := by
  refine ⟨rfl, by simp [own, hne.symm], fun _ h => h, ?_, fun key hkey => ?_⟩
  · rw [visible_concat_ne hne]
    exact List.Subset.refl _
  · have habout : about w ≠ some key := by
      intro h
      have hboth := (hw key h).symm.trans hkey
      exact hne (Option.some.inj hboth).symm
    simp [WriteLog.onKey, all, habout]

lemma spares_commit (hs : s.Guarded about) (hne : other ≠ id) :
    Spares about other s (s.commit id) := by
  refine ⟨?_, own_others hne _, fun key hkey => unlocked_eq_some.mpr ⟨hkey, hne⟩, ?_,
    fun key _ => hs.onKey_commit⟩
  · have hnone : own other (own id s.pending) = [] := by
      simp only [own, List.filter_filter, List.filter_eq_nil_iff]
      rintro write -
      simp only [Bool.and_eq_true, decide_eq_true_eq]
      rintro ⟨rfl, hid⟩
      exact hne hid
    simp only [commit, own, List.filter_append]
    simp only [own] at hnone
    rw [hnone, List.append_nil]
  · intro w hw
    rw [visible_commit_ne hne]
    simp only [WriteLog.visible, List.map_append, List.mem_append] at hw ⊢
    exact hw.imp .inl fun h => h

lemma spares_rollback (hs : s.Guarded about) (hne : other ≠ id) :
    Spares about other s (s.rollback id) := by
  refine ⟨rfl, own_others hne _, fun key hkey => unlocked_eq_some.mpr ⟨hkey, hne⟩, ?_,
    fun key hkey => ?_⟩
  · rw [visible_rollback_ne hne]
    exact List.Subset.refl _
  · have hkey' : s.holder key ≠ some id := by
      rw [hkey]
      exact fun h => hne (Option.some.inj h)
    simp only [rollback, all, onKey_append, hs.onKey_others_ne hkey']

end

end WriteLog
