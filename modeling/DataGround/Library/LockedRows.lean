import Mathlib.Data.List.Basic

/-!
# Rows under locks

Rows of any number of tables, each with a key, and transactions that read and write them.  A row is
there twice: as it is committed, and as its last writer has left it.  A transaction that writes a row
has the lock on it until it ends, so that only this one sees the last version; all others see the
committed one.
-/

/-- The rows and their locks.  `keys` are the keys that have been written. -/
structure LockedRows (κ : Type*) (Row : κ → Type*) where
  (committed latest : (key : κ) → Option (Row key))
  writer : κ → Option ℕ
  keys : List κ

namespace LockedRows

variable {κ : Type*} {Row : κ → Type*}

/-- No rows. -/
def empty : LockedRows κ Row :=
  ⟨fun _ => none, fun _ => none, fun _ => none, []⟩

/-- The row as a transaction sees it. -/
def current (s : LockedRows κ Row) (id : ℕ) (key : κ) : Option (Row key) :=
  if s.writer key = some id then s.latest key else s.committed key

/-- The locks, once a transaction has ended. -/
def unlocked (s : LockedRows κ Row) (id : ℕ) (key : κ) : Option ℕ :=
  if s.writer key = some id then none else s.writer key

/-- The transaction commits. -/
def commit (s : LockedRows κ Row) (id : ℕ) : LockedRows κ Row :=
  { s with
    committed := fun key => s.current id key, writer := s.unlocked id }

/-- The transaction is rolled back. -/
def rollback (s : LockedRows κ Row) (id : ℕ) : LockedRows κ Row :=
  { s with
    latest := fun key => if s.writer key = some id then s.committed key else s.latest key
    writer := s.unlocked id }

variable {s t : LockedRows κ Row} {id : ℕ} {key : κ}

/-- Only keys that have been written have rows. -/
def Indexed (s : LockedRows κ Row) : Prop :=
  ∀ key, s.committed key ≠ none ∨ s.latest key ≠ none → key ∈ s.keys

lemma Indexed.commit (hs : s.Indexed) (id : ℕ) : (s.commit id).Indexed := by
  intro key hrow
  refine hs key ?_
  dsimp only [LockedRows.commit, current] at hrow
  split at hrow
  · exact .inr (hrow.elim (fun h => h) fun h => h)
  · exact hrow

lemma Indexed.rollback (hs : s.Indexed) (id : ℕ) : (s.rollback id).Indexed := by
  intro key hrow
  refine hs key ?_
  dsimp only [LockedRows.rollback] at hrow
  split at hrow
  · exact .inl (hrow.elim (fun h => h) fun h => h)
  · exact hrow

/-! ### Locking and writing -/

section

variable [DecidableEq κ]

/-- A row is locked; this waits for another one that has the lock. -/
def lock (s : LockedRows κ Row) (id : ℕ) (key : κ) : Option (LockedRows κ Row) :=
  if s.writer key = none ∨ s.writer key = some id then
    some { s with writer := Function.update s.writer key (some id) }
  else none

/-- A row is written. -/
def write (s : LockedRows κ Row) (key : κ) (row : Row key) : LockedRows κ Row :=
  { s with
    latest := Function.update s.latest key (some row), keys := key :: s.keys }

lemma Indexed.lock (hs : s.Indexed) (h : s.lock id key = some t) : t.Indexed := by
  simp only [LockedRows.lock, Option.ite_none_right_eq_some, Option.some.injEq] at h
  obtain ⟨-, rfl⟩ := h
  exact hs

lemma Indexed.write (hs : s.Indexed) (row : Row key) : (s.write key row).Indexed := by
  intro key' hrow
  by_cases hkey : key' = key
  · exact hkey ▸ List.mem_cons_self
  · refine List.mem_cons_of_mem _ (hs key' ?_)
    simpa [LockedRows.write, Function.update_of_ne hkey] using hrow

end

end LockedRows
