import Mathlib.Data.List.Sort

/-!
# Sorted lists without repetitions

A list that stands for a set is put into a canonical form: it is sorted, and then of equal neighbours one
is kept.  Two lists have the same canonical form exactly if they have the same members.
-/

variable {α : Type*} [DecidableEq α]

/-- Of equal neighbours one is kept. -/
def List.compact : List α → List α
  | [] => []
  | [a] => [a]
  | a :: b :: rest => if a = b then compact (b :: rest) else a :: compact (b :: rest)

namespace List

lemma mem_compact {a : α} (l : List α) : a ∈ l.compact ↔ a ∈ l := by
  induction l using compact.induct with
  | case1 | case2 => rfl
  | case3 b rest ih =>
    rw [compact, if_pos rfl, ih, mem_cons (a := a) (b := b) (l := b :: rest), mem_cons]
    exact ⟨.inr, fun h => h.elim .inl id⟩
  | case4 _ c rest hne ih => rw [compact, if_neg hne, mem_cons, ih, mem_cons (l := c :: rest)]

lemma length_compact_le (l : List α) : l.compact.length ≤ l.length := by
  induction l using compact.induct with
  | case1 | case2 => exact Nat.le_refl _
  | case3 _ _ ih =>
    rw [compact, if_pos rfl]
    exact Nat.le_succ_of_le ih
  | case4 _ _ _ hne ih =>
    rw [compact, if_neg hne]
    exact Nat.succ_le_succ ih

variable [LinearOrder α]

lemma pairwise_compact {l : List α} (h : l.Pairwise (· ≤ ·)) : l.compact.Pairwise (· < ·) := by
  induction l using compact.induct with
  | case1 => exact .nil
  | case2 a => exact pairwise_singleton _ a
  | case3 _ _ ih =>
    rw [compact, if_pos rfl]
    exact ih h.of_cons
  | case4 b c _ hne ih =>
    rw [compact, if_neg hne, pairwise_cons]
    refine ⟨fun a ha => ?_, ih h.of_cons⟩
    rw [mem_compact] at ha
    have hbc : b < c := lt_of_le_of_ne (rel_of_pairwise_cons h mem_cons_self) hne
    rcases mem_cons.mp ha with rfl | ha
    · exact hbc
    · exact lt_of_lt_of_le hbc (rel_of_pairwise_cons h.of_cons ha)

/-- The canonical form of a list. -/
def canonical (l : List α) : List α :=
  (l.insertionSort (· ≤ ·)).compact

@[simp] lemma mem_canonical {a : α} {l : List α} : a ∈ l.canonical ↔ a ∈ l := by
  rw [canonical, mem_compact, mem_insertionSort]

lemma pairwise_canonical (l : List α) : l.canonical.Pairwise (· < ·) :=
  pairwise_compact (pairwise_insertionSort _ l)

lemma length_canonical_le (l : List α) : l.canonical.length ≤ l.length := by
  have h := length_compact_le (l.insertionSort (· ≤ ·))
  rwa [length_insertionSort] at h

omit [DecidableEq α] in
/-- Strictly sorted lists with the same members are equal. -/
lemma eq_of_pairwise_lt {l l' : List α} (hl : l.Pairwise (· < ·)) (hl' : l'.Pairwise (· < ·))
    (h : ∀ a, a ∈ l ↔ a ∈ l') : l = l' := by
  have hperm : l.Perm l' := (perm_ext_iff_of_nodup hl.nodup hl'.nodup).mpr h
  exact hperm.eq_of_pairwise (fun a b _ _ hab hba => absurd hab hba.asymm) hl hl'

/-- **Lists with the same members have the same canonical form.** -/
lemma canonical_eq_iff {l l' : List α} : l.canonical = l'.canonical ↔ ∀ a, a ∈ l ↔ a ∈ l' := by
  refine ⟨fun h a => ?_, fun h => ?_⟩
  · rw [← mem_canonical, h, mem_canonical]
  · exact eq_of_pairwise_lt (pairwise_canonical l) (pairwise_canonical l')
      fun a => by rw [mem_canonical, mem_canonical, h a]

lemma canonical_canonical (l : List α) : l.canonical.canonical = l.canonical :=
  canonical_eq_iff.mpr fun _ => mem_canonical

end List
