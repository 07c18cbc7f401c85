import Mathlib.Data.List.Sort

/-!
# Pages of a list

Items with different keys are read in the order of their keys, page by page: a page takes the items
behind a key, as many as asked for, and the next page goes on behind the key of its last item.
-/

namespace Keyset

variable {α κ : Type*} [LinearOrder κ]

/-- The keys get larger and larger. -/
def Increasing (key : α → κ) (items : List α) : Prop :=
  items.Pairwise fun a b => key a < key b

/-- The items in the order of their keys. -/
def orderBy (key : α → κ) (items : List α) : List α :=
  items.insertionSort fun a b => key a ≤ key b

/-- The items behind a key. -/
def after (key : α → κ) (position : κ) (items : List α) : List α :=
  items.filter fun a => position < key a

variable {key : α → κ} {items : List α}

lemma orderBy_perm (items : List α) : (orderBy key items).Perm items :=
  List.perm_insertionSort _ items

lemma increasing_orderBy (h : (items.map key).Nodup) : Increasing key (orderBy key items) := by
  have htotal : Std.Total fun a b => key a ≤ key b := ⟨fun a b => le_total (key a) (key b)⟩
  have htrans : IsTrans α fun a b => key a ≤ key b := ⟨fun _ _ _ => le_trans⟩
  have hsorted : (orderBy key items).Pairwise fun a b => key a ≤ key b :=
    List.pairwise_insertionSort _ items
  have hdistinct : (orderBy key items).Pairwise fun a b => key a ≠ key b :=
    List.pairwise_map.mp (((orderBy_perm items).map key).nodup_iff.mpr h)
  exact (hsorted.and hdistinct).imp fun hab => lt_of_le_of_ne hab.1 hab.2

lemma orderBy_filter (h : (items.map key).Nodup) (p : α → Bool) :
    orderBy key (items.filter p) = (orderBy key items).filter p := by
  have hselected : ((items.filter p).map key).Nodup := h.sublist (List.filter_sublist.map key)
  refine List.Perm.eq_of_pairwise (fun a b _ _ hab hba => absurd hab hba.asymm)
    (increasing_orderBy hselected) ((increasing_orderBy h).filter p) ?_
  exact (orderBy_perm _).trans ((orderBy_perm items).filter p).symm

lemma after_suffix (h : Increasing key items) (position : κ) :
    after key position items <:+ items := by
  induction items with
  | nil => exact List.suffix_rfl
  | cons a items ih =>
    obtain ⟨ha, hitems⟩ := List.pairwise_cons.mp h
    by_cases hposition : position < key a
    · have hall : ∀ b ∈ a :: items, decide (position < key b) = true := by
        simp only [List.mem_cons, forall_eq_or_imp, decide_eq_true_eq]
        exact ⟨hposition, fun b hb => hposition.trans (ha b hb)⟩
      simp only [after, List.filter_eq_self.mpr hall, List.suffix_rfl]
    · rw [after, List.filter_cons_of_neg (by simpa using hposition)]
      exact (ih hitems).trans (List.suffix_cons a items)

lemma after_key {before rest : List α} {a : α} (h : Increasing key (before ++ a :: rest)) :
    after key (key a) (before ++ a :: rest) = rest := by
  obtain ⟨-, hrest, hbefore⟩ := List.pairwise_append.mp h
  have hnone : before.filter (fun b => key a < key b) = [] := by
    refine List.filter_eq_nil_iff.mpr fun b hb => ?_
    simpa using (hbefore b hb a List.mem_cons_self).le
  have hall : ∀ b ∈ rest, decide (key a < key b) = true :=
    fun b hb => decide_eq_true (List.rel_of_pairwise_cons hrest hb)
  rw [after, List.filter_append, hnone, List.filter_cons_of_neg (by simp), List.filter_eq_self.mpr hall,
    List.nil_append]

/-- **The next page goes on where this one ends.** -/
lemma after_last (h : Increasing key items) {position : κ} {n : ℕ} {a : α}
    (hlast : ((after key position items).take n).getLast? = some a) :
    after key (key a) items = (after key position items).drop n := by
  obtain ⟨before, hbefore⟩ := after_suffix h position
  obtain ⟨first, hpage⟩ := List.getLast?_eq_some_iff.mp hlast
  have hitems : items = (before ++ first) ++ a :: (after key position items).drop n := by
    calc items = before ++ after key position items := hbefore.symm
      _ = before ++ ((first ++ [a]) ++ (after key position items).drop n) := by
        rw [← hpage, List.take_append_drop]
      _ = _ := by simp
  have hsplit := h
  rw [hitems] at hsplit
  calc after key (key a) items = after key (key a) ((before ++ first) ++ a ::
        (after key position items).drop n) := by rw [← hitems]
    _ = _ := after_key hsplit

end Keyset
