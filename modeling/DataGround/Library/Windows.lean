import Mathlib.Data.List.DropRight
import Mathlib.Data.List.Range

/-!
# Counting occurrences through a rolling window

An occurrence is a position whose suffix passes a test.  When the test reads only the first `n`
elements, a list can be counted in pieces: all that is needed of what went before is its last
`n - 1` elements (`countAt_window`).
-/

namespace DataGround.Library

variable {α : Type*} {p : List α → Bool}

/-- The number of positions of a list whose suffix passes the test. -/
def countAt (p : List α → Bool) (l : List α) : ℕ :=
  (List.range l.length).countP fun i => p (l.drop i)

@[simp] lemma countAt_nil : countAt p [] = 0 :=
  rfl

lemma countAt_cons (a : α) (l : List α) :
    countAt p (a :: l) = countAt p l + if p (a :: l) then 1 else 0 := by
  rw [countAt, List.length_cons, List.range_succ_eq_map, List.countP_cons, List.countP_map]
  rfl

/-- Positions that fail the test can be passed over. -/
lemma countAt_drop {k : ℕ} :
    ∀ {l : List α}, (∀ i < k, p (l.drop i) = false) → countAt p l = countAt p (l.drop k) := by
  induction k with
  | zero => intro l _; rfl
  | succ k ih =>
    rintro (_ | ⟨a, l⟩) h
    · rfl
    have hhead : p (a :: l) = false := h 0 (Nat.succ_pos k)
    rw [countAt_cons, hhead, ih fun i hi => h (i + 1) (Nat.succ_lt_succ hi)]
    rfl

lemma countAt_eq_zero {l : List α} (h : ∀ i < l.length, p (l.drop i) = false) : countAt p l = 0 := by
  rw [countAt_drop h, List.drop_length, countAt_nil]

/-- The test reads the first `n` elements, and fails without them. -/
structure ReadsFirst (p : List α → Bool) (n : ℕ) : Prop where
  short : ∀ {l : List α}, l.length < n → p l = false
  append : ∀ {l : List α} (l' : List α), n ≤ l.length → p (l ++ l') = p l

lemma ReadsFirst.countAt_of_length_lt {n : ℕ} (hp : ReadsFirst p n) {l : List α} (h : l.length < n) :
    countAt p l = 0 :=
  countAt_eq_zero fun i _ => hp.short (by rw [List.length_drop]; omega)

/-- Nothing is lost and nothing is counted twice when only the last `n - 1` elements are kept. -/
theorem ReadsFirst.countAt_window {n : ℕ} (hp : ReadsFirst p n) (hn : 0 < n) (l l' : List α) :
    countAt p (l ++ l') = countAt p l + countAt p (l.rtake (n - 1) ++ l') := by
  induction l with
  | nil => simp
  | cons a l ih =>
    by_cases hshort : (a :: l).length < n
    · -- The window is still the whole list.
      have hwindow : (a :: l).rtake (n - 1) = a :: l := by
        rw [List.rtake, Nat.sub_eq_zero_of_le (Nat.le_sub_one_of_lt hshort), List.drop_zero]
      rw [hwindow, hp.countAt_of_length_lt hshort, Nat.zero_add]
    · have hlong : n ≤ (a :: l).length := Nat.le_of_not_lt hshort
      have hwindow : (a :: l).rtake (n - 1) = l.rtake (n - 1) := by
        have hpos : (a :: l).length - (n - 1) = l.length - (n - 1) + 1 := by
          rw [List.length_cons] at hlong ⊢
          omega
        rw [List.rtake, hpos, List.drop_succ_cons, List.rtake]
      rw [hwindow, List.cons_append, countAt_cons, countAt_cons, ih, ← List.cons_append,
        hp.append l' hlong]
      omega

/-- The window of a list is found from the window of what went before. -/
lemma rtake_rtake_append (l l' : List α) (n : ℕ) : (l.rtake n ++ l').rtake n = (l ++ l').rtake n := by
  rw [List.rtake_eq_reverse_take_reverse, List.rtake_eq_reverse_take_reverse,
    List.rtake_eq_reverse_take_reverse, List.reverse_append, List.reverse_append, List.reverse_reverse,
    List.take_append, List.take_append, List.take_take, Nat.min_eq_left (Nat.sub_le _ _)]

end DataGround.Library
