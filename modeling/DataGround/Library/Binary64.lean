import Mathlib.Data.Int.Log
import Mathlib.Data.Rat.Floor

/-!
# Numbers as binary64

The binary64 number that is nearest to a rational one, ties going to the even significand.
-/

namespace Binary64

/-- The integer nearest to a rational number, the even one of two. -/
def halfEven (q : ℚ) : ℤ :=
  if q - ⌊q⌋ < 1 / 2 then ⌊q⌋
  else if 1 / 2 < q - ⌊q⌋ then ⌊q⌋ + 1
  else if ⌊q⌋ % 2 = 0 then ⌊q⌋ else ⌊q⌋ + 1

/-- The exponent of the last place: the significand has 53 bits, down to the subnormal numbers. -/
def exponent (q : ℚ) : ℤ :=
  max (Int.log 2 |q| - 52) (-1074)

/-- The unit in the last place. -/
def ulp (q : ℚ) : ℚ :=
  2 ^ exponent q

/-- The nearest number with 53 significant bits. -/
def round (q : ℚ) : ℚ :=
  halfEven (q / ulp q) * ulp q

/-- The nearest binary64 number; there is none if the number is too large. -/
def decode (q : ℚ) : Option ℚ :=
  if |round q| < 2 ^ 1024 then some (round q) else none

variable {q r : ℚ}

lemma halfEven_intCast (n : ℤ) : halfEven n = n := by
  simp [halfEven]

/-- Rounding stays between integers. -/
lemma abs_halfEven_le {n : ℤ} (h : |q| ≤ n) : |halfEven q| ≤ n := by
  obtain ⟨hlower, hupper⟩ := abs_le.mp h
  have hfloor : -n ≤ ⌊q⌋ := Int.le_floor.mpr (by push_cast; exact hlower)
  have hfloor' : ⌊q⌋ ≤ n := by
    have := (Int.floor_le q).trans hupper
    exact_mod_cast this
  have hnext : ¬q - ⌊q⌋ < 1 / 2 → ⌊q⌋ + 1 ≤ n := by
    intro hhalf
    have hlt : (⌊q⌋ : ℚ) < n := by linarith
    have : ⌊q⌋ < n := by exact_mod_cast hlt
    omega
  refine abs_le.mpr ?_
  unfold halfEven
  split
  · exact ⟨hfloor, hfloor'⟩
  · rename_i hhalf
    have := hnext hhalf
    split
    · omega
    · split
      · omega
      · omega

lemma ulp_pos : 0 < ulp q :=
  zpow_pos (by norm_num) _

/-- A number below `2 ^ (e + 53)` has a last place of at most `2 ^ e`. -/
lemma exponent_le {e : ℤ} (he : -1074 ≤ e) (hq : q ≠ 0) (h : |q| < 2 ^ (e + 53)) :
    exponent q ≤ e := by
  have hlog : Int.log 2 |q| < e + 53 :=
    (Int.lt_zpow_iff_log_lt (by norm_num) (abs_pos.mpr hq)).mp (by exact_mod_cast h)
  exact max_le (by omega) he

/-- A multiple of its own last place is not rounded. -/
lemma round_eq_self {n : ℤ} (h : q = n * ulp q) : round q = q := by
  have hdiv : q / ulp q = n := by
    rw [div_eq_iff ulp_pos.ne']
    exact h
  rw [round, hdiv, halfEven_intCast]
  exact h.symm

/-- So is no multiple of a larger place. -/
lemma round_eq_self_of_le {n e : ℤ} (hq : q = n * 2 ^ e) (he : exponent q ≤ e) : round q = q := by
  obtain ⟨k, _⟩ := Int.eq_ofNat_of_zero_le (sub_nonneg.mpr he)
  have hsplit : (2 : ℚ) ^ e = 2 ^ k * ulp q := by
    rw [ulp, ← zpow_natCast, ← zpow_add₀ (by norm_num)]
    congr 1
    omega
  refine round_eq_self (n := n * 2 ^ k) ?_
  push_cast
  rw [mul_assoc, ← hsplit]
  exact hq

/-- The significand has at most 53 bits. -/
lemma abs_significand_le : |halfEven (q / ulp q)| ≤ 2 ^ 53 := by
  refine abs_halfEven_le ?_
  have hlt : |q| < 2 ^ (exponent q + 53) := by
    have hlog := Int.lt_zpow_succ_log_self (b := 2) (by norm_num) |q|
    refine lt_of_lt_of_le (by exact_mod_cast hlog) ?_
    refine zpow_le_zpow_right₀ (by norm_num) ?_
    have := le_max_left (Int.log 2 |q| - 52) (-1074)
    unfold exponent
    omega
  rw [abs_div, abs_of_pos ulp_pos, div_le_iff₀ ulp_pos]
  refine hlt.le.trans_eq ?_
  rw [zpow_add₀ (by norm_num), ulp, mul_comm]
  norm_num

/-- **Rounding twice is rounding once.** -/
theorem round_round (q : ℚ) : round (round q) = round q := by
  have hle : -1074 ≤ exponent q := le_max_right _ _
  by_cases hzero : round q = 0
  · rw [hzero]
    simp [round, halfEven]
  · have habs : |round q| = |(halfEven (q / ulp q) : ℚ)| * 2 ^ exponent q := by
      rw [round, abs_mul, abs_of_pos ulp_pos, ulp]
    have hbound := abs_significand_le (q := q)
    rcases lt_or_eq_of_le hbound with hlt | heq
    · refine round_eq_self_of_le rfl (exponent_le hle hzero ?_)
      rw [habs, zpow_add₀ (by norm_num), mul_comm]
      refine mul_lt_mul_of_pos_left ?_ (zpow_pos (by norm_num) _)
      exact_mod_cast hlt
    · -- the significand has become `2 ^ 53`: the last place is one further up
      have hsign : halfEven (q / ulp q) = 2 ^ 53 ∨ halfEven (q / ulp q) = -2 ^ 53 :=
        eq_or_eq_neg_of_abs_eq heq
      have hround : ∃ n : ℤ, round q = n * 2 ^ (exponent q + 1) := by
        rcases hsign with hpos | hneg
        · refine ⟨2 ^ 52, ?_⟩
          rw [round, hpos, ulp, zpow_add₀ (by norm_num)]
          push_cast
          ring
        · refine ⟨-2 ^ 52, ?_⟩
          rw [round, hneg, ulp, zpow_add₀ (by norm_num)]
          push_cast
          ring
      obtain ⟨_, hn⟩ := hround
      refine round_eq_self_of_le hn (exponent_le (by omega) hzero ?_)
      have hcast : |(halfEven (q / ulp q) : ℚ)| = 2 ^ (53 : ℤ) := by
        rw [← Int.cast_abs, heq]
        norm_num
      rw [habs, hcast, ← zpow_add₀ (by norm_num)]
      exact zpow_lt_zpow_right₀ (by norm_num) (by omega)

/-- A number that has been decoded is decoded as itself. -/
theorem decode_decode (h : decode q = some r) : decode r = some r := by
  unfold decode at h
  split at h
  · rename_i hfinite
    cases h
    rw [decode, round_round, if_pos hfinite]
  · cases h

/-- Integers below `2 ^ 53` are exact. -/
theorem decode_intCast {n : ℤ} (h : |n| < 2 ^ 53) : decode n = some (n : ℚ) := by
  have habs : |(n : ℚ)| < 2 ^ 53 := by
    rw [← Int.cast_abs]
    exact_mod_cast h
  have hround : round (n : ℚ) = n := by
    by_cases hzero : n = 0
    · subst hzero
      simp [round, halfEven]
    · refine round_eq_self_of_le (n := n) (e := 0) (by simp) (exponent_le (by norm_num) ?_ ?_)
      · exact_mod_cast hzero
      · exact_mod_cast habs
  rw [decode, hround, if_pos]
  calc |(n : ℚ)| < 2 ^ 53 := habs
    _ ≤ 2 ^ 1024 := pow_le_pow_right₀ (by norm_num) (by norm_num)

end Binary64
