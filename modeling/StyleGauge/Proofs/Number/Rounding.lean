import Mathlib.Algebra.Order.Field.Basic
import Mathlib.Algebra.Order.Field.Power
import Mathlib.Algebra.Order.Ring.Rat
import Mathlib.Data.Nat.Log
import Mathlib.Tactic.FieldSimp
import Mathlib.Tactic.Linarith
import Mathlib.Tactic.NormNum
import Mathlib.Tactic.Positivity
import Mathlib.Tactic.Ring
import StyleGauge.Number.Binary64

/-!
# Rounding to binary64

A rational number is rounded to a multiple of a power of two that it does not exceed by more than
53 places. What lies below a power of two stays there, what lies above one stays there, and a power
of two that is exceeded by less than half of its last place absorbs the excess.
-/

namespace StyleGauge

theorem twoPow_eq_zpow (e : Int) : twoPow e = (2 : ℚ) ^ e := by
  unfold twoPow
  split_ifs with h
  · obtain ⟨n, rfl⟩ := Int.eq_ofNat_of_zero_le h
    simp
  · obtain ⟨n, hn⟩ := Int.eq_ofNat_of_zero_le (show 0 ≤ -e by omega)
    obtain rfl : e = -n := by omega
    simp [Rat.mkRat_eq_div]

/-- The rounded quotient is off by one half at most. -/
theorem roundDivEven_bounds {num den : Nat} (hden : 0 < den) :
    (num : ℚ) / den - 1 / 2 ≤ roundDivEven num den ∧
      (roundDivEven num den : ℚ) ≤ num / den + 1 / 2 := by
  have hdiv := Nat.div_add_mod num den
  have hmod := Nat.mod_lt num hden
  have hbounds : 2 * num ≤ 2 * (den * roundDivEven num den) + den ∧
      2 * (den * roundDivEven num den) ≤ 2 * num + den := by
    unfold roundDivEven
    dsimp only
    have hnext := Nat.mul_add den (num / den) 1
    have hsame := Nat.add_zero (num / den)
    rcases Nat.mod_two_eq_zero_or_one (num / den) with hq | hq <;> rw [hq] <;> split_ifs <;>
      first | omega | (rw [hsame]; omega)
  have hpos : (0 : ℚ) < den := by exact_mod_cast hden
  obtain ⟨hlow, hhigh⟩ := hbounds
  have hlow : 2 * (num : ℚ) ≤ 2 * (den * roundDivEven num den) + den := by exact_mod_cast hlow
  have hhigh : 2 * (den * (roundDivEven num den : ℚ)) ≤ 2 * num + den := by exact_mod_cast hhigh
  constructor
  · rw [sub_le_iff_le_add, div_le_iff₀ hpos]
    linarith
  · rw [← sub_le_iff_le_add, le_div_iff₀ hpos]
    linarith

namespace Binary64

/-- The binary logarithms of both sides bracket a quotient. -/
theorem quotient_bounds {n d : Nat} (hn : n ≠ 0) (hd : d ≠ 0) :
    (2 : ℚ) ^ ((n.log2 : Int) - d.log2 - 1) ≤ n / d ∧
      (n : ℚ) / d < 2 ^ ((n.log2 : Int) - d.log2 + 1) := by
  have htwo : (2 : ℚ) ≠ 0 := by norm_num
  have hdpos : (0 : ℚ) < d := by exact_mod_cast Nat.pos_of_ne_zero hd
  have hnlow : (2 : ℚ) ^ n.log2 ≤ n := by exact_mod_cast Nat.log2_self_le hn
  have hnhigh : (n : ℚ) < 2 ^ (n.log2 + 1) := by exact_mod_cast Nat.lt_log2_self
  have hdlow : (2 : ℚ) ^ d.log2 ≤ d := by exact_mod_cast Nat.log2_self_le hd
  have hdhigh : (d : ℚ) < 2 ^ (d.log2 + 1) := by exact_mod_cast Nat.lt_log2_self
  constructor
  · rw [le_div_iff₀ hdpos]
    calc (2 : ℚ) ^ ((n.log2 : Int) - d.log2 - 1) * d
        ≤ 2 ^ ((n.log2 : Int) - d.log2 - 1) * 2 ^ (d.log2 + 1) := by gcongr
      _ = 2 ^ n.log2 := by
        rw [← zpow_natCast, ← zpow_natCast, ← zpow_add₀ htwo]
        congr 1
        push_cast
        ring
      _ ≤ n := hnlow
  · rw [div_lt_iff₀ hdpos]
    calc (n : ℚ) < 2 ^ (n.log2 + 1) := hnhigh
      _ = 2 ^ ((n.log2 : Int) - d.log2 + 1) * 2 ^ d.log2 := by
        rw [← zpow_natCast, ← zpow_natCast, ← zpow_add₀ htwo]
        congr 1
        push_cast
        ring
      _ ≤ 2 ^ ((n.log2 : Int) - d.log2 + 1) * d := by gcongr

theorem natAbs_num_div_den {q : ℚ} (hq : 0 ≤ q) : (q.num.natAbs : ℚ) / q.den = q := by
  have hnum : ((q.num.natAbs : Int) : ℚ) = q.num := by
    rw [Int.natAbs_of_nonneg (Rat.num_nonneg.2 hq)]
  rw [← Int.cast_natCast, hnum, Rat.num_div_den]

/-- The binary exponent brackets a number between two powers of two. -/
theorem binaryExponent_bounds {q : ℚ} (hq : 0 < q) :
    (2 : ℚ) ^ binaryExponent q ≤ q ∧ q < (2 : ℚ) ^ (binaryExponent q + 1) := by
  have hnum : q.num.natAbs ≠ 0 := Int.natAbs_ne_zero.2 (Rat.num_pos.2 hq).ne'
  obtain ⟨hlow, hhigh⟩ := quotient_bounds hnum q.den_nz
  rw [natAbs_num_div_den hq.le] at hlow hhigh
  unfold binaryExponent
  simp only [twoPow_eq_zpow]
  split_ifs with hle
  · exact ⟨hle, hhigh⟩
  · refine ⟨hlow, ?_⟩
    rw [sub_add_cancel]
    exact lt_of_not_ge hle

/-! ### The last place of a rounded number -/

/-- The exponent of the last place that a number near `a` has. -/
def place (a : ℚ) : Int :=
  max (binaryExponent a - 52) minExponent

/-- How many times the last place fits into `a`, rounded. -/
def multiple (a : ℚ) : Nat :=
  roundDivEven (a / twoPow (place a)).num.natAbs (a / twoPow (place a)).den

theorem nearest_of_ne_zero {q : ℚ} (hq : q ≠ 0) (negative : Bool) :
    nearest negative q =
      if multiple |q| = 2 ^ 53 then
        if maxExponent < place |q| + 1 then infinite negative
        else finite negative (2 ^ 52) (place |q| + 1)
      else
        if maxExponent < place |q| then infinite negative
        else finite negative (multiple |q|) (place |q|) := by
  have habs : q.abs = |q| := by
    unfold Rat.abs
    split_ifs with h
    · exact (abs_of_nonneg h).symm
    · exact (abs_of_neg (lt_of_not_ge h)).symm
  unfold nearest multiple place
  rw [if_neg hq, habs]
  dsimp only
  split_ifs <;> simp_all

theorem multiple_bounds {a : ℚ} (ha : 0 ≤ a) :
    a / 2 ^ place a - 1 / 2 ≤ multiple a ∧ (multiple a : ℚ) ≤ a / 2 ^ place a + 1 / 2 := by
  have hscaled : 0 ≤ a / twoPow (place a) := by
    rw [twoPow_eq_zpow]
    positivity
  have hbounds := @roundDivEven_bounds (a / twoPow (place a)).num.natAbs _
    (Rat.den_pos (a / twoPow (place a)))
  rw [natAbs_num_div_den hscaled] at hbounds
  rw [← twoPow_eq_zpow]
  exact hbounds

/-! ### Bounds on rounded numbers -/

/-- A finite value of at most `2 ^ k`, whatever its sign. -/
def IsWithin (k : Nat) (x : Binary64) : Prop :=
  ∃ s m e, x = finite s m e ∧ (m : ℚ) * 2 ^ e ≤ 2 ^ k

theorem IsWithin.mono {j k : Nat} {x : Binary64} (h : IsWithin j x) (hjk : j ≤ k) :
    IsWithin k x := by
  obtain ⟨s, m, e, rfl, hle⟩ := h
  exact ⟨s, m, e, rfl, hle.trans (pow_le_pow_right₀ (by norm_num) hjk)⟩

/-- A number whose last place lies 52 places below `2 ^ k`, or lower, is rounded to a value of at
most `2 ^ k` if its multiple of the last place is not greater. -/
theorem isWithin_nearest_of_multiple_le {q : ℚ} {k : Nat} (hk : k ≤ 1023) (hq : q ≠ 0)
    (hplace : place |q| ≤ (k : Int) - 52) (hle : (multiple |q| : ℚ) ≤ 2 ^ ((k : Int) - place |q|))
    (negative : Bool) : IsWithin k (nearest negative q) := by
  have htwo : (2 : ℚ) ≠ 0 := by norm_num
  have hvalue : (multiple |q| : ℚ) * 2 ^ place |q| ≤ 2 ^ k := by
    calc (multiple |q| : ℚ) * 2 ^ place |q| ≤ 2 ^ ((k : Int) - place |q|) * 2 ^ place |q| := by
          gcongr
      _ = 2 ^ k := by
        rw [← zpow_add₀ htwo, sub_add_cancel, zpow_natCast]
  rw [nearest_of_ne_zero hq]
  split_ifs with hcarry hlarge hlarge
  · exfalso
    -- a carry means that `2 ^ k` is 53 places above the last place
    have hpow : (2 : ℚ) ^ (53 : Int) ≤ 2 ^ ((k : Int) - place |q|) := by
      rw [hcarry] at hle
      exact_mod_cast hle
    have := (zpow_le_zpow_iff_right₀ (by norm_num : (1 : ℚ) < 2)).1 hpow
    unfold maxExponent at hlarge
    omega
  · refine ⟨negative, _, _, rfl, ?_⟩
    rw [hcarry] at hvalue
    calc ((2 ^ 52 : Nat) : ℚ) * 2 ^ (place |q| + 1) = ((2 ^ 53 : Nat) : ℚ) * 2 ^ place |q| := by
          rw [zpow_add_one₀ htwo]
          push_cast
          ring
      _ ≤ 2 ^ k := hvalue
  · exfalso
    unfold maxExponent at hlarge
    omega
  · exact ⟨negative, _, _, rfl, hvalue⟩

theorem place_le {a : ℚ} {k : Nat} (ha : 0 < a) (hle : a < 2 ^ (k + 1)) :
    place a ≤ (k : Int) - 52 := by
  have hlow := (binaryExponent_bounds ha).1.trans_lt hle
  rw [← zpow_natCast] at hlow
  have := (zpow_lt_zpow_iff_right₀ (by norm_num : (1 : ℚ) < 2)).1 hlow
  unfold place minExponent
  push_cast at this
  omega

theorem natCast_le_of_lt_add_one {m n : Nat} (h : (m : ℚ) < n + 1) : m ≤ n :=
  Nat.lt_succ_iff.1 (by exact_mod_cast h)

/-- What lies below a power of two is rounded to at most that power. -/
theorem isWithin_nearest {q : ℚ} {k : Nat} (hk : k ≤ 1023) (hle : |q| ≤ 2 ^ k)
    (negative : Bool) : IsWithin k (nearest negative q) := by
  by_cases hq : q = 0
  · subst hq
    refine ⟨negative, 0, minExponent, by simp [nearest, zero], ?_⟩
    simp
  · have hpos : 0 < |q| := abs_pos.2 hq
    have hplace : place |q| ≤ (k : Int) - 52 :=
      place_le hpos (hle.trans_lt (pow_lt_pow_right₀ (by norm_num) (Nat.lt_succ_self k)))
    refine isWithin_nearest_of_multiple_le hk hq hplace ?_ negative
    obtain ⟨n, hn⟩ := Int.eq_ofNat_of_zero_le (show 0 ≤ (k : Int) - place |q| by omega)
    have hscaled : |q| / 2 ^ place |q| ≤ ((2 ^ n : Nat) : ℚ) := by
      rw [div_le_iff₀ (by positivity)]
      calc |q| ≤ 2 ^ k := hle
        _ = ((2 ^ n : Nat) : ℚ) * 2 ^ place |q| := by
          push_cast
          rw [← zpow_natCast, ← zpow_natCast, ← zpow_add₀ (by norm_num), ← hn, sub_add_cancel]
    have hupper := (multiple_bounds hpos.le).2
    have hmultiple : multiple |q| ≤ 2 ^ n := natCast_le_of_lt_add_one (by linarith)
    rw [hn, zpow_natCast]
    exact_mod_cast hmultiple

/-- A power of two absorbs what is added to it, if that is less than half of its last place. -/
theorem isWithin_nearest_add {q : ℚ} {j k : Nat} (hk : k ≤ 1023) (hjk : j + 54 ≤ k)
    (hle : |q| ≤ 2 ^ k + 2 ^ j) (negative : Bool) : IsWithin k (nearest negative q) := by
  by_cases hsmall : |q| ≤ 2 ^ k
  · exact isWithin_nearest hk hsmall negative
  · have hgreat : 2 ^ k < |q| := lt_of_not_ge hsmall
    have hpow : (0 : ℚ) < 2 ^ k := by positivity
    have hpos : 0 < |q| := hpow.trans hgreat
    have hq : q ≠ 0 := abs_pos.1 hpos
    have hexcess : (2 : ℚ) ^ j * 4 ≤ 2 ^ (k - 52) := by
      calc (2 : ℚ) ^ j * 4 = 2 ^ (j + 2) := by ring
        _ ≤ 2 ^ (k - 52) := pow_le_pow_right₀ (by norm_num) (by omega)
    have hsplit : (2 : ℚ) ^ k = 2 ^ 52 * 2 ^ (k - 52) := by
      rw [← pow_add]
      congr 1
      omega
    have hplace : place |q| = (k : Int) - 52 := by
      have hupper : place |q| ≤ (k : Int) - 52 := by
        refine place_le hpos (hle.trans_lt ?_)
        calc (2 : ℚ) ^ k + 2 ^ j < 2 ^ k + 2 ^ k := by
              gcongr
              · norm_num
              · omega
          _ = 2 ^ (k + 1) := by ring
      have hlower : (2 : ℚ) ^ (k : Int) < 2 ^ (binaryExponent |q| + 1) := by
        rw [zpow_natCast]
        exact hgreat.trans (binaryExponent_bounds hpos).2
      have := (zpow_lt_zpow_iff_right₀ (by norm_num : (1 : ℚ) < 2)).1 hlower
      unfold place at hupper ⊢
      omega
    refine isWithin_nearest_of_multiple_le hk hq hplace.le ?_ negative
    have hlast : (2 : ℚ) ^ place |q| = 2 ^ (k - 52) := by
      rw [hplace, ← zpow_natCast]
      congr 1
      omega
    have hscaled : |q| / 2 ^ place |q| < ((2 ^ 52 : Nat) : ℚ) + 1 / 2 := by
      rw [hlast, div_lt_iff₀ (by positivity)]
      push_cast
      have : (0 : ℚ) < 2 ^ (k - 52) := by positivity
      linarith
    have hupper := (multiple_bounds hpos.le).2
    have hmultiple : multiple |q| ≤ 2 ^ 52 := by
      refine natCast_le_of_lt_add_one (hupper.trans_lt ?_)
      rw [show ((2 ^ 52 : Nat) : ℚ) + 1 = ((2 ^ 52 : Nat) : ℚ) + 1 / 2 + 1 / 2 by ring]
      exact add_lt_add_left hscaled _
    rw [hplace, sub_sub_cancel]
    exact_mod_cast hmultiple

/-- A number of at least one is rounded to at least one. -/
theorem one_le_of_nearest_eq {q : ℚ} (hle : 1 ≤ |q|) {s negative : Bool} {m : Nat} {e : Int}
    (h : nearest negative q = finite s m e) : 1 ≤ (m : ℚ) * 2 ^ e := by
  have htwo : (2 : ℚ) ≠ 0 := by norm_num
  have hpos : 0 < |q| := zero_lt_one.trans_le hle
  obtain ⟨hlow, hhigh⟩ := binaryExponent_bounds hpos
  have hexp : 0 ≤ binaryExponent |q| := by
    have := (zpow_lt_zpow_iff_right₀ (by norm_num : (1 : ℚ) < 2)).1
      (show (2 : ℚ) ^ (0 : Int) < 2 ^ (binaryExponent |q| + 1) by
        rw [zpow_zero]
        exact hle.trans_lt hhigh)
    omega
  obtain ⟨n, hn⟩ := Int.eq_ofNat_of_zero_le (show 0 ≤ binaryExponent |q| - place |q| by
    unfold place minExponent
    omega)
  have hscaled : ((2 ^ n : Nat) : ℚ) ≤ |q| / 2 ^ place |q| := by
    rw [le_div_iff₀ (by positivity)]
    calc ((2 ^ n : Nat) : ℚ) * 2 ^ place |q| = 2 ^ binaryExponent |q| := by
          push_cast
          rw [← zpow_natCast, ← zpow_add₀ htwo, ← hn, sub_add_cancel]
      _ ≤ |q| := hlow
  have hmultiple : 2 ^ n ≤ multiple |q| := by
    have hlower := (multiple_bounds hpos.le).1
    exact natCast_le_of_lt_add_one (by linarith)
  have hvalue : 1 ≤ (multiple |q| : ℚ) * 2 ^ place |q| := by
    calc (1 : ℚ) ≤ 2 ^ binaryExponent |q| := one_le_zpow₀ (by norm_num) hexp
      _ = ((2 ^ n : Nat) : ℚ) * 2 ^ place |q| := by
        push_cast
        rw [← zpow_natCast, ← zpow_add₀ htwo, ← hn, sub_add_cancel]
      _ ≤ multiple |q| * 2 ^ place |q| := by
        gcongr
  rw [nearest_of_ne_zero (abs_pos.1 hpos)] at h
  split_ifs at h with hcarry hlarge hlarge <;> cases h
  · rw [hcarry] at hvalue
    calc (1 : ℚ) ≤ ((2 ^ 53 : Nat) : ℚ) * 2 ^ place |q| := hvalue
      _ = ((2 ^ 52 : Nat) : ℚ) * 2 ^ (place |q| + 1) := by
        rw [zpow_add_one₀ htwo]
        push_cast
        ring
  · exact hvalue

end Binary64

end StyleGauge
