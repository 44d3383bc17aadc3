import StyleGauge.Number.Decimal
import StyleGauge.Proofs.Number.Rounding

/-!
# Decimals read back

The shortest decimal of a binary64 value is read as that value. Rounding leaves the values of the
format as they are, and a decimal is rounded by what number it is, however it is written.
-/

namespace StyleGauge

theorem tenPow_eq_zpow (e : Int) : tenPow e = (10 : ℚ) ^ e := by
  unfold tenPow
  split_ifs with h
  · obtain ⟨n, rfl⟩ := Int.eq_ofNat_of_zero_le h
    simp
  · obtain ⟨n, hn⟩ := Int.eq_ofNat_of_zero_le (show 0 ≤ -e by omega)
    obtain rfl : e = -n := by omega
    simp [Rat.mkRat_eq_div]

namespace Binary64

/-- A value of the format as it is written: with all 53 places of its mantissa, or with the least
exponent. -/
def IsCanonical : Binary64 → Prop
  | finite _ m e => m < 2 ^ 53 ∧ minExponent ≤ e ∧ e ≤ maxExponent ∧ (2 ^ 52 ≤ m ∨ e = minExponent)
  | infinite _ | nan => True

instance (x : Binary64) : Decidable x.IsCanonical := by
  cases x <;> unfold IsCanonical <;> infer_instance

/-! ### Rounding -/

section

variable {m : Nat} {e : Int}

theorem finiteToRat_false (m : Nat) (e : Int) : finiteToRat false m e = (m : ℚ) * 2 ^ e := by
  rw [← twoPow_eq_zpow]
  rfl

/-- Rounding has nothing to do with the sign. -/
theorem nearest_eq_finite {q : ℚ} (h : nearest false q = finite false m e) (negative : Bool) :
    nearest negative q = finite negative m e := by
  by_cases hq : q = 0
  · subst hq
    cases h
    rfl
  · rw [nearest_of_ne_zero hq] at h ⊢
    split_ifs at h ⊢ <;> cases h <;> rfl

/-- The last place of a value of the format is that of its mantissa. -/
theorem place_value {s : Bool} (h : IsCanonical (finite s m e)) (hm : m ≠ 0) :
    place ((m : ℚ) * 2 ^ e) = e := by
  obtain ⟨hbits, hmin, -, hlast⟩ := h
  have htwo : (2 : ℚ) ≠ 0 := by norm_num
  have hpow : (0 : ℚ) < 2 ^ e := by positivity
  have hmpos : (0 : ℚ) < m := by exact_mod_cast Nat.pos_of_ne_zero hm
  obtain ⟨hlow, hhigh⟩ := binaryExponent_bounds (mul_pos hmpos hpow)
  have hupper : binaryExponent ((m : ℚ) * 2 ^ e) < 53 + e := by
    refine (zpow_lt_zpow_iff_right₀ (by norm_num : (1 : ℚ) < 2)).1 (hlow.trans_lt ?_)
    rw [zpow_add₀ htwo]
    have : (m : ℚ) < 2 ^ (53 : Int) := by exact_mod_cast hbits
    gcongr
  have hlower : 2 ^ 52 ≤ m → 52 + e < binaryExponent ((m : ℚ) * 2 ^ e) + 1 := by
    intro hfull
    refine (zpow_lt_zpow_iff_right₀ (by norm_num : (1 : ℚ) < 2)).1 (lt_of_le_of_lt ?_ hhigh)
    rw [zpow_add₀ htwo]
    have : (2 : ℚ) ^ (52 : Int) ≤ m := by exact_mod_cast hfull
    gcongr
  unfold place
  rcases hlast with hfull | hleast
  · have := hlower hfull
    omega
  · omega

/-- The value nearest to a value of the format is that value. -/
theorem nearest_value {negative : Bool} (h : IsCanonical (finite negative m e)) :
    nearest negative ((m : ℚ) * 2 ^ e) = finite negative m e := by
  by_cases hm : m = 0
  · subst hm
    obtain ⟨-, -, -, hfull | rfl⟩ := h
    · norm_num at hfull
    · simp [nearest, zero]
  · have hpow : (0 : ℚ) < 2 ^ e := by positivity
    have hmpos : (0 : ℚ) < m := by exact_mod_cast Nat.pos_of_ne_zero hm
    have hpos : 0 < (m : ℚ) * 2 ^ e := mul_pos hmpos hpow
    have hmultiple : multiple ((m : ℚ) * 2 ^ e) = m := by
      rw [multiple, place_value h hm, twoPow_eq_zpow, mul_div_cancel_right₀ _ hpow.ne']
      simp [roundDivEven, Nat.mod_one]
    rw [nearest_of_ne_zero hpos.ne', abs_of_pos hpos, hmultiple, place_value h hm,
      if_neg h.1.ne, if_neg (not_lt.2 h.2.2.1)]

/-- The last place fits into a number at most as often as a mantissa with one place more allows. -/
theorem multiple_le {a : ℚ} (ha : 0 < a) : multiple a ≤ 2 ^ 53 := by
  have hscaled : a / 2 ^ place a < ((2 ^ 53 : Nat) : ℚ) := by
    rw [div_lt_iff₀ (by positivity)]
    calc a < 2 ^ (binaryExponent a + 1) := (binaryExponent_bounds ha).2
      _ ≤ 2 ^ (53 + place a) := by
        refine zpow_le_zpow_right₀ (by norm_num) ?_
        unfold place
        omega
      _ = ((2 ^ 53 : Nat) : ℚ) * 2 ^ place a := by
        rw [zpow_add₀ (by norm_num)]
        norm_num
  have hupper := (multiple_bounds ha.le).2
  refine natCast_le_of_lt_add_one ?_
  push_cast at hscaled ⊢
  linarith

/-- A number that has its last place above the least fills the mantissa. -/
theorem le_multiple {a : ℚ} (ha : 0 < a) (hplace : place a ≠ minExponent) :
    2 ^ 52 ≤ multiple a := by
  have hscaled : ((2 ^ 52 : Nat) : ℚ) ≤ a / 2 ^ place a := by
    rw [le_div_iff₀ (by positivity)]
    calc ((2 ^ 52 : Nat) : ℚ) * 2 ^ place a = 2 ^ (52 + place a) := by
          rw [zpow_add₀ (by norm_num)]
          norm_num
      _ ≤ 2 ^ binaryExponent a := by
        refine zpow_le_zpow_right₀ (by norm_num) ?_
        unfold place at hplace ⊢
        omega
      _ ≤ a := (binaryExponent_bounds ha).1
  have hlower := (multiple_bounds ha.le).1
  refine natCast_le_of_lt_add_one ?_
  push_cast at hscaled ⊢
  linarith

/-- Rounding gives a value of the format. -/
theorem isCanonical_nearest (negative : Bool) (q : ℚ) : (nearest negative q).IsCanonical := by
  by_cases hq : q = 0
  · subst hq
    exact ⟨by norm_num, le_refl _, by decide, .inr rfl⟩
  · have hpos : 0 < |q| := abs_pos.2 hq
    have hle := multiple_le hpos
    have hmin : minExponent ≤ place |q| := le_max_right _ _
    rw [nearest_of_ne_zero hq]
    split_ifs with hcarry hlarge hlarge
    · trivial
    · exact ⟨by norm_num, by omega, by omega, .inl (le_refl _)⟩
    · trivial
    · exact ⟨by omega, hmin, by omega, or_iff_not_imp_right.2 (le_multiple hpos)⟩

/-- What is far below the least value is rounded to zero. -/
theorem nearest_of_lt {q : ℚ} (hpos : 0 < q) (hlt : q < 2 ^ (-1200 : Int)) (negative : Bool) :
    nearest negative q = zero negative := by
  have hexp : binaryExponent q < -1200 :=
    (zpow_lt_zpow_iff_right₀ (by norm_num : (1 : ℚ) < 2)).1
      ((binaryExponent_bounds hpos).1.trans_lt hlt)
  have hplace : place q = minExponent := by
    unfold place minExponent
    omega
  have hmultiple : multiple q = 0 := by
    have hupper := (multiple_bounds hpos.le).2
    have hsmall : q / 2 ^ place q < 1 / 2 := by
      rw [hplace, minExponent, div_lt_iff₀ (by positivity)]
      calc q < 2 ^ (-1200 : Int) := hlt
        _ < 2 ^ (-1 + -1074 : Int) := zpow_lt_zpow_right₀ (by norm_num) (by norm_num)
        _ = 1 / 2 * 2 ^ (-1074 : Int) := by
          rw [zpow_add₀ (by norm_num)]
          norm_num
    exact Nat.lt_one_iff.1 (by exact_mod_cast (by linarith : (multiple q : ℚ) < 1))
  rw [nearest_of_ne_zero hpos.ne', abs_of_pos hpos, hmultiple, hplace, if_neg (by norm_num),
    if_neg (by decide), zero]

/-- What is far above the greatest value is rounded to infinity. -/
theorem nearest_of_le {q : ℚ} (hle : 2 ^ (1200 : Int) ≤ q) (negative : Bool) :
    nearest negative q = infinite negative := by
  have hpos : 0 < q := lt_of_lt_of_le (by positivity) hle
  have hexp : 1200 < binaryExponent q + 1 :=
    (zpow_lt_zpow_iff_right₀ (by norm_num : (1 : ℚ) < 2)).1
      (hle.trans_lt (binaryExponent_bounds hpos).2)
  have hplace : maxExponent < place q := by
    unfold place maxExponent
    omega
  rw [nearest_of_ne_zero hpos.ne', abs_of_pos hpos]
  split_ifs <;> first | rfl | omega

end

/-! ### Decimals -/

/-- The digits of a decimal bracket it between two powers of ten. -/
theorem toRat_bounds {d : Decimal} (h : d.digits ≠ 0) :
    (10 : ℚ) ^ (d.exponent + (Nat.toDigits 10 d.digits).length - 1) ≤ d.toRat ∧
      d.toRat < 10 ^ (d.exponent + (Nat.toDigits 10 d.digits).length) := by
  have hten : (10 : ℚ) ≠ 0 := by norm_num
  have hlength := Nat.length_toDigits_pos (b := 10) (n := d.digits)
  rw [Decimal.toRat, tenPow_eq_zpow]
  constructor
  · have hlow : 10 ^ ((Nat.toDigits 10 d.digits).length - 1) ≤ d.digits := by
      rcases Nat.eq_zero_or_pos ((Nat.toDigits 10 d.digits).length - 1) with hzero | hpos
      · rw [hzero]
        exact Nat.pos_of_ne_zero h
      · refine Nat.not_lt.1 fun hlt => ?_
        have := (Nat.length_toDigits_le_iff (by norm_num) hpos).2 hlt
        omega
    have hlow : (10 : ℚ) ^ ((Nat.toDigits 10 d.digits).length - 1) ≤ d.digits := by
      exact_mod_cast hlow
    calc (10 : ℚ) ^ (d.exponent + (Nat.toDigits 10 d.digits).length - 1)
        = 10 ^ ((Nat.toDigits 10 d.digits).length - 1) * 10 ^ d.exponent := by
          rw [← zpow_natCast, ← zpow_add₀ hten, Nat.cast_sub hlength]
          congr 1
          push_cast
          ring
      _ ≤ d.digits * 10 ^ d.exponent := by gcongr
  · have hhigh := (Nat.length_toDigits_le_iff (by norm_num) hlength).1 (Nat.le_refl _)
    have hhigh : (d.digits : ℚ) < 10 ^ (Nat.toDigits 10 d.digits).length := by
      exact_mod_cast hhigh
    calc (d.digits : ℚ) * 10 ^ d.exponent
        < 10 ^ (Nat.toDigits 10 d.digits).length * 10 ^ d.exponent := by gcongr
      _ = 10 ^ (d.exponent + (Nat.toDigits 10 d.digits).length) := by
          rw [← zpow_natCast, ← zpow_add₀ hten, add_comm]

theorem twoPow_le_tenPow : (2 : ℚ) ^ (1200 : Int) ≤ 10 ^ (400 : Int) := by
  rw [show (1200 : Int) = 3 * 400 by norm_num, zpow_mul]
  exact zpow_le_zpow_left₀ (by norm_num) (by norm_num) (by norm_num)

/-- Reading rounds the number that a decimal is; far out of range it does so without computing the
number. -/
theorem ofDecimal_eq_nearest (negative : Bool) (d : Decimal) :
    ofDecimal negative d = nearest negative d.toRat := by
  by_cases hzero : d.digits = 0
  · simp [ofDecimal, hzero, Decimal.toRat, nearest]
  · obtain ⟨hlow, hhigh⟩ := toRat_bounds hzero
    have hpos : 0 < d.toRat := lt_of_lt_of_le (by positivity) hlow
    unfold ofDecimal
    dsimp only
    split_ifs with hsmall hlarge
    · have hmagnitude : d.exponent + (Nat.toDigits 10 d.digits).length ≤ -400 := by
        simp only [hzero, decide_false, Bool.false_or, decide_eq_true_eq] at hsmall
        omega
      refine (nearest_of_lt hpos (hhigh.trans_le ?_) negative).symm
      calc (10 : ℚ) ^ (d.exponent + (Nat.toDigits 10 d.digits).length) ≤ 10 ^ (-400 : Int) :=
            zpow_le_zpow_right₀ (by norm_num) hmagnitude
        _ ≤ 2 ^ (-1200 : Int) := by
            rw [zpow_neg, zpow_neg]
            exact inv_anti₀ (by positivity) twoPow_le_tenPow
    · refine (nearest_of_le (le_trans ?_ hlow) negative).symm
      calc (2 : ℚ) ^ (1200 : Int) ≤ 10 ^ (400 : Int) := twoPow_le_tenPow
        _ ≤ 10 ^ (d.exponent + (Nat.toDigits 10 d.digits).length - 1) :=
            zpow_le_zpow_right₀ (by norm_num) (by omega)
    · rfl

/-- How a number is written as a decimal does not matter. -/
theorem ofDecimal_congr {negative : Bool} {d d' : Decimal} (h : d.toRat = d'.toRat) :
    ofDecimal negative d = ofDecimal negative d' := by
  rw [ofDecimal_eq_nearest, ofDecimal_eq_nearest, h]

theorem isCanonical_ofDecimal (negative : Bool) (d : Decimal) :
    (ofDecimal negative d).IsCanonical := by
  rw [ofDecimal_eq_nearest]
  exact isCanonical_nearest negative _

end Binary64

/-! ### Shortest decimals -/

namespace Decimal

open Binary64 (nearest finite IsCanonical)

theorem toRat_stripZeros (fuel : Nat) (d : Decimal) : (stripZeros fuel d).toRat = d.toRat := by
  induction fuel generalizing d with
  | zero => rfl
  | succ fuel ih =>
    unfold stripZeros
    split_ifs with h
    · rw [ih, toRat, toRat, tenPow_eq_zpow, tenPow_eq_zpow, zpow_add_one₀ (by norm_num)]
      have hdigits : (d.digits : ℚ) = (d.digits / 10 : Nat) * 10 := by
        exact_mod_cast (Nat.div_mul_cancel (Nat.dvd_of_mod_eq_zero h.2)).symm
      rw [hdigits]
      ring
    · rfl

theorem toRat_exact (m : Nat) (e : Int) : (exact m e).toRat = (m : ℚ) * 2 ^ e := by
  unfold exact
  split_ifs with h
  · obtain ⟨n, rfl⟩ := Int.eq_ofNat_of_zero_le h
    simp [toRat, tenPow]
  · obtain ⟨n, hn⟩ := Int.eq_ofNat_of_zero_le (show 0 ≤ -e by omega)
    obtain rfl : e = -n := by omega
    rw [toRat, tenPow_eq_zpow, neg_neg, Int.toNat_natCast, zpow_neg, zpow_neg, zpow_natCast,
      zpow_natCast, show (10 : ℚ) = 5 * 2 by norm_num, mul_pow, Nat.pow_eq]
    push_cast
    field_simp

/-- A decimal of some count of digits is one that reads back. -/
theorem nearest_of_withDigits?_eq_some {q : ℚ} {count : Nat} {d : Decimal}
    (h : withDigits? q count = some d) : nearest false d.toRat = nearest false q := by
  unfold withDigits? at h
  dsimp only at h
  split_ifs at h with hnear hfar hnear hfar <;> obtain rfl := Option.some.inj h
  all_goals exact eq_of_beq ‹_›

/-- The shortest decimal reads back as the value that it is the decimal of. -/
theorem nearest_shortest (m : Nat) (e : Int) :
    nearest false (shortest m e).toRat = nearest false ((m : ℚ) * 2 ^ e) := by
  unfold shortest
  split_ifs with hm
  · simp [hm, toRat]
  · dsimp only
    rw [toRat_stripZeros]
    cases hfound : (List.range 17).findSome? fun i =>
        withDigits? (Binary64.finiteToRat false m e) (i + 1) with
    | none =>
      rw [Option.getD_none, toRat_exact]
    | some d =>
      obtain ⟨i, -, hd⟩ := List.exists_of_findSome?_eq_some hfound
      rw [Option.getD_some, nearest_of_withDigits?_eq_some hd, Binary64.finiteToRat_false]

/-- The shortest decimal of a value of the format is read as that value. -/
theorem ofDecimal_shortest {negative : Bool} {m : Nat} {e : Int}
    (h : IsCanonical (finite negative m e)) :
    Binary64.ofDecimal negative (shortest m e) = finite negative m e := by
  have hvalue : nearest false ((m : ℚ) * 2 ^ e) = finite false m e := Binary64.nearest_value h
  rw [Binary64.ofDecimal_eq_nearest]
  exact Binary64.nearest_eq_finite ((nearest_shortest m e).trans hvalue) negative

/-- The shortest decimal of zero has no exponent. -/
theorem exponent_shortest_eq_zero {m : Nat} {e : Int} (h : IsCanonical (finite false m e))
    (hdigits : (shortest m e).digits = 0) : (shortest m e).exponent = 0 := by
  by_cases hm : m = 0
  · simp [shortest, hm]
  · exfalso
    have hzero : (shortest m e).toRat = 0 := by simp [toRat, hdigits]
    have hvalue : nearest false ((m : ℚ) * 2 ^ e) = finite false m e := Binary64.nearest_value h
    rw [← nearest_shortest, hzero] at hvalue
    cases hvalue
    exact hm rfl

end Decimal

end StyleGauge
