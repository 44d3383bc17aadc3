import StyleGauge.Proofs.Number.Decimal
import StyleGauge.Proofs.Number.Range

/-!
# Rounding is monotone

The greater of two magnitudes is not rounded to the smaller value. So where a mean has a value, a
smaller one has a value too.
-/

namespace StyleGauge

open Number (Fault)

namespace Binary64

/-! ### Magnitudes -/

/-- What a magnitude is rounded to, however great. -/
def rounded (a : ℚ) : ℚ :=
  multiple a * 2 ^ place a

theorem rounded_nonneg (a : ℚ) : 0 ≤ rounded a := by
  unfold rounded
  positivity

@[simp] theorem rounded_zero : rounded 0 = 0 := by
  simp [rounded, multiple, roundDivEven]

theorem place_mono {a b : ℚ} (ha : 0 < a) (hab : a ≤ b) : place a ≤ place b := by
  have hlt : (2 : ℚ) ^ binaryExponent a < 2 ^ (binaryExponent b + 1) :=
    ((binaryExponent_bounds ha).1.trans hab).trans_lt (binaryExponent_bounds (ha.trans_le hab)).2
  have := (zpow_lt_zpow_iff_right₀ (by norm_num : (1 : ℚ) < 2)).1 hlt
  unfold place
  omega

/-- Of two magnitudes with one last place the greater has the greater multiple of it. -/
theorem multiple_mono {a b : ℚ} (ha : 0 ≤ a) (hab : a ≤ b) (hplace : place a = place b) :
    multiple a ≤ multiple b := by
  rcases hab.eq_or_lt with rfl | hlt
  · exact le_refl _
  · have hpow : (0 : ℚ) < 2 ^ place b := by positivity
    have hupper := (multiple_bounds ha).2
    have hlower := (multiple_bounds (ha.trans hab)).1
    rw [hplace] at hupper
    have hscaled : a / 2 ^ place b < b / 2 ^ place b := by gcongr
    refine natCast_le_of_lt_add_one ?_
    linarith

theorem rounded_mono {a b : ℚ} (ha : 0 ≤ a) (hab : a ≤ b) : rounded a ≤ rounded b := by
  rcases ha.eq_or_lt with rfl | hpos
  · rw [rounded_zero]
    exact rounded_nonneg b
  · rcases (place_mono hpos hab).eq_or_lt with hplace | hplace
    · have hmultiple : (multiple a : ℚ) ≤ multiple b := by
        exact_mod_cast multiple_mono ha hab hplace
      unfold rounded
      rw [hplace]
      gcongr
    · -- the greater one fills its mantissa, and so has one place more
      have hfull : 2 ^ 52 ≤ multiple b := by
        refine le_multiple (hpos.trans_le hab) fun hmin => ?_
        have : minExponent ≤ place a := le_max_right _ _
        omega
      have hle : (multiple a : ℚ) ≤ 2 ^ (53 : Int) := by exact_mod_cast multiple_le hpos
      have hfull : (2 : ℚ) ^ (52 : Int) ≤ multiple b := by exact_mod_cast hfull
      have htwo : (2 : ℚ) ≠ 0 := by norm_num
      calc rounded a ≤ 2 ^ (53 : Int) * 2 ^ place a := by
            unfold rounded
            gcongr
        _ = 2 ^ (52 : Int) * 2 ^ (place a + 1) := by
            rw [← zpow_add₀ htwo, ← zpow_add₀ htwo]
            congr 1
            ring
        _ ≤ multiple b * 2 ^ place b := by
            gcongr
            · norm_num
            · omega

theorem value_of_nearest_eq_finite {negative s : Bool} {q : ℚ} {m : Nat} {e : Int}
    (h : nearest negative q = finite s m e) : (m : ℚ) * 2 ^ e = rounded |q| := by
  by_cases hq : q = 0
  · subst hq
    cases h
    simp
  · rw [nearest_of_ne_zero hq] at h
    split_ifs at h with hcarry <;> cases h
    · rw [rounded, hcarry, zpow_add_one₀ (by norm_num)]
      push_cast
      ring
    · rfl

/-- A finite value. -/
def IsFinite (x : Binary64) : Prop :=
  ∃ s m e, x = finite s m e

theorem not_isFinite_infinite (s : Bool) : ¬IsFinite (infinite s) := by
  rintro ⟨_, _, _, ⟨⟩⟩

theorem not_isFinite_nan : ¬IsFinite nan := by
  rintro ⟨_, _, _, ⟨⟩⟩

/-- A rational number is rounded to a finite value exactly if its magnitude is rounded to less than
`2 ^ 1024`. -/
theorem isFinite_nearest_iff {negative : Bool} {q : ℚ} :
    IsFinite (nearest negative q) ↔ rounded |q| < 2 ^ (1024 : Int) := by
  have htwo : (2 : ℚ) ≠ 0 := by norm_num
  constructor
  · rintro ⟨s, m, e, h⟩
    have hcanonical := isCanonical_nearest negative q
    rw [h] at hcanonical
    obtain ⟨hbits, -, hmax, -⟩ := hcanonical
    have hbits : (m : ℚ) < 2 ^ (53 : Int) := by exact_mod_cast hbits
    rw [← value_of_nearest_eq_finite h]
    calc (m : ℚ) * 2 ^ e < 2 ^ (53 : Int) * 2 ^ e := by gcongr
      _ ≤ 2 ^ (53 : Int) * 2 ^ maxExponent := by
        gcongr
        norm_num
      _ = 2 ^ (1024 : Int) := by
        rw [← zpow_add₀ htwo]
        rfl
  · intro hlt
    by_cases hq : q = 0
    · subst hq
      exact ⟨negative, 0, minExponent, rfl⟩
    · have hpos : 0 < |q| := abs_pos.2 hq
      have hplace : ∀ n : Int, (2 : ℚ) ^ n ≤ multiple |q| → n + place |q| < 1024 := by
        intro n hn
        refine (zpow_lt_zpow_iff_right₀ (by norm_num : (1 : ℚ) < 2)).1 (lt_of_le_of_lt ?_ hlt)
        rw [zpow_add₀ htwo, rounded]
        gcongr
      rw [nearest_of_ne_zero hq]
      split_ifs with hcarry hlarge hlarge
      · have := hplace 53 (by rw [hcarry]; norm_num)
        unfold maxExponent at hlarge
        omega
      · exact ⟨_, _, _, rfl⟩
      · have hfull : 2 ^ 52 ≤ multiple |q| := by
          refine le_multiple hpos fun hmin => ?_
          rw [hmin] at hlarge
          exact absurd hlarge (by decide)
        have := hplace 52 (by exact_mod_cast hfull)
        unfold maxExponent at hlarge
        omega
      · exact ⟨_, _, _, rfl⟩

theorem nearest_cases (negative : Bool) (q : ℚ) :
    IsFinite (nearest negative q) ∨ nearest negative q = infinite negative := by
  by_cases hq : q = 0
  · subst hq
    exact .inl ⟨negative, 0, minExponent, rfl⟩
  · rw [nearest_of_ne_zero hq]
    split_ifs
    · exact .inr rfl
    · exact .inl ⟨_, _, _, rfl⟩
    · exact .inr rfl
    · exact .inl ⟨_, _, _, rfl⟩

theorem nearest_abs (negative : Bool) (q : ℚ) : nearest negative |q| = nearest negative q := by
  by_cases hq : q = 0
  · rw [hq, abs_zero]
  · rw [nearest_of_ne_zero hq, nearest_of_ne_zero (abs_ne_zero.2 hq), abs_abs]

/-- What is not greater than a number that is rounded to a finite value is so itself. -/
theorem isFinite_nearest_mono {s t : Bool} {p q : ℚ} (hpq : |p| ≤ |q|)
    (h : IsFinite (nearest t q)) : IsFinite (nearest s p) :=
  isFinite_nearest_iff.2 ((rounded_mono (abs_nonneg p) hpq).trans_lt (isFinite_nearest_iff.1 h))

/-- The greatest finite value. -/
def greatestValue : ℚ :=
  (2 ^ 53 - 1) * 2 ^ maxExponent

theorem value_le_greatestValue {s : Bool} {m : Nat} {e : Int} (h : IsCanonical (finite s m e)) :
    (m : ℚ) * 2 ^ e ≤ greatestValue := by
  obtain ⟨hbits, -, hmax, -⟩ := h
  have hm : (m : ℚ) ≤ 2 ^ 53 - 1 := by
    rw [le_sub_iff_add_le]
    exact_mod_cast hbits
  calc (m : ℚ) * 2 ^ e ≤ (2 ^ 53 - 1) * 2 ^ e := by gcongr
    _ ≤ greatestValue := by
      unfold greatestValue
      gcongr
      norm_num

theorem greatestValue_le : greatestValue ≤ 2 ^ 1024 := by
  have hpos : (0 : ℚ) < 2 ^ maxExponent := by positivity
  calc greatestValue ≤ 2 ^ 53 * 2 ^ maxExponent := by
        unfold greatestValue
        linarith
    _ = 2 ^ 1024 := by
      rw [← zpow_natCast, ← zpow_natCast, ← zpow_add₀ (by norm_num)]
      rfl

/-- One half is absorbed by the greatest finite value. -/
theorem isFinite_nearest_greatestValue_add_half (negative : Bool) :
    IsFinite (nearest negative (greatestValue + 1 / 2)) := by
  have htwo : (2 : ℚ) ≠ 0 := by norm_num
  have hlast : (1 : ℚ) < 2 ^ maxExponent := one_lt_zpow₀ (by norm_num) (by decide)
  have hpos : 0 < greatestValue := by
    exact mul_pos (by norm_num) (zero_lt_one.trans hlast)
  have hupper : greatestValue + 1 / 2 < 2 ^ (1023 + 1) := by
    have hsplit : (2 : ℚ) ^ (1023 + 1) = 2 ^ 53 * 2 ^ maxExponent := by
      rw [← zpow_natCast, ← zpow_natCast, ← zpow_add₀ htwo]
      rfl
    rw [hsplit, greatestValue]
    linarith
  have hplace : place (greatestValue + 1 / 2) = maxExponent := by
    refine le_antisymm (place_le (by linarith) hupper) ?_
    have hcanonical : IsCanonical (finite false (2 ^ 53 - 1) maxExponent) := by decide
    have hvalue : ((2 ^ 53 - 1 : Nat) : ℚ) * 2 ^ maxExponent = greatestValue := by
      rw [greatestValue]
      norm_num
    have hgreatest := place_value hcanonical (by norm_num)
    rw [hvalue] at hgreatest
    calc maxExponent = place greatestValue := hgreatest.symm
      _ ≤ place (greatestValue + 1 / 2) := place_mono hpos (by linarith)
  have hmultiple : (multiple (greatestValue + 1 / 2) : ℚ) < 2 ^ 53 := by
    have hbound := (multiple_bounds (show 0 ≤ greatestValue + 1 / 2 by linarith)).2
    have hscaled : (greatestValue + 1 / 2) / 2 ^ maxExponent =
        2 ^ 53 - 1 + 1 / 2 / 2 ^ maxExponent := by
      rw [greatestValue, add_div, mul_div_cancel_right₀ _ (zero_lt_one.trans hlast).ne']
    rw [hplace, hscaled] at hbound
    have hhalf : (1 / 2 : ℚ) / 2 ^ maxExponent < 1 / 2 := div_lt_self (by norm_num) hlast
    linarith
  rw [isFinite_nearest_iff, abs_of_pos (by linarith), rounded, hplace]
  calc (multiple (greatestValue + 1 / 2) : ℚ) * 2 ^ maxExponent
      < 2 ^ 53 * 2 ^ maxExponent := by gcongr
    _ = 2 ^ (1024 : Int) := by
      rw [← zpow_natCast, ← zpow_add₀ htwo]
      rfl

end Binary64

namespace Number

open Binary64 (finite infinite nan ofRat rounded IsFinite finiteToRat)

/-! ### Rounding to two places -/

theorem toBinary64_hundred : (int 100).toBinary64 = .ok (finite false (100 * 2 ^ 46) (-46)) := by
  decide +kernel

theorem half_eq : half = .float (finite false (2 ^ 52) (-53)) := by
  decide +kernel

theorem finiteToRat_hundred : finiteToRat false (100 * 2 ^ 46) (-46) = 100 := by
  decide +kernel

theorem finiteToRat_half : finiteToRat false (2 ^ 52) (-53) = 1 / 2 := by
  decide +kernel

theorem floor_eq_ok_iff {x : Binary64} : (∃ n, (float x).floor = .ok n) ↔ IsFinite x := by
  cases x <;> simp [floor, IsFinite]

theorem roundToInt_float (x : Binary64) :
    (float x).roundToInt = (float (x.add (finite false (2 ^ 52) (-53)))).floor := by
  rw [roundToInt, half_eq]
  rfl

/-- A value of the format is rounded to an integer exactly if it is finite. -/
theorem exists_roundToInt_iff {x : Binary64} (hx : x.IsCanonical) :
    (∃ n, (float x).roundToInt = .ok n) ↔ IsFinite x := by
  rw [roundToInt_float, floor_eq_ok_iff]
  constructor
  · intro h
    cases x with
    | finite s m e => exact ⟨s, m, e, rfl⟩
    | infinite s => exact absurd h (Binary64.not_isFinite_infinite s)
    | nan => exact absurd h Binary64.not_isFinite_nan
  · rintro ⟨s, m, e, rfl⟩
    refine Binary64.isFinite_nearest_mono (t := false) ?_
      (Binary64.isFinite_nearest_greatestValue_add_half false)
    have hle := Binary64.value_le_greatestValue hx
    have hhalf : |finiteToRat false (2 ^ 52) (-53)| = 1 / 2 := by
      rw [finiteToRat_half]
      norm_num
    have hnonneg : (0 : ℚ) ≤ (m : ℚ) * 2 ^ e := by positivity
    calc |finiteToRat s m e + finiteToRat false (2 ^ 52) (-53)|
        ≤ |finiteToRat s m e| + |finiteToRat false (2 ^ 52) (-53)| := abs_add_le _ _
      _ = (m : ℚ) * 2 ^ e + 1 / 2 := by rw [Binary64.abs_finiteToRat, hhalf]
      _ ≤ Binary64.greatestValue + 1 / 2 := by linarith
      _ ≤ |Binary64.greatestValue + 1 / 2| := le_abs_self _

theorem isCanonical_mul (x : Binary64) (s : Bool) (m : Nat) (e : Int) :
    (x.mul (finite s m e)).IsCanonical := by
  cases x with
  | finite t n f => exact Binary64.isCanonical_nearest _ _
  | infinite t =>
    show (if m = 0 then nan else infinite (t != s)).IsCanonical
    split_ifs <;> trivial
  | nan => trivial

theorem abs_floor_le {q : ℚ} {k : Nat} (h : |q| ≤ 2 ^ k) : |(q.floor : ℚ)| ≤ 2 ^ k := by
  obtain ⟨hlow, hhigh⟩ := abs_le.1 h
  refine abs_le.2 ⟨?_, (Rat.floor_le q).trans hhigh⟩
  have : (-2 ^ k : Int) ≤ q.floor := Rat.le_floor_iff.2 (by exact_mod_cast hlow)
  exact_mod_cast this

/-- A hundredth of what a value is rounded to is not too large. -/
theorem exists_div_hundred {x : Binary64} {n : Int} (h : (float x).roundToInt = .ok n) :
    ∃ r, (int n).div (int 100) = .ok r := by
  rw [roundToInt_float] at h
  obtain ⟨s, m, e, hx⟩ := floor_eq_ok_iff.1 ⟨n, h⟩
  have hcanonical : (finite s m e).IsCanonical := by
    cases x with
    | finite t k f => exact hx ▸ Binary64.isCanonical_nearest _ _
    | infinite t => cases hx
    | nan => cases hx
  rw [hx] at h
  obtain rfl := Except.ok.inj h
  have hle : |finiteToRat s m e| ≤ 2 ^ 1024 := by
    rw [Binary64.abs_finiteToRat]
    exact (Binary64.value_le_greatestValue hcanonical).trans Binary64.greatestValue_le
  have hhundredth : |((finiteToRat s m e).floor : ℚ) / ((100 : Int) : ℚ)| ≤ 2 ^ 1018 := by
    rw [abs_div, div_le_iff₀ (by norm_num)]
    calc |((finiteToRat s m e).floor : ℚ)| ≤ 2 ^ 1024 := abs_floor_le hle
      _ = 2 ^ 1018 * 2 ^ 6 := by rw [← pow_add]
      _ ≤ 2 ^ 1018 * |((100 : Int) : ℚ)| := by
        gcongr
        norm_num
  obtain ⟨t, k, f, heq, -⟩ := Binary64.isWithin_ofRat (by norm_num) hhundredth
    ((finiteToRat s m e).floor = 0 && (100 : Int) < 0)
  exact ⟨.float (finite t k f), by rw [Number.div, if_neg (by norm_num), heq]⟩

/-- Rounding to two places rounds the hundredfold to an integer. -/
theorem roundHalfUp_two_float (x : Binary64) :
    (float x).roundHalfUp 2 =
      (float (x.mul (finite false (100 * 2 ^ 46) (-46)))).roundToInt >>= fun n =>
        do return (← (int n).div (int 100)).toIntegerIfWhole := by
  have hscale : scale 2 = int 100 := by decide
  have hmul : (float x).mul (int 100) =
      .ok (float (x.mul (finite false (100 * 2 ^ 46) (-46)))) := by
    show (do return float (x.mul (← (int 100).toBinary64))) = _
    rw [toBinary64_hundred]
    rfl
  rw [roundHalfUp, if_neg (by norm_num), hscale]
  dsimp only
  rw [hmul, ok_bind]

theorem isFinite_mul_hundred_iff {s : Bool} {m : Nat} {e : Int} :
    IsFinite ((finite s m e).mul (finite false (100 * 2 ^ 46) (-46))) ↔
      rounded ((m : ℚ) * 2 ^ e * 100) < 2 ^ (1024 : Int) := by
  have hvalue : |finiteToRat s m e * finiteToRat false (100 * 2 ^ 46) (-46)| =
      (m : ℚ) * 2 ^ e * 100 := by
    rw [abs_mul, Binary64.abs_finiteToRat, finiteToRat_hundred]
    norm_num
  rw [← hvalue]
  exact Binary64.isFinite_nearest_iff

/-- Rounding to two places has a value exactly if the hundredfold is finite. -/
theorem exists_roundHalfUp_two_iff {x : Binary64} :
    (∃ r, (float x).roundHalfUp 2 = .ok r) ↔
      ∃ s m e, x = finite s m e ∧ rounded ((m : ℚ) * 2 ^ e * 100) < 2 ^ (1024 : Int) := by
  have hexists : (∃ r, (float x).roundHalfUp 2 = .ok r) ↔
      IsFinite (x.mul (finite false (100 * 2 ^ 46) (-46))) := by
    rw [roundHalfUp_two_float, ← exists_roundToInt_iff (isCanonical_mul ..)]
    constructor
    · rintro ⟨r, h⟩
      obtain ⟨n, hn, -⟩ := bind_eq_ok_iff.1 h
      exact ⟨n, hn⟩
    · rintro ⟨n, hn⟩
      obtain ⟨q, hq⟩ := exists_div_hundred hn
      exact ⟨q.toIntegerIfWhole, by rw [hn, ok_bind, hq]; rfl⟩
  rw [hexists]
  cases x with
  | finite s m e =>
    rw [isFinite_mul_hundred_iff]
    constructor
    · intro h
      exact ⟨s, m, e, rfl, h⟩
    · rintro ⟨_, _, _, ⟨⟩, h⟩
      exact h
  | infinite s =>
    exact iff_of_false (Binary64.not_isFinite_infinite _) (by rintro ⟨_, _, _, ⟨⟩, -⟩)
  | nan => exact iff_of_false Binary64.not_isFinite_nan (by rintro ⟨_, _, _, ⟨⟩, -⟩)

end Number

end StyleGauge
