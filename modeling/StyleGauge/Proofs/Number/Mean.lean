import StyleGauge.Proofs.Insertion
import StyleGauge.Proofs.Json.Numeral
import StyleGauge.Proofs.Number.Monotone

/-!
# Means rounded to two places

A sum over a count is rounded to two places unless it is too large. A zero among the numbers changes
their sum in its sign at most and makes the mean smaller, and the mean of all numbers of two lists
is not greater than both of their means.
-/

namespace StyleGauge

open Number (Fault)

namespace Binary64

theorem finiteToRat_zero (s : Bool) (e : Int) : finiteToRat s 0 e = 0 := by
  cases s <;> simp [finiteToRat]

theorem ofRat_of_ne_zero {q : ℚ} (hq : q ≠ 0) (a b : Bool) : ofRat q a = ofRat q b := by
  rw [ofRat, ofRat, if_neg hq, if_neg hq]

/-- A value of the format, unless it is zero, is not changed by rounding it. -/
theorem ofRat_finiteToRat {s : Bool} {m : Nat} {e : Int} (h : IsCanonical (finite s m e))
    (hm : m ≠ 0) (b : Bool) : ofRat (finiteToRat s m e) b = finite s m e := by
  have hpos : 0 < (m : ℚ) * 2 ^ e := by
    have : (0 : ℚ) < m := by exact_mod_cast Nat.pos_of_ne_zero hm
    positivity
  have habs : |finiteToRat s m e| = (m : ℚ) * 2 ^ e := abs_finiteToRat s m e
  have hne : finiteToRat s m e ≠ 0 := abs_pos.1 (habs ▸ hpos)
  have hsign : decide (finiteToRat s m e < 0) = s := by
    have hfalse : 0 < finiteToRat false m e := by rwa [finiteToRat_false]
    cases s with
    | false => exact decide_eq_false hfalse.not_gt
    | true => exact decide_eq_true (neg_neg_iff_pos.2 hfalse)
  rw [ofRat, if_neg hne, hsign, ← nearest_abs, habs, nearest_value h]

/-! ### Magnitudes that can be rounded -/

/-- A magnitude that is finite as a quotient, and is still finite when it is scaled for rounding to
two places. -/
structure Roundable (a : ℚ) : Prop where
  quotient : rounded a < 2 ^ (1024 : Int)
  scaled : rounded (rounded a * 100) < 2 ^ (1024 : Int)

theorem roundable_zero : Roundable 0 := by
  have hpos : (0 : ℚ) < 2 ^ (1024 : Int) := by positivity
  constructor
  · rwa [rounded_zero]
  · rwa [rounded_zero, zero_mul, rounded_zero]

theorem Roundable.mono {a b : ℚ} (h : Roundable b) (ha : 0 ≤ a) (hab : a ≤ b) : Roundable a := by
  have hrounded : rounded a ≤ rounded b := rounded_mono ha hab
  have hscaled : rounded a * 100 ≤ rounded b * 100 := by gcongr
  have hnonneg : 0 ≤ rounded a * 100 := mul_nonneg (rounded_nonneg a) (by norm_num)
  exact ⟨hrounded.trans_lt h.quotient, (rounded_mono hnonneg hscaled).trans_lt h.scaled⟩

/-- A mean of two groups together is between their means. -/
theorem Roundable.add_div_add {a b m n : ℚ} (hm : 0 ≤ m) (hn : 0 ≤ n) (ha : 0 ≤ a) (hb : 0 ≤ b)
    (hma : m = 0 → a = 0) (hnb : n = 0 → b = 0) (h : Roundable (a / m)) (h' : Roundable (b / n)) :
    Roundable ((a + b) / (m + n)) := by
  have hmax : Roundable (max (a / m) (b / n)) := by
    rcases max_choice (a / m) (b / n) with hle | hle <;> rwa [hle]
  refine hmax.mono (by positivity) ?_
  have hleft : a ≤ max (a / m) (b / n) * m := by
    rcases hm.eq_or_lt with rfl | hpos
    · rw [hma rfl, mul_zero]
    · exact (div_le_iff₀ hpos).1 (le_max_left _ _)
  have hright : b ≤ max (a / m) (b / n) * n := by
    rcases hn.eq_or_lt with rfl | hpos
    · rw [hnb rfl, mul_zero]
    · exact (div_le_iff₀ hpos).1 (le_max_right _ _)
  rcases (add_nonneg hm hn).eq_or_lt with hzero | hpos
  · rw [← hzero, div_zero]
    exact le_max_of_le_left (by positivity)
  · rw [div_le_iff₀ hpos, mul_add]
    exact add_le_add hleft hright

end Binary64

namespace Number

open Binary64 (finite infinite nan nearest ofRat rounded Roundable finiteToRat)

/-! ### Rounded means -/

theorem exists_roundHalfUp_nearest_iff {negative : Bool} {q : ℚ} :
    (∃ r, (float (nearest negative q)).roundHalfUp 2 = .ok r) ↔ Roundable |q| := by
  rw [exists_roundHalfUp_two_iff]
  constructor
  · rintro ⟨s, m, e, hx, h⟩
    rw [Binary64.value_of_nearest_eq_finite hx] at h
    exact ⟨Binary64.isFinite_nearest_iff.1 ⟨s, m, e, hx⟩, h⟩
  · rintro ⟨hquotient, h⟩
    obtain ⟨s, m, e, hx⟩ := Binary64.isFinite_nearest_iff.2 hquotient
    rw [← Binary64.value_of_nearest_eq_finite hx] at h
    exact ⟨s, m, e, hx, h⟩

/-- What is not finite cannot be rounded. -/
theorem roundHalfUp_two_ne_ok {x : Binary64} (h : ¬Binary64.IsFinite x) :
    ¬∃ r, (float x).roundHalfUp 2 = .ok r := by
  rw [exists_roundHalfUp_two_iff]
  rintro ⟨s, m, e, hx, -⟩
  exact h ⟨s, m, e, hx⟩

/-- A sum over a count, rounded to two places. -/
def roundedMean (total : Number) (count : Nat) : Except Fault Number := do
  (← total.div (.ofNat count)).roundHalfUp 2

theorem exists_roundedMean_int_iff {k : Int} {n : Nat} (hn : n ≠ 0) :
    (∃ r, roundedMean (int k) n = .ok r) ↔ Roundable (|(k : ℚ)| / n) := by
  have hvalue : |(k : ℚ) / ((n : Int) : ℚ)| = |(k : ℚ)| / n := by
    rw [abs_div, Int.cast_natCast, Nat.abs_cast]
  have hne : (n : Int) ≠ 0 := by exact_mod_cast hn
  obtain ⟨negative, hquotient⟩ : ∃ negative,
      ofRat ((k : ℚ) / ((n : Int) : ℚ)) (k = 0 && (n : Int) < 0) =
        nearest negative ((k : ℚ) / ((n : Int) : ℚ)) := ⟨_, rfl⟩
  have hround := @exists_roundHalfUp_nearest_iff negative ((k : ℚ) / ((n : Int) : ℚ))
  rw [← hvalue, ← hround, roundedMean, Number.ofNat, Number.div, if_neg hne, hquotient]
  rcases Binary64.nearest_cases negative ((k : ℚ) / ((n : Int) : ℚ)) with ⟨s, m, e, hx⟩ | hx
  · rw [hx]
    rfl
  · rw [hx]
    exact iff_of_false (by rintro ⟨_, ⟨⟩⟩)
      (roundHalfUp_two_ne_ok (Binary64.not_isFinite_infinite _))

/-- A count is rounded to at least one. -/
theorem one_le_rounded {n : Nat} (hn : n ≠ 0) : 1 ≤ rounded n := by
  have hone : nearest false 1 = finite false (2 ^ 52) (-52) := by decide +kernel
  have hvalue := Binary64.value_of_nearest_eq_finite hone
  have hn : (1 : ℚ) ≤ n := by exact_mod_cast Nat.one_le_iff_ne_zero.2 hn
  calc (1 : ℚ) = rounded |1| := by
        rw [← hvalue]
        norm_num
    _ ≤ rounded n := by
      rw [abs_one]
      exact Binary64.rounded_mono zero_le_one hn

/-- A floating point number is divided by what a count is rounded to. -/
theorem exists_div_ofNat {n : Nat} (hn : n ≠ 0) (hle : n ≤ 2 ^ 63) :
    ∃ (t : Bool) (b : Nat) (f : Int), b ≠ 0 ∧ (b : ℚ) * 2 ^ f = rounded n ∧
      ∀ x, (float x).div (.ofNat n) = .ok (float (x.div (finite t b f))) := by
  obtain ⟨t, b, f, hcount, -⟩ := Binary64.isWithin_ofInt (n := n) (k := 63) (by norm_num) (by
    rw [Nat.abs_cast]
    exact_mod_cast hle)
  have hrounded : (b : ℚ) * 2 ^ f = rounded n := by
    rw [Binary64.value_of_nearest_eq_finite hcount, Int.cast_natCast, Nat.abs_cast]
  have hpos : 0 < (b : ℚ) * 2 ^ f := zero_lt_one.trans_le (hrounded ▸ one_le_rounded hn)
  have hb : b ≠ 0 := by
    rintro rfl
    norm_num at hpos
  have hne : finiteToRat t b f ≠ 0 := by
    rw [← abs_pos, Binary64.abs_finiteToRat]
    exact hpos
  refine ⟨t, b, f, hb, hrounded, fun x => ?_⟩
  have hbind : (float x).div (.ofNat n) = (Number.ofNat n).toBinary64 >>= fun b =>
      if b.toExtended.eq (.rational 0) then .error .floatDivisionByZero
      else pure (float (x.div b)) := rfl
  rw [hbind, Number.ofNat, Number.toBinary64, hcount]
  exact if_neg (by simpa [Binary64.toExtended] using hne)

/-- Of floating point numbers only a finite one has a mean. -/
theorem exists_roundedMean_float_iff {x : Binary64} {n : Nat} (hn : n ≠ 0) (hle : n ≤ 2 ^ 63) :
    (∃ r, roundedMean (float x) n = .ok r) ↔
      ∃ s m e, x = finite s m e ∧ Roundable ((m : ℚ) * 2 ^ e / rounded n) := by
  obtain ⟨t, b, f, hb, hrounded, hdiv⟩ := exists_div_ofNat hn hle
  rw [roundedMean, hdiv, ok_bind]
  cases x with
  | finite s m e =>
    have hquotient : |finiteToRat s m e / finiteToRat t b f| = (m : ℚ) * 2 ^ e / rounded n := by
      rw [abs_div, Binary64.abs_finiteToRat, Binary64.abs_finiteToRat, hrounded]
    have hfinite : (finite s m e).div (finite t b f) =
        ofRat (finiteToRat s m e / finiteToRat t b f) (s != t) := if_neg hb
    rw [hfinite, ofRat, exists_roundHalfUp_nearest_iff, hquotient]
    constructor
    · intro h
      exact ⟨s, m, e, rfl, h⟩
    · rintro ⟨_, _, _, ⟨⟩, h⟩
      exact h
  | infinite s =>
    exact iff_of_false (roundHalfUp_two_ne_ok (Binary64.not_isFinite_infinite _))
      (by rintro ⟨_, _, _, ⟨⟩, -⟩)
  | nan =>
    exact iff_of_false (roundHalfUp_two_ne_ok Binary64.not_isFinite_nan)
      (by rintro ⟨_, _, _, ⟨⟩, -⟩)

/-! ### Zeros among the numbers -/

/-- Two running sums of which one has met zeros that the other has not: the same number, or floating
point zeros of any signs. -/
def SameSum (x y : Number) : Prop :=
  x = y ∨ ∃ s t, x = .float (Binary64.zero s) ∧ y = .float (Binary64.zero t)

variable {x y z w : Number}

theorem SameSum.trans (hxy : SameSum x y) (hyz : SameSum y z) : SameSum x z := by
  rcases hxy with rfl | ⟨s, t, rfl, rfl⟩
  · exact hyz
  · rcases hyz with rfl | ⟨_, u, -, rfl⟩
    · exact .inr ⟨s, t, rfl, rfl⟩
    · exact .inr ⟨s, u, rfl, rfl⟩

theorem add_float (a : Binary64) (z : Number) :
    (float a).add z = (fun b => float (a.add b)) <$> z.toBinary64 := by
  cases z <;> rfl

/-- A sum is a value of the format, whatever its terms are. -/
theorem isCanonical_add (h : x.add y = .ok z) : z.IsCanonical := by
  have hfloat : ∀ a b : Binary64, (a.add b).IsCanonical := by
    intro a b
    cases a with
    | nan => trivial
    | infinite s =>
      cases b with
      | nan | finite => trivial
      | infinite t =>
        show (if s = t then infinite s else nan).IsCanonical
        split_ifs <;> trivial
    | finite s m e =>
      cases b with
      | nan | infinite => trivial
      | finite t n f => exact Binary64.isCanonical_nearest _ _
  have hmixed : ∀ a : Except Fault Binary64, ∀ b : Except Fault Binary64,
      (do return float ((← a).add (← b))) = .ok z → z.IsCanonical := by
    intro a b h
    obtain ⟨a, -, h⟩ := bind_eq_ok_iff.1 h
    obtain ⟨b, -, h⟩ := bind_eq_ok_iff.1 h
    obtain rfl := pure_eq_ok_iff.1 h
    exact hfloat a b
  cases x with
  | float a => exact hmixed _ _ h
  | int m =>
    cases y with
    | float b => exact hmixed _ _ h
    | int n =>
      obtain rfl := Except.ok.inj h
      trivial

/-- A zero more does not change a running sum. -/
theorem exists_add_zero (hx : x.IsCanonical) : ∃ y, x.add 0 = .ok y ∧ SameSum x y := by
  cases x with
  | int n => exact ⟨.int (n + 0), rfl, .inl (by rw [add_zero])⟩
  | float x =>
    refine ⟨.float (x.add (Binary64.zero false)), rfl, ?_⟩
    cases x with
    | infinite s => exact .inl rfl
    | nan => exact .inl rfl
    | finite s m e =>
      have hadd : (finite s m e).add (Binary64.zero false) = ofRat (finiteToRat s m e) := by
        show ofRat (finiteToRat s m e + finiteToRat false 0 Binary64.minExponent) (s && false) = _
        rw [Binary64.finiteToRat_zero, add_zero, Bool.and_false]
      rw [hadd]
      by_cases hm : m = 0
      · subst hm
        obtain ⟨-, -, -, hfull | rfl⟩ := hx
        · norm_num at hfull
        · rw [Binary64.finiteToRat_zero]
          exact .inr ⟨s, false, rfl, rfl⟩
      · exact .inl (congrArg float (Binary64.ofRat_finiteToRat hx hm _).symm)

theorem SameSum.add (hxy : SameSum x y) (h : x.add z = .ok w) :
    ∃ v, y.add z = .ok v ∧ SameSum w v := by
  rcases hxy with rfl | ⟨s, t, rfl, rfl⟩
  · exact ⟨w, h, .inl rfl⟩
  · rw [add_float] at h ⊢
    obtain ⟨b, hb, rfl⟩ := map_eq_ok_iff.1 h
    refine ⟨_, map_eq_ok_iff.2 ⟨b, hb, rfl⟩, ?_⟩
    cases b with
    | nan | infinite => exact .inl rfl
    | finite u n f =>
      have hadd : ∀ s, (Binary64.zero s).add (finite u n f) =
          ofRat (finiteToRat u n f) (s && u) := by
        intro s
        show ofRat (finiteToRat s 0 Binary64.minExponent + finiteToRat u n f) (s && u) = _
        rw [Binary64.finiteToRat_zero, zero_add]
      rw [hadd, hadd]
      by_cases hq : finiteToRat u n f = 0
      · rw [hq]
        exact .inr ⟨s && u, t && u, rfl, rfl⟩
      · exact .inl (congrArg float (Binary64.ofRat_of_ne_zero hq _ _))

/-- Sums that are the same so far stay so if one of them meets zeros that the other does not. -/
theorem exists_foldlM_add_of_inserted {xs ys : List Number} (h : Listing.Inserted (· = 0) xs ys)
    (hxy : SameSum x y) (hy : y.IsCanonical) (hxs : xs.foldlM add x = .ok z) :
    ∃ w, ys.foldlM add y = .ok w ∧ SameSum z w := by
  induction h generalizing x y with
  | nil =>
    obtain rfl := pure_eq_ok_iff.1 hxs
    exact ⟨y, rfl, hxy⟩
  | keep a h ih =>
    rw [List.foldlM_cons] at hxs ⊢
    obtain ⟨x', hx', hxs⟩ := bind_eq_ok_iff.1 hxs
    obtain ⟨y', hy', hxy'⟩ := hxy.add hx'
    rw [hy', ok_bind]
    exact ih hxy' (isCanonical_add hy') hxs
  | insert hzero h ih =>
    obtain ⟨y', hy', hyy'⟩ := exists_add_zero hy
    rw [List.foldlM_cons, hzero, hy', ok_bind]
    exact ih (hxy.trans hyy') (isCanonical_add hy') hxs

theorem exists_sum_of_inserted {xs ys : List Number} (h : Listing.Inserted (· = 0) xs ys)
    (hxs : Number.sum xs = .ok x) : ∃ y, Number.sum ys = .ok y ∧ SameSum x y :=
  exists_foldlM_add_of_inserted h (.inl rfl) trivial hxs

/-- The mean of more numbers with the same sum is rounded if that of the fewer ones is. -/
theorem exists_roundedMean_of_le {m n : Nat} (hxy : SameSum x y) (hm : m ≠ 0) (hmn : m ≤ n)
    (hn : n ≤ 2 ^ 63) (h : ∃ r, roundedMean x m = .ok r) : ∃ r, roundedMean y n = .ok r := by
  have hn0 : n ≠ 0 := by omega
  rcases hxy with rfl | ⟨s, t, rfl, rfl⟩
  · cases x with
    | int k =>
      rw [exists_roundedMean_int_iff hm] at h
      rw [exists_roundedMean_int_iff hn0]
      have hmpos : (0 : ℚ) < m := by exact_mod_cast Nat.pos_of_ne_zero hm
      exact h.mono (by positivity) (by gcongr)
    | float x =>
      rw [exists_roundedMean_float_iff hm (hmn.trans hn)] at h
      rw [exists_roundedMean_float_iff hn0 hn]
      obtain ⟨s, k, e, rfl, h⟩ := h
      have hpos : 0 < rounded m := zero_lt_one.trans_le (one_le_rounded hm)
      have hle : rounded m ≤ rounded n :=
        Binary64.rounded_mono (by positivity) (by exact_mod_cast hmn)
      refine ⟨s, k, e, rfl, h.mono ?_ ?_⟩
      · exact div_nonneg (by positivity) (Binary64.rounded_nonneg n)
      · gcongr
  · rw [exists_roundedMean_float_iff hn0 hn]
    refine ⟨t, 0, Binary64.minExponent, rfl, ?_⟩
    rw [Nat.cast_zero, zero_mul, zero_div]
    exact Binary64.roundable_zero

/-! ### Integers -/

theorem sum_map_int (ns : List Int) : Number.sum (ns.map int) = .ok (int ns.sum) := by
  have hfold : ∀ n : Int, (ns.map int).foldlM add (int n) = .ok (int (n + ns.sum)) := by
    induction ns with
    | nil => exact fun n => congrArg (fun n => Except.ok (int n)) (add_zero n).symm
    | cons m ns ih =>
      intro n
      rw [List.map_cons, List.foldlM_cons, add_int, ok_bind, ih, List.sum_cons, add_assoc]
  have hsum := hfold 0
  rwa [zero_add] at hsum

end Number

end StyleGauge
