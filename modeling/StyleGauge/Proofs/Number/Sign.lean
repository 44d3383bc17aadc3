import StyleGauge.Proofs.Number.Mean

/-!
# Differences with zero

A number that is not below zero is compared with zero by the sign of their difference: it is above
zero exactly if the number is not zero itself.
-/

namespace StyleGauge

open Number (Fault)

namespace Binary64

variable {a b : Binary64}

/-- A value above zero. -/
def IsPositive (a : Binary64) : Prop :=
  (Extended.rational 0).lt a.toExtended = true

theorem isPositive_finite_iff {s : Bool} {m : Nat} {e : Int} :
    (finite s m e).IsPositive ↔ 0 < finiteToRat s m e := by
  simp [IsPositive, toExtended]

theorem eq_zero_of_finiteToRat_eq_zero {s : Bool} {m : Nat} {e : Int}
    (h : finiteToRat s m e = 0) : m = 0 := by
  have hpow : (2 : ℚ) ^ e ≠ 0 := by positivity
  have habs : (m : ℚ) * 2 ^ e = 0 := by rw [← abs_finiteToRat s, h, abs_zero]
  exact_mod_cast (mul_eq_zero.1 habs).resolve_right hpow

/-- What equals zero is a zero of some sign. -/
theorem exists_eq_of_eq_zero (h : b.toExtended.eq (.rational 0) = true) :
    ∃ s e, b = finite s 0 e := by
  cases b with
  | nan => cases h
  | infinite s => cases s <;> cases h
  | finite s m e =>
    have hzero : finiteToRat s m e = 0 := by simpa [toExtended] using h
    obtain rfl := eq_zero_of_finiteToRat_eq_zero hzero
    exact ⟨s, e, rfl⟩

theorem sub_zero_of_finite (s t : Bool) (m : Nat) (e f : Int) :
    (finite s m e).sub (finite t 0 f) = ofRat (finiteToRat s m e) (s && !t) := by
  show ofRat (finiteToRat s m e + finiteToRat (!t) 0 f) (s && !t) = _
  rw [finiteToRat_zero, add_zero]

/-- Rounding does not turn a sign. -/
theorem not_isPositive_ofRat {q : ℚ} (hq : q ≤ 0) (negativeZero : Bool) :
    ¬(ofRat q negativeZero).IsPositive := by
  rcases hq.eq_or_lt with rfl | hneg
  · rw [ofRat, if_pos rfl, nearest, if_pos rfl, zero, isPositive_finite_iff, finiteToRat_zero]
    exact lt_irrefl 0
  · rw [ofRat, if_neg hneg.ne, decide_eq_true hneg]
    rcases nearest_cases true q with ⟨s, m, e, hx⟩ | hx
    · have hs : s = true := by
        rw [nearest_of_ne_zero hneg.ne] at hx
        split_ifs at hx <;> cases hx <;> rfl
      rw [hx, isPositive_finite_iff, hs]
      have hnonneg : 0 ≤ finiteToRat false m e := by
        rw [finiteToRat_false]
        positivity
      exact (neg_nonpos.2 hnonneg).not_gt
    · rw [hx]
      exact Bool.false_ne_true

/-- What is above zero is still above it with a zero taken off. -/
theorem IsPositive.sub (hpos : a.IsPositive) (ha : a.IsCanonical)
    (hb : b.toExtended.eq (.rational 0) = true) : (a.sub b).IsPositive := by
  obtain ⟨t, f, rfl⟩ := exists_eq_of_eq_zero hb
  cases a with
  | nan => cases hpos
  | infinite s => exact hpos
  | finite s m e =>
    have hm : m ≠ 0 := by
      rintro rfl
      rw [isPositive_finite_iff, finiteToRat_zero] at hpos
      exact lt_irrefl 0 hpos
    rwa [sub_zero_of_finite, ofRat_finiteToRat ha hm]

theorem not_isPositive_sub (ha : a.toExtended.eq (.rational 0) = true)
    (hb : b.toExtended.eq (.rational 0) = true) : ¬(a.sub b).IsPositive := by
  obtain ⟨s, e, rfl⟩ := exists_eq_of_eq_zero ha
  obtain ⟨t, f, rfl⟩ := exists_eq_of_eq_zero hb
  rw [sub_zero_of_finite, finiteToRat_zero]
  exact not_isPositive_ofRat (le_refl 0) _

/-- Taking off what is not below zero leads from zero to nothing above it. -/
theorem not_isPositive_zero_sub (hle : a.IsPositive ∨ a.toExtended.eq (.rational 0) = true) :
    ¬((zero false).sub a).IsPositive := by
  cases a with
  | nan => rcases hle with h | h <;> cases h
  | infinite s =>
    cases s with
    | true => rcases hle with h | h <;> cases h
    | false => exact Bool.false_ne_true
  | finite s m e =>
    have hnonneg : 0 ≤ finiteToRat s m e := by
      rcases hle with h | h
      · exact (isPositive_finite_iff.1 h).le
      · exact (show finiteToRat s m e = 0 by simpa [toExtended] using h).ge
    have hneg : finiteToRat (!s) m e = -finiteToRat s m e := by
      cases s <;> simp [finiteToRat]
    have hsub : (zero false).sub (finite s m e) = ofRat (-finiteToRat s m e) false := by
      show ofRat (finiteToRat false 0 minExponent + finiteToRat (!s) m e) (false && !s) = _
      rw [finiteToRat_zero, zero_add, hneg, Bool.false_and]
    rw [hsub]
    exact not_isPositive_ofRat (neg_nonpos.2 hnonneg) _

end Binary64

namespace Number

variable {x y z : Number}

/-- A number that is not below zero, in the form in which it is written. -/
structure IsNonneg (x : Number) : Prop where
  canonical : x.IsCanonical
  zero_le : (0 : Number).le x = true

theorem eq_comm (x y : Number) : x.eq y = y.eq x := by
  unfold Number.eq
  generalize x.toExtended = p
  generalize y.toExtended = q
  cases p <;> cases q <;> simp [Extended.eq, Bool.beq_comm]

theorem eq_trans (hxy : x.eq y = true) (hyz : y.eq z = true) : x.eq z = true := by
  unfold Number.eq at *
  generalize x.toExtended = p at *
  generalize y.toExtended = q at *
  generalize z.toExtended = r at *
  cases p <;> cases q <;> cases r <;> simp_all [Extended.eq]

/-- Numbers of one value equal the same numbers. -/
theorem eq_of_eq_zero (hz : z.eq 0 = true) (x : Number) : x.eq z = x.eq 0 := by
  rw [Bool.eq_iff_iff]
  constructor
  · intro h
    exact eq_trans h hz
  · intro h
    exact eq_trans h (eq_comm z 0 ▸ hz)

theorem isNonneg_zero : IsNonneg 0 := by
  constructor
  · trivial
  · decide

theorem isNonneg_ofNat (n : Nat) : IsNonneg (.ofNat n) := by
  constructor
  · trivial
  · exact (le_int 0 n).trans (decide_eq_true (Int.natCast_nonneg n))

theorem zero_lt_int_iff {n : Int} : (0 : Number).lt (int n) = true ↔ 0 < n := by
  rw [show (0 : Number) = int 0 from rfl, lt_int, decide_eq_true_iff]

theorem IsNonneg.zero_lt_or_eq_zero (hx : IsNonneg x) :
    (0 : Number).lt x = true ∨ x.eq 0 = true := by
  have hle := hx.zero_le
  rw [Number.le, Bool.or_eq_true, eq_comm] at hle
  exact hle

theorem exists_sub_zero (x : Number) : ∃ y, x.sub 0 = .ok y := by
  cases x with
  | int n => exact ⟨_, rfl⟩
  | float a => exact ⟨_, rfl⟩

theorem sub_float (x : Number) (b : Binary64) :
    x.sub (float b) = (fun a => float (a.sub b)) <$> x.toBinary64 := by
  cases x <;> rfl

/-- What is above zero is still so as a floating point number. -/
theorem isPositive_toBinary64 {a : Binary64} (hx : (0 : Number).lt x = true)
    (h : x.toBinary64 = .ok a) : a.IsPositive := by
  cases x with
  | float b =>
    obtain rfl := Except.ok.inj h
    exact hx
  | int n =>
    have hn : 0 < n := zero_lt_int_iff.1 hx
    have hone : (1 : ℚ) ≤ |(n : ℚ)| := by
      rw [abs_of_pos (by exact_mod_cast hn)]
      exact_mod_cast hn
    have hnearest : Binary64.ofInt n = Binary64.nearest false n := by
      have hne : (n : ℚ) ≠ 0 := by exact_mod_cast hn.ne'
      have hpos : ¬(n : ℚ) < 0 := by
        rw [not_lt]
        exact_mod_cast hn.le
      rw [Binary64.ofInt, Binary64.ofRat, if_neg hne, decide_eq_false hpos]
    rw [toBinary64, hnearest] at h
    rcases Binary64.nearest_cases false n with ⟨s, m, e, hx⟩ | hx
    · rw [hx] at h
      obtain rfl := Except.ok.inj h
      have hs : s = false := by
        rw [Binary64.nearest_of_ne_zero (abs_pos.1 (zero_lt_one.trans_le hone))] at hx
        split_ifs at hx <;> cases hx <;> rfl
      rw [hs, Binary64.isPositive_finite_iff, Binary64.finiteToRat_false]
      exact zero_lt_one.trans_le (Binary64.one_le_of_nearest_eq hone hx)
    · rw [hx] at h
      cases h

theorem isCanonical_toBinary64 {a : Binary64} (hx : x.IsCanonical) (h : x.toBinary64 = .ok a) :
    a.IsCanonical := by
  cases x with
  | float b =>
    obtain rfl := Except.ok.inj h
    exact hx
  | int n =>
    have hcanonical : (Binary64.ofInt n).IsCanonical := Binary64.isCanonical_nearest _ _
    rw [toBinary64] at h
    split at h
    · cases h
    · obtain rfl := Except.ok.inj h
      exact hcanonical

theorem ofInt_zero_eq_zero : (Binary64.ofInt 0).toExtended.eq (.rational 0) = true := by
  decide +kernel

theorem eq_zero_toBinary64 {a : Binary64} (hx : x.eq 0 = true) (h : x.toBinary64 = .ok a) :
    a.toExtended.eq (.rational 0) = true := by
  cases x with
  | float b =>
    obtain rfl := Except.ok.inj h
    exact hx
  | int n =>
    obtain rfl : n = 0 := of_decide_eq_true ((eq_int n 0).symm.trans hx)
    obtain rfl := Except.ok.inj h
    exact ofInt_zero_eq_zero

/-- The difference with a zero is above zero, unless the number is zero. -/
theorem zero_lt_sub (hx : IsNonneg x) (hne : x.eq 0 = false) (hz : z.eq 0 = true)
    (h : x.sub z = .ok y) : (0 : Number).lt y = true := by
  have hpos : (0 : Number).lt x = true :=
    hx.zero_lt_or_eq_zero.resolve_right (by simp [hne])
  cases z with
  | float b =>
    rw [sub_float] at h
    obtain ⟨a, ha, rfl⟩ := map_eq_ok_iff.1 h
    exact (isPositive_toBinary64 hpos ha).sub (isCanonical_toBinary64 hx.canonical ha) hz
  | int k =>
    obtain rfl : k = 0 := of_decide_eq_true ((eq_int k 0).symm.trans hz)
    cases x with
    | int n =>
      obtain rfl := Except.ok.inj h
      rw [zero_lt_int_iff] at hpos ⊢
      simpa using hpos
    | float a =>
      obtain rfl := Except.ok.inj h
      exact Binary64.IsPositive.sub hpos hx.canonical ofInt_zero_eq_zero

theorem not_zero_lt_sub (hx : x.eq 0 = true) (hz : z.eq 0 = true) (h : x.sub z = .ok y) :
    ¬(0 : Number).lt y = true := by
  cases z with
  | float b =>
    rw [sub_float] at h
    obtain ⟨a, ha, rfl⟩ := map_eq_ok_iff.1 h
    exact Binary64.not_isPositive_sub (eq_zero_toBinary64 hx ha) hz
  | int k =>
    obtain rfl : k = 0 := of_decide_eq_true ((eq_int k 0).symm.trans hz)
    cases x with
    | int n =>
      obtain rfl : n = 0 := of_decide_eq_true ((eq_int n 0).symm.trans hx)
      obtain rfl := Except.ok.inj h
      rw [zero_lt_int_iff]
      exact lt_irrefl 0
    | float a =>
      obtain rfl := Except.ok.inj h
      exact Binary64.not_isPositive_sub hx ofInt_zero_eq_zero

theorem exists_zero_sub (hx : IsNonneg x) :
    ∃ y, (0 : Number).sub x = .ok y ∧ ¬(0 : Number).lt y = true := by
  have hsign := hx.zero_lt_or_eq_zero
  cases x with
  | int n =>
    refine ⟨.int (0 - n), rfl, ?_⟩
    rw [zero_lt_int_iff]
    rcases hsign with h | h
    · have := zero_lt_int_iff.1 h
      omega
    · have : n = 0 := of_decide_eq_true ((eq_int n 0).symm.trans h)
      omega
  | float a => exact ⟨_, rfl, Binary64.not_isPositive_zero_sub hsign⟩

end Number

end StyleGauge
