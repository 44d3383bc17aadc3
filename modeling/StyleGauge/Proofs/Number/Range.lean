import Mathlib.Algebra.Order.Floor.Ring
import Mathlib.Data.Set.List
import StyleGauge.Number.Basic
import StyleGauge.Proofs.Number.Rounding
import StyleGauge.Proofs.Outcome

/-!
# Numbers within a range

Arithmetic with numbers up to some power of two has results, and these are within a range again. A
running sum does not leave its range, however many terms it has, if the terms are small enough to
be absorbed at the upper end of the range.
-/

namespace StyleGauge

open Number (Fault)

namespace Binary64

variable {j k : Nat} {x y : Binary64}

theorem abs_finiteToRat (s : Bool) (m : Nat) (e : Int) :
    |finiteToRat s m e| = (m : ℚ) * 2 ^ e := by
  have hnonneg : (0 : ℚ) ≤ (m : ℚ) * 2 ^ e := by positivity
  unfold finiteToRat
  rw [twoPow_eq_zpow]
  cases s
  · exact abs_of_nonneg hnonneg
  · exact (abs_neg _).trans (abs_of_nonneg hnonneg)

theorem isWithin_ofRat {q : ℚ} (hk : k ≤ 1023) (hle : |q| ≤ 2 ^ k) (negativeZero : Bool) :
    IsWithin k (ofRat q negativeZero) :=
  isWithin_nearest hk hle _

theorem isWithin_ofInt {n : Int} (hk : k ≤ 1023) (hle : |n| ≤ 2 ^ k) : IsWithin k (ofInt n) := by
  refine isWithin_ofRat hk ?_ _
  exact_mod_cast hle

theorem IsWithin.add (hx : IsWithin k x) (hy : IsWithin k y) (hk : k + 1 ≤ 1023) :
    IsWithin (k + 1) (x.add y) := by
  obtain ⟨s, m, e, rfl, hx⟩ := hx
  obtain ⟨t, n, f, rfl, hy⟩ := hy
  rw [← abs_finiteToRat s] at hx
  rw [← abs_finiteToRat t] at hy
  refine isWithin_ofRat hk ?_ _
  calc |finiteToRat s m e + finiteToRat t n f| ≤ |finiteToRat s m e| + |finiteToRat t n f| :=
        abs_add_le _ _
    _ ≤ 2 ^ k + 2 ^ k := add_le_add hx hy
    _ = 2 ^ (k + 1) := by ring

/-- A term that is small enough does not lead out of the range. -/
theorem IsWithin.add_small (hx : IsWithin k x) (hy : IsWithin j y) (hjk : j + 54 ≤ k)
    (hk : k ≤ 1023) : IsWithin k (x.add y) := by
  obtain ⟨s, m, e, rfl, hx⟩ := hx
  obtain ⟨t, n, f, rfl, hy⟩ := hy
  rw [← abs_finiteToRat s] at hx
  rw [← abs_finiteToRat t] at hy
  refine isWithin_nearest_add hk hjk ?_ _
  exact (abs_add_le _ _).trans (add_le_add hx hy)

theorem IsWithin.mul (hx : IsWithin k x) (hy : IsWithin j y) (hk : k + j ≤ 1023) :
    IsWithin (k + j) (x.mul y) := by
  obtain ⟨s, m, e, rfl, hx⟩ := hx
  obtain ⟨t, n, f, rfl, hy⟩ := hy
  rw [← abs_finiteToRat s] at hx
  rw [← abs_finiteToRat t] at hy
  refine isWithin_ofRat hk ?_ _
  rw [abs_mul, pow_add]
  exact mul_le_mul hx hy (abs_nonneg _) (by positivity)

theorem IsWithin.div {t : Bool} {n : Nat} {f : Int} (hx : IsWithin k x)
    (hy : 1 ≤ (n : ℚ) * 2 ^ f) (hk : k ≤ 1023) : IsWithin k (x.div (finite t n f)) := by
  obtain ⟨s, m, e, rfl, hx⟩ := hx
  rw [← abs_finiteToRat s] at hx
  rw [← abs_finiteToRat t] at hy
  have hn : n ≠ 0 := by
    rintro rfl
    norm_num [abs_finiteToRat] at hy
  have hdiv : (finite s m e).div (finite t n f) =
      ofRat (finiteToRat s m e / finiteToRat t n f) (s != t) := if_neg hn
  rw [hdiv]
  refine isWithin_ofRat hk ?_ _
  rw [abs_div]
  exact (div_le_self (abs_nonneg _) hy).trans hx

end Binary64

namespace Number

/-- A number of at most `2 ^ k`, whatever its sign. -/
def IsWithin (k : Nat) : Number → Prop
  | int n => |n| ≤ 2 ^ k
  | float x => x.IsWithin k

variable {j k : Nat} {x y : Number}

theorem IsWithin.mono (h : IsWithin j x) (hjk : j ≤ k) : IsWithin k x := by
  cases x with
  | int n => exact le_trans (show |n| ≤ 2 ^ j from h) (pow_le_pow_right₀ (by norm_num) hjk)
  | float x => exact Binary64.IsWithin.mono h hjk

theorem isWithin_int {n : Int} (h : |n| ≤ 2 ^ j) (hjk : j ≤ k) : IsWithin k (.int n) :=
  IsWithin.mono (x := .int n) h hjk

theorem isWithin_ofNat {n : Nat} (h : n ≤ 2 ^ k) : IsWithin k (.ofNat n) := by
  show |(n : Int)| ≤ 2 ^ k
  rw [abs_of_nonneg (Int.natCast_nonneg n)]
  exact_mod_cast h

theorem isWithin_float_ofRat {q : ℚ} (hk : k ≤ 1023) (hle : |q| ≤ 2 ^ k) :
    IsWithin k (.float (Binary64.ofRat q)) :=
  Binary64.isWithin_ofRat hk hle _

theorem IsWithin.min (hx : IsWithin k x) (hy : IsWithin k y) : IsWithin k (x.min y) := by
  unfold Number.min
  split_ifs
  · exact hy
  · exact hx

theorem IsWithin.max (hx : IsWithin k x) (hy : IsWithin k y) : IsWithin k (x.max y) := by
  unfold Number.max
  split_ifs
  · exact hy
  · exact hx

/-! ### Arithmetic -/

theorem IsWithin.toBinary64 (hx : IsWithin k x) (hk : k ≤ 1023) :
    Yields x.toBinary64 (Binary64.IsWithin k) := by
  cases x with
  | float x => exact yields_ok hx
  | int n =>
    obtain ⟨s, m, e, heq, hle⟩ := Binary64.isWithin_ofInt hk hx
    refine ⟨.finite s m e, ?_, s, m, e, rfl, hle⟩
    rw [Number.toBinary64, heq]

theorem IsWithin.mixed {i : Nat} {onInt : Int → Int → Int}
    {onFloat : Binary64 → Binary64 → Binary64} (hx : IsWithin k x) (hy : IsWithin j y)
    (hk : k ≤ 1023) (hj : j ≤ 1023)
    (hint : ∀ m n : Int, |m| ≤ 2 ^ k → |n| ≤ 2 ^ j → |onInt m n| ≤ 2 ^ i)
    (hfloat : ∀ a b, Binary64.IsWithin k a → Binary64.IsWithin j b →
      Binary64.IsWithin i (onFloat a b)) :
    Yields (Number.mixed onInt onFloat x y) (IsWithin i) := by
  have hmixed : Yields (do return Number.float (onFloat (← x.toBinary64) (← y.toBinary64)))
      (IsWithin i) := by
    refine (hx.toBinary64 hk).bind fun a ha => ?_
    refine (hy.toBinary64 hj).bind fun b hb => ?_
    exact yields_pure (hfloat a b ha hb)
  cases x with
  | int m =>
    cases y with
    | int n => exact yields_ok (hint m n hx hy)
    | float y => exact hmixed
  | float x => exact hmixed

theorem IsWithin.add (hx : IsWithin k x) (hy : IsWithin k y) (hk : k + 1 ≤ 1023) :
    Yields (x.add y) (IsWithin (k + 1)) := by
  refine hx.mixed hy (by omega) (by omega) (fun m n hm hn => ?_) fun a b ha hb => ha.add hb hk
  calc |m + n| ≤ |m| + |n| := abs_add_le m n
    _ ≤ 2 ^ k + 2 ^ k := add_le_add hm hn
    _ = 2 ^ (k + 1) := by ring

theorem IsWithin.mul (hx : IsWithin k x) (hy : IsWithin j y) (hk : k + j ≤ 1023) :
    Yields (x.mul y) (IsWithin (k + j)) := by
  refine hx.mixed hy (by omega) (by omega) (fun m n hm hn => ?_) fun a b ha hb => ha.mul hb hk
  rw [abs_mul, pow_add]
  exact mul_le_mul hm hn (abs_nonneg n) (by positivity)

/-- The quotient of two integers is not greater than the first, unless the second is zero. -/
theorem yields_div_int {m n : Int} (hm : |m| ≤ 2 ^ k) (hn : n ≠ 0) (hk : k ≤ 1023) :
    Yields ((int m).div (int n)) (IsWithin k) := by
  have hle : |(m / n : ℚ)| ≤ 2 ^ k := by
    have hone : (1 : ℚ) ≤ |(n : ℚ)| := by exact_mod_cast Int.one_le_abs hn
    rw [abs_div]
    refine (div_le_self (abs_nonneg _) hone).trans ?_
    exact_mod_cast hm
  obtain ⟨s, a, e, heq, hbound⟩ := Binary64.isWithin_ofRat hk hle (m = 0 && n < 0)
  refine ⟨.float (.finite s a e), ?_, s, a, e, rfl, hbound⟩
  rw [Number.div, if_neg hn, heq]

theorem IsWithin.div_int {n : Int} (hx : IsWithin k x) (hn : n ≠ 0) (hj : |n| ≤ 2 ^ j)
    (hk : k ≤ 1023) (hj' : j ≤ 1023) : Yields (x.div (int n)) (IsWithin k) := by
  cases x with
  | int m => exact yields_div_int hx hn hk
  | float x =>
    have hone : (1 : ℚ) ≤ |(n : ℚ)| := by exact_mod_cast Int.one_le_abs hn
    obtain ⟨t, b, f, heq, -⟩ := Binary64.isWithin_ofInt hj' hj
    have hb : 1 ≤ (b : ℚ) * 2 ^ f := Binary64.one_le_of_nearest_eq hone heq
    have hne : Binary64.finiteToRat t b f ≠ 0 := by
      rw [← abs_pos, Binary64.abs_finiteToRat]
      exact zero_lt_one.trans_le hb
    refine ⟨.float (x.div (.finite t b f)), ?_, Binary64.IsWithin.div hx hb hk⟩
    have hconvert : (int n).toBinary64 = .ok (.finite t b f) := by
      rw [Number.toBinary64, heq]
    have hdiv : (float x).div (int n) = (int n).toBinary64 >>= fun b =>
        if b.toExtended.eq (.rational 0) then .error .floatDivisionByZero
        else pure (float (x.div b)) := rfl
    rw [hdiv, hconvert]
    exact if_neg (by simpa [Binary64.toExtended] using hne)

/-! ### Rounding -/

theorem isWithin_half : IsWithin 0 half :=
  isWithin_float_ofRat (by norm_num) (by norm_num [Rat.mkRat_eq_div, abs_of_pos])

/-- The floor of a number is at most one further from zero. -/
theorem IsWithin.floor (hx : IsWithin k x) : Yields x.floor fun n => |n| ≤ 2 ^ k := by
  cases x with
  | int n => exact yields_ok hx
  | float x =>
    obtain ⟨s, m, e, rfl, hle⟩ := hx
    rw [← Binary64.abs_finiteToRat s, abs_le] at hle
    refine yields_ok (abs_le.2 ⟨?_, ?_⟩)
    · exact Rat.le_floor_iff.2 (by exact_mod_cast hle.1)
    · have := (Rat.floor_le (Binary64.finiteToRat s m e)).trans hle.2
      exact_mod_cast this

theorem IsWithin.roundToInt (hx : IsWithin k x) (hk : k + 1 ≤ 1023) :
    Yields x.roundToInt fun n => |n| ≤ 2 ^ (k + 1) :=
  (hx.add (isWithin_half.mono (Nat.zero_le k)) hk).bind fun _ h => h.floor

theorem IsWithin.toIntegerIfWhole (hx : IsWithin k x) : IsWithin k x.toIntegerIfWhole := by
  cases x with
  | int n => exact hx
  | float x =>
    obtain ⟨s, m, e, rfl, hle⟩ := hx
    simp only [Number.toIntegerIfWhole]
    split_ifs
    · obtain ⟨n, hn, hbound⟩ := IsWithin.floor (x := .float (.finite s m e)) ⟨s, m, e, rfl, hle⟩
      obtain rfl := Except.ok.inj hn
      exact hbound
    · exact ⟨s, m, e, rfl, hle⟩

/-- Rounding to two places needs room for the factor of a hundred. -/
theorem IsWithin.roundHalfUp_two (hx : IsWithin k x) (hk : k + 8 ≤ 1023) :
    Yields (x.roundHalfUp 2) (IsWithin (k + 8)) := by
  have hscale : scale 2 = int 100 := by decide
  have hfactor : IsWithin 7 (int 100) := by
    show |(100 : Int)| ≤ 2 ^ 7
    norm_num
  unfold Number.roundHalfUp
  rw [if_neg (by norm_num), hscale]
  refine (hx.mul hfactor (by omega)).bind fun scaled hscaled => ?_
  refine (hscaled.roundToInt (by omega)).bind fun rounded hrounded => ?_
  refine (yields_div_int hrounded (by norm_num) (by omega)).bind fun quotient hquotient => ?_
  exact yields_pure hquotient.toIntegerIfWhole

/-! ### Running sums -/

/-- A number of at most `2 ^ k` that integers of at most `b` altogether may be added to. -/
def HasRoom (k b : Nat) : Number → Prop
  | int n => |n| + b ≤ 2 ^ k
  | float x => x.IsWithin k

theorem HasRoom.isWithin {b : Nat} (h : HasRoom k b x) : IsWithin k x := by
  cases x with
  | int n =>
    have : |n| + (b : Int) ≤ 2 ^ k := h
    show |n| ≤ 2 ^ k
    omega
  | float x => exact h

theorem IsWithin.hasRoom {b : Nat} (h : IsWithin k x) (hb : b ≤ 2 ^ k) : HasRoom (k + 1) b x := by
  cases x with
  | int n =>
    have hn : |n| ≤ 2 ^ k := h
    have hb : (b : Int) ≤ 2 ^ k := by exact_mod_cast hb
    show |n| + (b : Int) ≤ 2 ^ (k + 1)
    rw [pow_succ]
    omega
  | float x => exact IsWithin.mono (x := .float x) h (Nat.le_succ k)

/-- A small term takes as much room as it may be great. -/
theorem HasRoom.add {b : Nat} (hx : HasRoom k (b + 2 ^ j) x) (hy : IsWithin j y)
    (hjk : j + 54 ≤ k) (hk : k ≤ 1023) : Yields (x.add y) (HasRoom k b) := by
  have hfloat : Yields (do return Number.float ((← x.toBinary64).add (← y.toBinary64)))
      (HasRoom k b) := by
    refine (hx.isWithin.toBinary64 hk).bind fun a ha => ?_
    refine (hy.toBinary64 (by omega)).bind fun c hc => ?_
    exact yields_pure (ha.add_small hc hjk hk)
  cases x with
  | int m =>
    cases y with
    | int n =>
      have hm : |m| + ((b + 2 ^ j : Nat) : Int) ≤ 2 ^ k := hx
      have hn : |n| ≤ 2 ^ j := hy
      have := abs_add_le m n
      push_cast at hm
      refine yields_ok ?_
      show |m + n| + (b : Int) ≤ 2 ^ k
      linarith
    | float y => exact hfloat
  | float x => exact hfloat

/-- A running sum of small terms stays within its range. -/
theorem HasRoom.foldlM {α : Type} {f : Number → α → Except Fault Number} {l : List α}
    (hf : ∀ a ∈ l, ∀ b acc, HasRoom k (b + 2 ^ j) acc → Yields (f acc a) (HasRoom k b))
    (hx : HasRoom k (l.length * 2 ^ j) x) : Yields (l.foldlM f x) (IsWithin k) := by
  refine (yields_foldlM (fun n acc => HasRoom k (n * 2 ^ j) acc) ?_ hx).mono fun _ h => h.isWithin
  intro a ha n acc hacc
  refine hf a ha (n * 2 ^ j) acc ?_
  rwa [Nat.succ_mul] at hacc

theorem yields_sum {numbers : List Number} (h : ∀ y ∈ numbers, IsWithin j y)
    (hlength : numbers.length * 2 ^ j ≤ 2 ^ k) (hjk : j + 54 ≤ k) (hk : k ≤ 1023) :
    Yields (Number.sum numbers) (IsWithin k) := by
  refine HasRoom.foldlM (fun y hy b acc hacc => hacc.add (h y hy) hjk hk) ?_
  show |(0 : Int)| + ((numbers.length * 2 ^ j : Nat) : Int) ≤ 2 ^ k
  rw [abs_zero, zero_add]
  exact_mod_cast hlength

/-- The mean of small numbers, however many. -/
theorem yields_average {numbers : List Number} (h : ∀ y ∈ numbers, IsWithin j y)
    (hlength : numbers.length * 2 ^ j ≤ 2 ^ k) (hjk : j + 54 ≤ k) (hk : k ≤ 1023) :
    Yields (Number.average numbers) (IsWithin k) := by
  unfold Number.average
  split_ifs with hempty
  · exact yields_ok (by simp [IsWithin])
  · refine (yields_sum h hlength hjk hk).bind fun total htotal => ?_
    have hne : numbers.length ≠ 0 := by simpa using hempty
    have hcount : numbers.length ≤ 2 ^ k :=
      (Nat.le_mul_of_pos_right _ (Nat.two_pow_pos j)).trans hlength
    exact htotal.div_int (by exact_mod_cast hne) (isWithin_ofNat hcount) hk hk

/-! ### Integers -/

theorem exists_eq_map_int {xs : List Number} (h : ∀ x ∈ xs, ∃ n, x = int n) :
    ∃ ns : List Int, xs = ns.map int := by
  have hrange : xs ∈ Set.range (List.map int) := by
    rw [Set.range_list_map]
    intro x hx
    obtain ⟨n, rfl⟩ := h x hx
    exact ⟨n, rfl⟩
  obtain ⟨ns, hns⟩ := hrange
  exact ⟨ns, hns.symm⟩

end Number

end StyleGauge
