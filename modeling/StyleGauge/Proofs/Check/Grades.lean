import Mathlib.Algebra.Order.Ring.Unbundled.Rat
import Mathlib.Tactic.Common
import StyleGauge.Issue.Severity

/-!
# Grades of integers

Depths, counts and their thresholds are integers, and integers are graded without rounding.
-/

namespace StyleGauge

theorem Number.le_int_iff {x : Number} {n : Int} : x.le (.int n) = true ↔
    x.toExtended = .below ∨ ∃ q, x.toExtended = .rational q ∧ q ≤ n := by
  show (x.toExtended.lt (.rational n) || x.toExtended.eq (.rational n)) = true ↔ _
  cases x.toExtended with
  | below | above | undefined => simp [Extended.lt, Extended.eq]
  | rational q => simp [le_iff_lt_or_eq]

theorem Number.le_int_trans {x : Number} {m n : Int} (h : x.le (.int m) = true) (hmn : m ≤ n) :
    x.le (.int n) = true := by
  rw [le_int_iff] at h ⊢
  refine h.imp_right ?_
  rintro ⟨q, hq, hle⟩
  exact ⟨q, hq, hle.trans (by exact_mod_cast hmn)⟩

namespace Severity

theorem ofDepth_int (depth limit : Int) : ofDepth (.int depth) (.int limit) =
    .ok (if limit + 4 ≤ depth then critical else if limit + 2 ≤ depth then high else medium) := by
  have hfour : Number.le 4 (.int (depth - limit)) = decide (limit + 4 ≤ depth) := by
    rw [show (4 : Number) = .int 4 from rfl, Number.le_int, decide_eq_decide]
    omega
  have htwo : Number.le 2 (.int (depth - limit)) = decide (limit + 2 ≤ depth) := by
    rw [show (2 : Number) = .int 2 from rfl, Number.le_int, decide_eq_decide]
    omega
  rw [ofDepth, Number.sub_int]
  show Except.ok _ = _
  simp only [hfour, htwo, decide_eq_true_eq]

theorem ofRepetition_int (count minimum : Int) : ofRepetition (.int count) (.int minimum) =
    .ok (if minimum * 5 ≤ count then high else if minimum * 3 ≤ count then medium else low) := by
  show (do
    if (Number.int (minimum * 5)).le (.int count) then return high
    if (Number.int (minimum * 3)).le (.int count) then return medium
    return low) = _
  simp only [Number.le_int, decide_eq_true_eq]
  split_ifs <;> rfl

theorem ofOverrides_int (count spread : Int) : ofOverrides (.int count) (.int spread) =
    if 15 ≤ count ∧ 50 ≤ spread then high else if 10 ≤ count ∨ 30 ≤ spread then medium
    else low := by
  have hle (m n : Int) : Number.le (.int m) (.int n) = decide (m ≤ n) := Number.le_int m n
  show (if Number.le (.int 15) (.int count) && Number.le (.int 50) (.int spread) then high
    else if Number.le (.int 10) (.int count) || Number.le (.int 30) (.int spread) then medium
    else low) = _
  simp only [hle, Bool.and_eq_true, Bool.or_eq_true, decide_eq_true_eq]

end Severity

end StyleGauge
