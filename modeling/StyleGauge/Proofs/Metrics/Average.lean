import StyleGauge.Metrics.Basic
import StyleGauge.Proofs.Metrics.Maximum

/-!
# Averages

Where averages are computed they are also computed with zeros among the numbers. The average of
integers that come in several lists is computed if that of each list is.
-/

namespace StyleGauge

open Binary64 (Roundable)
open Number (Fault)

/-! ### Means -/

section

variable {xs ys : List Number}

theorem meanDepth_nil : meanDepth [] = .ok 0 := by
  decide +kernel

theorem meanDepth_of_ne_nil (h : xs ≠ []) :
    meanDepth xs = Number.sum xs >>= fun total => total.roundedMean xs.length := by
  have hempty : ¬xs.isEmpty = true := by simpa using h
  rw [meanDepth, Number.average, if_neg hempty, bind_assoc]
  rfl

/-- The mean is computed with zeros inserted if it is computed without them. -/
theorem exists_meanDepth_of_inserted (h : Listing.Inserted (· = 0) xs ys)
    (hlength : ys.length ≤ 2 ^ 63) (hxs : ∃ r, meanDepth xs = .ok r) :
    ∃ r, meanDepth ys = .ok r := by
  by_cases hys : ys = []
  · exact ⟨0, by rw [hys, meanDepth_nil]⟩
  rw [meanDepth_of_ne_nil hys]
  have hcount : ys.length ≠ 0 := mt List.length_eq_zero_iff.1 hys
  by_cases hnil : xs = []
  · -- there are zeros only
    have hsum : Number.sum xs = .ok (.int 0) := by
      rw [hnil]
      rfl
    obtain ⟨total, htotal, rfl | ⟨_, _, ⟨⟩, -⟩⟩ := Number.exists_sum_of_inserted h hsum
    rw [htotal, ok_bind, Number.exists_roundedMean_int_iff hcount]
    simpa using Binary64.roundable_zero
  · rw [meanDepth_of_ne_nil hnil] at hxs
    obtain ⟨r, hr⟩ := hxs
    obtain ⟨total, htotal, hr⟩ := bind_eq_ok_iff.1 hr
    obtain ⟨total', htotal', hsame⟩ := Number.exists_sum_of_inserted h htotal
    rw [htotal']
    exact Number.exists_roundedMean_of_le hsame (mt List.length_eq_zero_iff.1 hnil) h.length_le
      hlength ⟨r, hr⟩

theorem exists_meanDepth_int_iff {ns : List Int} :
    (∃ r, meanDepth (ns.map .int) = .ok r) ↔ Roundable (|(ns.sum : ℚ)| / ns.length) := by
  by_cases hns : ns = []
  · subst hns
    refine iff_of_true ⟨0, meanDepth_nil⟩ ?_
    simpa using Binary64.roundable_zero
  · have hcount : (ns.map Number.int).length ≠ 0 := by simpa using hns
    rw [meanDepth_of_ne_nil (by simpa using hns), Number.sum_map_int, ok_bind,
      Number.exists_roundedMean_int_iff hcount, List.length_map]

/-- The mean of integers in several lists is computed if that of each list is. -/
theorem exists_meanDepth_flatten {xss : List (List Number)}
    (hint : ∀ xs ∈ xss, ∃ ns : List Int, xs = ns.map .int)
    (h : ∀ xs ∈ xss, ∃ r, meanDepth xs = .ok r) : ∃ r, meanDepth xss.flatten = .ok r := by
  have hmean : ∃ ns : List Int, xss.flatten = ns.map .int ∧
      Roundable (|(ns.sum : ℚ)| / ns.length) := by
    induction xss with
    | nil => exact ⟨[], rfl, by simpa using Binary64.roundable_zero⟩
    | cons xs xss ih =>
      obtain ⟨ns, rfl⟩ := hint xs (by simp)
      have hns := exists_meanDepth_int_iff.1 (h _ List.mem_cons_self)
      obtain ⟨ms, hflatten, hms⟩ := ih (fun ys hys => hint ys (List.mem_cons_of_mem _ hys))
        fun ys hys => h ys (List.mem_cons_of_mem _ hys)
      refine ⟨ns ++ ms, by rw [List.flatten_cons, hflatten, List.map_append], ?_⟩
      have hempty : ∀ ks : List Int, (ks.length : ℚ) = 0 → |(ks.sum : ℚ)| = 0 := by
        intro ks hks
        have hnil : ks = [] := List.length_eq_zero_iff.1 (by exact_mod_cast hks)
        simp [hnil]
      have htogether := hns.add_div_add (by positivity) (by positivity) (abs_nonneg _)
        (abs_nonneg _) (hempty ns) (hempty ms) hms
      rw [List.sum_append, List.length_append, Int.cast_add, Nat.cast_add]
      refine htogether.mono (by positivity) ?_
      exact div_le_div_of_nonneg_right (abs_add_le _ _) (by positivity)
  obtain ⟨ns, hflatten, hns⟩ := hmean
  rw [hflatten]
  exact exists_meanDepth_int_iff.2 hns

end

/-! ### Average specificities -/

namespace Specificity

variable {xs ys : List Specificity}

theorem average_eq (xs : List Specificity) : average xs = do
    return ⟨← meanDepth (xs.map ids), ← meanDepth (xs.map classes),
      ← meanDepth (xs.map elements)⟩ := by
  cases xs with
  | nil =>
    simp only [List.map_nil, meanDepth_nil]
    rfl
  | cons x xs => rfl

theorem exists_average_iff : (∃ a, average xs = .ok a) ↔
    (∃ r, meanDepth (xs.map ids) = .ok r) ∧ (∃ r, meanDepth (xs.map classes) = .ok r) ∧
      ∃ r, meanDepth (xs.map elements) = .ok r := by
  rw [average_eq]
  constructor
  · rintro ⟨a, h⟩
    obtain ⟨i, hi, h⟩ := bind_eq_ok_iff.1 h
    obtain ⟨c, hc, h⟩ := bind_eq_ok_iff.1 h
    obtain ⟨e, he, -⟩ := bind_eq_ok_iff.1 h
    exact ⟨⟨i, hi⟩, ⟨c, hc⟩, ⟨e, he⟩⟩
  · rintro ⟨⟨i, hi⟩, ⟨c, hc⟩, ⟨e, he⟩⟩
    rw [hi, hc, he]
    exact ⟨⟨i, c, e⟩, rfl⟩

/-- The average is computed with zeros inserted if it is computed without them. -/
theorem exists_average_of_inserted (h : Listing.Inserted (· = zero) xs ys)
    (hlength : ys.length ≤ 2 ^ 63) (hxs : ∃ a, average xs = .ok a) : ∃ a, average ys = .ok a := by
  have hcomponent : ∀ get : Specificity → Number, get zero = 0 →
      (∃ r, meanDepth (xs.map get) = .ok r) → ∃ r, meanDepth (ys.map get) = .ok r := by
    intro get hget
    refine exists_meanDepth_of_inserted (h.map ?_) (by rwa [List.length_map])
    rintro _ rfl
    exact hget
  obtain ⟨hids, hclasses, helements⟩ := exists_average_iff.1 hxs
  exact exists_average_iff.2
    ⟨hcomponent ids rfl hids, hcomponent classes rfl hclasses, hcomponent elements rfl helements⟩

/-- The average of whole counts in several lists is computed if that of each list is. -/
theorem exists_average_flatten {xss : List (List Specificity)}
    (hcounted : ∀ xs ∈ xss, ∀ x ∈ xs, IsCounted x) (h : ∀ xs ∈ xss, ∃ a, average xs = .ok a) :
    ∃ a, average xss.flatten = .ok a := by
  have hcomponent : ∀ get : Specificity → Number, (∀ x, IsCounted x → ∃ n, get x = .int n) →
      (∀ xs ∈ xss, ∃ r, meanDepth (xs.map get) = .ok r) →
      ∃ r, meanDepth (xss.flatten.map get) = .ok r := by
    intro get hget hmeans
    rw [List.map_flatten]
    refine exists_meanDepth_flatten ?_ (List.forall_mem_map.2 hmeans)
    intro ys hys
    obtain ⟨xs, hxs, rfl⟩ := List.mem_map.1 hys
    exact Number.exists_eq_map_int (List.forall_mem_map.2 fun x hx => hget x (hcounted xs hxs x hx))
  have hmeans := fun xs hxs => exists_average_iff.1 (h xs hxs)
  refine exists_average_iff.2 ⟨hcomponent ids ?_ fun xs hxs => (hmeans xs hxs).1,
    hcomponent classes ?_ fun xs hxs => (hmeans xs hxs).2.1,
    hcomponent elements ?_ fun xs hxs => (hmeans xs hxs).2.2⟩
  · rintro _ ⟨i, c, e, rfl⟩
    exact ⟨i, rfl⟩
  · rintro _ ⟨i, c, e, rfl⟩
    exact ⟨c, rfl⟩
  · rintro _ ⟨i, c, e, rfl⟩
    exact ⟨e, rfl⟩

end Specificity

end StyleGauge
