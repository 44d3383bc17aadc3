import StyleGauge.Stylesheet.Basic

/-!
# Parsed stylesheets

The selectors of a stylesheet that comes from reading are analyzed ones. Whether they are well
formed or estimated, their specificity is made of counts, and they have an id exactly if an id
counts.
-/

namespace StyleGauge

/-! ### Selectors -/

namespace Selector

/-- A selector whose specificity is made of counts, and that has an id exactly if an id counts. -/
def IsCounted (s : Selector) : Prop :=
  ∃ ids classes elements, s.specificity = .ofCounts ids classes elements ∧
    (s.hasId = true ↔ ids ≠ 0)

theorem isCounted_ofNodes (raw : String) (nodes : List Node) : (ofNodes raw nodes).IsCounted := by
  have hids : (allNodes nodes).any Node.isId = true ↔ (allNodes nodes).countP Node.isId ≠ 0 := by
    rw [List.any_eq_true, ← Nat.pos_iff_ne_zero, List.countP_pos_iff]
  exact ⟨_, _, _, rfl, hids⟩

theorem isCounted_estimate (raw : String) : (estimate raw).IsCounted := by
  have hids : (Estimate.ids raw.toList != 0) = true ↔ Estimate.ids raw.toList ≠ 0 := by simp
  exact ⟨_, _, _, rfl, hids⟩

theorem isCounted_analyze (raw : String) : (analyze raw).IsCounted := by
  unfold analyze
  split
  · exact isCounted_ofNodes raw _
  · exact isCounted_estimate raw

theorem IsCounted.exists_score {s : Selector} (h : s.IsCounted) :
    ∃ score, s.specificity.score = .ok score := by
  obtain ⟨ids, classes, elements, hcounts, -⟩ := h
  rw [hcounts, Specificity.score_ofCounts]
  exact ⟨_, rfl⟩

theorem IsCounted.hasId_of_two_le {s : Selector} (h : s.IsCounted)
    (htwo : Number.le 2 s.specificity.ids = true) : s.hasId = true := by
  obtain ⟨ids, classes, elements, hcounts, hid⟩ := h
  have hle : Number.le 2 (.ofNat ids) = decide ((2 : Int) ≤ ids) := Number.le_int 2 ids
  rw [hcounts] at htwo
  have htwo := of_decide_eq_true (hle.symm.trans htwo)
  exact hid.2 (by omega)

end Selector

/-! ### Stylesheets -/

namespace Stylesheet

/-- A stylesheet as it comes from reading a source: what its text holds, or a failure. -/
inductive IsParsed : Stylesheet → Prop
  | text (source file : String) : IsParsed (.ofText source file)
  | failure (file message : String) : IsParsed (.failure file message)

/-- Every selector of a parsed stylesheet is an analyzed one. -/
theorem IsParsed.exists_eq_analyze {sheet : Stylesheet} (h : sheet.IsParsed) :
    ∀ r ∈ sheet.rules, ∀ s ∈ r.selectors, ∃ raw, s = Selector.analyze raw := by
  intro r hr s hs
  cases h with
  | failure => cases hr
  | text source file =>
    obtain ⟨flat, -, hflat⟩ := List.mem_filterMap.1 hr
    unfold ruleOf? at hflat
    split at hflat
    · cases hflat
    · obtain rfl := Option.some.inj hflat
      obtain ⟨branch, -, rfl⟩ := List.mem_map.1 hs
      exact ⟨_, rfl⟩

theorem IsParsed.isCounted {sheet : Stylesheet} (h : sheet.IsParsed) :
    ∀ r ∈ sheet.rules, ∀ s ∈ r.selectors, s.IsCounted := by
  intro r hr s hs
  obtain ⟨raw, rfl⟩ := h.exists_eq_analyze r hr s hs
  exact Selector.isCounted_analyze raw

end Stylesheet

end StyleGauge
