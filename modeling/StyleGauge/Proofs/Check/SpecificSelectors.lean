import StyleGauge.Proofs.Report.Gate

/-!
# Selectors with ids and high scores

The features of an analyzed selector agree with its specificity, whether it is well formed or
estimated: it has an id exactly if an id counts, and an attribute test counts as a class. So the
check on specific selectors finds every selector with an id and grades it by its ids, and whatever
else it finds has none.
-/

namespace StyleGauge

open Number (Fault)

/-! ### Features and counts -/

namespace Selector

/-- A selector of at least one compound, whose specificity is made of these counts, and whose
features agree with them. -/
structure AgreesWith (s : Selector) (ids classes elements : Nat) : Prop where
  one_le_depth : 1 ≤ s.depth
  specificity : s.specificity = .ofCounts ids classes elements
  hasId_iff : s.hasId = true ↔ 1 ≤ ids
  one_le_classes : s.hasAttribute = true → 1 ≤ classes

theorem any_eq_true_iff_one_le_countP {α : Type} {p : α → Bool} {l : List α} :
    l.any p = true ↔ 1 ≤ l.countP p := by
  rw [List.any_eq_true, Nat.one_le_iff_ne_zero, Nat.ne_zero_iff_zero_lt, List.countP_pos_iff]

/-- What has some feature is counted wherever all that has it counts. -/
theorem one_le_countP_of_any {α : Type} {p q : α → Bool} {l : List α} (h : l.any p = true)
    (hpq : ∀ x, p x = true → q x = true) : 1 ≤ l.countP q :=
  (any_eq_true_iff_one_le_countP.1 h).trans (List.countP_mono_left fun x _ => hpq x)

theorem agreesWith_ofNodes (raw : String) (nodes : List Node) :
    (ofNodes raw nodes).AgreesWith ((allNodes nodes).countP Node.isId)
      ((allNodes nodes).countP Node.countsAsClass)
      ((allNodes nodes).countP Node.countsAsElement) where
  one_le_depth := by
    simp only [ofNodes, depthOf]
    omega
  specificity := rfl
  hasId_iff := any_eq_true_iff_one_le_countP
  one_le_classes h := one_le_countP_of_any h fun node hnode => by
    cases node <;> simp_all [Node.isAttribute, Node.countsAsClass]

theorem one_le_elements_of_hasPseudoElement {raw : String} {nodes : List Node}
    (h : (ofNodes raw nodes).hasPseudoElement = true) :
    1 ≤ (allNodes nodes).countP Node.countsAsElement :=
  one_le_countP_of_any h fun node hnode => by
    cases node <;> simp_all [Node.isPseudoElement, Node.countsAsElement]

theorem agreesWith_estimate (raw : String) :
    (estimate raw).AgreesWith (Estimate.ids raw.toList)
      (Estimate.classNames raw.toList + Estimate.attributeTests raw.toList)
      (Estimate.elements raw.toList) where
  one_le_depth := by
    simp only [estimate, Estimate.depth]
    omega
  specificity := rfl
  hasId_iff := by
    simp only [estimate, bne_iff_ne]
    omega
  one_le_classes h := by
    simp only [estimate, bne_iff_ne] at h
    omega

/-- The features of a selector agree with its specificity. In one that is well formed
pseudo-elements count as elements. -/
theorem exists_agreesWith_analyze (raw : String) : ∃ ids classes elements,
    (analyze raw).AgreesWith ids classes elements ∧
      ((parse? raw.toList).isSome = true → (analyze raw).hasPseudoElement = true →
        1 ≤ elements) := by
  unfold analyze
  split
  · rename_i nodes hnodes
    exact ⟨_, _, _, agreesWith_ofNodes raw nodes,
      fun _ => one_le_elements_of_hasPseudoElement⟩
  · rename_i hnone
    exact ⟨_, _, _, agreesWith_estimate raw, by simp [hnone]⟩

end Selector

/-! ### Issues -/

namespace Issue

/-- The issues collected belong one by one, in order, to the candidates that are reported. -/
theorem forall₂_of_collect_eq_ok {α : Type} {candidates : List α}
    {issue? : α → Except Fault (Option Issue)} {issues : List Issue}
    (h : collect candidates issue? = .ok issues) {reported : α → Bool} {r : α → Issue → Prop}
    (hnone : ∀ c ∈ candidates, issue? c = .ok none → reported c = false)
    (hsome : ∀ c ∈ candidates, ∀ i, issue? c = .ok (some i) → reported c = true ∧ r c i) :
    List.Forall₂ r (candidates.filter reported) issues := by
  obtain ⟨found, hfound, hissues⟩ := bind_eq_ok_iff.1 h
  obtain rfl := pure_eq_ok_iff.1 hissues
  have hall := forall₂_of_mapM_eq_ok hfound
  clear h hissues hfound
  induction hall with
  | nil => exact .nil
  | @cons c o candidates later ho _ ih =>
    obtain ⟨hc, hcandidates⟩ := List.forall_mem_cons.1 hnone
    obtain ⟨hc', hcandidates'⟩ := List.forall_mem_cons.1 hsome
    cases o with
    | none =>
      rw [List.filter_cons_of_neg (by simp [hc ho]), List.filterMap_cons_none rfl]
      exact ih hcandidates hcandidates'
    | some i =>
      obtain ⟨hreported, hi⟩ := hc' i ho
      rw [List.filter_cons_of_pos hreported, List.filterMap_cons]
      exact .cons hi (ih hcandidates hcandidates')

end Issue

namespace Check.HighSpecificity

/-- Whether a selector is specific enough to be an issue: it has an id, or scores above the
limit. -/
def isTooSpecific (limit : Int) (s : Selector) : Bool :=
  s.hasId || match s.specificity.score with
    | .ok score => Number.lt (.int limit) score
    | .error _ => false

/-- The issue of a selector: it points to it, and is graded and answered by its ids, if it has
any. -/
structure IsIssueOf (c : Site × Selector) (i : Issue) : Prop where
  check : i.check = .highSpecificity
  evidence : i.evidence = {
    file := c.1.file
    selector := some c.2.raw
    line := c.1.rule.line
    column := c.1.rule.column
    specificity := some c.2.specificity }
  withId : c.2.hasId = true →
    (i.severity = .high ∨ i.severity = .critical) ∧ i.suggestions = idSuggestions
  withoutId : c.2.hasId = false →
    c.2.specificity.ids = .ofNat 0 ∧ i.suggestions = chainSuggestions

variable {limit : Int} {c : Site × Selector} {ids classes elements : Nat}

theorem severity_of_hasId (h : c.2.AgreesWith ids classes elements) (hid : c.2.hasId = true)
    {s : Severity} (hs : Severity.ofSpecificity c.2.specificity (.int limit) = .ok s) :
    s = .high ∨ s = .critical := by
  have hle : Number.le 1 c.2.specificity.ids = true := by
    rw [h.specificity]
    exact Selector.le_ofNat_of_ne_zero (Nat.one_le_iff_ne_zero.1 (h.hasId_iff.1 hid))
  unfold Severity.ofSpecificity at hs
  split_ifs at hs
  · exact .inr (pure_eq_ok_iff.1 hs).symm
  · exact .inl (pure_eq_ok_iff.1 hs).symm

theorem isTooSpecific_eq (h : c.2.AgreesWith ids classes elements) {score : Number}
    (hscore : c.2.specificity.score = .ok score) :
    isTooSpecific limit c.2 = !(score.le (.int limit) && !c.2.hasId) := by
  have hcounts := Specificity.score_ofCounts ids classes elements
  rw [← h.specificity, hscore] at hcounts
  obtain rfl := Except.ok.inj hcounts
  simp only [isTooSpecific, hscore, Number.lt_int, Number.le_int, Bool.not_and, Bool.not_not]
  rw [Bool.or_comm, ← decide_not]
  simp only [Int.not_le]

theorem of_issue?_eq_some (h : c.2.AgreesWith ids classes elements) {i : Issue}
    (hi : issue? limit c = .ok (some i)) : isTooSpecific limit c.2 = true ∧ IsIssueOf c i := by
  obtain ⟨score, hscore, hreport, s, hs, rfl⟩ := issue?_eq_some_iff.1 hi
  refine ⟨by rw [isTooSpecific_eq h hscore, hreport, Bool.not_false], rfl, rfl, ?_, ?_⟩
  · intro hid
    exact ⟨severity_of_hasId h hid hs, if_pos hid⟩
  · intro hid
    have hzero : ids = 0 := by
      have := h.hasId_iff.not.1 (by simp [hid])
      omega
    rw [h.specificity, hzero]
    exact ⟨rfl, if_neg (by simp [hid])⟩

theorem of_issue?_eq_none (h : c.2.AgreesWith ids classes elements)
    (hnone : issue? limit c = .ok none) : isTooSpecific limit c.2 = false := by
  obtain ⟨score, hscore, hreport⟩ := issue?_eq_none_iff.1 hnone
  rw [isTooSpecific_eq h hscore, hreport, Bool.not_true]

theorem exists_agreesWith_of_mem {sheets : List Stylesheet} (hparsed : ∀ s ∈ sheets, s.IsParsed) :
    ∀ c ∈ selectorSites sheets, ∃ ids classes elements, c.2.AgreesWith ids classes elements := by
  intro c hc
  simp only [selectorSites, sites, List.mem_flatMap, List.mem_map] at hc
  obtain ⟨_, ⟨s, hs, r, hr, rfl⟩, sel, hsel, rfl⟩ := hc
  obtain ⟨raw, rfl⟩ := (hparsed s hs).exists_eq_analyze r hr sel hsel
  obtain ⟨ids, classes, elements, h, -⟩ := Selector.exists_agreesWith_analyze raw
  exact ⟨ids, classes, elements, h⟩

/-- On either path the depth and the features of a selector agree with its specificity, and the
issues of the check on specific selectors are, in order, those of the selectors that have an id or
score above the limit, those with an id graded high or critical. The check has an outcome for all
stylesheets that a machine can hold. -/
theorem features_agree_and_ids_reported :
    (∀ raw : String, ∃ ids classes elements,
      (Selector.analyze raw).AgreesWith ids classes elements ∧
        ((Selector.parse? raw.toList).isSome = true →
          (Selector.analyze raw).hasPseudoElement = true → 1 ≤ elements)) ∧
    ∀ (sheets : List Stylesheet) (t : Thresholds), (∀ s ∈ sheets, s.IsParsed) →
      (∀ issues, run sheets t = .ok issues → List.Forall₂ IsIssueOf
        ((selectorSites sheets).filter fun c => isTooSpecific t.maxSpecificityScore c.2) issues) ∧
      ((∀ s ∈ sheets, Report.IsRead s) → sheets.length < 2 ^ 63 →
        ∃ issues, run sheets t = .ok issues) := by
  refine ⟨Selector.exists_agreesWith_analyze, fun sheets t hparsed => ⟨fun issues h => ?_, ?_⟩⟩
  · have hagrees := exists_agreesWith_of_mem hparsed
    refine Issue.forall₂_of_collect_eq_ok h (fun c hc hnone => ?_) (fun c hc i hi => ?_)
    · obtain ⟨ids, classes, elements, hcounts⟩ := hagrees c hc
      exact of_issue?_eq_none hcounts hnone
    · obtain ⟨ids, classes, elements, hcounts⟩ := hagrees c hc
      exact of_issue?_eq_some hcounts hi
  · intro hread hlength
    obtain ⟨issues, hissues, -⟩ := yields_run (Report.areSized_of_isRead hread hlength) t
    exact ⟨issues, hissues⟩

/-- An id, a chain of classes without one, and an id in an argument that is not well formed. -/
theorem features_agree_and_ids_reported_malformed :
    ∃ issues, run [.ofText "#a,u,.b.b.b,i:is(#c>)\x7b\x7d"] { maxSpecificityScore := 20 } =
        .ok issues ∧
      List.Forall₂ IsIssueOf ((selectorSites [.ofText "#a,u,.b.b.b,i:is(#c>)\x7b\x7d"]).filter
        fun c => isTooSpecific 20 c.2) issues ∧
      ((selectorSites [.ofText "#a,u,.b.b.b,i:is(#c>)\x7b\x7d"]).filter
        fun c => isTooSpecific 20 c.2).map (fun c => c.2.raw) = ["#a", ".b.b.b", "i:is(#c>)"] := by
  obtain ⟨-, hissues⟩ := features_agree_and_ids_reported
  have hparsed : ∀ s ∈ [Stylesheet.ofText "#a,u,.b.b.b,i:is(#c>)\x7b\x7d"], s.IsParsed := by
    simpa using .text _ _
  have hread : ∀ s ∈ [Stylesheet.ofText "#a,u,.b.b.b,i:is(#c>)\x7b\x7d"], Report.IsRead s := by
    simpa using .text _ (by decide +kernel)
  obtain ⟨hall, hexists⟩ := hissues _ { maxSpecificityScore := 20 } hparsed
  obtain ⟨issues, hrun⟩ := hexists hread (by decide)
  exact ⟨issues, hrun, hall issues hrun, by decide +kernel⟩

end Check.HighSpecificity

end StyleGauge
