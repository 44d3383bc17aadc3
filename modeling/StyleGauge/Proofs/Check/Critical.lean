import StyleGauge.Proofs.Check.Found
import StyleGauge.Proofs.Listing
import StyleGauge.Proofs.Stylesheet.Parsed

/-!
# Critical issues

Three checks find critical issues: a selector far too deep, a selector with two ids, and a file with
many times the important declarations that it may have. All other issues are less serious.
-/

namespace StyleGauge

open Number (Fault)

/-! ### Grades -/

namespace Severity

theorem ofDepth_eq_critical_iff {depth limit : Int} :
    ofDepth (.int depth) (.int limit) = .ok critical ↔ limit + 4 ≤ depth := by
  have hfour : Number.le 4 (.int (depth - limit)) = decide (4 ≤ depth - limit) :=
    Number.le_int 4 _
  rw [ofDepth, Number.sub_int, bind_eq_ok_iff]
  simp only [Except.ok.injEq, exists_eq_left', pure_eq_ok_iff, hfour, decide_eq_true_iff]
  split_ifs with hcritical hhigh
  · simp only [true_iff]
    omega
  · simp only [false_iff]
    omega
  · simp only [false_iff]
    omega

/-- Two ids are critical, and nothing else in a specificity is. -/
theorem ofSpecificity_eq_critical_iff {s : Specificity} {limit : Number} :
    ofSpecificity s limit = .ok critical ↔ Number.le 2 s.ids = true := by
  unfold ofSpecificity
  split_ifs with htwo hone
  · simp [pure_eq_ok_iff, htwo]
  · simp [pure_eq_ok_iff, htwo]
  · refine iff_of_false ?_ htwo
    simp only [bind_eq_ok_iff, not_exists, not_and]
    intro score _ double _
    split_ifs
    · simp [pure_eq_ok_iff]
    · rw [bind_eq_ok_iff]
      rintro ⟨more, -, h⟩
      split_ifs at h <;> simp [pure_eq_ok_iff] at h

theorem ofRepetition_ne_critical (count minimum : Number) :
    ofRepetition count minimum ≠ .ok critical := by
  unfold ofRepetition
  simp only [ne_eq, bind_eq_ok_iff, not_exists, not_and]
  intro most _
  split_ifs
  · simp [pure_eq_ok_iff]
  · rw [bind_eq_ok_iff]
    rintro ⟨many, -, h⟩
    split_ifs at h <;> simp [pure_eq_ok_iff] at h

theorem ofLayoutRisk_ne_critical (risk : Number) : ofLayoutRisk risk ≠ critical := by
  unfold ofLayoutRisk
  split_ifs <;> simp

theorem ofOverrides_ne_critical (count spread : Number) : ofOverrides count spread ≠ critical := by
  unfold ofOverrides
  split_ifs <;> simp

theorem ofMissingLayers_ne_critical (rules important : Number) :
    ofMissingLayers rules important ≠ critical := by
  unfold ofMissingLayers
  split_ifs <;> simp

end Severity

/-! ### Files -/

/-- How many important declarations the stylesheets with one file name have. -/
def importantIn (sheets : List Stylesheet) (file : String) : Nat :=
  Check.MissingLayers.totalImportant (sheets.filter fun s => s.file = file)

theorem filter_sites (sheets : List Stylesheet) (file : String) :
    (sites sheets).filter (fun s => s.file = file) =
      sites (sheets.filter fun s => s.file = file) := by
  induction sheets with
  | nil => rfl
  | cons s sheets ih =>
    rw [sites_cons, List.filter_append, ih, List.filter_cons, List.filter_map]
    by_cases h : s.file = file <;> simp [h, Function.comp_def]

namespace Check

variable {sheets : List Stylesheet} {t : Thresholds} {issues : List Issue}

namespace ImportantAbuse

theorem total_sites (sheets : List Stylesheet) :
    total (sites sheets) = MissingLayers.totalImportant sheets := by
  induction sheets with
  | nil => rfl
  | cons s sheets ih =>
    rw [total, sites_cons, List.map_append, Listing.total_append, List.map_map]
    exact congrArg (_ + ·) ih

/-- Rules without important declarations add nothing. -/
theorem total_filter_ne_zero (rules : List Site) :
    total (rules.filter fun s => s.rule.importantCount ≠ 0) = total rules := by
  induction rules with
  | nil => rfl
  | cons s rules ih =>
    rw [total, total] at ih ⊢
    rw [List.filter_cons]
    by_cases h : s.rule.importantCount = 0
    · simpa [h] using ih
    · simpa [h] using ih

theorem total_marked (sheets : List Stylesheet) (file : String) :
    total (((sites sheets).filter fun s => s.rule.importantCount ≠ 0).filter
      fun s => s.file = file) = importantIn sheets file := by
  rw [List.filter_comm, total_filter_ne_zero, filter_sites, total_sites]
  rfl

/-- The rules listed for a file have all important declarations of the file. -/
theorem total_eq_importantIn {g : String × List Site} (hg : g ∈ byFile sheets) :
    total g.2 = importantIn sheets g.1 := by
  rw [(Listing.mem_groups_iff.1 hg).2]
  exact total_marked sheets g.1

theorem exists_mem_byFile {file : String} (h : 0 < importantIn sheets file) :
    ∃ g ∈ byFile sheets, g.1 = file := by
  have hne : ((sites sheets).filter fun s => s.rule.importantCount ≠ 0).filter
      (fun s => s.file = file) ≠ [] := by
    intro hnil
    rw [← total_marked, hnil] at h
    exact Nat.lt_irrefl 0 h
  obtain ⟨s, hs⟩ := List.exists_mem_of_ne_nil _ hne
  obtain ⟨hmarked, hfile⟩ := List.mem_filter.1 hs
  obtain rfl := of_decide_eq_true hfile
  exact ⟨_, List.mem_map.2 ⟨s.file, Listing.mem_distinct.2 (List.mem_map_of_mem hmarked), rfl⟩, rfl⟩

end ImportantAbuse

/-! ### Candidates -/

theorem DeepSelectors.exists_critical_iff {limit : Int} {c : Site × Selector} :
    (∃ i, issue? limit c = .ok (some i) ∧ i.severity = .critical) ↔ limit + 4 ≤ c.2.depth := by
  constructor
  · rintro ⟨i, hissue, hcritical⟩
    obtain ⟨-, s, hs, rfl⟩ := issue?_eq_some_iff.1 hissue
    obtain rfl : s = .critical := hcritical
    exact Severity.ofDepth_eq_critical_iff.1 hs
  · intro hdepth
    refine ⟨_, issue?_eq_some_iff.2 ⟨by omega, .critical, ?_, rfl⟩, rfl⟩
    exact Severity.ofDepth_eq_critical_iff.2 hdepth

/-- A selector with two ids is an issue because it has an id, whatever its score. -/
theorem HighSpecificity.exists_critical_iff {limit : Int} {c : Site × Selector}
    (hcounted : c.2.IsCounted) :
    (∃ i, issue? limit c = .ok (some i) ∧ i.severity = .critical) ↔
      Number.le 2 c.2.specificity.ids = true := by
  constructor
  · rintro ⟨i, hissue, hcritical⟩
    obtain ⟨score, -, -, s, hs, rfl⟩ := issue?_eq_some_iff.1 hissue
    obtain rfl : s = .critical := hcritical
    exact Severity.ofSpecificity_eq_critical_iff.1 hs
  · intro htwo
    obtain ⟨score, hscore⟩ := hcounted.exists_score
    have hreport : (score.le (.int limit) && !c.2.hasId) = false := by
      rw [hcounted.hasId_of_two_le htwo, Bool.not_true, Bool.and_false]
    refine ⟨_, issue?_eq_some_iff.2 ⟨score, hscore, hreport, .critical, ?_, rfl⟩, rfl⟩
    exact Severity.ofSpecificity_eq_critical_iff.2 htwo

theorem ImportantAbuse.exists_critical_iff {limit : Int} {g : String × List Site} :
    (∃ i, fileIssue? limit g = .ok (some i) ∧ i.severity = .critical) ↔ limit < total g.2 ∧
      Severity.ofImportant (.int (total g.2)) (.int limit) = .ok .critical := by
  constructor
  · rintro ⟨i, hissue, hcritical⟩
    obtain ⟨hcount, s, hs, rfl⟩ := fileIssue?_eq_some_iff.1 hissue
    obtain rfl : s = .critical := hcritical
    exact ⟨hcount, hs⟩
  · rintro ⟨hcount, hs⟩
    exact ⟨_, fileIssue?_eq_some_iff.2 ⟨hcount, .critical, hs, rfl⟩, rfl⟩

theorem DuplicateDeclarations.not_critical {minimum : Int} {r : Duplication.Repeated} :
    ¬∃ i, issue? minimum r = .ok (some i) ∧ i.severity = .critical := by
  rintro ⟨i, hissue, hcritical⟩
  obtain ⟨s, hs, rfl⟩ := issue?_eq_some_iff.1 hissue
  obtain rfl : s = .critical := hcritical
  exact Severity.ofRepetition_ne_critical _ _ hs

theorem OverridePressure.not_critical {o : Duplication.Override} :
    ¬∃ i, issue? o = .ok (some i) ∧ i.severity = .critical := by
  rintro ⟨i, hissue, hcritical⟩
  obtain ⟨scores, -, spread, -, rfl⟩ := issue?_eq_some_iff.1 hissue
  exact Severity.ofOverrides_ne_critical _ _ hcritical

/-! ### Checks -/

/-- What a check finds critical: a selector four levels too deep, a selector with two ids, or a file
with far too many important declarations. Four of the checks find nothing critical. -/
def FindsCritical (check : Check) (sheets : List Stylesheet) (t : Thresholds) : Prop :=
  match check with
  | deepSelectors => ∃ s ∈ sheets, ∃ r ∈ s.rules, ∃ sel ∈ r.selectors,
      t.maxSelectorDepth + 4 ≤ sel.depth
  | highSpecificity => ∃ s ∈ sheets, ∃ r ∈ s.rules, ∃ sel ∈ r.selectors,
      Number.le 2 sel.specificity.ids = true
  | importantAbuse => ∃ file, t.maxImportantPerFile < importantIn sheets file ∧
      Severity.ofImportant (.int (importantIn sheets file)) (.int t.maxImportantPerFile) =
        .ok .critical
  | duplicateDeclarations | layoutRiskHotspot | overridePressure | missingLayers => False

theorem exists_selectorSites_iff {p : Selector → Prop} : (∃ c ∈ selectorSites sheets, p c.2) ↔
    ∃ s ∈ sheets, ∃ r ∈ s.rules, ∃ sel ∈ r.selectors, p sel := by
  simp only [selectorSites, sites, List.mem_flatMap, List.mem_map]
  constructor
  · rintro ⟨_, ⟨_, ⟨s, hs, r, hr, rfl⟩, sel, hsel, rfl⟩, hp⟩
    exact ⟨s, hs, r, hr, sel, hsel, hp⟩
  · rintro ⟨s, hs, r, hr, sel, hsel, hp⟩
    exact ⟨_, ⟨_, ⟨s, hs, r, hr, rfl⟩, sel, hsel, rfl⟩, hp⟩

theorem isCounted_of_mem_selectorSites (hparsed : ∀ s ∈ sheets, s.IsParsed) :
    ∀ c ∈ selectorSites sheets, c.2.IsCounted := by
  intro c hc
  simp only [selectorSites, sites, List.mem_flatMap, List.mem_map] at hc
  obtain ⟨_, ⟨s, hs, r, hr, rfl⟩, sel, hsel, rfl⟩ := hc
  exact (hparsed s hs).isCounted r hr sel hsel

/-- The file that has too many important declarations is one that the check lists: it has some. -/
theorem ImportantAbuse.exists_critical_run_iff (hlimit : 1 ≤ t.maxImportantPerFile)
    (h : run sheets t = .ok issues) :
    (∃ i ∈ issues, i.severity = .critical) ↔ FindsCritical .importantAbuse sheets t := by
  obtain ⟨files, hfiles, hissues⟩ := bind_eq_ok_iff.1 h
  obtain rfl := pure_eq_ok_iff.1 hissues
  have hlayout : ¬∃ i ∈ (onLayout sheets).map fun c => layoutIssue c.1 c.2,
      i.severity = .critical := by
    rintro ⟨i, hi, hcritical⟩
    obtain ⟨c, -, rfl⟩ := List.mem_map.1 hi
    cases hcritical
  simp only [List.mem_append, or_and_right, exists_or, hlayout, or_false]
  rw [Issue.exists_mem_of_collect_eq_ok_iff hfiles]
  simp only [exists_critical_iff]
  constructor
  · rintro ⟨g, hg, hcritical⟩
    rw [total_eq_importantIn hg] at hcritical
    exact ⟨g.1, hcritical⟩
  · rintro ⟨file, hcritical⟩
    have hpos : 0 < importantIn sheets file := by omega
    obtain ⟨g, hg, rfl⟩ := exists_mem_byFile hpos
    rw [← total_eq_importantIn hg] at hcritical
    exact ⟨g, hg, hcritical⟩

/-- A check finds a critical issue exactly if there is something that it finds critical. -/
theorem exists_critical_run_iff (hparsed : ∀ s ∈ sheets, s.IsParsed)
    (hlimit : 1 ≤ t.maxImportantPerFile) {check : Check} (h : check.run sheets t = .ok issues) :
    (∃ i ∈ issues, i.severity = .critical) ↔ check.FindsCritical sheets t := by
  cases check with
  | deepSelectors =>
    rw [FindsCritical, ← exists_selectorSites_iff, Issue.exists_mem_of_collect_eq_ok_iff h]
    exact exists_congr fun c => and_congr_right fun _ => DeepSelectors.exists_critical_iff
  | highSpecificity =>
    rw [FindsCritical, ← exists_selectorSites_iff, Issue.exists_mem_of_collect_eq_ok_iff h]
    refine exists_congr fun c => and_congr_right fun hc => ?_
    exact HighSpecificity.exists_critical_iff (isCounted_of_mem_selectorSites hparsed c hc)
  | importantAbuse => exact ImportantAbuse.exists_critical_run_iff hlimit h
  | duplicateDeclarations =>
    rw [Issue.exists_mem_of_collect_eq_ok_iff h]
    refine iff_of_false ?_ not_false
    rintro ⟨r, -, hcritical⟩
    exact DuplicateDeclarations.not_critical hcritical
  | layoutRiskHotspot =>
    obtain rfl := Except.ok.inj h
    refine iff_of_false ?_ not_false
    rintro ⟨i, hi, hcritical⟩
    obtain ⟨site, -, hsite⟩ := List.mem_filterMap.1 hi
    obtain ⟨-, rfl⟩ := LayoutRiskHotspot.issue?_eq_some_iff.1 hsite
    exact Severity.ofLayoutRisk_ne_critical _ hcritical
  | overridePressure =>
    rw [Issue.exists_mem_of_collect_eq_ok_iff h]
    refine iff_of_false ?_ not_false
    rintro ⟨o, -, hcritical⟩
    exact OverridePressure.not_critical hcritical
  | missingLayers =>
    obtain rfl := Except.ok.inj h
    refine iff_of_false ?_ not_false
    rintro ⟨i, hi, hcritical⟩
    rw [MissingLayers.run] at hi
    split_ifs at hi with hnone
    · cases hi
    · obtain rfl := List.mem_singleton.1 hi
      exact Severity.ofMissingLayers_ne_critical _ _ hcritical

theorem exists_critical_of_runAll_iff {config : Config} (hparsed : ∀ s ∈ sheets, s.IsParsed)
    (hlimit : 1 ≤ config.thresholds.maxImportantPerFile)
    (h : runAll sheets config = .ok issues) : (∃ i ∈ issues, i.severity = .critical) ↔
      ∃ check, config.toggles.get check = true ∧ check.FindsCritical sheets config.thresholds := by
  constructor
  · rintro ⟨i, hi, hcritical⟩
    obtain ⟨check, hon, found, hfound, hi⟩ := (mem_of_runAll_eq_ok h).1 hi
    exact ⟨check, hon, (exists_critical_run_iff hparsed hlimit hfound).1 ⟨i, hi, hcritical⟩⟩
  · rintro ⟨check, hon, hfinds⟩
    obtain ⟨found, hfound⟩ := exists_run_of_runAll_eq_ok h check hon
    obtain ⟨i, hi, hcritical⟩ := (exists_critical_run_iff hparsed hlimit hfound).2 hfinds
    exact ⟨i, (mem_of_runAll_eq_ok h).2 ⟨check, hon, found, hfound, hi⟩, hcritical⟩

end Check

end StyleGauge
