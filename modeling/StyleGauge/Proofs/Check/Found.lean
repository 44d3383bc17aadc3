import StyleGauge.Check.Run
import StyleGauge.Proofs.Outcome

/-!
# What checks find

When a candidate is an issue of a check, and which: a selector, a file, a declaration, a rule, or a
property. Every issue that a check finds carries the id of the check.
-/

namespace StyleGauge

open Number (Fault)

namespace Issue

/-- The issues collected are those that the candidates are. -/
theorem mem_of_collect_eq_ok {α : Type} {candidates : List α}
    {issue? : α → Except Fault (Option Issue)} {issues : List Issue}
    (h : collect candidates issue? = .ok issues) {i : Issue} :
    i ∈ issues ↔ ∃ c ∈ candidates, issue? c = .ok (some i) := by
  obtain ⟨found, hfound, hissues⟩ := bind_eq_ok_iff.1 h
  obtain rfl := pure_eq_ok_iff.1 hissues
  simp [List.mem_filterMap, mem_of_mapM_eq_ok hfound]

/-- There is an issue with a property if a candidate is one. -/
theorem exists_mem_of_collect_eq_ok_iff {α : Type} {candidates : List α}
    {issue? : α → Except Fault (Option Issue)} {issues : List Issue}
    (h : collect candidates issue? = .ok issues) {p : Issue → Prop} :
    (∃ i ∈ issues, p i) ↔ ∃ c ∈ candidates, ∃ i, issue? c = .ok (some i) ∧ p i := by
  constructor
  · rintro ⟨i, hi, hp⟩
    obtain ⟨c, hc, hissue⟩ := (mem_of_collect_eq_ok h).1 hi
    exact ⟨c, hc, i, hissue, hp⟩
  · rintro ⟨c, hc, i, hissue, hp⟩
    exact ⟨i, (mem_of_collect_eq_ok h).2 ⟨c, hc, hissue⟩, hp⟩

end Issue

namespace Check

/-! ### Candidates -/

section

variable {i : Issue}

theorem DeepSelectors.issue?_eq_some_iff {limit : Int} {c : Site × Selector} :
    issue? limit c = .ok (some i) ↔ limit < c.2.depth ∧
      ∃ s, Severity.ofDepth (.int c.2.depth) (.int limit) = .ok s ∧ issue limit s c.1 c.2 = i := by
  unfold issue?
  split_ifs with hdepth
  · simp [pure_eq_ok_iff, Int.not_lt.2 hdepth]
  · rw [bind_eq_ok_iff]
    simp only [pure_eq_ok_iff, Option.some.injEq, Int.not_le.1 hdepth, true_and]

theorem HighSpecificity.issue?_eq_some_iff {limit : Int} {c : Site × Selector} :
    issue? limit c = .ok (some i) ↔ ∃ score, c.2.specificity.score = .ok score ∧
      (score.le (.int limit) && !c.2.hasId) = false ∧
      ∃ s, Severity.ofSpecificity c.2.specificity (.int limit) = .ok s ∧
        issue limit score s c.1 c.2 = i := by
  unfold issue?
  rw [bind_eq_ok_iff]
  refine exists_congr fun score => and_congr_right fun _ => ?_
  split_ifs with hreport
  · simp [pure_eq_ok_iff, hreport]
  · rw [bind_eq_ok_iff]
    simp only [pure_eq_ok_iff, Option.some.injEq, Bool.eq_false_iff.2 hreport, true_and]

theorem HighSpecificity.issue?_eq_none_iff {limit : Int} {c : Site × Selector} :
    issue? limit c = .ok none ↔ ∃ score, c.2.specificity.score = .ok score ∧
      (score.le (.int limit) && !c.2.hasId) = true := by
  unfold issue?
  rw [bind_eq_ok_iff]
  refine exists_congr fun score => and_congr_right fun _ => ?_
  split_ifs with hreport
  · simp [pure_eq_ok_iff, hreport]
  · rw [bind_eq_ok_iff]
    simp [pure_eq_ok_iff, hreport]

theorem ImportantAbuse.fileIssue?_eq_some_iff {limit : Int} {g : String × List Site} :
    fileIssue? limit g = .ok (some i) ↔ limit < total g.2 ∧
      ∃ s, Severity.ofImportant (.int (total g.2)) (.int limit) = .ok s ∧
        fileIssue limit s g.1 (total g.2) (g.2.head?.map Site.rule) = i := by
  unfold fileIssue?
  dsimp only
  split_ifs with hcount
  · simp [pure_eq_ok_iff, Int.not_lt.2 hcount]
  · rw [bind_eq_ok_iff]
    simp only [pure_eq_ok_iff, Option.some.injEq, Int.not_le.1 hcount, true_and]

theorem ImportantAbuse.fileIssue?_eq_none_iff {limit : Int} {g : String × List Site} :
    fileIssue? limit g = .ok none ↔ total g.2 ≤ limit := by
  unfold fileIssue?
  dsimp only
  split_ifs with hcount
  · simp [pure_eq_ok_iff, hcount]
  · rw [bind_eq_ok_iff]
    simp [pure_eq_ok_iff, hcount]

theorem DuplicateDeclarations.issue?_eq_some_iff {minimum : Int} {r : Duplication.Repeated} :
    issue? minimum r = .ok (some i) ↔
      ∃ s, Severity.ofRepetition (.int r.count) (.int minimum) = .ok s ∧ issue s r = i := by
  unfold issue?
  rw [bind_eq_ok_iff]
  simp only [pure_eq_ok_iff, Option.some.injEq]

theorem OverridePressure.issue?_eq_some_iff {o : Duplication.Override} :
    issue? o = .ok (some i) ↔
      ∃ scores, (o.definitions.mapM fun d => d.specificity.score) = .ok scores ∧
      ∃ spread, (range scores).2.sub (range scores).1 = .ok spread ∧
        issue (range scores).1 (range scores).2 spread o = i := by
  unfold issue?
  rw [bind_eq_ok_iff]
  refine exists_congr fun scores => and_congr_right fun _ => ?_
  rw [bind_eq_ok_iff]
  simp only [pure_eq_ok_iff, Option.some.injEq]

theorem LayoutRiskHotspot.issue?_eq_some_iff {site : Site} :
    issue? site = some i ↔ threshold ≤ Layout.risk site.rule.declarations ∧
      issue (Layout.risk site.rule.declarations) site = i := by
  unfold issue?
  dsimp only
  split_ifs with hrisk
  · simp [Nat.not_le.2 hrisk]
  · simp [Nat.not_lt.1 hrisk]

end

/-! ### Runs -/

section

variable {sheets : List Stylesheet} {config : Config} {issues : List Issue}

theorem mem_enabled {toggles : Toggles} {check : Check} :
    check ∈ enabled toggles ↔ toggles.get check = true := by
  simp [enabled, mem_all]

/-- A run that comes to an end has the issues that its detectors find. -/
theorem mem_of_runWith_eq_ok {extra : List Detector} (h : runWith sheets config extra = .ok issues)
    {i : Issue} : i ∈ issues ↔ ∃ d ∈ (enabled config.toggles).map detector ++ extra,
      ∃ found, d sheets config = .ok found ∧ i ∈ found := by
  obtain ⟨all, hall, rfl⟩ := map_eq_ok_iff.1 h
  obtain ⟨each, heach, hall⟩ := bind_eq_ok_iff.1 hall
  obtain rfl := pure_eq_ok_iff.1 hall
  rw [(bySeverity_perm _).mem_iff, List.mem_flatten]
  constructor
  · rintro ⟨found, hfound, hi⟩
    obtain ⟨d, hd, hrun⟩ := (mem_of_mapM_eq_ok heach).1 hfound
    exact ⟨d, hd, found, hrun, hi⟩
  · rintro ⟨d, hd, found, hrun, hi⟩
    exact ⟨found, (mem_of_mapM_eq_ok heach).2 ⟨d, hd, hrun⟩, hi⟩

theorem mem_of_runAll_eq_ok (h : runAll sheets config = .ok issues) {i : Issue} :
    i ∈ issues ↔ ∃ check : Check, config.toggles.get check = true ∧
      ∃ found, check.run sheets config.thresholds = .ok found ∧ i ∈ found := by
  rw [mem_of_runWith_eq_ok h]
  simp only [List.map_nil, List.append_nil, List.mem_map, mem_enabled]
  constructor
  · rintro ⟨_, ⟨check, hon, rfl⟩, hfound⟩
    exact ⟨check, hon, hfound⟩
  · rintro ⟨check, hon, hfound⟩
    exact ⟨_, ⟨check, hon, rfl⟩, hfound⟩

/-- Every check that is on comes to an end if the run does. -/
theorem exists_run_of_runAll_eq_ok (h : runAll sheets config = .ok issues) (check : Check)
    (hon : config.toggles.get check = true) :
    ∃ found, check.run sheets config.thresholds = .ok found := by
  obtain ⟨all, hall, -⟩ := map_eq_ok_iff.1 h
  obtain ⟨each, heach, -⟩ := bind_eq_ok_iff.1 hall
  refine forall_of_mapM_eq_ok heach check.detector (List.mem_append_left _ ?_)
  exact List.mem_map_of_mem (mem_enabled.2 hon)

end

/-! ### Ids -/

/-- Every issue of a check carries its id. -/
theorem check_of_mem_run {sheets : List Stylesheet} {check : Check} {t : Thresholds}
    {issues : List Issue} (h : check.run sheets t = .ok issues) :
    ∀ i ∈ issues, i.check = check := by
  intro i hi
  cases check with
  | deepSelectors =>
    obtain ⟨c, -, hc⟩ := (Issue.mem_of_collect_eq_ok h).1 hi
    obtain ⟨-, s, -, rfl⟩ := DeepSelectors.issue?_eq_some_iff.1 hc
    rfl
  | highSpecificity =>
    obtain ⟨c, -, hc⟩ := (Issue.mem_of_collect_eq_ok h).1 hi
    obtain ⟨score, -, -, s, -, rfl⟩ := HighSpecificity.issue?_eq_some_iff.1 hc
    rfl
  | importantAbuse =>
    obtain ⟨files, hfiles, hissues⟩ := bind_eq_ok_iff.1 h
    obtain rfl := pure_eq_ok_iff.1 hissues
    rcases List.mem_append.1 hi with hi | hi
    · obtain ⟨g, -, hg⟩ := (Issue.mem_of_collect_eq_ok hfiles).1 hi
      obtain ⟨-, s, -, rfl⟩ := ImportantAbuse.fileIssue?_eq_some_iff.1 hg
      rfl
    · obtain ⟨c, -, rfl⟩ := List.mem_map.1 hi
      rfl
  | duplicateDeclarations =>
    obtain ⟨r, -, hr⟩ := (Issue.mem_of_collect_eq_ok h).1 hi
    obtain ⟨s, -, rfl⟩ := DuplicateDeclarations.issue?_eq_some_iff.1 hr
    rfl
  | layoutRiskHotspot =>
    obtain rfl := Except.ok.inj h
    obtain ⟨site, -, hsite⟩ := List.mem_filterMap.1 hi
    obtain ⟨-, rfl⟩ := LayoutRiskHotspot.issue?_eq_some_iff.1 hsite
    rfl
  | overridePressure =>
    obtain ⟨o, -, ho⟩ := (Issue.mem_of_collect_eq_ok h).1 hi
    obtain ⟨scores, -, spread, -, rfl⟩ := OverridePressure.issue?_eq_some_iff.1 ho
    rfl
  | missingLayers =>
    obtain rfl := Except.ok.inj h
    rw [MissingLayers.run] at hi
    split_ifs at hi with hnone
    · cases hi
    · obtain rfl := List.mem_singleton.1 hi
      rfl

end Check

end StyleGauge
