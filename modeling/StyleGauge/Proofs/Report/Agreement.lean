import Mathlib.Order.Bounds.Basic
import StyleGauge.Proofs.Check.Comparison
import StyleGauge.Proofs.Check.Grades
import StyleGauge.Proofs.Metrics.Totals
import StyleGauge.Proofs.Report.Gate

/-!
# Issues and metrics of one report

Checks and metrics count the same things in loops of their own: depths of selectors, important
declarations of files, rules, and issues. In one report they come to the same numbers.
-/

namespace StyleGauge

open Number (Fault)

/-! ### Metrics -/

/-- The selectors of stylesheets, with their rules or by themselves. -/
theorem map_snd_selectorSites (sheets : List Stylesheet) :
    (selectorSites sheets).map Prod.snd =
      (sheets.flatMap Stylesheet.rules).flatMap Rule.selectors := by
  simp only [selectorSites, sites, List.map_flatMap, List.flatMap_assoc,
    List.flatMap_map, List.map_map, Function.comp_def, List.map_id']

namespace GlobalMetrics

variable {sheets : List Stylesheet} {files : List FileMetrics} {g : GlobalMetrics}

theorem rules_eq_totalRules (hfiles : sheets.mapM Stylesheet.metrics = .ok files)
    (hg : ofFiles files = .ok g) : g.rules = Check.MissingLayers.totalRules sheets := by
  have hrules : g.rules = (sheets.flatMap Stylesheet.rules).length :=
    congrArg Totals.rules (totals_eq_ofRules hfiles hg)
  rw [hrules, List.length_flatMap, Check.MissingLayers.totalRules, Listing.total_eq_sum]

/-- Depths up to some number are a maximum up to it. -/
theorem maxDepth_le_iff (hfiles : sheets.mapM Stylesheet.metrics = .ok files)
    (hg : ofFiles files = .ok g) {a : Int} (ha : 0 ≤ a) :
    g.maxDepth ≤ a ↔ ∀ c ∈ selectorSites sheets, c.2.depth ≤ a := by
  have hdepth : g.maxDepth =
      (((sheets.flatMap Stylesheet.rules).flatMap Rule.selectors).map Selector.depth).foldl max 0 :=
    congrArg Totals.maxDepth (totals_eq_ofRules hfiles hg)
  have hsites : (∀ c ∈ selectorSites sheets, c.2.depth ≤ a) ↔
      ∀ x ∈ (sheets.flatMap Stylesheet.rules).flatMap Rule.selectors, x.depth ≤ a := by
    rw [← map_snd_selectorSites, List.forall_mem_map]
  rw [hdepth, hsites, Listing.foldl_max_le_iff, List.forall_mem_map]
  exact and_iff_right ha

end GlobalMetrics

/-! ### Counts of issues -/

namespace Summary

/-- What the summary of issues says of their number. -/
theorem counts_of_ofIssues_eq_ok {m : GlobalMetrics} {issues : List Issue} {s : Summary}
    (h : ofIssues m issues = .ok s) : s.totalIssues = issues.length ∧
      Listing.total (s.bySeverity.map Prod.snd) = issues.length := by
  obtain ⟨scores, -, h⟩ := bind_eq_ok_iff.1 h
  obtain ⟨overall, -, h⟩ := bind_eq_ok_iff.1 h
  obtain rfl := pure_eq_ok_iff.1 h
  refine ⟨rfl, ?_⟩
  have hlength := congrArg List.length (Check.bySeverity_eq_flatMap issues)
  rw [(Check.bySeverity_perm issues).length_eq, List.length_flatMap] at hlength
  have hcounts : (Severity.all.map fun s => issues.countP fun i => i.severity == s) =
      Severity.all.map fun s => (issues.filter fun i => i.severity = s).length :=
    List.map_congr_left fun s _ => List.countP_eq_length_filter
  rw [List.map_map, hlength, ← hcounts, ← Listing.total_eq_sum]
  exact Listing.total_map_natCast ..

end Summary

/-! ### Important declarations -/

/-- The stylesheet of a name that no other one has. -/
theorem filter_file_eq_singleton {sheets : List Stylesheet} (h : (sheets.map Stylesheet.file).Nodup)
    {s : Stylesheet} (hs : s ∈ sheets) : sheets.filter (fun x => x.file = s.file) = [s] := by
  have hone : ((sheets.map Stylesheet.file).filter fun x => x = s.file).length = 1 := by
    rw [List.filter_eq, List.length_replicate]
    exact List.count_eq_one_of_mem h (List.mem_map_of_mem hs)
  rw [List.filter_map, List.length_map, Function.comp_def] at hone
  obtain ⟨x, hx⟩ := List.length_eq_one_iff.1 hone
  have hmem : s ∈ sheets.filter fun x => x.file = s.file :=
    List.mem_filter.2 ⟨hs, decide_eq_true rfl⟩
  rw [hx] at hmem ⊢
  rw [List.mem_singleton.1 hmem]

theorem importantIn_file {sheets : List Stylesheet} (h : (sheets.map Stylesheet.file).Nodup)
    {s : Stylesheet} (hs : s ∈ sheets) :
    importantIn sheets s.file = Listing.total (s.rules.map Rule.importantCount) := by
  rw [importantIn, filter_file_eq_singleton h hs]
  exact Nat.add_zero _

/-- An issue of a whole file with too many important declarations, not of one declaration. -/
def Issue.IsFileWide (file : String) (i : Issue) : Prop :=
  i.check = .importantAbuse ∧ i.evidence.property = none ∧ i.evidence.file = file

instance (file : String) (i : Issue) : Decidable (i.IsFileWide file) :=
  inferInstanceAs (Decidable (_ ∧ _))

namespace Check

variable {sheets : List Stylesheet} {config : Config} {issues : List Issue} {i : Issue}

theorem mem_found_iff (h : runAll sheets config = .ok issues) {check : Check}
    (hon : config.toggles.get check = true) :
    i ∈ check.detector.found sheets config ↔ i ∈ issues ∧ i.check = check := by
  rw [← (filter_check_perm_found h hon).mem_iff, List.mem_filter, decide_eq_true_eq]

namespace ImportantAbuse

theorem isFileWide_fileIssue_iff {limit count : Int} {s : Severity} {name file : String}
    {first : Option Rule} :
    (fileIssue limit s name count first).IsFileWide file ↔ name = file :=
  ⟨fun h => h.2.2, fun h => ⟨rfl, rfl, h⟩⟩

/-- The issues of whole files that are about one of them: the issue of its rules, if they are
listed. -/
theorem filter_isFileWide_collect {limit : Int} {found : List Issue} (file : String)
    (h : Issue.collect (byFile sheets) (fileIssue? limit) = .ok found) :
    found.filter (·.IsFileWide file) =
      ((byFile sheets).filter fun g => g.1 = file).filterMap
        fun g => (fileIssue? limit g).toOption.join := by
  rw [Issue.eq_filterMap_of_collect_eq_ok h, List.filter_filterMap, List.filterMap_filter]
  refine List.filterMap_congr fun g _ => ?_
  cases hg : (fileIssue? limit g).toOption.join with
  | none => simp
  | some i =>
    obtain ⟨-, s, -, rfl⟩ := fileIssue?_eq_some_iff.1 (Issue.toOption_join_eq_some_iff.1 hg)
    rw [Option.filter_some]
    simp only [isFileWide_fileIssue_iff]

theorem map_count_fileIssue? {limit : Int} {g : String × List Site} {o : Option Issue}
    (h : fileIssue? limit g = .ok o) : o.toList.map (·.evidence.count) =
      if limit < total g.2 then [some (total g.2 : Int)] else [] := by
  cases o with
  | none =>
    rw [if_neg (Int.not_lt.2 (fileIssue?_eq_none_iff.1 h))]
    rfl
  | some i =>
    obtain ⟨hcount, s, -, rfl⟩ := fileIssue?_eq_some_iff.1 h
    rw [if_pos hcount]
    rfl

/-- A file has one list of rules, unless it has no important declarations. -/
theorem filter_byFile (sheets : List Stylesheet) (file : String) :
    (∃ g ∈ byFile sheets, g.1 = file ∧ (byFile sheets).filter (fun g => g.1 = file) = [g]) ∨
      importantIn sheets file = 0 ∧ (byFile sheets).filter (fun g => g.1 = file) = [] := by
  have hgroups := Listing.filter_groups Site.file
    ((sites sheets).filter fun s => s.rule.importantCount ≠ 0) file
  rw [← byFile] at hgroups
  split_ifs at hgroups with hfile
  · exact .inl ⟨_, Listing.mem_groups_iff.2 ⟨hfile, rfl⟩, rfl, hgroups⟩
  · refine .inr ⟨Nat.eq_zero_of_not_pos fun hpos => ?_, hgroups⟩
    obtain ⟨g, hg, rfl⟩ := exists_mem_byFile hpos
    exact hfile (Listing.mem_groups_iff.1 hg).1

/-- The issue of a file counts its important declarations, and there is none if they are few. -/
theorem map_count_collect {limit : Int} (hlimit : 0 ≤ limit) {found : List Issue} (file : String)
    (h : Issue.collect (byFile sheets) (fileIssue? limit) = .ok found) :
    (found.filter (·.IsFileWide file)).map (·.evidence.count) =
      if limit < importantIn sheets file then [some (importantIn sheets file : Int)] else [] := by
  rw [filter_isFileWide_collect file h]
  obtain ⟨g, hg, rfl, hone⟩ | ⟨hzero, hnone⟩ := filter_byFile sheets file
  · obtain ⟨all, hall, -⟩ := bind_eq_ok_iff.1 h
    obtain ⟨o, ho⟩ := forall_of_mapM_eq_ok hall g hg
    rw [← total_eq_importantIn hg, ← map_count_fileIssue? ho, hone]
    simp only [List.filterMap_cons, ho]
    cases o <;> rfl
  · rw [hnone, hzero, if_neg (by omega)]
    rfl

end ImportantAbuse

/-- In a run, the issues of a whole file are what its important declarations come to. -/
theorem map_count_filter_isFileWide (h : runAll sheets config = .ok issues)
    (hon : config.toggles.importantAbuse = true)
    (hlimit : 0 ≤ config.thresholds.maxImportantPerFile) (file : String) :
    (issues.filter (·.IsFileWide file)).map (·.evidence.count) =
      if config.thresholds.maxImportantPerFile < importantIn sheets file then
        [some (importantIn sheets file : Int)] else [] := by
  have hon : config.toggles.get .importantAbuse = true := hon
  obtain ⟨files, hfiles, hfound⟩ := bind_eq_ok_iff.1 (run_eq_ok_found h hon)
  have hfound := pure_eq_ok_iff.1 hfound
  have hlayout : ((ImportantAbuse.onLayout sheets).map fun c =>
      ImportantAbuse.layoutIssue c.1 c.2).filter (·.IsFileWide file) = [] := by
    rw [List.filter_eq_nil_iff]
    intro i hi hwide
    obtain ⟨c, -, rfl⟩ := List.mem_map.1 hi
    cases (of_decide_eq_true hwide).2.1
  have hfilter : issues.filter (·.IsFileWide file) =
      (issues.filter fun i => i.check = .importantAbuse).filter (·.IsFileWide file) := by
    rw [List.filter_filter]
    refine List.filter_congr fun i _ => ?_
    rw [← Bool.decide_and, decide_eq_decide]
    exact ⟨fun hi => ⟨hi, hi.1⟩, And.left⟩
  have hperm := ((filter_check_perm_found h hon).filter (·.IsFileWide file)).map
    (·.evidence.count)
  rw [← hfilter, ← hfound, List.filter_append, hlayout, List.append_nil,
    ImportantAbuse.map_count_collect hlimit file hfiles] at hperm
  split_ifs at hperm ⊢
  · exact List.perm_singleton.1 hperm
  · exact hperm.eq_nil

/-! ### Deep selectors -/

theorem mem_and_check_eq_deepSelectors_iff (h : runAll sheets config = .ok issues)
    (hon : config.toggles.deepSelectors = true) : i ∈ issues ∧ i.check = .deepSelectors ↔
      ∃ c ∈ selectorSites sheets,
        DeepSelectors.issue? config.thresholds.maxSelectorDepth c = .ok (some i) := by
  have hon : config.toggles.get .deepSelectors = true := hon
  rw [← mem_found_iff h hon]
  exact Issue.mem_of_collect_eq_ok (run_eq_ok_found h hon)

/-! ### Missing layers -/

theorem filter_missingLayers (h : runAll sheets config = .ok issues)
    (hon : config.toggles.missingLayers = true) :
    issues.filter (·.check = .missingLayers) = [] ∨
      issues.filter (·.check = .missingLayers) = [MissingLayers.issue sheets] := by
  have hon : config.toggles.get .missingLayers = true := hon
  have hperm := filter_check_perm_found h hon
  rw [← Except.ok.inj (run_eq_ok_found h hon), MissingLayers.run] at hperm
  split_ifs at hperm
  · exact .inl hperm.eq_nil
  · exact .inr (List.perm_singleton.1 hperm)

end Check

/-! ### Reports -/

namespace Report

variable {sheets : List Stylesheet} {config : Config} {timestamp : String} {r : Report}

/-- The metrics of a report are those of its stylesheets, and its summary is made from them. -/
theorem metrics_of_ofStylesheets_eq_ok (h : ofStylesheets sheets config timestamp = .ok r) :
    sheets.mapM Stylesheet.metrics = .ok r.files ∧ GlobalMetrics.ofFiles r.files = .ok r.global ∧
      Summary.ofIssues r.global r.issues = .ok r.summary := by
  obtain ⟨files, hfiles, h⟩ := bind_eq_ok_iff.1 h
  obtain ⟨m, hm, h⟩ := bind_eq_ok_iff.1 h
  obtain ⟨issues, -, h⟩ := bind_eq_ok_iff.1 h
  obtain ⟨summary, hsummary, h⟩ := bind_eq_ok_iff.1 h
  obtain ⟨worst, -, h⟩ := bind_eq_ok_iff.1 h
  obtain rfl := pure_eq_ok_iff.1 h
  exact ⟨hfiles, hm, hsummary⟩

/-- The issues of a report agree with its metrics and its summary. -/
structure Agrees (r : Report) (t : Thresholds) : Prop where
  /-- There are deep selectors exactly if the greatest depth is above the threshold. -/
  deep : (∃ i ∈ r.issues, i.check = .deepSelectors) ↔ t.maxSelectorDepth < r.global.maxDepth
  /-- Every deep selector has a depth. -/
  depths : ∀ i ∈ r.issues, i.check = .deepSelectors → i.evidence.depth.isSome = true
  /-- The greatest depth of deep selectors is the greatest depth of all. -/
  greatest : (∃ i ∈ r.issues, i.check = .deepSelectors) →
    IsGreatest {d | ∃ i ∈ r.issues, i.check = .deepSelectors ∧ i.evidence.depth = some d}
      r.global.maxDepth
  /-- A file has one issue about all of it, with its count, exactly if its important declarations
  are more than the threshold allows. -/
  important : ∀ m ∈ r.files, (r.issues.filter (·.IsFileWide m.file)).map (·.evidence.count) =
    if t.maxImportantPerFile < m.important then [some m.important] else []
  /-- Layers are missed at most once, with the count of all rules. -/
  layers : (r.issues.filter (·.check = .missingLayers)).length ≤ 1 ∧
    ∀ i ∈ r.issues, i.check = .missingLayers → i.evidence.count = some r.global.rules
  /-- The summary counts all issues. -/
  total : r.summary.totalIssues = r.issues.length
  /-- The counts of the severities are those of all issues. -/
  severities : Listing.total (r.summary.bySeverity.map Prod.snd) = r.issues.length

section

variable (h : ofStylesheets sheets config timestamp = .ok r)
include h

/-- The depths of deep selectors are those above the threshold. -/
theorem exists_depth_iff (hon : config.toggles.deepSelectors = true) (d : Int) :
    (∃ i ∈ r.issues, i.check = .deepSelectors ∧ i.evidence.depth = some d) ↔
      config.thresholds.maxSelectorDepth < d ∧ ∃ c ∈ selectorSites sheets, c.2.depth = d := by
  have hmem := fun i => Check.mem_and_check_eq_deepSelectors_iff (i := i)
    (of_ofStylesheets_eq_ok h).1 hon
  constructor
  · rintro ⟨i, hi, hcheck, hdepth⟩
    obtain ⟨c, hc, hissue⟩ := (hmem i).1 ⟨hi, hcheck⟩
    obtain ⟨hlimit, s, -, rfl⟩ := Check.DeepSelectors.issue?_eq_some_iff.1 hissue
    obtain rfl := Option.some.inj hdepth
    exact ⟨hlimit, c, hc, rfl⟩
  · rintro ⟨hlimit, c, hc, rfl⟩
    have hissue := Check.DeepSelectors.issue?_eq_some_iff.2
      ⟨hlimit, _, Severity.ofDepth_int c.2.depth _, rfl⟩
    obtain ⟨hi, hcheck⟩ := (hmem _).2 ⟨c, hc, hissue⟩
    exact ⟨_, hi, hcheck, rfl⟩

theorem isSome_depth (hon : config.toggles.deepSelectors = true) :
    ∀ i ∈ r.issues, i.check = .deepSelectors → i.evidence.depth.isSome = true := by
  intro i hi hcheck
  obtain ⟨c, -, hissue⟩ :=
    (Check.mem_and_check_eq_deepSelectors_iff (of_ofStylesheets_eq_ok h).1 hon).1 ⟨hi, hcheck⟩
  obtain ⟨-, s, -, rfl⟩ := Check.DeepSelectors.issue?_eq_some_iff.1 hissue
  rfl

/-- Where the greatest depth is above the threshold, some selector has it. -/
theorem isGreatest_depth (hon : config.toggles.deepSelectors = true)
    (hdepth : 0 ≤ config.thresholds.maxSelectorDepth)
    (hdeep : config.thresholds.maxSelectorDepth < r.global.maxDepth) :
    IsGreatest {d | ∃ i ∈ r.issues, i.check = .deepSelectors ∧ i.evidence.depth = some d}
      r.global.maxDepth := by
  obtain ⟨hfiles, hglobal, -⟩ := metrics_of_ofStylesheets_eq_ok h
  have hle : ∀ c ∈ selectorSites sheets, c.2.depth ≤ r.global.maxDepth :=
    (GlobalMetrics.maxDepth_le_iff hfiles hglobal (by omega)).1 (le_refl _)
  constructor
  · have hattained := (GlobalMetrics.maxDepth_le_iff hfiles hglobal
      (a := r.global.maxDepth - 1) (by omega)).not.1 (by omega)
    push Not at hattained
    obtain ⟨c, hc, hlt⟩ := hattained
    have hle := hle c hc
    exact (exists_depth_iff h hon _).2 ⟨hdeep, c, hc, by omega⟩
  · intro d hd
    obtain ⟨-, c, hc, rfl⟩ := (exists_depth_iff h hon d).1 hd
    exact hle c hc

/-- A deep selector is no deeper than the greatest depth. -/
theorem exists_deep_iff (hon : config.toggles.deepSelectors = true)
    (hdepth : 0 ≤ config.thresholds.maxSelectorDepth) :
    (∃ i ∈ r.issues, i.check = .deepSelectors) ↔
      config.thresholds.maxSelectorDepth < r.global.maxDepth := by
  obtain ⟨hfiles, hglobal, -⟩ := metrics_of_ofStylesheets_eq_ok h
  constructor
  · rintro ⟨i, hi, hcheck⟩
    obtain ⟨d, hd⟩ := Option.isSome_iff_exists.1 (isSome_depth h hon i hi hcheck)
    obtain ⟨hlimit, c, hc, rfl⟩ := (exists_depth_iff h hon d).1 ⟨i, hi, hcheck, hd⟩
    by_contra hle
    have := (GlobalMetrics.maxDepth_le_iff hfiles hglobal hdepth).1 (by omega) c hc
    omega
  · intro hdeep
    obtain ⟨i, hi, hcheck, -⟩ := (isGreatest_depth h hon hdepth hdeep).1
    exact ⟨i, hi, hcheck⟩

theorem map_count_filter_isFileWide (hnodup : (sheets.map Stylesheet.file).Nodup)
    (hon : config.toggles.importantAbuse = true)
    (hlimit : 1 ≤ config.thresholds.maxImportantPerFile) :
    ∀ m ∈ r.files, (r.issues.filter (·.IsFileWide m.file)).map (·.evidence.count) =
      if config.thresholds.maxImportantPerFile < m.important then [some m.important] else [] := by
  intro m hm
  obtain ⟨s, hs, hmetrics⟩ :=
    (mem_of_mapM_eq_ok (metrics_of_ofStylesheets_eq_ok h).1).1 hm
  have hm := Stylesheet.hasMetrics hmetrics
  have himportant : m.important = (Listing.total (s.rules.map Rule.importantCount) : Nat) :=
    congrArg Totals.important hm.totals
  rw [hm.file, himportant, ← importantIn_file hnodup hs]
  exact Check.map_count_filter_isFileWide (of_ofStylesheets_eq_ok h).1 hon (by omega) s.file

theorem missingLayers (hon : config.toggles.missingLayers = true) :
    (r.issues.filter (·.check = .missingLayers)).length ≤ 1 ∧
      ∀ i ∈ r.issues, i.check = .missingLayers → i.evidence.count = some r.global.rules := by
  obtain ⟨hfiles, hglobal, -⟩ := metrics_of_ofStylesheets_eq_ok h
  have hmem : ∀ i ∈ r.issues, i.check = .missingLayers →
      i ∈ r.issues.filter (·.check = .missingLayers) :=
    fun i hi hcheck => List.mem_filter.2 ⟨hi, decide_eq_true hcheck⟩
  rcases Check.filter_missingLayers (of_ofStylesheets_eq_ok h).1 hon with hnone | hone
  · rw [hnone] at hmem ⊢
    exact ⟨Nat.zero_le 1, fun i hi hcheck => by cases hmem i hi hcheck⟩
  · rw [hone] at hmem ⊢
    refine ⟨Nat.le_refl 1, fun i hi hcheck => ?_⟩
    rw [List.mem_singleton.1 (hmem i hi hcheck), GlobalMetrics.rules_eq_totalRules hfiles hglobal]
    rfl

end

/-- With all checks on, the issues of a report on stylesheets with different names agree with its
metrics and its summary. There is a report if the stylesheets come from reading. -/
theorem agrees_of_ofStylesheets (hnodup : (sheets.map Stylesheet.file).Nodup)
    (hon : ∀ check, config.toggles.get check = true)
    (hdepth : 0 ≤ config.thresholds.maxSelectorDepth)
    (hlimit : 1 ≤ config.thresholds.maxImportantPerFile) (timestamp : String) :
    ((∀ s ∈ sheets, IsRead s) → sheets.length < 2 ^ 63 →
        ∃ r, ofStylesheets sheets config timestamp = .ok r) ∧
      ∀ r, ofStylesheets sheets config timestamp = .ok r → r.Agrees config.thresholds := by
  refine ⟨fun hread hlength => exists_ofStylesheets_of_isRead hread hlength hlimit timestamp, ?_⟩
  intro r h
  have hdeep := exists_deep_iff h (hon .deepSelectors) hdepth
  have hcounts := Summary.counts_of_ofIssues_eq_ok (metrics_of_ofStylesheets_eq_ok h).2.2
  exact {
    deep := hdeep
    depths := isSome_depth h (hon .deepSelectors)
    greatest := fun hsome => isGreatest_depth h (hon .deepSelectors) hdepth (hdeep.1 hsome)
    important := map_count_filter_isFileWide h hnodup (hon .importantAbuse) hlimit
    layers := missingLayers h (hon .missingLayers)
    total := hcounts.1
    severities := hcounts.2 }

/-- Two files, one of them unread, with deep selectors and six important declarations. -/
theorem agrees_of_ofStylesheets_twoFiles :
    let important := "a b c d e\x7bcolor:red!important;top:0!important;left:0!important\x7d"
    let sheets := [Stylesheet.ofText (important ++ important) "a.css",
      .failure "b.css" "Failed to read file"]
    (sheets.map Stylesheet.file).Nodup ∧
      (∀ check, ({} : Config).toggles.get check = true) ∧
      (0 : Int) ≤ ({} : Config).thresholds.maxSelectorDepth ∧
      (1 : Int) ≤ ({} : Config).thresholds.maxImportantPerFile ∧
      ∃ r, ofStylesheets sheets {} "2024-01-01T00:00:00Z" = .ok r ∧ r.Agrees {} := by
  intro important sheets
  have hnodup : (sheets.map Stylesheet.file).Nodup := by decide
  have hon : ∀ check, ({} : Config).toggles.get check = true := by
    intro check
    cases check <;> rfl
  have hread : ∀ s ∈ sheets, IsRead s := by
    intro s hs
    rcases List.mem_pair.1 hs with rfl | rfl
    · exact .text _ (by decide +kernel)
    · exact .failure "b.css" "Failed to read file"
  have hagrees := agrees_of_ofStylesheets hnodup hon (by decide) (by decide) "2024-01-01T00:00:00Z"
  obtain ⟨r, hr⟩ := hagrees.1 hread (by decide)
  exact ⟨hnodup, hon, by decide, by decide, r, hr, hagrees.2 r hr⟩

end Report

end StyleGauge
