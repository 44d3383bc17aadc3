import StyleGauge.Config.Setting
import StyleGauge.Proofs.Check.Outcome
import StyleGauge.Report.Basic

/-!
# When there is a report

Scores are computed from metrics and issues without a fault. So an analysis ends with a report for
whatever stylesheets and configuration, unless the check on important declarations is on and divides
by zero.
-/

namespace StyleGauge

open Number (Fault)

/-! ### Scores -/

namespace Score

variable {m : GlobalMetrics} {issues : List Issue}

theorem length_issuesOf_le (h : Issue.AreWithin 200 issues) (checks : List Check) :
    (issuesOf checks issues).length ≤ 2 ^ 200 :=
  (List.length_filter_le _ _).trans h.1

/-- The total of a ratio is never zero. -/
theorem yields_ratio {count : Int} (h : |count| ≤ 2 ^ 280) (total : Int) :
    Yields (ratio count total) (Number.IsWithin 280) :=
  Number.yields_div_int h (by omega) (by norm_num)

/-- A hundred at most, if it is within a range that has room for a hundred. -/
theorem isWithin_min_hundred {x : Number} {k : Nat} (h : x.IsWithin k) (hk : 7 ≤ k) :
    (Number.min 100 x).IsWithin k :=
  (Number.isWithin_int (j := 7) (by norm_num) hk).min h

/-- Penalties that are small altogether do not lead out of the range. -/
theorem yields_withPenalties {base : Number} {penalty : Issue → Except Fault Number}
    (hbase : base.IsWithin 400) (hlength : issues.length ≤ 2 ^ 200)
    (hpenalty : ∀ i ∈ issues, Yields (penalty i) (Number.IsWithin 200)) :
    Yields (withPenalties base penalty issues) (Number.IsWithin 401) := by
  have hbase : Number.IsWithin (200 + 200) base := hbase
  have hroom : issues.length * 2 ^ 200 ≤ 2 ^ (200 + 200) := by
    rw [pow_add]
    exact Nat.mul_le_mul_right _ hlength
  have hfold : Yields (issues.foldlM (fun score i => do score.add (← penalty i)) base)
      (Number.IsWithin 401) := by
    refine Number.HasRoom.foldlM (fun i hi b score hscore => ?_) (hbase.hasRoom hroom)
    refine (hpenalty i hi).bind fun p hp => ?_
    exact hscore.add hp (by norm_num) (by norm_num)
  exact hfold.bind fun total htotal => yields_pure (isWithin_min_hundred htotal (by norm_num))

/-- The shape of three scores: a share, forty at most, and penalties. -/
theorem yields_share (h : Issue.AreWithin 200 issues) {count : Int} (hcount : |count| ≤ 2 ^ 280)
    (total factor : Int) (hfactor : |factor| ≤ 2 ^ 10) (checks : List Check)
    {penalty : Issue → Except Fault Number}
    (hpenalty : ∀ i ∈ issues, Yields (penalty i) (Number.IsWithin 200)) :
    Yields (do
      let base := Number.min 40 (← (← ratio count total).mul (.int factor))
      withPenalties base penalty (issuesOf checks issues)) (Number.IsWithin 401) := by
  have hfactor : Number.IsWithin 10 (.int factor) := hfactor
  refine (yields_ratio hcount total).bind fun share hshare => ?_
  refine (hshare.mul hfactor (by norm_num)).bind fun scaled hscaled => ?_
  have hbase : (Number.min 40 scaled).IsWithin 400 :=
    (Number.isWithin_int (j := 6) (by norm_num) (by norm_num)).min (hscaled.mono (by norm_num))
  refine yields_withPenalties hbase (length_issuesOf_le h checks) fun i hi => ?_
  exact hpenalty i (List.mem_filter.1 hi).1

theorem yields_specificity (hm : m.IsWithin 280) (h : Issue.AreWithin 200 issues) :
    Yields (specificity m issues) (Number.IsWithin 401) := by
  have hpenalty : ∀ score : Number, (maxSpecificityPenalty score).IsWithin 289 := by
    intro score
    unfold maxSpecificityPenalty
    split_ifs <;> exact Number.isWithin_int (j := 5) (by norm_num) (by norm_num)
  have hdepth : (maxDepthPenalty m.maxDepth).IsWithin 290 := by
    unfold maxDepthPenalty
    split_ifs <;> exact Number.isWithin_int (j := 5) (by norm_num) (by norm_num)
  have hissues : Number.IsWithin 291
      (.int (2 * (issuesOf [.highSpecificity, .deepSelectors] issues).length)) := by
    have hlength := length_issuesOf_le h [.highSpecificity, .deepSelectors]
    refine Number.isWithin_int (j := 201) ?_ (by norm_num)
    rw [abs_of_nonneg (by omega)]
    omega
  unfold specificity
  refine (hm.averageSpecificity.score (by norm_num)).bind fun average haverage => ?_
  refine hm.maxSpecificity.score.bind fun greatest _ => ?_
  have hbase : (Number.min 30 average).IsWithin 289 :=
    (Number.isWithin_int (j := 5) (by norm_num) (by norm_num)).min haverage
  refine (hbase.add (hpenalty greatest) (by norm_num)).bind fun base hbase => ?_
  refine (hbase.add hdepth (by norm_num)).bind fun base hbase => ?_
  refine (hbase.add hissues (by norm_num)).bind fun total htotal => ?_
  exact yields_pure (isWithin_min_hundred (htotal.mono (by norm_num)) (by norm_num))

theorem yields_cascade (hm : m.IsWithin 280) (h : Issue.AreWithin 200 issues) :
    Yields (cascade m issues) (Number.IsWithin 401) := by
  refine yields_share h hm.important m.declarations 500 (by norm_num) _ fun i _ => ?_
  cases i.severity <;> exact yields_ok (Number.isWithin_int (j := 4) (by norm_num) (by norm_num))

theorem yields_duplication (hm : m.IsWithin 280) (h : Issue.AreWithin 200 issues) :
    Yields (duplication m issues) (Number.IsWithin 401) := by
  refine yields_share h hm.duplicates m.declarations 200 (by norm_num) _ fun i hi => ?_
  refine (Number.yields_div_int (h.2 i hi) (by norm_num) (by norm_num)).bind fun half hhalf => ?_
  exact yields_pure ((Number.isWithin_int (j := 4) (by norm_num) (by norm_num)).min hhalf)

theorem yields_layoutRisk (hm : m.IsWithin 280) (h : Issue.AreWithin 200 issues) :
    Yields (layoutRisk m issues) (Number.IsWithin 401) := by
  refine yields_share h hm.layoutRisk m.rules 10 (by norm_num) _ fun i _ => ?_
  cases i.severity <;> exact yields_ok (Number.isWithin_int (j := 4) (by norm_num) (by norm_num))

/-- The overall score of any scores within the range of the four. -/
theorem yields_overall {s : CategoryScores} (hspecificity : s.specificity.IsWithin 401)
    (hcascade : s.cascade.IsWithin 401) (hduplication : s.duplication.IsWithin 401)
    (hlayoutRisk : s.layoutRisk.IsWithin 401) : Yields (overall s) fun _ => True := by
  have hweight : ∀ w : ℚ, |w| ≤ 1 → Number.IsWithin 0 (.float (Binary64.ofRat w)) := by
    intro w hw
    exact Number.isWithin_float_ofRat (by norm_num) (by simpa using hw)
  have hproduct : ∀ p ∈ weighted s, Yields (p.1.mul p.2) (Number.IsWithin 401) := by
    intro p hp
    simp only [weighted, List.mem_cons, List.not_mem_nil, or_false] at hp
    rcases hp with rfl | rfl | rfl | rfl
    · exact hspecificity.mul (hweight _ (by norm_num [Rat.mkRat_eq_div, abs_of_pos])) (by norm_num)
    · exact hcascade.mul (hweight _ (by norm_num [Rat.mkRat_eq_div, abs_of_pos])) (by norm_num)
    · exact hduplication.mul (hweight _ (by norm_num [Rat.mkRat_eq_div, abs_of_pos])) (by norm_num)
    · exact hlayoutRisk.mul (hweight _ (by norm_num [Rat.mkRat_eq_div, abs_of_pos])) (by norm_num)
  unfold overall
  refine (yields_mapM hproduct).bind fun products hproducts => ?_
  have hroom : products.length * 2 ^ 401 ≤ 2 ^ (99 + 401) := by
    have hcount : products.length = 4 := hproducts.1
    rw [hcount, pow_add]
    exact Nat.mul_le_mul_right _ (by norm_num)
  refine (Number.yields_sum hproducts.2 hroom (by norm_num) (by norm_num)).bind fun mean hmean => ?_
  have hclipped : (Number.min 100 (Number.max 0 mean)).IsWithin 500 := by
    refine isWithin_min_hundred (Number.IsWithin.max ?_ hmean) (by norm_num)
    exact Number.isWithin_int (j := 0) (by norm_num) (by norm_num)
  exact (hclipped.roundToInt (by norm_num)).mono fun _ _ => trivial

end Score

theorem Summary.yields_ofIssues {m : GlobalMetrics} {issues : List Issue} (hm : m.IsWithin 280)
    (h : Issue.AreWithin 200 issues) : Yields (ofIssues m issues) fun _ => True := by
  unfold Summary.ofIssues Score.categories
  refine Yields.bind (p := fun s => s.specificity.IsWithin 401 ∧ s.cascade.IsWithin 401 ∧
    s.duplication.IsWithin 401 ∧ s.layoutRisk.IsWithin 401) ?_ fun scores hscores => ?_
  · refine (Score.yields_specificity hm h).bind fun specificity hspecificity => ?_
    refine (Score.yields_cascade hm h).bind fun cascade hcascade => ?_
    refine (Score.yields_duplication hm h).bind fun duplication hduplication => ?_
    refine (Score.yields_layoutRisk hm h).bind fun layoutRisk hlayoutRisk => ?_
    exact yields_pure ⟨hspecificity, hcascade, hduplication, hlayoutRisk⟩
  · obtain ⟨hspecificity, hcascade, hduplication, hlayoutRisk⟩ := hscores
    refine (Score.yields_overall hspecificity hcascade hduplication hlayoutRisk).bind
      fun overall _ => ?_
    exact yields_pure trivial

/-! ### Reports -/

namespace Report

/-- A stylesheet as it comes from reading: what a text holds that is no longer than a machine of 64
bits has room for, or a failure. -/
inductive IsRead : Stylesheet → Prop
  | text {source : String} (file : String) (hlength : source.length < 2 ^ 63) :
      IsRead (.ofText source file)
  | failure (file message : String) : IsRead (.failure file message)

variable {sheets : List Stylesheet}

theorem areSized_of_isRead (hread : ∀ s ∈ sheets, IsRead s) (hlength : sheets.length < 2 ^ 63) :
    AreSized sheets := by
  refine ⟨by omega, ?_⟩
  intro s hs
  cases hread s hs with
  | text file hsource => exact (Stylesheet.isSized_ofText _ file).mono (by omega)
  | failure file message => exact Stylesheet.isSized_failure _ file message

theorem yields_files (h : AreSized sheets) :
    Yields (sheets.mapM Stylesheet.metrics) fun files =>
      files.length ≤ 2 ^ 64 ∧ ∀ m ∈ files, m.IsWithin 200 := by
  refine (yields_mapM fun s hs => (h.sheet s hs).metrics).mono fun files hfiles => ?_
  exact ⟨hfiles.1.le.trans h.length, hfiles.2⟩

theorem yields_ofStylesheets (h : AreSized sheets) (config : Config) (timestamp : String)
    (hdiv : ¬(config.toggles.importantAbuse = true ∧
      Check.ImportantAbuse.DividesByZero sheets config.thresholds)) :
    Yields (ofStylesheets sheets config timestamp) fun _ => True := by
  unfold ofStylesheets
  refine (yields_files h).bind fun files hfiles => ?_
  refine (GlobalMetrics.yields_ofFiles hfiles.1 hfiles.2).bind fun m hm => ?_
  refine (Check.yields_runAll h config hdiv).bind fun issues hissues => ?_
  refine (Summary.yields_ofIssues hm hissues).bind fun summary _ => ?_
  refine (RankedSelector.yields_worst h.sheet _).bind fun worst _ => ?_
  exact yields_pure trivial

/-- The issues of a report are those of all checks, and its summary is about them. -/
theorem of_ofStylesheets_eq_ok {config : Config} {timestamp : String} {r : Report}
    (h : ofStylesheets sheets config timestamp = .ok r) :
    Check.runAll sheets config = .ok r.issues ∧
      ∃ m, Summary.ofIssues m r.issues = .ok r.summary := by
  obtain ⟨files, -, h⟩ := bind_eq_ok_iff.1 h
  obtain ⟨m, -, h⟩ := bind_eq_ok_iff.1 h
  obtain ⟨issues, hissues, h⟩ := bind_eq_ok_iff.1 h
  obtain ⟨summary, hsummary, h⟩ := bind_eq_ok_iff.1 h
  obtain ⟨worst, -, h⟩ := bind_eq_ok_iff.1 h
  obtain rfl := pure_eq_ok_iff.1 h
  exact ⟨hissues, m, hsummary⟩

/-- A report needs the issues of all checks. -/
theorem exists_runAll_eq_ok {config : Config} {timestamp : String} {r : Report}
    (h : ofStylesheets sheets config timestamp = .ok r) :
    ∃ issues, Check.runAll sheets config = .ok issues :=
  ⟨r.issues, (of_ofStylesheets_eq_ok h).1⟩

/-- Where at least one important declaration is allowed there is a report of everything that can be
read. -/
theorem exists_ofStylesheets_of_isRead {config : Config} (hread : ∀ s ∈ sheets, IsRead s)
    (hlength : sheets.length < 2 ^ 63) (hlimit : 1 ≤ config.thresholds.maxImportantPerFile)
    (timestamp : String) : ∃ r, ofStylesheets sheets config timestamp = .ok r := by
  have hsized := areSized_of_isRead hread hlength
  obtain ⟨r, hr, -⟩ :=
    yields_ofStylesheets hsized config timestamp (by rintro ⟨-, hzero, -⟩; omega)
  exact ⟨r, hr⟩

/-- There is a report exactly if the check on important declarations is off or does not divide by
zero. -/
theorem exists_ofStylesheets_eq_ok_iff (hread : ∀ s ∈ sheets, IsRead s)
    (hlength : sheets.length < 2 ^ 63) (config : Config) (timestamp : String) :
    (∃ r, ofStylesheets sheets config timestamp = .ok r) ↔
      ¬(config.toggles.importantAbuse = true ∧
        Check.ImportantAbuse.DividesByZero sheets config.thresholds) := by
  constructor
  · rintro ⟨r, hr⟩ ⟨htoggle, hdiv⟩
    obtain ⟨issues, hissues⟩ := exists_runAll_eq_ok hr
    exact Check.runAll_ne_ok htoggle hdiv issues hissues
  · intro hdiv
    obtain ⟨r, hr, -⟩ :=
      yields_ofStylesheets (areSized_of_isRead hread hlength) config timestamp hdiv
    exact ⟨r, hr⟩

/-- With a threshold of zero there is a report as long as nothing is important. -/
theorem exists_ofStylesheets_eq_ok_zeroThreshold :
    ∃ r, ofStylesheets [.ofText "a:hover > .b\x7bcolor:red\x7d" "a.css",
        .failure "b.css" "Failed to read file"]
      { thresholds := { maxImportantPerFile := 0 } } "2024-01-01T00:00:00Z" = .ok r := by
  refine (exists_ofStylesheets_eq_ok_iff ?_ (by decide) _ _).2 (by decide +kernel)
  intro s hs
  rcases List.mem_pair.1 hs with rfl | rfl
  · exact .text "a.css" (by decide +kernel)
  · exact .failure "b.css" "Failed to read file"

/-- A threshold of zero is accepted, but one important declaration leaves no report. -/
theorem ofStylesheets_zeroThreshold_important :
    ∃ config, Config.ofEntries [("thresholds", .object [("maxImportantPerFile", .ofInt 0)])] =
        .ok config ∧
      ofStylesheets [.ofText "a\x7bcolor:red !important\x7d"] config "2024-01-01T00:00:00Z" =
        .error .divisionByZero := by
  refine ⟨{ thresholds := { maxImportantPerFile := 0 } }, ?_, ?_⟩
  · rfl
  · decide +kernel

end Report

end StyleGauge
