import StyleGauge.Proofs.Check.Isolation
import StyleGauge.Proofs.Report.Pooling

/-!
# Failures are isolated

A file that could not be read does not get in the way of the others: issues, ranked selectors, and
the totals and maxima of all metrics are what they are without it.
-/

namespace StyleGauge

open Number (Fault)

theorem Specificity.IsCounted.isNonneg {s : Specificity} (h : s.IsCounted) : s.IsNonneg := by
  obtain ⟨i, c, e, rfl⟩ := h
  exact ⟨Number.isNonneg_ofNat i, Number.isNonneg_ofNat c, Number.isNonneg_ofNat e⟩

/-- The metrics of a failure are zeros. -/
theorem Stylesheet.metrics_failure (file message : String) :
    (Stylesheet.failure file message).metrics = .ok { file } := by
  have hdepth : meanDepth ([].map fun x : Selector => .int x.depth) = .ok 0 := meanDepth_nil
  rw [metrics, show (failure file message).selectors = [] from rfl, hdepth]
  rfl

namespace WithFailures

variable {sheets more : List Stylesheet} {files files' : List FileMetrics} {g g' : GlobalMetrics}

/-- Metrics of a file without anything in it. -/
def IsBlank (m : FileMetrics) : Prop :=
  ∃ file, m = { file }

theorem rules_eq (h : WithFailures sheets more) :
    more.flatMap Stylesheet.rules = sheets.flatMap Stylesheet.rules := by
  refine h.flatMap_eq ?_
  rintro _ ⟨file, message, rfl⟩
  rfl

/-- Failures have blank metrics, the other stylesheets have the metrics that they have. -/
theorem exists_mapM_metrics (h : WithFailures sheets more)
    (hfiles : sheets.mapM Stylesheet.metrics = .ok files) :
    ∃ files', more.mapM Stylesheet.metrics = .ok files' ∧ Listing.Inserted IsBlank files files' := by
  refine h.mapM ?_ hfiles
  rintro _ ⟨file, message, rfl⟩
  exact ⟨{ file }, Stylesheet.metrics_failure file message, file, rfl⟩

theorem isNonneg_maxSpecificity (hnonneg : ∀ x ∈ specificities sheets, x.IsNonneg)
    (hfiles : sheets.mapM Stylesheet.metrics = .ok files) :
    ∀ x ∈ files.map FileMetrics.maxSpecificity, x.IsNonneg := by
  intro x hx
  obtain ⟨m, hm, rfl⟩ := List.mem_map.1 hx
  obtain ⟨s, hs, hm⟩ := (mem_of_mapM_eq_ok hfiles).1 hm
  refine Specificity.isNonneg_of_maximum ?_ (Stylesheet.hasMetrics hm).maxSpecificity
  intro y hy
  exact hnonneg y (List.mem_flatMap.2 ⟨s, hs, hy⟩)

/-- The greatest specificity with blank metrics among those of files. -/
theorem exists_maximum (h : Listing.Inserted IsBlank files files')
    (hnonneg : ∀ x ∈ files.map FileMetrics.maxSpecificity, x.IsNonneg)
    (hg : GlobalMetrics.ofFiles files = .ok g) :
    ∃ w, Specificity.maximum (files'.map FileMetrics.maxSpecificity) = .ok w ∧
      g.maxSpecificity.SameWinner w := by
  refine Specificity.exists_maximum_of_inserted (h.map ?_) hnonneg
    (GlobalMetrics.totals_of_ofFiles_eq_ok hg).1
  rintro _ ⟨file, rfl⟩
  rfl

/-- The metrics of all files are computed with blank ones among them if they are computed without. -/
theorem exists_ofFiles (h : Listing.Inserted IsBlank files files') (hlength : files'.length ≤ 2 ^ 63)
    (hnonneg : ∀ x ∈ files.map FileMetrics.maxSpecificity, x.IsNonneg)
    (hg : GlobalMetrics.ofFiles files = .ok g) : ∃ g', GlobalMetrics.ofFiles files' = .ok g' := by
  obtain ⟨hdepth, -, hmean⟩ := GlobalMetrics.exists_ofFiles_iff.1 ⟨g, hg⟩
  obtain ⟨w, hw, -⟩ := exists_maximum h hnonneg hg
  refine GlobalMetrics.exists_ofFiles_iff.2 ⟨?_, ⟨w, hw⟩, ?_⟩
  · refine exists_meanDepth_of_inserted (h.map ?_) (by rwa [List.length_map]) hdepth
    rintro _ ⟨file, rfl⟩
    rfl
  · refine Specificity.exists_average_of_inserted (h.map ?_) (by rwa [List.length_map]) hmean
    rintro _ ⟨file, rfl⟩
    rfl

/-- With failures among stylesheets, anywhere and of any names, a run of the checks ends as it does
without them, the issue of missing layers being named after the first file; the ranked selectors are
the same; and so are the totals and maxima of all metrics, in which only the integer zero may stand
for a floating point zero. Metrics that are computed without the failures are computed with them, in
lists that a machine of 64 bits has room for. -/
theorem isolated (h : WithFailures sheets more)
    (hnonneg : ∀ x ∈ specificities sheets, x.IsNonneg) :
    (∀ config extra, Check.runAll more config extra =
        List.map (Issue.withLayersFile (Check.MissingLayers.firstFile more)) <$>
          Check.runAll sheets config extra) ∧
      (∀ limit, RankedSelector.worst more limit = RankedSelector.worst sheets limit) ∧
      ∀ files g, sheets.mapM Stylesheet.metrics = .ok files → GlobalMetrics.ofFiles files = .ok g →
        ∃ files', more.mapM Stylesheet.metrics = .ok files' ∧
          (more.length ≤ 2 ^ 63 → ∃ g', GlobalMetrics.ofFiles files' = .ok g') ∧
          ∀ g', GlobalMetrics.ofFiles files' = .ok g' →
            g'.totals = { g.totals with maxSpecificity := g'.maxSpecificity } ∧
            (g'.maxSpecificity = g.maxSpecificity ∨
              g.maxSpecificity.IsNull ∧ g'.maxSpecificity = .zero) := by
  refine ⟨Check.runAll_withFailures h, ?_, ?_⟩
  · intro limit
    rw [RankedSelector.worst, RankedSelector.worst, RankedSelector.all, RankedSelector.all,
      h.sites_eq]
  · intro files g hfiles hg
    obtain ⟨files', hfiles', hinserted⟩ := h.exists_mapM_metrics hfiles
    have hmaxima := isNonneg_maxSpecificity hnonneg hfiles
    refine ⟨files', hfiles', ?_, ?_⟩
    · intro hlength
      exact exists_ofFiles hinserted (length_of_mapM_eq_ok hfiles' ▸ hlength) hmaxima hg
    · intro g' hg'
      constructor
      · rw [GlobalMetrics.totals_eq_ofRules hfiles' hg', GlobalMetrics.totals_eq_ofRules hfiles hg,
          h.rules_eq]
        rfl
      · obtain ⟨w, hw, hsame⟩ := exists_maximum hinserted hmaxima hg
        obtain rfl := Except.ok.inj
          (hw.symm.trans (GlobalMetrics.totals_of_ofFiles_eq_ok hg').1)
        exact hsame

/-- Failures in front of a file and behind it, the second of its name. -/
theorem isolated_sameName :
    let important := "a\x7btop:0!important;left:0!important\x7d"
    let sheet := Stylesheet.ofText (important ++ important ++ important) "a.css"
    let more := [Stylesheet.failure "b.css" "gone", sheet, .failure "a.css" "gone"]
    WithFailures [sheet] more ∧ (∀ x ∈ specificities [sheet], x.IsNonneg) ∧
      (∃ issues, Check.runAll [sheet] {} = .ok issues ∧
        Check.runAll more {} = .ok (issues.map (Issue.withLayersFile "b.css")) ∧
        ∃ i ∈ issues, i.check = .missingLayers) ∧
      (∃ worst, RankedSelector.worst [sheet] = .ok worst ∧
        RankedSelector.worst more = .ok worst) ∧
      ∃ files g files' g', [sheet].mapM Stylesheet.metrics = .ok files ∧
        GlobalMetrics.ofFiles files = .ok g ∧ more.mapM Stylesheet.metrics = .ok files' ∧
        GlobalMetrics.ofFiles files' = .ok g' ∧
        g'.totals = { g.totals with maxSpecificity := g'.maxSpecificity } := by
  intro important sheet more
  have hfailure : ∀ file message, (Stylesheet.failure file message).IsFailure :=
    fun file message => ⟨file, message, rfl⟩
  have hwith : WithFailures [sheet] more :=
    .insert (hfailure _ _) (.keep sheet (.insert (hfailure _ _) .nil))
  have hread : ∀ s ∈ [sheet], Report.IsRead s := by
    intro s hs
    obtain rfl := List.mem_singleton.1 hs
    exact .text _ (by decide +kernel)
  have hcounted : AreCounted [sheet] := areCounted_of_isRead hread
  have hnonneg : ∀ x ∈ specificities [sheet], x.IsNonneg := fun x hx => (hcounted x hx).isNonneg
  have hsized : AreSized [sheet] := Report.areSized_of_isRead hread (by decide)
  obtain ⟨hrun, hworst, hmetrics⟩ := isolated hwith hnonneg
  refine ⟨hwith, hnonneg, ?_, ?_, ?_⟩
  · obtain ⟨r, hr⟩ := @Report.exists_ofStylesheets_of_isRead _ {} hread (by decide) (by decide) ""
    obtain ⟨issues, hissues⟩ := Report.exists_runAll_eq_ok hr
    have hlayers : Check.MissingLayers.run [sheet] = [Check.MissingLayers.issue [sheet]] :=
      if_neg (by decide +kernel)
    refine ⟨issues, hissues, ?_, Check.MissingLayers.issue [sheet], ?_, rfl⟩
    · rw [hrun, hissues]
      rfl
    · refine (Check.mem_of_runAll_eq_ok hissues).2 ⟨.missingLayers, rfl, _, rfl, ?_⟩
      rw [hlayers]
      exact List.mem_singleton_self _
  · obtain ⟨worst, hfound, -⟩ :=
      RankedSelector.yields_worst hsized.sheet RankedSelector.defaultLimit
    exact ⟨worst, hfound, (hworst _).trans hfound⟩
  · obtain ⟨files, hfiles, hlength, hwithin⟩ := Report.yields_files hsized
    obtain ⟨g, hg, -⟩ := GlobalMetrics.yields_ofFiles hlength hwithin
    obtain ⟨files', hfiles', hexists, htotals⟩ := hmetrics files g hfiles hg
    obtain ⟨g', hg'⟩ := hexists (by decide)
    exact ⟨files, g, files', g', hfiles, hg, hfiles', hg', (htotals g' hg').1⟩

end WithFailures

end StyleGauge
