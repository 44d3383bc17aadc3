import StyleGauge.Proofs.Metrics.Totals
import StyleGauge.Proofs.Report.Gate

/-!
# Stylesheets put together

The totals and maxima of stylesheets are those of one stylesheet that has all their rules, so they
depend neither on how the rules are split into files nor on the order of the files. Only averages,
which are means of means, depend on it.
-/

namespace StyleGauge

open Number (Fault)

/-- One stylesheet with the rules of all. -/
def Stylesheet.pooled (file : String) (sheets : List Stylesheet) : Stylesheet where
  file
  rules := sheets.flatMap Stylesheet.rules

/-- The specificities of all selectors, in order. -/
def specificities (sheets : List Stylesheet) : List Specificity :=
  sheets.flatMap fun s => s.selectors.map Selector.specificity

theorem specificities_eq (sheets : List Stylesheet) : specificities sheets =
    ((sheets.flatMap Stylesheet.rules).flatMap Rule.selectors).map Selector.specificity := by
  rw [List.flatMap_assoc, List.map_flatMap]
  rfl

/-- Stylesheets with selectors of whole counts. -/
def AreCounted (sheets : List Stylesheet) : Prop :=
  ∀ x ∈ specificities sheets, x.IsCounted

theorem AreCounted.isCounted {sheets : List Stylesheet} {s : Stylesheet} (h : AreCounted sheets)
    (hs : s ∈ sheets) : ∀ x ∈ s.selectors.map Selector.specificity, x.IsCounted := by
  intro x hx
  exact h x (List.mem_flatMap.2 ⟨s, hs, hx⟩)

theorem areCounted_of_isRead {sheets : List Stylesheet} (h : ∀ s ∈ sheets, Report.IsRead s) :
    AreCounted sheets := by
  intro x hx
  obtain ⟨s, hs, hx⟩ := List.mem_flatMap.1 hx
  obtain ⟨selector, hselector, rfl⟩ := List.mem_map.1 hx
  obtain ⟨r, hr, hselector⟩ := List.mem_flatMap.1 hselector
  obtain ⟨i, c, e, hspecificity, -⟩ := (h s hs).isParsed.isCounted r hr selector hselector
  exact ⟨i, c, e, hspecificity⟩

/-- The greatest specificity of one stylesheet is the greatest one of its selectors. -/
theorem Stylesheet.HasMetrics.isGreatest {s : Stylesheet} {m : FileMetrics} (h : s.HasMetrics m)
    (hcounted : ∀ x ∈ s.selectors.map Selector.specificity, x.IsCounted) :
    Specificity.IsGreatest (s.selectors.map Selector.specificity) m.maxSpecificity := by
  obtain ⟨w, hw, hgreatest⟩ := Specificity.exists_maximum hcounted
  obtain rfl := Except.ok.inj (hw.symm.trans h.maxSpecificity)
  exact hgreatest

namespace GlobalMetrics

variable {sheets : List Stylesheet} {files : List FileMetrics} {g : GlobalMetrics}

theorem pooled_selectors (file : String) (sheets : List Stylesheet) :
    (Stylesheet.pooled file sheets).selectors = sheets.flatMap Stylesheet.selectors :=
  List.flatMap_assoc

theorem pooled_specificities (file : String) (sheets : List Stylesheet) :
    (Stylesheet.pooled file sheets).selectors.map Selector.specificity = specificities sheets :=
  (specificities_eq sheets).symm

/-- The greatest specificity of metrics is the greatest one of all selectors. -/
theorem isGreatest_maxSpecificity (hcounted : AreCounted sheets)
    (hfiles : sheets.mapM Stylesheet.metrics = .ok files) (hg : ofFiles files = .ok g) :
    Specificity.IsGreatest (specificities sheets) g.maxSpecificity := by
  have hfile : ∀ s ∈ sheets, ∀ m, s.metrics = .ok m →
      Specificity.IsGreatest (s.selectors.map Selector.specificity) m.maxSpecificity :=
    fun s hs m hm => (Stylesheet.hasMetrics hm).isGreatest (hcounted.isCounted hs)
  have hfrom : ∀ y ∈ files.map FileMetrics.maxSpecificity, ∃ s ∈ sheets,
      Specificity.IsGreatest (s.selectors.map Selector.specificity) y := by
    intro y hy
    obtain ⟨m, hm, rfl⟩ := List.mem_map.1 hy
    obtain ⟨s, hs, hsm⟩ := (mem_of_mapM_eq_ok hfiles).1 hm
    exact ⟨s, hs, hfile s hs m hsm⟩
  have hto : ∀ s ∈ sheets, ∃ y ∈ files.map FileMetrics.maxSpecificity,
      Specificity.IsGreatest (s.selectors.map Selector.specificity) y := by
    intro s hs
    obtain ⟨m, hm⟩ := forall_of_mapM_eq_ok hfiles s hs
    have hmem : m ∈ files := (mem_of_mapM_eq_ok hfiles).2 ⟨s, hs, hm⟩
    exact ⟨m.maxSpecificity, List.mem_map_of_mem hmem, hfile s hs m hm⟩
  have hmaxima : ∀ y ∈ files.map FileMetrics.maxSpecificity, y.IsCounted := by
    intro y hy
    obtain ⟨s, hs, hgreatest⟩ := hfrom y hy
    exact hgreatest.isCounted (hcounted.isCounted hs)
  obtain ⟨w, hw, hgreatest⟩ := Specificity.exists_maximum hmaxima
  obtain rfl := Except.ok.inj (hw.symm.trans (totals_of_ofFiles_eq_ok hg).1)
  rw [specificities, List.flatMap_def]
  refine hgreatest.flatten ?_ ?_ ?_
  · intro xs hxs
    obtain ⟨s, hs, rfl⟩ := List.mem_map.1 hxs
    exact hcounted.isCounted hs
  · intro y hy
    obtain ⟨s, hs, h⟩ := hfrom y hy
    exact ⟨_, List.mem_map_of_mem hs, h⟩
  · intro xs hxs
    obtain ⟨s, hs, rfl⟩ := List.mem_map.1 hxs
    exact hto s hs

/-- Where the averages of each stylesheet can be computed, so can those of all rules together. -/
theorem exists_metrics_pooled (hcounted : AreCounted sheets)
    (hfiles : sheets.mapM Stylesheet.metrics = .ok files) (file : String) :
    ∃ pool, (Stylesheet.pooled file sheets).metrics = .ok pool := by
  have hmetrics : ∀ s ∈ sheets, ∃ m, s.metrics = .ok m := forall_of_mapM_eq_ok hfiles
  rw [Stylesheet.exists_metrics_iff, pooled_specificities, pooled_selectors, List.map_flatMap]
  refine ⟨?_, ?_, ?_⟩
  · rw [List.flatMap_def]
    refine exists_meanDepth_flatten ?_ ?_
    · intro xs hxs
      obtain ⟨s, -, rfl⟩ := List.mem_map.1 hxs
      exact ⟨s.selectors.map Selector.depth, by rw [List.map_map]; rfl⟩
    · intro xs hxs
      obtain ⟨s, hs, rfl⟩ := List.mem_map.1 hxs
      exact (Stylesheet.exists_metrics_iff.1 (hmetrics s hs)).1
  · obtain ⟨w, hw, -⟩ := Specificity.exists_maximum hcounted
    exact ⟨w, hw⟩
  · rw [specificities, List.flatMap_def]
    refine Specificity.exists_average_flatten ?_ ?_
    · intro xs hxs
      obtain ⟨s, hs, rfl⟩ := List.mem_map.1 hxs
      exact hcounted.isCounted hs
    · intro xs hxs
      obtain ⟨s, hs, rfl⟩ := List.mem_map.1 hxs
      exact (Stylesheet.exists_metrics_iff.1 (hmetrics s hs)).2.2

/-- The totals and maxima of the same rules in another order are the same. -/
theorem totals_congr {others : List Stylesheet} {files' : List FileMetrics} {g' : GlobalMetrics}
    (hcounted : AreCounted sheets)
    (hperm : (others.flatMap Stylesheet.rules).Perm (sheets.flatMap Stylesheet.rules))
    (hfiles : sheets.mapM Stylesheet.metrics = .ok files) (hg : ofFiles files = .ok g)
    (hfiles' : others.mapM Stylesheet.metrics = .ok files') (hg' : ofFiles files' = .ok g') :
    g'.totals = g.totals := by
  have hsame : (specificities others).Perm (specificities sheets) := by
    rw [specificities_eq, specificities_eq]
    exact (hperm.flatMap_right _).map _
  have hcounted' : AreCounted others := fun x hx => hcounted x (hsame.mem_iff.1 hx)
  have hgreatest : g'.maxSpecificity = g.maxSpecificity :=
    (isGreatest_maxSpecificity hcounted' hfiles' hg').unique
      (isGreatest_maxSpecificity hcounted hfiles hg) hcounted' fun x => hsame.mem_iff
  rw [totals_eq_ofRules hfiles' hg', totals_eq_ofRules hfiles hg, hgreatest,
    Totals.ofRules_perm hperm]

/-- The totals and maxima of stylesheets, where they are computed, are those of one stylesheet with
all their rules, and those of the stylesheets in any other order. Their greatest specificity is the
greatest one of all selectors. They are computed for everything that can be read. -/
theorem totals_eq_pooled (hcounted : AreCounted sheets) :
    ((∀ s ∈ sheets, Report.IsRead s) → sheets.length < 2 ^ 63 →
        ∃ files g, sheets.mapM Stylesheet.metrics = .ok files ∧ ofFiles files = .ok g) ∧
      ∀ files g, sheets.mapM Stylesheet.metrics = .ok files → ofFiles files = .ok g →
        (∀ file, ∃ pool, (Stylesheet.pooled file sheets).metrics = .ok pool ∧
          g.totals = pool.totals) ∧
        (∀ (others : List Stylesheet) files' g', others.Perm sheets →
          others.mapM Stylesheet.metrics = .ok files' → ofFiles files' = .ok g' →
          g'.totals = g.totals) ∧
        Specificity.IsGreatest (specificities sheets) g.maxSpecificity := by
  constructor
  · intro hread hlength
    obtain ⟨files, hfiles, hlength', hwithin⟩ :=
      Report.yields_files (Report.areSized_of_isRead hread hlength)
    obtain ⟨g, hg, -⟩ := yields_ofFiles hlength' hwithin
    exact ⟨files, g, hfiles, hg⟩
  · intro files g hfiles hg
    have hgreatest := isGreatest_maxSpecificity hcounted hfiles hg
    refine ⟨?_, ?_, hgreatest⟩
    · intro file
      obtain ⟨pool, hpool⟩ := exists_metrics_pooled hcounted hfiles file
      have hmetrics := Stylesheet.hasMetrics hpool
      have hgreatest' : Specificity.IsGreatest (specificities sheets) pool.maxSpecificity := by
        rw [← pooled_specificities file]
        exact hmetrics.isGreatest (by rwa [pooled_specificities])
      have hsame : g.maxSpecificity = pool.maxSpecificity :=
        hgreatest.unique hgreatest' hcounted fun x => Iff.rfl
      refine ⟨pool, hpool, ?_⟩
      rw [totals_eq_ofRules hfiles hg, hmetrics.totals, hsame]
      rfl
    · intro others files' g' hperm hfiles' hg'
      exact totals_congr hcounted (hperm.flatMap_right _) hfiles hg hfiles' hg'

/-- Two files, the second of which comes first in the other order. -/
theorem totals_eq_pooled_twoFiles :
    let first := Stylesheet.ofText "#a b\x7bcolor:red\x7d" "a.css"
    let second := Stylesheet.ofText ".c\x7btop:0!important\x7d" "b.css"
    AreCounted [first, second] ∧
      ∃ files g, [first, second].mapM Stylesheet.metrics = .ok files ∧ ofFiles files = .ok g ∧
        (∃ pool, (Stylesheet.pooled "c.css" [first, second]).metrics = .ok pool ∧
          g.totals = pool.totals) ∧
        (∃ files' g', [second, first].mapM Stylesheet.metrics = .ok files' ∧
          ofFiles files' = .ok g' ∧ g'.totals = g.totals) ∧
        Specificity.IsGreatest (specificities [first, second]) g.maxSpecificity := by
  intro first second
  have hfirst : Report.IsRead first := .text _ (by decide +kernel)
  have hsecond : Report.IsRead second := .text _ (by decide +kernel)
  have hread : ∀ s ∈ [first, second], Report.IsRead s := by
    intro s hs
    rcases List.mem_pair.1 hs with rfl | rfl <;> assumption
  have hread' : ∀ s ∈ [second, first], Report.IsRead s := by
    intro s hs
    rcases List.mem_pair.1 hs with rfl | rfl <;> assumption
  have hcounted : AreCounted [first, second] := areCounted_of_isRead hread
  have hpooled := totals_eq_pooled hcounted
  obtain ⟨files, g, hfiles, hg⟩ := hpooled.1 hread (by decide)
  obtain ⟨files', g', hfiles', hg'⟩ :=
    (totals_eq_pooled (areCounted_of_isRead hread')).1 hread' (by decide)
  obtain ⟨hpool, hperm, hgreatest⟩ := hpooled.2 files g hfiles hg
  refine ⟨hcounted, files, g, hfiles, hg, hpool "c.css", ?_, hgreatest⟩
  exact ⟨files', g', hfiles', hg', hperm _ files' g' (List.Perm.swap first second []) hfiles' hg'⟩

/-- A count so great that its mean cannot be rounded, unless another selector halves it. -/
theorem totals_eq_pooled_overflow :
    let sheet (ids : Nat) : Stylesheet := {
      file := "a.css"
      rules := [{
        selectors := [{ raw := "#a", depth := 1, specificity := .ofCounts ids 0 0 }]
        declarations := []
        file := "a.css" }] }
    let sheets := [sheet (18 * 10 ^ 305), sheet 0]
    AreCounted sheets ∧ sheets.mapM Stylesheet.metrics = .error .infinityToInteger ∧
      ((Stylesheet.pooled "a.css" sheets).metrics.map fun pool => pool.totals.maxSpecificity) =
        .ok (.ofCounts (18 * 10 ^ 305) 0 0) := by
  refine ⟨?_, ?_, ?_⟩
  · intro x hx
    rcases List.mem_pair.1 hx with rfl | rfl
    · exact ⟨_, _, _, rfl⟩
    · exact ⟨_, _, _, rfl⟩
  · decide +kernel
  · decide +kernel

end GlobalMetrics

end StyleGauge
