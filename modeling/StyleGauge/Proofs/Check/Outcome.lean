import Mathlib.Data.Set.List
import StyleGauge.Proofs.Check.Found
import StyleGauge.Proofs.Listing
import StyleGauge.Proofs.Metrics.Range

/-!
# When checks have an outcome

Six of the checks find their issues without a fault, whatever the thresholds are. The seventh, on
important declarations, divides by its threshold: it has an outcome unless the threshold is zero and
some rule has an important declaration.
-/

namespace StyleGauge

open Number (Fault)

/-! ### Stylesheets of a machine's size -/

/-- Stylesheets as many and as large as a machine of 64 bits can hold. -/
structure AreSized (sheets : List Stylesheet) : Prop where
  length : sheets.length ≤ 2 ^ 64
  sheet : ∀ s ∈ sheets, s.IsSized (2 ^ 64)

namespace AreSized

variable {sheets : List Stylesheet}

theorem rule (h : AreSized sheets) : ∀ site ∈ sites sheets, site.rule.IsSized (2 ^ 64) := by
  intro site hsite
  simp only [sites, List.mem_flatMap, List.mem_map] at hsite
  obtain ⟨s, hs, r, hr, rfl⟩ := hsite
  exact (h.sheet s hs).rule r hr

theorem length_sites_le (h : AreSized sheets) : (sites sheets).length ≤ 2 ^ 128 := by
  unfold sites
  rw [List.length_flatMap]
  calc (sheets.map fun s => (s.rules.map (Site.mk s.file)).length).sum ≤ 2 ^ 64 * 2 ^ 64 :=
        sum_map_le h.length fun s hs => by
          rw [List.length_map]
          exact (h.sheet s hs).rules
    _ = 2 ^ 128 := by norm_num

/-- What every rule has `2 ^ 64` of at most, there are `2 ^ 192` of at most. -/
theorem sum_sites_le (h : AreSized sheets) {f : Site → Nat}
    (hf : ∀ site ∈ sites sheets, f site ≤ 2 ^ 64) : ((sites sheets).map f).sum ≤ 2 ^ 192 := by
  calc ((sites sheets).map f).sum ≤ 2 ^ 128 * 2 ^ 64 := sum_map_le h.length_sites_le hf
    _ = 2 ^ 192 := by norm_num

theorem length_flatMap_sites_le (h : AreSized sheets) {α : Type} {f : Site → List α}
    (hf : ∀ site ∈ sites sheets, (f site).length ≤ 2 ^ 64) :
    ((sites sheets).flatMap f).length ≤ 2 ^ 192 := by
  rw [List.length_flatMap]
  exact h.sum_sites_le hf

theorem length_selectorSites_le (h : AreSized sheets) :
    (selectorSites sheets).length ≤ 2 ^ 192 := by
  refine h.length_flatMap_sites_le fun site hsite => ?_
  rw [List.length_map]
  exact (h.rule site hsite).selectors

theorem selector (h : AreSized sheets) : ∀ c ∈ selectorSites sheets, c.2.IsSized (2 ^ 64) := by
  intro c hc
  simp only [selectorSites, List.mem_flatMap, List.mem_map] at hc
  obtain ⟨site, hsite, s, hs, rfl⟩ := hc
  exact (h.rule site hsite).selector s hs

end AreSized

/-! ### Issues -/

namespace Issue

/-- At most `2 ^ k` issues, each of which counts at most `2 ^ k`. -/
def AreWithin (k : Nat) (issues : List Issue) : Prop :=
  issues.length ≤ 2 ^ k ∧ ∀ i ∈ issues, |i.evidence.count.getD 0| ≤ 2 ^ k

variable {j k : Nat} {issues : List Issue}

theorem AreWithin.mono (h : AreWithin j issues) (hjk : j ≤ k) : AreWithin k issues := by
  refine ⟨h.1.trans (Nat.pow_le_pow_right (by norm_num) hjk), fun i hi => ?_⟩
  exact (h.2 i hi).trans (pow_le_pow_right₀ (by norm_num) hjk)

/-- Collecting issues succeeds if every candidate has an outcome. -/
theorem yields_collect {α : Type} {candidates : List α}
    {issue? : α → Except Fault (Option Issue)} (hlength : candidates.length ≤ 2 ^ k)
    (h : ∀ x ∈ candidates, Yields (issue? x) fun o => ∀ i ∈ o, |i.evidence.count.getD 0| ≤ 2 ^ k) :
    Yields (collect candidates issue?) (AreWithin k) := by
  refine (yields_mapM h).bind fun found hfound => yields_pure ⟨?_, ?_⟩
  · refine (List.length_filterMap_le _ _).trans ?_
    rw [hfound.1]
    exact hlength
  · intro i hi
    obtain ⟨o, ho, hi⟩ := List.mem_filterMap.1 hi
    exact hfound.2 o ho i hi

end Issue

namespace Check

variable {sheets : List Stylesheet}

/-! ### Selectors -/

theorem DeepSelectors.yields_run (h : AreSized sheets) (t : Thresholds) :
    Yields (DeepSelectors.run sheets t) (Issue.AreWithin 192) := by
  refine Issue.yields_collect h.length_selectorSites_le fun c _ => ?_
  unfold DeepSelectors.issue?
  split_ifs
  · exact yields_ok (by simp)
  · have hseverity : Yields (Severity.ofDepth (.int c.2.depth) (.int t.maxSelectorDepth))
        fun _ => True := yields_ok trivial
    refine hseverity.bind fun severity _ => yields_pure ?_
    intro i hi
    obtain rfl := Option.some.inj hi
    simp [DeepSelectors.issue]

theorem isWithin_oneAndHalf : Number.IsWithin 1 Number.oneAndHalf :=
  Number.isWithin_float_ofRat (by norm_num) (by norm_num [Rat.mkRat_eq_div, abs_of_pos])

/-- The limit is multiplied by a fraction only where it is positive and below a score. -/
theorem yields_ofSpecificity {s : Selector} (h : s.IsSized (2 ^ 64)) {limit : Int} {score : Number}
    (hscore : s.specificity.score = .ok score)
    (hreport : ¬(score.le (.int limit) && !s.hasId) = true) :
    Yields (Severity.ofSpecificity s.specificity (.int limit)) fun _ => True := by
  obtain ⟨n, hn, hle⟩ : ∃ n : Nat, score = .int n ∧ n ≤ 111 * 2 ^ 64 := by
    obtain ⟨x, hx, n, rfl, hle⟩ := h.specificity.score
    rw [hscore] at hx
    exact ⟨n, Except.ok.inj hx, hle⟩
  unfold Severity.ofSpecificity
  rw [hscore, hn]
  split_ifs with htwo hone
  · exact yields_ok trivial
  · exact yields_ok trivial
  · have hid : s.hasId = false := by
      by_contra hid
      exact hone (h.hasId (by simpa using hid))
    have hlimit : ¬ (n : Int) ≤ limit := by
      rw [hn, hid] at hreport
      simpa using hreport
    show Yields (do
      if (Number.int (limit * 2)).lt (.int n) then return Severity.high
      if (← (Number.int limit).mul Number.oneAndHalf).lt (.int n) then return Severity.medium
      return Severity.low) fun _ => True
    split_ifs with hdouble
    · exact yields_ok trivial
    · have hpos : 0 ≤ limit ∧ limit ≤ 2 ^ 71 := by
        simp only [Number.lt_int, decide_eq_true_eq] at hdouble
        omega
      have hwithin : Number.IsWithin 71 (.int limit) := by
        show |limit| ≤ 2 ^ 71
        rw [abs_of_nonneg hpos.1]
        exact hpos.2
      refine (hwithin.mul isWithin_oneAndHalf (by norm_num)).bind fun bound _ => ?_
      split_ifs <;> exact yields_ok trivial

theorem HighSpecificity.yields_run (h : AreSized sheets) (t : Thresholds) :
    Yields (HighSpecificity.run sheets t) (Issue.AreWithin 192) := by
  refine Issue.yields_collect h.length_selectorSites_le fun c hc => ?_
  have hsized := h.selector c hc
  obtain ⟨score, hscore, -⟩ := hsized.specificity.score
  have hbind : HighSpecificity.issue? t.maxSpecificityScore c = (do
      if score.le (.int t.maxSpecificityScore) && !c.2.hasId then return none
      return some (HighSpecificity.issue t.maxSpecificityScore score
        (← Severity.ofSpecificity c.2.specificity (.int t.maxSpecificityScore)) c.1 c.2)) := by
    unfold HighSpecificity.issue?
    rw [hscore]
    rfl
  rw [hbind]
  split_ifs with hreport
  · exact yields_ok (by simp)
  · refine (yields_ofSpecificity hsized hscore hreport).bind fun severity _ => yields_pure ?_
    intro i hi
    obtain rfl := Option.some.inj hi
    simp [HighSpecificity.issue]

/-! ### Important declarations -/

namespace ImportantAbuse

/-- Whether a division by the limit would be one by zero: the limit is zero, and some rule has an
important declaration to be compared with it. -/
def DividesByZero (sheets : List Stylesheet) (t : Thresholds) : Prop :=
  t.maxImportantPerFile = 0 ∧ ∃ s ∈ sheets, ∃ r ∈ s.rules, r.importantCount ≠ 0

instance (sheets : List Stylesheet) (t : Thresholds) : Decidable (DividesByZero sheets t) :=
  inferInstanceAs (Decidable (_ ∧ _))

theorem exists_site_iff : (∃ site ∈ sites sheets, site.rule.importantCount ≠ 0) ↔
    ∃ s ∈ sheets, ∃ r ∈ s.rules, r.importantCount ≠ 0 := by
  constructor
  · rintro ⟨site, hsite, hcount⟩
    simp only [sites, List.mem_flatMap, List.mem_map] at hsite
    obtain ⟨s, hs, r, hr, rfl⟩ := hsite
    exact ⟨s, hs, r, hr, hcount⟩
  · rintro ⟨s, hs, r, hr, hcount⟩
    exact ⟨⟨s.file, r⟩, List.mem_flatMap.2 ⟨s, hs, List.mem_map_of_mem hr⟩, hcount⟩

theorem total_le (h : AreSized sheets) {g : String × List Site} (hg : g ∈ byFile sheets) :
    total g.2 ≤ 2 ^ 192 := by
  have hsublist : g.2.Sublist (sites sheets) :=
    (Listing.sublist_of_mem_groups hg).trans List.filter_sublist
  calc total g.2 ≤ 2 ^ 128 * 2 ^ 64 :=
        Listing.total_map_le (hsublist.length_le.trans h.length_sites_le) fun site hsite =>
          List.countP_le_length.trans (h.rule site (hsublist.subset hsite)).declarations
    _ = 2 ^ 192 := by norm_num

theorem yields_fileIssue? (h : AreSized sheets) {limit : Int} (hlimit : limit ≠ 0)
    {g : String × List Site} (hg : g ∈ byFile sheets) :
    Yields (fileIssue? limit g) fun o => ∀ i ∈ o, |i.evidence.count.getD 0| ≤ 2 ^ 192 := by
  have htotal : |(total g.2 : Int)| ≤ 2 ^ 192 := abs_natCast_le (total_le h hg)
  unfold fileIssue?
  dsimp only
  split_ifs
  · exact yields_ok (by simp)
  · have hseverity : Yields (Severity.ofImportant (.int (total g.2)) (.int limit))
        fun _ => True :=
      (Number.yields_div_int htotal hlimit (by norm_num)).bind fun ratio _ => yields_pure trivial
    refine hseverity.bind fun severity _ => yields_pure ?_
    intro i hi
    obtain rfl := Option.some.inj hi
    exact htotal

theorem length_onLayout_le (h : AreSized sheets) : (onLayout sheets).length ≤ 2 ^ 192 := by
  refine h.length_flatMap_sites_le fun site hsite => ?_
  rw [List.length_map]
  exact (List.length_filter_le _ _).trans (h.rule site hsite).declarations

theorem yields_run (h : AreSized sheets) {t : Thresholds} (hdiv : ¬ DividesByZero sheets t) :
    Yields (run sheets t) (Issue.AreWithin 193) := by
  have hfiles : Yields (Issue.collect (byFile sheets) (fileIssue? t.maxImportantPerFile))
      (Issue.AreWithin 192) := by
    by_cases hlimit : t.maxImportantPerFile = 0
    · have hnone : byFile sheets = [] := by
        rw [List.eq_nil_iff_forall_not_mem]
        intro g hg
        obtain ⟨k, hk, rfl⟩ := List.mem_map.1 hg
        obtain ⟨site, hsite, -⟩ := List.mem_map.1 (Listing.mem_distinct.1 hk)
        refine hdiv ⟨hlimit, exists_site_iff.1 ⟨site, ?_⟩⟩
        simpa using hsite
      rw [hnone]
      exact yields_ok ⟨Nat.zero_le _, by simp⟩
    · refine Issue.yields_collect ?_ fun g hg => yields_fileIssue? h hlimit hg
      refine (Listing.length_groups_le _ _).trans ((List.length_filter_le _ _).trans ?_)
      exact h.length_sites_le.trans (by norm_num)
  refine hfiles.bind fun files hfiles => yields_pure ⟨?_, ?_⟩
  · rw [List.length_append, List.length_map]
    have := hfiles.1
    have := length_onLayout_le h
    omega
  · intro i hi
    rcases List.mem_append.1 hi with hi | hi
    · exact (hfiles.2 i hi).trans (by norm_num)
    · obtain ⟨c, -, rfl⟩ := List.mem_map.1 hi
      simp [layoutIssue]

/-- A division by zero is an outcome that the check does not have. -/
theorem run_ne_ok {t : Thresholds} (hdiv : DividesByZero sheets t) (issues : List Issue) :
    run sheets t ≠ .ok issues := by
  obtain ⟨hlimit, hexists⟩ := hdiv
  obtain ⟨site, hsite, hcount⟩ := exists_site_iff.2 hexists
  have hmarked : site ∈ (sites sheets).filter fun s => s.rule.importantCount ≠ 0 :=
    List.mem_filter.2 ⟨hsite, decide_eq_true hcount⟩
  obtain ⟨g, hg, hmem⟩ := @Listing.exists_mem_groups _ _ _ Site.file _ site hmarked
  have hpos : ¬ (total g.2 : Int) ≤ 0 := by
    have hle : site.rule.importantCount ≤ total g.2 :=
      List.single_le_sum (by simp) _ (List.mem_map_of_mem hmem)
    omega
  have hfault : fileIssue? t.maxImportantPerFile g = .error .divisionByZero := by
    unfold fileIssue?
    dsimp only
    rw [hlimit, if_neg hpos]
    rfl
  intro hrun
  unfold run at hrun
  cases hfiles : Issue.collect (byFile sheets) (fileIssue? t.maxImportantPerFile) with
  | error e => simp [hfiles, bind, Except.bind] at hrun
  | ok files =>
    unfold Issue.collect at hfiles
    cases hmap : (byFile sheets).mapM (fileIssue? t.maxImportantPerFile) with
    | error e => simp [hmap, bind, Except.bind] at hfiles
    | ok found =>
      obtain ⟨o, ho⟩ := forall_of_mapM_eq_ok hmap g hg
      rw [hfault] at ho
      cases ho

end ImportantAbuse

/-! ### Declarations and rules -/

theorem DuplicateDeclarations.yields_run (h : AreSized sheets) (t : Thresholds) :
    Yields (DuplicateDeclarations.run sheets t) (Issue.AreWithin 192) := by
  have hkeyed : (Duplication.keyed sheets).length ≤ 2 ^ 192 := by
    refine h.length_flatMap_sites_le fun site hsite => ?_
    rw [List.length_map]
    exact (h.rule site hsite).declarations
  have hfound : (Duplication.declarations sheets t.maxDuplicateDeclarations).length ≤ 2 ^ 192 := by
    refine (List.length_filter_le _ _).trans ?_
    rw [List.length_map]
    exact (Listing.length_groups_le _ _).trans hkeyed
  refine Issue.yields_collect hfound fun r hr => ?_
  obtain ⟨g, hg, rfl⟩ := List.mem_map.1 (List.mem_filter.1 hr).1
  have hcount : g.2.length ≤ 2 ^ 192 :=
    (Listing.sublist_of_mem_groups hg).length_le.trans hkeyed
  have hseverity : ∀ count minimum : Int,
      Yields (Severity.ofRepetition (.int count) (.int minimum)) fun _ => True := by
    intro count minimum
    show Yields (do
      if (Number.int (minimum * 5)).le (.int count) then return Severity.high
      if (Number.int (minimum * 3)).le (.int count) then return Severity.medium
      return Severity.low) fun _ => True
    split_ifs <;> exact yields_ok trivial
  refine (hseverity _ _).bind fun severity _ => yields_pure ?_
  intro i hi
  obtain rfl := Option.some.inj hi
  refine abs_natCast_le ?_
  rw [Duplication.Repeated.count, List.length_map]
  exact hcount

theorem LayoutRiskHotspot.areWithin_run (h : AreSized sheets) :
    Issue.AreWithin 192 (LayoutRiskHotspot.run sheets) := by
  refine ⟨(List.length_filterMap_le _ _).trans (h.length_sites_le.trans (by norm_num)), ?_⟩
  intro i hi
  obtain ⟨site, hsite, hi⟩ := List.mem_filterMap.1 hi
  unfold LayoutRiskHotspot.issue? at hi
  dsimp only at hi
  split_ifs at hi
  obtain rfl := Option.some.inj hi
  exact abs_natCast_le
    ((List.countP_le_length.trans (h.rule site hsite).declarations).trans (by norm_num))

theorem MissingLayers.areWithin_run (h : AreSized sheets) :
    Issue.AreWithin 192 (MissingLayers.run sheets) := by
  unfold MissingLayers.run
  split_ifs
  · exact ⟨Nat.zero_le _, by simp⟩
  · refine ⟨by norm_num, ?_⟩
    intro i hi
    obtain rfl := List.mem_singleton.1 hi
    refine abs_natCast_le ?_
    calc MissingLayers.totalRules sheets ≤ 2 ^ 64 * 2 ^ 64 :=
          Listing.total_map_le h.length fun s hs => (h.sheet s hs).rules
      _ ≤ 2 ^ 192 := by norm_num

/-! ### Overrides -/

namespace OverridePressure

/-- The least and the greatest of integers are integers. -/
theorem range_map_int (n : Int) (ns : List Int) :
    range ((n :: ns).map .int) = (.int (ns.foldl min n), .int (ns.foldl max n)) := by
  have hmin (m n : Int) : (Number.int m).min (.int n) = .int (min m n) := by
    rw [Number.min, Number.lt_int]
    split_ifs with h <;> simp only [decide_eq_true_eq] at h <;> congr 1 <;> omega
  have hmax (m n : Int) : (Number.int m).max (.int n) = .int (max m n) := by
    rw [Number.max, Number.lt_int]
    split_ifs with h <;> simp only [decide_eq_true_eq] at h <;> congr 1 <;> omega
  rw [List.map_cons, range, List.foldl_map, List.foldl_map, List.foldl_hom Number.int hmin,
    List.foldl_hom Number.int hmax]

theorem exists_range_eq_int {scores : List Number} (h : ∀ x ∈ scores, ∃ n : Nat, x = .int n) :
    ∃ low high : Int, range scores = (.int low, .int high) := by
  obtain ⟨ns, rfl⟩ : scores ∈ Set.range (List.map Number.int) := by
    rw [Set.range_list_map]
    intro x hx
    obtain ⟨n, rfl⟩ := h x hx
    exact ⟨n, rfl⟩
  cases ns with
  | nil => exact ⟨0, 0, rfl⟩
  | cons n ns => exact ⟨_, _, range_map_int n ns⟩

theorem isCount_firstSpecificity {b : Nat} {r : Rule} (h : r.IsSized b) :
    r.firstSpecificity.IsCount b := by
  unfold Rule.firstSpecificity
  cases hs : r.selectors with
  | nil => exact Specificity.isCount_zero b
  | cons s selectors => exact (h.selector s (by simp [hs])).specificity

theorem yields_run (h : AreSized sheets) :
    Yields (run sheets) (Issue.AreWithin 192) := by
  have hdefined : (Duplication.defined sheets).length ≤ 2 ^ 192 := by
    refine h.length_flatMap_sites_le fun site hsite => ?_
    rw [List.length_map]
    exact (h.rule site hsite).declarations
  have hfound : (Duplication.overrides sheets minimum).length ≤ 2 ^ 192 := by
    refine (List.length_filter_le _ _).trans ?_
    rw [List.length_map]
    exact (Listing.length_groups_le _ _).trans hdefined
  refine Issue.yields_collect hfound fun o ho => ?_
  obtain ⟨g, hg, rfl⟩ := List.mem_map.1 (List.mem_filter.1 ho).1
  have hsublist := Listing.sublist_of_mem_groups hg
  have hscore : ∀ d ∈ g.2.map Prod.snd,
      Yields d.specificity.score fun x => ∃ n : Nat, x = .int n := by
    intro d hd
    obtain ⟨p, hp, rfl⟩ := List.mem_map.1 hd
    have hp := hsublist.subset hp
    simp only [Duplication.defined, List.mem_flatMap, List.mem_map] at hp
    obtain ⟨site, hsite, d, -, rfl⟩ := hp
    refine (isCount_firstSpecificity (h.rule site hsite)).score.mono ?_
    rintro x ⟨n, hn, -⟩
    exact ⟨n, hn⟩
  unfold issue?
  refine (yields_mapM hscore).bind fun scores hscores => ?_
  obtain ⟨low, high, hrange⟩ := exists_range_eq_int hscores.2
  rw [hrange]
  refine yields_ok ?_
  intro i hi
  obtain rfl := Option.some.inj hi
  refine abs_natCast_le ?_
  rw [List.length_map]
  exact hsublist.length_le.trans hdefined

end OverridePressure

/-! ### All checks -/

/-- A check has an outcome, unless it is that on important declarations and divides by zero. -/
theorem yields_run (h : AreSized sheets) (t : Thresholds) (check : Check)
    (hdiv : check = .importantAbuse → ¬ ImportantAbuse.DividesByZero sheets t) :
    Yields (check.run sheets t) (Issue.AreWithin 193) := by
  have hwiden : ∀ issues, Issue.AreWithin 192 issues → Issue.AreWithin 193 issues :=
    fun issues hissues => hissues.mono (by norm_num)
  cases check with
  | deepSelectors => exact (DeepSelectors.yields_run h t).mono hwiden
  | highSpecificity => exact (HighSpecificity.yields_run h t).mono hwiden
  | importantAbuse => exact ImportantAbuse.yields_run h (hdiv rfl)
  | duplicateDeclarations => exact (DuplicateDeclarations.yields_run h t).mono hwiden
  | layoutRiskHotspot => exact yields_ok (hwiden _ (LayoutRiskHotspot.areWithin_run h))
  | overridePressure => exact (OverridePressure.yields_run h).mono hwiden
  | missingLayers => exact yields_ok (hwiden _ (MissingLayers.areWithin_run h))

/-- The enabled checks have outcomes unless that on important declarations divides by zero. -/
theorem yields_runAll (h : AreSized sheets) (config : Config)
    (hdiv : ¬ (config.toggles.importantAbuse = true ∧
      ImportantAbuse.DividesByZero sheets config.thresholds)) :
    Yields (runAll sheets config) (Issue.AreWithin 200) := by
  have heach : ∀ d ∈ (enabled config.toggles).map detector ++ [],
      Yields (d sheets config) (Issue.AreWithin 193) := by
    intro d hd
    rw [List.append_nil] at hd
    obtain ⟨check, hcheck, rfl⟩ := List.mem_map.1 hd
    refine yields_run h _ check ?_
    rintro rfl hzero
    exact hdiv ⟨mem_enabled.1 hcheck, hzero⟩
  have hcount : ((enabled config.toggles).map detector ++ []).length ≤ 7 := by
    rw [List.append_nil, List.length_map]
    exact List.length_filter_le _ _
  have hfound : Yields (runEach ((enabled config.toggles).map detector ++ []) sheets config)
      (Issue.AreWithin 200) := by
    refine (yields_mapM heach).bind fun found hfound => yields_pure ⟨?_, ?_⟩
    · rw [List.length_flatten]
      calc (found.map List.length).sum ≤ 7 * 2 ^ 193 :=
            sum_map_le (hfound.1.le.trans hcount) fun issues hissues => (hfound.2 issues hissues).1
        _ ≤ 2 ^ 200 := by norm_num
    · intro i hi
      obtain ⟨issues, hissues, hi⟩ := List.mem_flatten.1 hi
      exact ((hfound.2 issues hissues).2 i hi).trans (by norm_num)
  refine hfound.map fun issues hissues => ?_
  have hperm := bySeverity_perm issues
  exact ⟨hperm.length_eq.le.trans hissues.1, fun i hi => hissues.2 i (hperm.mem_iff.1 hi)⟩

/-- The checks have no outcome if one that is enabled divides by zero. -/
theorem runAll_ne_ok {config : Config} (htoggle : config.toggles.importantAbuse = true)
    (hdiv : ImportantAbuse.DividesByZero sheets config.thresholds) (issues : List Issue) :
    runAll sheets config ≠ .ok issues := by
  intro hrun
  obtain ⟨found, hfound⟩ := exists_run_of_runAll_eq_ok hrun .importantAbuse htoggle
  exact ImportantAbuse.run_ne_ok hdiv found hfound

end Check

end StyleGauge
