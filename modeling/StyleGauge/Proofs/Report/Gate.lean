import StyleGauge.Proofs.Check.Critical
import StyleGauge.Proofs.Report.Outcome

/-!
# Passing reports

A report passes exactly if its score is good enough and the stylesheets have nothing that a check
finds critical. Its reasons say the same.
-/

namespace StyleGauge

open Number (Fault)

/-! ### Summaries -/

namespace Summary

/-- The overall score of a summary is an integer, and its count of critical issues is theirs. -/
theorem of_ofIssues_eq_ok {m : GlobalMetrics} {issues : List Issue} {s : Summary}
    (h : ofIssues m issues = .ok s) : (∃ n : Int, s.overallScore = .int n) ∧
      s.count .critical = (issues.countP fun i => i.severity == .critical : Nat) := by
  obtain ⟨scores, -, h⟩ := bind_eq_ok_iff.1 h
  obtain ⟨overall, -, h⟩ := bind_eq_ok_iff.1 h
  obtain rfl := pure_eq_ok_iff.1 h
  exact ⟨⟨overall, rfl⟩, rfl⟩

end Summary

namespace Report

variable {sheets : List Stylesheet} {config : Config} {timestamp : String} {r : Report}

/-! ### Reports -/

theorem IsRead.isParsed {s : Stylesheet} (h : IsRead s) : s.IsParsed := by
  cases h with
  | text file _ => exact .text _ file
  | failure file message => exact .failure file message

theorem scoreReasons_eq_nil_iff (h : ofStylesheets sheets config timestamp = .ok r) :
    r.scoreReasons config = [] ↔ r.summary.overallScore.le (.int config.maxScore) = true := by
  obtain ⟨-, m, hsummary⟩ := of_ofStylesheets_eq_ok h
  obtain ⟨⟨score, hscore⟩, -⟩ := Summary.of_ofIssues_eq_ok hsummary
  rw [scoreReasons, hscore, Number.lt_int, Number.le_int]
  simp

theorem criticalReasons_eq_nil_iff (h : ofStylesheets sheets config timestamp = .ok r) :
    r.criticalReasons = [] ↔ ¬∃ i ∈ r.issues, i.severity = .critical := by
  obtain ⟨-, m, hsummary⟩ := of_ofStylesheets_eq_ok h
  have hpos : (∃ i ∈ r.issues, i.severity = .critical) ↔ 0 < r.summary.count .critical := by
    rw [(Summary.of_ofIssues_eq_ok hsummary).2, Int.natCast_pos, List.countP_pos_iff]
    simp only [beq_iff_eq]
  rw [hpos, criticalReasons]
  simp

/-- What makes an issue critical: a selector four levels too deep, a selector with two ids, or a
file with far too many important declarations, where the check for it is on. -/
def HasCritical (sheets : List Stylesheet) (config : Config) : Prop :=
  config.toggles.deepSelectors = true ∧
      Check.FindsCritical .deepSelectors sheets config.thresholds ∨
    config.toggles.highSpecificity = true ∧
      Check.FindsCritical .highSpecificity sheets config.thresholds ∨
    config.toggles.importantAbuse = true ∧
      Check.FindsCritical .importantAbuse sheets config.thresholds

theorem exists_findsCritical_iff : (∃ check : Check, config.toggles.get check = true ∧
    check.FindsCritical sheets config.thresholds) ↔ HasCritical sheets config := by
  constructor
  · rintro ⟨check, hon, hfinds⟩
    cases check with
    | deepSelectors => exact .inl ⟨hon, hfinds⟩
    | highSpecificity => exact .inr (.inl ⟨hon, hfinds⟩)
    | importantAbuse => exact .inr (.inr ⟨hon, hfinds⟩)
    | duplicateDeclarations | layoutRiskHotspot | overridePressure | missingLayers => cases hfinds
  · rintro (⟨hon, hfinds⟩ | ⟨hon, hfinds⟩ | ⟨hon, hfinds⟩)
    · exact ⟨.deepSelectors, hon, hfinds⟩
    · exact ⟨.highSpecificity, hon, hfinds⟩
    · exact ⟨.importantAbuse, hon, hfinds⟩

/-- A report has a critical issue exactly if the stylesheets have what makes one critical. It passes
if its score is good enough and they have nothing of the kind, and then it has no reasons. Where at
least one important declaration is allowed there is a report of everything that can be read. -/
theorem passes_iff_not_hasCritical (hparsed : ∀ s ∈ sheets, s.IsParsed)
    (hlimit : 1 ≤ config.thresholds.maxImportantPerFile) (timestamp : String) :
    ((∀ s ∈ sheets, IsRead s) → sheets.length < 2 ^ 63 →
        ∃ r, ofStylesheets sheets config timestamp = .ok r) ∧
      ∀ r, ofStylesheets sheets config timestamp = .ok r →
        ((∃ i ∈ r.issues, i.severity = .critical) ↔ HasCritical sheets config) ∧
        (r.passes config = true ↔ r.summary.overallScore.le (.int config.maxScore) = true ∧
          ¬HasCritical sheets config) ∧
        (r.reasons config = [] ↔ r.passes config = true) := by
  constructor
  · intro hread hlength
    have hdiv : ¬(config.toggles.importantAbuse = true ∧
        Check.ImportantAbuse.DividesByZero sheets config.thresholds) := by
      rintro ⟨-, hzero, -⟩
      omega
    obtain ⟨r, hr, -⟩ :=
      yields_ofStylesheets (areSized_of_isRead hread hlength) config timestamp hdiv
    exact ⟨r, hr⟩
  · intro r hr
    have hissues := (of_ofStylesheets_eq_ok hr).1
    have hcritical : (∃ i ∈ r.issues, i.severity = .critical) ↔ HasCritical sheets config :=
      (Check.exists_critical_of_runAll_iff hparsed hlimit hissues).trans exists_findsCritical_iff
    have hpasses : r.passes config = true ↔ r.reasons config = [] := List.isEmpty_iff
    refine ⟨hcritical, ?_, hpasses.symm⟩
    rw [hpasses, reasons, List.append_eq_nil_iff, scoreReasons_eq_nil_iff hr,
      criticalReasons_eq_nil_iff hr, hcritical]

/-- Two ids are critical also in a selector that is not well formed. -/
theorem passes_iff_not_hasCritical_twoIds :
    let sheets := [Stylesheet.ofText "#a #b >\x7bcolor:red\x7d",
      .failure "b.css" "Failed to read file"]
    (∀ s ∈ sheets, s.IsParsed) ∧ (1 : Int) ≤ ({} : Config).thresholds.maxImportantPerFile ∧
      HasCritical sheets {} ∧
      ∃ r, ofStylesheets sheets {} "2024-01-01T00:00:00Z" = .ok r ∧
        (∃ i ∈ r.issues, i.severity = .critical) ∧ r.passes {} = false := by
  intro sheets
  have hread : ∀ s ∈ sheets, IsRead s := by
    intro s hs
    rcases List.mem_pair.1 hs with rfl | rfl
    · exact .text _ (by decide +kernel)
    · exact .failure "b.css" "Failed to read file"
  have hparsed : ∀ s ∈ sheets, s.IsParsed := fun s hs => (hread s hs).isParsed
  have hcritical : HasCritical sheets {} :=
    .inr (.inl ⟨rfl, _, List.mem_cons_self, by decide +kernel⟩)
  have hlimit : 1 ≤ ({} : Config).thresholds.maxImportantPerFile := by decide
  have hexact := passes_iff_not_hasCritical hparsed hlimit "2024-01-01T00:00:00Z"
  obtain ⟨r, hr⟩ := hexact.1 hread (by decide)
  obtain ⟨hissues, hpasses, -⟩ := hexact.2 r hr
  refine ⟨hparsed, hlimit, hcritical, r, hr, hissues.2 hcritical, ?_⟩
  exact Bool.eq_false_iff.2 fun h => (hpasses.1 h).2 hcritical

end Report

end StyleGauge
