import StyleGauge.Config.Setting
import StyleGauge.Proofs.Check.Found
import StyleGauge.Proofs.Listing

/-!
# Checks switched on and off

Issues in order of severity are those of each severity, one severity after the other. So the order
does not change for the others if some issues are taken away, and switching a check off takes away
its own issues and nothing else.
-/

namespace StyleGauge

/-! ### Detectors -/

namespace Detector

variable {sheets : List Stylesheet} {config : Config}

/-- A detector comes to an end. -/
def Ends (d : Detector) (sheets : List Stylesheet) (config : Config) : Prop :=
  ∃ issues, d sheets config = .ok issues

instance (d : Detector) (sheets : List Stylesheet) (config : Config) :
    Decidable (d.Ends sheets config) :=
  match h : d sheets config with
  | .ok issues => .isTrue ⟨issues, h⟩
  | .error _ => .isFalse fun ⟨_, hok⟩ => by
    rw [h] at hok
    cases hok

/-- What a detector finds; nothing if it does not come to an end. -/
def found (d : Detector) (sheets : List Stylesheet) (config : Config) : List Issue :=
  match d sheets config with
  | .ok issues => issues
  | .error _ => []

theorem Ends.eq_ok {d : Detector} (h : d.Ends sheets config) :
    d sheets config = .ok (d.found sheets config) := by
  obtain ⟨issues, h⟩ := h
  rw [found, h]

end Detector

namespace Check

/-! ### The order of issues -/

theorem rankLe_trans (i j k : Issue) (hij : decide (i.severity.rank ≤ j.severity.rank) = true)
    (hjk : decide (j.severity.rank ≤ k.severity.rank) = true) :
    decide (i.severity.rank ≤ k.severity.rank) = true :=
  decide_eq_true (Nat.le_trans (of_decide_eq_true hij) (of_decide_eq_true hjk))

theorem rankLe_total (i j : Issue) : (decide (i.severity.rank ≤ j.severity.rank) ||
    decide (j.severity.rank ≤ i.severity.rank)) = true := by
  simpa using Nat.le_total i.severity.rank j.severity.rank

theorem pairwise_bySeverity (issues : List Issue) :
    (bySeverity issues).Pairwise fun i j => i.severity.rank ≤ j.severity.rank :=
  (List.pairwise_mergeSort rankLe_trans rankLe_total issues).imp of_decide_eq_true

/-- The issues of one severity keep their order. -/
theorem filter_severity_bySeverity (issues : List Issue) (s : Severity) :
    (bySeverity issues).filter (·.severity = s) = issues.filter (·.severity = s) := by
  refine Listing.filter_mergeSort rankLe_trans rankLe_total fun i j hi hj => ?_
  simp only [decide_eq_true_eq] at hi hj
  simp [hi, hj]

theorem eq_flatMap_of_pairwise {issues : List Issue}
    (h : issues.Pairwise fun i j => i.severity.rank ≤ j.severity.rank) :
    issues = Severity.all.flatMap fun s => issues.filter (·.severity = s) := by
  induction h with
  | nil => rfl
  | @cons i issues hi _ ih =>
    -- no issue behind the first one is worse
    have hnone : ∀ s : Severity, s.rank < i.severity.rank →
        issues.filter (·.severity = s) = [] := by
      intro s hs
      refine List.filter_eq_nil_iff.2 fun j hj => ?_
      have := hi j hj
      simp only [decide_eq_true_eq]
      rintro rfl
      omega
    simp only [Severity.all, List.flatMap_cons, List.flatMap_nil, List.append_nil] at ih ⊢
    cases hs : i.severity with
    | critical => simpa [hs] using ih
    | high =>
      rw [hs] at hnone
      simpa [hs, hnone .critical (by decide)] using ih
    | medium =>
      rw [hs] at hnone
      simpa [hs, hnone .critical (by decide), hnone .high (by decide)] using ih
    | low =>
      rw [hs] at hnone
      simpa [hs, hnone .critical (by decide), hnone .high (by decide),
        hnone .medium (by decide)] using ih

/-- In order of severity there are the issues of each severity, one severity after the other. -/
theorem bySeverity_eq_flatMap (issues : List Issue) :
    bySeverity issues = Severity.all.flatMap fun s => issues.filter (·.severity = s) := by
  rw [eq_flatMap_of_pairwise (pairwise_bySeverity issues)]
  simp only [filter_severity_bySeverity]

theorem filter_bySeverity (p : Issue → Bool) (issues : List Issue) :
    (bySeverity issues).filter p = bySeverity (issues.filter p) := by
  rw [bySeverity_eq_flatMap, bySeverity_eq_flatMap, List.filter_flatMap]
  exact List.flatMap_congr fun s _ => List.filter_comm ..

/-! ### Runs -/

section

variable {sheets : List Stylesheet} {config : Config}

theorem runEach_eq_ok {detectors : List Detector} (h : ∀ d ∈ detectors, d.Ends sheets config) :
    runEach detectors sheets config = .ok (detectors.flatMap fun d => d.found sheets config) := by
  have hruns : (detectors.mapM fun d : Detector => d sheets config) =
      .ok (detectors.map fun d => d.found sheets config) :=
    mapM_eq_ok_map fun d hd => (h d hd).eq_ok
  rw [runEach, hruns, List.flatMap_def]
  rfl

theorem enabled_switchOff (toggles : Toggles) (t : Check) :
    enabled (toggles.set false t) = (enabled toggles).filter (· ≠ t) := by
  unfold enabled
  rw [List.filter_filter]
  refine List.filter_congr fun c _ => ?_
  rw [Toggles.get_set]
  by_cases h : t = c <;> simp [h, eq_comm]

theorem id_injective : Function.Injective id := by
  intro a b h
  cases a <;> cases b <;> first | rfl | simp [id] at h

/-- The issues of some checks among those of all. -/
theorem filter_check_flatMap_found {checks : List Check} (p : Check → Bool)
    (h : ∀ c ∈ checks, c.detector.Ends sheets config) :
    (checks.flatMap fun c => c.detector.found sheets config).filter (fun i => p i.check) =
      (checks.filter p).flatMap fun c => c.detector.found sheets config := by
  induction checks with
  | nil => rfl
  | cons c checks ih =>
    have hc : ∀ i ∈ c.detector.found sheets config, i.check = c :=
      check_of_mem_run (h c (by simp)).eq_ok
    rw [List.flatMap_cons, List.filter_append, ih fun d hd => h d (List.mem_cons_of_mem c hd)]
    by_cases hp : p c = true
    · have hall : (c.detector.found sheets config).filter (fun i => p i.check) =
          c.detector.found sheets config :=
        List.filter_eq_self.2 fun i hi => by rw [hc i hi, hp]
      rw [hall, List.filter_cons_of_pos hp, List.flatMap_cons]
    · have hnone : (c.detector.found sheets config).filter (fun i => p i.check) = [] :=
        List.filter_eq_nil_iff.2 fun i hi => by rwa [hc i hi]
      rw [hnone, List.nil_append, List.filter_cons_of_neg hp]

/-- All issues but those of one check are what all checks but that one find. -/
theorem filter_flatMap_found {t : Check} {checks : List Check}
    (h : ∀ c ∈ checks, c.detector.Ends sheets config) :
    (checks.flatMap fun c => c.detector.found sheets config).filter (·.check.id ≠ t.id) =
      (checks.filter (· ≠ t)).flatMap fun c => c.detector.found sheets config := by
  rw [← filter_check_flatMap_found (fun c => decide (c ≠ t)) h]
  refine List.filter_congr fun i _ => ?_
  rw [decide_eq_decide]
  exact id_injective.ne_iff

/-- The detectors that a run goes through: the checks that are on, and extra ones. -/
theorem runWith_eq_ok {extra : List Detector}
    (hchecks : ∀ c, config.toggles.get c = true → c.detector.Ends sheets config)
    (hextra : ∀ d ∈ extra, d.Ends sheets config) :
    runWith sheets config extra =
      .ok (bySeverity (((enabled config.toggles).map detector ++ extra).flatMap
        fun d => d.found sheets config)) := by
  have hends : ∀ d ∈ (enabled config.toggles).map detector ++ extra, d.Ends sheets config := by
    intro d hd
    rcases List.mem_append.1 hd with hd | hd
    · obtain ⟨c, hc, rfl⟩ := List.mem_map.1 hd
      exact hchecks c (mem_enabled.1 hc)
    · exact hextra d hd
  rw [runWith, runEach_eq_ok hends]
  rfl

/-- Switching a check off takes away the issues with its id and leaves all others in their order.
Extra detectors have to be such that the switch is nothing to them: they find the same with the
check off, and no issue with its id. The issues of a run are those of all its detectors, one
detector after the other, in order of severity and otherwise in the order in which they were
found. -/
theorem runWith_switchOff
    (hchecks : ∀ c, config.toggles.get c = true → c.detector.Ends sheets config) :
    (∀ t, config.toggles.get t = true → ∀ extra : List Detector,
        (∀ d ∈ extra, d.Ends sheets config ∧
          d sheets (config.apply (.toggle t false)) = d sheets config ∧
          ∀ i ∈ d.found sheets config, i.check.id ≠ t.id) →
        ∃ issues, runWith sheets config extra = .ok issues ∧
          runWith sheets (config.apply (.toggle t false)) extra =
            .ok (issues.filter (·.check.id ≠ t.id))) ∧
      ∀ extra : List Detector, (∀ d ∈ extra, d.Ends sheets config) →
        ∃ issues, runWith sheets config extra = .ok issues ∧
          let found := ((enabled config.toggles).map detector ++ extra).flatMap
            fun d => d.found sheets config
          issues.Perm found ∧
            (issues.Pairwise fun i j => i.severity.rank ≤ j.severity.rank) ∧
            ∀ s : Severity, issues.filter (·.severity = s) = found.filter (·.severity = s) := by
  constructor
  · intro t ht extra hextra
    have hoff : ∀ c, (config.apply (.toggle t false)).toggles.get c = true →
        c.detector.Ends sheets (config.apply (.toggle t false)) := by
      intro c hc
      refine hchecks c ?_
      simp only [Config.apply, Toggles.get_set] at hc
      split_ifs at hc
      exact hc
    have hsame : ∀ d ∈ extra, d.found sheets (config.apply (.toggle t false)) =
        (d.found sheets config).filter (·.check.id ≠ t.id) := by
      intro d hd
      obtain ⟨-, hsame, hids⟩ := hextra d hd
      rw [List.filter_eq_self.2 fun i hi => decide_eq_true (hids i hi), Detector.found, hsame]
      rfl
    have hextraOff : ∀ d ∈ extra, d.Ends sheets (config.apply (.toggle t false)) := by
      intro d hd
      obtain ⟨hends, hsame, -⟩ := hextra d hd
      rw [Detector.Ends, hsame]
      exact hends
    have hown : ∀ c ∈ enabled config.toggles, c.detector.Ends sheets config :=
      fun c hc => hchecks c (mem_enabled.1 hc)
    refine ⟨_, runWith_eq_ok hchecks fun d hd => (hextra d hd).1, ?_⟩
    rw [runWith_eq_ok hoff hextraOff, filter_bySeverity, List.flatMap_append, List.flatMap_append,
      List.filter_append, List.flatMap_map, List.flatMap_map, filter_flatMap_found hown,
      List.filter_flatMap, List.flatMap_congr hsame]
    simp only [Config.apply, enabled_switchOff]
    rfl
  · intro extra hextra
    refine ⟨_, runWith_eq_ok hchecks hextra, bySeverity_perm _, pairwise_bySeverity _, ?_⟩
    exact filter_severity_bySeverity _

/-- A deep selector with an id has two issues of one severity. -/
theorem runWith_switchOff_deepSelectors :
    let sheets := [Stylesheet.ofText "#a .b .c .d .e .f\x7bwidth:1px !important\x7d"]
    (∀ c : Check, c.detector.Ends sheets {}) ∧
      ∃ issues, runAll sheets {} = .ok issues ∧
        issues.map (·.check.id) = ["DEEP_SELECTOR", "HIGH_SPECIFICITY", "IMPORTANT_ABUSE"] ∧
        runAll sheets (({} : Config).apply (.toggle .deepSelectors false)) =
          .ok (issues.filter (·.check.id ≠ "DEEP_SELECTOR")) := by
  intro sheets
  have hends : ∀ c : Check, c.detector.Ends sheets {} := by
    intro c
    cases c <;> decide +kernel
  obtain ⟨issues, hon, hoff⟩ :=
    (runWith_switchOff fun c _ => hends c).1 .deepSelectors rfl [] (by simp)
  have hissues := Except.ok.inj ((runWith_eq_ok (fun c _ => hends c) (by simp)).symm.trans hon)
  refine ⟨hends, issues, hon, ?_, hoff⟩
  rw [← hissues, bySeverity_eq_flatMap]
  decide +kernel

end

end Check

end StyleGauge
