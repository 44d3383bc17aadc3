import StyleGauge.Check.Run
import StyleGauge.Proofs.Check.Found
import StyleGauge.Proofs.Insertion

/-!
# Failures among stylesheets

A stylesheet that could not be read has no rules and no layers. Wherever such failures stand among
other stylesheets, the checks find what they find without them; only the issue of missing layers,
which is named after the first file, may be named after one of them.
-/

namespace StyleGauge

open Number (Fault)

/-- A stylesheet that could not be read. -/
def Stylesheet.IsFailure (s : Stylesheet) : Prop :=
  ∃ file message, s = .failure file message

/-- The second stylesheets are the first ones with any number of failures among them, anywhere. -/
abbrev WithFailures (sheets more : List Stylesheet) : Prop :=
  Listing.Inserted Stylesheet.IsFailure sheets more

/-- The issue of missing layers as that of another file; other issues are left as they are. -/
def Issue.withLayersFile (file : String) (i : Issue) : Issue :=
  if i.check = .missingLayers then { i with evidence := { i.evidence with file } } else i

theorem Issue.severity_withLayersFile (file : String) (i : Issue) :
    (i.withLayersFile file).severity = i.severity := by
  unfold withLayersFile
  split_ifs <;> rfl

namespace WithFailures

variable {sheets more : List Stylesheet}

theorem sites_eq (h : WithFailures sheets more) : sites more = sites sheets := by
  refine h.flatMap_eq ?_
  rintro _ ⟨file, message, rfl⟩
  rfl

theorem total_eq (h : WithFailures sheets more) {f : Stylesheet → Nat}
    (hf : ∀ file message, f (.failure file message) = 0) :
    Listing.total (more.map f) = Listing.total (sheets.map f) := by
  refine Listing.Inserted.total_eq Nat.zero_add (h.map ?_)
  rintro _ ⟨file, message, rfl⟩
  exact hf file message

end WithFailures

namespace Check

variable {sheets more : List Stylesheet}

/-- The name of the first file. -/
def MissingLayers.firstFile (sheets : List Stylesheet) : String :=
  (sheets.head?.map Stylesheet.file).getD "unknown"

theorem MissingLayers.run_withFailures (h : WithFailures sheets more) :
    MissingLayers.run more =
      (MissingLayers.run sheets).map (Issue.withLayersFile (firstFile more)) := by
  have hrules : totalRules more = totalRules sheets := h.total_eq fun _ _ => rfl
  have himportant : totalImportant more = totalImportant sheets := h.total_eq fun _ _ => rfl
  have hlayers : more.any Stylesheet.usesLayers = sheets.any Stylesheet.usesLayers := by
    refine h.any_eq ?_
    rintro _ ⟨file, message, rfl⟩
    rfl
  have hlarge : more.countP (fun s => decide (largeFileRules ≤ s.rules.length)) =
      sheets.countP fun s => decide (largeFileRules ≤ s.rules.length) := by
    rw [List.countP_eq_length_filter, List.countP_eq_length_filter, h.filter_eq]
    rintro _ ⟨file, message, rfl⟩
    rfl
  have hsizeable : isSizeable more = isSizeable sheets := by
    rw [isSizeable, isSizeable, hrules, himportant, hlarge]
  rw [MissingLayers.run, MissingLayers.run, hlayers, hsizeable]
  split_ifs
  · rfl
  · rw [List.map_singleton, issue, issue, hrules, himportant]
    rfl

/-- Checks other than that for layers look at rules only. -/
theorem run_eq_of_sites_eq {check : Check} (hlayers : check ≠ .missingLayers)
    (h : sites more = sites sheets) (t : Thresholds) : check.run more t = check.run sheets t := by
  cases check with
  | deepSelectors => simp only [run, DeepSelectors.run, selectorSites, h]
  | highSpecificity => simp only [run, HighSpecificity.run, selectorSites, h]
  | importantAbuse =>
    simp only [run, ImportantAbuse.run, ImportantAbuse.byFile, ImportantAbuse.onLayout, h]
  | duplicateDeclarations =>
    simp only [run, DuplicateDeclarations.run, Duplication.declarations, Duplication.keyed, h]
  | layoutRiskHotspot => simp only [run, LayoutRiskHotspot.run, h]
  | overridePressure =>
    simp only [run, OverridePressure.run, Duplication.overrides, Duplication.defined, h]
  | missingLayers => exact absurd rfl hlayers

theorem run_withFailures (h : WithFailures sheets more) (check : Check) (t : Thresholds) :
    check.run more t =
      List.map (Issue.withLayersFile (MissingLayers.firstFile more)) <$> check.run sheets t := by
  by_cases hlayers : check = .missingLayers
  · subst hlayers
    simp only [run, MissingLayers.run_withFailures h]
    rfl
  · rw [run_eq_of_sites_eq hlayers h.sites_eq]
    cases hrun : check.run sheets t with
    | error e => rfl
    | ok issues =>
      have hsame : issues.map (Issue.withLayersFile (MissingLayers.firstFile more)) = issues := by
        have hleft : ∀ i ∈ issues, i.withLayersFile (MissingLayers.firstFile more) = i := by
          intro i hi
          exact if_neg (check_of_mem_run hrun i hi ▸ hlayers)
        rw [List.map_congr_left hleft, List.map_id']
      exact congrArg Except.ok hsame.symm

theorem bySeverity_map {f : Issue → Issue} (hf : ∀ i, (f i).severity = i.severity)
    (issues : List Issue) : bySeverity (issues.map f) = (bySeverity issues).map f := by
  refine (List.map_mergeSort ?_).symm
  intro i _ j _
  rw [hf, hf]

/-- A run with failures among the stylesheets ends as the run without them: with the same fault, or
with the same issues in the same order, the issue of missing layers being named after the file that
is now the first. -/
theorem runAll_withFailures (h : WithFailures sheets more) (config : Config) (extra : List Check) :
    runAll more config extra =
      List.map (Issue.withLayersFile (MissingLayers.firstFile more)) <$>
        runAll sheets config extra := by
  have hdetectors : ∀ d ∈ (enabled config.toggles).map detector ++ extra.map detector,
      d more config =
        List.map (Issue.withLayersFile (MissingLayers.firstFile more)) <$> d sheets config := by
    intro d hd
    rw [← List.map_append] at hd
    obtain ⟨check, -, rfl⟩ := List.mem_map.1 hd
    exact run_withFailures h check config.thresholds
  rw [runAll, runAll, runWith, runWith, runEach, runEach, mapM_eq_map_mapM hdetectors]
  generalize (List.mapM (fun d : Detector => d sheets config) _ : Except Fault _) = found
  cases found with
  | error e => rfl
  | ok found =>
    refine congrArg Except.ok ?_
    rw [← bySeverity_map (Issue.severity_withLayersFile _), List.map_flatten]

end Check

end StyleGauge
