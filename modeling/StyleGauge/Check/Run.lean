import StyleGauge.Check.DeepSelectors
import StyleGauge.Check.DuplicateDeclarations
import StyleGauge.Check.HighSpecificity
import StyleGauge.Check.ImportantAbuse
import StyleGauge.Check.LayoutRiskHotspot
import StyleGauge.Check.MissingLayers
import StyleGauge.Check.OverridePressure

/-!
# Running checks

The checks that are on run in their order, and extra detectors after them. Their issues are put in
order of severity, the worst first; issues of one severity stay in the order in which they were
found.
-/

namespace StyleGauge

open Number (Fault)

/-- What looks for issues in stylesheets under a configuration: a check, or anything else. -/
abbrev Detector := List Stylesheet → Config → Except Fault (List Issue)

namespace Check

/-- The issues that a check finds in stylesheets. -/
def run (check : Check) (sheets : List Stylesheet) (t : Thresholds) : Except Fault (List Issue) :=
  match check with
  | deepSelectors => DeepSelectors.run sheets t
  | highSpecificity => HighSpecificity.run sheets t
  | importantAbuse => ImportantAbuse.run sheets t
  | duplicateDeclarations => DuplicateDeclarations.run sheets t
  | layoutRiskHotspot => .ok (LayoutRiskHotspot.run sheets)
  | overridePressure => OverridePressure.run sheets
  | missingLayers => .ok (MissingLayers.run sheets)

/-- A check as a detector. Of the configuration it knows the thresholds alone. -/
def detector (check : Check) : Detector :=
  fun sheets config => check.run sheets config.thresholds

/-- The checks that are on, in their order. -/
def enabled (toggles : Toggles) : List Check :=
  all.filter toggles.get

/-- The issues that several detectors find, one detector after the other. -/
def runEach (detectors : List Detector) (sheets : List Stylesheet) (config : Config) :
    Except Fault (List Issue) := do
  return (← detectors.mapM fun d => d sheets config).flatten

/-- Issues in order of severity, those of one severity in the order given. -/
def bySeverity (issues : List Issue) : List Issue :=
  issues.mergeSort fun a b => decide (a.severity.rank ≤ b.severity.rank)

/-- The issues that the enabled checks and extra detectors find, the worst first. -/
def runWith (sheets : List Stylesheet) (config : Config) (extra : List Detector) :
    Except Fault (List Issue) :=
  bySeverity <$> runEach ((enabled config.toggles).map detector ++ extra) sheets config

/-- The issues that the enabled checks and extra ones find, the worst first. An extra check runs
even if it is off. -/
def runAll (sheets : List Stylesheet) (config : Config) (extra : List Check := []) :
    Except Fault (List Issue) :=
  runWith sheets config (extra.map detector)

theorem bySeverity_perm (issues : List Issue) : (bySeverity issues).Perm issues :=
  List.mergeSort_perm ..

end Check

end StyleGauge
