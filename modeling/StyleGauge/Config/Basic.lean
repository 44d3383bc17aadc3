import StyleGauge.Check.Basic
import StyleGauge.Json.Basic

/-!
# Configuration

What an analysis can be told: the files to read, the thresholds of the checks, the checks that are
on, and the score that is still good enough.
-/

namespace StyleGauge

/-- The values from which on the checks report. -/
structure Thresholds where
  maxSelectorDepth : Int := 4
  maxSpecificityScore : Int := 40
  maxImportantPerFile : Int := 5
  maxDuplicateDeclarations : Int := 3
  deriving DecidableEq, Repr

/-- The checks that are on. -/
structure Toggles where
  deepSelectors : Bool := true
  highSpecificity : Bool := true
  importantAbuse : Bool := true
  duplicateDeclarations : Bool := true
  layoutRiskHotspot : Bool := true
  overridePressure : Bool := true
  missingLayers : Bool := true
  deriving DecidableEq, Repr

/-- A complete configuration. -/
structure Config where
  /-- Patterns of the files to read. -/
  included : List String := ["**/*.css"]
  /-- Patterns of the files to leave out. -/
  excluded : List String := ["**/node_modules/**", "**/dist/**", "**/vendor/**"]
  thresholds : Thresholds := {}
  /-- More patterns of files to leave out. -/
  ignored : List String := []
  /-- The greatest overall score that passes. -/
  maxScore : Int := 100
  toggles : Toggles := {}
  deriving DecidableEq, Repr

/-- One of the thresholds. -/
inductive Threshold where
  | maxSelectorDepth
  | maxSpecificityScore
  | maxImportantPerFile
  | maxDuplicateDeclarations
  deriving DecidableEq, Repr

namespace Threshold

/-- All thresholds. -/
def all : List Threshold :=
  [maxSelectorDepth, maxSpecificityScore, maxImportantPerFile, maxDuplicateDeclarations]

/-- The name of a threshold, its words told apart by capitals. -/
def key : Threshold → String
  | maxSelectorDepth => "maxSelectorDepth"
  | maxSpecificityScore => "maxSpecificityScore"
  | maxImportantPerFile => "maxImportantPerFile"
  | maxDuplicateDeclarations => "maxDuplicateDeclarations"

/-- The name of a threshold, its words joined by underscores. -/
def name : Threshold → String
  | maxSelectorDepth => "max_selector_depth"
  | maxSpecificityScore => "max_specificity_score"
  | maxImportantPerFile => "max_important_per_file"
  | maxDuplicateDeclarations => "max_duplicate_declarations"

/-- The threshold with a given name, in either spelling. -/
def ofName? (name : String) : Option Threshold :=
  all.find? fun t => t.key == name || t.name == name

end Threshold

namespace Thresholds

/-- The value of a threshold. -/
def get (t : Thresholds) : Threshold → Int
  | .maxSelectorDepth => t.maxSelectorDepth
  | .maxSpecificityScore => t.maxSpecificityScore
  | .maxImportantPerFile => t.maxImportantPerFile
  | .maxDuplicateDeclarations => t.maxDuplicateDeclarations

/-- The thresholds with one of them set. -/
def set (t : Thresholds) (value : Int) : Threshold → Thresholds
  | .maxSelectorDepth => { t with maxSelectorDepth := value }
  | .maxSpecificityScore => { t with maxSpecificityScore := value }
  | .maxImportantPerFile => { t with maxImportantPerFile := value }
  | .maxDuplicateDeclarations => { t with maxDuplicateDeclarations := value }

theorem get_set (t : Thresholds) (value : Int) (a b : Threshold) :
    (t.set value a).get b = if a = b then value else t.get b := by
  cases a <;> cases b <;> rfl

end Thresholds

namespace Toggles

/-- Whether a check is on. -/
def get (t : Toggles) : Check → Bool
  | .deepSelectors => t.deepSelectors
  | .highSpecificity => t.highSpecificity
  | .importantAbuse => t.importantAbuse
  | .duplicateDeclarations => t.duplicateDeclarations
  | .layoutRiskHotspot => t.layoutRiskHotspot
  | .overridePressure => t.overridePressure
  | .missingLayers => t.missingLayers

/-- The toggles with one check switched on or off. -/
def set (t : Toggles) (on : Bool) : Check → Toggles
  | .deepSelectors => { t with deepSelectors := on }
  | .highSpecificity => { t with highSpecificity := on }
  | .importantAbuse => { t with importantAbuse := on }
  | .duplicateDeclarations => { t with duplicateDeclarations := on }
  | .layoutRiskHotspot => { t with layoutRiskHotspot := on }
  | .overridePressure => { t with overridePressure := on }
  | .missingLayers => { t with missingLayers := on }

theorem get_set (t : Toggles) (on : Bool) (a b : Check) :
    (t.set on a).get b = if a = b then on else t.get b := by
  cases a <;> cases b <;> rfl

end Toggles

namespace Config

/-- The configuration that a new configuration file holds: stricter than the defaults, so that it
is of use as it is. -/
def fresh : Config :=
  { maxScore := 60 }

/-- A configuration as it stands in a file. -/
def toJson (c : Config) : Json := .object [
  ("include", .ofStrings c.included),
  ("exclude", .ofStrings c.excluded),
  ("thresholds", .object (Threshold.all.map fun t => (t.key, .ofInt (c.thresholds.get t)))),
  ("ignorePatterns", .ofStrings c.ignored),
  ("maxScore", .ofInt c.maxScore),
  ("rules", .object (Check.all.map fun r => (r.key, .bool (c.toggles.get r))))]

end Config

end StyleGauge
