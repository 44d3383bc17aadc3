/-!
# Checks

The checks that an analysis makes. Each can be switched on and off by its name, and every issue
that it finds carries its id.
-/

namespace StyleGauge

/-- A check for one kind of issue. -/
inductive Check where
  | deepSelectors
  | highSpecificity
  | importantAbuse
  | duplicateDeclarations
  | layoutRiskHotspot
  | overridePressure
  | missingLayers
  deriving DecidableEq, Repr

namespace Check

/-- All checks, in the order in which they run. -/
def all : List Check :=
  [deepSelectors, highSpecificity, importantAbuse, duplicateDeclarations, layoutRiskHotspot,
    overridePressure, missingLayers]

/-- The id of the issues that the check finds. -/
def id : Check → String
  | deepSelectors => "DEEP_SELECTOR"
  | highSpecificity => "HIGH_SPECIFICITY"
  | importantAbuse => "IMPORTANT_ABUSE"
  | duplicateDeclarations => "DUPLICATE_DECLARATIONS"
  | layoutRiskHotspot => "LAYOUT_RISK_HOTSPOT"
  | overridePressure => "OVERRIDE_PRESSURE"
  | missingLayers => "MISSING_LAYERS"

/-- The name of the check, its words joined by underscores. -/
def name : Check → String
  | deepSelectors => "deep_selectors"
  | highSpecificity => "high_specificity"
  | importantAbuse => "important_abuse"
  | duplicateDeclarations => "duplicate_declarations"
  | layoutRiskHotspot => "layout_risk_hotspot"
  | overridePressure => "override_pressure"
  | missingLayers => "missing_layers"

/-- The name of the check, its words told apart by capitals. -/
def key : Check → String
  | deepSelectors => "deepSelectors"
  | highSpecificity => "highSpecificity"
  | importantAbuse => "importantAbuse"
  | duplicateDeclarations => "duplicateDeclarations"
  | layoutRiskHotspot => "layoutRiskHotspot"
  | overridePressure => "overridePressure"
  | missingLayers => "missingLayers"

/-- The check with a given name, in either spelling. -/
def ofName? (name : String) : Option Check :=
  all.find? fun c => c.key == name || c.name == name

theorem mem_all (c : Check) : c ∈ all := by
  cases c <;> simp [all]

theorem nodup_all : all.Nodup := by
  decide

end Check

end StyleGauge
