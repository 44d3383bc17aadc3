import StyleGauge.Issue.Basic

/-!
# Recommendations

What to do about the issues of an analysis, one piece of advice for each group of checks that
found something, the most urgent first.
-/

namespace StyleGauge

/-- Advice on a category of issues. -/
structure Recommendation where
  category : String
  title : String
  description : String
  /-- How urgent it is: `high`, `medium` or `low`. -/
  priority : String
  /-- The checks whose issues it is about. -/
  checks : List Check := []
  deriving DecidableEq, Repr

namespace Recommendation

/-- How many issues a check found. -/
def count (check : Check) (issues : List Issue) : Nat :=
  issues.countP fun i => i.check == check

/-- The recommendation if there is reason for it. -/
def when (reason : Bool) (r : Recommendation) : List Recommendation :=
  if reason then [r] else []

/-- Advice on selectors. -/
def onSelectors (issues : List Issue) : List Recommendation :=
  let specific := count .highSpecificity issues
  when (0 < specific || 0 < count .deepSelectors issues) {
    category := "Specificity"
    title := "Reduce selector complexity"
    description := "Your CSS has high specificity selectors or deeply nested selectors. " ++
      "Consider adopting a flat, single-class approach like BEM or utility-first CSS."
    priority := if 5 < specific then "high" else "medium"
    checks := [.highSpecificity, .deepSelectors] }

/-- Advice on important declarations. -/
def onImportant (issues : List Issue) : List Recommendation :=
  when (0 < count .importantAbuse issues) {
    category := "Cascade"
    title := "Reduce !important usage"
    description := "Excessive !important declarations indicate specificity wars. Establish " ++
      "a clear cascade hierarchy using CSS layers or lower-specificity selectors."
    priority := "high"
    checks := [.importantAbuse] }

/-- Advice on competing definitions. -/
def onOverrides (issues : List Issue) : List Recommendation :=
  when (0 < count .overridePressure issues) {
    category := "Cascade"
    title := "Consolidate override patterns"
    description := "Some properties are defined many times across different selectors. " ++
      "Define base styles once and use modifiers for variations."
    priority := "medium"
    checks := [.overridePressure] }

/-- Advice on repeated declarations. -/
def onDuplicates (issues : List Issue) : List Recommendation :=
  let duplicates := count .duplicateDeclarations issues
  when (0 < duplicates) {
    category := "Duplication"
    title := "Extract repeated declarations"
    description := "Multiple declarations are repeated throughout your CSS. Extract them " ++
      "into utility classes or CSS custom properties for better maintainability."
    priority := if 10 < duplicates then "high" else "medium"
    checks := [.duplicateDeclarations] }

/-- Advice on layout. -/
def onLayout (issues : List Issue) : List Recommendation :=
  let hotspots := count .layoutRiskHotspot issues
  when (0 < hotspots) {
    category := "Layout"
    title := "Simplify layout rules"
    description := "Some rules contain many layout-affecting properties. Consider using " ++
      "modern layout techniques (flexbox/grid) and isolating positioning from other layout " ++
      "concerns."
    priority := if 5 < hotspots then "high" else "low"
    checks := [.layoutRiskHotspot] }

/-- The place of a priority in the order of urgency. -/
def urgency (priority : String) : Nat :=
  if priority = "high" then 0 else if priority = "medium" then 1 else 2

/-- The advice on all issues, the most urgent first. -/
def ofIssues (issues : List Issue) : List Recommendation :=
  (onSelectors issues ++ onImportant issues ++ onOverrides issues ++ onDuplicates issues ++
    onLayout issues).mergeSort fun a b => decide (urgency a.priority ≤ urgency b.priority)

end Recommendation

end StyleGauge
