import StyleGauge.Config.Basic
import StyleGauge.Issue.Basic
import StyleGauge.Layout
import StyleGauge.Site

/-!
# Layout risk hotspots

A rule whose declarations make a layout risk of five or more is an issue.
-/

namespace StyleGauge

open Number (Fault)

namespace Check.LayoutRiskHotspot

/-- The risk from which on a rule is reported. -/
def threshold : Nat := 5

/-- The ways out of positioned boxes. -/
def positioningSuggestions : List Suggestion := [
  ⟨"Use relative positioning",
    "Consider using flexbox/grid with relative positioning instead of absolute"⟩,
  ⟨"Isolate positioning",
    "Split positioning rules from other layout properties for better maintainability"⟩]

/-- The ways out of many layout properties. -/
def layoutSuggestions : List Suggestion := [
  ⟨"Simplify layout",
    "Consider using modern layout techniques (flexbox/grid) to reduce property count"⟩,
  ⟨"Component isolation", "Ensure layout rules are scoped to specific components"⟩]

/-- The issue of a rule of a given risk. -/
def issue (risk : Nat) (site : Site) : Issue :=
  let count := site.rule.declarations.countP Declaration.affectsLayout
  let positioned := site.rule.declarations.any Declaration.isOutOfFlow
  let shown := toString risk
  let properties := toString count
  let note := if positioned then " including absolute/fixed positioning" else ""
  { check := .layoutRiskHotspot
    severity := .ofLayoutRisk (.ofNat risk)
    confidence := .float (Binary64.ofRat (mkRat 7 10))
    title := s!"Layout risk hotspot (risk score: {shown})"
    why := s!"This rule contains {properties} layout-affecting properties{note}. Complex layout " ++
      "rules are fragile and can cause unexpected behavior across different viewport sizes."
    evidence := {
      file := site.file
      selector := nonEmpty site.rule.firstSelector
      line := site.rule.line
      count := some (count : Int) }
    suggestions := if positioned then positioningSuggestions else layoutSuggestions
    tags := [.layoutRisk, .maintainability] }

/-- The issue of a rule, if its risk is high enough. -/
def issue? (site : Site) : Option Issue :=
  let risk := Layout.risk site.rule.declarations
  if risk < threshold then none else some (issue risk site)

/-- The issues of all rules. -/
def run (sheets : List Stylesheet) : List Issue :=
  (sites sheets).filterMap issue?

end Check.LayoutRiskHotspot

end StyleGauge
