import StyleGauge.Config.Basic
import StyleGauge.Duplication
import StyleGauge.Issue.Basic

/-!
# Override pressure

A property with many definitions is an issue, graded by their count and by how far the scores of
their specificities are apart.
-/

namespace StyleGauge

open Number (Fault)

namespace Check.OverridePressure

/-- How many definitions a property has to have. -/
def minimum : Int := 5

/-- The least and the greatest of numbers, the first of equal ones. -/
def range : List Number → Number × Number
  | [] => (0, 0)
  | n :: ns => (ns.foldl Number.min n, ns.foldl Number.max n)

/-- The issue of a property whose definitions score from `low` to `high`. -/
def issue (low high spread : Number) (o : Duplication.Override) : Issue :=
  let property := o.property
  let count := toString o.definitions.length
  let lowest := low.text
  let highest := high.text
  let first := o.definitions.head?.map Duplication.Definition.location
  { check := .overridePressure
    severity := .ofOverrides (.ofNat o.definitions.length) spread
    confidence := .float (Binary64.ofRat (mkRat 7 10))
    title := s!"High override pressure: {property} ({count} definitions)"
    why := s!"The property \"{property}\" is defined {count} times across different selectors " ++
      s!"with specificity ranging from {lowest} to {highest}. This suggests competing styles " ++
      "and potential cascade conflicts."
    evidence := {
      file := (first.map Location.file).getD ""
      selector := first.map Location.selector
      property := some property
      line := first.bind Location.line
      count := some (o.definitions.length : Int) }
    suggestions := [
      ⟨"Consolidate base styles",
        s!"Define {property} once in a base rule and use modifiers for variations"⟩,
      ⟨"Review cascade order",
        "Ensure styles follow a logical cascade from general to specific"⟩,
      ⟨"Use CSS custom properties",
        s!"Consider using --{property} custom property that can be overridden at component level"⟩]
    tags := [.cascade, .override, .maintainability] }

/-- The issue of a property with enough definitions. -/
def issue? (o : Duplication.Override) : Except Fault (Option Issue) := do
  let scores ← o.definitions.mapM fun d => d.specificity.score
  let (low, high) := range scores
  return some (issue low high (← high.sub low) o)

/-- The issues of all properties. -/
def run (sheets : List Stylesheet) : Except Fault (List Issue) :=
  Issue.collect (Duplication.overrides sheets minimum) issue?

end Check.OverridePressure

end StyleGauge
