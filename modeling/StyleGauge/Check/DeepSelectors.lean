import StyleGauge.Config.Basic
import StyleGauge.Issue.Basic
import StyleGauge.Site

/-!
# Deep selectors

Every selector with more compounds than the threshold allows is an issue.
-/

namespace StyleGauge

open Number (Fault)

/-- The selectors of stylesheets with their rules, in order. -/
def selectorSites (sheets : List Stylesheet) : List (Site × Selector) :=
  (sites sheets).flatMap fun site => site.rule.selectors.map (site, ·)

@[simp] theorem selectorSites_append (a b : List Stylesheet) :
    selectorSites (a ++ b) = selectorSites a ++ selectorSites b := by
  simp [selectorSites]

namespace Check.DeepSelectors

/-- The ways out of a deep selector. -/
def suggestions : List Suggestion := [
  ⟨"Flatten selector",
    "Replace with a single class that describes the component/element purpose"⟩,
  ⟨"Use BEM naming",
    "Adopt BEM (Block__Element--Modifier) naming to flatten hierarchy"⟩]

/-- The issue of a selector of a given severity. -/
def issue (limit : Int) (severity : Severity) (site : Site) (s : Selector) : Issue :=
  let depth := toString s.depth
  let limit := toString limit
  { check := .deepSelectors
    severity
    confidence := .float (Binary64.ofRat (mkRat 9 10))
    title := s!"Deeply nested selector (depth: {depth})"
    why := s!"Selectors with depth > {limit} are harder to maintain, increase specificity " ++
      "pressure, and create tight coupling to DOM structure. " ++
      s!"This selector has {depth} levels of nesting."
    evidence := {
      file := site.file
      selector := some s.raw
      line := site.rule.line
      column := site.rule.column
      depth := some s.depth }
    suggestions
    tags := [.specificity, .maintainability] }

/-- The issue of a selector, if it is too deep. -/
def issue? (limit : Int) (c : Site × Selector) : Except Fault (Option Issue) := do
  if c.2.depth ≤ limit then return none
  return some (issue limit (← Severity.ofDepth (.int c.2.depth) (.int limit)) c.1 c.2)

/-- The issues of all selectors. -/
def run (sheets : List Stylesheet) (t : Thresholds) : Except Fault (List Issue) :=
  Issue.collect (selectorSites sheets) (issue? t.maxSelectorDepth)

end Check.DeepSelectors

end StyleGauge
