import StyleGauge.Check.DeepSelectors

/-!
# Specific selectors

Every selector with an id is an issue, and every other one whose specificity scores above the
threshold.
-/

namespace StyleGauge

open Number (Fault)

namespace Check.HighSpecificity

/-- The ways out of an id. -/
def idSuggestions : List Suggestion := [
  ⟨"Replace ID with class", "Convert #id selectors to .class selectors for lower specificity"⟩,
  ⟨"Use data attributes",
    "Consider [data-component=\"name\"] for JavaScript hooks instead of IDs"⟩]

/-- The ways out of a long chain. -/
def chainSuggestions : List Suggestion := [
  ⟨"Simplify selector", "Reduce the number of classes/elements in the selector chain"⟩,
  ⟨"Use single class",
    "Prefer single-purpose utility classes over complex selector chains"⟩]

/-- What makes a selector too specific. -/
def reasons (limit : Int) (score : Number) (s : Selector) : List String :=
  let shown := score.text
  let bound := toString limit
  (if s.hasId then ["uses ID selector"] else []) ++
    (if Number.lt (.int limit) score then
      [s!"specificity score ({shown}) exceeds threshold ({bound})"] else [])

/-- The issue of a selector of a given score and severity. -/
def issue (limit : Int) (score : Number) (severity : Severity) (site : Site) (s : Selector) :
    Issue :=
  let triple := s.specificity.text
  let because := " and ".intercalate (reasons limit score s)
  { check := .highSpecificity
    severity
    confidence := .float (Binary64.ofRat (mkRat 95 100))
    title := s!"High specificity selector ({triple})"
    why := s!"High specificity selectors {because}. This makes styles harder to override without " ++
      "resorting to !important or equally high specificity, leading to specificity wars."
    evidence := {
      file := site.file
      selector := some s.raw
      line := site.rule.line
      column := site.rule.column
      specificity := some s.specificity }
    suggestions := if s.hasId then idSuggestions else chainSuggestions
    tags := [.specificity, .cascade, .maintainability] }

/-- The issue of a selector, if it is too specific. -/
def issue? (limit : Int) (c : Site × Selector) : Except Fault (Option Issue) := do
  let score ← c.2.specificity.score
  if score.le (.int limit) && !c.2.hasId then return none
  return some (issue limit score (← Severity.ofSpecificity c.2.specificity (.int limit)) c.1 c.2)

/-- The issues of all selectors. -/
def run (sheets : List Stylesheet) (t : Thresholds) : Except Fault (List Issue) :=
  Issue.collect (selectorSites sheets) (issue? t.maxSpecificityScore)

end Check.HighSpecificity

end StyleGauge
