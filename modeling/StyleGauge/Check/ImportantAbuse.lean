import StyleGauge.Config.Basic
import StyleGauge.Issue.Basic
import StyleGauge.Layout
import StyleGauge.Site

/-!
# Important declarations

A file with more important declarations than the threshold allows is an issue, and so is every
important declaration that affects layout. Stylesheets with one file name count together.
-/

namespace StyleGauge

open Number (Fault)

namespace Check.ImportantAbuse

/-! ### Files -/

/-- The rules with important declarations, by the name of their file. -/
def byFile (sheets : List Stylesheet) : List (String × List Site) :=
  Listing.groups Site.file ((sites sheets).filter fun s => s.rule.importantCount ≠ 0)

/-- How many important declarations rules have. -/
def total (rules : List Site) : Nat :=
  Listing.total (rules.map fun s => s.rule.importantCount)

/-- The ways out of many important declarations. -/
def fileSuggestions : List Suggestion := [
  ⟨"Reduce base specificity",
    "Lower the specificity of selectors so !important becomes unnecessary"⟩,
  ⟨"Use CSS layers",
    "Consider @layer to establish a predictable cascade order without !important"⟩,
  ⟨"Consolidate styles", "Merge competing rules into a single source of truth"⟩]

/-- The issue of a file with so many important declarations, `first` being its first rule with
one. -/
def fileIssue (limit : Int) (severity : Severity) (file : String) (count : Int)
    (first : Option Rule) : Issue :=
  let shown := toString count
  let bound := toString limit
  { check := .importantAbuse
    severity
    confidence := .float (Binary64.ofRat (mkRat 85 100))
    title := s!"Excessive !important usage ({shown} occurrences)"
    why := s!"This file contains {shown} !important declarations, exceeding the threshold of " ++
      s!"{bound}. Overuse of !important indicates specificity wars and makes styles " ++
      "unpredictable and hard to maintain."
    evidence := {
      file
      selector := first.bind fun r => nonEmpty r.firstSelector
      line := first.bind Rule.line
      count := some count }
    suggestions := fileSuggestions
    tags := [.cascade, .override, .maintainability] }

/-- The issue of a file, if it has too many important declarations. -/
def fileIssue? (limit : Int) (g : String × List Site) : Except Fault (Option Issue) := do
  let count : Int := total g.2
  if count ≤ limit then return none
  let severity ← Severity.ofImportant (.int count) (.int limit)
  return some (fileIssue limit severity g.1 count (g.2.head?.map Site.rule))

/-! ### Declarations -/

/-- The important declarations that affect layout, with their rules. -/
def onLayout (sheets : List Stylesheet) : List (Site × Declaration) :=
  (sites sheets).flatMap fun s =>
    (s.rule.declarations.filter fun d => d.important && d.affectsLayout).map (s, ·)

/-- The issue of an important declaration that affects layout. -/
def layoutIssue (site : Site) (d : Declaration) : Issue :=
  let property := d.property
  { check := .importantAbuse
    severity := .medium
    confidence := .float (Binary64.ofRat (mkRat 8 10))
    title := s!"!important on layout property: {property}"
    why := s!"Using !important on layout-affecting properties like {property} can cause " ++
      "unexpected layout behavior and makes responsive adjustments difficult."
    evidence := {
      file := site.file
      selector := nonEmpty site.rule.firstSelector
      property := some d.property
      value := some d.value
      line := site.rule.line }
    suggestions := [
      ⟨"Remove !important",
        s!"Fix the cascade issue for {property} instead of forcing with !important"⟩]
    tags := [.cascade, .layoutRisk] }

/-- The issues of all files, then those of all declarations. -/
def run (sheets : List Stylesheet) (t : Thresholds) : Except Fault (List Issue) := do
  let files ← Issue.collect (byFile sheets) (fileIssue? t.maxImportantPerFile)
  return files ++ (onLayout sheets).map fun c => layoutIssue c.1 c.2

end Check.ImportantAbuse

end StyleGauge
