import StyleGauge.Check.Run
import StyleGauge.Metrics.Ranking
import StyleGauge.Report.Recommendation
import StyleGauge.Report.Score

/-!
# Reports

The outcome of an analysis: scores and counts in short, metrics, issues, the worst selectors, and
advice. A report passes or fails against a configuration.
-/

namespace StyleGauge

open Number (Fault)

/-- Scores and counts in short. -/
structure Summary where
  overallScore : Number := 0
  categoryScores : CategoryScores := {}
  grade : String := "A"
  totalIssues : Int := 0
  /-- How many issues there are of each severity. -/
  bySeverity : List (Severity × Int) := Severity.all.map (·, 0)
  deriving DecidableEq, Repr

/-- The outcome of an analysis. -/
structure Report where
  /-- The version of the analyzer. -/
  version : String
  timestamp : String
  summary : Summary
  global : GlobalMetrics
  files : List FileMetrics := []
  issues : List Issue := []
  worstSelectors : List RankedSelector := []
  recommendations : List Recommendation := []
  deriving DecidableEq, Repr

namespace Summary

/-- How many issues there are of a severity. -/
def count (s : Summary) (severity : Severity) : Int :=
  (s.bySeverity.lookup severity).getD 0

/-- The summary of metrics and issues. -/
def ofIssues (m : GlobalMetrics) (issues : List Issue) : Except Fault Summary := do
  let scores ← Score.categories m issues
  let overall ← Score.overall scores
  return {
    overallScore := .int overall
    categoryScores := scores
    grade := Score.grade (.int overall)
    totalIssues := issues.length
    bySeverity := Severity.all.map fun s => (s, (issues.countP fun i => i.severity == s : Nat)) }

end Summary

namespace Report

/-- The version of the analyzer. -/
def analyzerVersion : String := "0.1.0"

/-- The report on stylesheets. -/
def ofStylesheets (sheets : List Stylesheet) (config : Config) (timestamp : String) :
    Except Fault Report := do
  let files ← sheets.mapM Stylesheet.metrics
  let global ← GlobalMetrics.ofFiles files
  let issues ← Check.runAll sheets config
  let summary ← Summary.ofIssues global issues
  return {
    version := analyzerVersion
    timestamp
    summary
    global
    files
    issues
    worstSelectors := ← RankedSelector.worst sheets
    recommendations := Recommendation.ofIssues issues }

/-! ### Passing -/

/-- Why the overall score does not pass. -/
def scoreReasons (r : Report) (config : Config) : List String :=
  if Number.lt (.int config.maxScore) r.summary.overallScore then
    let score := r.summary.overallScore.text
    let limit := toString config.maxScore
    [s!"Overall score ({score}) exceeds maximum allowed ({limit})"]
  else []

/-- Why the critical issues do not pass. -/
def criticalReasons (r : Report) : List String :=
  let count := r.summary.count .critical
  if 0 < count then
    let shown := toString count
    [s!"Found {shown} critical issue(s)"]
  else []

/-- Why a report does not pass; none if it does. -/
def reasons (r : Report) (config : Config) : List String :=
  r.scoreReasons config ++ r.criticalReasons

/-- Whether a report passes: its score is good enough and no issue is critical. -/
def passes (r : Report) (config : Config) : Bool :=
  (r.reasons config).isEmpty

end Report

end StyleGauge
