import StyleGauge.Issue.Basic
import StyleGauge.Metrics.Basic

/-!
# Scores

Four scores from zero to a hundred, of which more is worse, their weighted mean, and its grade.
Every score has a part that is measured and a part for the issues that were found.
-/

namespace StyleGauge

open Number (Fault)

/-- The scores of the four categories. -/
structure CategoryScores where
  specificity : Number := 0
  cascade : Number := 0
  duplication : Number := 0
  layoutRisk : Number := 0
  deriving DecidableEq, Repr

namespace Score

/-- The issues that some checks found. -/
def issuesOf (checks : List Check) (issues : List Issue) : List Issue :=
  issues.filter fun i => checks.contains i.check

/-- A base score with a penalty for every issue, a hundred at most. -/
def withPenalties (base : Number) (penalty : Issue → Except Fault Number) (issues : List Issue) :
    Except Fault Number := do
  return Number.min 100 (← issues.foldlM (fun score i => do score.add (← penalty i)) base)

/-- A count over a total that counts as one at least. -/
def ratio (count total : Int) : Except Fault Number :=
  (Number.int count).div (.int (max 1 total))

/-- What the greatest specificity adds. -/
def maxSpecificityPenalty (score : Number) : Number :=
  if Number.lt 100 score then 20 else if Number.lt 50 score then 10 else 0

/-- What the greatest depth adds. -/
def maxDepthPenalty (depth : Int) : Number :=
  if 6 < depth then 20 else if 4 < depth then 10 else 0

/-- The score for specificity and depth. -/
def specificity (m : GlobalMetrics) (issues : List Issue) : Except Fault Number := do
  let base := Number.min 30 (← m.averageSpecificity.score)
  let base ← base.add (maxSpecificityPenalty (← m.maxSpecificity.score))
  let base ← base.add (maxDepthPenalty m.maxDepth)
  let found := issuesOf [.highSpecificity, .deepSelectors] issues
  return Number.min 100 (← base.add (.int (2 * found.length)))

/-- What an issue of the cascade adds. -/
def cascadePenalty : Severity → Number
  | .critical => 15
  | .high => 10
  | .medium => 5
  | .low => 2

/-- The score for important declarations and overrides. -/
def cascade (m : GlobalMetrics) (issues : List Issue) : Except Fault Number := do
  let base := Number.min 40 (← (← ratio m.important m.declarations).mul 500)
  withPenalties base (fun i => .ok (cascadePenalty i.severity))
    (issuesOf [.importantAbuse, .overridePressure] issues)

/-- The score for duplication. -/
def duplication (m : GlobalMetrics) (issues : List Issue) : Except Fault Number := do
  let base := Number.min 40 (← (← ratio m.duplicates m.declarations).mul 200)
  let penalty (i : Issue) : Except Fault Number := do
    return Number.min 10 (← (Number.int (i.evidence.count.getD 0)).div 2)
  withPenalties base penalty (issuesOf [.duplicateDeclarations] issues)

/-- What a layout risk hotspot adds. -/
def layoutPenalty : Severity → Number
  | .high => 15
  | .medium => 8
  | .critical | .low => 3

/-- The score for layout risk. -/
def layoutRisk (m : GlobalMetrics) (issues : List Issue) : Except Fault Number := do
  let base := Number.min 40 (← (← ratio m.layoutRisk m.rules).mul 10)
  withPenalties base (fun i => .ok (layoutPenalty i.severity))
    (issuesOf [.layoutRiskHotspot] issues)

/-- The scores of all categories. -/
def categories (m : GlobalMetrics) (issues : List Issue) : Except Fault CategoryScores :=
  return {
    specificity := ← specificity m issues
    cascade := ← cascade m issues
    duplication := ← duplication m issues
    layoutRisk := ← layoutRisk m issues }

/-- The scores with their weights. -/
def weighted (s : CategoryScores) : List (Number × Number) := [
  (s.specificity, .float (Binary64.ofRat (mkRat 3 10))),
  (s.cascade, .float (Binary64.ofRat (mkRat 1 4))),
  (s.duplication, .float (Binary64.ofRat (mkRat 1 5))),
  (s.layoutRisk, .float (Binary64.ofRat (mkRat 1 4)))]

/-- The weighted mean of the scores, kept between zero and a hundred and rounded. -/
def overall (s : CategoryScores) : Except Fault Int := do
  let mean ← Number.sum (← (weighted s).mapM fun p => p.1.mul p.2)
  (Number.min 100 (Number.max 0 mean)).roundToInt

/-- The greatest score of each grade but the last. -/
def gradeBounds : List (Number × String) :=
  [(20, "A"), (40, "B"), (60, "C"), (80, "D")]

/-- The grade of an overall score. -/
def grade (score : Number) : String :=
  ((gradeBounds.find? fun b => score.le b.1).map Prod.snd).getD "F"

end Score

end StyleGauge
