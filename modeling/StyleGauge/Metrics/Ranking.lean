import StyleGauge.Listing
import StyleGauge.Site

/-!
# The worst selectors

Selectors ranked by specificity and depth, the worst first. Of equal ones the first in source
order comes first.
-/

namespace StyleGauge

open Number (Fault)

/-- A selector with its rank score. -/
structure RankedSelector where
  selector : String
  file : String
  specificity : Specificity
  depth : Int
  /-- Twice the score of the specificity and three times the depth. -/
  score : Number
  line : Option Int := none
  deriving DecidableEq, Repr

namespace RankedSelector

/-- How many selectors a report shows. -/
def defaultLimit : Int := 10

/-- A selector of a rule, scored. -/
def ofSelector (site : Site) (s : Selector) : Except Fault RankedSelector := do
  let weight ← (← s.specificity.score).mul 2
  return {
    selector := s.raw
    file := site.file
    specificity := s.specificity
    depth := s.depth
    score := ← weight.add (.int (s.depth * 3))
    line := site.rule.line }

/-- All selectors of stylesheets, scored, in source order. -/
def all (sheets : List Stylesheet) : Except Fault (List RankedSelector) :=
  ((sites sheets).flatMap fun site => site.rule.selectors.map (site, ·)).mapM
    fun p => ofSelector p.1 p.2

/-- Scored selectors, the worst first. -/
def worstFirst (selectors : List RankedSelector) : List RankedSelector :=
  selectors.mergeSort fun a b => b.score.le a.score

/-- The worst selectors of stylesheets. -/
def worst (sheets : List Stylesheet) (limit : Int := defaultLimit) :
    Except Fault (List RankedSelector) := do
  return Listing.firstItems limit (worstFirst (← all sheets))

end RankedSelector

end StyleGauge
