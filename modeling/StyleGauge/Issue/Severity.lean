import StyleGauge.Selector.Specificity

/-!
# Severity

How serious an issue is, and how measurements are graded. Every grade compares a measurement with
bounds that are its own or follow from a threshold.
-/

namespace StyleGauge

open Number (Fault)

/-- How serious an issue is. -/
inductive Severity where
  | critical
  | high
  | medium
  | low
  deriving DecidableEq, Repr

namespace Severity

/-- All severities, the worst first. -/
def all : List Severity :=
  [critical, high, medium, low]

/-- The place of a severity in that order. -/
def rank : Severity → Nat
  | critical => 0
  | high => 1
  | medium => 2
  | low => 3

/-- The word for a severity. -/
def name : Severity → String
  | critical => "critical"
  | high => "high"
  | medium => "medium"
  | low => "low"

/-- The severity of a depth above its limit. -/
def ofDepth (depth limit : Number) : Except Fault Severity := do
  let excess ← depth.sub limit
  return if Number.le 4 excess then critical else if Number.le 2 excess then high else medium

/-- The severity of a specificity. With an id it does not depend on the limit of the score. -/
def ofSpecificity (s : Specificity) (limit : Number) : Except Fault Severity := do
  if Number.le 2 s.ids then return critical
  if Number.le 1 s.ids then return high
  let score ← s.score
  if (← limit.mul 2).lt score then return high
  if (← limit.mul Number.oneAndHalf).lt score then return medium
  return low

/-- The severity of a count of important declarations, by its ratio to the limit. -/
def ofImportant (count limit : Number) : Except Fault Severity := do
  let ratio ← count.div limit
  return if Number.le 4 ratio then critical
    else if Number.le Number.twoAndHalf ratio then high
    else if Number.le Number.oneAndHalf ratio then medium
    else low

/-- The severity of a repetition, by its ratio to the count at which it is reported. -/
def ofRepetition (count minimum : Number) : Except Fault Severity := do
  if (← minimum.mul 5).le count then return high
  if (← minimum.mul 3).le count then return medium
  return low

/-- The severity of a layout risk. -/
def ofLayoutRisk (risk : Number) : Severity :=
  if Number.le 15 risk then high else if Number.le 10 risk then medium else low

/-- The severity of competing definitions, by their count and the spread of their scores. -/
def ofOverrides (count spread : Number) : Severity :=
  if Number.le 15 count && Number.le 50 spread then high
  else if Number.le 10 count || Number.le 30 spread then medium
  else low

/-- The severity of doing without layers. -/
def ofMissingLayers (rules important : Number) : Severity :=
  if Number.le 200 rules || Number.le 20 important then medium else low

end Severity

end StyleGauge
