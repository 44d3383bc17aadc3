import StyleGauge.Check.Basic
import StyleGauge.Issue.Severity
import StyleGauge.Text.Case

/-!
# Issues

A finding of a check: what was found, how serious it is, where it is, and what to do about it.
-/

namespace StyleGauge

open Number (Fault)

/-- What an issue has to do with. -/
inductive Tag where
  | specificity
  | cascade
  | override
  | layoutRisk
  | duplication
  | maintainability
  | layer
  deriving DecidableEq, Repr

namespace Tag

/-- All tags. -/
def all : List Tag :=
  [specificity, cascade, override, layoutRisk, duplication, maintainability, layer]

/-- The word for a tag. -/
def name : Tag → String
  | specificity => "specificity"
  | cascade => "cascade"
  | override => "override"
  | layoutRisk => "layout-risk"
  | duplication => "duplication"
  | maintainability => "maintainability"
  | layer => "layer"

end Tag

/-- Where an issue is, and the measurements behind it. -/
structure Evidence where
  file : String
  selector : Option String := none
  property : Option String := none
  value : Option String := none
  line : Option Int := none
  column : Option Int := none
  specificity : Option Specificity := none
  depth : Option Int := none
  count : Option Int := none
  deriving DecidableEq, Repr

/-- A way out of an issue. -/
structure Suggestion where
  action : String
  description : String
  deriving DecidableEq, Repr

/-- A finding of a check. -/
structure Issue where
  /-- The check that found it. -/
  check : Check
  severity : Severity
  /-- How sure the check is, from zero to one. -/
  confidence : Number
  title : String
  /-- Why it matters. -/
  why : String
  evidence : Evidence
  suggestions : List Suggestion := []
  tags : List Tag := []
  deriving DecidableEq, Repr

namespace Issue

/-- The issue in one line: severity, place and title. -/
def text (i : Issue) : String :=
  let place := match i.evidence.line with
    | none => i.evidence.file
    | some line => i.evidence.file ++ ":" ++ toString line
  Text.upperString i.severity.name ++ " [" ++ place ++ "]: " ++ i.title

/-- The issues among candidates, in order. Each candidate is an issue, or none, or has a measurement
that cannot be computed; the first of these ends the search. -/
def collect {α : Type} (candidates : List α) (issue? : α → Except Fault (Option Issue)) :
    Except Fault (List Issue) := do
  return (← candidates.mapM issue?).filterMap (·)

end Issue

/-- A text that is not empty. -/
def nonEmpty (s : String) : Option String :=
  if s.isEmpty then none else some s

end StyleGauge
