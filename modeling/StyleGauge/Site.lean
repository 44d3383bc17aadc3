import StyleGauge.Stylesheet.Basic

/-!
# Places in stylesheets

The rules of many stylesheets as one sequence, each with the name of its file, and the places that
findings point to.
-/

namespace StyleGauge

/-- Where something was declared: the file, and the rule's line and first selector. -/
structure Location where
  file : String
  line : Option Int
  selector : String
  deriving DecidableEq, Repr

/-- A rule, with the name of the file that it was found in. -/
structure Site where
  file : String
  rule : Rule
  deriving DecidableEq, Repr

namespace Site

/-- Where the rule stands. -/
def location (s : Site) : Location :=
  ⟨s.file, s.rule.line, s.rule.firstSelector⟩

end Site

/-- The rules of stylesheets, in order. -/
def sites (sheets : List Stylesheet) : List Site :=
  sheets.flatMap fun s => s.rules.map (Site.mk s.file)

@[simp] theorem sites_nil : sites [] = [] := rfl

@[simp] theorem sites_cons (s : Stylesheet) (sheets : List Stylesheet) :
    sites (s :: sheets) = s.rules.map (Site.mk s.file) ++ sites sheets := rfl

@[simp] theorem sites_append (a b : List Stylesheet) : sites (a ++ b) = sites a ++ sites b := by
  simp [sites]

end StyleGauge
