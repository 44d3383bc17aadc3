import StyleGauge.Issue.Basic
import StyleGauge.Stylesheet.Basic

/-!
# Missing layers

Stylesheets of some size that have no cascade layer anywhere are one issue together.
-/

namespace StyleGauge

namespace Check.MissingLayers

/-- From how many rules on layers are missed. -/
def minRules : Nat := 50

/-- From how many important declarations on layers are missed. -/
def minImportant : Nat := 5

/-- From how many rules on a stylesheet is large. -/
def largeFileRules : Nat := 20

/-- From how many large stylesheets on layers are missed. -/
def minLargeFiles : Nat := 3

/-- How many rules stylesheets have. -/
def totalRules (sheets : List Stylesheet) : Nat :=
  Listing.total (sheets.map fun s => s.rules.length)

/-- How many important declarations the rules of stylesheets have. -/
def totalImportant (sheets : List Stylesheet) : Nat :=
  Listing.total (sheets.map fun s => Listing.total (s.rules.map Rule.importantCount))

/-- Whether stylesheets are of a size at which layers are missed. -/
def isSizeable (sheets : List Stylesheet) : Bool :=
  minRules ≤ totalRules sheets || minImportant ≤ totalImportant sheets ||
    minLargeFiles ≤ sheets.countP fun s => decide (largeFileRules ≤ s.rules.length)

/-- The ways to layers. -/
def suggestions : List Suggestion := [
  ⟨"Organize styles into layers",
    "Structure CSS with @layer reset, base, components, utilities for predictable cascade order"⟩,
  ⟨"Define layer order upfront",
    "Use @layer reset, base, components, utilities; at the top of your CSS to establish precedence"⟩,
  ⟨"Replace !important with layers",
    "Styles in later layers automatically override earlier layers without needing !important"⟩]

/-- The issue of stylesheets without layers. -/
def issue (sheets : List Stylesheet) : Issue :=
  let rules := totalRules sheets
  let important := totalImportant sheets
  let shown := toString rules
  let marks := toString important
  let note := if 0 < important then s!" and {marks} !important declarations" else ""
  { check := .missingLayers
    severity := .ofMissingLayers (.ofNat rules) (.ofNat important)
    confidence := .float (Binary64.ofRat (mkRat 7 10))
    title := "CSS @layer not used for cascade management"
    why := s!"Your CSS has {shown} rules{note}, but doesn't use @layer for cascade control. " ++
      "CSS Cascade Layers (@layer) provide a cleaner way to manage style precedence without " ++
      "specificity battles or !important."
    evidence := {
      file := (sheets.head?.map Stylesheet.file).getD "unknown"
      count := some (rules : Int) }
    suggestions
    tags := [.cascade, .layer, .maintainability] }

/-- The issue of stylesheets without layers, if they are of some size. -/
def run (sheets : List Stylesheet) : List Issue :=
  if sheets.any Stylesheet.usesLayers || !isSizeable sheets then [] else [issue sheets]

end Check.MissingLayers

end StyleGauge
