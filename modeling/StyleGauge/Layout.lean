import StyleGauge.Listing
import StyleGauge.Stylesheet.Declaration

/-!
# Layout risk

How fragile the layout of a block of declarations is likely to be. Every declaration that affects
layout adds to the risk; properties that are fragile together multiply it.
-/

namespace StyleGauge

namespace Layout

/-- The properties that affect layout. -/
def properties : List String := [
  "width", "height", "min-width", "min-height", "max-width", "max-height",
  "top", "left", "right", "bottom", "position", "float", "clear", "display",
  "margin", "margin-top", "margin-right", "margin-bottom", "margin-left",
  "padding", "padding-top", "padding-right", "padding-bottom", "padding-left",
  "border", "border-width", "border-top-width", "border-right-width", "border-bottom-width",
  "border-left-width", "box-sizing",
  "flex", "flex-basis", "flex-grow", "flex-shrink", "flex-direction", "flex-wrap",
  "justify-content", "align-items", "align-self", "align-content", "order",
  "grid", "grid-template", "grid-template-columns", "grid-template-rows", "grid-template-areas",
  "grid-column", "grid-row", "grid-area", "grid-gap", "gap", "row-gap", "column-gap",
  "overflow", "overflow-x", "overflow-y", "white-space", "word-wrap", "word-break",
  "text-overflow", "table-layout", "vertical-align", "line-height", "font-size", "writing-mode",
  "columns", "column-count", "column-width", "column-span", "break-before", "break-after",
  "break-inside"]

/-- Whether a property affects layout. Property names are compared as they are written. -/
def affects (property : String) : Bool :=
  properties.contains property

/-- The positions that take a box out of the flow. -/
def outOfFlowPositions : List String :=
  ["absolute", "fixed"]

/-- The properties of the five margins. -/
def marginProperties : List String :=
  ["margin", "margin-top", "margin-right", "margin-bottom", "margin-left"]

end Layout

namespace Declaration

/-- Whether the declaration affects layout. -/
def affectsLayout (d : Declaration) : Bool :=
  Layout.affects d.property

/-- Whether the declaration takes its box out of the flow. -/
def isOutOfFlow (d : Declaration) : Bool :=
  d.property == "position" && Layout.outOfFlowPositions.contains d.value

/-- Whether the declaration is a margin with a minus sign in its value. -/
def isNegativeMargin (d : Declaration) : Bool :=
  Layout.marginProperties.contains d.property && d.value.toList.contains '-'

/-- What the declaration adds to the risk of its block. -/
def layoutWeight (d : Declaration) : Nat :=
  if d.affectsLayout then
    1 + (if d.isOutOfFlow then 2 else 0) + (if d.isNegativeMargin then 1 else 0)
  else 0

end Declaration

namespace Layout

/-- Properties that are fragile together, and the factor by which they multiply the risk. -/
structure Combination where
  properties : List String
  /-- The factor's numerator. -/
  numerator : Nat
  /-- The factor's denominator. -/
  denominator : Nat
  deriving DecidableEq, Repr

/-- The fragile combinations, in the order in which they apply. -/
def combinations : List Combination := [
  ⟨["position", "top", "left"], 3, 2⟩,
  ⟨["position", "top", "right"], 3, 2⟩,
  ⟨["position", "bottom", "left"], 3, 2⟩,
  ⟨["position", "bottom", "right"], 3, 2⟩,
  ⟨["float", "width"], 13, 10⟩,
  ⟨["display", "position"], 6, 5⟩]

/-- Whether all properties of the combination are declared. -/
def Combination.isPresent (c : Combination) (ds : List Declaration) : Bool :=
  c.properties.all fun p => ds.any fun d => d.property == p

/-- The risk times the factor, rounded to an integer, one half upwards. -/
def Combination.multiply (c : Combination) (risk : Nat) : Nat :=
  (2 * risk * c.numerator + c.denominator) / (2 * c.denominator)

/-- The risk after a combination, unchanged if it is not present. -/
def Combination.apply (ds : List Declaration) (risk : Nat) (c : Combination) : Nat :=
  if c.isPresent ds then c.multiply risk else risk

/-- The risk of a block: the weights of its declarations, then the fragile combinations. -/
def risk (ds : List Declaration) : Nat :=
  combinations.foldl (Combination.apply ds) (Listing.total (ds.map Declaration.layoutWeight))

end Layout

end StyleGauge
