import StyleGauge.Layout
import StyleGauge.Stylesheet.Basic

/-!
# Metrics

Counts, maxima and averages of one stylesheet and of many. The averages of many stylesheets are
the means of their averages, not of all selectors together.
-/

namespace StyleGauge

open Number (Fault)

/-- The metrics of one stylesheet. -/
structure FileMetrics where
  file : String
  rules : Int := 0
  selectors : Int := 0
  declarations : Int := 0
  maxDepth : Int := 0
  averageDepth : Number := 0
  maxSpecificity : Specificity := .zero
  averageSpecificity : Specificity := .zero
  /-- How many declarations are marked as important. -/
  important : Int := 0
  /-- Duplicates are found across stylesheets; none is counted for one alone. -/
  duplicates : Int := 0
  layoutRisk : Int := 0
  deriving DecidableEq, Repr

/-- The metrics of all stylesheets together. -/
structure GlobalMetrics where
  files : Int := 0
  rules : Int := 0
  selectors : Int := 0
  declarations : Int := 0
  maxDepth : Int := 0
  averageDepth : Number := 0
  maxSpecificity : Specificity := .zero
  averageSpecificity : Specificity := .zero
  important : Int := 0
  duplicates : Int := 0
  layoutRisk : Int := 0
  deriving DecidableEq, Repr

/-- The mean of depths, rounded to two places. -/
def meanDepth (depths : List Number) : Except Fault Number := do
  (← Number.average depths).roundHalfUp 2

namespace Stylesheet

/-- The selectors of all rules, in source order. -/
def selectors (s : Stylesheet) : List Selector :=
  s.rules.flatMap Rule.selectors

/-- The declarations of all rules. A declaration counts for every rule that it is in. -/
def declarations (s : Stylesheet) : List Declaration :=
  s.rules.flatMap Rule.declarations

/-- The metrics of a stylesheet. -/
def metrics (s : Stylesheet) : Except Fault FileMetrics := do
  let specificities := s.selectors.map Selector.specificity
  return {
    file := s.file
    rules := s.rules.length
    selectors := s.selectors.length
    declarations := s.declarations.length
    maxDepth := (s.selectors.map Selector.depth).foldl max 0
    averageDepth := ← meanDepth (s.selectors.map fun x => .int x.depth)
    maxSpecificity := ← Specificity.maximum specificities
    averageSpecificity := ← Specificity.average specificities
    important := (Listing.total (s.rules.map Rule.importantCount) : Nat)
    layoutRisk := (Listing.total (s.rules.map fun r => Layout.risk r.declarations) : Nat) }

/-- Metrics are made of selectors and declarations; where the rules stand and in which layers they
are does not matter. -/
theorem metrics_congr {s t : Stylesheet} (hfile : t.file = s.file)
    (hselectors : t.rules.map Rule.selectors = s.rules.map Rule.selectors)
    (hdeclarations : t.rules.map Rule.declarations = s.rules.map Rule.declarations) :
    t.metrics = s.metrics := by
  have hlength : t.rules.length = s.rules.length := by
    rw [← List.length_map Rule.selectors, hselectors, List.length_map]
  have hall : t.selectors = s.selectors := by
    rw [selectors, selectors, List.flatMap_def, List.flatMap_def, hselectors]
  have hall' : t.declarations = s.declarations := by
    rw [declarations, declarations, List.flatMap_def, List.flatMap_def, hdeclarations]
  have himportant : t.rules.map Rule.importantCount = s.rules.map Rule.importantCount := by
    have h := congrArg (List.map (List.countP Declaration.important)) hdeclarations
    rwa [List.map_map, List.map_map] at h
  have hrisk : (t.rules.map fun r => Layout.risk r.declarations) =
      s.rules.map fun r => Layout.risk r.declarations := by
    have h := congrArg (List.map Layout.risk) hdeclarations
    rwa [List.map_map, List.map_map] at h
  rw [metrics, metrics, hfile, hlength, hall, hall', himportant, hrisk]

end Stylesheet

/-- The greatest of integers, zero if there are none. -/
def greatest : List Int → Int
  | [] => 0
  | n :: ns => ns.foldl max n

/-- The metrics of all stylesheets, from those of each. -/
def GlobalMetrics.ofFiles (files : List FileMetrics) : Except Fault GlobalMetrics :=
  if files.isEmpty then .ok {}
  else return {
    files := files.length
    rules := Listing.total (files.map FileMetrics.rules)
    selectors := Listing.total (files.map FileMetrics.selectors)
    declarations := Listing.total (files.map FileMetrics.declarations)
    maxDepth := greatest (files.map FileMetrics.maxDepth)
    averageDepth := ← meanDepth (files.map FileMetrics.averageDepth)
    maxSpecificity := ← Specificity.maximum (files.map FileMetrics.maxSpecificity)
    averageSpecificity := ← Specificity.average (files.map FileMetrics.averageSpecificity)
    important := Listing.total (files.map FileMetrics.important)
    duplicates := Listing.total (files.map FileMetrics.duplicates)
    layoutRisk := Listing.total (files.map FileMetrics.layoutRisk) }

end StyleGauge
