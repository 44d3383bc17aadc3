import StyleGauge.Json.Record
import StyleGauge.Metrics.Basic
import StyleGauge.Metrics.Ranking

/-!
# Metrics as records

Metrics are written into reports and read from them. Every field is written, the line of a ranked
selector only if it is known.
-/

namespace StyleGauge

open Json (Misfit)

namespace Specificity

/-- A specificity as a record. -/
def toJson (s : Specificity) : Json :=
  .object [("ids", .number s.ids), ("classes", .number s.classes), ("elements", .number s.elements)]

/-- A specificity read from its record; a missing component is zero. -/
def ofJson (j : Json) : Except Misfit Specificity :=
  return {
    ids := ← j.withDefault "ids" 0 Json.number?
    classes := ← j.withDefault "classes" 0 Json.number?
    elements := ← j.withDefault "elements" 0 Json.number? }

@[simp] theorem ofJson_toJson (s : Specificity) : ofJson s.toJson = .ok s := rfl

end Specificity

namespace FileMetrics

/-- The metrics of a stylesheet as a record. -/
def toJson (m : FileMetrics) : Json := .object [
  ("file", .string m.file),
  ("totalRules", .ofInt m.rules),
  ("totalSelectors", .ofInt m.selectors),
  ("totalDeclarations", .ofInt m.declarations),
  ("maxSelectorDepth", .ofInt m.maxDepth),
  ("avgSelectorDepth", .number m.averageDepth),
  ("maxSpecificity", m.maxSpecificity.toJson),
  ("avgSpecificity", m.averageSpecificity.toJson),
  ("importantCount", .ofInt m.important),
  ("duplicateDeclarationCount", .ofInt m.duplicates),
  ("layoutRiskScore", .ofInt m.layoutRisk)]

/-- The metrics of a stylesheet read from their record. -/
def ofJson (j : Json) : Except Misfit FileMetrics :=
  return {
    file := ← j.required "file" Json.string?
    rules := ← j.required "totalRules" Json.int?
    selectors := ← j.required "totalSelectors" Json.int?
    declarations := ← j.required "totalDeclarations" Json.int?
    maxDepth := ← j.required "maxSelectorDepth" Json.int?
    averageDepth := ← j.required "avgSelectorDepth" Json.number?
    maxSpecificity := ← Specificity.ofJson (← j.field "maxSpecificity")
    averageSpecificity := ← Specificity.ofJson (← j.field "avgSpecificity")
    important := ← j.required "importantCount" Json.int?
    duplicates := ← j.required "duplicateDeclarationCount" Json.int?
    layoutRisk := ← j.required "layoutRiskScore" Json.int? }

@[simp] theorem ofJson_toJson (m : FileMetrics) : ofJson m.toJson = .ok m := rfl

end FileMetrics

namespace GlobalMetrics

/-- The metrics of all stylesheets as a record. -/
def toJson (m : GlobalMetrics) : Json := .object [
  ("totalFiles", .ofInt m.files),
  ("totalRules", .ofInt m.rules),
  ("totalSelectors", .ofInt m.selectors),
  ("totalDeclarations", .ofInt m.declarations),
  ("maxSelectorDepth", .ofInt m.maxDepth),
  ("avgSelectorDepth", .number m.averageDepth),
  ("maxSpecificity", m.maxSpecificity.toJson),
  ("avgSpecificity", m.averageSpecificity.toJson),
  ("totalImportantCount", .ofInt m.important),
  ("totalDuplicateDeclarations", .ofInt m.duplicates),
  ("overallLayoutRiskScore", .ofInt m.layoutRisk)]

/-- The metrics of all stylesheets read from their record. -/
def ofJson (j : Json) : Except Misfit GlobalMetrics :=
  return {
    files := ← j.required "totalFiles" Json.int?
    rules := ← j.required "totalRules" Json.int?
    selectors := ← j.required "totalSelectors" Json.int?
    declarations := ← j.required "totalDeclarations" Json.int?
    maxDepth := ← j.required "maxSelectorDepth" Json.int?
    averageDepth := ← j.required "avgSelectorDepth" Json.number?
    maxSpecificity := ← Specificity.ofJson (← j.field "maxSpecificity")
    averageSpecificity := ← Specificity.ofJson (← j.field "avgSpecificity")
    important := ← j.required "totalImportantCount" Json.int?
    duplicates := ← j.required "totalDuplicateDeclarations" Json.int?
    layoutRisk := ← j.required "overallLayoutRiskScore" Json.int? }

@[simp] theorem ofJson_toJson (m : GlobalMetrics) : ofJson m.toJson = .ok m := rfl

end GlobalMetrics

namespace RankedSelector

/-- A ranked selector as a record. -/
def toJson (s : RankedSelector) : Json := .object (
  [("selector", .string s.selector), ("file", .string s.file)] ++
  Json.setIfSome "line" .ofInt s.line ++
  [("specificity", s.specificity.toJson), ("depth", .ofInt s.depth), ("score", .number s.score)])

/-- A ranked selector read from its record. -/
def ofJson (j : Json) : Except Misfit RankedSelector :=
  return {
    selector := ← j.required "selector" Json.string?
    file := ← j.required "file" Json.string?
    specificity := ← Specificity.ofJson (← j.field "specificity")
    depth := ← j.required "depth" Json.int?
    score := ← j.required "score" Json.number?
    line := ← j.optional "line" Json.int? }

@[simp] theorem ofJson_toJson (s : RankedSelector) : ofJson s.toJson = .ok s := by
  obtain ⟨_, _, _, _, _, line⟩ := s
  cases line <;> rfl

end RankedSelector

end StyleGauge
