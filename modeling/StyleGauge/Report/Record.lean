import StyleGauge.Issue.Record
import StyleGauge.Json.Printer
import StyleGauge.Report.Basic

/-!
# Reports as records

A report is written as one JSON record and read back from it.
-/

namespace StyleGauge

open Json (Misfit)

namespace CategoryScores

/-- Scores as a record. -/
def toJson (s : CategoryScores) : Json := .object [
  ("specificity", .number s.specificity),
  ("cascade", .number s.cascade),
  ("duplication", .number s.duplication),
  ("layoutRisk", .number s.layoutRisk)]

/-- Scores read from their record. -/
def ofJson (j : Json) : Except Misfit CategoryScores :=
  return {
    specificity := ← j.required "specificity" Json.number?
    cascade := ← j.required "cascade" Json.number?
    duplication := ← j.required "duplication" Json.number?
    layoutRisk := ← j.required "layoutRisk" Json.number? }

@[simp] theorem ofJson_toJson (s : CategoryScores) : ofJson s.toJson = .ok s := rfl

end CategoryScores

namespace Summary

/-- The counts of a record, each with its severity. -/
def countsOf (j : Json) : Except Misfit (List (Severity × Int)) :=
  j.fields.mapM fun f => do
    return (← Severity.ofJson (.string f.1), ← Json.expect f.1 Json.int? f.2)

/-- A summary as a record. -/
def toJson (s : Summary) : Json := .object [
  ("overallScore", .number s.overallScore),
  ("categoryScores", s.categoryScores.toJson),
  ("grade", .string s.grade),
  ("totalIssues", .ofInt s.totalIssues),
  ("issuesBySeverity", .object (s.bySeverity.map fun c => (c.1.name, .ofInt c.2)))]

/-- A summary read from its record. -/
def ofJson (j : Json) : Except Misfit Summary :=
  return {
    overallScore := ← j.required "overallScore" Json.number?
    categoryScores := ← CategoryScores.ofJson (← j.field "categoryScores")
    grade := ← j.required "grade" Json.string?
    totalIssues := ← j.required "totalIssues" Json.int?
    bySeverity := ← countsOf (← j.field "issuesBySeverity") }

end Summary

namespace Recommendation

/-- A recommendation as a record. -/
def toJson (r : Recommendation) : Json := .object [
  ("category", .string r.category),
  ("title", .string r.title),
  ("description", .string r.description),
  ("priority", .string r.priority),
  ("relatedIssueIds", .array (r.checks.map fun c => .string c.id))]

/-- A recommendation read from its record. -/
def ofJson (j : Json) : Except Misfit Recommendation :=
  return {
    category := ← j.required "category" Json.string?
    title := ← j.required "title" Json.string?
    description := ← j.required "description" Json.string?
    priority := ← j.required "priority" Json.string?
    checks := ← j.listOf "relatedIssueIds" Check.ofJson }

end Recommendation

namespace Report

/-- A report as a record. -/
def toJson (r : Report) : Json := .object [
  ("version", .string r.version),
  ("timestamp", .string r.timestamp),
  ("summary", r.summary.toJson),
  ("globalMetrics", r.global.toJson),
  ("fileMetrics", .array (r.files.map FileMetrics.toJson)),
  ("issues", .array (r.issues.map Issue.toJson)),
  ("topSelectors", .array (r.worstSelectors.map RankedSelector.toJson)),
  ("recommendations", .array (r.recommendations.map Recommendation.toJson))]

/-- A report read from its record. -/
def ofJson (j : Json) : Except Misfit Report :=
  return {
    version := ← j.required "version" Json.string?
    timestamp := ← j.required "timestamp" Json.string?
    summary := ← Summary.ofJson (← j.field "summary")
    global := ← GlobalMetrics.ofJson (← j.field "globalMetrics")
    files := ← j.listOf "fileMetrics" FileMetrics.ofJson
    issues := ← j.listOf "issues" Issue.ofJson
    worstSelectors := ← j.listOf "topSelectors" RankedSelector.ofJson
    recommendations := ← j.listOf "recommendations" Recommendation.ofJson }

/-- A report as text. -/
def text (r : Report) : String :=
  r.toJson.pretty

end Report

end StyleGauge
