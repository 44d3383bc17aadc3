import StyleGauge.Issue.Basic
import StyleGauge.Metrics.Record

/-!
# Issues as records

Issues are written into reports and read from them. Of the evidence only what is set is written.
-/

namespace StyleGauge

open Json (Misfit)

/-- The member of a kind of names that a value names. -/
def memberNamed {α : Type} (kind : String) (all : List α) (name : α → String) (value : Json) :
    Except Misfit α :=
  match value.string?.bind fun s => all.find? fun a => name a == s with
  | some a => .ok a
  | none => .error (.notMember value kind)

/-- The severity that a value names. -/
def Severity.ofJson : Json → Except Misfit Severity :=
  memberNamed "Severity" all name

/-- The check whose id a value is. -/
def Check.ofJson : Json → Except Misfit Check :=
  memberNamed "IssueId" all id

/-- The tag that a value names. -/
def Tag.ofJson : Json → Except Misfit Tag :=
  memberNamed "IssueTag" all name

@[simp] theorem Severity.ofJson_name (s : Severity) : ofJson (.string s.name) = .ok s := by
  cases s <;> rfl

@[simp] theorem Check.ofJson_id (c : Check) : ofJson (.string c.id) = .ok c := by
  cases c <;> rfl

@[simp] theorem Tag.ofJson_name (t : Tag) : ofJson (.string t.name) = .ok t := by
  cases t <;> rfl

namespace Evidence

/-- Evidence as a record. -/
def toJson (e : Evidence) : Json := .object (
  [("file", .string e.file)] ++
  Json.setIfSome "selector" .string e.selector ++
  Json.setIfSome "property" .string e.property ++
  Json.setIfSome "value" .string e.value ++
  Json.setIfSome "line" .ofInt e.line ++
  Json.setIfSome "column" .ofInt e.column ++
  Json.setIfSome "specificity" Specificity.toJson e.specificity ++
  Json.setIfSome "depth" .ofInt e.depth ++
  Json.setIfSome "count" .ofInt e.count)

/-- The specificity of a record of evidence, if it has one. -/
def specificityOf (j : Json) : Except Misfit (Option Specificity) :=
  match j.get? "specificity" with
  | none | some .null => .ok none
  | some value => some <$> Specificity.ofJson value

/-- Evidence read from its record. -/
def ofJson (j : Json) : Except Misfit Evidence :=
  return {
    file := ← j.required "file" Json.string?
    selector := ← j.optional "selector" Json.string?
    property := ← j.optional "property" Json.string?
    value := ← j.optional "value" Json.string?
    line := ← j.optional "line" Json.int?
    column := ← j.optional "column" Json.int?
    specificity := ← specificityOf j
    depth := ← j.optional "depth" Json.int?
    count := ← j.optional "count" Json.int? }

end Evidence

namespace Suggestion

/-- A suggestion as a record. -/
def toJson (s : Suggestion) : Json :=
  .object [("action", .string s.action), ("description", .string s.description)]

/-- A suggestion read from its record. -/
def ofJson (j : Json) : Except Misfit Suggestion :=
  return {
    action := ← j.required "action" Json.string?
    description := ← j.required "description" Json.string? }

@[simp] theorem ofJson_toJson (s : Suggestion) : ofJson s.toJson = .ok s := rfl

end Suggestion

namespace Issue

/-- An issue as a record. -/
def toJson (i : Issue) : Json := .object [
  ("id", .string i.check.id),
  ("severity", .string i.severity.name),
  ("confidence", .number i.confidence),
  ("title", .string i.title),
  ("why", .string i.why),
  ("evidence", i.evidence.toJson),
  ("suggestions", .array (i.suggestions.map Suggestion.toJson)),
  ("tags", .array (i.tags.map fun t => .string t.name))]

/-- An issue read from its record. -/
def ofJson (j : Json) : Except Misfit Issue :=
  return {
    check := ← Check.ofJson (← j.field "id")
    severity := ← Severity.ofJson (← j.field "severity")
    confidence := ← j.required "confidence" Json.number?
    title := ← j.required "title" Json.string?
    why := ← j.required "why" Json.string?
    evidence := ← Evidence.ofJson (← j.field "evidence")
    suggestions := ← j.listOf "suggestions" Suggestion.ofJson
    tags := ← j.listOf "tags" Tag.ofJson }

end Issue

end StyleGauge
