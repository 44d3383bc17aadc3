import StyleGauge.Console.Style
import StyleGauge.Report.Basic

/-!
# Reports on the console

A report as styled text: summary, issues, worst selectors, recommendations, and what to do next.
-/

namespace StyleGauge.Console

open Number (Fault)

/-- Lines as one text. -/
def lines (texts : List String) : String :=
  "\n".intercalate texts

/-- The first characters of a text. -/
def firstChars (n : Nat) (s : String) : String :=
  String.ofList (s.toList.take n)

/-- The text of a number, a whole one without a fraction. -/
def number (n : Number) : Except Fault String := do
  let _ ← n.toBinary64
  return n.toIntegerIfWhole.text

/-- A line across the page. -/
def ruler (c : Char) : String :=
  String.ofList (List.replicate 63 c)

/-- The line around the report. -/
def heavyRuler : String :=
  bold (ruler '═')

/-- The line around a heading. -/
def lightRuler : String :=
  bold (ruler '─')

/-- The lines of a heading. -/
def heading (title : String) : List String :=
  [lightRuler, bold ("  " ++ title), lightRuler, ""]

/-- The number of an item that is counted from zero, as it is shown. -/
def ordinal (index : Int) : String :=
  dim (toString (index + 1) ++ ".")

/-- Items with their numbers. -/
def numbered {α : Type} (items : List α) : List (Int × α) :=
  (items.zipIdx).map fun p => ((p.2 : Int), p.1)

/-- A place, with its line unless that is zero or unknown. -/
def place (file : String) (line : Option Int) : String :=
  dim file ++
    match line with
    | none | some 0 => ""
    | some n => dim (":" ++ toString n)

/-! ### Grades and scores -/

/-- A severity as a label. -/
def severity : Severity → String
  | .critical => styled { foreground := some .white, background := some .red } " CRITICAL "
  | .high => colored .red "HIGH"
  | .medium => colored .yellow "MEDIUM"
  | .low => dim "LOW"

/-- The colours of the grades. -/
def gradeColors : List (String × Color) :=
  [("A", .green), ("B", .cyan), ("C", .yellow), ("D", .magenta), ("F", .red)]

/-- A grade in its colour; any other text as it is. -/
def grade (g : String) : String :=
  match gradeColors.lookup g with
  | some c => styled { foreground := some c, bold := true } g
  | none => g

/-- The greatest score of each colour but the last. -/
def scoreColors : List (Number × Color) :=
  [(20, .green), (40, .cyan), (60, .yellow), (80, .magenta)]

/-- A score in the colour of its grade. -/
def score (n : Number) : Except Fault String := do
  let text ← number n
  return colored (((scoreColors.find? fun b => n.le b.1).map Prod.snd).getD .red) text

/-- The summary of a report. -/
def summary (s : Summary) : Except Fault String := do
  let overall ← score s.overallScore
  let specificity ← score s.categoryScores.specificity
  let cascade ← score s.categoryScores.cascade
  let duplication ← score s.categoryScores.duplication
  let layout ← score s.categoryScores.layoutRisk
  let counted (x : Severity) : String := severity x ++ " " ++ toString (s.count x)
  return lines [
    "",
    heavyRuler,
    bold "                    CSS COMPLEXITY REPORT                       ",
    heavyRuler,
    "",
    "  " ++ bold "Overall Grade:" ++ " " ++ grade s.grade ++ "    " ++ bold "Score:" ++ " " ++
      overall ++ "/100 " ++ dim "(lower is better)",
    "",
    bold "  Category Scores:",
    "    Specificity:  " ++ specificity ++ "/100",
    "    Cascade:      " ++ cascade ++ "/100",
    "    Duplication:  " ++ duplication ++ "/100",
    "    Layout Risk:  " ++ layout ++ "/100",
    "",
    bold "  Issues Found:",
    "    " ++ "   ".intercalate (Severity.all.map counted),
    ""]

/-! ### Issues -/

/-- How many issues are shown. -/
def issueLimit : Int := 10

/-- How much of an explanation is shown. -/
def whyLimit : Nat := 100

/-- An issue with its number. -/
def issue (i : Issue) (index : Int) : String :=
  let selector := match i.evidence.selector with
    | none | some "" => []
    | some s => ["     " ++ colored .cyan s]
  let more := if whyLimit < i.why.length then "..." else ""
  lines (
    ["  " ++ ordinal index ++ " " ++ severity i.severity ++ " " ++ bold i.title,
      "     " ++ place i.evidence.file i.evidence.line] ++
    selector ++
    ["     " ++ dim (firstChars whyLimit i.why) ++ more, ""])

/-- The first issues, and how many more there are. -/
def issues (found : List Issue) (limit : Int := issueLimit) : String :=
  let total : Int := found.length
  let shown := toString (min limit total)
  let all := toString total
  let rest := toString (total - limit)
  lines (
    heading s!"TOP ISSUES (showing {shown} of {all})" ++
    (numbered (Listing.firstItems limit found)).map (fun p => issue p.2 p.1) ++
    (if limit < total then [dim s!"  ... and {rest} more issues", ""] else []))

/-! ### Selectors -/

/-- How many selectors are shown. -/
def selectorLimit : Int := 5

/-- How much of a selector is shown. -/
def selectorWidth : Nat := 50

/-- A selector with its number. -/
def selector (s : RankedSelector) (index : Int) : Except Fault String := do
  let ids ← number s.specificity.ids
  let classes ← number s.specificity.classes
  let elements ← number s.specificity.elements
  let depth := toString s.depth
  let more := if selectorWidth < s.selector.length then "..." else ""
  return "  " ++ ordinal index ++ " " ++ colored .cyan (firstChars selectorWidth s.selector) ++
    more ++ "\n     " ++ place s.file s.line ++ "  " ++
    colored .yellow s!"Spec: [{ids},{classes},{elements}]" ++ "  " ++
    colored .magenta s!"Depth: {depth}" ++ "\n"

/-- The first selectors. -/
def selectors (found : List RankedSelector) (limit : Int := selectorLimit) :
    Except Fault String := do
  let shown ← (numbered (Listing.firstItems limit found)).mapM fun p => selector p.2 p.1
  return lines (heading "WORST SELECTORS (highest complexity)" ++ shown)

/-! ### Advice -/

/-- A priority as a label. -/
def priority (p : String) : String :=
  let label := "[" ++ Text.upperString p ++ "]"
  match p with
  | "high" => colored .red label
  | "medium" => colored .yellow label
  | _ => dim label

/-- A recommendation with its number. -/
def recommendation (r : Recommendation) (index : Int) : String :=
  "  " ++ ordinal index ++ " " ++ priority r.priority ++ " " ++ bold r.title ++ "\n     " ++
    dim r.description ++ "\n"

/-- All recommendations. -/
def recommendations (rs : List Recommendation) : String :=
  lines (heading "RECOMMENDATIONS" ++ (numbered rs).map fun p => recommendation p.2 p.1)

/-- What to do next. -/
def nextSteps : String :=
  lines (heading "NEXT STEPS" ++ [
    "  1. Address critical and high severity issues first",
    "  2. Consider adopting CSS methodology (BEM, utility-first)",
    "  3. Set up CI check: csscomplexity check --max-score 60",
    "  4. Re-run analysis after making changes to track progress",
    "",
    dim "  For detailed JSON report: csscomplexity analyze --format json",
    ""])

/-! ### Reports -/

/-- A report, without the parts that are empty. -/
def report (r : Report) : Except Fault String := do
  let short ← summary r.summary
  let worst ← selectors r.worstSelectors
  let part (isEmpty : Bool) (text : String) : List String := if isEmpty then [] else [text]
  return lines (
    [short] ++
    part r.issues.isEmpty (issues r.issues) ++
    part r.worstSelectors.isEmpty worst ++
    part r.recommendations.isEmpty (recommendations r.recommendations) ++
    [nextSteps, heavyRuler])

/-- The outcome of a check, with the reasons against it. -/
def verdict (passed : Bool) (reasons : List String) (overall : Number) : Except Fault String := do
  let shown ← score overall
  let label (c : Color) (text : String) : String := styled { foreground := some c, bold := true } text
  if passed then
    return lines ["", label .green "✓ CSS complexity check PASSED", s!"  Score: {shown}/100", ""]
  else
    return lines (
      ["", label .red "✗ CSS complexity check FAILED", s!"  Score: {shown}/100", "",
        "  Reasons:"] ++
      reasons.map (fun reason => "    - " ++ reason) ++ [""])

end StyleGauge.Console
