import StyleGauge.Config.Basic
import StyleGauge.Duplication
import StyleGauge.Issue.Basic

/-!
# Duplicate declarations

A declaration that is said as often as the threshold, or more often, is an issue.
-/

namespace StyleGauge

open Number (Fault)

namespace Check.DuplicateDeclarations

/-- The text with every character that is not kept turned into a hyphen. -/
def hyphenate (kept : Char → Bool) (s : String) : String :=
  String.ofList (s.toList.map fun c => if kept c then c else '-')

/-- The name of a utility class for a declaration. -/
def utilityClass (property value : String) : String :=
  "." ++ hyphenate Char.isAlpha property ++ "-" ++ hyphenate Char.isAlphanum value

/-- The issue of a repeated declaration of a given severity. -/
def issue (severity : Severity) (r : Duplication.Repeated) : Issue :=
  let property := r.property
  let value := r.value
  let count := toString r.count
  let utility := utilityClass property value
  let first := r.locations.head?
  { check := .duplicateDeclarations
    severity
    confidence := .float (Binary64.ofRat (mkRat 75 100))
    title := s!"Duplicate declaration: {property} ({count} times)"
    why := s!"The declaration \"{property}: {value}\" appears {count} times across your CSS. " ++
      "This indicates potential for consolidation into a utility class or CSS custom property."
    evidence := {
      file := (first.map Location.file).getD ""
      selector := first.map Location.selector
      property := some property
      value := some value
      line := first.bind Location.line
      count := some (r.count : Int) }
    suggestions := [
      ⟨"Create utility class", s!"Extract to a reusable utility class like {utility}"⟩,
      ⟨"Use CSS custom property",
        s!"Define --{property}: {value} and reference with var(--{property})"⟩]
    tags := [.duplication, .maintainability] }

/-- The issue of a declaration that is repeated often enough. -/
def issue? (minimum : Int) (r : Duplication.Repeated) : Except Fault (Option Issue) := do
  return some (issue (← Severity.ofRepetition (.int r.count) (.int minimum)) r)

/-- The issues of all declarations. -/
def run (sheets : List Stylesheet) (t : Thresholds) : Except Fault (List Issue) :=
  let minimum := t.maxDuplicateDeclarations
  Issue.collect (Duplication.declarations sheets minimum) (issue? minimum)

end Check.DuplicateDeclarations

end StyleGauge
