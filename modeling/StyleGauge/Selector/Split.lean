import StyleGauge.Text.Blank
import StyleGauge.Text.Nesting

/-!
# Selector lists

A selector list is cut at the commas that stand outside strings, parentheses and brackets. A string
of a selector list may go on over the end of a line. Branches are trimmed, and blank ones dropped.
-/

namespace StyleGauge.Selector

open Text (Nesting)

/-- The pieces of a text between its top-level commas; there is always at least one. -/
def pieces (state : Nesting) (cs : List Char) : List (List Char) :=
  match cs with
  | [] => [[]]
  | c :: rest =>
    if state.isTop && c == ',' then [] :: pieces state rest
    else
      match pieces (state.advance .multiline c) rest with
      | [] => [[c]]
      | piece :: more => (c :: piece) :: more

/-- The branches of a selector list. -/
def splitList (cs : List Char) : List (List Char) :=
  ((pieces .start cs).map Text.trim).filter (· ≠ [])

theorem pieces_ne_nil (state : Nesting) (cs : List Char) : pieces state cs ≠ [] := by
  fun_cases pieces state cs <;> simp_all

end StyleGauge.Selector
