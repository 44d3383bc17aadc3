/-!
# Strings, brackets and escapes

What a character means in a stylesheet depends on whether it stands in a string, inside brackets
or after a backslash. The state is carried from character to character; both the scanner of
stylesheets and the splitter of selector lists read with it. They differ in one point: whether a
string ends with its line.
-/

namespace StyleGauge.Text

/-- Whether the end of a line ends a string. -/
inductive Strings where
  /-- A string goes on until its closing quote. -/
  | multiline
  /-- A string ends at the end of its line at the latest. -/
  | oneLine
  deriving DecidableEq, Repr

/-- Where a text stands with its strings and brackets. -/
structure Nesting where
  /-- How many brackets are open. -/
  depth : Nat := 0
  /-- The quote of the string that is open. -/
  quote : Option Char := none
  /-- Whether the next character is escaped. -/
  escaped : Bool := false
  deriving DecidableEq, Repr

namespace Nesting

/-- The state at the start of a text. -/
def start : Nesting := {}

/-- Whether no string or bracket is open and the next character is not escaped. -/
def isTop (s : Nesting) : Bool :=
  s.depth == 0 && s.quote.isNone && !s.escaped

/-- The state after a character. A backslash escapes the next character anywhere; closing brackets
without an opening one do not count, and the kinds of brackets are not told apart. -/
def advance (strings : Strings) (s : Nesting) (c : Char) : Nesting :=
  if s.escaped then { s with escaped := false }
  else if c = '\\' then { s with escaped := true }
  else
    match s.quote with
    | some q =>
      if c = q ∨ (c = '\n' ∧ strings = .oneLine) then { s with quote := none } else s
    | none =>
      if c = '"' ∨ c = '\'' then { s with quote := some c }
      else if c = '(' ∨ c = '[' then { s with depth := s.depth + 1 }
      else if c = ')' ∨ c = ']' then { s with depth := s.depth - 1 }
      else s

/-- The state after a text. -/
def advanceAll (strings : Strings) (s : Nesting) (cs : List Char) : Nesting :=
  cs.foldl (advance strings) s

@[simp] theorem isTop_start : start.isTop = true := rfl

@[simp] theorem advanceAll_nil (strings : Strings) (s : Nesting) :
    s.advanceAll strings [] = s := rfl

@[simp] theorem advanceAll_cons (strings : Strings) (s : Nesting) (c : Char) (cs : List Char) :
    s.advanceAll strings (c :: cs) = (s.advance strings c).advanceAll strings cs := rfl

theorem advanceAll_append (strings : Strings) (s : Nesting) (a b : List Char) :
    s.advanceAll strings (a ++ b) = (s.advanceAll strings a).advanceAll strings b := by
  simp [advanceAll]

end Nesting

end StyleGauge.Text
