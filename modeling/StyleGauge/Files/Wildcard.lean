/-!
# Wildcard patterns

A pattern is matched against a whole text. A star stands for any characters, a question mark for
one, and brackets for one character of a set, or for one outside of it after an exclamation mark.
All other characters stand for themselves, and so does a bracket that is not closed.
-/

namespace StyleGauge.Wildcard

/-- What a set between brackets lists. -/
inductive Item where
  | one (c : Char)
  | range (low high : Char)
  deriving DecidableEq, Repr

/-- Whether an item lists a character. -/
def Item.holds (c : Char) : Item → Bool
  | one d => c == d
  | range low high => low ≤ c && c ≤ high

/-- A part of a pattern. -/
inductive Token where
  /-- Any characters. -/
  | star
  /-- Any one character. -/
  | any
  /-- One character that stands for itself. -/
  | literal (c : Char)
  /-- One character that is listed, or not. -/
  | set (negated : Bool) (items : List Item)
  deriving DecidableEq, Repr

/-! ### Sets -/

/-- The items that a text between brackets lists. A hyphen makes a range if a character stands
before it that is not the end of a range, and one after it. -/
def items : List Char → List Item
  | low :: '-' :: high :: rest => .range low high :: items rest
  | c :: rest => .one c :: items rest
  | [] => []

/-- Whether an item can list anything: a range does if its ends are in order. -/
def Item.isProper : Item → Bool
  | one _ => true
  | range low high => low ≤ high

/-- The set that a text between brackets stands for. An exclamation mark that comes first turns
the set around, also if it comes first only because ranges before it list nothing. -/
def setOf (text : List Char) : Token :=
  match text with
  | '!' :: rest => .set true ((items rest).filter Item.isProper)
  | _ =>
    match (items text).filter Item.isProper with
    | .one '!' :: rest => .set true rest
    | .range '!' high :: rest => .set true (.one '-' :: .one high :: rest)
    | listed => .set false listed

/-- The text between brackets, after the opening one. A closing bracket that comes first, maybe
after an exclamation mark, is part of the text. -/
def setText? (cs : List Char) : Option (List Char) :=
  let first := match cs with
    | '!' :: ']' :: _ => 2
    | ']' :: _ => 1
    | _ => 0
  let length := first + ((cs.drop first).takeWhile (· ≠ ']')).length
  if length < cs.length then some (cs.take length) else none

/-! ### Patterns -/

/-- The parts of a pattern after some characters that are passed over. Of several stars in a row
one is enough. -/
def tokensAfter : Nat → List Char → List Token
  | _, [] => []
  | skip + 1, _ :: cs => tokensAfter skip cs
  | 0, c :: cs =>
    match c with
    | '*' =>
      match tokensAfter 0 cs with
      | .star :: ts => .star :: ts
      | ts => .star :: ts
    | '?' => .any :: tokensAfter 0 cs
    | '[' =>
      match setText? cs with
      | some text => setOf text :: tokensAfter (text.length + 1) cs
      | none => .literal '[' :: tokensAfter 0 cs
    | c => .literal c :: tokensAfter 0 cs

/-- The parts of a pattern. -/
def tokens (pattern : List Char) : List Token :=
  tokensAfter 0 pattern

/-- The ends of a text, from the whole text to nothing. -/
def ends : List Char → List (List Char)
  | [] => [[]]
  | c :: cs => (c :: cs) :: ends cs

/-- Whether a part that stands for one character stands for a given one. -/
def Token.holds (c : Char) : Token → Bool
  | star => false
  | any => true
  | literal d => c == d
  | set negated items => items.any (Item.holds c) != negated

/-- Whether parts of a pattern match a whole text. -/
def matchTokens : List Token → List Char → Bool
  | [], cs => cs.isEmpty
  | .star :: ts, cs => (ends cs).any (matchTokens ts)
  | t :: ts, cs =>
    match cs with
    | [] => false
    | c :: rest => t.holds c && matchTokens ts rest

/-- Whether a pattern matches a whole text. -/
def isMatch (pattern text : String) : Bool :=
  matchTokens (tokens pattern.toList) text.toList

/-- Whether a pattern has parts that do not stand for themselves. -/
def hasWildcard (pattern : List Char) : Bool :=
  pattern.any fun c => c == '*' || c == '?' || c == '['

/-! ### Laws -/

theorem mem_ends {xs cs : List Char} : xs ∈ ends cs ↔ xs <:+ cs := by
  induction cs with
  | nil => simp [ends]
  | cons c cs ih => simp [ends, ih, List.suffix_cons_iff]

theorem matchTokens_star {ts : List Token} {cs : List Char} :
    matchTokens (.star :: ts) cs = true ↔ ∃ xs, xs <:+ cs ∧ matchTokens ts xs = true := by
  simp [matchTokens, mem_ends]

theorem matchTokens_literal {d : Char} {ts : List Token} {cs : List Char} :
    matchTokens (.literal d :: ts) cs = true ↔ ∃ rest, cs = d :: rest ∧ matchTokens ts rest = true := by
  cases cs with
  | nil => simp [matchTokens]
  | cons c rest =>
    simp only [matchTokens, Token.holds, Bool.and_eq_true, beq_iff_eq, List.cons.injEq]
    constructor
    · rintro ⟨rfl, h⟩
      exact ⟨rest, ⟨rfl, rfl⟩, h⟩
    · rintro ⟨_, ⟨rfl, rfl⟩, h⟩
      exact ⟨rfl, h⟩

end StyleGauge.Wildcard
