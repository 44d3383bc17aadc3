/-!
# Styled text

Text for a terminal, in colours and weights. A style is written before the text as escape codes,
and taken back behind it.
-/

namespace StyleGauge.Console

/-- A colour of the terminal. -/
inductive Color where
  | red
  | green
  | yellow
  | magenta
  | cyan
  | white
  deriving DecidableEq, Repr

/-- The number of a colour. -/
def Color.number : Color → Nat
  | red => 1
  | green => 2
  | yellow => 3
  | magenta => 5
  | cyan => 6
  | white => 7

/-- How text is shown. -/
structure Style where
  foreground : Option Color := none
  background : Option Color := none
  bold : Bool := false
  dim : Bool := false
  deriving DecidableEq, Repr

/-- The character that escape codes begin with. -/
def escape : Char := '\x1b'

/-- An escape code. -/
def code (n : Nat) : String :=
  escape.toString ++ "[" ++ toString n ++ "m"

/-- The codes of a style: colours first, then weights. -/
def Style.codes (s : Style) : List Nat :=
  (s.foreground.map fun c => 30 + c.number).toList ++
    (s.background.map fun c => 40 + c.number).toList ++
    (if s.bold then [1] else []) ++ (if s.dim then [2] else [])

/-- Text in a style. -/
def styled (s : Style) (text : String) : String :=
  String.join (s.codes.map code) ++ text ++ code 0

/-- Text in a colour. -/
def colored (c : Color) : String → String :=
  styled { foreground := some c }

/-- Dim text. -/
def dim : String → String :=
  styled { dim := true }

/-- Bold text. -/
def bold : String → String :=
  styled { bold := true }

/-- Whether a character may stand between the bracket of an escape code and its letter. -/
def isCodeChar (c : Char) : Bool :=
  c.isDigit || c == ';' || c == '?'

/-- The text behind an escape code whose first character has been read, if there is one. -/
def dropCode? : List Char → Option (List Char)
  | '[' :: cs =>
    match cs.dropWhile isCodeChar with
    | c :: rest => if c.isAlpha then some rest else none
    | [] => none
  | _ => none

theorem dropCode?_length_le {cs rest : List Char} (h : dropCode? cs = some rest) :
    rest.length ≤ cs.length := by
  unfold dropCode? at h
  split at h
  · rename_i cs
    split at h
    · rename_i c r hd
      have := (List.dropWhile_suffix isCodeChar (l := cs)).length_le
      rw [hd] at this
      split at h <;> simp_all
      omega
    · simp at h
  · simp at h

/-- The text without its escape codes. -/
def plain : List Char → List Char
  | [] => []
  | c :: cs =>
    if c = escape then
      match h : dropCode? cs with
      | some rest =>
        have := dropCode?_length_le h
        plain rest
      | none => c :: plain cs
    else c :: plain cs
termination_by cs => cs.length

end StyleGauge.Console
