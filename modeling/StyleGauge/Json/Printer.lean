import StyleGauge.Json.Basic

/-!
# JSON text of values

Values are written in ASCII: every other character becomes an escape, two for a character beyond
the first plane. Text is either compact or has one field or item a line.
-/

namespace StyleGauge.Json

/-- How one character is written in a JSON string. -/
def escapedChar (c : Char) : List Char :=
  let n := c.toNat
  if c = '"' ∨ c = '\\' then ['\\', c]
  else if c = '\n' then ['\\', 'n']
  else if c = '\r' then ['\\', 'r']
  else if c = '\t' then ['\\', 't']
  else if n = 0x0C then ['\\', 'f']
  else if n = 0x08 then ['\\', 'b']
  else if 0x20 ≤ n ∧ n ≤ 0x7E then [c]
  else if n < 0x10000 then '\\' :: 'u' :: Text.hex 4 n
  else
    let m := n - 0x10000
    '\\' :: 'u' :: Text.hex 4 (0xD800 + m / 0x400) ++
      '\\' :: 'u' :: Text.hex 4 (0xDC00 + m % 0x400)

/-- A text as a JSON string. -/
def stringText (s : String) : String :=
  String.ofList ('"' :: s.toList.flatMap escapedChar ++ ['"'])

/-- A number as JSON text. -/
def numberText : Number → String
  | .float .nan => "NaN"
  | .float (.infinite s) => if s then "-Infinity" else "Infinity"
  | n => n.text

/-- Where a value stands on the page: nowhere in compact text, else at a depth. -/
abbrev Layout := Option Nat

/-- What stands before an item or a closing bracket. -/
def lineStart : Layout → String
  | none => ""
  | some depth => "\n" ++ String.ofList (List.replicate (2 * depth) ' ')

/-- What stands between two items. -/
def separator : Layout → String
  | none => ", "
  | some _ => ","

/-- Items between brackets. -/
def bracketed (layout : Layout) (opening closing : String) (items : List String) : String :=
  if items.isEmpty then opening ++ closing
  else
    let start := lineStart (layout.map (· + 1))
    opening ++ (separator layout).intercalate (items.map (start ++ ·)) ++ lineStart layout ++ closing

mutual

/-- The text of a value in a layout. -/
def render (layout : Layout) : Json → String
  | null => "null"
  | bool b => if b then "true" else "false"
  | number n => numberText n
  | string s => stringText s
  | array items => bracketed layout "[" "]" (renderItems (layout.map (· + 1)) items)
  | object fs => bracketed layout "\x7b" "\x7d" (renderFields (layout.map (· + 1)) fs)

/-- The texts of the items of a list. -/
def renderItems (layout : Layout) : List Json → List String
  | [] => []
  | item :: items => render layout item :: renderItems layout items

/-- The texts of the fields of an object. -/
def renderFields (layout : Layout) : List (String × Json) → List String
  | [] => []
  | (key, value) :: fs =>
    (stringText key ++ ": " ++ render layout value) :: renderFields layout fs

end

/-- The value on one line. -/
def compact : Json → String :=
  render none

/-- The value with one field or item a line, two spaces deeper at each level. -/
def pretty : Json → String :=
  render (some 0)

end StyleGauge.Json
