import StyleGauge.Json.Basic
import StyleGauge.Json.Numeral
import StyleGauge.Text.Position

/-!
# Reading JSON text

A reader by recursive descent. Every step leaves strictly less text than it was given, which its
result says, so that the reading ends. Beyond the standard `NaN`, `Infinity` and `-Infinity` are
read as numbers. Of a key that stands twice the last value counts, at the place of the first.
-/

namespace StyleGauge.Json

/-- Why a text is not a JSON value. -/
inductive Cause where
  | expectingValue
  | expectingKey
  | expectingColon
  | expectingComma
  | unterminatedString
  | controlCharacter
  | badEscape
  | badUnicodeEscape
  | extraData
  | byteOrderMark
  deriving DecidableEq, Repr

/-- The text of a cause. -/
def Cause.message : Cause → String
  | expectingValue => "Expecting value"
  | expectingKey => "Expecting property name enclosed in double quotes"
  | expectingColon => "Expecting ':' delimiter"
  | expectingComma => "Expecting ',' delimiter"
  | unterminatedString => "Unterminated string starting at"
  | controlCharacter => "Invalid control character at"
  | badEscape => "Invalid \\escape"
  | badUnicodeEscape => "Invalid \\uXXXX escape"
  | extraData => "Extra data"
  | byteOrderMark => "Unexpected UTF-8 BOM (decode using utf-8-sig)"

/-- A cause and where it was found. -/
structure Flaw where
  /-- What is wrong. -/
  cause : Cause
  /-- Where. -/
  position : Text.Position
  deriving DecidableEq, Repr

/-- The text of a flaw: the cause, then line, column and offset. -/
def Flaw.message (f : Flaw) : String :=
  let p := f.position
  s!"{f.cause.message}: line {p.line} column {p.column} (char {p.offset})"

namespace Reader

/-- A cause and the text from where it was found on. -/
structure Stop where
  /-- What is wrong. -/
  cause : Cause
  /-- What is left there. -/
  rest : List Char

/-- What a step leaves of a text: strictly less. -/
abbrev Rest (cs : List Char) := { rest : List Char // rest.length < cs.length }

/-- What a step gives: a result and the rest, or where it stops. -/
abbrev Step (α : Type) (cs : List Char) := Except Stop (α × Rest cs)

/-- The spaces that may stand between tokens. -/
def isSpace (c : Char) : Bool :=
  c == ' ' || c == '\t' || c == '\n' || c == '\r'

/-- The text after the spaces at its start. -/
def skipSpaces (cs : List Char) : List Char :=
  cs.dropWhile isSpace

theorem skipSpaces_length_le (cs : List Char) : (skipSpaces cs).length ≤ cs.length :=
  (List.dropWhile_suffix isSpace).length_le

private theorem length_lt_of_skipSpaces {cs rest : List Char} {c : Char}
    (h : skipSpaces cs = c :: rest) : rest.length < cs.length := by
  have := skipSpaces_length_le cs
  rw [h, List.length_cons] at this
  omega

/-! ### Strings -/

/-- The character of an escape of one letter. -/
def simpleEscape? : Char → Option Char
  | '"' => some '"'
  | '\\' => some '\\'
  | '/' => some '/'
  | 'b' => some '\x08'
  | 'f' => some '\x0c'
  | 'n' => some '\n'
  | 'r' => some '\r'
  | 't' => some '\t'
  | _ => none

/-- A character from a code unit; half of a pair on its own has none and is replaced. -/
def charOfUnit (unit : Nat) : Char :=
  if 0xD800 ≤ unit ∧ unit ≤ 0xDFFF then '\ufffd' else Char.ofNat unit

/-- The four digits of an escape, which more text has to follow, and that text. -/
def takeUnit? : (digits : List Char) → Option (Nat × Rest digits)
  | a :: b :: c :: d :: next :: more =>
    (Text.hexNumber? [a, b, c, d]).map fun unit =>
      (unit, ⟨next :: more, by simp only [List.length_cons]; omega⟩)
  | _ => none

/-- The escape after a backslash and `u`. Two escapes that form a pair give one character. -/
def readUnicode (digits : List Char) : Step Char digits :=
  match takeUnit? digits with
  | none => .error ⟨.badUnicodeEscape, 'u' :: digits⟩
  | some (unit, ⟨after, h⟩) =>
    let single : Step Char digits := .ok (charOfUnit unit, ⟨after, h⟩)
    if 0xD800 ≤ unit ∧ unit ≤ 0xDBFF then
      match after with
      | '\\' :: 'u' :: lowDigits =>
        if (lowDigits.drop 4).isEmpty then single
        else
          match takeUnit? lowDigits with
          | none => .error ⟨.badUnicodeEscape, 'u' :: lowDigits⟩
          | some (low, ⟨r, hr⟩) =>
            if 0xDC00 ≤ low ∧ low ≤ 0xDFFF then
              .ok (Char.ofNat (0x10000 + (unit - 0xD800) * 0x400 + (low - 0xDC00)),
                ⟨r, by simp only [List.length_cons] at h; omega⟩)
            else single
      | _ => single
    else single

/-- One character of a string, or its end. `start` is the text from the opening quote on. -/
def readStringChar (start : List Char) : (cs : List Char) → Step (Option Char) cs
  | [] => .error ⟨.unterminatedString, start⟩
  | c :: rest =>
    if c = '"' then .ok (none, ⟨rest, Nat.lt_succ_self _⟩)
    else if c = '\\' then
      match rest with
      | [] => .error ⟨.unterminatedString, start⟩
      | e :: more =>
        if e = 'u' then
          match readUnicode more with
          | .ok (d, ⟨r, h⟩) => .ok (some d, ⟨r, Nat.lt_succ_of_lt (Nat.lt_succ_of_lt h)⟩)
          | .error stop => .error stop
        else
          match simpleEscape? e with
          | some d => .ok (some d, ⟨more, Nat.lt_succ_of_lt (Nat.lt_succ_self _)⟩)
          | none => .error ⟨.badEscape, c :: rest⟩
    else if c.toNat < 0x20 then .error ⟨.controlCharacter, c :: rest⟩
    else .ok (some c, ⟨rest, Nat.lt_succ_self _⟩)

/-- The rest of a string after its opening quote. -/
def readString (start : List Char) (cs : List Char) : Step (List Char) cs :=
  match readStringChar start cs with
  | .error stop => .error stop
  | .ok (none, rest) => .ok ([], rest)
  | .ok (some c, ⟨rest, _⟩) =>
    match readString start rest with
    | .error stop => .error stop
    | .ok (more, ⟨last, _⟩) => .ok (c :: more, ⟨last, by omega⟩)
termination_by cs.length

/-! ### Numbers and words -/

/-- The words that stand for values. -/
def words : List (List Char × Json) := [
  ("null".toList, null),
  ("true".toList, bool true),
  ("false".toList, bool false),
  ("NaN".toList, number (.float .nan)),
  ("Infinity".toList, number (.float (.infinite false))),
  ("-Infinity".toList, number (.float (.infinite true)))]

/-- A word or a number at the start of a text, and what follows. -/
def readPlain (cs : List Char) : Option (Json × List Char) :=
  match words.find? fun w => w.1.isPrefixOf cs with
  | some w => some (w.2, cs.drop w.1.length)
  | none => (readNumber cs).map fun (n, rest) => (number n, rest)

theorem readPlain_length_lt {cs rest : List Char} {value : Json}
    (h : readPlain cs = some (value, rest)) : rest.length < cs.length := by
  unfold readPlain at h
  split at h
  · rename_i w hw
    have hlen := List.find?_some hw
    rw [List.isPrefixOf_iff_prefix] at hlen
    have := hlen.length_le
    have hpos : 0 < w.1.length :=
      (by decide : ∀ w ∈ words.map Prod.fst, 0 < w.length) _
        (List.mem_map_of_mem (List.mem_of_find?_eq_some hw))
    simp only [Option.some.injEq, Prod.mk.injEq] at h
    rw [← h.2, List.length_drop]
    omega
  · obtain ⟨⟨n, r⟩, hn, hr⟩ := Option.map_eq_some_iff.1 h
    simp only [Prod.mk.injEq] at hr
    exact hr.2 ▸ readNumber_length_lt hn

/-! ### Values -/

mutual

/-- A value at the start of a text. -/
def readValue (cs : List Char) : Step Json cs :=
  match cs with
  | [] => .error ⟨.expectingValue, []⟩
  | c :: rest =>
    if c = '"' then
      match readString (c :: rest) rest with
      | .error stop => .error stop
      | .ok (s, ⟨r, _⟩) =>
        .ok (string (String.ofList s), ⟨r, by simp only [List.length_cons]; omega⟩)
    else if c = '\x7b' then
      match h : skipSpaces rest with
      | '\x7d' :: r => .ok (object [], ⟨r, by
          have := length_lt_of_skipSpaces h; simp only [List.length_cons]; omega⟩)
      | inner =>
        have : inner.length ≤ rest.length := h ▸ skipSpaces_length_le rest
        match readFields inner with
        | .error stop => .error stop
        | .ok (fs, ⟨r, _⟩) =>
          .ok (object (setFields [] fs), ⟨r, by simp only [List.length_cons]; omega⟩)
    else if c = '[' then
      match h : skipSpaces rest with
      | ']' :: r => .ok (array [], ⟨r, by
          have := length_lt_of_skipSpaces h; simp only [List.length_cons]; omega⟩)
      | inner =>
        have : inner.length ≤ rest.length := h ▸ skipSpaces_length_le rest
        match readItems inner with
        | .error stop => .error stop
        | .ok (items, ⟨r, _⟩) =>
          .ok (array items, ⟨r, by simp only [List.length_cons]; omega⟩)
    else
      match h : readPlain (c :: rest) with
      | none => .error ⟨.expectingValue, c :: rest⟩
      | some (value, r) => .ok (value, ⟨r, readPlain_length_lt h⟩)
termination_by 2 * cs.length

/-- The items of a list up to its closing bracket. -/
def readItems (cs : List Char) : Step (List Json) cs :=
  match readValue cs with
  | .error stop => .error stop
  | .ok (item, ⟨r, _⟩) =>
    match h : skipSpaces r with
    | ']' :: rest => .ok ([item], ⟨rest, by have := length_lt_of_skipSpaces h; omega⟩)
    | ',' :: rest =>
      have : rest.length < r.length := length_lt_of_skipSpaces h
      have : (skipSpaces rest).length ≤ rest.length := skipSpaces_length_le rest
      match readItems (skipSpaces rest) with
      | .error stop => .error stop
      | .ok (items, ⟨last, _⟩) => .ok (item :: items, ⟨last, by omega⟩)
    | other => .error ⟨.expectingComma, other⟩
termination_by 2 * cs.length + 1

/-- The fields of an object up to its closing brace. -/
def readFields (cs : List Char) : Step (List (String × Json)) cs :=
  match cs with
  | [] => .error ⟨.expectingKey, []⟩
  | quote :: afterQuote =>
    if quote ≠ '"' then .error ⟨.expectingKey, quote :: afterQuote⟩
    else
      match readString (quote :: afterQuote) afterQuote with
      | .error stop => .error stop
      | .ok (key, ⟨afterKey, _⟩) =>
        match hc : skipSpaces afterKey with
        | ':' :: afterColon =>
          have : afterColon.length < afterKey.length := length_lt_of_skipSpaces hc
          have : (skipSpaces afterColon).length ≤ afterColon.length :=
            skipSpaces_length_le afterColon
          match readValue (skipSpaces afterColon) with
          | .error stop => .error stop
          | .ok (value, ⟨r, _⟩) =>
            match h : skipSpaces r with
            | '\x7d' :: rest =>
              .ok ([(String.ofList key, value)], ⟨rest, by
                have := length_lt_of_skipSpaces h; simp only [List.length_cons]; omega⟩)
            | ',' :: rest =>
              have : rest.length < r.length := length_lt_of_skipSpaces h
              have : (skipSpaces rest).length ≤ rest.length := skipSpaces_length_le rest
              match readFields (skipSpaces rest) with
              | .error stop => .error stop
              | .ok (fs, ⟨last, _⟩) =>
                .ok ((String.ofList key, value) :: fs,
                  ⟨last, by simp only [List.length_cons]; omega⟩)
            | other => .error ⟨.expectingComma, other⟩
        | other => .error ⟨.expectingColon, other⟩
termination_by 2 * cs.length + 1

end

/-- A whole text as one value. -/
def readText (cs : List Char) : Except Stop Json :=
  if cs.head? = some '\ufeff' then .error ⟨.byteOrderMark, cs⟩
  else
    match readValue (skipSpaces cs) with
    | .error stop => .error stop
    | .ok (value, ⟨r, _⟩) =>
      let rest := skipSpaces r
      if rest.isEmpty then .ok value else .error ⟨.extraData, rest⟩

end Reader

/-- The value that a text stands for, or the first flaw in it. -/
def parse (text : String) : Except Flaw Json :=
  let cs := text.toList
  match Reader.readText cs with
  | .ok value => .ok value
  | .error stop =>
    .error ⟨stop.cause, Text.Position.ofOffset cs (cs.length - stop.rest.length)⟩

end StyleGauge.Json
