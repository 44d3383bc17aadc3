import StyleGauge.Text.Hex
import StyleGauge.Yaml.Cursor

/-!
# Scalars in the text of a document

A plain scalar goes on as long as no sign of the notation stands in the way, over several lines if
these are indented; a quoted one goes on up to its quote. A single line end within a scalar counts
as a space, and of several ones the first does not count.
-/

namespace StyleGauge.Yaml

/-- A scalar that has been read. -/
structure Span where
  /-- Its characters. -/
  text : List Char
  /-- Whether it goes over a line end. -/
  crossed : Bool
  /-- The place after it. -/
  after : Cursor

/-- A line end as it stands in a scalar. -/
def lineEnd (c : Char) : Char :=
  if c == '\u0085' then '\n' else c

/-- The line ends that follow a first one, each with the blanks after it; none at the mark of a
document. -/
def lineEnds (isBlank : Char → Bool) (column : Nat) : List Char → Option (List Char) × Cursor
  | [] => (some [], ⟨[], column, true⟩)
  | c :: rest =>
    if column = 0 ∧ startsWithAnyMark (c :: rest) then (none, ⟨c :: rest, 0, true⟩)
    else if isBreak c then
      let (more, last) := lineEnds isBlank 0 rest
      (more.map (lineEnd c :: ·), last)
    else if isBlank c then lineEnds isBlank (column + 1) rest
    else (some [], ⟨c :: rest, column, true⟩)

/-- What line ends within a scalar stand for. -/
def folded (first : Char) (more : List Char) : List Char :=
  if lineEnd first != '\n' then lineEnd first :: more
  else if more.isEmpty then [' ']
  else more

/-- What stands between two words of a scalar: blanks, or line ends. -/
def joint (isBlank : Char → Bool) (cur : Cursor) : Option (List Char) × Cursor :=
  let blanks := cur.rest.takeWhile isBlank
  let after := cur.pass blanks.length
  match after.rest with
  | c :: rest =>
    if isBreak c then
      let (more, last) := lineEnds isBlank 0 rest
      (more.map (folded c), last)
    else (some blanks, after)
  | [] => (some blanks, after)

/-! ### Plain scalars -/

/-- Holds of the signs that a list or a mapping between brackets is written with. -/
def isFlowSign (c : Char) : Bool :=
  c == ',' || c == '[' || c == ']' || c == '\x7b' || c == '\x7d'

/-- Whether a plain scalar ends before a character. -/
def endsPlain (flow : Bool) (c : Char) (rest : List Char) : Bool :=
  isGap c ||
    (c == ':' && (gapFollows rest || (flow && rest.head?.any isFlowSign))) ||
    (flow && (isFlowSign c || c == '?'))

/-- Holds of the characters that have a meaning of their own at the start of a token. -/
def isIndicator (c : Char) : Bool :=
  isFlowSign c || ['-', '?', ':', '#', '&', '*', '!', '|', '>', '\'', '"', '%', '@', '\x60'].contains c

/-- Whether a plain scalar starts with a character. -/
def startsPlain (flow : Bool) (c : Char) (rest : List Char) : Bool :=
  (!isGap c && !isIndicator c) ||
    (!gapFollows rest && (c == '-' || (!flow && (c == '?' || c == ':'))))

/-- The characters of a plain scalar up to the next gap. -/
def plainWord (flow : Bool) : List Char → List Char
  | [] => []
  | c :: rest => if endsPlain flow c rest then [] else c :: plainWord flow rest

/-- A plain scalar, or what follows of it. Lines that go on with it start at the least column or
further to the right, unless it stands between brackets. -/
def plainFrom (flow : Bool) (least : Nat) : Nat → Cursor → Span
  | 0, cur => ⟨[], false, cur⟩
  | fuel + 1, cur =>
    let word := plainWord flow cur.rest
    if word.isEmpty then ⟨[], false, cur⟩
    else
      match joint (· == ' ') (cur.pass word.length) with
      | (none, last) => ⟨word, false, last⟩
      | (some between, next) =>
        if between.isEmpty || next.rest.head? == some '#' || (!flow && next.column < least) then
          ⟨word, false, next⟩
        else
          let more := plainFrom flow least fuel next
          if more.text.isEmpty then ⟨word, false, more.after⟩
          else ⟨word ++ between ++ more.text, next.fresh || more.crossed, more.after⟩

/-- The plain scalar at a place. -/
def plain (flow : Bool) (least : Nat) (cur : Cursor) : Span :=
  plainFrom flow least cur.rest.length cur

/-! ### Quoted scalars -/

/-- What the escapes of one letter stand for. -/
def letterEscapes : List (Char × Char) := [
  ('0', '\x00'), ('a', '\x07'), ('b', '\x08'), ('t', '\t'), ('\t', '\t'), ('n', '\n'),
  ('v', '\x0b'), ('f', '\x0c'), ('r', '\r'), ('e', '\x1b'), (' ', ' '), ('"', '"'),
  ('\\', '\\'), ('/', '/'), ('N', '\u0085'), ('_', '\u00a0'), ('L', '\u2028'), ('P', '\u2029')]

/-- How many digits follow the letter of an escape. -/
def digitEscapes : List (Char × Nat) := [('x', 2), ('u', 4), ('U', 8)]

/-- The character of an escape with digits. -/
def escapedCode? (digits : List Char) : Option Char :=
  (Text.hexNumber? digits).bind fun n => if n ≤ 0x10FFFF then some (Char.ofNat n) else none

/-- A piece of a quoted scalar: its characters and the place after it, or the closing quote. -/
inductive Piece where
  | part (text : List Char) (after : Cursor)
  | close (after : Cursor)

/-- The piece after a backslash. An escaped line end stands for nothing. -/
def escapePiece? (cur : Cursor) : Option Piece :=
  match cur.rest with
  | [] => none
  | c :: rest =>
    if isBreak c then
      match lineEnds (fun c => c == ' ' || c == '\t') 0 rest with
      | (some more, after) => some (.part more after)
      | (none, _) => none
    else
      match letterEscapes.lookup c, digitEscapes.lookup c with
      | some d, _ => some (.part [d] (cur.pass 1))
      | none, some width =>
        let digits := rest.take width
        if digits.length = width then
          (escapedCode? digits).map fun d => .part [d] (cur.pass (width + 1))
        else none
      | none, none => none

/-- The next piece of a quoted scalar. -/
def piece? (quote : Char) (cur : Cursor) : Option Piece :=
  match cur.rest with
  | [] => none
  | c :: rest =>
    if c == quote then
      if quote == '\'' && rest.head? == some '\'' then some (.part ['\''] (cur.pass 2))
      else some (.close (cur.pass 1))
    else if quote == '"' && c == '\\' then escapePiece? (cur.pass 1)
    else if isGap c then
      match joint (fun c => c == ' ' || c == '\t') cur with
      | (some between, after) => some (.part between after)
      | (none, _) => none
    else some (.part [c] (cur.pass 1))

/-- A quoted scalar from within. -/
def quotedFrom (quote : Char) : Nat → Cursor → Option Span
  | 0, _ => none
  | fuel + 1, cur =>
    match piece? quote cur with
    | none => none
    | some (.close after) => some ⟨[], false, after⟩
    | some (.part text after) =>
      (quotedFrom quote fuel after).map fun s =>
        ⟨text ++ s.text, after.fresh || s.crossed, s.after⟩

/-- The quoted scalar at a place. -/
def quoted (cur : Cursor) : Option Span :=
  cur.rest.head?.bind fun quote => quotedFrom quote cur.rest.length (cur.pass 1)

end StyleGauge.Yaml
