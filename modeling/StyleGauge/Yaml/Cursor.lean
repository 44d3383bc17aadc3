/-!
# Places in a document

A reader of YAML has to know the column where it stands, and whether the line began there. Blanks,
comments and line ends are passed over together.
-/

namespace StyleGauge.Yaml

/-- A place in a document. -/
structure Cursor where
  /-- The text from the place on. -/
  rest : List Char
  /-- The count of characters before it on its line. -/
  column : Nat
  /-- Whether nothing but blanks stands before it on its line. -/
  fresh : Bool

/-- Holds of the characters that end a line. -/
def isBreak (c : Char) : Bool :=
  c == '\n' || c == '\u0085' || c == '\u2028' || c == '\u2029'

/-- Holds of the characters that end a token. -/
def isGap (c : Char) : Bool :=
  c == ' ' || c == '\t' || isBreak c

/-- Whether a token that ends here does: a gap or the end of the document follows. -/
def gapFollows : List Char → Bool
  | [] => true
  | c :: _ => isGap c

/-- The mark that a document starts with. -/
def startMark : List Char := ['-', '-', '-']

/-- The mark that a document ends with. -/
def endMark : List Char := ['.', '.', '.']

/-- Whether a mark stands at the start of a text. -/
def startsWithMark (mark cs : List Char) : Bool :=
  mark.isPrefixOf cs && gapFollows (cs.drop mark.length)

/-- Whether one of the marks stands at the start of a text. -/
def startsWithAnyMark (cs : List Char) : Bool :=
  startsWithMark startMark cs || startsWithMark endMark cs

namespace Cursor

/-- The place after blanks, comments and line ends. -/
def skipFrom (column : Nat) (fresh inComment : Bool) : List Char → Cursor
  | [] => ⟨[], column, fresh⟩
  | c :: rest =>
    if isBreak c then skipFrom 0 true false rest
    else if inComment || c == '#' then skipFrom (column + 1) fresh true rest
    else if c == ' ' then skipFrom (column + 1) fresh false rest
    else ⟨c :: rest, column, fresh⟩

/-- The next place where a token may stand. -/
def skip (cur : Cursor) : Cursor :=
  skipFrom cur.column cur.fresh false cur.rest

/-- The place after some characters of a token. A byte order mark has no width. -/
def pass (cur : Cursor) (count : Nat) : Cursor :=
  let passed := cur.rest.take count
  ⟨cur.rest.drop count, cur.column + passed.countP (· != '\ufeff'), false⟩

/-- Whether a mark stands at the start of the line. -/
def isAtMark (cur : Cursor) (mark : List Char) : Bool :=
  cur.column == 0 && startsWithMark mark cur.rest

/-- Whether the document is over: at the end of the text, or at a mark. -/
def isOver (cur : Cursor) : Bool :=
  cur.rest.isEmpty || cur.isAtMark startMark || cur.isAtMark endMark

/-- Whether a dash stands here that introduces an item. -/
def isAtDash (cur : Cursor) : Bool :=
  match cur.rest with
  | '-' :: rest => gapFollows rest
  | _ => false

/-- Whether a colon stands here that introduces a value. Between brackets any colon does. -/
def isAtColon (cur : Cursor) (flow : Bool) : Bool :=
  match cur.rest with
  | ':' :: rest => flow || gapFollows rest
  | _ => false

end Cursor

end StyleGauge.Yaml
