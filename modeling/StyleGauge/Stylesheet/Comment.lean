/-!
# Comments

Comments are blanked out before a stylesheet is read: every character of a comment but its line
ends becomes a space, so that offsets and lines stay what they are. A comment that is not closed
reaches to the end.
-/

namespace StyleGauge.Stylesheet

/-- Where a text stands while its comments are looked for. -/
inductive Mode where
  | code
  /-- In a string with this quote. -/
  | string (quote : Char)
  | comment
  deriving DecidableEq, Repr

/-- The mode after a character of code that begins no comment. -/
def Mode.afterCode (c : Char) : Mode :=
  if c = '"' ∨ c = '\'' then .string c else .code

/-- The mode after a character of a string that is not escaped: a string ends at its quote, and at
the end of its line at the latest. -/
def Mode.afterString (quote c : Char) : Mode :=
  if c = quote ∨ c = '\n' then .code else .string quote

/-- What a character of a comment becomes. -/
def blankOf (c : Char) : Char :=
  if c = '\n' then '\n' else ' '

/-- The text with its comments blanked out. In code a backslash has no meaning; in a string it
escapes the next character. -/
def blankComments : Mode → List Char → List Char
  | _, [] => []
  | .code, '/' :: '*' :: rest => ' ' :: ' ' :: blankComments .comment rest
  | .code, c :: rest => c :: blankComments (.afterCode c) rest
  | .string quote, '\\' :: c :: rest => '\\' :: c :: blankComments (.string quote) rest
  | .string quote, c :: rest => c :: blankComments (.afterString quote c) rest
  | .comment, '*' :: '/' :: rest => ' ' :: ' ' :: blankComments .code rest
  | .comment, c :: rest => blankOf c :: blankComments .comment rest

/-- The mode in which a text ends. -/
def modeAfter : Mode → List Char → Mode
  | mode, [] => mode
  | .code, '/' :: '*' :: rest => modeAfter .comment rest
  | .code, c :: rest => modeAfter (.afterCode c) rest
  | .string quote, '\\' :: _ :: rest => modeAfter (.string quote) rest
  | .string quote, c :: rest => modeAfter (.afterString quote c) rest
  | .comment, '*' :: '/' :: rest => modeAfter .code rest
  | .comment, _ :: rest => modeAfter .comment rest

/-- A stylesheet without its comments. -/
def withoutComments (text : List Char) : List Char :=
  blankComments .code text

theorem blankComments_length (mode : Mode) (cs : List Char) :
    (blankComments mode cs).length = cs.length := by
  fun_induction blankComments mode cs <;> simp_all

end StyleGauge.Stylesheet
