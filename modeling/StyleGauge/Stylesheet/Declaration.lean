import StyleGauge.Text.Blank
import StyleGauge.Text.Case

/-!
# Declarations

A property and its value. The value keeps its case and its inner blanks; the marker `!important`
at its end is taken off and kept as a flag.
-/

namespace StyleGauge

/-- A property with its value. -/
structure Declaration where
  property : String
  value : String
  /-- Whether the value was marked `!important`. -/
  important : Bool := false
  deriving DecidableEq, Repr, Inhabited

namespace Declaration

/-- The word of the marker. -/
def importantWord : List Char :=
  "important".toList

/-- What stands before a marker at the end of a value, if there is one. Blanks may stand around
its exclamation mark, and its word is read in any case. -/
def beforeImportant? (value : List Char) : Option (List Char) :=
  match Text.dropWord? importantWord.reverse (Text.trimStart value.reverse) with
  | none => none
  | some rest =>
    match Text.trimStart rest with
    | '!' :: before => some before.reverse
    | _ => none

/-- The declaration that a text stands for: a property that is not blank, a colon, and a value. -/
def parse? (text : List Char) : Option Declaration :=
  let property := Text.trim (text.takeWhile (· != ':'))
  match text.dropWhile (· != ':') with
  | [] => none
  | _ :: value =>
    if property.isEmpty then none
    else
      let (value, important) := match beforeImportant? value with
        | some before => (before, true)
        | none => (value, false)
      some ⟨String.ofList property, String.ofList (Text.trim value), important⟩

/-- What two declarations share if they say the same: the property and, trimmed and in lower case,
the value. -/
def normalizedValue (d : Declaration) : String :=
  Text.lowerString (Text.trimString d.value)

/-- The property and the normalized value as one text. -/
def key (d : Declaration) : String :=
  d.property ++ ":" ++ d.normalizedValue

end Declaration

end StyleGauge
