import StyleGauge.Text.Blank
import StyleGauge.Text.Pattern
import StyleGauge.Text.Word

/-!
# Estimates for malformed selectors

A selector that cannot be parsed is still counted, by looks alone: a number sign with a name behind
it looks like an id, a full stop with one like a class, text in brackets like an attribute, and a
name at the start or behind a separator like an element.
-/

namespace StyleGauge.Selector.Estimate

open Text (Pattern)

/-! ### Characters -/

/-- An ASCII letter. -/
def isLetter (c : Char) : Bool :=
  c.isAlpha

/-- What the name of an id or a class may look to begin with. -/
def looksLikeNameStart (c : Char) : Bool :=
  isLetter c || c == '_' || c == '-'

/-- What a name may look to go on with. -/
def looksLikeNamePart (c : Char) : Bool :=
  Text.isWord c || c == '-'

/-- What separates compounds: a blank or a sign. -/
def isSeparator (c : Char) : Bool :=
  Text.isBlank c || c == '>' || c == '+' || c == '~'

/-! ### Patterns -/

/-- A name behind a sign. -/
def signedName (sign : Char) : Pattern :=
  .seq (.one (· == sign)) (.seq (.one looksLikeNameStart) (.many looksLikeNamePart))

/-- Brackets with something in them. -/
def brackets : Pattern :=
  .seq (.one (· == '['))
    (.seq (.one (· != ']')) (.seq (.many (· != ']')) (.one (· == ']'))))

/-- A name at the start or behind a separator. -/
def elementName : Pattern :=
  .seq (.either .start (.one isSeparator)) (.seq (.one isLetter) (.many looksLikeNamePart))

/-- A colon that no colon follows. -/
def lastColon : Pattern :=
  .seq (.one (· == ':')) (.notBefore (· == ':'))

/-- Two colons beside each other. -/
def twoColons : Pattern :=
  .seq (.one (· == ':')) (.one (· == ':'))

/-! ### Counts -/

/-- How often text looks like an id. -/
def ids (cs : List Char) : Nat :=
  (signedName '#').count cs

/-- How often text looks like a class. -/
def classNames (cs : List Char) : Nat :=
  (signedName '.').count cs

/-- How often text looks like an attribute. -/
def attributeTests (cs : List Char) : Nat :=
  brackets.count cs

/-- How often text looks like an element. -/
def elements (cs : List Char) : Nat :=
  elementName.count cs

/-- The depth that text looks to have: how many pieces between separators hold more than blanks, but
at least one. -/
def depth (cs : List Char) : Nat :=
  max 1 ((Pattern.one isSeparator).split cs |>.filter (Text.trim · ≠ [])).length

/-- Whether text looks to have a pseudo-class. -/
def hasPseudoClass (cs : List Char) : Bool :=
  lastColon.occurs cs

/-- Whether text looks to have a pseudo-element. -/
def hasPseudoElement (cs : List Char) : Bool :=
  twoColons.occurs cs

end StyleGauge.Selector.Estimate
