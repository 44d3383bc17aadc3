import StyleGauge.Text.Case.Table
import StyleGauge.Text.Range

/-!
# Lower and upper case

Case forms of text in any script. A character's lower case form does not depend on its
neighbours, the capital sigma apart: at the end of a word it becomes the final form.
-/

namespace StyleGauge.Text

/-- The member of a run that a code point moves to, if it belongs to the run. -/
def CaseRun.move? (n : Nat) (run : CaseRun) : Option Char :=
  if run.first ≤ n && n ≤ run.last && (n - run.first) % run.step == 0 then
    some (Char.ofNat (n + run.distance).toNat)
  else none

/-- The capital sigma. -/
def capitalSigma : Char := '\u03a3'

/-- Whether the first character that is not skipped has case. -/
def startsCased : List Char → Bool
  | [] => false
  | c :: cs =>
    if inRanges caseIgnorableRanges c.toNat then startsCased cs else inRanges casedRanges c.toNat

/-- The lower case form of one character, wherever it stands. -/
def lowerChar (c : Char) : List Char :=
  if c.toNat < 0x80 then [c.toLower]
  else if c = '\u0130' then ['i', '\u0307']
  else [(lowerRuns.findSome? (CaseRun.move? c.toNat)).getD c]

/-- The lower case form of what follows `before`, which is given last character first. -/
def lowerAfter (before : List Char) : List Char → List Char
  | [] => []
  | c :: cs =>
    let form :=
      if c = capitalSigma then
        [if startsCased before && !startsCased cs then '\u03c2' else '\u03c3']
      else lowerChar c
    form ++ lowerAfter (c :: before) cs

/-- The lower case form of a text. -/
def lower (cs : List Char) : List Char :=
  lowerAfter [] cs

/-- The lower case form of a string. -/
def lowerString (s : String) : String :=
  String.ofList (lower s.toList)

/-- The upper case form of one character. -/
def upperChar (c : Char) : List Char :=
  if c.toNat < 0x80 then [c.toUpper]
  else match upperExpansions.lookup c.toNat with
    | some form => form.map Char.ofNat
    | none => [(upperRuns.findSome? (CaseRun.move? c.toNat)).getD c]

/-- The upper case form of a string. -/
def upperString (s : String) : String :=
  String.ofList (s.toList.flatMap upperChar)

/-- Whether a character is a case form of a small ASCII letter. The dotted and the dotless i of
Turkish count as forms of `i`, the long s as a form of `s`. -/
def isFormOf (letter c : Char) : Bool :=
  c.toLower == letter || (letter == 'i' && (c == '\u0130' || c == '\u0131')) ||
    (letter == 's' && c == '\u017f')

/-- The rest of a text after a word of small letters, each of which stands in any of its forms. -/
def dropWord? : List Char → List Char → Option (List Char)
  | [], cs => some cs
  | letter :: letters, c :: cs => if isFormOf letter c then dropWord? letters cs else none
  | _ :: _, [] => none

theorem dropWord?_length_le {letters cs rest : List Char} (h : dropWord? letters cs = some rest) :
    rest.length ≤ cs.length := by
  fun_induction dropWord? letters cs with
  | case1 cs =>
    obtain rfl := Option.some.inj h
    exact Nat.le_refl _
  | case2 letter letters c cs hform ih => exact Nat.le_succ_of_le (ih h)
  | case3 | case4 => simp at h

end StyleGauge.Text
