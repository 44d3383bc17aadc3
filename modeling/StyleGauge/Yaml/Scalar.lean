import StyleGauge.Json.Basic
import StyleGauge.Json.Numeral
import StyleGauge.Text.Hex
import StyleGauge.Text.Parts

/-!
# Plain scalars

What a plain scalar of a YAML document stands for: a truth value, null, an integer, a floating
point number, or else the text that it is. Underscores may stand between the digits of numbers, and
colons separate the digits of a number to the base of sixty.
-/

namespace StyleGauge.Yaml.Scalar

open Json.Reader (digitsValue takeSign)

/-- The words that stand for values. -/
def words : List (List String × Json) := [
  (["", "~", "null", "Null", "NULL"], .null),
  (["yes", "Yes", "YES", "true", "True", "TRUE", "on", "On", "ON"], .bool true),
  (["no", "No", "NO", "false", "False", "FALSE", "off", "Off", "OFF"], .bool false),
  ([".nan", ".NaN", ".NAN"], .number (.float .nan)),
  ([".inf", ".Inf", ".INF", "+.inf", "+.Inf", "+.INF"], .number (.float (.infinite false))),
  (["-.inf", "-.Inf", "-.INF"], .number (.float (.infinite true)))]

/-- The words that are set apart for other ends than values. -/
def reserved : List String := ["<<", "="]

/-- The digits of a number without the underscores between them. -/
def withoutUnderscores (cs : List Char) : List Char :=
  cs.filter (· != '_')

/-- The number that digits to some base stand for. -/
def natural? (base : Nat) (cs : List Char) : Option Nat :=
  let digit? (c : Char) : Option Nat := (Text.hexValue? c).filter (· < base)
  if cs.isEmpty then none
  else (withoutUnderscores cs).foldlM (fun n c => (digit? c).map (base * n + ·)) 0

/-- Whether a text may be a digit to the base of sixty after the first one. -/
def isSixtieth : List Char → Bool
  | [c] => c.isDigit
  | [c, d] => '0' ≤ c && c ≤ '5' && d.isDigit
  | _ => false

/-- The number that digits to the base of sixty stand for. -/
def sexagesimal? (cs : List Char) : Option Nat :=
  match Text.parts ':' cs with
  | [] => none
  | first :: more => do
    let n ← natural? 10 first
    if more.all isSixtieth then some (more.foldl (fun n ds => 60 * n + digitsValue ds) n) else none

/-- The integer that a text without a sign stands for. -/
def unsigned? (cs : List Char) : Option Nat :=
  match cs with
  | '0' :: 'b' :: ds => natural? 2 ds
  | '0' :: 'x' :: ds => natural? 16 ds
  | '0' :: _ => natural? 8 cs
  | c :: _ => if c.isDigit then sexagesimal? cs else none
  | [] => none

/-- The integer that a text stands for. -/
def int? (cs : List Char) : Option Int :=
  let (negative, digits) := takeSign cs
  (unsigned? digits).map fun n => if negative then -n else n

/-- Whether a character may stand among digits. -/
def isSpacedDigit (c : Char) : Bool :=
  c.isDigit || c == '_'

/-- Whether a text is digits with underscores between or after them. -/
def isSpacedDigits : List Char → Bool
  | [] => false
  | c :: cs => c.isDigit && cs.all isSpacedDigit

/-- The exponent that is all of a text; it needs a sign. -/
def exponent? : List Char → Option Int
  | [] => some 0
  | e :: s :: ds =>
    if (e == 'e' || e == 'E') && (s == '+' || s == '-') && !ds.isEmpty && ds.all Char.isDigit then
      let n : Int := digitsValue ds
      some (if s == '-' then -n else n)
    else none
  | _ => none

/-- The decimal with the digits before and after its point, and an exponent. -/
def decimalOf (whole fraction : List Char) (exponent : Int) : Decimal :=
  let digits := withoutUnderscores fraction
  ⟨digitsValue (withoutUnderscores whole ++ digits), exponent - digits.length⟩

/-- The decimal that a text stands for. It needs a point, and a digit before it, or, without a
sign, after it. -/
def decimal? (signed : Bool) (cs : List Char) : Option Decimal :=
  let whole := cs.takeWhile isSpacedDigit
  match cs.dropWhile isSpacedDigit with
  | '.' :: afterPoint =>
    let fraction := afterPoint.takeWhile isSpacedDigit
    if isSpacedDigits whole || (whole.isEmpty && !signed && isSpacedDigits fraction) then
      (exponent? (afterPoint.dropWhile isSpacedDigit)).map (decimalOf whole fraction)
    else none
  | _ => none

/-- The number whose digits to the base of sixty are given, the least one first. -/
def ofSixtieths (digits : List Decimal) : Except Number.Fault Number :=
  digits.zipIdx.foldlM
    (fun sum (d, place) => do
      let term ← Number.mul (.float (Binary64.ofDecimal false d)) (.ofNat (Nat.pow 60 place))
      sum.add term)
    (.float (Binary64.zero false))

/-- The number that digits to the base of sixty stand for, the last one with a fraction. -/
def sexagesimalFloat? (cs : List Char) : Option Number :=
  match Text.parts ':' cs with
  | first :: next :: more =>
    let later := next :: more
    let middle := later.dropLast
    match Text.parts '.' (later.getLast?.getD []) with
    | [last, fraction] =>
      if isSpacedDigits first && middle.all isSixtieth && isSixtieth last &&
          fraction.all isSpacedDigit then
        (ofSixtieths (decimalOf last fraction 0 ::
          (middle.reverse ++ [first]).map (decimalOf · [] 0))).toOption
      else none
    | _ => none
  | _ => none

/-- The floating point number that a text stands for. -/
def float? (cs : List Char) : Option Number :=
  let (negative, unsigned) := takeSign cs
  let signed := unsigned.length != cs.length
  match decimal? signed unsigned with
  | some d => some (.float (Binary64.ofDecimal negative d))
  | none =>
    (sexagesimalFloat? unsigned).bind fun n =>
      (Number.mul (.int (if negative then -1 else 1)) n).toOption

/-- The value that a plain scalar stands for; none if it is a word set apart for other ends. -/
def ofPlain? (cs : List Char) : Option Json :=
  let text := String.ofList cs
  if reserved.contains text then none
  else
    match words.find? fun w => w.1.contains text with
    | some w => some w.2
    | none =>
      match float? cs, int? cs with
      | some n, _ => some (.number n)
      | none, some n => some (.ofInt n)
      | none, none => some (.string text)

end StyleGauge.Yaml.Scalar
