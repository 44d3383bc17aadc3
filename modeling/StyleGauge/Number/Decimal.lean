import StyleGauge.Number.Binary64

/-!
# Decimal text of binary floating point numbers

A finite value is written with the fewest decimal digits that read back as the same value, and of
those with the digits nearest to it. Reading rounds the exact decimal once.
-/

namespace StyleGauge

/-- The rational number `digits * 10 ^ exponent`. -/
structure Decimal where
  /-- The digits, as one number. -/
  digits : Nat
  /-- The power of ten that the last digit counts. -/
  exponent : Int
  deriving DecidableEq, Repr

namespace Decimal

/-- The rational number that is meant. -/
def toRat (d : Decimal) : Rat :=
  (d.digits : Rat) * tenPow d.exponent

/-- The power of ten at or below a positive rational number. -/
def decimalExponent (q : Rat) : Int :=
  let e : Int := (Nat.toDigits 10 q.num.natAbs).length - (Nat.toDigits 10 q.den).length
  if tenPow e ≤ q then e else e - 1

/-- The number without the zeros at its end, which `fuel` bounds. -/
def stripZeros : Nat → Decimal → Decimal
  | 0, d => d
  | fuel + 1, d =>
    if d.digits ≠ 0 ∧ d.digits % 10 = 0 then
      stripZeros fuel ⟨d.digits / 10, d.exponent + 1⟩
    else d

/-- The decimal of `count` digits that reads back as the value nearest to `q`, if there is one; of
two, the one nearer to `q`, of two equally near ones the even one. -/
def withDigits? (q : Rat) (count : Nat) : Option Decimal :=
  let e := decimalExponent q - count + 1
  let scaled := q / tenPow e
  let lower := scaled.num.natAbs / scaled.den
  let readsBack (n : Nat) : Bool := Binary64.nearest false (toRat ⟨n, e⟩) == Binary64.nearest false q
  let near := roundDivEven scaled.num.natAbs scaled.den
  let far := if near = lower then lower + 1 else lower
  if readsBack near then some ⟨near, e⟩
  else if readsBack far then some ⟨far, e⟩
  else none

/-- The decimal that is exactly `mantissa * 2 ^ exponent`. -/
def exact (mantissa : Nat) (exponent : Int) : Decimal :=
  if 0 ≤ exponent then ⟨mantissa * Nat.pow 2 exponent.toNat, 0⟩
  else ⟨mantissa * Nat.pow 5 (-exponent).toNat, exponent⟩

/-- The shortest decimal that reads back as `mantissa * 2 ^ exponent`. Seventeen digits are enough
for every value of the format. -/
def shortest (mantissa : Nat) (exponent : Int) : Decimal :=
  if mantissa = 0 then ⟨0, 0⟩
  else
    let q := Binary64.finiteToRat false mantissa exponent
    let d := ((List.range 17).findSome? fun i => withDigits? q (i + 1)).getD
      (exact mantissa exponent)
    stripZeros 20 d

end Decimal

namespace Binary64

/-- The binary64 value nearest to a decimal. Far out of range the power of ten is not computed. -/
def ofDecimal (negative : Bool) (d : Decimal) : Binary64 :=
  let magnitude := d.exponent + (Nat.toDigits 10 d.digits).length
  if d.digits = 0 || magnitude < -400 then zero negative
  else if 400 < magnitude then infinite negative
  else nearest negative d.toRat

/-- How decimals are written: positionally while the power of ten of the first digit is at least
`minPositional` and below `minScientific`, with a fraction in any case; else with an exponent of a
sign and at least two digits. -/
structure DecimalFormat where
  /-- The least power of ten that is written positionally. -/
  minPositional : Int
  /-- The least power of ten that is written with an exponent. -/
  minScientific : Int

/-- The format of every number that is shown. -/
def shownFormat : DecimalFormat := ⟨-4, 16⟩

/-- The exponent part of a number. -/
def exponentText (e : Int) : String :=
  let digits := toString e.natAbs
  (if e < 0 then "e-" else "e+") ++ (if digits.length < 2 then "0" ++ digits else digits)

/-- The text of a decimal without its sign. -/
def decimalText (format : DecimalFormat) (d : Decimal) : String :=
  let digits := Nat.toDigits 10 d.digits
  let first : Int := d.exponent + digits.length - 1
  let text := String.ofList
  if first < format.minPositional || format.minScientific ≤ first then
    match digits with
    | [] => ""
    | [c] => text [c] ++ exponentText first
    | c :: rest => text (c :: '.' :: rest) ++ exponentText first
  else if 0 ≤ d.exponent then
    text (digits ++ List.replicate d.exponent.toNat '0' ++ ['.', '0'])
  else if 0 ≤ first then
    let whole := first.toNat + 1
    text (digits.take whole ++ '.' :: digits.drop whole)
  else
    text ('0' :: '.' :: List.replicate (-first - 1).toNat '0' ++ digits)

/-- The text of a value. -/
def text : Binary64 → String
  | nan => "nan"
  | infinite s => if s then "-inf" else "inf"
  | finite s m e =>
    (if s then "-" else "") ++ decimalText shownFormat (Decimal.shortest m e)

end Binary64

end StyleGauge
