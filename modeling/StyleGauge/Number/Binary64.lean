/-!
# Binary floating point numbers

The numbers of the IEEE format binary64. A finite value is a sign, a mantissa and a power of two,
which is a rational number; the result of an operation is the exact result on rationals, rounded
once to the nearest value, of two equally near ones to the one with the even mantissa.
-/

namespace StyleGauge

/-- A binary64 value. A finite one is `mantissa * 2 ^ exponent`, negated if `negative`. -/
inductive Binary64 where
  | finite (negative : Bool) (mantissa : Nat) (exponent : Int)
  | infinite (negative : Bool)
  | nan
  deriving DecidableEq, Repr, Inhabited

/-- The rational numbers with two infinities, and a value that is comparable with none. -/
inductive Extended where
  | below
  | rational (q : Rat)
  | above
  | undefined
  deriving DecidableEq

namespace Extended

/-- Strict order; `undefined` is below and above nothing. -/
def lt : Extended → Extended → Bool
  | undefined, _ | _, undefined => false
  | _, below | above, _ => false
  | below, _ | _, above => true
  | rational p, rational q => p < q

/-- Equality of values; `undefined` does not equal itself. -/
def eq : Extended → Extended → Bool
  | below, below | above, above => true
  | rational p, rational q => p == q
  | _, _ => false

@[simp] theorem lt_rational (p q : Rat) : (rational p).lt (rational q) = decide (p < q) := rfl

@[simp] theorem eq_rational (p q : Rat) : (rational p).eq (rational q) = (p == q) := rfl

end Extended

/-- The quotient rounded to the nearest natural number, a tie to the even one. -/
def roundDivEven (num den : Nat) : Nat :=
  let q := num / den
  let r := num % den
  if 2 * r < den then q else if den < 2 * r then q + 1 else q + q % 2

/-- Two to an integer power. -/
def twoPow (e : Int) : Rat :=
  if 0 ≤ e then Nat.pow 2 e.toNat else mkRat 1 (Nat.pow 2 (-e).toNat)

/-- Ten to an integer power. -/
def tenPow (e : Int) : Rat :=
  if 0 ≤ e then Nat.pow 10 e.toNat else mkRat 1 (Nat.pow 10 (-e).toNat)

namespace Binary64

/-- The least exponent of a finite value. -/
def minExponent : Int := -1074

/-- The greatest exponent of a finite value. -/
def maxExponent : Int := 971

/-- The zero of a sign. -/
def zero (negative : Bool) : Binary64 :=
  finite negative 0 minExponent

/-- The rational number that a sign, a mantissa and an exponent stand for. -/
def finiteToRat (negative : Bool) (mantissa : Nat) (exponent : Int) : Rat :=
  let q := (mantissa : Rat) * twoPow exponent
  if negative then -q else q

/-- The place of a value among the rational numbers and the infinities. -/
def toExtended : Binary64 → Extended
  | finite s m e => .rational (finiteToRat s m e)
  | infinite true => .below
  | infinite false => .above
  | nan => .undefined

/-- The power of two at or below a positive rational number. -/
def binaryExponent (q : Rat) : Int :=
  let e : Int := (Nat.log2 q.num.natAbs : Int) - Nat.log2 q.den
  if twoPow e ≤ q then e else e - 1

/-- The value nearest to the absolute value of `q`, with the given sign. -/
def nearest (negative : Bool) (q : Rat) : Binary64 :=
  if q = 0 then zero negative
  else
    let a := q.abs
    let e := max (binaryExponent a - 52) minExponent
    let scaled := a / twoPow e
    let m := roundDivEven scaled.num.natAbs scaled.den
    let (m, e) := if m = Nat.pow 2 53 then (Nat.pow 2 52, e + 1) else (m, e)
    if maxExponent < e then infinite negative else finite negative m e

/-- The value nearest to a rational number; zero gets the sign `negativeZero`. -/
def ofRat (q : Rat) (negativeZero : Bool := false) : Binary64 :=
  nearest (if q = 0 then negativeZero else q < 0) q

/-- The value nearest to an integer, infinite if that is out of range. -/
def ofInt (n : Int) : Binary64 :=
  ofRat n

/-- Whether the sign is negative; a value that is no number has none. -/
def isNegative : Binary64 → Bool
  | finite s _ _ => s
  | infinite s => s
  | nan => false

/-- Whether the value is an integer. -/
def isIntegral : Binary64 → Bool
  | finite s m e => (finiteToRat s m e).den == 1
  | _ => false

/-- The sum. An exact zero is negative only if both terms are negative zeros. -/
protected def add : Binary64 → Binary64 → Binary64
  | nan, _ | _, nan => nan
  | infinite s, infinite t => if s = t then infinite s else nan
  | infinite s, finite .. => infinite s
  | finite .., infinite t => infinite t
  | finite s m e, finite t n f => ofRat (finiteToRat s m e + finiteToRat t n f) (s && t)

/-- The value with the other sign. -/
protected def neg : Binary64 → Binary64
  | finite s m e => finite (!s) m e
  | infinite s => infinite (!s)
  | nan => nan

/-- The difference. -/
protected def sub (x y : Binary64) : Binary64 :=
  x.add y.neg

/-- The product. -/
protected def mul : Binary64 → Binary64 → Binary64
  | nan, _ | _, nan => nan
  | infinite s, infinite t => infinite (s != t)
  | infinite s, finite t n _ => if n = 0 then nan else infinite (s != t)
  | finite s m _, infinite t => if m = 0 then nan else infinite (s != t)
  | finite s m e, finite t n f => ofRat (finiteToRat s m e * finiteToRat t n f) (s != t)

/-- The quotient. Division by zero is for the caller to refuse; here it gives no number. -/
protected def div : Binary64 → Binary64 → Binary64
  | nan, _ | _, nan => nan
  | infinite _, infinite _ => nan
  | infinite s, finite t _ _ => infinite (s != t)
  | finite s _ _, infinite t => zero (s != t)
  | finite s m e, finite t n f =>
    if n = 0 then nan else ofRat (finiteToRat s m e / finiteToRat t n f) (s != t)

end Binary64

end StyleGauge
