import StyleGauge.Number.Decimal

/-!
# Numbers

A number is an integer of any size or a binary64 value, and stays what it is until an operation
mixes the two. Integers are exact. An operation that has no result says why.
-/

namespace StyleGauge

/-- An integer or a floating point number. -/
inductive Number where
  | int (value : Int)
  | float (value : Binary64)
  deriving DecidableEq, Repr, Inhabited

/-- Why an operation on numbers has no result. -/
inductive Number.Fault where
  | divisionByZero
  | floatDivisionByZero
  | integerTooLarge
  | quotientTooLarge
  | infinityToInteger
  | nanToInteger
  deriving DecidableEq, Repr

namespace Number

instance : OfNat Number n := ⟨.int n⟩

/-- The text of a fault. -/
def Fault.message : Fault → String
  | divisionByZero => "division by zero"
  | floatDivisionByZero => "float division by zero"
  | integerTooLarge => "int too large to convert to float"
  | quotientTooLarge => "integer division result too large for a float"
  | infinityToInteger => "cannot convert float infinity to integer"
  | nanToInteger => "cannot convert float NaN to integer"

/-- A count as a number. -/
def ofNat (n : Nat) : Number :=
  .int n

/-- The text of a number. -/
def text : Number → String
  | int n => toString n
  | float x => x.text

/-- The place of a number among the rational numbers and the infinities. -/
def toExtended : Number → Extended
  | int n => .rational n
  | float x => x.toExtended

/-! ### Comparison -/

/-- Exact comparison, also of an integer with a floating point number. -/
def lt (x y : Number) : Bool :=
  x.toExtended.lt y.toExtended

/-- Equality of values: an integer equals the floating point number of the same value. -/
def eq (x y : Number) : Bool :=
  x.toExtended.eq y.toExtended

/-- At most: less or equal. -/
def le (x y : Number) : Bool :=
  x.lt y || x.eq y

/-- The smaller number; of two equal ones the first. -/
def min (x y : Number) : Number :=
  if y.lt x then y else x

/-- The greater number; of two equal ones the first. -/
def max (x y : Number) : Number :=
  if x.lt y then y else x

@[simp] theorem lt_int (m n : Int) : (int m).lt (int n) = decide (m < n) := by
  simp only [lt, toExtended, Extended.lt_rational, Rat.intCast_lt_intCast]

@[simp] theorem eq_int (m n : Int) : (int m).eq (int n) = decide (m = n) := by
  simp only [eq, toExtended, Extended.eq_rational]
  by_cases h : m = n <;> simp [h]

@[simp] theorem le_int (m n : Int) : (int m).le (int n) = decide (m ≤ n) := by
  simp only [le, lt_int, eq_int]
  by_cases h : m ≤ n <;> simp [h] <;> omega

/-! ### Arithmetic -/

/-- The floating point number nearest to a number. -/
def toBinary64 : Number → Except Fault Binary64
  | float x => .ok x
  | int n =>
    match Binary64.ofInt n with
    | .infinite _ => .error .integerTooLarge
    | x => .ok x

/-- An operation on integers, and its floating point form for all other arguments. -/
def mixed (onInt : Int → Int → Int) (onFloat : Binary64 → Binary64 → Binary64) :
    Number → Number → Except Fault Number
  | int m, int n => .ok (.int (onInt m n))
  | x, y => do return .float (onFloat (← x.toBinary64) (← y.toBinary64))

/-- The sum. -/
def add : Number → Number → Except Fault Number :=
  mixed (· + ·) Binary64.add

/-- The difference. -/
def sub : Number → Number → Except Fault Number :=
  mixed (· - ·) Binary64.sub

/-- The product. -/
def mul : Number → Number → Except Fault Number :=
  mixed (· * ·) Binary64.mul

/-- The quotient, always a floating point number. That of two integers is the exact quotient,
rounded once. -/
def div : Number → Number → Except Fault Number
  | int m, int n =>
    if n = 0 then .error .divisionByZero
    else match Binary64.ofRat (m / n : Rat) (m = 0 && n < 0) with
      | .infinite _ => .error .quotientTooLarge
      | x => .ok (.float x)
  | x, y => do
    let a ← x.toBinary64
    let b ← y.toBinary64
    if b.toExtended.eq (.rational 0) then .error .floatDivisionByZero
    else return .float (a.div b)

/-- The greatest integer at or below a number. -/
def floor : Number → Except Fault Int
  | int n => .ok n
  | float (.finite s m e) => .ok (Binary64.finiteToRat s m e).floor
  | float (.infinite _) => .error .infinityToInteger
  | float .nan => .error .nanToInteger

/-- The sum of numbers from the left, starting at the integer zero. -/
def sum (numbers : List Number) : Except Fault Number :=
  numbers.foldlM add 0

@[simp] theorem add_int (m n : Int) : (int m).add (int n) = .ok (.int (m + n)) := rfl

@[simp] theorem sub_int (m n : Int) : (int m).sub (int n) = .ok (.int (m - n)) := rfl

/-! ### Rounding -/

/-- One half. -/
def half : Number :=
  .float (Binary64.ofRat (mkRat 1 2))

/-- One and a half. -/
def oneAndHalf : Number :=
  .float (Binary64.ofRat (mkRat 3 2))

/-- Two and a half. -/
def twoAndHalf : Number :=
  .float (Binary64.ofRat (mkRat 5 2))

/-- The power of ten that rounding to `digits` places scales by: an integer unless negative. -/
def scale (digits : Int) : Number :=
  if 0 ≤ digits then .int (Nat.pow 10 digits.toNat)
  else .float (Binary64.ofDecimal false ⟨1, digits⟩)

/-- A floating point number of integral value as that integer, any other number as it is. -/
def toIntegerIfWhole : Number → Number
  | int n => .int n
  | float x =>
    match x with
    | .finite s m e => if x.isIntegral then .int (Binary64.finiteToRat s m e).floor else .float x
    | _ => .float x

/-- Rounding to an integer, one half upwards. -/
def roundToInt (x : Number) : Except Fault Int := do
  (← x.add half).floor

/-- Rounding to a count of decimal places, one half upwards. A whole result is an integer. -/
def roundHalfUp (x : Number) (digits : Int := 0) : Except Fault Number := do
  if digits = 0 then
    return .int (← x.roundToInt)
  else
    let factor := scale digits
    let rounded ← (← x.mul factor).roundToInt
    return (← div (.int rounded) factor).toIntegerIfWhole

/-- The mean: the sum from the left over the count, and zero if there are no numbers. -/
def average (numbers : List Number) : Except Fault Number :=
  if numbers.isEmpty then .ok 0
  else do (← sum numbers).div (.ofNat numbers.length)

end Number

end StyleGauge
