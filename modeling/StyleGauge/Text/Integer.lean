import StyleGauge.Text.Blank
import StyleGauge.Text.Digit

/-!
# Integers in text

An integer may have blanks around it, a sign, and single underscores between its digits, which may
come from any script.
-/

namespace StyleGauge.Text

/-- The number that digits stand for after a number read so far, with an underscore between two
digits passed over. -/
def digitsAfter (n : Nat) : List Char → Option Nat
  | [] => some n
  | '_' :: c :: rest => (digitValue? c).bind fun d => digitsAfter (10 * n + d) rest
  | c :: rest => (digitValue? c).bind fun d => digitsAfter (10 * n + d) rest

/-- The natural number that a text stands for. -/
def nat? : List Char → Option Nat
  | [] => none
  | c :: rest => (digitValue? c).bind fun d => digitsAfter d rest

/-- The integer that a text stands for. -/
def int? (cs : List Char) : Option Int :=
  match trim cs with
  | '-' :: ds => (nat? ds).map fun n => -n
  | '+' :: ds => (nat? ds).map Int.ofNat
  | ds => (nat? ds).map Int.ofNat

end StyleGauge.Text
