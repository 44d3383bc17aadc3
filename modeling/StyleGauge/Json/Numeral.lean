import StyleGauge.Number.Basic

/-!
# Numerals in JSON text

A numeral is an integer part, maybe a minus sign before it, and maybe a fraction and an exponent
after it. With one of these it stands for a floating point number, else for an integer. A numeral
that is read leaves strictly less text.
-/

namespace StyleGauge.Json.Reader

/-- The digits at the start of a text, and what follows. -/
def takeDigits (cs : List Char) : List Char × List Char :=
  (cs.takeWhile Char.isDigit, cs.dropWhile Char.isDigit)

/-- The number that decimal digits stand for. -/
def digitsValue (ds : List Char) : Nat :=
  ds.foldl (fun n d => 10 * n + (d.toNat - '0'.toNat)) 0

/-- The fraction of a number: its digits, and what follows. -/
def takeFraction (cs : List Char) : List Char × List Char :=
  match cs with
  | '.' :: rest =>
    let (ds, after) := takeDigits rest
    if ds.isEmpty then ([], cs) else (ds, after)
  | _ => ([], cs)

/-- Whether a minus sign comes first, and what follows it or a plus sign. -/
def takeSign : List Char → Bool × List Char
  | '-' :: cs => (true, cs)
  | '+' :: cs => (false, cs)
  | cs => (false, cs)

/-- The exponent of a number, and what follows. -/
def takeExponent (cs : List Char) : Option Int × List Char :=
  match cs with
  | e :: rest =>
    if e = 'e' ∨ e = 'E' then
      let (negative, unsigned) := takeSign rest
      let (ds, after) := takeDigits unsigned
      if ds.isEmpty then (none, cs)
      else
        let n : Int := digitsValue ds
        (some (if negative then -n else n), after)
    else (none, cs)
  | [] => (none, cs)

/-- The digits of the integer part: a zero stands alone. -/
def takeWhole (cs : List Char) : List Char × List Char :=
  match cs with
  | '0' :: rest => (['0'], rest)
  | _ => takeDigits cs

/-- Whether a minus sign comes first, and what follows it. -/
def takeMinus : List Char → Bool × List Char
  | '-' :: cs => (true, cs)
  | cs => (false, cs)

/-- A number at the start of a text, and what follows. -/
def readNumber (cs : List Char) : Option (Number × List Char) :=
  let (negative, unsigned) := takeMinus cs
  let (whole, afterWhole) := takeWhole unsigned
  let (fraction, afterFraction) := takeFraction afterWhole
  let (exponent, after) := takeExponent afterFraction
  if whole.isEmpty then none
  else if fraction.isEmpty && exponent.isNone then
    let n : Int := digitsValue whole
    some (.int (if negative then -n else n), after)
  else
    let decimal := ⟨digitsValue (whole ++ fraction), exponent.getD 0 - fraction.length⟩
    some (.float (Binary64.ofDecimal negative decimal), after)

/-! ### Laws -/

theorem takeDigits_length_le (cs : List Char) : (takeDigits cs).2.length ≤ cs.length :=
  (List.dropWhile_suffix Char.isDigit).length_le

theorem takeFraction_length_le (cs : List Char) : (takeFraction cs).2.length ≤ cs.length := by
  unfold takeFraction
  split
  · rename_i rest
    have := takeDigits_length_le rest
    dsimp only
    split
    · exact Nat.le_refl _
    · exact Nat.le_succ_of_le this
  · exact Nat.le_refl _

theorem takeSign_length_le (cs : List Char) : (takeSign cs).2.length ≤ cs.length := by
  unfold takeSign
  split <;> simp

theorem takeMinus_length_le (cs : List Char) : (takeMinus cs).2.length ≤ cs.length := by
  unfold takeMinus
  split <;> simp

theorem takeExponent_length_le (cs : List Char) : (takeExponent cs).2.length ≤ cs.length := by
  unfold takeExponent
  split
  · rename_i e rest
    have := takeDigits_length_le (takeSign rest).2
    have := takeSign_length_le rest
    split
    · dsimp only
      split
      · exact Nat.le_refl _
      · simp only [List.length_cons]
        omega
    · exact Nat.le_refl _
  · exact Nat.le_refl _

theorem takeWhole_length_lt {cs : List Char} (h : (takeWhole cs).1.isEmpty = false) :
    (takeWhole cs).2.length < cs.length := by
  unfold takeWhole at h ⊢
  split
  · simp
  · rename_i hz
    have hs := congrArg List.length (List.takeWhile_append_dropWhile (p := Char.isDigit) (l := cs))
    have hne : 0 < (cs.takeWhile Char.isDigit).length := by
      simp only [takeDigits] at h
      exact List.length_pos_iff.2 (by simpa using h)
    rw [List.length_append] at hs
    simp only [takeDigits]
    omega

theorem readNumber_length_lt {cs rest : List Char} {n : Number}
    (h : readNumber cs = some (n, rest)) : rest.length < cs.length := by
  simp only [readNumber] at h
  split at h
  · simp at h
  · rename_i hw
    have := takeMinus_length_le cs
    have := takeWhole_length_lt (Bool.eq_false_iff.2 hw)
    have := takeFraction_length_le (takeWhole (takeMinus cs).2).2
    have := takeExponent_length_le (takeFraction (takeWhole (takeMinus cs).2).2).2
    split at h <;> simp only [Option.some.injEq, Prod.mk.injEq] at h <;> rw [← h.2] <;> omega

end StyleGauge.Json.Reader
