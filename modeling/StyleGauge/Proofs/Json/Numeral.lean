import StyleGauge.Json.Parser
import StyleGauge.Json.Printer
import StyleGauge.Proofs.Number.Decimal

/-!
# Numerals read back

The text of a number is read as that number, whatever follows, unless what follows goes on with the
numeral. An integer is read as an integer, and a floating point number, which has a fraction or an
exponent in any case, as the value that its decimal rounds to.
-/

namespace StyleGauge.Json.Reader

open Binary64 (IsCanonical decimalText exponentText)

/-! ### Digits -/

section

variable {ds rest : List Char}

/-- Nothing but decimal digits. -/
def AreDigits (ds : List Char) : Prop :=
  ∀ c ∈ ds, c.isDigit = true

/-- What follows a row of digits does not go on with it. -/
def EndsDigits (rest : List Char) : Prop :=
  ∀ c ∈ rest.head?, c.isDigit = false

theorem AreDigits.append {ds' : List Char} (h : AreDigits ds) (h' : AreDigits ds') :
    AreDigits (ds ++ ds') := by
  intro c hc
  exact (List.mem_append.1 hc).elim (h c) (h' c)

theorem AreDigits.take (h : AreDigits ds) (n : Nat) : AreDigits (ds.take n) :=
  fun c hc => h c (List.mem_of_mem_take hc)

theorem AreDigits.drop (h : AreDigits ds) (n : Nat) : AreDigits (ds.drop n) :=
  fun c hc => h c (List.mem_of_mem_drop hc)

theorem areDigits_toDigits (n : Nat) : AreDigits (Nat.toDigits 10 n) :=
  fun _ hc => Nat.isDigit_of_mem_toDigits (by decide) (by decide) hc

theorem areDigits_zeros (n : Nat) : AreDigits (List.replicate n '0') := by
  intro c hc
  rw [List.eq_of_mem_replicate hc]
  rfl

theorem areDigits_singleton {c : Char} (hc : c.isDigit = true) : AreDigits [c] := by
  intro d hd
  rwa [List.mem_singleton.1 hd]

theorem endsDigits_cons {c : Char} (hc : c.isDigit = false) (cs : List Char) :
    EndsDigits (c :: cs) := by
  intro d hd
  rwa [← Option.some.inj hd]

theorem takeDigits_append (hds : AreDigits ds) (hrest : EndsDigits rest) :
    takeDigits (ds ++ rest) = (ds, rest) := by
  have htake : rest.takeWhile Char.isDigit = [] ∧ rest.dropWhile Char.isDigit = rest := by
    cases rest with
    | nil => exact ⟨rfl, rfl⟩
    | cons c rest =>
      have hc : c.isDigit = false := hrest c rfl
      simp [hc]
  rw [takeDigits, List.takeWhile_append_of_pos hds, List.dropWhile_append_of_pos hds, htake.1,
    htake.2, List.append_nil]

theorem digitsValue_eq (ds : List Char) : digitsValue ds = Nat.ofDigitChars 10 ds 0 :=
  rfl

@[simp] theorem digitsValue_toDigits (n : Nat) : digitsValue (Nat.toDigits 10 n) = n :=
  Nat.ofDigitChars_ten_toDigits

theorem digitsValue_append_zeros (ds : List Char) (n : Nat) :
    digitsValue (ds ++ List.replicate n '0') = 10 ^ n * digitsValue ds := by
  rw [digitsValue_eq, Nat.ofDigitChars_append, Nat.ofDigitChars_replicate_zero, digitsValue_eq]

theorem digitsValue_zeros_append (n : Nat) (ds : List Char) :
    digitsValue (List.replicate n '0' ++ ds) = digitsValue ds := by
  rw [digitsValue_eq, Nat.ofDigitChars_append, Nat.ofDigitChars_replicate_zero, Nat.mul_zero,
    digitsValue_eq]

/-- A zero starts the digits of zero alone. -/
theorem eq_zero_of_head?_toDigits {n : Nat} (h : (Nat.toDigits 10 n).head? = some '0') : n = 0 := by
  induction n using Nat.strongRecOn with
  | ind n ih =>
    rw [Nat.toDigits_eq_if (by decide)] at h
    split at h
    · exact Nat.digitChar_eq_zero.1 (Option.some.inj h)
    · rw [List.head?_append_of_ne_nil _ Nat.toDigits_ne_nil] at h
      have := ih (n / 10) (by omega) h
      omega

end

/-! ### Parts of a numeral -/

section

variable {ds rest : List Char}

/-- The digits of an integer part: at least one, and a zero stands alone. -/
structure IsWholePart (ds : List Char) : Prop where
  areDigits : AreDigits ds
  ne_nil : ds ≠ []
  eq_of_zero : ds.head? = some '0' → ds = ['0']

theorem isWholePart_toDigits (n : Nat) : IsWholePart (Nat.toDigits 10 n) where
  areDigits := areDigits_toDigits n
  ne_nil := Nat.toDigits_ne_nil
  eq_of_zero h := by rw [eq_zero_of_head?_toDigits h, Nat.toDigits_zero]

theorem isWholePart_singleton {c : Char} (hc : c.isDigit = true) : IsWholePart [c] where
  areDigits := areDigits_singleton hc
  ne_nil := List.cons_ne_nil c []
  eq_of_zero h := by rw [Option.some.inj h]

theorem IsWholePart.take (h : IsWholePart ds) {n : Nat} (hn : 0 < n) :
    IsWholePart (ds.take n) where
  areDigits := h.areDigits.take n
  ne_nil := mt List.take_eq_nil_iff.1 (not_or.2 ⟨Nat.ne_of_gt hn, h.ne_nil⟩)
  eq_of_zero hstart := by
    rw [List.head?_take, if_neg (Nat.ne_of_gt hn)] at hstart
    rw [h.eq_of_zero hstart]
    exact List.take_of_length_le hn

theorem IsWholePart.append_zeros (h : IsWholePart ds) {n : Nat} (hn : digitsValue ds = 0 → n = 0) :
    IsWholePart (ds ++ List.replicate n '0') where
  areDigits := h.areDigits.append (areDigits_zeros n)
  ne_nil := by simp [h.ne_nil]
  eq_of_zero hstart := by
    rw [List.head?_append_of_ne_nil _ h.ne_nil] at hstart
    have hds := h.eq_of_zero hstart
    rw [hn (by rw [hds]; rfl), hds]
    rfl

theorem IsWholePart.takeWhole_append (hds : IsWholePart ds) (hrest : EndsDigits rest) :
    takeWhole (ds ++ rest) = (ds, rest) := by
  unfold takeWhole
  split
  · rename_i after heq
    cases ds with
    | nil => exact absurd rfl hds.ne_nil
    | cons c ds =>
      obtain ⟨rfl, hafter⟩ := List.cons.inj heq
      obtain rfl : ds = [] := (List.cons.inj (hds.eq_of_zero rfl)).2
      obtain rfl : rest = after := hafter
      rfl
  · exact takeDigits_append hds.areDigits hrest

theorem takeFraction_append (hds : AreDigits ds) (hne : ds ≠ []) (hrest : EndsDigits rest) :
    takeFraction ('.' :: (ds ++ rest)) = (ds, rest) := by
  simp only [takeFraction, takeDigits_append hds hrest, List.isEmpty_iff, hne, if_false]

/-- A fraction with a point before it, if there is one. -/
def fractionText (ds : List Char) : List Char :=
  if ds = [] then [] else '.' :: ds

theorem takeFraction_of_ne (h : rest.head? ≠ some '.') : takeFraction rest = ([], rest) := by
  unfold takeFraction
  split
  · exact absurd rfl h
  · rfl

theorem takeFraction_fractionText (hds : AreDigits ds) (hrest : EndsDigits rest)
    (hdot : rest.head? ≠ some '.') : takeFraction (fractionText ds ++ rest) = (ds, rest) := by
  unfold fractionText
  split_ifs with hnone
  · rw [hnone, List.nil_append, takeFraction_of_ne hdot]
  · exact takeFraction_append hds hnone hrest

theorem endsDigits_fractionText (ds : List Char) (hrest : EndsDigits rest) :
    EndsDigits (fractionText ds ++ rest) := by
  unfold fractionText
  split_ifs
  · exact hrest
  · exact endsDigits_cons rfl _

/-- An exponent has a sign and two digits at least, of which the first may be a zero. -/
theorem toList_exponentText (e : Int) : ∃ ds, AreDigits ds ∧ ds ≠ [] ∧
    digitsValue ds = e.natAbs ∧
    (exponentText e).toList = 'e' :: (if e < 0 then '-' else '+') :: ds := by
  have hdigits : (toString e.natAbs).toList = Nat.toDigits 10 e.natAbs := Nat.toList_repr
  have hsign : (if e < 0 then "e-" else "e+").toList = ['e', if e < 0 then '-' else '+'] := by
    split <;> rfl
  unfold exponentText
  dsimp only
  rw [String.toList_append, hsign]
  by_cases hshort : (toString e.natAbs).length < 2
  · rw [if_pos hshort]
    refine ⟨'0' :: Nat.toDigits 10 e.natAbs, ?_, by simp, ?_, ?_⟩
    · exact (areDigits_singleton rfl).append (areDigits_toDigits _)
    · exact digitsValue_toDigits _
    · rw [String.toList_append, hdigits]
      rfl
  · rw [if_neg hshort]
    refine ⟨Nat.toDigits 10 e.natAbs, areDigits_toDigits _, Nat.toDigits_ne_nil, ?_, ?_⟩
    · exact digitsValue_toDigits _
    · rw [hdigits]
      rfl

theorem takeExponent_exponentText (e : Int) (hrest : EndsDigits rest) :
    takeExponent ((exponentText e).toList ++ rest) = (some e, rest) := by
  obtain ⟨ds, hds, hne, hvalue, htext⟩ := toList_exponentText e
  have hempty : ds.isEmpty = false := by simpa using hne
  rw [htext]
  by_cases he : e < 0
  · simp only [he, if_true, List.cons_append, takeExponent, takeSign, takeDigits_append hds hrest,
      true_or, hempty, hvalue, Bool.false_eq_true, if_false]
    congr 2
    omega
  · simp only [he, if_false, List.cons_append, takeExponent, takeSign, takeDigits_append hds hrest,
      true_or, if_true, hempty, hvalue, Bool.false_eq_true]
    congr 2
    omega

theorem takeExponent_of_ne (h : ∀ c ∈ rest.head?, c ≠ 'e' ∧ c ≠ 'E') :
    takeExponent rest = (none, rest) := by
  cases rest with
  | nil => rfl
  | cons c rest =>
    obtain ⟨hsmall, hlarge⟩ := h c rfl
    simp [takeExponent, hsmall, hlarge]

end

/-! ### Numerals -/

/-- What follows a numeral does not go on with it. -/
def EndsNumeral (rest : List Char) : Prop :=
  ∀ c ∈ rest.head?, c.isDigit = false ∧ c ≠ '.' ∧ c ≠ 'e' ∧ c ≠ 'E'

section

variable {rest : List Char}

theorem EndsNumeral.endsDigits (h : EndsNumeral rest) : EndsDigits rest :=
  fun c hc => (h c hc).1

theorem EndsNumeral.takeExponent (h : EndsNumeral rest) : takeExponent rest = (none, rest) :=
  takeExponent_of_ne fun c hc => (h c hc).2.2

theorem EndsNumeral.takeFraction (h : EndsNumeral rest) : takeFraction rest = ([], rest) :=
  takeFraction_of_ne fun hdot => (h '.' (by simp [hdot])).2.1 rfl

/-- A text with a minus sign before it, if it is negative. -/
def signed (negative : Bool) (cs : List Char) : List Char :=
  if negative then '-' :: cs else cs

theorem signed_append (negative : Bool) (cs rest : List Char) :
    signed negative cs ++ rest = signed negative (cs ++ rest) := by
  cases negative <;> rfl

theorem takeMinus_signed (negative : Bool) {cs : List Char} (h : cs.head? ≠ some '-') :
    takeMinus (signed negative cs) = (negative, cs) := by
  cases negative with
  | true => rfl
  | false =>
    cases cs with
    | nil => rfl
    | cons c cs =>
      have hc : c ≠ '-' := fun hc => h (congrArg some hc)
      simp [signed, takeMinus, hc]

theorem IsWholePart.takeMinus_signed_append {ds : List Char} (hds : IsWholePart ds)
    (negative : Bool) (rest : List Char) :
    takeMinus (signed negative (ds ++ rest)) = (negative, ds ++ rest) := by
  refine takeMinus_signed negative fun hminus => ?_
  rw [List.head?_append_of_ne_nil _ hds.ne_nil] at hminus
  cases hds.areDigits '-' (List.mem_of_head? hminus)

/-- A row of digits is an integer. -/
theorem readNumber_whole (negative : Bool) {ds : List Char} (hds : IsWholePart ds)
    (h : EndsNumeral rest) : readNumber (signed negative (ds ++ rest)) =
      some (.int (if negative then -digitsValue ds else digitsValue ds), rest) := by
  have hempty : ds.isEmpty = false := by simpa using hds.ne_nil
  simp only [readNumber, hds.takeMinus_signed_append, hds.takeWhole_append h.endsDigits,
    h.takeFraction, h.takeExponent, hempty, Bool.false_eq_true, if_false, List.isEmpty_nil,
    Option.isNone_none, Bool.and_self, if_true]

/-- With a fraction or an exponent a numeral is a floating point number. -/
theorem readNumber_float (negative : Bool)
    {whole afterWhole fraction afterFraction after : List Char} {exponent : Option Int}
    (hwhole : IsWholePart whole) (hends : EndsDigits afterWhole)
    (hfraction : takeFraction afterWhole = (fraction, afterFraction))
    (hexponent : takeExponent afterFraction = (exponent, after))
    (hpart : (fraction.isEmpty && exponent.isNone) = false) :
    readNumber (signed negative (whole ++ afterWhole)) = some (.float (Binary64.ofDecimal negative
      ⟨digitsValue (whole ++ fraction), exponent.getD 0 - fraction.length⟩), after) := by
  have hempty : whole.isEmpty = false := by simpa using hwhole.ne_nil
  simp only [readNumber, hwhole.takeMinus_signed_append, hwhole.takeWhole_append hends, hfraction,
    hexponent, hempty, hpart, Bool.false_eq_true, if_false]

/-- Digits with a point among them are a floating point number. -/
theorem readNumber_point (negative : Bool) {whole fraction : List Char} (hwhole : IsWholePart whole)
    (hfraction : AreDigits fraction) (hne : fraction ≠ []) (h : EndsNumeral rest) :
    readNumber (signed negative (whole ++ '.' :: (fraction ++ rest))) =
      some (.float (Binary64.ofDecimal negative
        ⟨digitsValue (whole ++ fraction), -fraction.length⟩), rest) := by
  have hempty : fraction.isEmpty = false := by simpa using hne
  rw [readNumber_float negative hwhole (endsDigits_cons rfl _)
    (takeFraction_append hfraction hne h.endsDigits) h.takeExponent
    (by rw [hempty, Bool.false_and]), Option.getD_none, zero_sub]

/-- One digit, maybe a fraction, and an exponent are a floating point number. -/
theorem readNumber_scientific (negative : Bool) {c : Char} (hc : c.isDigit = true)
    {fraction : List Char} (hfraction : AreDigits fraction) (e : Int) (h : EndsNumeral rest) :
    readNumber (signed negative ([c] ++ (fractionText fraction ++
        ((exponentText e).toList ++ rest)))) =
      some (.float (Binary64.ofDecimal negative
        ⟨digitsValue (c :: fraction), e - fraction.length⟩), rest) := by
  obtain ⟨ds, -, -, -, htext⟩ := toList_exponentText e
  have hletter : EndsDigits ((exponentText e).toList ++ rest) := by
    rw [htext]
    exact endsDigits_cons rfl _
  have hdot : ((exponentText e).toList ++ rest).head? ≠ some '.' := by
    rw [htext]
    simp
  rw [readNumber_float negative (isWholePart_singleton hc)
    (endsDigits_fractionText fraction hletter) (takeFraction_fractionText hfraction hletter hdot)
    (takeExponent_exponentText e h.endsDigits) (by simp), Option.getD_some, List.singleton_append]

/-! ### Decimals -/

section

variable {ds : List Char}

/-- Zeros up to the point raise the exponent. -/
theorem readNumber_zeros_point (negative : Bool) (hds : IsWholePart ds) {n : Nat}
    (hn : digitsValue ds = 0 → n = 0) (h : EndsNumeral rest) :
    readNumber (signed negative (ds ++ List.replicate n '0' ++ '.' :: (['0'] ++ rest))) =
      some (.float (Binary64.ofDecimal negative ⟨digitsValue ds, n⟩), rest) := by
  refine (readNumber_point negative (hds.append_zeros hn) (areDigits_zeros 1) (by simp) h).trans ?_
  congr 3
  apply Binary64.ofDecimal_congr
  rw [List.append_assoc, List.replicate_append_replicate, digitsValue_append_zeros, Decimal.toRat,
    Decimal.toRat, tenPow_eq_zpow, tenPow_eq_zpow, List.length_replicate, zpow_natCast]
  push_cast
  rw [pow_succ, zpow_neg_one]
  field_simp

/-- A point among the digits counts those behind it. -/
theorem readNumber_take_point (negative : Bool) (hds : IsWholePart ds) {n : Nat} (hpos : 0 < n)
    (hlt : n < ds.length) (h : EndsNumeral rest) :
    readNumber (signed negative (ds.take n ++ '.' :: (ds.drop n ++ rest))) =
      some (.float (Binary64.ofDecimal negative ⟨digitsValue ds, n - ds.length⟩), rest) := by
  have hexponent : (-(ds.length - n : Nat) : Int) = n - ds.length := by omega
  rw [readNumber_point negative (hds.take hpos) (hds.areDigits.drop n) (by simpa using hlt) h,
    List.take_append_drop, List.length_drop, hexponent]

/-- Zeros behind the point lower the exponent. -/
theorem readNumber_point_zeros (negative : Bool) (hds : IsWholePart ds) (n : Nat)
    (h : EndsNumeral rest) :
    readNumber (signed negative (['0'] ++ '.' :: ((List.replicate n '0' ++ ds) ++ rest))) =
      some (.float (Binary64.ofDecimal negative ⟨digitsValue ds, -(n + ds.length : Nat)⟩),
        rest) := by
  have hvalue : digitsValue (['0'] ++ (List.replicate n '0' ++ ds)) = digitsValue ds :=
    digitsValue_zeros_append (n + 1) ds
  have hfraction := (areDigits_zeros n).append hds.areDigits
  rw [readNumber_point negative (isWholePart_singleton rfl) hfraction (by simp [hds.ne_nil]) h,
    hvalue, List.length_append, List.length_replicate]

end

/-- The text of a decimal is read as what the decimal rounds to. Zero is shown without an
exponent. -/
theorem readNumber_decimalText (negative : Bool) (format : Binary64.DecimalFormat) {d : Decimal}
    (hzero : d.digits = 0 → d.exponent = 0) (h : EndsNumeral rest) :
    readNumber (signed negative ((decimalText format d).toList ++ rest)) =
      some (.float (Binary64.ofDecimal negative d), rest) := by
  have hds := isWholePart_toDigits d.digits
  have hvalue := digitsValue_toDigits d.digits
  obtain ⟨digits, exponent⟩ := d
  unfold decimalText
  dsimp only at *
  generalize Nat.toDigits 10 digits = ds at *
  subst hvalue
  have hlength : 0 < ds.length := List.length_pos_iff.2 hds.ne_nil
  split_ifs with hscientific hwhole hmixed
  · cases ds with
    | nil => exact absurd rfl hds.ne_nil
    | cons c fraction =>
      have hfraction : AreDigits fraction := fun d hd => hds.areDigits d (List.mem_cons_of_mem c hd)
      have hread := readNumber_scientific negative (hds.areDigits c List.mem_cons_self) hfraction
        (exponent + ((c :: fraction).length : Nat) - 1) h
      have hexponent :
          exponent + ((c :: fraction).length : Nat) - 1 - fraction.length = exponent := by
        rw [List.length_cons]
        omega
      rw [hexponent] at hread
      refine Eq.trans ?_ hread
      cases fraction <;> simp [fractionText]
  · obtain ⟨n, rfl⟩ := Int.eq_ofNat_of_zero_le hwhole
    refine Eq.trans ?_ (readNumber_zeros_point negative hds (fun hd => by simpa using hzero hd) h)
    simp
  · have hexponent : (((exponent + ds.length - 1).toNat + 1 : Nat) : Int) - ds.length =
        exponent := by
      omega
    have hread := readNumber_take_point negative hds
      (Nat.succ_pos (exponent + ds.length - 1).toNat) (by omega) h
    rw [hexponent] at hread
    refine Eq.trans ?_ hread
    simp
  · have hexponent : (-((-(exponent + ds.length - 1) - 1).toNat + ds.length : Nat) : Int) =
        exponent := by
      omega
    have hread := readNumber_point_zeros negative hds (-(exponent + ds.length - 1) - 1).toNat h
    rw [hexponent] at hread
    refine Eq.trans ?_ hread
    simp

/-- Every word starts with a letter, or with a minus sign and a letter. -/
theorem isPrefixOf_signed_eq_false (negative : Bool) {c : Char} (hc : c.isDigit = true)
    (cs : List Char) : ∀ w ∈ words, w.1.isPrefixOf (signed negative (c :: cs)) = false := by
  have hwords : ∀ w ∈ words.map Prod.fst, ∃ a b more, w = a :: b :: more ∧ a.isDigit = false ∧
      (a = '-' → b.isDigit = false) := by
    intro w hw
    simp only [words, List.map_cons, List.map_nil, List.mem_cons, List.not_mem_nil, or_false] at hw
    rcases hw with rfl | rfl | rfl | rfl | rfl | rfl <;> exact ⟨_, _, _, rfl, rfl, by decide⟩
  intro w hw
  obtain ⟨a, b, more, heq, ha, hb⟩ := hwords w.1 (List.mem_map_of_mem hw)
  have hne : (a == c) = false := beq_false_of_ne fun h => by rw [h, hc] at ha; cases ha
  rw [heq]
  cases negative with
  | false => simp [signed, List.isPrefixOf, hne]
  | true =>
    by_cases hminus : a = '-'
    · have hne : (b == c) = false := beq_false_of_ne fun h => by
        rw [h, hc] at hb
        cases hb hminus
      simp [signed, List.isPrefixOf, hne]
    · have hne : (a == '-') = false := beq_false_of_ne hminus
      simp [signed, List.isPrefixOf, hne]

theorem readPlain_of_readNumber {negative : Bool} {c : Char} (hc : c.isDigit = true)
    {cs : List Char} {n : Number} (h : readNumber (signed negative (c :: cs)) = some (n, rest)) :
    readPlain (signed negative (c :: cs)) = some (number n, rest) := by
  have hwords : (words.find? fun w => w.1.isPrefixOf (signed negative (c :: cs))) = none := by
    rw [List.find?_eq_none]
    intro w hw
    rw [isPrefixOf_signed_eq_false negative hc cs w hw]
    exact Bool.false_ne_true
  rw [readPlain, hwords, h]
  rfl

theorem exists_toDigits_eq_cons (n : Nat) :
    ∃ c cs, Nat.toDigits 10 n = c :: cs ∧ c.isDigit = true := by
  have hdigits := areDigits_toDigits n
  cases hds : Nat.toDigits 10 n with
  | nil => exact absurd hds Nat.toDigits_ne_nil
  | cons c cs => exact ⟨c, cs, rfl, hdigits c (by simp [hds])⟩

theorem exists_decimalText_eq_cons (format : Binary64.DecimalFormat) (d : Decimal) :
    ∃ c cs, (decimalText format d).toList = c :: cs ∧ c.isDigit = true := by
  obtain ⟨c, cs, hds, hc⟩ := exists_toDigits_eq_cons d.digits
  unfold decimalText
  dsimp only
  rw [hds]
  split_ifs
  · cases cs <;> exact ⟨c, _, by simp; rfl, hc⟩
  · exact ⟨c, _, by simp; rfl, hc⟩
  · exact ⟨c, _, by simp; rfl, hc⟩
  · exact ⟨'0', _, by simp; rfl, rfl⟩

end

end StyleGauge.Json.Reader

namespace StyleGauge

open Json Json.Reader

/-- An integer, or a value of the format as it is written. -/
def Number.IsCanonical : Number → Prop
  | int _ => True
  | float x => x.IsCanonical

instance (n : Number) : Decidable n.IsCanonical := by
  cases n <;> unfold Number.IsCanonical <;> infer_instance

namespace Json.Reader

variable {rest : List Char}

theorem readPlain_int (n : Int) (h : EndsNumeral rest) :
    readPlain ((numberText (.int n)).toList ++ rest) = some (number (.int n), rest) := by
  obtain ⟨c, cs, hds, hc⟩ := exists_toDigits_eq_cons n.natAbs
  have htext : (numberText (.int n)).toList ++ rest =
      signed (decide (n < 0)) (c :: (cs ++ rest)) := by
    have hrepr : (numberText (.int n)).toList = signed (decide (n < 0)) (c :: cs) := by
      rw [← hds, show numberText (.int n) = n.repr from rfl, Int.repr_eq_if]
      by_cases hn : 0 ≤ n
      · rw [if_pos hn, Nat.toList_repr, decide_eq_false (by omega), signed, if_neg (by decide),
          show n.toNat = n.natAbs by omega]
      · rw [if_neg hn, String.toList_append, Nat.toList_repr, decide_eq_true (by omega), signed,
          if_pos rfl, show (-n).toNat = n.natAbs by omega]
        rfl
    rw [hrepr, signed_append, List.cons_append]
  have hread := readNumber_whole (decide (n < 0)) (isWholePart_toDigits n.natAbs) h
  rw [hds, List.cons_append] at hread
  rw [htext, readPlain_of_readNumber hc hread, ← hds, digitsValue_toDigits]
  congr 4
  simp only [decide_eq_true_eq]
  split_ifs <;> omega

/-- The text of a number is read as that number. -/
theorem readPlain_numberText {n : Number} (hn : n.IsCanonical) (h : EndsNumeral rest) :
    readPlain ((numberText n).toList ++ rest) = some (number n, rest) := by
  cases n with
  | int n => exact readPlain_int n h
  | float x =>
    cases x with
    | nan => rfl
    | infinite s => cases s <;> rfl
    | finite s m e =>
      obtain ⟨c, cs, htext, hc⟩ := exists_decimalText_eq_cons Binary64.shownFormat
        (Decimal.shortest m e)
      have hread := readNumber_decimalText s Binary64.shownFormat
        (Decimal.exponent_shortest_eq_zero hn) h
      rw [Decimal.ofDecimal_shortest hn, htext] at hread
      have hsigned : (numberText (.float (.finite s m e))).toList ++ rest =
          signed s (c :: (cs ++ rest)) := by
        have hcs : (numberText (.float (.finite s m e))).toList = signed s (c :: cs) := by
          rw [← htext]
          cases s <;> simp [numberText, Number.text, Binary64.text, signed]
        rw [hcs, signed_append, List.cons_append]
      rw [hsigned]
      exact readPlain_of_readNumber hc hread

/-- What is read is an integer or a value of the format. -/
theorem isCanonical_of_readNumber {cs : List Char} {n : Number}
    (h : readNumber cs = some (n, rest)) : n.IsCanonical := by
  simp only [readNumber] at h
  split at h
  · cases h
  · split at h <;> obtain ⟨rfl, -⟩ := Prod.mk.inj (Option.some.inj h)
    · trivial
    · exact Binary64.isCanonical_ofDecimal _ _

end Json.Reader

end StyleGauge
