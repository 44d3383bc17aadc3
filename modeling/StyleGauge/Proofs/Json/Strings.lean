import Mathlib.Data.Nat.Digits.Defs
import StyleGauge.Json.Parser
import StyleGauge.Json.Printer

/-!
# Strings read back

A string is written in ASCII, and every character of it is read as itself: one that stands for
itself, one with an escape of its own, one with the escape of its code point and one with the
escapes of a pair.
-/

namespace StyleGauge

namespace Text

theorem hexValue?_hexDigit (n : Nat) : hexValue? (hexDigit n) = some (n % 16) :=
  (by decide : ∀ k < 16, hexValue? (Nat.digitChar k) = some k) _ (Nat.mod_lt _ (by decide))

/-- Digits of a fixed count hold the number up to that count. -/
theorem hexNumber?_hex (width n : Nat) : hexNumber? (hex width n) = some (n % 16 ^ width) := by
  induction width generalizing n with
  | zero => simp [hex, hexNumber?, Nat.mod_one]
  | succ width ih =>
    unfold hexNumber? at ih ⊢
    rw [hex, List.foldlM_append, ih, Nat.pow_succ', Nat.mod_mul]
    simp [hexValue?_hexDigit, Nat.add_comm]

end Text

namespace Json.Reader

open Text (hex)

variable {cs rest start : List Char}

section

variable {α : Type} {step : Step α cs} {a : α}

/-- A step gives a result and leaves a rest. -/
def Reads (step : Step α cs) (a : α) (rest : List Char) : Prop :=
  step.map (fun read => (read.1, read.2.val)) = .ok (a, rest)

theorem reads_ok (h : rest.length < cs.length) : Reads (.ok (a, ⟨rest, h⟩) : Step α cs) a rest :=
  rfl

theorem Reads.exists_eq (h : Reads step a rest) : ∃ hlt, step = .ok (a, ⟨rest, hlt⟩) := by
  match step, h with
  | .ok (_, ⟨_, hlt⟩), rfl => exact ⟨hlt, rfl⟩

end

/-! ### Escapes of code points -/

theorem takeUnit?_hex {n : Nat} (hn : n < 0x10000) (hrest : rest ≠ []) :
    ∃ h, takeUnit? (hex 4 n ++ rest) = some (n, ⟨rest, h⟩) := by
  cases rest with
  | nil => exact absurd rfl hrest
  | cons next more =>
    refine ⟨by simp, ?_⟩
    have hnumber := Text.hexNumber?_hex 4 n
    rw [Nat.mod_eq_of_lt (by omega)] at hnumber
    change (Text.hexNumber? (hex 4 n)).map _ = _
    rw [hnumber]
    rfl

/-- The escape of a code point that is no half of a pair stands for the character. -/
theorem readUnicode_hex {n : Nat} (hn : n < 0x10000) (hhalf : ¬(0xD800 ≤ n ∧ n ≤ 0xDFFF))
    (hrest : rest ≠ []) : Reads (readUnicode (hex 4 n ++ rest)) (Char.ofNat n) rest := by
  obtain ⟨h, htake⟩ := takeUnit?_hex hn hrest
  have hhigh : ¬(0xD800 ≤ n ∧ n ≤ 0xDBFF) := by omega
  simp only [readUnicode, htake, hhigh, if_false, charOfUnit, hhalf]
  exact reads_ok h

/-- The escapes of the two halves of a pair stand for one character. -/
theorem readUnicode_pair {m : Nat} (hm : m < 0x100000) (hrest : rest ≠ []) :
    Reads (readUnicode (hex 4 (0xD800 + m / 0x400) ++
      '\\' :: 'u' :: (hex 4 (0xDC00 + m % 0x400) ++ rest))) (Char.ofNat (0x10000 + m)) rest := by
  obtain ⟨h, hhigh⟩ := takeUnit?_hex (n := 0xD800 + m / 0x400)
    (by omega) (show '\\' :: 'u' :: (hex 4 (0xDC00 + m % 0x400) ++ rest) ≠ [] by simp)
  obtain ⟨_, hlow⟩ := takeUnit?_hex (n := 0xDC00 + m % 0x400) (by omega) hrest
  have hmore : ((hex 4 (0xDC00 + m % 0x400) ++ rest).drop 4).isEmpty = false := by
    rw [List.drop_left' (Text.hex_length 4 _)]
    simpa using hrest
  have hinHigh : 0xD800 ≤ 0xD800 + m / 0x400 ∧ 0xD800 + m / 0x400 ≤ 0xDBFF := by omega
  have hinLow : 0xDC00 ≤ 0xDC00 + m % 0x400 ∧ 0xDC00 + m % 0x400 ≤ 0xDFFF := by omega
  have hvalue : 0x10000 + (0xD800 + m / 0x400 - 0xD800) * 0x400 + (0xDC00 + m % 0x400 - 0xDC00) =
      0x10000 + m := by omega
  simp only [readUnicode, hhigh, hinHigh, and_self, if_true, hmore, Bool.false_eq_true, if_false,
    hlow, hinLow, hvalue]
  exact reads_ok _

/-! ### Characters -/

theorem readStringChar_simple {e d : Char} (he : e ≠ 'u') (h : simpleEscape? e = some d) :
    Reads (readStringChar start ('\\' :: e :: rest)) (some d) rest := by
  simp only [readStringChar, he, if_false, h]
  exact reads_ok (Nat.lt_succ_of_lt (Nat.lt_succ_self _))

theorem readStringChar_unicode {more : List Char} {c : Char} (h : Reads (readUnicode more) c rest) :
    Reads (readStringChar start ('\\' :: 'u' :: more)) (some c) rest := by
  obtain ⟨_, hread⟩ := h.exists_eq
  simp only [readStringChar, hread]
  exact reads_ok _

/-- A character that is written is read as itself. -/
theorem readStringChar_escapedChar (c : Char) (hrest : rest ≠ []) :
    Reads (readStringChar start (escapedChar c ++ rest)) (some c) rest := by
  have hvalid : c.toNat < 0xD800 ∨ 0xDFFF < c.toNat ∧ c.toNat < 0x110000 := c.valid
  have hself := Char.ofNat_toNat c
  generalize htext : escapedChar c = text
  unfold escapedChar at htext
  dsimp only at htext
  split_ifs at htext with hquoted hnewline hreturn htab hfeed hback hplain hsmall <;> subst htext
  · rcases hquoted with rfl | rfl <;> exact readStringChar_simple (by decide) rfl
  · subst hnewline
    exact readStringChar_simple (by decide) rfl
  · subst hreturn
    exact readStringChar_simple (by decide) rfl
  · subst htab
    exact readStringChar_simple (by decide) rfl
  · rw [hfeed] at hself
    subst hself
    exact readStringChar_simple (by decide) rfl
  · rw [hback] at hself
    subst hself
    exact readStringChar_simple (by decide) rfl
  · rw [not_or] at hquoted
    simp only [List.singleton_append, readStringChar, hquoted, if_false,
      show ¬c.toNat < 0x20 by omega]
    exact reads_ok _
  · have hread := readUnicode_hex hsmall (by omega) hrest
    rw [hself] at hread
    exact readStringChar_unicode hread
  · have hread := readUnicode_pair (m := c.toNat - 0x10000) (by omega) hrest
    rw [Nat.add_sub_cancel' (by omega), hself] at hread
    rw [List.append_assoc]
    exact readStringChar_unicode hread

/-! ### Strings -/

theorem readString_cons {c : Char} {mid more : List Char}
    (hc : Reads (readStringChar start cs) (some c) mid)
    (hmore : Reads (readString start mid) more rest) :
    Reads (readString start cs) (c :: more) rest := by
  obtain ⟨_, hc⟩ := hc.exists_eq
  obtain ⟨_, hmore⟩ := hmore.exists_eq
  rw [readString]
  simp only [hc, hmore]
  exact reads_ok _

/-- A string is read up to its closing quote. -/
theorem readString_flatMap_escapedChar (s rest : List Char) :
    Reads (readString start (s.flatMap escapedChar ++ '"' :: rest)) s rest := by
  induction s with
  | nil =>
    rw [readString]
    exact reads_ok (Nat.lt_succ_self _)
  | cons c s ih =>
    rw [List.flatMap_cons, List.append_assoc]
    exact readString_cons (readStringChar_escapedChar c (by simp)) ih

end Json.Reader

end StyleGauge
