import Mathlib.Tactic.Common
import StyleGauge.Proofs.Text.Trim
import StyleGauge.Stylesheet.Scanner

/-!
# Reading pieces of text

A read that meets no stop goes on into whatever follows, in the state that it has reached. A clean
text is one that a read leaves as it entered it, so that the next stop behind it ends the read: the
scanner takes a clean text as one piece, whatever comes after the stop.
-/

namespace StyleGauge.Text.Nesting

theorem eq_start_of_isTop {s : Nesting} (h : s.isTop = true) : s = .start := by
  obtain ⟨depth, quote, escaped⟩ := s
  simp only [isTop, Bool.and_eq_true, beq_iff_eq, Option.isNone_iff_eq_none,
    Bool.not_eq_true'] at h
  obtain ⟨⟨rfl, rfl⟩, rfl⟩ := h
  rfl

end StyleGauge.Text.Nesting

namespace StyleGauge.Stylesheet

open Text (Nesting Trimmed)

/-! ### Clean texts -/

theorem readUntil_isPrefix (state : Nesting) (cs : List Char) : (readUntil state cs).1 <+: cs :=
  ⟨_, readUntil_append state cs⟩

theorem readUntil_isSuffix (state : Nesting) (cs : List Char) : (readUntil state cs).2 <:+ cs :=
  ⟨_, readUntil_append state cs⟩

/-- A read without a stop goes on into what follows. -/
theorem readUntil_append_of_unstopped {state : Nesting} {cs : List Char}
    (h : (readUntil state cs).2 = []) (more : List Char) :
    readUntil state (cs ++ more) =
      (cs ++ (readUntil (state.advanceAll .oneLine cs) more).1,
        (readUntil (state.advanceAll .oneLine cs) more).2) := by
  induction cs generalizing state with
  | nil => simp
  | cons c cs ih =>
    rw [readUntil] at h
    rw [List.cons_append, readUntil]
    split_ifs at h ⊢ with hstop
    rw [Nesting.advanceAll_cons, ih h]
    rfl

/-- A text that a read goes over without a stop and leaves with no string, bracket or escape
open. -/
structure Clean (cs : List Char) : Prop where
  unstopped : (readUntil .start cs).2 = []
  isTop : (Nesting.start.advanceAll .oneLine cs).isTop = true

namespace Clean

instance (cs : List Char) : Decidable (Clean cs) :=
  decidable_of_iff
    ((readUntil .start cs).2 = [] ∧ (Nesting.start.advanceAll .oneLine cs).isTop = true)
    ⟨fun h => ⟨h.1, h.2⟩, fun h => ⟨h.1, h.2⟩⟩

variable {a b : List Char}

theorem advanceAll (h : Clean a) : Nesting.start.advanceAll .oneLine a = .start :=
  Nesting.eq_start_of_isTop h.isTop

/-- The next stop behind a clean text ends the read. -/
theorem readUntil_append_stop (h : Clean a) {c : Char} (hc : c ∈ stops) (rest : List Char) :
    readUntil .start (a ++ c :: rest) = (a, c :: rest) := by
  have hread : readUntil .start (c :: rest) = ([], c :: rest) := by
    rw [readUntil, if_pos (by simpa using hc)]
  rw [readUntil_append_of_unstopped h.unstopped, h.advanceAll, hread, List.append_nil]

theorem append (ha : Clean a) (hb : Clean b) : Clean (a ++ b) where
  unstopped := by
    rw [readUntil_append_of_unstopped ha.unstopped, ha.advanceAll]
    exact hb.unstopped
  isTop := by
    rw [Nesting.advanceAll_append, ha.advanceAll]
    exact hb.isTop

theorem head_not_mem_stops {c : Char} (h : Clean (c :: a)) : c ∉ stops := by
  intro hc
  have := h.unstopped
  rw [readUntil, if_pos (by simpa using hc)] at this
  exact List.cons_ne_nil _ _ this

/-- A clean, trimmed text does not begin with a separator. -/
theorem isSeparator_head {c : Char} (h : Clean (c :: a)) (hblank : Text.isBlank c = false) :
    isSeparator c = false := by
  have hsemi : c ≠ ';' := fun hc => h.head_not_mem_stops (by simp [hc, stops])
  simp [isSeparator, hblank, hsemi]

end Clean

/-! ### Steps -/

namespace Scan

theorem run_of_step? {s t : Scan} (h : s.step? = some t) : s.run = t.run := by
  rw [run]
  split
  · simp_all
  · simp_all

theorem run_of_step?_eq_none {s : Scan} (h : s.step? = none) : s.run = s.finish := by
  rw [run]
  split
  · rfl
  · simp_all

/-- Where no separator stands, none is skipped. -/
theorem step?_of_not_isSeparator {s : Scan} {c : Char} {cs : List Char} (hs : s.rest = c :: cs)
    (hc : isSeparator c = false) : s.step? = s.stepHere? := by
  have hskip : s.skipSeparators = s := by
    simp [skipSeparators, moveOver, hs, hc]
    rw [← hs]
  rw [step?, hskip]

/-- A brace closes the innermost block. -/
theorem run_closing {s : Scan} {rest : List Char} (hs : s.rest = '}' :: rest) :
    s.run = (s.closeBlock.moveOver ['}'] rest).run := by
  refine run_of_step? ?_
  rw [step?_of_not_isSeparator hs (by decide), stepHere?, hs]
  rfl

/-- A clean text up to a stop is read as one item. -/
theorem run_item {s : Scan} {c stop : Char} {text rest : List Char}
    (hs : s.rest = c :: text ++ stop :: rest) (hclean : Clean (c :: text))
    (hblank : Text.isBlank c = false) (hat : c ≠ '@') (hstop : stop ∈ stops) :
    s.run = (s.afterText (c :: text) (stop :: rest)
      (.rule (String.ofList (Text.trim (c :: text))) s.place) (·.addDeclaration (c :: text))).run := by
  refine run_of_step? ?_
  have hbrace : c ≠ '}' := fun hc => hclean.head_not_mem_stops (by simp [hc, stops])
  rw [step?_of_not_isSeparator hs (hclean.isSeparator_head hblank), stepHere?, hs]
  simp only [List.cons_append, if_neg hbrace, if_neg hat]
  rw [readItem, hs, hclean.readUntil_append_stop hstop]

/-- An at-sign, a name and, behind a space, clean parameters up to a stop are read as the head of an
at-rule. -/
theorem run_atRule {s : Scan} {stop : Char} {name params rest : List Char}
    (hs : s.rest = '@' :: name ++ ' ' :: params ++ stop :: rest)
    (hname : ∀ c ∈ name, isAtNameChar c = true) (hparams : Clean params) (hstop : stop ∈ stops) :
    s.run = (s.afterText ('@' :: name ++ ' ' :: params) (stop :: rest)
      (.atRule (String.ofList name) (String.ofList (Text.trim params)))
      (·.add (.statement (String.ofList name) (String.ofList (Text.trim params))))).run := by
  refine run_of_step? ?_
  have htake : (name ++ ' ' :: (params ++ stop :: rest)).takeWhile isAtNameChar = name := by
    rw [List.takeWhile_append_of_pos hname, List.takeWhile_cons_of_neg (by decide),
      List.append_nil]
  have hdrop : (name ++ ' ' :: (params ++ stop :: rest)).dropWhile isAtNameChar =
      (' ' :: params) ++ stop :: rest := by
    rw [List.dropWhile_append_of_pos hname, List.dropWhile_cons_of_neg (by decide)]
    rfl
  have hspace : Clean (' ' :: params) := Clean.append (a := [' ']) (by decide) hparams
  rw [step?_of_not_isSeparator hs (by decide), stepHere?, hs]
  simp only [List.cons_append, List.append_assoc, if_neg (show '@' ≠ '}' by decide), if_true]
  rw [readAtRule, htake, hdrop, hspace.readUntil_append_stop hstop,
    Text.trim_cons_of_isBlank (by decide)]
  rfl

end Scan

end StyleGauge.Stylesheet
