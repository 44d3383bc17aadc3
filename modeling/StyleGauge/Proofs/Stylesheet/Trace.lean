import Mathlib.Tactic.Common
import StyleGauge.Stylesheet.Scanner

/-!
# The course of a scan

A scan goes from state to state until nothing but separators is left. Three things can happen in a
step: a brace closes a block, an at-rule is read, or an item is. What a text is read from up to the
next stop, and whether a brace is skipped, can be told of every state of the course; laws about what
stands around a text or behind it ask for no more than that.
-/

namespace StyleGauge.Stylesheet.Scan

/-! ### Steps -/

/-- What a step makes of a scan. -/
inductive Step (s : Scan) : Scan → Prop
  | close {rest : List Char} (hs : s.skipSeparators.rest = '}' :: rest) :
    Step s (s.skipSeparators.closeBlock.moveOver ['}'] rest)
  | atRule {text : List Char} (hs : s.skipSeparators.rest = '@' :: text) :
    Step s (s.skipSeparators.readAtRule text)
  | item {c : Char} {cs : List Char} (hs : s.skipSeparators.rest = c :: cs) (hbrace : c ≠ '}')
    (hat : c ≠ '@') : Step s s.skipSeparators.readItem

variable {s t : Scan}

theorem step_of_step? (h : s.step? = some t) : s.Step t := by
  rw [step?, stepHere?] at h
  cases hs : s.skipSeparators.rest with
  | nil => simp [hs] at h
  | cons c rest =>
    rw [hs] at h
    simp only at h
    split_ifs at h with hbrace hat
    · obtain rfl := Option.some.inj h
      subst hbrace
      exact .close hs
    · obtain rfl := Option.some.inj h
      subst hat
      exact .atRule hs
    · obtain rfl := Option.some.inj h
      exact .item hs hbrace hat

theorem Step.step? (h : s.Step t) : s.step? = some t := by
  rw [Scan.step?, stepHere?]
  cases h with
  | close hs => rw [hs]; rfl
  | atRule hs => rw [hs]; rfl
  | item hs hbrace hat => rw [hs]; simp [hbrace, hat]

/-- There is a step unless nothing but separators is left. -/
theorem step?_eq_none_iff : s.step? = none ↔ s.skipSeparators.rest = [] := by
  constructor
  · intro h
    rw [step?, stepHere?] at h
    split at h
    · assumption
    · split_ifs at h
  · intro h
    rw [step?, stepHere?, h]

/-! ### Courses -/

/-- The states of a scan, from this one to the one that has no step. -/
def trace (s : Scan) : List Scan :=
  match h : s.step? with
  | none => [s]
  | some t =>
    have : t.rest.length < s.rest.length := rest_step?_length_lt h
    s :: t.trace
termination_by s.rest.length

/-- The state in which a scan ends. -/
def last (s : Scan) : Scan :=
  match h : s.step? with
  | none => s
  | some t =>
    have : t.rest.length < s.rest.length := rest_step?_length_lt h
    t.last
termination_by s.rest.length

theorem trace_of_step? (h : s.step? = some t) : s.trace = s :: t.trace := by
  rw [trace]
  split <;> simp_all

theorem trace_of_step?_eq_none (h : s.step? = none) : s.trace = [s] := by
  rw [trace]
  split <;> simp_all

theorem last_of_step? (h : s.step? = some t) : s.last = t.last := by
  rw [last]
  split <;> simp_all

theorem last_of_step?_eq_none (h : s.step? = none) : s.last = s := by
  rw [last]
  split <;> simp_all

theorem step?_last (s : Scan) : s.last.step? = none := by
  fun_induction last s with
  | case1 s h => exact h
  | case2 s t h hlt ih => exact ih

theorem run_eq_finish_last (s : Scan) : s.run = s.last.finish := by
  fun_induction run s with
  | case1 s h => rw [last_of_step?_eq_none h]
  | case2 s t h hlt ih => rw [ih, last_of_step? h]

theorem follows_last (s : Scan) : s.last.Follows s := by
  fun_induction last s with
  | case1 s h => exact .refl s
  | case2 s t h hlt ih => exact ih.trans (follows_step? h)

/-- What is left at the end of a scan completes what it has gone over. -/
theorem afterAll_rest_last (s : Scan) :
    s.last.place.afterAll s.last.rest = s.place.afterAll s.rest := by
  obtain ⟨taken, hrest, hplace⟩ := follows_last s
  rw [hplace, hrest, Text.Position.afterAll_append]

/-! ### What happens on the way -/

/-- The text that the next step reads up to a stop, if it reads one: an item, or what stands behind
the name of an at-rule. -/
def readText? (s : Scan) : Option (List Char) :=
  match s.skipSeparators.rest with
  | [] => none
  | c :: rest =>
    if c = '}' then none
    else if c = '@' then some (rest.dropWhile isAtNameChar)
    else some (c :: rest)

/-- The texts that a scan reads up to a stop, one for every read. -/
def reads (s : Scan) : List (List Char) :=
  s.trace.filterMap readText?

/-- Whether the next step skips a brace that closes nothing. -/
def skipsBrace (s : Scan) : Bool :=
  s.outer.isEmpty && s.skipSeparators.rest.head? == some '}'

theorem readText?_of_atRule {text : List Char} (hs : s.skipSeparators.rest = '@' :: text) :
    s.readText? = some (text.dropWhile isAtNameChar) := by
  rw [readText?, hs]
  rfl

theorem readText?_of_item {c : Char} {cs : List Char} (hs : s.skipSeparators.rest = c :: cs)
    (hbrace : c ≠ '}') (hat : c ≠ '@') : s.readText? = some s.skipSeparators.rest := by
  rw [readText?, hs]
  simp [hbrace, hat]

/-- What holds of every read holds of the reads of the next step and of those after it. -/
theorem forall_mem_reads {P : List Char → Prop} (h : s.step? = some t) :
    (∀ text ∈ s.reads, P text) ↔ (∀ text ∈ s.readText?, P text) ∧ ∀ text ∈ t.reads, P text := by
  rw [reads, trace_of_step? h, List.filterMap_cons, reads]
  cases s.readText? with
  | none => simp
  | some text => simp

theorem forall_mem_trace {P : Scan → Prop} (h : s.step? = some t) :
    (∀ u ∈ s.trace, P u) ↔ P s ∧ ∀ u ∈ t.trace, P u := by
  rw [trace_of_step? h, List.forall_mem_cons]

end StyleGauge.Stylesheet.Scan
