import Mathlib.Data.List.Induction
import StyleGauge.Text.Position

/-!
# Positions in texts

The position of an offset depends on the text before it alone, and on that only through its line
ends: their number gives the line, and the last of them the column. Whatever stands further on in a
text has a later position.
-/

namespace StyleGauge.Text.Position

variable {a b : List Char}

theorem offset_ofOffset (text : List Char) (n : Nat) :
    (ofOffset text n).offset = min n text.length := by
  simp [ofOffset, offset_afterAll, start]

/-- An offset in a text that others are put before and behind. -/
theorem ofOffset_length_add (before text behind : List Char) {n : Nat} (hn : n ≤ text.length) :
    ofOffset (before ++ text ++ behind) (before.length + n) =
      (start.afterAll before).afterAll (text.take n) := by
  rw [ofOffset, List.append_assoc, List.take_length_add_append,
    List.take_append_of_le_length hn, afterAll_append]

/-- Texts with the same line ends take a position to the same place. -/
theorem afterAll_eq_of_lineEnds (h : a.map (· == '\n') = b.map (· == '\n')) (p : Position) :
    p.afterAll a = p.afterAll b := by
  induction a generalizing b p with
  | nil =>
    have hb : b = [] := by simpa using h.symm
    rw [hb]
  | cons c a ih =>
    cases b with
    | nil => simp at h
    | cons d b =>
      simp only [List.map_cons, List.cons.injEq] at h
      have hafter : p.after c = p.after d := by
        have hiff : c = '\n' ↔ d = '\n' := by simpa using congrArg (· = true) h.1
        simp only [after, hiff]
      rw [afterAll_cons, afterAll_cons, hafter, ih h.2]

/-- An offset has the same position in texts with the same line ends. -/
theorem ofOffset_eq_of_lineEnds (h : a.map (· == '\n') = b.map (· == '\n')) (n : Nat) :
    ofOffset a n = ofOffset b n := by
  refine afterAll_eq_of_lineEnds ?_ start
  rw [List.map_take, List.map_take, h]

/-! ### Lines and columns -/

theorem line_afterAll (p : Position) (cs : List Char) :
    (p.afterAll cs).line = p.line + cs.count '\n' := by
  induction cs generalizing p with
  | nil => rfl
  | cons c cs ih =>
    rw [afterAll_cons, ih, List.count_cons, after]
    by_cases hc : c = '\n' <;> simp [hc]
    omega

theorem column_afterAll_start (cs : List Char) :
    (start.afterAll cs).column = (cs.reverse.takeWhile (· != '\n')).length + 1 := by
  induction cs using List.reverseRecOn with
  | nil => rfl
  | append_singleton cs c ih =>
    rw [afterAll_append, afterAll_cons, afterAll_nil, after, List.reverse_append,
      List.reverse_singleton, List.singleton_append]
    by_cases hc : c = '\n' <;> simp [hc, ih]

/-- How many characters stand before the line of an offset: those up to the last line end before
the offset. -/
def lineStart (text : List Char) (offset : Nat) : Nat :=
  ((text.take offset).reverse.dropWhile (· != '\n')).length

theorem line_ofOffset (text : List Char) (n : Nat) :
    (ofOffset text n).line = 1 + (text.take n).count '\n' :=
  line_afterAll start _

theorem column_ofOffset {text : List Char} {n : Nat} (hn : n ≤ text.length) :
    (ofOffset text n).column = n - lineStart text n + 1 := by
  have hlength : (text.take n).reverse.length = n := by
    rw [List.length_reverse, List.length_take_of_le hn]
  rw [← List.takeWhile_append_dropWhile (p := (· != '\n')) (l := (text.take n).reverse),
    List.length_append] at hlength
  rw [ofOffset, column_afterAll_start, lineStart]
  omega

/-! ### Order -/

/-- Whether a position comes before another one: in an earlier line, or earlier in the same
line. -/
def Precedes (p q : Position) : Prop :=
  p.line < q.line ∨ p.line = q.line ∧ p.column < q.column

variable {p q r : Position}

theorem Precedes.trans (hpq : p.Precedes q) (hqr : q.Precedes r) : p.Precedes r := by
  unfold Precedes at *
  omega

theorem precedes_after (p : Position) (c : Char) : p.Precedes (p.after c) := by
  unfold Precedes after
  split <;> simp

/-- What is further on in a text is at a later position. -/
theorem precedes_afterAll (p : Position) {cs : List Char} (h : cs ≠ []) :
    p.Precedes (p.afterAll cs) := by
  induction cs generalizing p with
  | nil => exact absurd rfl h
  | cons c cs ih =>
    cases cs with
    | nil => exact precedes_after p c
    | cons d cs => exact (precedes_after p c).trans (ih _ (List.cons_ne_nil d cs))

end StyleGauge.Text.Position
