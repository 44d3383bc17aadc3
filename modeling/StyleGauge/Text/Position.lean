/-!
# Positions in a text

A position is the offset of a character from the start of its text, and its line and column, which
are counted from one. Only a line feed ends a line.
-/

namespace StyleGauge.Text

/-- A place in a text. -/
structure Position where
  /-- How many characters stand before it. -/
  offset : Nat := 0
  /-- Its line, counted from one. -/
  line : Nat := 1
  /-- Its place in the line, counted from one. -/
  column : Nat := 1
  deriving DecidableEq, Repr

namespace Position

/-- The start of a text. -/
def start : Position := {}

/-- The position behind a character. -/
def after (p : Position) (c : Char) : Position :=
  if c = '\n' then ⟨p.offset + 1, p.line + 1, 1⟩ else ⟨p.offset + 1, p.line, p.column + 1⟩

/-- The position behind some characters. -/
def afterAll (p : Position) (cs : List Char) : Position :=
  cs.foldl after p

/-- The position of an offset in a text. -/
def ofOffset (text : List Char) (offset : Nat) : Position :=
  start.afterAll (text.take offset)

/-! ### Laws -/

@[simp] theorem afterAll_nil (p : Position) : p.afterAll [] = p := rfl

@[simp] theorem afterAll_cons (p : Position) (c : Char) (cs : List Char) :
    p.afterAll (c :: cs) = (p.after c).afterAll cs := rfl

theorem afterAll_append (p : Position) (xs ys : List Char) :
    p.afterAll (xs ++ ys) = (p.afterAll xs).afterAll ys :=
  List.foldl_append ..

@[simp] theorem offset_after (p : Position) (c : Char) : (p.after c).offset = p.offset + 1 := by
  unfold after
  split <;> rfl

theorem offset_afterAll (p : Position) (cs : List Char) :
    (p.afterAll cs).offset = p.offset + cs.length := by
  induction cs generalizing p with
  | nil => rfl
  | cons c cs ih =>
    rw [afterAll_cons, ih, offset_after, List.length_cons]
    omega

end Position

end StyleGauge.Text
