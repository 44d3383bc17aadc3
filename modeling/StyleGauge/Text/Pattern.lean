/-!
# Patterns

A pattern matches some characters from a place in a text on. Where it can match in several ways
these have an order, and the first one after which the rest of the pattern matches too is taken.

A text is searched from its start on, and each match is sought behind the one before it. The pieces
between the matches are what the matches split the text into. All patterns are meant to match at
least one character.
-/

namespace StyleGauge.Text

/-- A pattern of characters. -/
inductive Pattern where
  /-- The start of the text; no character is taken. -/
  | start
  /-- One character of a class. -/
  | one (p : Char → Bool)
  /-- Any number of characters of a class, more of them rather than less. -/
  | many (p : Char → Bool)
  /-- No character of a class comes next; none is taken. -/
  | notBefore (p : Char → Bool)
  /-- The first pattern rather than the second one. -/
  | either (a b : Pattern)
  /-- The first pattern and then the second one. -/
  | seq (a b : Pattern)

namespace Pattern

/-- A place in a text: whether it is the start, and what is left from there on. -/
structure Place where
  isStart : Bool
  rest : List Char

/-- The most characters of a class after which the rest of a pattern matches. -/
def attemptMany (p : Char → Bool) (isStart : Bool) (cs : List Char)
    (next : Place → Option (List Char)) : Option (List Char) :=
  match cs with
  | [] => next ⟨isStart, []⟩
  | c :: rest =>
    if p c then (attemptMany p false rest next).or (next ⟨isStart, c :: rest⟩)
    else next ⟨isStart, c :: rest⟩

/-- What is left behind a match at a place, where `next` tells whether and how the rest of a pattern
matches behind this one. -/
def attempt : Pattern → Place → (Place → Option (List Char)) → Option (List Char)
  | start, place, next => if place.isStart then next place else none
  | one p, place, next =>
    match place.rest with
    | [] => none
    | c :: rest => if p c then next ⟨false, rest⟩ else none
  | many p, place, next => attemptMany p place.isStart place.rest next
  | notBefore p, place, next => if place.rest.head?.any p then none else next place
  | either a b, place, next => (a.attempt place next).or (b.attempt place next)
  | seq a b, place, next => a.attempt place fun behind => b.attempt behind next

/-- What is left behind a match at a place. -/
def match? (pattern : Pattern) (isStart : Bool) (cs : List Char) : Option (List Char) :=
  pattern.attempt ⟨isStart, cs⟩ fun place => some place.rest

/-- The pieces between the matches, from a place on. So many characters as `taken` says belong to a
match that began before. -/
def splitFrom (pattern : Pattern) (isStart : Bool) (taken : Nat) : List Char → List (List Char)
  | [] => [[]]
  | c :: rest =>
    match taken with
    | taken + 1 => pattern.splitFrom false taken rest
    | 0 =>
      match pattern.match? isStart (c :: rest) with
      | some behind => [] :: pattern.splitFrom false (rest.length - behind.length) rest
      | none => (pattern.splitFrom false 0 rest).modifyHead (c :: ·)

/-- The pieces into which the matches split a text. -/
def split (pattern : Pattern) (cs : List Char) : List (List Char) :=
  pattern.splitFrom true 0 cs

/-- How many matches there are from a place on. -/
def countFrom (pattern : Pattern) (isStart : Bool) (taken : Nat) (cs : List Char) : Nat :=
  (pattern.splitFrom isStart taken cs).length - 1

/-- How many matches there are in a text. -/
def count (pattern : Pattern) (cs : List Char) : Nat :=
  pattern.countFrom true 0 cs

/-- Whether there is a match in a text. -/
def occurs (pattern : Pattern) (cs : List Char) : Bool :=
  pattern.count cs != 0

theorem match?_either_seq (a b behind : Pattern) (isStart : Bool) (cs : List Char) :
    ((either a b).seq behind).match? isStart cs =
      ((a.seq behind).match? isStart cs).or ((b.seq behind).match? isStart cs) := rfl

/-! ### Pieces and matches -/

variable {pattern : Pattern} {isStart : Bool} {taken : Nat} {c : Char} {rest behind : List Char}

theorem splitFrom_of_match? (h : pattern.match? isStart (c :: rest) = some behind) :
    pattern.splitFrom isStart 0 (c :: rest) =
      [] :: pattern.splitFrom false (rest.length - behind.length) rest := by
  rw [splitFrom, h]

theorem splitFrom_of_match?_eq_none (h : pattern.match? isStart (c :: rest) = none) :
    pattern.splitFrom isStart 0 (c :: rest) =
      (pattern.splitFrom false 0 rest).modifyHead (c :: ·) := by
  rw [splitFrom, h]

theorem splitFrom_length_pos (pattern : Pattern) (isStart : Bool) (taken : Nat) (cs : List Char) :
    0 < (pattern.splitFrom isStart taken cs).length := by
  induction cs generalizing isStart taken with
  | nil => exact Nat.one_pos
  | cons c rest ih =>
    cases taken with
    | succ taken => exact ih false taken
    | zero =>
      cases h : pattern.match? isStart (c :: rest) with
      | none => rw [splitFrom_of_match?_eq_none h, List.length_modifyHead]; exact ih false 0
      | some behind => rw [splitFrom_of_match? h]; exact Nat.succ_pos _

@[simp] theorem countFrom_nil (pattern : Pattern) (isStart : Bool) (taken : Nat) :
    pattern.countFrom isStart taken [] = 0 := rfl

theorem countFrom_taken :
    pattern.countFrom isStart (taken + 1) (c :: rest) = pattern.countFrom false taken rest := rfl

theorem countFrom_of_match? (h : pattern.match? isStart (c :: rest) = some behind) :
    pattern.countFrom isStart 0 (c :: rest) =
      1 + pattern.countFrom false (rest.length - behind.length) rest := by
  have hpos := pattern.splitFrom_length_pos false (rest.length - behind.length) rest
  rw [countFrom, countFrom, splitFrom_of_match? h, List.length_cons]
  omega

theorem countFrom_of_match?_eq_none (h : pattern.match? isStart (c :: rest) = none) :
    pattern.countFrom isStart 0 (c :: rest) = pattern.countFrom false 0 rest := by
  rw [countFrom, countFrom, splitFrom_of_match?_eq_none h, List.length_modifyHead]

/-- The start of a text only counts if it makes a difference to the first match. -/
theorem count_eq_countFrom {cs : List Char} (h : pattern.match? true cs = pattern.match? false cs) :
    pattern.count cs = pattern.countFrom false 0 cs := by
  cases cs with
  | nil => rfl
  | cons c rest =>
    cases hmatch : pattern.match? false (c :: rest) with
    | none =>
      rw [count, countFrom_of_match?_eq_none (h.trans hmatch), countFrom_of_match?_eq_none hmatch]
    | some behind => rw [count, countFrom_of_match? (h.trans hmatch), countFrom_of_match? hmatch]

/-- There are no more matches than characters. -/
theorem countFrom_le (pattern : Pattern) (isStart : Bool) (taken : Nat) (cs : List Char) :
    pattern.countFrom isStart taken cs ≤ cs.length := by
  induction cs generalizing isStart taken with
  | nil => exact Nat.le_refl 0
  | cons c rest ih =>
    rw [List.length_cons]
    cases taken with
    | succ taken => exact Nat.le_succ_of_le (ih false taken)
    | zero =>
      cases h : pattern.match? isStart (c :: rest) with
      | none =>
        rw [countFrom_of_match?_eq_none h]
        exact Nat.le_succ_of_le (ih false 0)
      | some behind =>
        rw [countFrom_of_match? h, Nat.add_comm]
        exact Nat.succ_le_succ (ih false _)

theorem count_le (pattern : Pattern) (cs : List Char) : pattern.count cs ≤ cs.length :=
  pattern.countFrom_le true 0 cs

/-- A text that a pattern matches nowhere. -/
theorem countFrom_eq_zero {cs : List Char}
    (h : ∀ isStart c rest, c ∈ cs → pattern.match? isStart (c :: rest) = none) :
    pattern.countFrom isStart 0 cs = 0 := by
  induction cs generalizing isStart with
  | nil => rfl
  | cons c rest ih =>
    rw [countFrom_of_match?_eq_none (h isStart c rest List.mem_cons_self)]
    exact ih fun isStart d more hd => h isStart d more (List.mem_cons_of_mem c hd)

theorem countFrom_ne_zero_iff {cs : List Char} : pattern.countFrom isStart 0 cs ≠ 0 ↔
    ∃ before c rest, cs = before ++ c :: rest ∧
      (pattern.match? (isStart && before.isEmpty) (c :: rest)).isSome = true := by
  induction cs generalizing isStart with
  | nil => simp
  | cons c rest ih =>
    cases h : pattern.match? isStart (c :: rest) with
    | some behind =>
      rw [countFrom_of_match? h]
      exact ⟨fun _ => ⟨[], c, rest, rfl, by simp [h]⟩, fun _ => by omega⟩
    | none =>
      rw [countFrom_of_match?_eq_none h, ih]
      constructor
      · rintro ⟨before, d, more, rfl, hmatch⟩
        exact ⟨c :: before, d, more, rfl, by simpa using hmatch⟩
      · rintro ⟨before, d, more, heq, hmatch⟩
        cases before with
        | nil =>
          obtain ⟨rfl, rfl⟩ := List.cons.inj heq
          simp [h] at hmatch
        | cons b before =>
          obtain ⟨rfl, rfl⟩ := List.cons.inj heq
          exact ⟨before, d, more, rfl, by simpa using hmatch⟩

/-- A pattern occurs in a text exactly if it matches at some place. -/
theorem occurs_iff {cs : List Char} : pattern.occurs cs = true ↔
    ∃ before c rest, cs = before ++ c :: rest ∧
      (pattern.match? before.isEmpty (c :: rest)).isSome = true := by
  rw [occurs, bne_iff_ne]
  exact countFrom_ne_zero_iff

theorem length_split (pattern : Pattern) (cs : List Char) :
    (pattern.split cs).length = pattern.count cs + 1 := by
  have hpos := pattern.splitFrom_length_pos true 0 cs
  rw [split, count, countFrom]
  omega

end Pattern

end StyleGauge.Text
