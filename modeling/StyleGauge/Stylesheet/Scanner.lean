import StyleGauge.Stylesheet.Node
import StyleGauge.Text.Nesting
import StyleGauge.Text.Word

/-!
# From text to tree

A stylesheet without comments is read in steps. The scanner keeps the blocks that are open, the
innermost first; a step skips blanks and semicolons and then closes a block, opens one, or reads a
declaration or a statement. Every step takes at least one character. A closing brace without a
block is skipped, and blocks that are open at the end are closed there.
-/

namespace StyleGauge.Stylesheet

open Text (Nesting)

/-! ### Pieces of text -/

/-- The characters that end a piece of text when they stand at the top level. -/
def stops : List Char :=
  ['{', ';', '}']

/-- The text up to the first top-level stop, and the rest from there on. -/
def readUntil (state : Nesting) : List Char → List Char × List Char
  | [] => ([], [])
  | c :: cs =>
    if state.isTop && stops.contains c then ([], c :: cs)
    else
      let (piece, rest) := readUntil (state.advance .oneLine c) cs
      (c :: piece, rest)

theorem readUntil_append (state : Nesting) (cs : List Char) :
    (readUntil state cs).1 ++ (readUntil state cs).2 = cs := by
  fun_induction readUntil state cs <;> simp_all

/-- What is left after a piece is at most what there was. -/
theorem readUntil_length_le (state : Nesting) (cs : List Char) :
    (readUntil state cs).2.length ≤ cs.length := by
  have := congrArg List.length (readUntil_append state cs)
  simp only [List.length_append] at this
  omega

/-- Whether a character separates the parts of a block. -/
def isSeparator (c : Char) : Bool :=
  Text.isBlank c || c == ';'

/-- Whether a character belongs to the name of an at-rule. -/
def isAtNameChar (c : Char) : Bool :=
  Text.isWord c || c == '-'

/-! ### Open blocks -/

/-- What stands before a block. -/
inductive Head where
  | rule (prelude : String) (start : Text.Position)
  | atRule (name params : String)
  deriving DecidableEq, Repr

/-- The node of a block that is complete. -/
def Head.close : Head → List Node → Node
  | rule prelude start, children => .rule prelude start children
  | atRule name params, children => .block name params children

/-- A block whose closing brace is still to come. -/
structure OpenBlock where
  /-- What stands before it. -/
  head : Head
  /-- The nodes beside it, the latest first. -/
  before : List Node

/-- What the scanner knows between two steps. -/
structure Scan where
  /-- The blocks that are open, the innermost first. -/
  outer : List OpenBlock
  /-- The nodes of the innermost block so far, the latest first. -/
  nodes : List Node
  /-- The place that has been reached. -/
  place : Text.Position
  /-- The text that is left from there on. -/
  rest : List Char

namespace Scan

/-- The scan of a whole text before its first step. -/
def start (text : List Char) : Scan :=
  ⟨[], [], .start, text⟩

/-- All blocks closed, the tree of what was read. -/
def closeAll : List OpenBlock → List Node → List Node
  | [], nodes => nodes.reverse
  | b :: outer, nodes => closeAll outer (b.head.close nodes.reverse :: b.before)

/-- The tree of what was read. -/
def finish (s : Scan) : List Node :=
  closeAll s.outer s.nodes

/-- The innermost block closed; at the top level there is none to close. -/
def closeBlock (s : Scan) : Scan :=
  match s.outer with
  | [] => s
  | b :: outer => { s with outer, nodes := b.head.close s.nodes.reverse :: b.before }

/-- A block opened inside the innermost one. -/
def openBlock (s : Scan) (head : Head) : Scan :=
  { s with outer := ⟨head, s.nodes⟩ :: s.outer, nodes := [] }

/-- A node added to the innermost block. -/
def add (s : Scan) (node : Node) : Scan :=
  { s with nodes := node :: s.nodes }

/-- The scan moved over some characters of its text, to what is left behind them. -/
def moveOver (s : Scan) (taken rest : List Char) : Scan :=
  { s with place := s.place.afterAll taken, rest }

/-- The scan without the separators before it. -/
def skipSeparators (s : Scan) : Scan :=
  s.moveOver (s.rest.takeWhile isSeparator) (s.rest.dropWhile isSeparator)

/-- The scan after a text that turned out to stand before `after`: a block opens, or the text is
complete on its own, with or without a semicolon. -/
def afterText (s : Scan) (text after : List Char) (head : Head) (complete : Scan → Scan) : Scan :=
  match after with
  | '{' :: rest => (s.openBlock head).moveOver (text ++ ['{']) rest
  | ';' :: rest => (complete s).moveOver (text ++ [';']) rest
  | rest => (complete s).moveOver text rest

/-- An at-rule, read from behind its sign. -/
def readAtRule (s : Scan) (text : List Char) : Scan :=
  let nameChars := text.takeWhile isAtNameChar
  let split := readUntil .start (text.dropWhile isAtNameChar)
  let name := String.ofList nameChars
  let params := String.ofList (Text.trim split.1)
  s.afterText ('@' :: nameChars ++ split.1) split.2 (.atRule name params)
    (·.add (.statement name params))

/-- The declaration that a text is, added to the innermost block. Outside of blocks it does not
count. -/
def addDeclaration (s : Scan) (text : List Char) : Scan :=
  match Declaration.parse? text, s.outer with
  | some d, _ :: _ => s.add (.declaration d)
  | _, _ => s

/-- A rule or a declaration. -/
def readItem (s : Scan) : Scan :=
  let split := readUntil .start s.rest
  s.afterText split.1 split.2 (.rule (String.ofList (Text.trim split.1)) s.place)
    (·.addDeclaration split.1)

/-- The step from a place that is no separator; none at the end of the text. -/
def stepHere? (s : Scan) : Option Scan :=
  match s.rest with
  | [] => none
  | c :: rest =>
    if c = '}' then some (s.closeBlock.moveOver [c] rest)
    else if c = '@' then some (s.readAtRule rest)
    else some s.readItem

/-- The next step; none at the end of the text. -/
def step? (s : Scan) : Option Scan :=
  s.skipSeparators.stepHere?

/-! ### Every step takes something -/

@[simp] theorem rest_closeBlock (s : Scan) : s.closeBlock.rest = s.rest := by
  unfold closeBlock
  split <;> rfl

@[simp] theorem rest_moveOver (s : Scan) (taken rest : List Char) :
    (s.moveOver taken rest).rest = rest := rfl

theorem rest_skipSeparators_length_le (s : Scan) :
    s.skipSeparators.rest.length ≤ s.rest.length :=
  (List.dropWhile_suffix isSeparator).length_le

theorem rest_afterText_length_le (s : Scan) (text after : List Char) (head : Head)
    (complete : Scan → Scan) :
    (s.afterText text after head complete).rest.length ≤ after.length := by
  unfold afterText
  split <;> simp

theorem rest_readAtRule_length_le (s : Scan) (text : List Char) :
    (s.readAtRule text).rest.length ≤ text.length := by
  refine Nat.le_trans (rest_afterText_length_le ..) ?_
  exact Nat.le_trans (readUntil_length_le ..) (List.dropWhile_suffix isAtNameChar).length_le

/-- Text that does not begin with a closing brace is read, or the brace or semicolon that it begins
with is. -/
theorem rest_readItem_length_lt {s : Scan} {c : Char} {cs : List Char} (hs : s.rest = c :: cs)
    (hc : c ≠ '}') : s.readItem.rest.length < s.rest.length := by
  have happ := congrArg List.length (readUntil_append .start s.rest)
  simp only [List.length_append] at happ
  simp only [readItem, afterText]
  split
  · rename_i h
    rw [h] at happ
    simp only [rest_moveOver, List.length_cons] at happ ⊢
    omega
  · rename_i h
    rw [h] at happ
    simp only [rest_moveOver, List.length_cons] at happ ⊢
    omega
  · rename_i hbrace hsemi
    simp only [rest_moveOver]
    have hne : (readUntil .start s.rest).1 ≠ [] := by
      rw [hs] at hbrace hsemi ⊢
      unfold readUntil at hbrace hsemi ⊢
      split
      · rename_i hstop
        simp only [hstop, if_true] at hbrace hsemi
        simp only [stops, Bool.and_eq_true, List.contains_eq_mem, List.mem_cons, List.not_mem_nil,
          or_false, decide_eq_true_eq] at hstop
        rcases hstop.2 with rfl | rfl | rfl
        · exact absurd rfl (hbrace cs)
        · exact absurd rfl (hsemi cs)
        · exact absurd rfl hc
      · simp
    have := List.length_pos_iff.2 hne
    omega

/-- A step leaves less text than there was. -/
theorem rest_step?_length_lt {s t : Scan} (h : s.step? = some t) :
    t.rest.length < s.rest.length := by
  refine Nat.lt_of_lt_of_le ?_ (rest_skipSeparators_length_le s)
  unfold step? stepHere? at h
  split at h
  · simp at h
  · rename_i c rest hr
    rw [hr, List.length_cons]
    split at h
    · simp only [Option.some.injEq] at h
      subst h
      simp
    · split at h
      · simp only [Option.some.injEq] at h
        subst h
        have := rest_readAtRule_length_le s.skipSeparators rest
        omega
      · rename_i hbrace _
        simp only [Option.some.injEq] at h
        subst h
        have := rest_readItem_length_lt hr hbrace
        rwa [hr, List.length_cons] at this

/-! ### Every step moves the place over what it takes -/

/-- One scan comes after another if the later one has gone over what the earlier one had left, up to
what it has left itself. -/
def Follows (t s : Scan) : Prop :=
  ∃ taken, s.rest = taken ++ t.rest ∧ t.place = s.place.afterAll taken

theorem Follows.refl (s : Scan) : s.Follows s :=
  ⟨[], rfl, rfl⟩

theorem Follows.trans {s t u : Scan} (h : u.Follows t) (h' : t.Follows s) : u.Follows s := by
  obtain ⟨later, hrest, hplace⟩ := h
  obtain ⟨earlier, hrest', hplace'⟩ := h'
  exact ⟨earlier ++ later, by rw [hrest', hrest, List.append_assoc],
    by rw [hplace, hplace', Text.Position.afterAll_append]⟩

@[simp] theorem place_closeBlock (s : Scan) : s.closeBlock.place = s.place := by
  unfold closeBlock
  split <;> rfl

@[simp] theorem place_addDeclaration (s : Scan) (text : List Char) :
    (s.addDeclaration text).place = s.place := by
  unfold addDeclaration
  split <;> rfl

theorem follows_skipSeparators (s : Scan) : s.skipSeparators.Follows s :=
  ⟨s.rest.takeWhile isSeparator, (List.takeWhile_append_dropWhile ..).symm, rfl⟩

theorem follows_afterText {s : Scan} {text after : List Char} {head : Head}
    {complete : Scan → Scan} (hs : s.rest = text ++ after)
    (h : (complete s).place = s.place) : (s.afterText text after head complete).Follows s := by
  unfold afterText
  split
  · exact ⟨text ++ ['{'], by simp [hs], rfl⟩
  · exact ⟨text ++ [';'], by simp [hs], by simp [moveOver, h]⟩
  · exact ⟨text, hs, by simp [moveOver, h]⟩

/-- A step goes over what it takes, character by character. -/
theorem follows_step? {s t : Scan} (h : s.step? = some t) : t.Follows s := by
  refine Follows.trans ?_ (follows_skipSeparators s)
  unfold step? stepHere? at h
  split at h
  · simp at h
  · rename_i c rest hr
    split at h
    · simp only [Option.some.injEq] at h
      subst h
      exact ⟨[c], hr, by simp [moveOver]⟩
    · split at h
      · rename_i hat
        simp only [Option.some.injEq] at h
        subst h hat
        refine follows_afterText ?_ rfl
        rw [hr, List.cons_append, List.cons_append, List.append_assoc, readUntil_append,
          List.takeWhile_append_dropWhile]
      · simp only [Option.some.injEq] at h
        subst h
        exact follows_afterText (readUntil_append ..).symm (place_addDeclaration ..)

/-- The tree at the end of all steps. -/
def run (s : Scan) : List Node :=
  match h : s.step? with
  | none => s.finish
  | some t =>
    have : t.rest.length < s.rest.length := rest_step?_length_lt h
    t.run
termination_by s.rest.length

end Scan

/-- The tree of a stylesheet without comments. -/
def scan (text : List Char) : List Node :=
  (Scan.start text).run

end StyleGauge.Stylesheet
