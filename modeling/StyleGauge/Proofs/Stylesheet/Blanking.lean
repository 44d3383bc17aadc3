import Mathlib.Data.List.Forall2
import StyleGauge.Proofs.Stylesheet.Locality

/-!
# What blanking leaves as it is

Blanking out comments writes over characters and never moves them: every offset keeps its character
or gets a space, and the ends of lines stay. A text that has been blanked has no comment left, so
that blanking it once more changes nothing.
-/

namespace StyleGauge.Stylesheet

variable {mode : Mode} {cs : List Char} {c d : Char} {i : Nat}

/-! ### Characters -/

/-- What may stand where a character stood: the character itself, or what it becomes in a
comment. -/
def Blanked (c d : Char) : Prop :=
  d = c ∨ d = blankOf c

theorem blanked_iff : Blanked c d ↔ d = c ∨ c ≠ '\n' ∧ d = ' ' := by
  unfold Blanked blankOf
  split_ifs with hc <;> simp [hc]

theorem forall₂_blanked (mode : Mode) (cs : List Char) :
    List.Forall₂ Blanked cs (blankComments mode cs) := by
  have hkept (c : Char) : Blanked c c := .inl rfl
  have hblank (c : Char) : Blanked c (blankOf c) := .inr rfl
  fun_induction blankComments mode cs with
  | case1 mode => exact .nil
  | case2 rest ih => exact .cons (hblank '/') (.cons (hblank '*') ih)
  | case3 c rest hnot ih => exact .cons (hkept c) ih
  | case4 q c rest ih => exact .cons (hkept '\\') (.cons (hkept c) ih)
  | case5 q c rest hnot ih => exact .cons (hkept c) ih
  | case6 rest ih => exact .cons (hblank '*') (.cons (hblank '/') ih)
  | case7 c rest hnot ih => exact .cons (hblank c) ih

/-- Every offset keeps its character or gets a space. -/
theorem blanked_of_getElem? (mode : Mode) (h : cs[i]? = some c) :
    ∃ d, (blankComments mode cs)[i]? = some d ∧ Blanked c d := by
  obtain ⟨hi, hc⟩ := List.getElem?_eq_some_iff.1 h
  have hi' : i < (blankComments mode cs).length := by rwa [blankComments_length]
  refine ⟨(blankComments mode cs)[i], List.getElem?_eq_getElem hi', ?_⟩
  rw [← hc]
  exact (forall₂_blanked mode cs).get hi hi'

theorem getElem?_blankComments_eq_newline_iff :
    (blankComments mode cs)[i]? = some '\n' ↔ cs[i]? = some '\n' := by
  have hends := congrArg (·[i]?) (lineEnds_blankComments mode cs)
  simp only [List.getElem?_map] at hends
  cases hc : cs[i]? with
  | none => simp_all
  | some c => cases hd : (blankComments mode cs)[i]? <;> simp_all

/-- No comment begins at a character that blanking leaves in code. -/
theorem opensComment_cons_blankComments {rest : List Char}
    (h : opensComment (c :: rest) = false) :
    opensComment (c :: blankComments mode rest) = false := by
  rw [← Bool.not_eq_true, opensComment_eq_true_iff] at h ⊢
  rintro ⟨after, hafter⟩
  injection hafter with hc hrest
  -- the star is one of the text, since a comment leaves none
  have hstar := forall₂_blanked mode rest
  rw [hrest] at hstar
  cases hstar with
  | @cons x _ xs _ hx =>
    rcases blanked_iff.1 hx with rfl | ⟨-, hblank⟩
    · exact h ⟨xs, by rw [hc]⟩
    · exact absurd hblank (by decide)

/-! ### Blanking twice -/

/-- The mode in which a blanked text is gone over again: where a comment was, there is code. -/
def Mode.again : Mode → Mode
  | .comment => .code
  | mode => mode

theorem again_of_ne_comment (h : mode ≠ .comment) : mode.again = mode := by
  cases mode with
  | code => rfl
  | string q => rfl
  | comment => exact absurd rfl h

/-- Blanked text is blanked already. -/
theorem blankComments_blankComments (mode : Mode) (cs : List Char) :
    blankComments mode.again (blankComments mode cs) = blankComments mode cs := by
  have hblank {x : Char} (hx : x = ' ' ∨ x = '\n') (text : List Char) :
      blankComments .code (x :: text) = x :: blankComments .code text := by
    rcases hx with rfl | rfl <;> rfl
  have hblankOf (c : Char) : blankOf c = ' ' ∨ blankOf c = '\n' := by
    unfold blankOf
    split_ifs <;> simp
  fun_induction blankComments mode cs with
  | case1 mode => simp
  | case2 rest ih =>
    show blankComments .code _ = _
    rw [hblank (.inl rfl), hblank (.inl rfl)]
    exact congrArg (' ' :: ' ' :: ·) ih
  | case3 c rest hnot ih =>
    have hopen : opensComment (c :: rest) = false := by
      rw [← Bool.not_eq_true, opensComment_eq_true_iff]
      rintro ⟨after, h⟩
      injection h with hc hrest
      exact hnot after hc hrest
    rw [again_of_ne_comment (afterCode_ne_comment c)] at ih
    rw [again_of_ne_comment (by simp),
      (takes_code (opensComment_cons_blankComments hopen)).text_eq _ List.prefix_rfl, ih]
  | case4 q c rest ih =>
    rw [again_of_ne_comment (by simp)] at ih ⊢
    rw [(takesPair_escape q c).text_eq, ih]
  | case5 q c rest hnot ih =>
    have hnot' : ∀ d more, c = '\\' → blankComments (.afterString q c) rest = d :: more →
        False := by
      intro d more hc hrest
      cases rest with
      | nil => simp at hrest
      | cons e rest => exact hnot e rest hc rfl
    rw [again_of_ne_comment (afterString_ne_comment q c)] at ih
    rw [again_of_ne_comment (by simp), (takes_string hnot').text_eq _ List.prefix_rfl, ih]
  | case6 rest ih =>
    show blankComments .code _ = _
    rw [hblank (.inl rfl), hblank (.inl rfl)]
    exact congrArg (' ' :: ' ' :: ·) ih
  | case7 c rest hnot ih =>
    show blankComments .code _ = _
    rw [hblank (hblankOf c)]
    exact congrArg (blankOf c :: ·) ih

theorem withoutComments_withoutComments (text : List Char) :
    withoutComments (withoutComments text) = withoutComments text :=
  blankComments_blankComments .code text

/-- What looks like the start of a comment in a blanked text stands in a string. -/
theorem modeAfter_ne_code_of_blanked {text before after : List Char}
    (h : withoutComments text = before ++ '/' :: '*' :: after) :
    modeAfter .code before ≠ .code := by
  intro hcode
  have hagain := withoutComments_withoutComments text
  have hslash : NoCommentBetween (withoutComments before) ('/' :: '*' :: after) :=
    fun _ => by simp
  rw [h, withoutComments_append hcode hslash] at hagain
  have hrest := (List.append_inj hagain (blankComments_length .code before)).2
  have hspace : ' ' = '/' := (List.cons.inj hrest).1
  exact absurd hspace (by decide)

/-- Blanking keeps every character where it is or puts a space in its place, so that lines end where
they ended; it leaves no comment, and doing it twice is doing it once. -/
theorem withoutComments_keeps_layout (source : String) :
    let text := source.toList
    (withoutComments text).length = source.length ∧
      (∀ (i : Nat) (c : Char), text[i]? = some c →
        (withoutComments text)[i]? = some c ∨
          c ≠ '\n' ∧ (withoutComments text)[i]? = some ' ') ∧
      (∀ i : Nat, (withoutComments text)[i]? = some '\n' ↔ text[i]? = some '\n') ∧
      (∀ before after, withoutComments text = before ++ '/' :: '*' :: after →
        modeAfter .code before ≠ .code) ∧
      withoutComments (withoutComments text) = withoutComments text := by
  intro text
  refine ⟨?_, fun i c hc => ?_, fun i => getElem?_blankComments_eq_newline_iff,
    fun _ _ => modeAfter_ne_code_of_blanked, withoutComments_withoutComments text⟩
  · rw [withoutComments, blankComments_length, source.length_toList]
  · obtain ⟨d, hd, hblanked⟩ := blanked_of_getElem? .code hc
    rw [withoutComments, hd]
    exact (blanked_iff.1 hblanked).imp (congrArg some) (And.imp_right (congrArg some))

/-- A comment in a string stays, one that is never closed goes to the end, and the quote in it opens
no string. -/
theorem withoutComments_keeps_layout_openComment :
    let text := "a'/*\\'*/'/* \n'b".toList
    withoutComments text = "a'/*\\'*/'   \n  ".toList ∧
      text[13]? = some '\'' ∧
      ((withoutComments text)[13]? = some '\'' ∨
        '\'' ≠ '\n' ∧ (withoutComments text)[13]? = some ' ') ∧
      withoutComments (withoutComments text) = withoutComments text := by
  intro text
  have hquote : text[13]? = some '\'' := by decide
  obtain ⟨-, hkept, -, -, htwice⟩ := withoutComments_keeps_layout "a'/*\\'*/'/* \n'b"
  exact ⟨by decide, hquote, hkept 13 '\'' hquote, htwice⟩

end StyleGauge.Stylesheet
