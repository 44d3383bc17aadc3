import Mathlib.Data.List.TakeWhile
import StyleGauge.Proofs.Selector.Locality
import StyleGauge.Proofs.Stylesheet.Comments
import StyleGauge.Proofs.Stylesheet.Trace

/-!
# What follows a text

Neither blanking comments nor scanning looks ahead by more than one character. A text that ends in
code, and not with a slash that could begin a comment, is blanked alike whatever follows. A scan
goes the same way whatever follows, as long as every read meets its stop within the text, or meets
a closing brace right behind it with nothing left open.
-/

namespace StyleGauge.Stylesheet

open Text (Nesting)

variable {a b cs text more : List Char}

/-! ### Comments -/

/-- Whether no comment begins on the border of two texts. -/
def NoCommentBetween (a b : List Char) : Prop :=
  a.getLast? = some '/' → b.head? ≠ some '*'

theorem NoCommentBetween.of_cons {c : Char} (h : NoCommentBetween (c :: a) b) :
    NoCommentBetween a b := by
  intro ha
  refine h ?_
  rw [List.getLast?_cons, ha]
  rfl

/-- A text that ends in code is blanked alike whatever follows. -/
theorem blankComments_append {mode : Mode} (hmode : mode.IsPossible) (ha : modeAfter mode a = .code)
    (hab : NoCommentBetween (blankComments mode a) b) :
    blankComments mode (a ++ b) = blankComments mode a ++ blankComments .code b := by
  fun_induction blankComments mode a with
  | case1 mode =>
    obtain rfl : mode = .code := by simpa using ha
    rfl
  | case2 rest ih =>
    have hrest := ih trivial ha hab.of_cons.of_cons
    simpa [blankComments] using hrest
  | case3 c rest hnot ih =>
    have hopen : opensComment (c :: (rest ++ b)) = false := by
      rw [← Bool.not_eq_true, opensComment_eq_true_iff]
      rintro ⟨after, h⟩
      injection h with hc hrest
      -- the star stands in the text itself, or right behind its last slash
      cases rest with
      | nil =>
        rw [List.nil_append] at hrest
        exact hab (by simp [hc]) (by simp [hrest])
      | cons d rest =>
        rw [List.cons_append] at hrest
        injection hrest with hd
        exact hnot rest hc (by rw [hd])
    have htakes := takes_code hopen
    rw [htakes.mode_eq rest (List.prefix_append ..)] at ha
    rw [List.cons_append, htakes.text_eq _ List.prefix_rfl,
      ih (isPossible_afterCode c) ha hab.of_cons]
    rfl
  | case4 q c rest ih =>
    have hrest := ih hmode ha hab.of_cons.of_cons
    simpa [blankComments] using hrest
  | case5 q c rest hnot ih =>
    have hnot' : ∀ d more, c = '\\' → rest ++ b = d :: more → False := by
      intro d more hc hrest
      cases rest with
      | nil =>
        -- a backslash at the end leaves the string open
        rw [hc, modeAfter, modeAfter_nil, afterString_backslash hmode] at ha
        · exact Mode.noConfusion ha
        · simp
      | cons e rest => exact hnot e rest hc rfl
    have htakes := takes_string (q := q) hnot'
    rw [htakes.mode_eq rest (List.prefix_append ..)] at ha
    rw [List.cons_append, htakes.text_eq _ List.prefix_rfl,
      ih (isPossible_afterString hmode c) ha hab.of_cons]
    rfl
  | case6 rest ih =>
    have hrest := ih trivial ha hab.of_cons.of_cons
    simpa [blankComments] using hrest
  | case7 c rest hnot ih =>
    have hnot' : ∀ more, c = '*' → rest ++ b = '/' :: more → False := by
      intro more hc hrest
      cases rest with
      | nil =>
        rw [hc, modeAfter, modeAfter_nil] at ha
        · exact Mode.noConfusion ha
        · simp
      | cons d rest =>
        rw [List.cons_append] at hrest
        injection hrest with hd
        exact hnot rest hc (by rw [hd])
    have htakes := takes_comment hnot'
    rw [htakes.mode_eq rest (List.prefix_append ..)] at ha
    rw [List.cons_append, htakes.text_eq _ List.prefix_rfl, ih trivial ha hab.of_cons]
    rfl

theorem withoutComments_append (ha : modeAfter .code a = .code)
    (hab : NoCommentBetween (withoutComments a) b) :
    withoutComments (a ++ b) = withoutComments a ++ withoutComments b :=
  blankComments_append isPossible_code ha hab

/-- A text in which no comment begins stays as it is. -/
theorem blankComments_eq_self {mode : Mode} (hmode : mode ≠ .comment) (h : ¬ ['/', '*'] <:+: cs) :
    blankComments mode cs = cs := by
  have hbehind (before rest : List Char) (hrest : ¬ ['/', '*'] <:+: before ++ rest) :
      ¬ ['/', '*'] <:+: rest := fun hin => hrest (hin.trans (List.infix_append_right ..))
  fun_induction blankComments mode cs with
  | case1 mode => rfl
  | case2 rest ih => exact absurd ⟨[], rest, rfl⟩ h
  | case3 c rest hnot ih => rw [ih (afterCode_ne_comment c) (hbehind [c] rest h)]
  | case4 q c rest ih => rw [ih hmode (hbehind ['\\', c] rest h)]
  | case5 q c rest hnot ih => rw [ih (afterString_ne_comment q c) (hbehind [c] rest h)]
  | case6 rest ih => exact absurd rfl hmode
  | case7 c rest hnot ih => exact absurd rfl hmode

theorem withoutComments_eq_self (h : ¬ ['/', '*'] <:+: cs) : withoutComments cs = cs :=
  blankComments_eq_self (by decide) h

/-- Blanking leaves the ends of lines where they are. -/
theorem lineEnds_blankComments (mode : Mode) (cs : List Char) :
    (blankComments mode cs).map (· == '\n') = cs.map (· == '\n') := by
  have hblank (c : Char) : (blankOf c == '\n') = (c == '\n') := by
    unfold blankOf
    split_ifs with hc <;> simp [hc]
  fun_induction blankComments mode cs <;> simp_all

/-! ### Reads -/

/-- A read that meets a stop does not change if more text follows. -/
theorem readUntil_append_of_stopped {state : Nesting} (h : (readUntil state cs).2 ≠ [])
    (more : List Char) :
    readUntil state (cs ++ more) = ((readUntil state cs).1, (readUntil state cs).2 ++ more) := by
  induction cs generalizing state with
  | nil => exact absurd rfl h
  | cons c cs ih =>
    rw [readUntil] at h
    rw [List.cons_append, readUntil, readUntil]
    split_ifs at h ⊢ with hstop
    · rfl
    · rw [ih h]

/-- A read ends with one of the stops. -/
theorem mem_stops_of_readUntil {state : Nesting} {c : Char} {rest : List Char}
    (h : (readUntil state cs).2 = c :: rest) : c ∈ stops := by
  induction cs generalizing state with
  | nil => exact absurd h (by simp [readUntil])
  | cons d cs ih =>
    rw [readUntil] at h
    split_ifs at h with hstop
    · injection h with hd
      rw [← hd]
      simpa using (Bool.and_eq_true_iff.1 hstop).2
    · exact ih h

/-- Where a text is read alike whether or not it is followed by `more`: the read meets a stop in it,
or goes to its end, leaves nothing open and finds a closing brace there. -/
def ReadsAlike (text more : List Char) : Prop :=
  (readUntil .start text).2 ≠ [] ∨
    (Nesting.start.advanceAll .oneLine text).isTop = true ∧ ∀ c ∈ more.head?, c = '\x7d'

theorem ReadsAlike.readUntil_eq (h : ReadsAlike text more) :
    readUntil .start (text ++ more) =
      ((readUntil .start text).1, (readUntil .start text).2 ++ more) := by
  rcases h with hstop | ⟨htop, hmore⟩
  · exact readUntil_append_of_stopped hstop more
  · by_cases hstop : (readUntil .start text).2 = []
    · have hread : readUntil .start more = ([], more) := by
        cases more with
        | nil => rfl
        | cons c more =>
          obtain rfl := hmore c rfl
          rfl
      have htext := readUntil_append .start text
      rw [hstop, List.append_nil] at htext
      rw [readUntil_append_of_unstopped hstop, Nesting.eq_start_of_isTop htop, hread, hstop, htext,
        List.append_nil, List.nil_append]
    · exact readUntil_append_of_stopped hstop more

/-- What follows a read that goes to the end neither opens a block nor ends a statement. -/
theorem ReadsAlike.head_ne (h : ReadsAlike text more) (hend : (readUntil .start text).2 = []) :
    ∀ c ∈ more.head?, c = '\x7d' := by
  rcases h with hstop | ⟨-, hmore⟩
  · exact absurd hend hstop
  · exact hmore

/-! ### Scans -/

namespace Scan

/-- The scan with more text behind what is left. -/
def followedBy (s : Scan) (more : List Char) : Scan :=
  { s with rest := s.rest ++ more }

variable {s t : Scan}

theorem skipSeparators_followedBy (hs : s.skipSeparators.rest ≠ []) (more : List Char) :
    (s.followedBy more).skipSeparators = s.skipSeparators.followedBy more := by
  obtain ⟨c, cs, hcs⟩ := List.exists_cons_of_ne_nil hs
  have hdrop : s.rest.dropWhile isSeparator = c :: cs := hcs
  obtain ⟨hdrop', htake⟩ := Selector.span_append hdrop more
  simp [skipSeparators, followedBy, moveOver, hdrop, hdrop', htake]

theorem followedBy_addDeclaration (s : Scan) (text more : List Char) :
    (s.addDeclaration text).followedBy more = (s.followedBy more).addDeclaration text := by
  obtain ⟨outer, nodes, place, rest⟩ := s
  cases outer with
  | nil => cases hparse : Declaration.parse? text <;> simp [addDeclaration, followedBy, hparse]
  | cons b outer =>
    cases hparse : Declaration.parse? text <;> simp [addDeclaration, followedBy, hparse, add]

/-- What a read is followed by matters to nothing but the read itself. -/
theorem followedBy_afterText {taken after : List Char} {head : Head} {complete : Scan → Scan}
    (hafter : after = [] → ∀ c ∈ more.head?, c = '\x7d')
    (hcomplete : (complete s).followedBy more = complete (s.followedBy more)) :
    (s.afterText taken after head complete).followedBy more =
      (s.followedBy more).afterText taken (after ++ more) head complete := by
  have hmoved (taken rest : List Char) : ((complete s).moveOver taken rest).followedBy more =
      (complete (s.followedBy more)).moveOver taken (rest ++ more) := by
    rw [← hcomplete]
    rfl
  cases after with
  | nil =>
    rw [List.nil_append]
    cases more with
    | nil => exact hmoved taken []
    | cons c more =>
      obtain rfl := hafter rfl c rfl
      exact hmoved taken []
  | cons c after =>
    by_cases hopen : c = '\x7b'
    · rw [hopen]
      rfl
    · by_cases hsemi : c = ';'
      · rw [hsemi]
        exact hmoved (taken ++ [';']) after
      · have hplain (s : Scan) (after : List Char) :
            s.afterText taken (c :: after) head complete =
              (complete s).moveOver taken (c :: after) := by
          unfold afterText
          split
          · rename_i heq
            exact absurd (List.cons.inj heq).1 hopen
          · rename_i heq
            exact absurd (List.cons.inj heq).1 hsemi
          · rfl
        rw [List.cons_append, hplain, hplain]
        exact hmoved taken (c :: after)

theorem followedBy_closeBlock (s : Scan) (more : List Char) :
    s.closeBlock.followedBy more = (s.followedBy more).closeBlock := by
  obtain ⟨outer, nodes, place, rest⟩ := s
  cases outer with
  | nil => rfl
  | cons b outer => rfl

theorem followedBy_readItem (h : ReadsAlike s.rest more) :
    s.readItem.followedBy more = (s.followedBy more).readItem := by
  have hread : readUntil .start (s.followedBy more).rest =
      ((readUntil .start s.rest).1, (readUntil .start s.rest).2 ++ more) := h.readUntil_eq
  rw [readItem, readItem, hread]
  exact followedBy_afterText h.head_ne (followedBy_addDeclaration ..)

/-- A name is read alike if what stands behind it is. -/
theorem span_atName_append (h : ReadsAlike (text.dropWhile isAtNameChar) more) :
    (text ++ more).dropWhile isAtNameChar = text.dropWhile isAtNameChar ++ more ∧
      (text ++ more).takeWhile isAtNameChar = text.takeWhile isAtNameChar := by
  cases hdrop : text.dropWhile isAtNameChar with
  | cons c rest => exact Selector.span_append hdrop more
  | nil =>
    -- the name goes to the end of the text, and a brace does not go on with it
    rw [hdrop] at h
    have hmore : more.takeWhile isAtNameChar = [] ∧ more.dropWhile isAtNameChar = more := by
      cases more with
      | nil => exact ⟨rfl, rfl⟩
      | cons c more =>
        obtain rfl := h.head_ne rfl c rfl
        exact ⟨rfl, rfl⟩
    have hname : ∀ c ∈ text, isAtNameChar c = true := List.dropWhile_eq_nil_iff.1 hdrop
    rw [List.dropWhile_append_of_pos hname, List.takeWhile_append_of_pos hname, hmore.1, hmore.2,
      List.takeWhile_eq_self_iff.2 hname, List.append_nil, List.nil_append]
    exact ⟨rfl, rfl⟩

theorem followedBy_readAtRule (s : Scan)
    (h : ReadsAlike (text.dropWhile isAtNameChar) more) :
    (s.readAtRule text).followedBy more = (s.followedBy more).readAtRule (text ++ more) := by
  obtain ⟨hdrop, htake⟩ := span_atName_append h
  rw [readAtRule, readAtRule, hdrop, htake, h.readUntil_eq]
  exact followedBy_afterText h.head_ne rfl

/-- A step is the same whatever follows, if what it reads is read alike. -/
theorem Step.followedBy (hst : s.Step t) (hread : ∀ text ∈ s.readText?, ReadsAlike text more) :
    (s.followedBy more).Step (t.followedBy more) := by
  cases hst with
  | @close rest hs =>
    have hne : s.skipSeparators.rest ≠ [] := by simp [hs]
    have hskip := skipSeparators_followedBy hne more
    have hs' : (s.followedBy more).skipSeparators.rest = '\x7d' :: (rest ++ more) := by
      rw [hskip, Scan.followedBy, hs]
      rfl
    have hstep := Step.close hs'
    rw [hskip, ← followedBy_closeBlock] at hstep
    exact hstep
  | @atRule text hs =>
    have hne : s.skipSeparators.rest ≠ [] := by simp [hs]
    have hskip := skipSeparators_followedBy hne more
    have hs' : (s.followedBy more).skipSeparators.rest = '@' :: (text ++ more) := by
      rw [hskip, Scan.followedBy, hs]
      rfl
    have hstep := Step.atRule hs'
    rw [hskip, ← followedBy_readAtRule _ (hread _ (readText?_of_atRule hs))] at hstep
    exact hstep
  | @item c cs hs hbrace hat =>
    have hne : s.skipSeparators.rest ≠ [] := by simp [hs]
    have hskip := skipSeparators_followedBy hne more
    have hs' : (s.followedBy more).skipSeparators.rest = c :: (cs ++ more) := by
      rw [hskip, Scan.followedBy, hs]
      rfl
    have hstep := Step.item hs' hbrace hat
    rw [hskip, ← followedBy_readItem (hread _ (readText?_of_item hs hbrace hat))] at hstep
    exact hstep

/-- A scan goes the same way to its last state, whatever follows. -/
theorem run_followedBy (h : ∀ text ∈ s.reads, ReadsAlike text more) :
    (s.followedBy more).run = (s.last.followedBy more).run := by
  fun_induction last s with
  | case1 s hst => rfl
  | case2 s t hst hlt ih =>
    obtain ⟨hread, hreads⟩ := (forall_mem_reads hst).1 h
    rw [run_of_step? ((step_of_step? hst).followedBy hread).step?, ih hreads]

theorem run_eq_of_skipSeparators_eq (h : s.skipSeparators = t.skipSeparators) :
    s.run = t.run := by
  have hstep : t.step? = s.step? := by rw [step?, step?, h]
  cases hs : s.step? with
  | some u =>
    rw [hs] at hstep
    rw [run_of_step? hs, run_of_step? hstep]
  | none =>
    rw [hs] at hstep
    rw [run_of_step?_eq_none hs, run_of_step?_eq_none hstep]
    show s.skipSeparators.finish = t.skipSeparators.finish
    rw [h]

/-- At the end of a scan only separators are left, and what follows is read from behind them. -/
theorem run_followedBy_last (s : Scan) (more : List Char) :
    (s.last.followedBy more).run = (s.last.moveOver s.last.rest more).run := by
  have hblank : ∀ c ∈ s.last.rest, isSeparator c = true :=
    List.dropWhile_eq_nil_iff.1 (step?_eq_none_iff.1 (step?_last s))
  refine run_eq_of_skipSeparators_eq ?_
  simp only [skipSeparators, followedBy, moveOver, List.takeWhile_append_of_pos hblank,
    List.dropWhile_append_of_pos hblank, Text.Position.afterAll_append]

/-- A scan whose reads are not changed by what follows comes to the start of that with all it has
read. -/
theorem run_followedBy_eq (h : ∀ text ∈ s.reads, ReadsAlike text more) :
    (s.followedBy more).run = (s.last.moveOver s.last.rest more).run :=
  (run_followedBy h).trans (run_followedBy_last s more)

end Scan

end StyleGauge.Stylesheet
