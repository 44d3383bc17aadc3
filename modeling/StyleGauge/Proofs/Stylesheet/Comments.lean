import StyleGauge.Proofs.Listing
import StyleGauge.Proofs.Stylesheet.Pieces

/-!
# Comments and strings

Blanking out comments and reading a text each keep track of strings. A read lets a backslash escape
the next character anywhere, blanking only in a string, so that after an escaped quote outside of
strings one of them takes for a string what the other takes for code.

`blankedByReading` blanks out the comments that begin outside the strings of a read. The comments
that are blanked out are these exactly if both sides agree wherever a comment may begin, and they
agree if no quote is escaped outside of strings. Every selector, property and value is cut out of
the text without comments, so that none of them then holds text of a comment.
-/

namespace StyleGauge.Stylesheet

open Text (Nesting)

/-! ### Comments by the strings of a read -/

/-- Whether a comment begins at the start of a text. -/
def opensComment : List Char → Bool
  | '/' :: '*' :: _ => true
  | _ => false

/-- Which characters of a text belong to comments that begin outside of earlier comments and outside
of strings; an open comment goes on to its end or to the end of the text. `state` is that of a read
that has come to this place with the comments before it blanked out. -/
def commentMask (state : Nesting) : Bool → List Char → List Bool
  | _, [] => []
  | false, '/' :: '*' :: rest =>
    if state.quote = none then
      true :: true :: commentMask (state.advanceAll .oneLine [' ', ' ']) true rest
    else false :: commentMask (state.advance .oneLine '/') false ('*' :: rest)
  | false, c :: rest => false :: commentMask (state.advance .oneLine c) false rest
  | true, '*' :: '/' :: rest =>
    true :: true :: commentMask (state.advanceAll .oneLine [' ', ' ']) false rest
  | true, c :: rest => true :: commentMask (state.advance .oneLine (blankOf c)) true rest

/-- The text with its marked characters blanked out. -/
def blankWhere (mask : List Bool) (cs : List Char) : List Char :=
  List.zipWith (fun marked c => if marked then blankOf c else c) mask cs

/-- What is left of a text from some state on. -/
def blankedFrom (state : Nesting) (inComment : Bool) (cs : List Char) : List Char :=
  blankWhere (commentMask state inComment cs) cs

/-- The text without the comments that begin outside of the strings of a read. -/
def blankedByReading (text : List Char) : List Char :=
  blankedFrom .start false text

/-- Where a comment may begin, outside of the comments before it, both sides agree whether a string
is open: blanking comments by its mode, a read by its state behind what was blanked. -/
def SameStrings (mode : Mode) (state : Nesting) (cs : List Char) : Prop :=
  ∀ before after, cs = before ++ '/' :: '*' :: after → modeAfter mode before ≠ .comment →
    (modeAfter mode before = .code ↔
      (state.advanceAll .oneLine (blankComments mode before)).quote = none)

/-- No quote is escaped outside of strings and comments. -/
def NoEscapedQuote (mode : Mode) (state : Nesting) (cs : List Char) : Prop :=
  ∀ before quote after, cs = before ++ quote :: after → quote = '"' ∨ quote = '\'' →
    modeAfter mode before = .code →
    (state.advanceAll .oneLine (blankComments mode before)).escaped = false

theorem noEscapedQuote_iff {mode : Mode} {state : Nesting} {cs : List Char} :
    NoEscapedQuote mode state cs ↔
      ∀ k (h : k < cs.length), cs[k] = '"' ∨ cs[k] = '\'' → modeAfter mode (cs.take k) = .code →
        (state.advanceAll .oneLine (blankComments mode (cs.take k))).escaped = false := by
  rw [← Listing.forall_append_cons_iff (p := fun before quote =>
    quote = '"' ∨ quote = '\'' → modeAfter mode before = .code →
      (state.advanceAll .oneLine (blankComments mode before)).escaped = false)]
  rfl

instance (mode : Mode) (state : Nesting) (cs : List Char) :
    Decidable (NoEscapedQuote mode state cs) :=
  decidable_of_iff' _ noEscapedQuote_iff

theorem opensComment_eq_true_iff {cs : List Char} :
    opensComment cs = true ↔ ∃ after, cs = '/' :: '*' :: after := by
  unfold opensComment
  split <;> simp_all

/-! ### Blanking, character by character -/

section Equations

variable {c q : Char} {s : Nesting} {rest : List Char}

@[simp] theorem blankedFrom_nil (inComment : Bool) : blankedFrom s inComment [] = [] := by
  cases inComment <;> rfl

theorem blankedFrom_cons (h : opensComment (c :: rest) = true → s.quote ≠ none) :
    blankedFrom s false (c :: rest) = c :: blankedFrom (s.advance .oneLine c) false rest := by
  unfold blankedFrom
  rw [commentMask.eq_def]
  split <;> simp_all [blankWhere, opensComment]

theorem blankedFrom_open (h : s.quote = none) :
    blankedFrom s false ('/' :: '*' :: rest) =
      ' ' :: ' ' :: blankedFrom (s.advanceAll .oneLine [' ', ' ']) true rest := by
  simp [blankedFrom, commentMask, h, blankWhere, blankOf]

/-- A character stays as it is exactly if no comment begins with it outside of strings. -/
theorem cons_eq_blankedFrom_iff {text : List Char} :
    c :: text = blankedFrom s false (c :: rest) ↔
      (opensComment (c :: rest) = true → s.quote ≠ none) ∧
        text = blankedFrom (s.advance .oneLine c) false rest := by
  by_cases h : opensComment (c :: rest) = true → s.quote ≠ none
  · rw [blankedFrom_cons h]
    exact ⟨fun heq => ⟨h, (List.cons.inj heq).2⟩, fun heq => by rw [heq.2]⟩
  · have hopen : opensComment (c :: rest) = true := by
      by_contra hopen
      exact h fun hyes => absurd hyes hopen
    have hquote : s.quote = none := by
      by_contra hquote
      exact h fun _ => hquote
    obtain ⟨after, hafter⟩ := opensComment_eq_true_iff.1 hopen
    injection hafter with hc hrest
    subst hc hrest
    simp [blankedFrom_open hquote, hopen, hquote]

theorem blankedFrom_close :
    blankedFrom s true ('*' :: '/' :: rest) =
      ' ' :: ' ' :: blankedFrom (s.advanceAll .oneLine [' ', ' ']) false rest := by
  simp [blankedFrom, commentMask, blankWhere, blankOf]

theorem blankedFrom_comment (h : ∀ more, c = '*' → rest = '/' :: more → False) :
    blankedFrom s true (c :: rest) =
      blankOf c :: blankedFrom (s.advance .oneLine (blankOf c)) true rest := by
  unfold blankedFrom
  rw [commentMask.eq_def]
  split <;> simp_all [blankWhere]

end Equations

/-! ### One step of blanking -/

section Steps

variable {mode mode' : Mode} {c d x y : Char} {s : Nesting} {rest : List Char}

@[simp] theorem blankComments_nil (mode : Mode) : blankComments mode [] = [] := by
  cases mode <;> rfl

@[simp] theorem modeAfter_nil (mode : Mode) : modeAfter mode [] = mode := by
  cases mode <;> rfl

/-- Blanking goes over `c`, whatever follows it in `rest`, writes `x` and is in `mode'` then. -/
structure Takes (mode : Mode) (c x : Char) (mode' : Mode) (rest : List Char) : Prop where
  mode_eq : ∀ before, before <+: rest → modeAfter mode (c :: before) = modeAfter mode' before
  text_eq : ∀ before, before <+: rest →
    blankComments mode (c :: before) = x :: blankComments mode' before

/-- Blanking goes over `c` and `d` at once, writes `x` and `y` and is in `mode'` then. -/
structure TakesPair (mode : Mode) (c d x y : Char) (mode' : Mode) : Prop where
  mode_eq : ∀ before, modeAfter mode (c :: d :: before) = modeAfter mode' before
  text_eq : ∀ before, blankComments mode (c :: d :: before) = x :: y :: blankComments mode' before

theorem takes_code (h : opensComment (c :: rest) = false) :
    Takes .code c c (.afterCode c) rest := by
  have hnot : ∀ before, before <+: rest → ∀ more, c = '/' → before = '*' :: more → False := by
    rintro _ ⟨after, rfl⟩ more rfl rfl
    simp [opensComment] at h
  exact ⟨fun before hb => modeAfter.eq_3 c before (hnot before hb),
    fun before hb => blankComments.eq_3 c before (hnot before hb)⟩

theorem takes_string {q : Char} (h : ∀ d more, c = '\\' → rest = d :: more → False) :
    Takes (.string q) c c (.afterString q c) rest := by
  have hnot : ∀ before, before <+: rest → ∀ d more, c = '\\' → before = d :: more → False := by
    rintro _ ⟨after, rfl⟩ d more rfl rfl
    exact h d (more ++ after) rfl rfl
  exact ⟨fun before hb => modeAfter.eq_5 q c before (hnot before hb),
    fun before hb => blankComments.eq_5 q c before (hnot before hb)⟩

theorem takes_comment (h : ∀ more, c = '*' → rest = '/' :: more → False) :
    Takes .comment c (blankOf c) .comment rest := by
  have hnot : ∀ before, before <+: rest → ∀ more, c = '*' → before = '/' :: more → False := by
    rintro _ ⟨after, rfl⟩ more rfl rfl
    exact h (more ++ after) rfl rfl
  exact ⟨fun before hb => modeAfter.eq_7 c before (hnot before hb),
    fun before hb => blankComments.eq_7 c before (hnot before hb)⟩

theorem takesPair_open : TakesPair .code '/' '*' ' ' ' ' .comment :=
  ⟨fun _ => rfl, fun _ => rfl⟩

theorem takesPair_escape (q d : Char) :
    TakesPair (.string q) '\\' d '\\' d (.string q) :=
  ⟨fun _ => rfl, fun _ => rfl⟩

theorem takesPair_close : TakesPair .comment '*' '/' ' ' ' ' .code :=
  ⟨fun _ => rfl, fun _ => rfl⟩

/-! ### Agreement, step by step -/

/-- Both sides agree from some place on if they agree there and from the next place on. -/
theorem Takes.sameStrings_iff (h : Takes mode c x mode' rest) :
    SameStrings mode s (c :: rest) ↔
      (opensComment (c :: rest) = true → mode ≠ .comment → (mode = .code ↔ s.quote = none)) ∧
        SameStrings mode' (s.advance .oneLine x) rest := by
  constructor
  · intro hsame
    refine ⟨fun hopen hmode => ?_, fun before after heq hmode => ?_⟩
    · obtain ⟨after, hafter⟩ := opensComment_eq_true_iff.1 hopen
      simpa using hsame [] after hafter (by simpa using hmode)
    · have hb : before <+: rest := ⟨_, heq.symm⟩
      have := hsame (c :: before) after (by rw [heq]; rfl)
      rw [h.mode_eq before hb, h.text_eq before hb] at this
      exact this hmode
  · rintro ⟨hhere, hrest⟩ before after heq hmode
    rcases List.cons_eq_append_iff.1 heq with ⟨rfl, hafter⟩ | ⟨before, rfl, hafter⟩
    · simpa using hhere (opensComment_eq_true_iff.2 ⟨after, hafter.symm⟩) (by simpa using hmode)
    · have hb : before <+: rest := ⟨_, hafter.symm⟩
      rw [h.mode_eq before hb] at hmode ⊢
      rw [h.text_eq before hb]
      exact hrest before after hafter hmode

theorem TakesPair.sameStrings_iff (h : TakesPair mode c d x y mode')
    (hx : opensComment (d :: rest) = true → blankComments mode [c] = [x]) :
    SameStrings mode s (c :: d :: rest) ↔
      (opensComment (c :: d :: rest) = true → mode ≠ .comment →
          (mode = .code ↔ s.quote = none)) ∧
        (opensComment (d :: rest) = true → modeAfter mode [c] ≠ .comment →
          (modeAfter mode [c] = .code ↔ (s.advance .oneLine x).quote = none)) ∧
        SameStrings mode' (s.advanceAll .oneLine [x, y]) rest := by
  constructor
  · intro hsame
    refine ⟨fun hopen hmode => ?_, fun hopen hmode => ?_, fun before after heq hmode => ?_⟩
    · obtain ⟨after, hafter⟩ := opensComment_eq_true_iff.1 hopen
      simpa using hsame [] after hafter (by simpa using hmode)
    · obtain ⟨after, hafter⟩ := opensComment_eq_true_iff.1 hopen
      simpa [hx hopen] using hsame [c] after (by rw [hafter]; rfl) hmode
    · have := hsame (c :: d :: before) after (by rw [heq]; rfl)
      rw [h.mode_eq, h.text_eq] at this
      exact this hmode
  · rintro ⟨hhere, hnext, hrest⟩ before after heq hmode
    rcases List.cons_eq_append_iff.1 heq with ⟨rfl, hafter⟩ | ⟨before, rfl, hafter⟩
    · simpa using hhere (opensComment_eq_true_iff.2 ⟨after, hafter.symm⟩) (by simpa using hmode)
    · rcases List.cons_eq_append_iff.1 hafter with ⟨rfl, htail⟩ | ⟨before, rfl, htail⟩
      · have hopen := opensComment_eq_true_iff.2 ⟨after, htail.symm⟩
        simpa [hx hopen] using hnext hopen hmode
      · rw [h.mode_eq] at hmode ⊢
        rw [h.text_eq]
        exact hrest before after htail hmode

theorem Takes.noEscapedQuote (h : Takes mode c x mode' rest)
    (hno : NoEscapedQuote mode s (c :: rest)) :
    NoEscapedQuote mode' (s.advance .oneLine x) rest := by
  intro before quote after heq hquote hmode
  have hb : before <+: rest := ⟨_, heq.symm⟩
  have := hno (c :: before) quote after (by rw [heq]; rfl) hquote
  rw [h.mode_eq before hb, h.text_eq before hb] at this
  exact this hmode

theorem TakesPair.noEscapedQuote (h : TakesPair mode c d x y mode')
    (hno : NoEscapedQuote mode s (c :: d :: rest)) :
    NoEscapedQuote mode' (s.advanceAll .oneLine [x, y]) rest := by
  intro before quote after heq hquote hmode
  have := hno (c :: d :: before) quote after (by rw [heq]; rfl) hquote
  rw [h.mode_eq, h.text_eq] at this
  exact this hmode

end Steps

/-! ### Agreement is what the blanked text needs -/

/-- A mode whose string, if it is in one, is opened by a quote. -/
def Mode.IsPossible : Mode → Prop
  | .string q => q = '"' ∨ q = '\''
  | _ => True

theorem isPossible_code : Mode.code.IsPossible := trivial

theorem isPossible_afterCode (c : Char) : (Mode.afterCode c).IsPossible := by
  unfold Mode.afterCode
  split_ifs with h
  · exact h
  · trivial

theorem isPossible_afterString {q : Char} (hq : (Mode.string q).IsPossible) (c : Char) :
    (Mode.afterString q c).IsPossible := by
  unfold Mode.afterString
  split_ifs
  · trivial
  · exact hq

theorem afterString_backslash {q : Char} (hq : (Mode.string q).IsPossible) :
    Mode.afterString q '\\' = .string q := by
  rcases hq with rfl | rfl <;> decide

theorem afterCode_ne_comment (c : Char) : Mode.afterCode c ≠ .comment := by
  unfold Mode.afterCode
  split_ifs <;> simp

theorem afterString_ne_comment (q c : Char) : Mode.afterString q c ≠ .comment := by
  unfold Mode.afterString
  split_ifs <;> simp

/-- The comments that are blanked out are those that begin outside the strings of a read exactly if
both sides agree about strings wherever a comment may begin. -/
theorem blankComments_eq_blankedFrom_iff {mode : Mode} (hmode : mode.IsPossible) (s : Nesting)
    (cs : List Char) :
    blankComments mode cs = blankedFrom s (decide (mode = .comment)) cs ↔
      SameStrings mode s cs := by
  fun_induction blankComments mode cs generalizing s with
  | case1 mode => simp [SameStrings]
  | case2 rest ih =>
    rw [takesPair_open.sameStrings_iff (by simp [opensComment])]
    by_cases hs : s.quote = none
    · have := ih trivial (s.advanceAll .oneLine [' ', ' '])
      simpa [blankedFrom_open hs, hs, opensComment] using this
    · have hkeep : blankedFrom s false ('/' :: '*' :: rest) =
          '/' :: blankedFrom (s.advance .oneLine '/') false ('*' :: rest) :=
        blankedFrom_cons fun _ => hs
      simp [hkeep, hs, opensComment]
  | case3 c rest hnot ih =>
    have hopen : opensComment (c :: rest) = false := by
      rw [← Bool.not_eq_true, opensComment_eq_true_iff]
      rintro ⟨after, h⟩
      injection h with hc hrest
      exact hnot after hc hrest
    have := ih (isPossible_afterCode c) (s.advance .oneLine c)
    rw [(takes_code hopen).sameStrings_iff, ← this]
    simp [blankedFrom_cons, hopen, afterCode_ne_comment]
  | case4 q c rest ih =>
    have hback : modeAfter (.string q) ['\\'] = .string q := afterString_backslash hmode
    have := ih hmode (s.advanceAll .oneLine ['\\', c])
    rw [(takesPair_escape q c).sameStrings_iff fun _ => rfl, ← this, hback]
    simp [cons_eq_blankedFrom_iff, opensComment]
  | case5 q c rest hnot ih =>
    have := ih (isPossible_afterString hmode c) (s.advance .oneLine c)
    rw [(takes_string hnot).sameStrings_iff, ← this]
    simp [cons_eq_blankedFrom_iff, afterString_ne_comment]
  | case6 rest ih =>
    have := ih trivial (s.advanceAll .oneLine [' ', ' '])
    rw [takesPair_close.sameStrings_iff fun _ => rfl, ← this]
    simp [blankedFrom_close, modeAfter]
  | case7 c rest hnot ih =>
    have := ih trivial (s.advance .oneLine (blankOf c))
    rw [(takes_comment hnot).sameStrings_iff, ← this]
    simp [blankedFrom_comment hnot]

/-! ### Agreement where no quote is escaped -/

/-- What a read knows of strings where blanking is in a mode, if both agree. -/
def Mode.Matches : Mode → Nesting → Prop
  | .code, s => s.quote = none
  | .string q, s => s.quote = some q ∧ s.escaped = false
  | .comment, s => s.quote = none ∧ s.escaped = false

section Matches

variable {s : Nesting} {c q : Char}

theorem matches_afterCode (hs : Mode.code.Matches s)
    (hc : c = '"' ∨ c = '\'' → s.escaped = false) :
    (Mode.afterCode c).Matches (s.advance .oneLine c) := by
  have hquote : s.quote = none := hs
  unfold Mode.afterCode Nesting.advance
  split_ifs <;> simp_all [Mode.Matches]

theorem matches_afterString (hs : (Mode.string q).Matches s) (hc : c ≠ '\\') :
    (Mode.afterString q c).Matches (s.advance .oneLine c) := by
  obtain ⟨hquote, hescaped⟩ := hs
  unfold Mode.afterString Nesting.advance
  split_ifs <;> simp_all [Mode.Matches]

theorem matches_escape (hs : (Mode.string q).Matches s) :
    (Mode.string q).Matches (s.advanceAll .oneLine ['\\', c]) := by
  obtain ⟨hquote, hescaped⟩ := hs
  simp [Mode.Matches, Nesting.advance, hquote, hescaped]

theorem matches_blankOf (hs : Mode.comment.Matches s) :
    Mode.comment.Matches (s.advance .oneLine (blankOf c)) := by
  obtain ⟨hquote, hescaped⟩ := hs
  unfold blankOf Nesting.advance
  split_ifs <;> simp_all [Mode.Matches]

theorem matches_blanks (hs : s.quote = none) :
    Mode.comment.Matches (s.advanceAll .oneLine [' ', ' ']) := by
  cases hescaped : s.escaped <;> simp [Mode.Matches, Nesting.advance, hs, hescaped]

end Matches

theorem matches_start : Mode.code.Matches .start := rfl

/-- A text in which no quote is escaped outside of strings gives no occasion to disagree. -/
theorem sameStrings_of_noEscapedQuote {mode : Mode} (hmode : mode.IsPossible) {s : Nesting}
    (hs : mode.Matches s) {cs : List Char} (hno : NoEscapedQuote mode s cs) :
    SameStrings mode s cs := by
  fun_induction blankComments mode cs generalizing s with
  | case1 mode => simp [SameStrings]
  | case2 rest ih =>
    have hquote : s.quote = none := hs
    rw [takesPair_open.sameStrings_iff (by simp [opensComment])]
    refine ⟨fun _ _ => by simp [hquote], by simp [opensComment], ?_⟩
    exact ih trivial (matches_blanks hs) (takesPair_open.noEscapedQuote hno)
  | case3 c rest hnot ih =>
    have hopen : opensComment (c :: rest) = false := by
      rw [← Bool.not_eq_true, opensComment_eq_true_iff]
      rintro ⟨after, h⟩
      injection h with hc hrest
      exact hnot after hc hrest
    have hescaped : c = '"' ∨ c = '\'' → s.escaped = false := fun hc =>
      hno [] c rest rfl hc (by simp)
    rw [(takes_code hopen).sameStrings_iff]
    refine ⟨by simp [hopen], ?_⟩
    exact ih (isPossible_afterCode c) (matches_afterCode hs hescaped)
      ((takes_code hopen).noEscapedQuote hno)
  | case4 q c rest ih =>
    have hback : modeAfter (.string q) ['\\'] = .string q := afterString_backslash hmode
    obtain ⟨hquote, hescaped⟩ := id hs
    rw [(takesPair_escape q c).sameStrings_iff fun _ => rfl, hback]
    refine ⟨by simp [hquote], by simp [Nesting.advance, hquote, hescaped], ?_⟩
    exact ih hmode (matches_escape hs) ((takesPair_escape q c).noEscapedQuote hno)
  | case5 q c rest hnot ih =>
    have hquote : s.quote = some q := hs.1
    rw [(takes_string hnot).sameStrings_iff]
    refine ⟨by simp [hquote], ?_⟩
    by_cases hc : c = '\\'
    · -- a backslash that escapes nothing is the last character
      have hrest : rest = [] := by
        cases rest with
        | nil => rfl
        | cons d more => exact absurd rfl (hnot d more hc)
      simp [hrest, SameStrings]
    · exact ih (isPossible_afterString hmode c) (matches_afterString hs hc)
        ((takes_string hnot).noEscapedQuote hno)
  | case6 rest ih =>
    rw [takesPair_close.sameStrings_iff fun _ => rfl]
    refine ⟨by simp, by simp [modeAfter], ?_⟩
    exact ih trivial (matches_blanks hs.1).1 (takesPair_close.noEscapedQuote hno)
  | case7 c rest hnot ih =>
    rw [(takes_comment hnot).sameStrings_iff]
    refine ⟨by simp, ?_⟩
    exact ih trivial (matches_blankOf hs) ((takes_comment hnot).noEscapedQuote hno)

/-! ### Texts -/

theorem withoutComments_eq_iff (text : List Char) :
    withoutComments text = blankedByReading text ↔ SameStrings .code .start text :=
  blankComments_eq_blankedFrom_iff isPossible_code .start text

/-- The comments that are blanked out are those that begin outside the strings of a read exactly if
blanking and reading agree about strings wherever a comment may begin. They do if no quote is
escaped outside of strings, and where they do, no selector, property or value holds text of a
comment. -/
theorem comments_blanked_iff_sameStrings (source file : String) :
    (withoutComments source.toList = blankedByReading source.toList ↔
        SameStrings .code .start source.toList) ∧
      (NoEscapedQuote .code .start source.toList → SameStrings .code .start source.toList) ∧
      (SameStrings .code .start source.toList → ∀ r ∈ (ofText source file).rules, ∀ t ∈ r.texts,
        t.toList <:+: blankedByReading source.toList) := by
  refine ⟨withoutComments_eq_iff _, sameStrings_of_noEscapedQuote isPossible_code matches_start, ?_⟩
  intro hsame r hr t ht
  rw [← (withoutComments_eq_iff _).2 hsame]
  exact texts_isInfix source file r hr t ht

/-- An escaped quote and the opening of a comment in a string, and a quote in a comment. -/
theorem comments_blanked_iff_sameStrings_quotedQuote :
    NoEscapedQuote .code .start "a[b=\"\\\"/*\"]/*'*/\x7bc:d\x7d".toList ∧
      withoutComments "a[b=\"\\\"/*\"]/*'*/\x7bc:d\x7d".toList =
        blankedByReading "a[b=\"\\\"/*\"]/*'*/\x7bc:d\x7d".toList ∧
      blankedByReading "a[b=\"\\\"/*\"]/*'*/\x7bc:d\x7d".toList =
        "a[b=\"\\\"/*\"]     \x7bc:d\x7d".toList ∧
      ∀ r ∈ (ofText "a[b=\"\\\"/*\"]/*'*/\x7bc:d\x7d").rules, ∀ t ∈ r.texts,
        t.toList <:+: "a[b=\"\\\"/*\"]     \x7bc:d\x7d".toList := by
  obtain ⟨hiff, hsame, htexts⟩ :=
    comments_blanked_iff_sameStrings "a[b=\"\\\"/*\"]/*'*/\x7bc:d\x7d" defaultFile
  have hquotes : NoEscapedQuote .code .start "a[b=\"\\\"/*\"]/*'*/\x7bc:d\x7d".toList := by decide
  have hblanked : blankedByReading "a[b=\"\\\"/*\"]/*'*/\x7bc:d\x7d".toList =
      "a[b=\"\\\"/*\"]     \x7bc:d\x7d".toList := by decide
  refine ⟨hquotes, hiff.2 (hsame hquotes), hblanked, ?_⟩
  rw [← hblanked]
  exact htexts (hsame hquotes)

/-- Behind an escaped quote a comment stays in the text, and in the selector. -/
theorem comment_kept_after_escaped_quote :
    withoutComments ".a\\\"/*c*/\x7b\x7d".toList ≠
        blankedByReading ".a\\\"/*c*/\x7b\x7d".toList ∧
      blankedByReading ".a\\\"/*c*/\x7b\x7d".toList = ".a\\\"     \x7b\x7d".toList ∧
      (ofText ".a\\\"/*c*/\x7b\x7d").rules.map (fun r => r.selectors.map Selector.raw) =
        [[".a\\\"/*c*/"]] := by
  refine ⟨by decide, by decide, ?_⟩
  decide +kernel

end StyleGauge.Stylesheet
