import Mathlib.Data.List.Infix
import Mathlib.Data.List.TakeWhile
import StyleGauge.Proofs.Text.Case
import StyleGauge.Proofs.Text.Trim
import StyleGauge.Selector.Estimate

/-!
# Estimates of joined texts

What an estimate counts is told by two characters beside each other, or by the runs between
separators: what a match goes on with cannot begin another one. No match goes across a separator
from a text into the next one, so the estimates of texts with separators between them add up.
-/

namespace StyleGauge.Selector.Estimate

open Text (Pattern)

variable {first second more : Char → Bool} {a b w cs rest behind : List Char} {c : Char}

/-! ### Characters -/

/-- The characters of names in ASCII: letters, digits, hyphens and underscores. -/
def isPlainChar (c : Char) : Bool :=
  c.isAlphanum || c == '_' || c == '-'

theorem toNat_lt_of_isPlainChar (hc : isPlainChar c = true) : c.toNat < 0x80 := by
  simp only [isPlainChar, Bool.or_eq_true, beq_iff_eq] at hc
  rcases hc with (halphanum | rfl) | rfl
  · exact Text.toNat_lt_of_isAlphanum halphanum
  · decide
  · decide

theorem not_isSeparator_of_isPlainChar (hc : isPlainChar c = true) : isSeparator c = false := by
  have hascii : ∀ c : Char, c.toNat < 0x80 → isPlainChar c = true → isSeparator c = false :=
    Text.forall_of_ascii (by decide)
  exact hascii c (toNat_lt_of_isPlainChar hc) hc

theorem isBlank_of_not_isSeparator (hc : isSeparator c = false) : Text.isBlank c = false := by
  simp only [isSeparator, Bool.or_eq_false_iff] at hc
  exact hc.1.1.1

theorem isPlainChar_of_looksLikeNameStart (hc : looksLikeNameStart c = true) :
    isPlainChar c = true := by
  simp only [looksLikeNameStart, isLetter, Bool.or_eq_true] at hc
  simp only [isPlainChar, Char.isAlphanum, Bool.or_eq_true]
  rcases hc with (hletter | hunderscore) | hhyphen
  · exact .inl (.inl (.inl hletter))
  · exact .inl (.inr hunderscore)
  · exact .inr hhyphen

/-- No name begins with a separator. -/
theorem not_looksLikeNameStart_of_isSeparator (hc : isSeparator c = true) :
    looksLikeNameStart c = false := by
  by_contra hstart
  have hplain := isPlainChar_of_looksLikeNameStart (by simpa using hstart)
  rw [not_isSeparator_of_isPlainChar hplain] at hc
  exact Bool.false_ne_true hc

theorem not_isLetter_of_isSeparator (hc : isSeparator c = true) : isLetter c = false := by
  have hstart := not_looksLikeNameStart_of_isSeparator hc
  simp only [looksLikeNameStart, Bool.or_eq_false_iff] at hstart
  exact hstart.1.1

/-- The blanks beyond ASCII. -/
def wideBlanks : List Nat :=
  [0x85, 0xA0, 0x1680, 0x2000, 0x2001, 0x2002, 0x2003, 0x2004, 0x2005, 0x2006, 0x2007, 0x2008,
    0x2009, 0x200A, 0x2028, 0x2029, 0x202F, 0x205F, 0x3000]

theorem toNat_mem_wideBlanks (hc : Text.isBlank c = true) (hascii : ¬c.toNat < 0x80) :
    c.toNat ∈ wideBlanks := by
  simp only [Text.isBlank, Bool.or_eq_true, Bool.and_eq_true, decide_eq_true_eq, beq_iff_eq] at hc
  simp only [wideBlanks, List.mem_cons, List.not_mem_nil, or_false]
  omega

theorem not_isWord_of_isBlank (hc : Text.isBlank c = true) : Text.isWord c = false := by
  by_cases hascii : c.toNat < 0x80
  · by_contra hword
    rw [Bool.not_eq_false, Text.isWord_of_ascii hascii] at hword
    have hplain : isPlainChar c = true := by rw [isPlainChar, hword, Bool.true_or]
    have hseparator := not_isSeparator_of_isPlainChar hplain
    rw [isSeparator, hc] at hseparator
    exact Bool.false_ne_true hseparator.symm
  · have htable : ∀ n ∈ wideBlanks, Text.inRanges Text.wordRanges n = false := by decide +kernel
    rw [Text.isWord, if_neg hascii]
    exact htable _ (toNat_mem_wideBlanks hc hascii)

/-- No name goes on with a separator. -/
theorem not_isSeparator_of_looksLikeNamePart (hc : looksLikeNamePart c = true) :
    isSeparator c = false := by
  by_contra hseparator
  simp only [isSeparator, Bool.not_eq_false, Bool.or_eq_true, beq_iff_eq] at hseparator
  rcases hseparator with ((hblank | rfl) | rfl) | rfl
  · rw [looksLikeNamePart, not_isWord_of_isBlank hblank, Bool.false_or, beq_iff_eq] at hc
    subst hc
    exact absurd hblank (by decide)
  all_goals exact absurd hc (by decide)

/-! ### Pairs -/

/-- How often a character of the first class stands directly before one of the second. -/
def countPairs (first second : Char → Bool) : List Char → Nat
  | c :: d :: rest =>
    (if first c && second d then 1 else 0) + countPairs first second (d :: rest)
  | _ => 0

theorem countPairs_cons_of_notFirst (hc : first c = false) (cs : List Char) :
    countPairs first second (c :: cs) = countPairs first second cs := by
  cases cs with
  | nil => rfl
  | cons d cs => simp [countPairs, hc]

/-- Nothing is counted in a text that has no first character of a pair. -/
theorem countPairs_append_of_notFirst (ha : ∀ c ∈ a, first c = false) (b : List Char) :
    countPairs first second (a ++ b) = countPairs first second b := by
  induction a with
  | nil => rfl
  | cons c a ih =>
    obtain ⟨hc, ha⟩ := List.forall_mem_cons.1 ha
    rw [List.cons_append, countPairs_cons_of_notFirst hc, ih ha]

theorem countPairs_eq_zero (ha : ∀ c ∈ a, first c = false) : countPairs first second a = 0 := by
  have happend : countPairs first second (a ++ []) = countPairs first second [] :=
    countPairs_append_of_notFirst ha []
  rwa [List.append_nil] at happend

/-- No pair goes from a text into one that does not begin with a second character. -/
theorem countPairs_append (hb : ∀ c ∈ b.head?, second c = false) :
    countPairs first second (a ++ b) = countPairs first second a + countPairs first second b := by
  induction a with
  | nil => simp [countPairs]
  | cons c a ih =>
    cases a with
    | nil =>
      cases b with
      | nil => rfl
      | cons d b => simp [countPairs, hb d rfl]
    | cons d a =>
      rw [List.cons_append] at ih
      rw [List.cons_append, List.cons_append, countPairs, ih, countPairs, Nat.add_assoc]

theorem countPairs_joined (hne : w ≠ []) (hw : ∀ c ∈ w, first c = false ∧ second c = false) :
    countPairs first second (a ++ w ++ b) =
      countPairs first second a + countPairs first second b := by
  obtain ⟨d, w, rfl⟩ := List.exists_cons_of_ne_nil hne
  have hhead : ∀ c ∈ (d :: w ++ b).head?, second c = false := by
    intro c hc
    obtain rfl := Option.some.inj hc
    exact (hw _ List.mem_cons_self).2
  rw [List.append_assoc, countPairs_append hhead,
    countPairs_append_of_notFirst fun c hc => (hw c hc).1]

/-- What is left behind a pair of characters and those that may follow it, if a text begins with
one. -/
def behindPair? (first second more : Char → Bool) : List Char → Option (List Char)
  | c :: d :: rest => if first c && second d then some (rest.dropWhile more) else none
  | _ => none

theorem countPairs_of_behindPair?_eq_none
    (h : behindPair? first second more (c :: rest) = none) :
    countPairs first second (c :: rest) = countPairs first second rest := by
  cases rest with
  | nil => rfl
  | cons d rest =>
    rw [behindPair?] at h
    split_ifs at h with hpair
    rw [countPairs, if_neg hpair, Nat.zero_add]

theorem countPairs_of_behindPair? (h : behindPair? first second more (c :: rest) = some behind) :
    countPairs first second (c :: rest) = 1 + countPairs first second rest ∧
      ∃ passed, rest = passed ++ behind ∧ ∀ d ∈ passed, second d = true ∨ more d = true := by
  cases rest with
  | nil => simp [behindPair?] at h
  | cons d rest =>
    rw [behindPair?] at h
    split_ifs at h with hpair
    obtain rfl := Option.some.inj h
    refine ⟨by rw [countPairs, if_pos hpair], d :: rest.takeWhile more, by simp, ?_⟩
    rw [Bool.and_eq_true] at hpair
    exact List.forall_mem_cons.2 ⟨.inl hpair.2, fun e he => .inr (List.mem_takeWhile_imp he)⟩

/-- The matches of a pattern of pairs are as many as there are pairs, as nothing in a pair but its
first character can be the first one of another pair. -/
theorem countFrom_eq_countPairs {pattern : Pattern}
    (hpattern : ∀ cs, pattern.match? false cs = behindPair? first second more cs)
    (hfirst : ∀ c, second c = true ∨ more c = true → first c = false) {taken : Nat}
    (htaken : ∀ c ∈ cs.take taken, first c = false) :
    pattern.countFrom false taken cs = countPairs first second cs := by
  induction cs generalizing taken with
  | nil => rfl
  | cons c rest ih =>
    cases taken with
    | succ taken =>
      obtain ⟨hc, htaken⟩ := List.forall_mem_cons.1 htaken
      rw [Pattern.countFrom_taken, ih htaken, countPairs_cons_of_notFirst hc]
    | zero =>
      cases hpair : behindPair? first second more (c :: rest) with
      | none =>
        rw [Pattern.countFrom_of_match?_eq_none (by rw [hpattern, hpair]), ih (by simp),
          countPairs_of_behindPair?_eq_none hpair]
      | some behind =>
        obtain ⟨hcount, passed, rfl, hpassed⟩ := countPairs_of_behindPair? hpair
        rw [Pattern.countFrom_of_match? (by rw [hpattern, hpair]), hcount, ih]
        intro d hd
        simp only [List.length_append, Nat.add_sub_cancel, List.take_left] at hd
        exact hfirst d (hpassed d hd)

theorem take_behind_dropWhile (p : Char → Bool) (cs : List Char) :
    cs.take (cs.length - (cs.dropWhile p).length) = cs.takeWhile p := by
  have hlength := congrArg List.length (List.takeWhile_append_dropWhile (p := p) (l := cs))
  rw [List.length_append] at hlength
  rw [List.prefix_iff_eq_take.1 (List.takeWhile_prefix p (l := cs))]
  congr 1
  omega

theorem attemptMany_some (p : Char → Bool) (isStart : Bool) (cs : List Char) :
    Pattern.attemptMany p isStart cs (fun place => some place.rest) = some (cs.dropWhile p) := by
  induction cs generalizing isStart with
  | nil => rfl
  | cons c cs ih =>
    rw [Pattern.attemptMany, List.dropWhile_cons]
    split_ifs
    · rw [ih, Option.some_or]
    · rfl

/-- A character of the first class, one of the second, and what may follow. -/
theorem match?_pair (first second more : Char → Bool) (isStart : Bool) (cs : List Char) :
    (Pattern.seq (.one first) (.seq (.one second) (.many more))).match? isStart cs =
      behindPair? first second more cs := by
  match cs with
  | [] => rfl
  | [c] => simp [Pattern.match?, Pattern.attempt, behindPair?]
  | c :: d :: rest =>
    by_cases hc : first c = true
    · simp [Pattern.match?, Pattern.attempt, attemptMany_some, behindPair?, hc]
    · simp [Pattern.match?, Pattern.attempt, behindPair?, hc]

/-! ### Ids and classes -/

/-- Names behind a sign are counted by the sign and the character behind it. -/
theorem count_signedName {sign : Char} (hstart : looksLikeNameStart sign = false)
    (hpart : looksLikeNamePart sign = false) (cs : List Char) :
    (signedName sign).count cs = countPairs (· == sign) looksLikeNameStart cs := by
  have hfirst : ∀ c, looksLikeNameStart c = true ∨ looksLikeNamePart c = true →
      (c == sign) = false := by
    intro c hc
    rw [beq_eq_false_iff_ne]
    rintro rfl
    simp [hstart, hpart] at hc
  have hmatch : (signedName sign).match? true cs = (signedName sign).match? false cs := by
    rw [signedName, match?_pair, match?_pair]
  rw [Pattern.count_eq_countFrom hmatch]
  exact countFrom_eq_countPairs (match?_pair _ _ _ false) hfirst (by simp)

theorem ids_eq_countPairs (cs : List Char) :
    ids cs = countPairs (· == '#') looksLikeNameStart cs :=
  count_signedName (by decide) (by decide) cs

theorem classNames_eq_countPairs (cs : List Char) :
    classNames cs = countPairs (· == '.') looksLikeNameStart cs :=
  count_signedName (by decide) (by decide) cs

theorem countPairs_sign_joined {sign : Char} (hsign : isSeparator sign = false) (hne : w ≠ [])
    (hw : ∀ c ∈ w, isSeparator c = true) :
    countPairs (· == sign) looksLikeNameStart (a ++ w ++ b) =
      countPairs (· == sign) looksLikeNameStart a +
        countPairs (· == sign) looksLikeNameStart b := by
  apply countPairs_joined hne
  intro c hc
  refine ⟨?_, not_looksLikeNameStart_of_isSeparator (hw c hc)⟩
  rw [beq_eq_false_iff_ne]
  rintro rfl
  exact Bool.false_ne_true (hsign.symm.trans (hw c hc))

theorem ids_joined (hne : w ≠ []) (hw : ∀ c ∈ w, isSeparator c = true) :
    ids (a ++ w ++ b) = ids a + ids b := by
  simp only [ids_eq_countPairs]
  exact countPairs_sign_joined (by decide) hne hw

theorem classNames_joined (hne : w ≠ []) (hw : ∀ c ∈ w, isSeparator c = true) :
    classNames (a ++ w ++ b) = classNames a + classNames b := by
  simp only [classNames_eq_countPairs]
  exact countPairs_sign_joined (by decide) hne hw

/-! ### Elements -/

theorem match?_elementName (isStart : Bool) (c : Char) (rest : List Char) :
    elementName.match? isStart (c :: rest) =
      if isStart && isLetter c then some (rest.dropWhile looksLikeNamePart)
      else behindPair? isSeparator isLetter looksLikeNamePart (c :: rest) := by
  have hfirst : (Pattern.seq .start (.seq (.one isLetter) (.many looksLikeNamePart))).match?
      isStart (c :: rest) =
        if isStart && isLetter c then some (rest.dropWhile looksLikeNamePart) else none := by
    cases isStart
    · rfl
    · simp [Pattern.match?, Pattern.attempt, attemptMany_some]
  rw [elementName, Pattern.match?_either_seq, hfirst, match?_pair]
  split_ifs
  · rfl
  · rfl

/-- Elements are counted by their letters: one at the start, and those behind a separator. -/
theorem elements_eq_countPairs (cs : List Char) :
    elements cs =
      (if cs.head?.any isLetter then 1 else 0) + countPairs isSeparator isLetter cs := by
  have hfirst : ∀ c, isLetter c = true ∨ looksLikeNamePart c = true → isSeparator c = false := by
    rintro c (hc | hc)
    · by_contra hseparator
      rw [not_isLetter_of_isSeparator (by simpa using hseparator)] at hc
      exact Bool.false_ne_true hc
    · exact not_isSeparator_of_looksLikeNamePart hc
  have hpattern : ∀ cs, elementName.match? false cs =
      behindPair? isSeparator isLetter looksLikeNamePart cs := by
    intro cs
    cases cs with
    | nil => rfl
    | cons c rest => simp [match?_elementName]
  cases cs with
  | nil => rfl
  | cons c rest =>
    by_cases hc : isLetter c = true
    · have hmatch : elementName.match? true (c :: rest) =
          some (rest.dropWhile looksLikeNamePart) := by
        simp [match?_elementName, hc]
      have htaken : ∀ d ∈ rest.take (rest.length - (rest.dropWhile looksLikeNamePart).length),
          isSeparator d = false := by
        intro d hd
        rw [take_behind_dropWhile] at hd
        exact hfirst d (.inr (List.mem_takeWhile_imp hd))
      rw [elements, Pattern.count, Pattern.countFrom_of_match? hmatch,
        countFrom_eq_countPairs hpattern hfirst htaken,
        countPairs_cons_of_notFirst (hfirst c (.inl hc))]
      simp [hc]
    · have hmatch : elementName.match? true (c :: rest) = elementName.match? false (c :: rest) := by
        simp [match?_elementName, hc]
      rw [elements, Pattern.count_eq_countFrom hmatch,
        countFrom_eq_countPairs hpattern hfirst (by simp)]
      simp [hc]

/-- Behind separators an element is counted as at the start of a text. -/
theorem countPairs_separators_append (hne : w ≠ []) (hw : ∀ c ∈ w, isSeparator c = true)
    (b : List Char) : countPairs isSeparator isLetter (w ++ b) = elements b := by
  induction w with
  | nil => exact absurd rfl hne
  | cons c w ih =>
    obtain ⟨hc, hw⟩ := List.forall_mem_cons.1 hw
    cases w with
    | nil =>
      cases b with
      | nil => rfl
      | cons d b =>
        rw [List.singleton_append, countPairs, hc, Bool.true_and, elements_eq_countPairs]
        rfl
    | cons d w =>
      have hd := not_isLetter_of_isSeparator (hw d List.mem_cons_self)
      rw [List.cons_append, List.cons_append, countPairs, hd, Bool.and_false, if_neg (by simp),
        Nat.zero_add, ← List.cons_append, ih (List.cons_ne_nil d w) hw]

theorem elements_joined (hne : w ≠ []) (hw : ∀ c ∈ w, isSeparator c = true) :
    elements (a ++ w ++ b) = elements a + elements b := by
  have hwb := countPairs_separators_append hne hw b
  obtain ⟨d, w, rfl⟩ := List.exists_cons_of_ne_nil hne
  have hd := not_isLetter_of_isSeparator (hw d List.mem_cons_self)
  have hhead : ∀ c ∈ (d :: w ++ b).head?, isLetter c = false := by
    intro c hc
    obtain rfl := Option.some.inj hc
    exact hd
  have hfirst : (a ++ (d :: w ++ b)).head?.any isLetter = a.head?.any isLetter := by
    cases a with
    | nil => simp [hd]
    | cons c a => rfl
  simp only [elements_eq_countPairs] at hwb ⊢
  rw [List.append_assoc, hfirst, countPairs_append hhead, hwb, Nat.add_assoc]

/-! ### Runs -/

/-- How many runs of characters stand between separators. `inRun` says whether one is going on. -/
def runs (inRun : Bool) : List Char → Nat
  | [] => 0
  | c :: cs =>
    if isSeparator c then runs false cs
    else (if inRun then 0 else 1) + runs true cs

theorem splitFrom_separator (isStart : Bool) (c : Char) (rest : List Char) :
    (Pattern.one isSeparator).splitFrom isStart 0 (c :: rest) =
      if isSeparator c then [] :: (Pattern.one isSeparator).splitFrom false 0 rest
      else ((Pattern.one isSeparator).splitFrom false 0 rest).modifyHead (c :: ·) := by
  by_cases hc : isSeparator c = true
  · have hmatch : (Pattern.one isSeparator).match? isStart (c :: rest) = some rest := by
      simp [Pattern.match?, Pattern.attempt, hc]
    rw [Pattern.splitFrom_of_match? hmatch, if_pos hc, Nat.sub_self]
  · have hmatch : (Pattern.one isSeparator).match? isStart (c :: rest) = none := by
      simp [Pattern.match?, Pattern.attempt, hc]
    rw [Pattern.splitFrom_of_match?_eq_none hmatch, if_neg hc]

/-- The pieces between separators that hold something are the runs. The first piece is the rest of a
run that may be going on. -/
theorem length_filter_splitFrom (isStart : Bool) (cs : List Char) :
    ∃ piece pieces, (Pattern.one isSeparator).splitFrom isStart 0 cs = piece :: pieces ∧
      ((piece :: pieces).filter (Text.trim · ≠ [])).length = runs false cs ∧
      (pieces.filter (Text.trim · ≠ [])).length = runs true cs := by
  induction cs generalizing isStart with
  | nil => exact ⟨[], [], rfl, by simp [runs], rfl⟩
  | cons c rest ih =>
    obtain ⟨piece, pieces, hpieces, hall, hmore⟩ := ih false
    rw [splitFrom_separator, hpieces, runs, runs]
    by_cases hc : isSeparator c = true
    · refine ⟨[], piece :: pieces, by rw [if_pos hc], ?_, ?_⟩
      · rw [List.filter_cons_of_neg (by simp), hall, if_pos hc]
      · rw [hall, if_pos hc]
    · have hblank : Text.trim (c :: piece) ≠ [] := by
        rw [Ne, Text.trim_eq_nil_iff, List.forall_mem_cons, not_and_or]
        simp [isBlank_of_not_isSeparator (by simpa using hc : isSeparator c = false)]
      refine ⟨c :: piece, pieces, by rw [if_neg hc, List.modifyHead_cons], ?_, ?_⟩
      · rw [List.filter_cons_of_pos (by simpa using hblank), List.length_cons, hmore]
        simp [hc, Nat.add_comm]
      · rw [hmore, if_neg hc]
        simp

theorem depth_eq_runs (cs : List Char) : depth cs = max 1 (runs false cs) := by
  obtain ⟨piece, pieces, hpieces, hall, -⟩ := length_filter_splitFrom true cs
  rw [depth, Pattern.split, hpieces, hall]

theorem runs_separators_append (hw : ∀ c ∈ w, isSeparator c = true) (b : List Char) :
    runs false (w ++ b) = runs false b := by
  induction w with
  | nil => rfl
  | cons c w ih =>
    obtain ⟨hc, hw⟩ := List.forall_mem_cons.1 hw
    rw [List.cons_append, runs, if_pos hc, ih hw]

theorem runs_joined (hne : w ≠ []) (hw : ∀ c ∈ w, isSeparator c = true) (inRun : Bool) :
    runs inRun (a ++ w ++ b) = runs inRun a + runs false b := by
  induction a generalizing inRun with
  | nil =>
    obtain ⟨d, w, rfl⟩ := List.exists_cons_of_ne_nil hne
    obtain ⟨hd, hw⟩ := List.forall_mem_cons.1 hw
    have hruns := runs_separators_append hw b
    simp only [List.nil_append, List.cons_append, runs, hd, if_true, hruns, Nat.zero_add]
  | cons c a ih =>
    rw [List.cons_append, List.cons_append, runs, runs]
    split_ifs
    · exact ih false
    · rw [ih true, Nat.zero_add, Nat.zero_add]
    · rw [ih true, Nat.add_assoc]

/-- A text without separators is one run. -/
theorem runs_eq_one (hne : cs ≠ []) (hcs : ∀ c ∈ cs, isSeparator c = false) :
    runs false cs = 1 := by
  have hrest : ∀ cs : List Char, (∀ c ∈ cs, isSeparator c = false) → runs true cs = 0 := by
    intro cs hcs
    induction cs with
    | nil => rfl
    | cons c cs ih =>
      obtain ⟨hc, hcs⟩ := List.forall_mem_cons.1 hcs
      rw [runs, hc, ih hcs]
      rfl
  obtain ⟨c, cs, rfl⟩ := List.exists_cons_of_ne_nil hne
  obtain ⟨hc, hcs⟩ := List.forall_mem_cons.1 hcs
  rw [runs, hc, hrest cs hcs]
  rfl

/-! ### Attribute tests -/

theorem attributeTests_eq_zero (h : '[' ∉ cs) : attributeTests cs = 0 := by
  apply Pattern.countFrom_eq_zero
  intro isStart c rest hc
  have hne : c ≠ '[' := fun heq => h (heq ▸ hc)
  simp [brackets, Pattern.match?, Pattern.attempt, hne]

end StyleGauge.Selector.Estimate
