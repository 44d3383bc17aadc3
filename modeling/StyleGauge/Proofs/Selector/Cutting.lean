import StyleGauge.Proofs.Stylesheet.Reading
import StyleGauge.Selector.Split

/-!
# Cutting texts at top-level commas

Which commas are at the top level depends on where strings end, so the laws here are stated for
either rule: a text is cut like its parts where a part ends at the top level, and what lies between
two cuts is not cut again. The branches of a text determine where it was cut, although they are
trimmed and blank ones are dropped.
-/

namespace StyleGauge.Selector

open Text (Nesting Strings)

/-- The pieces of a text between its top-level commas, under a rule for where strings end. -/
def cut (strings : Strings) (state : Nesting) : List Char → List (List Char)
  | [] => [[]]
  | c :: rest =>
    if state.isTop && c == ',' then [] :: cut strings state rest
    else (cut strings (state.advance strings c) rest).modifyHead (c :: ·)

/-- The pieces of a text that are not blank, trimmed. -/
def branches (strings : Strings) (cs : List Char) : List (List Char) :=
  ((cut strings .start cs).map Text.trim).filter (· ≠ [])

/-- A text none of whose commas is at the top level. -/
def IsWhole (strings : Strings) (state : Nesting) (cs : List Char) : Prop :=
  ∀ before after, cs = before ++ ',' :: after → (state.advanceAll strings before).isTop = false

variable {strings : Strings} {s t : Nesting} {cs a b : List Char}

/-! ### Pieces -/

@[simp] theorem cut_nil : cut strings s [] = [[]] := rfl

theorem cut_comma (h : s.isTop = true) (cs : List Char) :
    cut strings s (',' :: cs) = [] :: cut strings s cs := by
  simp [cut, h]

theorem cut_cons {c : Char} (h : (s.isTop && c == ',') = false) (cs : List Char) :
    cut strings s (c :: cs) = (cut strings (s.advance strings c) cs).modifyHead (c :: ·) := by
  simp only [cut, h, Bool.false_eq_true, if_false]

/-- A character is a comma at the top level, or part of a piece. -/
theorem comma_or_not_cut (s : Nesting) (c : Char) :
    (s.isTop = true ∧ c = ',') ∨ (s.isTop && c == ',') = false := by
  cases h : s.isTop && c == ',' with
  | true =>
    rw [Bool.and_eq_true, beq_iff_eq] at h
    exact .inl h
  | false => exact .inr rfl

theorem exists_cut_eq_cons (strings : Strings) (s : Nesting) (cs : List Char) :
    ∃ piece more, cut strings s cs = piece :: more := by
  induction cs generalizing s with
  | nil => exact ⟨[], [], rfl⟩
  | cons c cs ih =>
    rcases comma_or_not_cut s c with ⟨htop, rfl⟩ | hcut
    · exact ⟨[], _, cut_comma htop cs⟩
    · obtain ⟨piece, more, hpieces⟩ := ih (s.advance strings c)
      exact ⟨c :: piece, more, by rw [cut_cons hcut, hpieces, List.modifyHead_cons]⟩

theorem pieces_eq_cut (s : Nesting) (cs : List Char) : pieces s cs = cut .multiline s cs := by
  fun_induction pieces s cs with
  | case1 => rfl
  | case2 s c rest hcut ih =>
    rw [cut, if_pos hcut, ih]
  | case3 s c rest hcut hnil ih => exact absurd hnil (pieces_ne_nil _ _)
  | case4 s c rest hcut piece more heq ih =>
    rw [cut, if_neg hcut, ← ih, heq]
    rfl

theorem splitList_eq_branches (cs : List Char) : splitList cs = branches .multiline cs := by
  rw [splitList, pieces_eq_cut, branches]

/-- A comma at the top level changes no state. -/
theorem advance_comma (h : s.isTop = true) : s.advance strings ',' = s := by
  rw [Nesting.eq_start_of_isTop h]
  rfl

/-- Where the first part of a text ends at the top level, the comma behind it parts the pieces. -/
theorem cut_append_comma (h : (s.advanceAll strings a).isTop = true) (b : List Char) :
    cut strings s (a ++ ',' :: b) = cut strings s a ++ cut strings .start b := by
  induction a generalizing s with
  | nil =>
    rw [Nesting.advanceAll_nil] at h
    rw [List.nil_append, cut_comma h, cut_nil, Nesting.eq_start_of_isTop h]
    rfl
  | cons c a ih =>
    rw [Nesting.advanceAll_cons] at h
    rcases comma_or_not_cut s c with ⟨htop, rfl⟩ | hcut
    · rw [advance_comma htop] at h
      rw [List.cons_append, cut_comma htop, cut_comma htop, ih h, List.cons_append]
    · obtain ⟨first, more, hpieces⟩ := exists_cut_eq_cons strings (s.advance strings c) a
      rw [List.cons_append, cut_cons hcut, cut_cons hcut, ih h, hpieces]
      rfl

theorem branches_append_comma (h : (Nesting.start.advanceAll strings a).isTop = true)
    (b : List Char) : branches strings (a ++ ',' :: b) = branches strings a ++ branches strings b := by
  simp only [branches, cut_append_comma h, List.map_append, List.filter_append]

/-! ### Whole texts -/

theorem isWhole_nil : IsWhole strings s [] := by
  intro before after h
  simp at h

theorem isWhole_cons_iff {c : Char} :
    IsWhole strings s (c :: cs) ↔
      (s.isTop && c == ',') = false ∧ IsWhole strings (s.advance strings c) cs := by
  constructor
  · intro h
    refine ⟨?_, fun before after hcs => h (c :: before) after (by simp [hcs])⟩
    rcases comma_or_not_cut s c with ⟨htop, rfl⟩ | hcut
    · have hnot : s.isTop = false := h [] cs rfl
      simp [hnot] at htop
    · exact hcut
  · rintro ⟨hcut, h⟩ before after hcs
    cases before with
    | nil =>
      obtain ⟨rfl, -⟩ := List.cons_eq_cons.1 hcs
      simpa using hcut
    | cons d before =>
      obtain ⟨rfl, hrest⟩ := List.cons_eq_cons.1 hcs
      exact h before after hrest

/-- A text is its own only piece if none of its commas is at the top level. -/
theorem IsWhole.cut_eq (h : IsWhole strings s cs) : cut strings s cs = [cs] := by
  induction cs generalizing s with
  | nil => rfl
  | cons c cs ih =>
    obtain ⟨hcut, h⟩ := isWhole_cons_iff.1 h
    rw [cut_cons hcut, ih h]
    rfl

theorem IsWhole.of_prefix (h : IsWhole strings s b) (hab : a <+: b) : IsWhole strings s a := by
  obtain ⟨more, rfl⟩ := hab
  intro before after ha
  exact h before (after ++ more) (by simp [ha])

/-- The first piece is whole from the state on, the others are whole on their own. -/
theorem isWhole_of_cut_eq_cons {first : List Char} {more : List (List Char)}
    (h : cut strings s cs = first :: more) :
    IsWhole strings s first ∧ ∀ piece ∈ more, IsWhole strings .start piece := by
  induction cs generalizing s first more with
  | nil =>
    obtain ⟨rfl, rfl⟩ := List.cons_eq_cons.1 h
    exact ⟨isWhole_nil, by simp⟩
  | cons c cs ih =>
    rcases comma_or_not_cut s c with ⟨htop, rfl⟩ | hcut
    · obtain ⟨first', more', hpieces⟩ := exists_cut_eq_cons strings s cs
      rw [cut_comma htop, hpieces] at h
      obtain ⟨rfl, rfl⟩ := List.cons_eq_cons.1 h
      obtain ⟨hfirst, hmore⟩ := ih hpieces
      rw [Nesting.eq_start_of_isTop htop] at hfirst
      exact ⟨isWhole_nil, List.forall_mem_cons.2 ⟨hfirst, hmore⟩⟩
    · obtain ⟨first', more', hpieces⟩ := exists_cut_eq_cons strings (s.advance strings c) cs
      rw [cut_cons hcut, hpieces] at h
      obtain ⟨rfl, rfl⟩ := List.cons_eq_cons.1 h
      obtain ⟨hfirst, hmore⟩ := ih hpieces
      exact ⟨isWhole_cons_iff.2 ⟨hcut, hfirst⟩, hmore⟩

theorem isWhole_of_mem_cut {piece : List Char} (h : piece ∈ cut strings .start cs) :
    IsWhole strings .start piece := by
  obtain ⟨first, more, hpieces⟩ := exists_cut_eq_cons strings .start cs
  obtain ⟨hfirst, hmore⟩ := isWhole_of_cut_eq_cons hpieces
  rw [hpieces] at h
  rcases List.mem_cons.1 h with rfl | h
  · exact hfirst
  · exact hmore piece h

/-- Blanks change no state at the top level. -/
theorem advance_of_isBlank {c : Char} (hc : Text.isBlank c = true) :
    Nesting.start.advance strings c = .start := by
  have hne : ∀ d : Char, Text.isBlank d = false → c ≠ d := by
    rintro d hd rfl
    simp [hd] at hc
  simp only [Nesting.advance, Nesting.start]
  simp [hne '\\' rfl, hne '"' rfl, hne '\'' rfl, hne '(' rfl, hne '[' rfl, hne ')' rfl,
    hne ']' rfl]

theorem IsWhole.trimStart (h : IsWhole strings .start cs) :
    IsWhole strings .start (Text.trimStart cs) := by
  induction cs with
  | nil => exact h
  | cons c cs ih =>
    cases hc : Text.isBlank c with
    | true =>
      have htail := (isWhole_cons_iff.1 h).2
      rw [advance_of_isBlank hc] at htail
      rw [Text.trimStart_cons_of_isBlank hc]
      exact ih htail
    | false => rwa [Text.trimStart_cons_of_not_isBlank hc]

/-- Trimming takes blanks away, and cuts nothing. -/
theorem IsWhole.trim (h : IsWhole strings .start cs) : IsWhole strings .start (Text.trim cs) :=
  h.trimStart.of_prefix (Text.trimEnd_isPrefix _)

/-- A branch is trimmed and not empty, and it is its own only branch. -/
theorem of_mem_branches {branch : List Char} (h : branch ∈ branches strings cs) :
    branch ≠ [] ∧ Text.Trimmed branch ∧ IsWhole strings .start branch := by
  simp only [branches, List.mem_filter, List.mem_map, decide_eq_true_eq] at h
  obtain ⟨⟨piece, hpiece, rfl⟩, hne⟩ := h
  exact ⟨hne, Text.trimmed_trim piece, (isWhole_of_mem_cut hpiece).trim⟩

theorem branches_of_mem_branches {branch : List Char} (h : branch ∈ branches strings cs) :
    branches strings branch = [branch] := by
  obtain ⟨hne, htrimmed, hwhole⟩ := of_mem_branches h
  have htrim : Text.trim branch = branch := htrimmed
  simp [branches, hwhole.cut_eq, htrim, hne]

/-! ### Two rules for strings -/

/-- Under two rules for strings a text is cut at the same commas. -/
def SameCuts (first second : Strings) (s t : Nesting) (cs : List Char) : Prop :=
  ∀ before after, cs = before ++ ',' :: after →
    (s.advanceAll first before).isTop = (t.advanceAll second before).isTop

variable {first second : Strings} {p : List Char}

theorem sameCuts_cons_iff {c : Char} :
    SameCuts first second s t (c :: cs) ↔ (c = ',' → s.isTop = t.isTop) ∧
      SameCuts first second (s.advance first c) (t.advance second c) cs := by
  constructor
  · intro h
    refine ⟨?_, fun before after hcs => h (c :: before) after (by simp [hcs])⟩
    rintro rfl
    exact h [] cs rfl
  · rintro ⟨hc, h⟩ before after hcs
    cases before with
    | nil => exact hc (List.cons_eq_cons.1 hcs).1
    | cons d before =>
      obtain ⟨rfl, hrest⟩ := List.cons_eq_cons.1 hcs
      exact h before after hrest

theorem not_cut_of_isTop_eq {c : Char} (h : c = ',' → s.isTop = t.isTop)
    (hcut : (s.isTop && c == ',') = false) : (t.isTop && c == ',') = false := by
  by_cases hcomma : c = ','
  · rwa [← h hcomma]
  · rw [beq_eq_false_iff_ne.2 hcomma, Bool.and_false]

theorem SameCuts.cut_eq (h : SameCuts first second s t cs) : cut first s cs = cut second t cs := by
  induction cs generalizing s t with
  | nil => rfl
  | cons c cs ih =>
    obtain ⟨hc, hrest⟩ := sameCuts_cons_iff.1 h
    rcases comma_or_not_cut s c with ⟨htop, rfl⟩ | hcut
    · have htop' : t.isTop = true := (hc rfl).symm.trans htop
      rw [advance_comma htop, advance_comma htop'] at hrest
      rw [cut_comma htop, cut_comma htop', ih hrest]
    · rw [cut_cons hcut, cut_cons (not_cut_of_isTop_eq hc hcut), ih hrest]

/-- The branches of a text that stands behind the beginning of a piece. -/
def branchesBehind (strings : Strings) (p : List Char) (s : Nesting) (cs : List Char) :
    List (List Char) :=
  (((cut strings s cs).modifyHead (p ++ ·)).map Text.trim).filter (· ≠ [])

theorem branchesBehind_nil_start (strings : Strings) (cs : List Char) :
    branchesBehind strings [] .start cs = branches strings cs := by
  obtain ⟨piece, more, hpieces⟩ := exists_cut_eq_cons strings .start cs
  simp [branchesBehind, branches, hpieces]

theorem branchesBehind_comma (h : s.isTop = true) (p cs : List Char) :
    branchesBehind strings p s (',' :: cs) =
      [Text.trim p].filter (· ≠ []) ++ branches strings cs := by
  rw [branchesBehind, cut_comma h, List.modifyHead_cons, List.append_nil, List.map_cons,
    Nesting.eq_start_of_isTop h, branches, List.filter_cons, List.filter_cons, List.filter_nil]
  split <;> rfl

theorem branchesBehind_cons {c : Char} (h : (s.isTop && c == ',') = false) (p cs : List Char) :
    branchesBehind strings p s (c :: cs) =
      branchesBehind strings (p ++ [c]) (s.advance strings c) cs := by
  obtain ⟨piece, more, hpieces⟩ := exists_cut_eq_cons strings (s.advance strings c) cs
  simp [branchesBehind, cut_cons h, hpieces]

/-- The first branch begins with what stands before the text, if that is not blank. -/
theorem exists_branchesBehind_eq_cons (strings : Strings) (hp : Text.trim p ≠ []) (s : Nesting)
    (cs : List Char) :
    ∃ more later, branchesBehind strings p s cs = Text.trim (p ++ more) :: later := by
  obtain ⟨piece, rest, hpieces⟩ := exists_cut_eq_cons strings s cs
  have hne : Text.trim (p ++ piece) ≠ [] := by
    intro hnil
    refine hp (Text.trim_eq_nil_iff.2 fun c hc => ?_)
    exact Text.trim_eq_nil_iff.1 hnil c (List.mem_append_left _ hc)
  exact ⟨piece, _, by rw [branchesBehind, hpieces, List.modifyHead_cons, List.map_cons,
    List.filter_cons_of_pos (by simpa using hne)]⟩

theorem trim_ne_nil_of_comma_mem (h : ',' ∈ cs) : Text.trim cs ≠ [] := by
  intro hnil
  exact absurd (Text.trim_eq_nil_iff.1 hnil ',' h) (by decide)

theorem exists_trim_comma_eq (more : List Char) :
    ∃ rest, Text.trim (',' :: more) = ',' :: rest := by
  have hne : Text.trim (',' :: more) ≠ [] := trim_ne_nil_of_comma_mem (by simp)
  obtain ⟨c, rest, hcons⟩ := List.exists_cons_of_ne_nil hne
  have hprefix : Text.trim (',' :: more) <+: ',' :: more := by
    rw [Text.trim, Text.trimStart_cons_of_not_isBlank (by decide)]
    exact Text.trimEnd_isPrefix _
  rw [hcons] at hprefix
  obtain ⟨rfl, -⟩ := List.cons_prefix_cons.1 hprefix
  exact ⟨rest, hcons⟩

/-- Branches show whether a comma has ended a piece or belongs to it. -/
theorem branchesBehind_comma_ne (hs : s.isTop = true) (ht : t.isTop = false) (p cs : List Char) :
    branchesBehind first p s (',' :: cs) ≠ branchesBehind second p t (',' :: cs) := by
  intro heq
  have hcomma : Text.trim (p ++ [',']) ≠ [] := trim_ne_nil_of_comma_mem (by simp)
  obtain ⟨more, later, hright⟩ :=
    exists_branchesBehind_eq_cons second hcomma (t.advance second ',') cs
  rw [branchesBehind_comma hs, branchesBehind_cons (by simp [ht]), hright, List.append_assoc,
    List.singleton_append] at heq
  by_cases hp : Text.trim p = []
  · -- the piece that ends is blank, and the branch behind it would begin with a comma
    rw [Text.trim_append_of_blanks (Text.trim_eq_nil_iff.1 hp)] at heq
    obtain ⟨rest, hrest⟩ := exists_trim_comma_eq more
    have hmem : ',' :: rest ∈ branches first cs := by
      simp only [hp, hrest] at heq
      simp_all
    have htop := (of_mem_branches hmem).2.2 [] rest rfl
    simp at htop
  · -- the branch that ends has one comma less than the one that goes on
    have hhead : Text.trim p = Text.trim (p ++ ',' :: more) := by
      rw [List.filter_cons_of_pos (by simpa using hp)] at heq
      exact (List.cons_eq_cons.1 heq).1
    have hink := congrArg (List.filter (!Text.isBlank ·)) hhead
    rw [Text.filter_trim, Text.filter_trim, List.filter_append,
      List.filter_cons_of_pos (by decide)] at hink
    have hlength := congrArg List.length hink
    rw [List.length_append, List.length_cons] at hlength
    omega

theorem sameCuts_of_branchesBehind_eq
    (h : branchesBehind first p s cs = branchesBehind second p t cs) :
    SameCuts first second s t cs := by
  induction cs generalizing p s t with
  | nil =>
    intro before after hcs
    simp at hcs
  | cons c cs ih =>
    have hsame : c = ',' → s.isTop = t.isTop := by
      rintro rfl
      cases hs : s.isTop <;> cases ht : t.isTop
      · rfl
      · exact absurd h.symm (branchesBehind_comma_ne ht hs p cs)
      · exact absurd h (branchesBehind_comma_ne hs ht p cs)
      · rfl
    refine sameCuts_cons_iff.2 ⟨hsame, ?_⟩
    rcases comma_or_not_cut s c with ⟨htop, rfl⟩ | hcut
    · have htop' : t.isTop = true := (hsame rfl).symm.trans htop
      rw [branchesBehind_comma htop, branchesBehind_comma htop', List.append_cancel_left_eq,
        ← branchesBehind_nil_start, ← branchesBehind_nil_start] at h
      rw [advance_comma htop, advance_comma htop', Nesting.eq_start_of_isTop htop,
        Nesting.eq_start_of_isTop htop']
      exact ih h
    · rw [branchesBehind_cons hcut, branchesBehind_cons (not_cut_of_isTop_eq hsame hcut)] at h
      exact ih h

/-- Two rules for strings give the same branches exactly if they cut at the same commas. -/
theorem branches_eq_iff_sameCuts :
    branches first cs = branches second cs ↔ SameCuts first second .start .start cs := by
  constructor
  · intro h
    rw [← branchesBehind_nil_start, ← branchesBehind_nil_start] at h
    exact sameCuts_of_branchesBehind_eq h
  · intro h
    rw [branches, branches, h.cut_eq]

end StyleGauge.Selector
