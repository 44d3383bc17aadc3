import StyleGauge.Proofs.Stylesheet.Blanking
import StyleGauge.Proofs.Stylesheet.Settled
import StyleGauge.Proofs.Stylesheet.SourceOrder

/-!
# Where rules are reported

The line and the column of a rule are those of the first character of its prelude in the text as it
was given, comments and all. The rules of a stylesheet are listed in the order of these places, and
no two of them share one.
-/

namespace StyleGauge

/-- Whether a rule is reported at an earlier line than another one, or at the same line and an
earlier column. -/
def Rule.Precedes (r r' : Rule) : Prop :=
  ∃ line column line' column', r.line = some line ∧ r.column = some column ∧
    r'.line = some line' ∧ r'.column = some column' ∧
    (line < line' ∨ line = line' ∧ column < column')

namespace Stylesheet

open Text (Position)

/-! ### Scans of a text -/

namespace Scan

variable {s : Scan} {v : Visit} {text : List Char}

/-- What is left to a scan of a text is the text from the offset of its place on. -/
theorem drop_offset_of_follows (h : s.Follows (.start text)) :
    text.drop s.place.offset = s.rest ∧ s.place = .ofOffset text s.place.offset := by
  obtain ⟨taken, hrest, hplace⟩ := h
  have htext : text = taken ++ s.rest := hrest
  have hoffset : s.place.offset = taken.length := by
    rw [hplace, Position.offset_afterAll]
    exact Nat.zero_add _
  rw [hoffset, htext, List.drop_left, Position.ofOffset, List.take_left]
  exact ⟨rfl, hplace⟩

theorem isSeparator_head?_skipSeparators (s : Scan) :
    ∀ c ∈ s.skipSeparators.rest.head?, isSeparator c = false := by
  intro c hc
  have hhead := List.head?_dropWhile_not isSeparator s.rest
  rw [show (s.rest.dropWhile isSeparator).head? = some c from hc] at hhead
  simpa using hhead

/-- A rule that a step finds stands where the step begins: its prelude, then blanks, then the brace
of its block. -/
theorem Finds.rule_inv (h : s.Finds v) {prelude : String} {start : Position}
    (hv : v.node.head? = some (.rule prelude start)) :
    start = s.skipSeparators.place ∧ Text.Trimmed prelude.toList ∧
      ∃ blanks rest, (∀ c ∈ blanks, Text.isBlank c = true) ∧
        s.skipSeparators.rest = prelude.toList ++ blanks ++ '\x7b' :: rest := by
  cases h with
  | block hs hread => cases hv
  | statement hs hread hrest => cases hv
  | declaration hat hread hrest hopen hparse => cases hv
  | @rule piece rest hat hread =>
    obtain ⟨rfl, rfl⟩ := Head.rule.inj (Option.some.inj hv)
    have hpiece := readUntil_append .start s.skipSeparators.rest
    rw [hread] at hpiece
    have hhead : ∀ c ∈ piece.head?, Text.isBlank c = false := by
      intro c hc
      have hsep := isSeparator_head?_skipSeparators s c
      rw [← hpiece, List.head?_append, Option.mem_def.1 hc, Option.some_or] at hsep
      exact (Bool.or_eq_false_iff.1 (hsep rfl)).1
    obtain ⟨blanks, heq, hblanks⟩ := Text.exists_blanks_eq_trim_append hhead
    refine ⟨rfl, by simpa using Text.trimmed_trim piece, blanks, rest, hblanks, ?_⟩
    rw [String.toList_ofList, ← heq, hpiece]

end Scan

/-! ### Rules of a tree -/

/-- A prelude stands in a text where its position says. -/
structure StandsExactly (source : List Char) (prelude : String) (start : Position) : Prop where
  /-- The line is one more than the line ends before. -/
  line_eq : start.line = 1 + (source.take start.offset).count '\n'
  /-- The column is counted from the start of the line, the first one being one. -/
  column_eq : start.column = start.offset - Position.lineStart source start.offset + 1
  /-- In the text without comments the prelude follows, and behind it blanks and a brace. -/
  exists_drop_eq : ∃ blanks rest, (∀ c ∈ blanks, Text.isBlank c = true) ∧
    (withoutComments source).drop start.offset = prelude.toList ++ blanks ++ '\x7b' :: rest
  /-- The text as it was given has the first character of the prelude there. -/
  getElem?_eq : source[start.offset]? = prelude.toList.head?

/-- A character that is no blank is where blanking has left it. -/
theorem getElem?_of_withoutComments {source : List Char} {i : Nat} {c : Char}
    (h : (withoutComments source)[i]? = some c) (hc : Text.isBlank c = false) :
    source[i]? = some c := by
  have hi : i < source.length := by
    have hlt := (List.getElem?_eq_some_iff.1 h).1
    rwa [withoutComments, blankComments_length] at hlt
  obtain ⟨d, hd, hblanked⟩ :=
    blanked_of_getElem? .code (List.getElem?_eq_getElem hi)
  rw [withoutComments, hd] at h
  obtain rfl := Option.some.inj h
  rcases blanked_iff.1 hblanked with hkept | ⟨-, rfl⟩
  · rw [hkept, List.getElem?_eq_getElem hi]
  · exact absurd hc (by decide)

theorem standsExactly_of_mem_visitsOf {source : List Char} {v : Visit} {prelude : String}
    {start : Position} (hv : v ∈ visitsOf [] (scan (withoutComments source)))
    (hnode : v.node.head? = some (.rule prelude start)) (hne : prelude ≠ "") :
    StandsExactly source prelude start := by
  obtain ⟨s, hfollows, hfinds⟩ := (inSourceOrder_visitsOf_scan _).exists_finds hv
  have hbare : v.bare.node.head? = some (.rule prelude start) := by
    rw [Visit.bare, head?_bare, hnode]
  obtain ⟨rfl, htrimmed, blanks, rest, hblanks, hrest⟩ := hfinds.rule_inv hbare
  obtain ⟨hdrop, hplace⟩ :=
    Scan.drop_offset_of_follows ((Scan.follows_skipSeparators s).trans hfollows)
  obtain ⟨c, cs, hcs⟩ := List.exists_cons_of_ne_nil (mt String.toList_eq_nil_iff.1 hne)
  rw [hcs] at htrimmed
  -- the first character of the prelude is not blank, so that it is one of the text
  have hfirst : (withoutComments source)[s.skipSeparators.place.offset]? = some c := by
    rw [← List.head?_drop, hdrop, hrest, hcs]
    rfl
  have hsource := getElem?_of_withoutComments hfirst htrimmed.isBlank_head
  have hlt := (List.getElem?_eq_some_iff.1 hsource).1
  rw [ofOffset_withoutComments] at hplace
  constructor
  case line_eq => rw [hplace, Position.line_ofOffset, ← hplace]
  case column_eq => rw [hplace, Position.column_ofOffset hlt.le, ← hplace]
  case exists_drop_eq => exact ⟨blanks, rest, hblanks, hdrop.trans hrest⟩
  case getElem?_eq => rw [hsource, hcs, List.head?_cons]

/-! ### Rules of a stylesheet -/

/-- A rule on a walk through a tree starts behind the rules before it. -/
theorem InSourceOrder.pairwise_start {text : List Char} {visits : List Visit}
    (h : InSourceOrder text visits) :
    visits.Pairwise fun v w => ∀ prelude start prelude' start',
      v.node.head? = some (.rule prelude start) → w.node.head? = some (.rule prelude' start') →
        start.Precedes start' := by
  obtain ⟨finds, heq, hfinds, hpairwise⟩ := h
  have hstarts : (finds.map Prod.snd).Pairwise fun v w : Visit => ∀ prelude start prelude' start',
      v.node.head? = some (.rule prelude start) → w.node.head? = some (.rule prelude' start') →
        start.Precedes start' := by
    refine List.pairwise_map.2 (hpairwise.imp_of_mem ?_)
    intro p q hp hq hpq prelude start prelude' start' hv hw
    rw [((hfinds p hp).2.rule_inv hv).1, ((hfinds q hq).2.rule_inv hw).1]
    exact hpq
  rw [← heq, List.pairwise_map] at hstarts
  simpa [Visit.bare] using hstarts

/-- Every rule of a tree that has a prelude stands exactly where its position says. The rules of a
stylesheet are reported at the positions of such rules, each one behind the one before it. -/
theorem rules_stand_exactly (source file : String) :
    let visits := visitsOf [] (scan (withoutComments source.toList))
    (∀ v ∈ visits, ∀ prelude start, v.node.head? = some (.rule prelude start) → prelude ≠ "" →
        StandsExactly source.toList prelude start) ∧
      (∀ r ∈ (ofText source file).rules, ∃ v ∈ visits, ∃ prelude start,
        v.node.head? = some (.rule prelude start) ∧ prelude ≠ "" ∧
          r.line = some (start.line : Int) ∧ r.column = some (start.column : Int)) ∧
      (ofText source file).rules.Pairwise Rule.Precedes := by
  intro visits
  rw [rules_ofText_eq_filterMap]
  refine ⟨fun v hv prelude start => standsExactly_of_mem_visitsOf hv, ?_, ?_⟩
  · intro r hr
    obtain ⟨v, hv, hrule⟩ := List.mem_filterMap.1 hr
    obtain ⟨prelude, start, hnode, hsplit, -, hline, hcolumn, -⟩ := Visit.of_rule?_eq_some hrule
    refine ⟨v, hv, prelude, start, hnode, ?_, hline, hcolumn⟩
    rintro rfl
    exact hsplit rfl
  · refine List.Pairwise.filterMap _ ?_ (inSourceOrder_visitsOf_scan _).pairwise_start
    intro v w hvw r hr r' hr'
    obtain ⟨prelude, start, hnode, -, -, hline, hcolumn, -⟩ := Visit.of_rule?_eq_some hr
    obtain ⟨prelude', start', hnode', -, -, hline', hcolumn', -⟩ := Visit.of_rule?_eq_some hr'
    have hprecedes := hvw prelude start prelude' start' hnode hnode'
    refine ⟨_, _, _, _, hline, hcolumn, hline', hcolumn', ?_⟩
    unfold Position.Precedes at hprecedes
    omega

/-- A rule in a block, behind a comment that goes over the end of a line, and a rule in it. -/
theorem rules_stand_exactly_behindComment :
    let source := "@media x\x7b/* \x7b\n */ a , b /**/\x7bc:d;e\x7b\x7d\x7d"
    StandsExactly source.toList "a , b" ⟨18, 2, 5⟩ ∧
      (ofText source).rules.map (fun r => (r.line, r.column)) =
        [(some 2, some 5), (some 2, some 20)] ∧
      (ofText source).rules.Pairwise Rule.Precedes := by
  intro source
  have hvisit : (visitsOf [] (scan (withoutComments source.toList))).any
      (fun v => v.node.head? = some (.rule "a , b" ⟨18, 2, 5⟩)) = true := by decide +kernel
  obtain ⟨v, hv, hnode⟩ := List.any_eq_true.1 hvisit
  obtain ⟨hstands, -, hpairwise⟩ := rules_stand_exactly source defaultFile
  exact ⟨hstands v hv _ _ (of_decide_eq_true hnode) (by decide), by decide +kernel, hpairwise⟩

end Stylesheet

end StyleGauge
