import StyleGauge.Proofs.Stylesheet.Locality
import StyleGauge.Proofs.Stylesheet.Shifts
import StyleGauge.Proofs.Stylesheet.Surroundings

/-!
# Settled texts

A text is settled if it leaves nothing open: no string and no comment, no read that looks for its
stop, and no block. Closing braces that close nothing do not matter. What stands behind a settled
text is read as if it stood alone.
-/

namespace StyleGauge.Stylesheet

open Text (Nesting)

/-- A text that leaves nothing open. -/
structure Settled (text : List Char) : Prop where
  code : modeAfter .code text = .code
  stopped : ∀ read ∈ (Scan.start (withoutComments text)).reads, (readUntil .start read).2 ≠ []
  closed : (Scan.start (withoutComments text)).last.outer.isEmpty = true

instance (text : List Char) : Decidable (Settled text) :=
  decidable_of_iff
    (modeAfter .code text = .code ∧
      (∀ read ∈ (Scan.start (withoutComments text)).reads, (readUntil .start read).2 ≠ []) ∧
      (Scan.start (withoutComments text)).last.outer.isEmpty = true)
    ⟨fun ⟨h₁, h₂, h₃⟩ => ⟨h₁, h₂, h₃⟩, fun ⟨h₁, h₂, h₃⟩ => ⟨h₁, h₂, h₃⟩⟩

/-! ### The last character -/

namespace Scan

variable {s t : Scan}

theorem rest_afterText_cons (s : Scan) (taken : List Char) (c : Char) (after : List Char)
    (head : Head) (complete : Scan → Scan) :
    (s.afterText taken (c :: after) head complete).rest = after ∨
      (s.afterText taken (c :: after) head complete).rest = c :: after := by
  unfold afterText
  split
  · rename_i heq
    exact .inl (List.cons.inj heq).2.symm
  · rename_i heq
    exact .inl (List.cons.inj heq).2.symm
  · exact .inr rfl

/-- A step takes its text up to a character that is no slash. -/
theorem Step.exists_taken (hst : s.Step t)
    (hread : ∀ text ∈ s.readText?, (readUntil .start text).2 ≠ []) :
    ∃ taken c after, s.rest = taken ++ c :: after ∧ c ≠ '/' ∧
      (t.rest = after ∨ t.rest = c :: after) := by
  obtain ⟨blanks, hskip, -⟩ := follows_skipSeparators s
  have hstop : ∀ c ∈ stops, c ≠ '/' := by simp [stops]
  cases hst with
  | @close rest hs => exact ⟨blanks, '\x7d', rest, hs ▸ hskip, by decide, .inl rfl⟩
  | @atRule text hs =>
    obtain ⟨c, after, hafter⟩ :=
      List.exists_cons_of_ne_nil (hread _ (readText?_of_atRule hs))
    have htext := readUntil_append .start (text.dropWhile isAtNameChar)
    refine ⟨blanks ++ '@' :: text.takeWhile isAtNameChar ++
      (readUntil .start (text.dropWhile isAtNameChar)).1, c, after, ?_,
      hstop c (mem_stops_of_readUntil hafter), ?_⟩
    · rw [hskip, hs, ← hafter, List.append_assoc, List.append_assoc, htext, List.cons_append,
        List.takeWhile_append_dropWhile]
    · rw [readAtRule, hafter]
      exact rest_afterText_cons ..
  | @item c cs hs hbrace hat =>
    obtain ⟨d, after, hafter⟩ :=
      List.exists_cons_of_ne_nil (hread _ (readText?_of_item hs hbrace hat))
    have htext := readUntil_append .start s.skipSeparators.rest
    refine ⟨blanks ++ (readUntil .start s.skipSeparators.rest).1, d, after, ?_,
      hstop d (mem_stops_of_readUntil hafter), ?_⟩
    · rw [List.append_assoc, ← hafter, htext, hskip]
    · rw [readItem, hafter]
      exact rest_afterText_cons ..

/-- A text of which every read meets its stop does not end with a slash. -/
theorem getLast?_rest_ne_slash (h : ∀ text ∈ s.reads, (readUntil .start text).2 ≠ []) :
    s.rest.getLast? ≠ some '/' := by
  intro hlast
  fun_induction last s with
  | case1 s hs =>
    have hblank : ∀ c ∈ s.rest, isSeparator c = true :=
      List.dropWhile_eq_nil_iff.1 (step?_eq_none_iff.1 hs)
    exact absurd (hblank '/' (List.mem_of_getLast? hlast)) (by decide)
  | case2 s t hs hlt ih =>
    obtain ⟨hread, hreads⟩ := (forall_mem_reads hs).1 h
    obtain ⟨taken, c, after, hrest, hc, ht⟩ := (step_of_step? hs).exists_taken hread
    -- the step leaves the end of the text to the next, unless it takes all of the text
    refine ih hreads ?_
    cases after with
    | nil =>
      rw [hrest, List.getLast?_concat] at hlast
      exact absurd (Option.some.inj hlast) hc
    | cons d after =>
      have hafter : (d :: after).getLast? = some '/' := by
        rw [hrest] at hlast
        simpa [List.getLast?_append, List.getLast?_cons] using hlast
      rcases ht with ht | ht
      · rw [ht, hafter]
      · rw [ht]
        simpa [List.getLast?_cons] using hafter

end Scan

/-- No comment begins behind a settled text with its last character. -/
theorem Settled.noCommentBetween {text : List Char} (h : Settled text) (more : List Char) :
    NoCommentBetween (withoutComments text) more := fun hlast =>
  absurd hlast (Scan.getLast?_rest_ne_slash h.stopped)

theorem Settled.withoutComments_append {text : List Char} (h : Settled text) (more : List Char) :
    withoutComments (text ++ more) = withoutComments text ++ withoutComments more :=
  Stylesheet.withoutComments_append h.code (h.noCommentBetween more)

/-- A settled text is scanned to its end, whatever follows. -/
theorem Settled.readsAlike {text : List Char} (h : Settled text) (more : List Char) :
    ∀ read ∈ (Scan.start (withoutComments text)).reads, ReadsAlike read more :=
  fun read hread => .inl (h.stopped read hread)

/-! ### Texts with other texts around them -/

/-- Behind `before`, a text is scanned as it is alone: behind nodes that are there already, and
inside of blocks that are open if it skips no brace. -/
theorem within_scan (before text behind : List Char) (base : List Node) (frame : List OpenBlock)
    (hbrace : frame = [] ∨ ∀ u ∈ (Scan.start text).trace, u.skipsBrace = false) :
    let t : Scan := ⟨frame, base, Text.Position.start.afterAll before, text⟩
    let f := placeIn (before ++ text ++ behind) before.length
    Scan.Within base frame ((Scan.start text).last.mapPlaces f) t.last ∧
      t.reads = (Scan.start text).reads := by
  intro t f
  have hgoes : Scan.GoesAlong f (.start text) := goesAlong_placeIn before text behind
  have hstart : (Scan.start text).mapPlaces f =
      ⟨[], [], Text.Position.start.afterAll before, text⟩ := mapPlaces_start before text behind
  have hwithin : Scan.Within base frame ((Scan.start text).mapPlaces f) t := by
    have hnone : withoutDeclarations [] = [] := rfl
    rw [hstart]
    exact ⟨rfl, rfl, .outermost hnone⟩
  have hbrace' : frame = [] ∨
      ∀ u ∈ ((Scan.start text).mapPlaces f).trace, u.skipsBrace = false := by
    refine hbrace.imp_right fun h u hu => ?_
    rw [Scan.trace_mapPlaces hgoes] at hu
    obtain ⟨v, hv, rfl⟩ := List.mem_map.1 hu
    rw [Scan.skipsBrace_mapPlaces, h v hv]
  have hlast := hwithin.last hbrace'
  rwa [Scan.last_mapPlaces hgoes, Scan.reads_mapPlaces hgoes] at hlast

/-! ### Places in texts with comments -/

theorem ofOffset_withoutComments (text : List Char) (n : Nat) :
    Text.Position.ofOffset (withoutComments text) n = .ofOffset text n :=
  Text.Position.ofOffset_eq_of_lineEnds (lineEnds_blankComments .code text) n

theorem isShifted_of_withoutComments {text text' : List Char} {n : Nat} {r r' : Rule}
    (h : Rule.IsShifted (withoutComments text) (withoutComments text') n r r') :
    Rule.IsShifted text text' n r r' := by
  obtain ⟨offset, hle, hr, hr'⟩ := h.place
  rw [Rule.StandsAt, ofOffset_withoutComments] at hr hr'
  rw [withoutComments, blankComments_length] at hle
  exact ⟨h.selectors, h.declarations, h.layer, h.file, offset, hle, hr, hr'⟩

/-- The rules of a text, at the places where they are in another text with the text in it. -/
theorem forall₂_rules_isShifted (text file : String) (text' : List Char) (n : Nat) :
    List.Forall₂ (Rule.IsShifted text.toList text' n) (ofText text file).rules
      (((rulesOf none (scan (withoutComments text.toList))).map
        (FlatRule.mapPlace (placeIn (withoutComments text') n))).filterMap (ruleOf? file)) :=
  (forall₂_isShifted (fun _ => start_of_mem_rulesOf_scan) file (withoutComments text') n).imp
    fun _ _ => isShifted_of_withoutComments

end StyleGauge.Stylesheet
