import StyleGauge.Proofs.Listing
import StyleGauge.Proofs.Selector.Cutting
import StyleGauge.Stylesheet.Basic

/-!
# Splitting selector lists

Where a text ends outside of strings, brackets and escapes, a comma behind it splits it from what
follows, and no branch can be split any further.

A stylesheet is read up to its braces under another rule for strings: there, a string ends with its
line at the latest. Reads up to a comma, one behind the other, split a text like a selector list
exactly if both rules find the same commas at the top level. They do if no string goes on over the
end of a line.
-/

namespace StyleGauge

open Text (Nesting)

namespace Selector

/-- Splitting takes a comma behind a complete text to the joining of lists, and a branch, which is
never blank at an end, to itself. -/
theorem splitList_append_comma_and_branch :
    (∀ s t : List Char, (Nesting.start.advanceAll .multiline s).isTop = true →
        splitList (s ++ ',' :: t) = splitList s ++ splitList t) ∧
      ∀ x : List Char, ∀ branch ∈ splitList x,
        branch ≠ [] ∧ (∀ c ∈ branch.head?, Text.isBlank c = false) ∧
          (∀ c ∈ branch.getLast?, Text.isBlank c = false) ∧ splitList branch = [branch] := by
  constructor
  · intro s t h
    simp only [splitList_eq_branches]
    exact branches_append_comma h t
  · intro x branch hbranch
    rw [splitList_eq_branches] at hbranch
    obtain ⟨hne, htrimmed, -⟩ := of_mem_branches hbranch
    obtain ⟨hhead, hlast⟩ := Text.trimmed_iff.1 htrimmed
    refine ⟨hne, hhead, hlast, ?_⟩
    rw [splitList_eq_branches]
    exact branches_of_mem_branches hbranch

/-- A closing bracket too many, commas in brackets and strings, an escaped comma before the one that
splits, an escaped blank at the end of a branch, and branches that are blank. -/
theorem splitList_append_comma_and_branch_unbalanced :
    splitList ("a),b:is(c,d)\\,".toList ++ ',' :: " e[f=','],, g\\ ,h(,".toList) =
        ["a)".toList, "b:is(c,d)\\,".toList, "e[f=',']".toList, "g\\".toList, "h(,".toList] ∧
      splitList "g\\".toList = ["g\\".toList] := by
  have htop : (Nesting.start.advanceAll .multiline "a),b:is(c,d)\\,".toList).isTop = true := by
    decide
  obtain ⟨hsplit, hbranch⟩ := splitList_append_comma_and_branch
  refine ⟨?_, (hbranch " e[f=','],, g\\ ,h(,".toList "g\\".toList (by decide)).2.2.2⟩
  rw [hsplit _ _ htop]
  decide

end Selector

/-! ### Reads up to a stop -/

namespace Stylesheet

/-- The text up to the first top-level character of some stops, and the rest from there on. -/
def readTo (stops : List Char) (state : Nesting) : List Char → List Char × List Char
  | [] => ([], [])
  | c :: cs =>
    if state.isTop && stops.contains c then ([], c :: cs)
    else
      let (piece, rest) := readTo stops (state.advance .oneLine c) cs
      (c :: piece, rest)

/-- The scanner reads preludes, parameters and declarations up to its stops. -/
theorem readUntil_eq_readTo (state : Nesting) (cs : List Char) :
    readUntil state cs = readTo stops state cs := by
  induction cs generalizing state with
  | nil => rfl
  | cons c cs ih => rw [readUntil, readTo, ih]

theorem readTo_append (stops : List Char) (state : Nesting) (cs : List Char) :
    (readTo stops state cs).1 ++ (readTo stops state cs).2 = cs := by
  fun_induction readTo stops state cs <;> simp_all

theorem length_rest_lt {stops : List Char} {state : Nesting} {c : Char} {cs piece rest : List Char}
    (h : readTo stops state cs = (piece, c :: rest)) : rest.length < cs.length := by
  have hlength := congrArg List.length (readTo_append stops state cs)
  rw [h, List.length_append, List.length_cons] at hlength
  omega

/-- The texts that reads up to a stop give, each from behind the stop of the one before it on. -/
def reads (stop : Char) (cs : List Char) : List (List Char) :=
  match h : readTo [stop] .start cs with
  | (piece, []) => [piece]
  | (piece, _ :: rest) =>
    have : rest.length < cs.length := length_rest_lt h
    piece :: reads stop rest
termination_by cs.length

theorem reads_of_readTo_eq_end {stop : Char} {cs piece : List Char}
    (h : readTo [stop] .start cs = (piece, [])) : reads stop cs = [piece] := by
  rw [reads]
  split <;> simp_all

theorem reads_of_readTo_eq_stop {stop c : Char} {cs piece rest : List Char}
    (h : readTo [stop] .start cs = (piece, c :: rest)) :
    reads stop cs = piece :: reads stop rest := by
  rw [reads]
  split <;> simp_all

end Stylesheet

namespace Selector

open Stylesheet (readTo reads)

/-- A read up to a comma gives the first piece, and the others are those of what stands behind the
comma. -/
theorem cut_eq_readTo (s : Nesting) (cs : List Char) :
    cut .oneLine s cs = (readTo [','] s cs).1 ::
      match (readTo [','] s cs).2 with
      | [] => []
      | _ :: rest => cut .oneLine .start rest := by
  induction cs generalizing s with
  | nil => rfl
  | cons c cs ih =>
    have hstop : [','].contains c = (c == ',') := by
      rw [List.contains_cons, List.contains_nil, Bool.or_false]
    rcases comma_or_not_cut s c with ⟨htop, rfl⟩ | hcut
    · rw [cut_comma htop, Nesting.eq_start_of_isTop htop]
      rfl
    · rw [cut_cons hcut, ih]
      simp only [readTo, hstop, hcut, Bool.false_eq_true, if_false, List.modifyHead_cons]

theorem reads_eq_cut (cs : List Char) : reads ',' cs = cut .oneLine .start cs := by
  rw [cut_eq_readTo]
  match h : readTo [','] .start cs with
  | (piece, []) => rw [Stylesheet.reads_of_readTo_eq_end h]
  | (piece, c :: rest) =>
    have : rest.length < cs.length := Stylesheet.length_rest_lt h
    rw [Stylesheet.reads_of_readTo_eq_stop h, reads_eq_cut rest]
termination_by cs.length

/-- The branches that reads up to commas give. -/
def readBranches (cs : List Char) : List (List Char) :=
  ((reads ',' cs).map Text.trim).filter (· ≠ [])

theorem readBranches_eq_branches (cs : List Char) : readBranches cs = branches .oneLine cs := by
  rw [readBranches, reads_eq_cut, branches]

/-! ### Agreement of both rules for strings -/

/-- A text none of whose line ends stands in a string, unless escaped. -/
def StringsEndInLine (s : Nesting) (cs : List Char) : Prop :=
  ∀ before after, cs = before ++ '\n' :: after →
    (s.advanceAll .multiline before).quote = none ∨
      (s.advanceAll .multiline before).escaped = true

theorem stringsEndInLine_iff {s : Nesting} {cs : List Char} :
    StringsEndInLine s cs ↔ ∀ k (h : k < cs.length), cs[k] = '\n' →
      (s.advanceAll .multiline (cs.take k)).quote = none ∨
        (s.advanceAll .multiline (cs.take k)).escaped = true := by
  rw [← Listing.forall_append_cons_iff (p := fun before c => c = '\n' →
    (s.advanceAll .multiline before).quote = none ∨
      (s.advanceAll .multiline before).escaped = true)]
  constructor
  · rintro h before _ after rfl rfl
    exact h before after rfl
  · intro h before after hcs
    exact h before '\n' after hcs rfl

instance (s : Nesting) (cs : List Char) : Decidable (StringsEndInLine s cs) :=
  decidable_of_iff' _ stringsEndInLine_iff

theorem advance_multiline_eq {s : Nesting} {c : Char}
    (h : c = '\n' → s.quote = none ∨ s.escaped = true) :
    s.advance .multiline c = s.advance .oneLine c := by
  unfold Nesting.advance
  cases hescaped : s.escaped with
  | true => rfl
  | false =>
    cases hquote : s.quote with
    | none => rfl
    | some q =>
      have hc : c ≠ '\n' := by
        intro hc
        simp [hquote, hescaped] at h
        exact h hc
      simp [hc]

theorem StringsEndInLine.advanceAll_eq {s : Nesting} {before after : List Char}
    (h : StringsEndInLine s (before ++ after)) :
    s.advanceAll .multiline before = s.advanceAll .oneLine before := by
  induction before generalizing s with
  | nil => rfl
  | cons c before ih =>
    have hstep : s.advance .multiline c = s.advance .oneLine c := by
      refine advance_multiline_eq ?_
      rintro rfl
      exact h [] (before ++ after) rfl
    have hrest : StringsEndInLine (s.advance .multiline c) (before ++ after) :=
      fun first last hcs => h (c :: first) last (by rw [List.cons_append, hcs, List.cons_append])
    rw [Nesting.advanceAll_cons, Nesting.advanceAll_cons, ih hrest, hstep]

theorem StringsEndInLine.sameCuts {s : Nesting} {cs : List Char} (h : StringsEndInLine s cs) :
    SameCuts .multiline .oneLine s s cs := by
  rintro before after rfl
  rw [h.advanceAll_eq]

/-- Reads up to commas give the branches of a selector list exactly if both rules for strings find
the same commas at the top level. They do if no string goes on over the end of a line. The reads are
those of the scanner, with other stops. -/
theorem splitList_eq_readBranches_iff (text : List Char) :
    (splitList text = readBranches text ↔ SameCuts .multiline .oneLine .start .start text) ∧
      (StringsEndInLine .start text → SameCuts .multiline .oneLine .start .start text) ∧
      ∀ state cs, Stylesheet.readUntil state cs = readTo Stylesheet.stops state cs := by
  refine ⟨?_, StringsEndInLine.sameCuts, Stylesheet.readUntil_eq_readTo⟩
  rw [splitList_eq_branches, readBranches_eq_branches]
  exact branches_eq_iff_sameCuts

/-- A string that goes on behind an escaped end of line, and commas in it and behind it. -/
theorem splitList_eq_readBranches_iff_escapedNewline :
    StringsEndInLine .start "a[b=\"c,\\\n,\"],\nd".toList ∧
      splitList "a[b=\"c,\\\n,\"],\nd".toList = readBranches "a[b=\"c,\\\n,\"],\nd".toList ∧
      splitList "a[b=\"c,\\\n,\"],\nd".toList =
        ["a[b=\"c,\\\n,\"]".toList, "d".toList] := by
  obtain ⟨hiff, hsame, -⟩ := splitList_eq_readBranches_iff "a[b=\"c,\\\n,\"],\nd".toList
  have hends : StringsEndInLine .start "a[b=\"c,\\\n,\"],\nd".toList := by decide
  exact ⟨hends, hiff.2 (hsame hends), by decide⟩

/-- Behind a quote that is open at the end of its line a comma splits no selector list, although it
ends a read, and a rule with such a prelude has one selector. -/
theorem splitList_ne_readBranches_openQuote :
    splitList "a\"\n,b".toList ≠ readBranches "a\"\n,b".toList ∧
      splitList "a\"\n,b".toList = ["a\"\n,b".toList] ∧
      readBranches "a\"\n,b".toList = ["a\"".toList, "b".toList] ∧
      (Stylesheet.ofText "a\"\n,b\x7b\x7d").rules.map (fun r => r.selectors.map Selector.raw) =
        [["a\"\n,b"]] := by
  refine ⟨?_, by decide, ?_, by decide +kernel⟩
  · rw [readBranches_eq_branches]
    decide
  · rw [readBranches_eq_branches]
    decide

end Selector

end StyleGauge
