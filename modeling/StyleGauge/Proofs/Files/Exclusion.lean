import Mathlib.Data.List.Basic
import Mathlib.Data.List.Infix
import Mathlib.Tactic.Common
import StyleGauge.Files.Search
import StyleGauge.Proofs.Outcome

/-!
# Directories left out

A pattern that has a name between two stars and a slash on either side matches the paths that go
through a directory of that name. The stars match slashes too, so that only the slashes of the
pattern keep names apart.
-/

namespace StyleGauge

/-! ### Patterns with a name in the middle -/

namespace Wildcard

/-- A text without wildcards. -/
def IsLiteral (cs : List Char) : Prop :=
  ∀ c ∈ cs, c ≠ '*' ∧ c ≠ '?' ∧ c ≠ '['

instance (cs : List Char) : Decidable (IsLiteral cs) :=
  List.decidableBAll (fun c => c ≠ '*' ∧ c ≠ '?' ∧ c ≠ '[') cs

variable {cs text : List Char} {ts : List Token}

theorem tokensAfter_append_of_isLiteral (h : IsLiteral cs) (rest : List Char) :
    tokensAfter 0 (cs ++ rest) = cs.map .literal ++ tokensAfter 0 rest := by
  induction cs with
  | nil => rfl
  | cons c cs ih =>
    obtain ⟨⟨hstar, hmark, hbracket⟩, hcs⟩ := List.forall_mem_cons.1 h
    rw [List.cons_append, tokensAfter, List.map_cons, List.cons_append, ih hcs]
    all_goals simpa

/-- The parts of a pattern for everything beneath a directory at the start. -/
theorem tokens_append_slash_stars (h : IsLiteral cs) :
    tokens (cs ++ ['/', '*', '*']) = (cs ++ ['/']).map .literal ++ [.star] := by
  rw [tokens, tokensAfter_append_of_isLiteral h, List.map_append, List.append_assoc]
  rfl

/-- The parts of a pattern for everything beneath a directory at any depth. -/
theorem tokens_stars_slash_append (h : IsLiteral cs) :
    tokens ('*' :: '*' :: '/' :: (cs ++ ['/', '*', '*'])) =
      .star :: (('/' :: cs ++ ['/']).map .literal ++ [.star]) := by
  have hslash : IsLiteral ('/' :: cs) := List.forall_mem_cons.2 ⟨by decide, h⟩
  have htail := tokens_append_slash_stars hslash
  rw [tokens] at htail ⊢
  rw [tokensAfter, tokensAfter, ← List.cons_append, htail]
  rfl

theorem matchTokens_literals : matchTokens (cs.map .literal ++ ts) text = true ↔
    ∃ rest, text = cs ++ rest ∧ matchTokens ts rest = true := by
  induction cs generalizing text with
  | nil => simp
  | cons c cs ih =>
    rw [List.map_cons, List.cons_append, matchTokens_literal]
    constructor
    · rintro ⟨rest, rfl, hrest⟩
      obtain ⟨rest', rfl, hrest'⟩ := ih.1 hrest
      exact ⟨rest', rfl, hrest'⟩
    · rintro ⟨rest, rfl, hrest⟩
      exact ⟨cs ++ rest, rfl, ih.2 ⟨rest, rfl, hrest⟩⟩

/-- A text and then anything matches what begins with the text. -/
theorem matchTokens_literals_star :
    matchTokens (cs.map .literal ++ [.star]) text = true ↔ cs <+: text := by
  rw [matchTokens_literals]
  constructor
  · rintro ⟨rest, rfl, -⟩
    exact List.prefix_append cs rest
  · rintro ⟨rest, rfl⟩
    exact ⟨rest, rfl, matchTokens_star.2 ⟨[], List.nil_suffix, rfl⟩⟩

theorem matchTokens_star_literals_star :
    matchTokens (.star :: (cs.map .literal ++ [.star])) text = true ↔ cs <:+: text := by
  simp only [matchTokens_star, matchTokens_literals_star, List.infix_iff_prefix_suffix, and_comm]

end Wildcard

/-! ### Rows of names -/

/-- A name that holds no slash. -/
def IsPlainName (name : String) : Prop :=
  '/' ∉ name.toList

instance (name : String) : Decidable (IsPlainName name) :=
  inferInstanceAs (Decidable ('/' ∉ name.toList))

namespace Path

theorem slash_cons_joinNames (name : String) (names : List String) :
    '/' :: (joinNames (name :: names)).toList =
      (name :: names).flatMap fun n => '/' :: n.toList := by
  induction names generalizing name with
  | nil => simp [joinNames]
  | cons next names ih =>
    have hnext := ih next
    rw [joinNames] at hnext ⊢
    rw [String.intercalate_cons_cons, List.flatMap_cons, ← hnext]
    simp

/-- What begins with a slash is not found in a name, but only behind it. -/
theorem slash_infix_append_iff {name xs ys : List Char} (h : '/' ∉ name) :
    ('/' :: xs) <:+: name ++ ys ↔ ('/' :: xs) <:+: ys := by
  induction name with
  | nil => rfl
  | cons c name ih =>
    rw [List.mem_cons, not_or] at h
    rw [List.cons_append, List.infix_cons_iff, List.cons_prefix_cons, ih h.2]
    simp [h.1]

/-- The first slash tells where a name ends. -/
theorem append_slash_prefix_iff {xs ys zs : List Char} (hxs : '/' ∉ xs) (hys : '/' ∉ ys) :
    xs ++ ['/'] <+: ys ++ '/' :: zs ↔ xs = ys := by
  have hcut : ∀ cs rest : List Char, '/' ∉ cs →
      (cs ++ '/' :: rest).takeWhile (· ≠ '/') = cs := by
    intro cs rest hcs
    rw [List.takeWhile_append_of_pos]
    · simp
    · intro c hc
      simpa using fun heq : c = '/' => hcs (heq ▸ hc)
  constructor
  · rintro ⟨rest, hrest⟩
    rw [List.append_assoc, List.singleton_append] at hrest
    rw [← hcut xs rest hxs, hrest, hcut ys zs hys]
  · rintro rfl
    simp

/-- A name with slashes around it is found in a row of names if it is one of them but the last. -/
theorem slashes_infix_iff {d : String} (hd : IsPlainName d) {names : List String}
    (h : ∀ n ∈ names, IsPlainName n) :
    ('/' :: d.toList ++ ['/']) <:+: (names.flatMap fun n => '/' :: n.toList) ↔
      d ∈ names.dropLast := by
  induction names with
  | nil => simp
  | cons name names ih =>
    obtain ⟨hname, hnames⟩ := List.forall_mem_cons.1 h
    rw [List.flatMap_cons, List.cons_append, List.cons_append, List.infix_cons_iff,
      List.cons_prefix_cons, slash_infix_append_iff hname, ← List.cons_append, ih hnames]
    cases names with
    | nil =>
      have hnot : ¬ d.toList ++ ['/'] <+: name.toList := by
        intro hbegins
        exact hname (hbegins.subset (by simp))
      simpa using hnot
    | cons next names =>
      rw [List.flatMap_cons, List.cons_append, append_slash_prefix_iff hd hname,
        String.toList_inj, List.dropLast_cons_cons, List.mem_cons]
      simp

end Path

namespace Search

open Wildcard (IsLiteral)

/-! ### Exclusion -/

/-- The pattern of everything beneath directories of a name. -/
def beneath (d : String) : String :=
  "**/" ++ d ++ "/**"

theorem isExcludedBy_beneath_iff {relative d : String} (h : IsLiteral d.toList) :
    isExcludedBy relative (beneath d) = true ↔
      ('/' :: d.toList ++ ['/']) <:+: '/' :: relative.toList := by
  have hpattern : (beneath d).toList = '*' :: '*' :: '/' :: (d.toList ++ ['/', '*', '*']) := by
    simp [beneath]
  have hdeep : Wildcard.isMatch (beneath d) relative = true ↔
      ('/' :: d.toList ++ ['/']) <:+: relative.toList := by
    rw [Wildcard.isMatch, hpattern, Wildcard.tokens_stars_slash_append h,
      Wildcard.matchTokens_star_literals_star]
  have htop : Wildcard.isMatch (String.ofList (d.toList ++ ['/', '*', '*'])) relative = true ↔
      ('/' :: d.toList ++ ['/']) <+: '/' :: relative.toList := by
    rw [Wildcard.isMatch, String.toList_ofList, Wildcard.tokens_append_slash_stars h,
      Wildcard.matchTokens_literals_star]
    simp
  have hboth : isExcludedBy relative (beneath d) = (Wildcard.isMatch (beneath d) relative ||
      Wildcard.isMatch (String.ofList (d.toList ++ ['/', '*', '*'])) relative) := by
    rw [isExcludedBy, hpattern]
    rfl
  rw [hboth, Bool.or_eq_true, hdeep, htop, List.infix_cons_iff, or_comm]

/-- A path goes through a directory of a name if the name is one of its names but the last. -/
theorem isExcludedBy_joinNames_iff {d : String} (hd : IsPlainName d)
    (hliteral : IsLiteral d.toList) {names : List String} (h : ∀ n ∈ names, IsPlainName n) :
    isExcludedBy (Path.joinNames names) (beneath d) = true ↔ d ∈ names.dropLast := by
  rw [isExcludedBy_beneath_iff hliteral, ← Path.slashes_infix_iff hd h]
  cases names with
  | nil =>
    have hlength : ¬ ('/' :: d.toList ++ ['/']) <:+: ['/'] := by
      intro hinfix
      have := hinfix.length_le
      simp at this
    simpa [Path.joinNames] using hlength
  | cons name names => rw [Path.slash_cons_joinNames]

end Search
end StyleGauge
