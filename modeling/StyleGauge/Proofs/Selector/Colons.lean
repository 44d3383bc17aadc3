import Mathlib.Data.List.Infix
import Mathlib.Tactic.Common
import StyleGauge.Selector.Analysis

/-!
# Colons in estimates

A selector that is not well formed has a pseudo-element, by looks, if two colons stand beside each
other. For a pseudo-class any colon will do, as the last colon of a row has none behind it. So a
pseudo-element alone looks like a pseudo-class too.
-/

namespace StyleGauge.Selector

/-- Some colon has no colon directly before or behind it. -/
def HasLoneColon (cs : List Char) : Prop :=
  ∃ i < cs.length, cs[i]? = some ':' ∧ cs[i + 1]? ≠ some ':' ∧ (i ≠ 0 → cs[i - 1]? ≠ some ':')

instance (cs : List Char) : Decidable (HasLoneColon cs) :=
  inferInstanceAs (Decidable (∃ i < cs.length, _))

variable {cs : List Char}

theorem HasLoneColon.colon_mem (h : HasLoneColon cs) : ':' ∈ cs := by
  obtain ⟨i, -, hi, -⟩ := h
  exact List.mem_of_getElem? hi

namespace Estimate

open Text (Pattern)

theorem isSome_match?_lastColon (isStart : Bool) (c : Char) (rest : List Char) :
    (lastColon.match? isStart (c :: rest)).isSome = true ↔ c = ':' ∧ rest.head? ≠ some ':' := by
  by_cases hc : c = ':'
  · cases rest <;> simp [lastColon, Pattern.match?, Pattern.attempt, hc]
  · simp [lastColon, Pattern.match?, Pattern.attempt, hc]

theorem isSome_match?_twoColons (isStart : Bool) (c : Char) (rest : List Char) :
    (twoColons.match? isStart (c :: rest)).isSome = true ↔ [':', ':'] <+: c :: rest := by
  cases rest with
  | nil => simp [twoColons, Pattern.match?, Pattern.attempt, List.cons_prefix_cons]
  | cons d rest =>
    simp only [twoColons, Pattern.match?, Pattern.attempt, List.cons_prefix_cons, beq_iff_eq,
      List.nil_prefix, and_true, @eq_comm _ ':']
    split_ifs with hc hd
    · simp [hc, hd]
    · simp [hd]
    · simp [hc]

/-- Of the colons beside each other the last one counts for a pseudo-class. -/
theorem hasPseudoClass_iff_mem : hasPseudoClass cs = true ↔ ':' ∈ cs := by
  simp only [hasPseudoClass, Pattern.occurs_iff, isSome_match?_lastColon]
  constructor
  · rintro ⟨before, c, rest, rfl, rfl, -⟩
    simp
  · intro hmem
    induction cs with
    | nil => simp at hmem
    | cons c cs ih =>
      by_cases hrest : ':' ∈ cs
      · obtain ⟨before, d, rest, rfl, hd⟩ := ih hrest
        exact ⟨c :: before, d, rest, rfl, hd⟩
      · have hc := (List.mem_cons.1 hmem).resolve_right hrest
        exact ⟨[], c, cs, rfl, hc.symm, fun hnext => hrest (List.mem_of_mem_head? hnext)⟩

theorem hasPseudoElement_iff_isInfix : hasPseudoElement cs = true ↔ [':', ':'] <:+: cs := by
  simp only [hasPseudoElement, Pattern.occurs_iff, isSome_match?_twoColons]
  rw [List.infix_iff_prefix_suffix]
  constructor
  · rintro ⟨before, c, rest, rfl, hcolons⟩
    exact ⟨c :: rest, hcolons, List.suffix_append before _⟩
  · rintro ⟨_, ⟨rest, rfl⟩, before, rfl⟩
    exact ⟨before, ':', ':' :: rest, rfl, List.prefix_append [':', ':'] rest⟩

end Estimate

/-- Of a selector that is not well formed, a pseudo-element is told exactly by two colons beside
each other. A pseudo-class is told exactly by any colon, which is wrong exactly if there are colons
but none that stands alone. -/
theorem colons_of_parse?_eq_none {raw : String} (h : parse? raw.toList = none) :
    ((analyze raw).hasPseudoElement = true ↔ [':', ':'] <:+: raw.toList) ∧
      ((analyze raw).hasPseudoClass = true ↔ ':' ∈ raw.toList) ∧
      (((analyze raw).hasPseudoClass = true ↔ HasLoneColon raw.toList) ↔
        (':' ∈ raw.toList → HasLoneColon raw.toList)) := by
  have hclass : (analyze raw).hasPseudoClass = true ↔ ':' ∈ raw.toList := by
    rw [analyze, h]
    exact Estimate.hasPseudoClass_iff_mem
  refine ⟨?_, hclass, ?_⟩
  · rw [analyze, h]
    exact Estimate.hasPseudoElement_iff_isInfix
  · rw [hclass]
    exact ⟨Iff.mp, fun hlone => ⟨hlone, HasLoneColon.colon_mem⟩⟩

/-- A pseudo-element and a pseudo-class behind a sign that begins no selector. -/
theorem colons_of_parse?_eq_none_both :
    parse? "&::before:hover".toList = none ∧ HasLoneColon "&::before:hover".toList ∧
      ((analyze "&::before:hover").hasPseudoElement = true ↔
        [':', ':'] <:+: "&::before:hover".toList) ∧
      ((analyze "&::before:hover").hasPseudoClass = true ↔
        HasLoneColon "&::before:hover".toList) := by
  have hnone : parse? "&::before:hover".toList = none := by cbv
  obtain ⟨helement, -, hlone⟩ := colons_of_parse?_eq_none hnone
  have hcolon : HasLoneColon "&::before:hover".toList := by decide
  exact ⟨hnone, hcolon, helement, hlone.2 fun _ => hcolon⟩

/-- A pseudo-element alone is taken for a pseudo-class. -/
theorem hasPseudoClass_doubledColon :
    parse? "&::before".toList = none ∧ ¬HasLoneColon "&::before".toList ∧
      (analyze "&::before").hasPseudoClass = true := by
  have hnone : parse? "&::before".toList = none := by cbv
  refine ⟨hnone, by decide, ?_⟩
  rw [analyze, hnone]
  decide

end StyleGauge.Selector
