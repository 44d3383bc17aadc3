import StyleGauge.Proofs.Duplication.Blocks
import StyleGauge.Proofs.Duplication.Declarations

/-!
# Blocks of rearranged rules

The keys of a rule are sorted before they are combined. So blocks do not depend on the order in
which a rule has its declarations, nor on anything of a declaration that its key leaves out:
importance, and the case of the value and the blanks around it.
-/

namespace StyleGauge

/-! ### Rearranged rules and stylesheets -/

/-- The second rule is the first one with its declarations in some order, and any of them replaced
by one that says the same. -/
structure Rule.IsRearranged (r r' : Rule) : Prop where
  others_eq : { r with declarations := r'.declarations } = r'
  declarations : ∃ ds, r.declarations.Perm ds ∧
    List.Forall₂ Declaration.SaysSame ds r'.declarations

/-- The second stylesheet is the first one with its rules rearranged, each for itself. -/
structure Stylesheet.IsRearranged (s s' : Stylesheet) : Prop where
  others_eq : { s with rules := s'.rules } = s'
  rules : List.Forall₂ Rule.IsRearranged s.rules s'.rules

/-- The second site is the first one with its rule rearranged. -/
structure Site.IsRearranged (s s' : Site) : Prop where
  file_eq : s.file = s'.file
  rule : s.rule.IsRearranged s'.rule

/-- A rearranged rule has the same keys. -/
theorem Rule.IsRearranged.keys_perm {r r' : Rule} (h : r.IsRearranged r') :
    (r.declarations.map Declaration.key).Perm (r'.declarations.map Declaration.key) := by
  obtain ⟨ds, hperm, hsame⟩ := h.declarations
  have hkeys : ds.map Declaration.key = r'.declarations.map Declaration.key :=
    Listing.map_eq_map_of_forall₂ (hsame.imp fun _ _ hd => hd.key_eq)
  exact hkeys ▸ hperm.map Declaration.key

theorem Site.IsRearranged.location_eq {s s' : Site} (h : s.IsRearranged s') :
    s.location = s'.location := by
  rw [location, location, h.file_eq, ← h.rule.others_eq]
  rfl

theorem sites_isRearranged {sheets sheets' : List Stylesheet}
    (h : List.Forall₂ Stylesheet.IsRearranged sheets sheets') :
    List.Forall₂ Site.IsRearranged (sites sheets) (sites sheets') := by
  induction h with
  | nil => exact .nil
  | @cons s s' _ _ hs _ ih =>
    have hfile : s.file = s'.file := by rw [← hs.others_eq]
    rw [sites_cons, sites_cons]
    refine List.rel_append ?_ ih
    exact List.rel_map (fun r r' hr => ⟨hfile, hr⟩) hs.rules

namespace Duplication

/-! ### Sorted keys -/

theorem pairwise_sortedKeys (r : Rule) : (sortedKeys r).Pairwise (· ≤ ·) := by
  refine (List.pairwise_mergeSort ?_ ?_ _).imp of_decide_eq_true
  · intro a b c hab hbc
    exact decide_eq_true (String.le_trans (of_decide_eq_true hab) (of_decide_eq_true hbc))
  · intro a b
    simpa using String.le_total a b

/-- Sorting makes of the same keys the same list. -/
theorem sortedKeys_congr {r r' : Rule} (h : r.IsRearranged r') : sortedKeys r = sortedKeys r' := by
  have hperm : (sortedKeys r).Perm (sortedKeys r') :=
    (List.mergeSort_perm _ _).trans (h.keys_perm.trans (List.mergeSort_perm _ _).symm)
  exact hperm.eq_of_pairwise (fun a b _ _ hab hba => String.le_antisymm hab hba)
    (pairwise_sortedKeys r) (pairwise_sortedKeys r')

theorem combinations_congr {r r' : Rule} (h : r.IsRearranged r') (size : Int) :
    combinations size r = combinations size r' := by
  have hlength : r.declarations.length = r'.declarations.length := by
    simpa using h.keys_perm.length_eq
  rw [combinations, combinations, hlength, sortedKeys_congr h]

/-- A rule with just enough declarations has one combination, that of all of them. -/
theorem combinations_of_length_eq {r : Rule} {size : Nat} (h : r.declarations.length = size) :
    combinations size r = [sortedKeys r] := by
  have hall : (sortedKeys r).take size = sortedKeys r :=
    List.take_of_length_le (by rw [length_sortedKeys, h])
  rw [combinations_eq_map_take h.ge, h, Nat.add_sub_cancel_left, List.range_one, List.map_singleton,
    Nat.add_zero, hall]

/-! ### Blocks -/

variable {sheets sheets' : List Stylesheet}

/-- The same combinations are met at the same places, in the same order. -/
theorem combined_congr (h : List.Forall₂ Stylesheet.IsRearranged sheets sheets') (size : Int) :
    combined sheets size = combined sheets' size := by
  rw [combined, combined, List.flatMap_def, List.flatMap_def]
  refine congrArg List.flatten (Listing.map_eq_map_of_forall₂ ?_)
  refine (sites_isRearranged h).imp fun s s' hs => ?_
  rw [combinations_congr hs.rule, hs.location_eq]

/-- Rearranged stylesheets have the same blocks, in the same order. -/
theorem blocks_congr (h : List.Forall₂ Stylesheet.IsRearranged sheets sheets') (size count : Int) :
    blocks sheets size count = blocks sheets' size count := by
  rw [blocks, blocks, combined_congr h]

/-- Two rules with a pair said twice, in whatever order, case and importance. -/
theorem blocks_congr_pairTwice :
    let sheet (a b : List Declaration) : Stylesheet :=
      { file := "a.css"
        rules := [⟨[], a, "a.css", some 1, none, none⟩, ⟨[], b, "a.css", some 2, none, none⟩] }
    let sorted : List Declaration := [⟨"color", "red", false⟩, ⟨"color", "red", false⟩,
      ⟨"top", "0", false⟩]
    let first : List Declaration := [⟨"top", "0", true⟩, ⟨"color", " RED", false⟩,
      ⟨"color", "red", true⟩]
    let second : List Declaration := [⟨"color", "Red", false⟩, ⟨"top", "0 ", false⟩,
      ⟨"color", "red", false⟩]
    List.Forall₂ Stylesheet.IsRearranged [sheet sorted sorted] [sheet first second] ∧
      blocks [sheet first second] 3 2 = [⟨["color:red", "color:red", "top:0"],
        [⟨"a.css", some 1, ""⟩, ⟨"a.css", some 2, ""⟩]⟩] := by
  intro sheet sorted first second
  have hfirst : ∃ ds, sorted.Perm ds ∧ List.Forall₂ Declaration.SaysSame ds first :=
    ⟨[⟨"top", "0", false⟩, ⟨"color", "red", false⟩, ⟨"color", "red", false⟩], by decide,
      .cons (by decide) (.cons (by decide) (.cons (by decide) .nil))⟩
  have hsecond : ∃ ds, sorted.Perm ds ∧ List.Forall₂ Declaration.SaysSame ds second :=
    ⟨[⟨"color", "red", false⟩, ⟨"top", "0", false⟩, ⟨"color", "red", false⟩], by decide,
      .cons (by decide) (.cons (by decide) (.cons (by decide) .nil))⟩
  have hrearranged : List.Forall₂ Stylesheet.IsRearranged [sheet sorted sorted]
      [sheet first second] :=
    .cons ⟨rfl, .cons ⟨rfl, hfirst⟩ (.cons ⟨rfl, hsecond⟩ .nil)⟩ .nil
  refine ⟨hrearranged, ?_⟩
  rw [← blocks_congr hrearranged]
  have hcombined : combined [sheet sorted sorted] (3 : Nat) =
      [(["color:red", "color:red", "top:0"], ⟨"a.css", some 1, ""⟩),
        (["color:red", "color:red", "top:0"], ⟨"a.css", some 2, ""⟩)] := by
    have hkeys : ∀ line, combinations (3 : Nat) ⟨[], sorted, "a.css", line, none, none⟩ =
        [["color:red", "color:red", "top:0"]] := by
      intro line
      have hpairwise : (sorted.map Declaration.key).Pairwise (· ≤ ·) := by decide +kernel
      have hvalue : sorted.map Declaration.key = ["color:red", "color:red", "top:0"] := by
        decide +kernel
      have hlength : sorted.length = 3 := rfl
      rw [combinations_of_length_eq hlength, sortedKeys_of_pairwise hpairwise, hvalue]
    rw [combined, sites_cons, sites_nil, List.append_nil, List.flatMap_map]
    simp only [sheet, List.flatMap_cons, List.flatMap_nil, hkeys]
    rfl
  have hdistinct : (Listing.distinct (((combined [sheet sorted sorted] (3 : Nat)).map
      Prod.fst).map combinationKey)).filter
        (fun key => (2 : Int) ≤ (withKey [sheet sorted sorted] 3 key).length) =
          ["color:red|color:red|top:0"] := by
    simp only [withKey, hcombined]
    decide +kernel
  have hblock : blockOf [sheet sorted sorted] 3 "color:red|color:red|top:0" =
      ⟨["color:red", "color:red", "top:0"], [⟨"a.css", some 1, ""⟩, ⟨"a.css", some 2, ""⟩]⟩ := by
    simp only [blockOf, withKey, hcombined]
    decide +kernel
  have hblocks := blocks_eq_mergeSort [sheet sorted sorted] 3 2
  rwa [hdistinct, List.map_singleton, hblock, List.mergeSort_singleton] at hblocks

end Duplication

end StyleGauge
