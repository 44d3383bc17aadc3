import StyleGauge.Metrics.Ranking
import StyleGauge.Proofs.Check.Growth

/-!
# The worst selectors are the worst ones

All selectors, in source order, have places. One of them outranks another if its score is higher,
or if the scores are the same and its place comes first. The worst `n` selectors are the first `n`
in the order of rank, so that each of them outranks every selector that is left out, and more of
them begin with fewer.
-/

namespace StyleGauge

/-- The score that ranks a selector, told by the integers of its specificity and by its depth. A
specificity with other components does not count. -/
def Selector.rank (s : Selector) : Int :=
  match s.specificity with
  | ⟨.int ids, .int classes, .int elements⟩ =>
    ids * 200 + classes * 20 + elements * 2 + s.depth * 3
  | _ => 0

namespace RankedSelector

/-- A selector of a rule, with its place among all selectors. -/
structure Placed where
  site : Site
  selector : Selector
  place : Nat

namespace Placed

/-- What is shown of a selector. -/
def shown (p : Placed) : RankedSelector where
  selector := p.selector.raw
  file := p.site.file
  specificity := p.selector.specificity
  depth := p.selector.depth
  score := .int p.selector.rank
  line := p.site.rule.line

/-- A higher score comes first, and of equal ones the first in source order. -/
def Outranks (p q : Placed) : Prop :=
  q.selector.rank < p.selector.rank ∨ q.selector.rank = p.selector.rank ∧ p.place < q.place

end Placed

/-- All selectors of stylesheets, placed in source order. -/
def placed (sheets : List Stylesheet) : List Placed :=
  (selectorSites sheets).zipIdx.map fun c => ⟨c.1.1, c.1.2, c.2⟩

/-- All selectors of stylesheets, in the order of rank. -/
def ranked (sheets : List Stylesheet) : List Placed :=
  (placed sheets).mergeSort fun p q => decide (q.selector.rank ≤ p.selector.rank)

/-- The selectors picked are the worst `n` of all selectors, or all if there are fewer. -/
structure AreWorst (sheets : List Stylesheet) (n : Nat) (picked : List Placed) : Prop where
  length : picked.length = min n (selectorSites sheets).length
  /-- No selector is picked more often than it is there. -/
  subperm : picked.Subperm (placed sheets)
  ordered : picked.Pairwise Placed.Outranks
  leftOut : ∀ q ∈ placed sheets, q ∉ picked → ∀ p ∈ picked, p.Outranks q

variable {sheets : List Stylesheet}

/-! ### Scores -/

theorem ofSelector_of_isWhole {p : Placed} (h : p.selector.specificity.IsWhole) :
    ofSelector p.site p.selector = .ok p.shown := by
  obtain ⟨ids, classes, elements, hs⟩ := h
  have hrank : (ids * 100 + classes * 10 + elements) * 2 + p.selector.depth * 3 =
      p.selector.rank := by
    rw [Selector.rank, hs]
    ring
  rw [Placed.shown, ← hrank, ofSelector, hs]
  rfl

theorem all_eq_map_shown (h : ∀ p ∈ placed sheets, p.selector.specificity.IsWhole) :
    all sheets = .ok ((placed sheets).map Placed.shown) := by
  have hplaces : selectorSites sheets = (placed sheets).map fun p => (p.site, p.selector) := by
    rw [placed, List.map_map]
    exact (List.zipIdx_map_fst 0 _).symm
  have hall : all sheets = (selectorSites sheets).mapM fun c => ofSelector c.1 c.2 := rfl
  rw [hall, hplaces, List.mapM_map]
  exact mapM_eq_ok_map fun p hp => ofSelector_of_isWhole (h p hp)

/-! ### Ranks -/

theorem pairwise_place_placed (sheets : List Stylesheet) :
    (placed sheets).Pairwise fun p q => p.place < q.place := by
  have hplaces :
      (placed sheets).map Placed.place = List.range' 0 (selectorSites sheets).length := by
    rw [placed, List.map_map]
    exact List.zipIdx_map_snd 0 _
  rw [← List.pairwise_map, hplaces]
  exact List.pairwise_lt_range'

theorem pairwise_ranked (sheets : List Stylesheet) :
    (ranked sheets).Pairwise Placed.Outranks := by
  refine (Listing.pairwise_mergeSort_of_pairwise ?_ ?_ (pairwise_place_placed sheets)).imp ?_
  · simp
    omega
  · simp
    omega
  · intro p q hpq
    simp at hpq
    by_cases hlt : q.selector.rank < p.selector.rank
    · exact .inl hlt
    · refine .inr ⟨by omega, hpq.2 (by omega)⟩

theorem worstFirst_map_shown (sheets : List Stylesheet) :
    worstFirst ((placed sheets).map Placed.shown) = (ranked sheets).map Placed.shown := by
  refine (List.map_mergeSort fun p _ q _ => ?_).symm
  simp [Placed.shown]

/-- The selectors picked are the first ones in the order of rank. -/
theorem areWorst_take (sheets : List Stylesheet) (n : Nat) :
    AreWorst sheets n ((ranked sheets).take n) := by
  have hperm : (ranked sheets).Perm (placed sheets) := List.mergeSort_perm _ _
  have hpairwise := pairwise_ranked sheets
  rw [← List.take_append_drop n (ranked sheets), List.pairwise_append] at hpairwise
  obtain ⟨hpicked, -, hleft⟩ := hpairwise
  constructor
  · simp [hperm.length_eq, placed]
  · exact (List.take_sublist n _).subperm.trans hperm.subperm
  · exact hpicked
  · intro q hq hnotMem p hp
    have hq : q ∈ (ranked sheets).take n ++ (ranked sheets).drop n := by
      rw [List.take_append_drop]
      exact hperm.mem_iff.2 hq
    exact hleft p hp q ((List.mem_append.1 hq).resolve_left hnotMem)

/-! ### The worst ones -/

theorem exists_of_mem_placed {p : Placed} (hp : p ∈ placed sheets) :
    ∃ s ∈ sheets, ∃ r ∈ s.rules, p.selector ∈ r.selectors := by
  obtain ⟨c, hc, rfl⟩ := List.mem_map.1 hp
  have hc := List.fst_mem_of_mem_zipIdx hc
  simp only [selectorSites, sites, List.mem_flatMap, List.mem_map] at hc
  obtain ⟨site, ⟨s, hs, r, hr, rfl⟩, x, hx, hpair⟩ := hc
  rw [← hpair]
  exact ⟨s, hs, r, hr, hx⟩

theorem worst_eq_map_shown (h : ∀ s ∈ sheets, ∀ r ∈ s.rules, ∀ x ∈ r.selectors,
    x.specificity.IsWhole) (n : Nat) :
    worst sheets n = .ok (((ranked sheets).take n).map Placed.shown) := by
  have hall : all sheets = .ok ((placed sheets).map Placed.shown) := by
    apply all_eq_map_shown
    intro p hp
    obtain ⟨s, hs, r, hr, hx⟩ := exists_of_mem_placed hp
    exact h s hs r hr p.selector hx
  rw [worst, hall, ok_bind, worstFirst_map_shown, Listing.firstItems_ofNat, List.map_take]
  rfl

/-- Where all specificities are made of integers, the selectors shown are the worst ones, and those
shown for a greater limit begin with those shown for a smaller one. -/
theorem exists_areWorst_and_isPrefix (h : ∀ s ∈ sheets, ∀ r ∈ s.rules, ∀ x ∈ r.selectors,
    x.specificity.IsWhole) :
    (∀ n : Nat, ∃ picked, worst sheets n = .ok (picked.map Placed.shown) ∧
        AreWorst sheets n picked) ∧
      ∀ m n : Nat, m ≤ n → ∀ few many, worst sheets m = .ok few → worst sheets n = .ok many →
        few <+: many := by
  constructor
  · intro n
    exact ⟨_, worst_eq_map_shown h n, areWorst_take sheets n⟩
  · intro m n hmn few many hfew hmany
    rw [worst_eq_map_shown h] at hfew hmany
    obtain rfl := Except.ok.inj hfew
    obtain rfl := Except.ok.inj hmany
    exact (List.take_prefix_take_left (l := ranked sheets) hmn).map Placed.shown

/-- Three selectors tie, in two files; the limit cuts between them. -/
theorem exists_areWorst_and_isPrefix_tied :
    let selector (raw : String) (ids classes : Nat) : Selector :=
      { raw, depth := 1, specificity := .ofCounts ids classes 0 }
    let sheet (file : String) (selectors : List Selector) : Stylesheet :=
      { file, rules := [⟨selectors, [], file, some 1, none, none⟩] }
    let sheets := [sheet "a.css" [selector ".a" 0 1, selector ":b" 0 1],
      sheet "b.css" [selector "#c" 1 0, selector ".a" 0 1]]
    (∀ s ∈ sheets, ∀ r ∈ s.rules, ∀ x ∈ r.selectors, x.specificity.IsWhole) ∧
      ∃ picked many, AreWorst sheets 2 picked ∧
        picked.map Placed.shown =
          [⟨"#c", "b.css", .ofCounts 1 0 0, 1, 203, some 1⟩,
            ⟨".a", "a.css", .ofCounts 0 1 0, 1, 23, some 1⟩] ∧
        worst sheets 3 = .ok many ∧ picked.map Placed.shown <+: many := by
  intro selector sheet sheets
  have hwhole : ∀ s ∈ sheets, ∀ r ∈ s.rules, ∀ x ∈ r.selectors, x.specificity.IsWhole := by
    simp [sheets, sheet, selector, Specificity.IsWhole, Specificity.ofCounts, Number.ofNat]
  have hvalue : worst sheets 2 = .ok [⟨"#c", "b.css", .ofCounts 1 0 0, 1, 203, some 1⟩,
      ⟨".a", "a.css", .ofCounts 0 1 0, 1, 23, some 1⟩] := by
    cbv
  obtain ⟨hworst, hbegins⟩ := exists_areWorst_and_isPrefix hwhole
  obtain ⟨picked, hpicked, hareWorst⟩ := hworst 2
  obtain ⟨more, hmore, -⟩ := hworst 3
  refine ⟨hwhole, picked, _, hareWorst, ?_, hmore, hbegins 2 3 (by decide) _ _ hpicked hmore⟩
  exact Except.ok.inj (hpicked.symm.trans hvalue)

end RankedSelector

end StyleGauge
