import Mathlib.Algebra.Order.BigOperators.Group.List
import StyleGauge.Metrics.Basic
import StyleGauge.Metrics.Ranking
import StyleGauge.Proofs.Number.Range
import StyleGauge.Proofs.Stylesheet.Size

/-!
# Metrics within a range

The metrics of stylesheets are computed without a fault as long as their counts are those of texts
that a machine of 64 bits can hold: the counts stay far below what binary64 can represent, and so do
the averages, however many numbers they are made of.
-/

namespace StyleGauge

open Number (Fault)

/-! ### Specificities -/

namespace Specificity

/-- A specificity whose components are within a range. -/
def IsWithin (k : Nat) (s : Specificity) : Prop :=
  s.ids.IsWithin k ∧ s.classes.IsWithin k ∧ s.elements.IsWithin k

variable {b k : Nat} {s t : Specificity}

theorem IsCount.isWithin (h : s.IsCount b) (hb : b ≤ 2 ^ k) : s.IsWithin k := by
  obtain ⟨i, c, e, rfl, hi, hc, he⟩ := h
  exact ⟨Number.isWithin_ofNat (hi.trans hb), Number.isWithin_ofNat (hc.trans hb),
    Number.isWithin_ofNat (he.trans hb)⟩

theorem isCount_zero (b : Nat) : IsCount b zero :=
  ⟨0, 0, 0, rfl, Nat.zero_le b, Nat.zero_le b, Nat.zero_le b⟩

/-- The score of whole counts is a whole number. -/
theorem IsCount.score (h : s.IsCount b) :
    Yields s.score fun x => ∃ n : Nat, x = .int n ∧ n ≤ 111 * b := by
  obtain ⟨i, c, e, rfl, hi, hc, he⟩ := h
  rw [score_ofCounts]
  exact yields_ok ⟨100 * i + 10 * c + e, by push_cast; rfl, by omega⟩

theorem IsCount.compare (hs : s.IsCount b) (ht : t.IsCount b) :
    Yields (s.compare t) fun _ => True := by
  obtain ⟨i, c, e, rfl, -⟩ := hs
  obtain ⟨i', c', e', rfl, -⟩ := ht
  unfold Specificity.compare
  split_ifs <;> exact yields_ok trivial

/-- The greatest of specificities with whole counts has whole counts. -/
theorem yields_maximum {specificities : List Specificity}
    (h : ∀ s ∈ specificities, IsCount b s) : Yields (maximum specificities) (IsCount b) := by
  cases specificities with
  | nil => exact yields_ok (isCount_zero b)
  | cons s rest =>
    refine yields_foldlM (fun _ best => IsCount b best) ?_ (h s (by simp))
    intro t ht n best hbest
    have ht := h t (List.mem_cons_of_mem s ht)
    refine (ht.compare hbest).bind fun c _ => yields_pure ?_
    split_ifs
    · exact ht
    · exact hbest

/-- The score of a specificity needs room for its weights. -/
theorem IsWithin.score (h : s.IsWithin k) (hk : k + 9 ≤ 1023) :
    Yields s.score (Number.IsWithin (k + 9)) := by
  have hhundred : Number.IsWithin 7 (.int 100) := by
    show |(100 : Int)| ≤ 2 ^ 7
    norm_num
  have hten : Number.IsWithin 7 (.int 10) := by
    show |(10 : Int)| ≤ 2 ^ 7
    norm_num
  unfold Specificity.score
  refine (h.1.mul hhundred (by omega)).bind fun i hi => ?_
  refine (h.2.1.mul hten (by omega)).bind fun c hc => ?_
  refine (hi.add hc (by omega)).bind fun ic hic => ?_
  exact hic.add (h.2.2.mono (by omega)) (by omega)

end Specificity

/-- The mean of small numbers, rounded. -/
theorem yields_meanDepth {j k : Nat} {numbers : List Number} (h : ∀ y ∈ numbers, y.IsWithin j)
    (hlength : numbers.length * 2 ^ j ≤ 2 ^ k) (hjk : j + 54 ≤ k) (hk : k + 8 ≤ 1023) :
    Yields (meanDepth numbers) (Number.IsWithin (k + 8)) :=
  (Number.yields_average h hlength hjk (by omega)).bind fun _ hmean => hmean.roundHalfUp_two hk

theorem Specificity.yields_average {j k : Nat} {specificities : List Specificity}
    (h : ∀ s ∈ specificities, s.IsWithin j) (hlength : specificities.length * 2 ^ j ≤ 2 ^ k)
    (hjk : j + 54 ≤ k) (hk : k + 8 ≤ 1023) :
    Yields (Specificity.average specificities) (Specificity.IsWithin (k + 8)) := by
  have hcomponent : ∀ get : Specificity → Number, (∀ s ∈ specificities, (get s).IsWithin j) →
      Yields (meanDepth (specificities.map get)) (Number.IsWithin (k + 8)) := by
    intro get hget
    refine yields_meanDepth ?_ (by rwa [List.length_map]) hjk hk
    intro y hy
    obtain ⟨s, hs, rfl⟩ := List.mem_map.1 hy
    exact hget s hs
  unfold Specificity.average
  split_ifs
  · exact yields_ok ((isCount_zero 0).isWithin (Nat.zero_le _))
  · refine (hcomponent Specificity.ids fun s hs => (h s hs).1).bind fun i hi => ?_
    refine (hcomponent Specificity.classes fun s hs => (h s hs).2.1).bind fun c hc => ?_
    refine (hcomponent Specificity.elements fun s hs => (h s hs).2.2).bind fun e he => ?_
    exact yields_pure ⟨hi, hc, he⟩

/-! ### Totals -/

theorem sum_map_le {α : Type} {l : List α} {f : α → Nat} {a b : Nat} (hl : l.length ≤ a)
    (hf : ∀ x ∈ l, f x ≤ b) : (l.map f).sum ≤ a * b := by
  have hsum : (l.map f).sum ≤ (l.map f).length * b :=
    List.sum_le_card_nsmul (l.map f) b (by simpa using hf)
  rw [List.length_map] at hsum
  exact hsum.trans (Nat.mul_le_mul_right b hl)

namespace Listing

variable {α : Type} {l : List α} {a b : Nat}

theorem total_eq_sum (xs : List Nat) : total xs = xs.sum := rfl

theorem total_map_le {f : α → Nat} (hl : l.length ≤ a) (hf : ∀ x ∈ l, f x ≤ b) :
    total (l.map f) ≤ a * b := by
  rw [total_eq_sum]
  exact sum_map_le hl hf

theorem abs_total_map_le {f : α → Int} (hl : l.length ≤ a) (hf : ∀ x ∈ l, |f x| ≤ b) :
    |total (l.map f)| ≤ a * b := by
  have htotal : |total (l.map f)| ≤ l.length * b := by
    clear hl
    induction l with
    | nil => simp
    | cons x l ih =>
      have hx := hf x (by simp)
      have hrest := ih fun y hy => hf y (List.mem_cons_of_mem x hy)
      calc |total ((x :: l).map f)| ≤ |f x| + |total (l.map f)| := by
            rw [List.map_cons, total_cons]
            exact abs_add_le _ _
        _ ≤ b + l.length * b := add_le_add hx hrest
        _ = (x :: l).length * b := by
          push_cast [List.length_cons]
          ring
  refine htotal.trans ?_
  exact_mod_cast Nat.mul_le_mul_right b hl

end Listing

/-! ### Layout risk -/

namespace Layout

/-- No combination more than doubles a risk. -/
theorem apply_le {c : Combination} (hc : c ∈ combinations) (ds : List Declaration) (risk : Nat) :
    c.apply ds risk ≤ 2 * risk := by
  have hmultiply : c.multiply risk ≤ 2 * risk := by
    unfold Combination.multiply
    simp only [combinations, List.mem_cons, List.not_mem_nil, or_false] at hc
    rcases hc with rfl | rfl | rfl | rfl | rfl | rfl <;> dsimp only <;> omega
  unfold Combination.apply
  split_ifs
  · exact hmultiply
  · omega

theorem foldl_apply_le {cs : List Combination} (hcs : ∀ c ∈ cs, c ∈ combinations)
    (ds : List Declaration) (risk : Nat) :
    cs.foldl (Combination.apply ds) risk ≤ 2 ^ cs.length * risk := by
  induction cs generalizing risk with
  | nil => simp
  | cons c cs ih =>
    have happly := apply_le (hcs c (by simp)) ds risk
    calc (c :: cs).foldl (Combination.apply ds) risk
        ≤ 2 ^ cs.length * c.apply ds risk := ih (fun d hd => hcs d (List.mem_cons_of_mem c hd)) _
      _ ≤ 2 ^ cs.length * (2 * risk) := Nat.mul_le_mul_left _ happly
      _ = 2 ^ (c :: cs).length * risk := by
        rw [List.length_cons]
        ring

theorem layoutWeight_le (d : Declaration) : d.layoutWeight ≤ 4 := by
  unfold Declaration.layoutWeight
  split_ifs <;> omega

/-- The risk of a block grows with its length only. -/
theorem risk_le (ds : List Declaration) : risk ds ≤ 256 * ds.length := by
  have htotal : Listing.total (ds.map Declaration.layoutWeight) ≤ ds.length * 4 :=
    Listing.total_map_le le_rfl fun d _ => layoutWeight_le d
  have hfold := @foldl_apply_le combinations (fun c hc => hc) ds
    (Listing.total (ds.map Declaration.layoutWeight))
  have hlength : combinations.length = 6 := rfl
  rw [hlength] at hfold
  unfold risk
  omega

end Layout

/-! ### One stylesheet -/

namespace Stylesheet

variable {b : Nat} {s : Stylesheet}

theorem IsSized.length_selectors_le (h : s.IsSized b) : s.selectors.length ≤ b * b := by
  unfold selectors
  rw [List.length_flatMap]
  exact sum_map_le h.rules fun r hr => (h.rule r hr).selectors

theorem IsSized.selector (h : s.IsSized b) : ∀ x ∈ s.selectors, x.IsSized b := by
  intro x hx
  obtain ⟨r, hr, hx⟩ := List.mem_flatMap.1 hx
  exact (h.rule r hr).selector x hx

theorem IsSized.important_le (h : s.IsSized b) :
    Listing.total (s.rules.map Rule.importantCount) ≤ b * b :=
  Listing.total_map_le h.rules fun r hr =>
    List.countP_le_length.trans (h.rule r hr).declarations

theorem IsSized.layoutRisk_le (h : s.IsSized b) :
    Listing.total (s.rules.map fun r => Layout.risk r.declarations) ≤ b * (256 * b) :=
  Listing.total_map_le h.rules fun r hr =>
    (Layout.risk_le _).trans (Nat.mul_le_mul_left _ (h.rule r hr).declarations)

end Stylesheet

/-- Metrics of which the counts that scores depend on, and all averages, are within a range. -/
structure FileMetrics.IsWithin (k : Nat) (m : FileMetrics) : Prop where
  important : |m.important| ≤ 2 ^ k
  duplicates : |m.duplicates| ≤ 2 ^ k
  layoutRisk : |m.layoutRisk| ≤ 2 ^ k
  averageDepth : m.averageDepth.IsWithin k
  maxSpecificity : m.maxSpecificity.IsCount (2 ^ 64)
  averageSpecificity : m.averageSpecificity.IsWithin k

theorem abs_natCast_le {n k : Nat} (h : n ≤ 2 ^ k) : |(n : Int)| ≤ 2 ^ k := by
  rw [abs_of_nonneg (Int.natCast_nonneg n)]
  exact_mod_cast h

/-- The metrics of a stylesheet have values. -/
theorem Stylesheet.IsSized.metrics {s : Stylesheet} (h : s.IsSized (2 ^ 64)) :
    Yields s.metrics (FileMetrics.IsWithin 200) := by
  have hlength : s.selectors.length ≤ 2 ^ 128 := h.length_selectors_le
  have hdepth : Yields (meanDepth (s.selectors.map fun x => .int x.depth))
      (Number.IsWithin 200) := by
    refine yields_meanDepth (j := 64) (k := 192) ?_ ?_ (by norm_num) (by norm_num)
    · intro y hy
      obtain ⟨x, hx, rfl⟩ := List.mem_map.1 hy
      show |x.depth| ≤ 2 ^ 64
      rw [abs_of_nonneg (h.selector x hx).depth_nonneg]
      exact_mod_cast (h.selector x hx).depth_le
    · rw [List.length_map]
      calc s.selectors.length * 2 ^ 64 ≤ 2 ^ 128 * 2 ^ 64 := Nat.mul_le_mul_right _ hlength
        _ = 2 ^ 192 := by norm_num
  have hcount : ∀ x ∈ s.selectors.map Selector.specificity, x.IsCount (2 ^ 64) := by
    intro y hy
    obtain ⟨x, hx, rfl⟩ := List.mem_map.1 hy
    exact (h.selector x hx).specificity
  have haverage : Yields (Specificity.average (s.selectors.map Selector.specificity))
      (Specificity.IsWithin 200) := by
    refine Specificity.yields_average (j := 64) (k := 192)
      (fun x hx => (hcount x hx).isWithin le_rfl) ?_ (by norm_num) (by norm_num)
    rw [List.length_map]
    calc s.selectors.length * 2 ^ 64 ≤ 2 ^ 128 * 2 ^ 64 := Nat.mul_le_mul_right _ hlength
      _ = 2 ^ 192 := by norm_num
  unfold Stylesheet.metrics
  refine hdepth.bind fun d hd => ?_
  refine (Specificity.yields_maximum hcount).bind fun m hm => ?_
  refine haverage.bind fun a ha => yields_pure ?_
  refine ⟨?_, ?_, ?_, hd, hm, ha⟩
  · exact abs_natCast_le (h.important_le.trans (by norm_num))
  · norm_num
  · exact abs_natCast_le (h.layoutRisk_le.trans (by norm_num))

/-! ### All stylesheets -/

/-- Metrics of which the counts that scores depend on, and all averages, are within a range. -/
structure GlobalMetrics.IsWithin (k : Nat) (m : GlobalMetrics) : Prop where
  important : |m.important| ≤ 2 ^ k
  duplicates : |m.duplicates| ≤ 2 ^ k
  layoutRisk : |m.layoutRisk| ≤ 2 ^ k
  maxSpecificity : m.maxSpecificity.IsCount (2 ^ 64)
  averageSpecificity : m.averageSpecificity.IsWithin k

/-- The metrics of all stylesheets have values. -/
theorem GlobalMetrics.yields_ofFiles {files : List FileMetrics} (hlength : files.length ≤ 2 ^ 64)
    (h : ∀ m ∈ files, m.IsWithin 200) : Yields (ofFiles files) (GlobalMetrics.IsWithin 280) := by
  have hroom : files.length * 2 ^ 200 ≤ 2 ^ 272 := by
    calc files.length * 2 ^ 200 ≤ 2 ^ 64 * 2 ^ 200 := Nat.mul_le_mul_right _ hlength
      _ = 2 ^ (64 + 200) := (pow_add 2 64 200).symm
      _ ≤ 2 ^ 272 := pow_le_pow_right₀ (by norm_num) (by norm_num)
  have htotal : ∀ get : FileMetrics → Int, (∀ m ∈ files, |get m| ≤ 2 ^ 200) →
      |Listing.total (files.map get)| ≤ 2 ^ 280 := by
    intro get hget
    have hle := @Listing.abs_total_map_le _ files (2 ^ 64) (2 ^ 200) get hlength
      (by exact_mod_cast hget)
    calc |Listing.total (files.map get)| ≤ ((2 ^ 64 : Nat) : Int) * ((2 ^ 200 : Nat) : Int) := hle
      _ = 2 ^ (64 + 200) := by
        rw [Nat.cast_pow, Nat.cast_pow, ← pow_add]
        rfl
      _ ≤ 2 ^ 280 := pow_le_pow_right₀ (by norm_num) (by norm_num)
  have hdepth : Yields (meanDepth (files.map FileMetrics.averageDepth))
      (Number.IsWithin 280) := by
    refine yields_meanDepth (j := 200) (k := 272) ?_ (by rwa [List.length_map]) (by norm_num)
      (by norm_num)
    intro y hy
    obtain ⟨m, hm, rfl⟩ := List.mem_map.1 hy
    exact (h m hm).averageDepth
  have hmaximum : Yields (Specificity.maximum (files.map FileMetrics.maxSpecificity))
      (Specificity.IsCount (2 ^ 64)) := by
    refine Specificity.yields_maximum ?_
    intro y hy
    obtain ⟨m, hm, rfl⟩ := List.mem_map.1 hy
    exact (h m hm).maxSpecificity
  have haverage : Yields (Specificity.average (files.map FileMetrics.averageSpecificity))
      (Specificity.IsWithin 280) := by
    refine Specificity.yields_average (j := 200) (k := 272) ?_ (by rwa [List.length_map])
      (by norm_num) (by norm_num)
    intro y hy
    obtain ⟨m, hm, rfl⟩ := List.mem_map.1 hy
    exact (h m hm).averageSpecificity
  unfold GlobalMetrics.ofFiles
  split_ifs with hempty
  · refine yields_ok ⟨by norm_num, by norm_num, by norm_num, Specificity.isCount_zero _, ?_⟩
    exact (Specificity.isCount_zero 0).isWithin (Nat.zero_le _)
  · refine hdepth.bind fun d _ => ?_
    refine hmaximum.bind fun m hm => ?_
    refine haverage.bind fun a ha => yields_pure ?_
    exact ⟨htotal _ fun m hm => (h m hm).important, htotal _ fun m hm => (h m hm).duplicates,
      htotal _ fun m hm => (h m hm).layoutRisk, hm, ha⟩

/-! ### The worst selectors -/

/-- Ranking selectors needs whole numbers only. -/
theorem RankedSelector.yields_worst {sheets : List Stylesheet} {b : Nat}
    (h : ∀ s ∈ sheets, s.IsSized b) (limit : Int) :
    Yields (worst sheets limit) fun _ => True := by
  have hall : Yields (all sheets) fun _ => True := by
    refine (yields_mapM (r := fun _ => True) ?_).mono fun _ _ => trivial
    rintro ⟨site, x⟩ hx
    simp only [sites, List.mem_flatMap, List.mem_map] at hx
    obtain ⟨_, ⟨s, hs, r, hr, rfl⟩, x, hx, heq⟩ := hx
    obtain ⟨rfl, rfl⟩ := Prod.mk.inj heq
    obtain ⟨i, c, e, hcount, -⟩ := (((h s hs).rule r hr).selector x hx).specificity
    unfold ofSelector
    rw [hcount, Specificity.score_ofCounts]
    exact yields_ok trivial
  unfold worst
  exact hall.bind fun _ _ => yields_pure trivial

end StyleGauge
