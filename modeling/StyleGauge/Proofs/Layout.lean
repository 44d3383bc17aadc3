import Mathlib.Algebra.Order.BigOperators.Group.List
import Mathlib.Data.Rat.Floor
import StyleGauge.Proofs.Check.Found
import StyleGauge.Proofs.Check.Grades
import StyleGauge.Proofs.Matching

/-!
# Layout risk grows with a block

Each fragile combination multiplies by a factor of one at least and rounds, and so a risk neither
gets lower by a combination nor changes its order with a greater one. Of two blocks the one with
more declarations has the greater weight and every combination that the other one has. Hence the
risk grows with a block, whatever the order of its declarations, and a rule that is reported for
its risk stays reported with more declarations.
-/

namespace StyleGauge

open Listing (Matches)

namespace Layout

variable {c : Combination} {ds es : List Declaration} {m n : Nat}

/-! ### Combinations -/

/-- The number by which a combination multiplies. -/
def Combination.factor (c : Combination) : ℚ :=
  c.numerator / c.denominator

/-- A combination whose factor is one at least. -/
def Combination.Raises (c : Combination) : Prop :=
  0 < c.denominator ∧ c.denominator ≤ c.numerator

theorem raises_of_mem (hc : c ∈ combinations) : c.Raises := by
  have hall : ∀ c ∈ combinations, 0 < c.denominator ∧ c.denominator ≤ c.numerator := by decide
  exact hall c hc

/-- To multiply is to round the exact product to an integer, one half upwards. -/
theorem multiply_eq_floor (hc : c.Raises) (n : Nat) :
    (c.multiply n : Int) = ⌊(n : ℚ) * c.factor + 1 / 2⌋ := by
  have hne : (c.denominator : ℚ) ≠ 0 := by
    have := hc.1
    positivity
  have hsum : (n : ℚ) * c.factor + 1 / 2 =
      ((2 * n * c.numerator + c.denominator : Nat) : ℚ) / ((2 * c.denominator : Nat) : ℚ) := by
    rw [Combination.factor]
    push_cast
    field_simp
  rw [hsum, Rat.floor_natCast_div_natCast]
  rfl

example : combinations.map Combination.factor = [3 / 2, 3 / 2, 3 / 2, 3 / 2, 13 / 10, 6 / 5] := by
  norm_num [combinations, Combination.factor]

theorem multiply_mono (h : m ≤ n) : c.multiply m ≤ c.multiply n := by
  apply Nat.div_le_div_right
  gcongr

theorem le_multiply (hc : c.Raises) (n : Nat) : n ≤ c.multiply n := by
  obtain ⟨hpos, hle⟩ := hc
  rw [Combination.multiply, Nat.le_div_iff_mul_le (by omega)]
  calc n * (2 * c.denominator) = 2 * n * c.denominator := by ring
    _ ≤ 2 * n * c.numerator := Nat.mul_le_mul_left _ hle
    _ ≤ 2 * n * c.numerator + c.denominator := Nat.le_add_right _ _

theorem isPresent_mono (h : ds ⊆ es) (hds : c.isPresent ds = true) : c.isPresent es = true := by
  simp only [Combination.isPresent, List.all_eq_true, List.any_eq_true] at hds ⊢
  intro p hp
  obtain ⟨d, hd, hdp⟩ := hds p hp
  exact ⟨d, h hd, hdp⟩

theorem le_apply (hc : c.Raises) (ds : List Declaration) (n : Nat) : n ≤ c.apply ds n := by
  by_cases hds : c.isPresent ds = true
  · simpa [Combination.apply, hds] using le_multiply hc n
  · simp [Combination.apply, hds]

/-- A combination keeps the order of risks, also if only the greater one has it. -/
theorem apply_mono (hc : c.Raises) (h : ds ⊆ es) (hmn : m ≤ n) : c.apply ds m ≤ c.apply es n := by
  by_cases hds : c.isPresent ds = true
  · simpa [Combination.apply, hds, isPresent_mono h hds] using multiply_mono hmn
  · calc c.apply ds m = m := by simp [Combination.apply, hds]
      _ ≤ n := hmn
      _ ≤ c.apply es n := le_apply hc es n

theorem le_foldl_apply {cs : List Combination} (hcs : ∀ c ∈ cs, c.Raises) (ds : List Declaration)
    (n : Nat) : n ≤ cs.foldl (Combination.apply ds) n := by
  induction cs generalizing n with
  | nil => simp
  | cons c cs ih =>
    have hstep := le_apply (hcs c (by simp)) ds n
    exact hstep.trans (ih (fun c hc => hcs c (List.mem_cons_of_mem _ hc)) _)

theorem foldl_apply_mono {cs : List Combination} (hcs : ∀ c ∈ cs, c.Raises) (h : ds ⊆ es)
    (hmn : m ≤ n) : cs.foldl (Combination.apply ds) m ≤ cs.foldl (Combination.apply es) n := by
  induction cs generalizing m n with
  | nil => simpa using hmn
  | cons c cs ih =>
    have hstep := apply_mono (hcs c (by simp)) h hmn
    exact ih (fun c hc => hcs c (List.mem_cons_of_mem _ hc)) hstep

/-! ### Blocks -/

theorem total_le_of_subperm {xs ys : List Nat} (h : xs.Subperm ys) :
    Listing.total xs ≤ Listing.total ys := by
  obtain ⟨zs, hperm, hsub⟩ := h
  calc Listing.total xs = Listing.total zs := hperm.symm.sum_eq
    _ ≤ Listing.total ys := hsub.sum_le_sum fun _ _ => Nat.zero_le _

theorem risk_le_of_subperm (h : ds.Subperm es) : risk ds ≤ risk es := by
  apply foldl_apply_mono fun c hc => raises_of_mem hc
  · exact h.subset
  · apply total_le_of_subperm
    obtain ⟨fs, hperm, hsub⟩ := h
    exact ⟨_, hperm.map _, hsub.map _⟩

theorem risk_eq_of_perm (h : ds.Perm es) : risk ds = risk es :=
  Nat.le_antisymm (risk_le_of_subperm h.subperm) (risk_le_of_subperm h.symm.subperm)

theorem countP_affectsLayout_le_total (ds : List Declaration) :
    ds.countP Declaration.affectsLayout ≤ Listing.total (ds.map Declaration.layoutWeight) := by
  induction ds with
  | nil => simp
  | cons d ds ih =>
    by_cases hd : d.affectsLayout = true
    · simp [Declaration.layoutWeight, hd]
      omega
    · simp [Declaration.layoutWeight, hd, ih]

theorem countP_affectsLayout_le_risk (ds : List Declaration) :
    ds.countP Declaration.affectsLayout ≤ risk ds := by
  apply (countP_affectsLayout_le_total ds).trans
  exact le_foldl_apply (fun _ hc => raises_of_mem hc) ds _

end Layout

/-! ### Grades -/

namespace Severity

theorem ofLayoutRisk_int (risk : Int) : ofLayoutRisk (.int risk) =
    if 15 ≤ risk then high else if 10 ≤ risk then medium else low := by
  have hle (m n : Int) : Number.le (.int m) (.int n) = decide (m ≤ n) := Number.le_int m n
  show (if Number.le (.int 15) (.int risk) then high
    else if Number.le (.int 10) (.int risk) then medium else low) = _
  simp only [hle, decide_eq_true_eq]

theorem rank_ofLayoutRisk_le {m n : Int} (h : m ≤ n) :
    (ofLayoutRisk (.int n)).rank ≤ (ofLayoutRisk (.int m)).rank := by
  simp only [ofLayoutRisk_int]
  split_ifs <;> first | omega | decide

end Severity

/-! ### Rules -/

/-- The rule `r'` is `r` with declarations added anywhere. -/
def Rule.Gains (r r' : Rule) : Prop :=
  r.declarations.Sublist r'.declarations ∧ r' = { r with declarations := r'.declarations }

/-- The stylesheet `s'` is `s` with declarations added to its rules. -/
def Stylesheet.Gains (s s' : Stylesheet) : Prop :=
  s'.file = s.file ∧ List.Forall₂ Rule.Gains s.rules s'.rules

/-- The issue `j` points to the rule that `i` points to, and is at least as severe. -/
structure Issue.Persists (i j : Issue) : Prop where
  check : j.check = i.check
  file : j.evidence.file = i.evidence.file
  selector : j.evidence.selector = i.evidence.selector
  line : j.evidence.line = i.evidence.line
  severity : j.severity.rank ≤ i.severity.rank

namespace Check.LayoutRiskHotspot

/-- A rule that is reported is reported with more declarations. -/
theorem exists_persists {file : String} {r r' : Rule} (h : r.Gains r') {i : Issue}
    (hi : issue? ⟨file, r⟩ = some i) : ∃ j, issue? ⟨file, r'⟩ = some j ∧ i.Persists j := by
  obtain ⟨hsub, hr⟩ := h
  obtain ⟨hrisk, rfl⟩ := issue?_eq_some_iff.1 hi
  have hle : Layout.risk r.declarations ≤ Layout.risk r'.declarations :=
    Layout.risk_le_of_subperm hsub.subperm
  refine ⟨_, issue?_eq_some_iff.2 ⟨hrisk.trans hle, rfl⟩, ?_⟩
  rw [hr]
  exact {
    check := rfl
    file := rfl
    selector := rfl
    line := rfl
    severity := Severity.rank_ofLayoutRisk_le (Int.ofNat_le.2 hle) }

theorem sites_gains {sheets sheets' : List Stylesheet}
    (h : List.Forall₂ Stylesheet.Gains sheets sheets') :
    List.Forall₂ (fun s s' => s'.file = s.file ∧ s.rule.Gains s'.rule) (sites sheets)
      (sites sheets') := by
  induction h with
  | nil => simp
  | @cons s s' sheets sheets' hs hsheets ih =>
    obtain ⟨hfile, hrules⟩ := hs
    simp only [sites_cons]
    apply List.rel_append _ ih
    rw [List.forall₂_map_left_iff, List.forall₂_map_right_iff]
    exact hrules.imp fun r r' hr => ⟨hfile, hr⟩

/-- The issues of stylesheets persist when declarations are added to their rules. -/
theorem matches_run_of_gains {sheets sheets' : List Stylesheet}
    (h : List.Forall₂ Stylesheet.Gains sheets sheets') :
    Matches Issue.Persists (run sheets) (run sheets') := by
  have hmatches : Matches (fun s s' : Site => s'.file = s.file ∧ s.rule.Gains s'.rule)
      (sites sheets) (sites sheets') :=
    ⟨_, sites_gains h, List.Subperm.refl _⟩
  apply hmatches.filterMap
  rintro ⟨file, r⟩ ⟨file', r'⟩ - ⟨rfl, hr⟩ i hi
  exact exists_persists hr hi

/-- With the factors as exact numbers, the risk does not depend on the order of the declarations,
does not get lower when some are added anywhere, and counts each declaration that affects layout.
So what is reported for its risk stays reported, and is as severe at least. -/
theorem risk_grows_and_hotspots_persist :
    (∀ c ∈ Layout.combinations, ∀ n : Nat,
        (c.multiply n : Int) = ⌊(n : ℚ) * c.factor + 1 / 2⌋) ∧
      (∀ ds es : List Declaration, ds.Perm es → Layout.risk ds = Layout.risk es) ∧
      (∀ ds es : List Declaration, ds.Sublist es → Layout.risk ds ≤ Layout.risk es) ∧
      (∀ ds : List Declaration, ds.countP Declaration.affectsLayout ≤ Layout.risk ds) ∧
      (∀ (file : String) (r r' : Rule), r.Gains r' → ∀ i, issue? ⟨file, r⟩ = some i →
        ∃ j, issue? ⟨file, r'⟩ = some j ∧ i.Persists j) ∧
      ∀ sheets sheets', List.Forall₂ Stylesheet.Gains sheets sheets' →
        Matches Issue.Persists (run sheets) (run sheets') := by
  refine ⟨?_, ?_, ?_, ?_, ?_, ?_⟩
  · intro c hc n
    exact Layout.multiply_eq_floor (Layout.raises_of_mem hc) n
  · intro ds es hperm
    exact Layout.risk_eq_of_perm hperm
  · intro ds es hsub
    exact Layout.risk_le_of_subperm hsub.subperm
  · exact Layout.countP_affectsLayout_le_risk
  · intro file r r' hr i hi
    exact exists_persists hr hi
  · intro sheets sheets' h
    exact matches_run_of_gains h

/-- A position between five other properties switches two combinations on. -/
theorem risk_grows_and_hotspots_persist_position :
    let declaration (property value : String) : Declaration := ⟨property, value, false⟩
    let front := [declaration "width" "1px", declaration "height" "1px"]
    let back := [declaration "top" "0", declaration "left" "0", declaration "float" "left"]
    let rule (ds : List Declaration) : Rule := ⟨[], ds, "a.css", some 1, none, none⟩
    let sheet (ds : List Declaration) : Stylesheet := { file := "a.css", rules := [rule ds] }
    let more := front ++ declaration "position" "fixed" :: back
    (front ++ back).Perm (back ++ front) ∧ (front ++ back).Sublist more ∧
      Layout.risk (back ++ front) = 7 ∧ Layout.risk more = 16 ∧
      Layout.risk (front ++ back) = Layout.risk (back ++ front) ∧
      Layout.risk (front ++ back) ≤ Layout.risk more ∧
      (∃ i j, issue? ⟨"a.css", rule (front ++ back)⟩ = some i ∧
        issue? ⟨"a.css", rule more⟩ = some j ∧ i.Persists j ∧ i.severity = .low ∧
        j.severity = .high) ∧
      Matches Issue.Persists (run [sheet (front ++ back)]) (run [sheet more]) := by
  intro declaration front back rule sheet more
  have hperm : (front ++ back).Perm (back ++ front) := List.perm_append_comm
  have hsub : (front ++ back).Sublist more :=
    (List.Sublist.refl front).append (List.sublist_cons_self _ back)
  have hgains : (rule (front ++ back)).Gains (rule more) := ⟨hsub, rfl⟩
  obtain ⟨-, horder, hmono, -, hrule, hrun⟩ := risk_grows_and_hotspots_persist
  obtain ⟨j, hj, hpersists⟩ := hrule "a.css" _ _ hgains (issue 7 ⟨"a.css", rule (front ++ back)⟩)
    (by decide +kernel)
  refine ⟨hperm, hsub, by decide +kernel, by decide +kernel, horder _ _ hperm, hmono _ _ hsub,
    ?_, ?_⟩
  · refine ⟨_, j, (by decide +kernel), hj, hpersists, by decide +kernel, ?_⟩
    obtain ⟨-, rfl⟩ := issue?_eq_some_iff.1 hj
    decide +kernel
  · exact hrun [sheet (front ++ back)] [sheet more] (.cons ⟨rfl, .cons hgains .nil⟩ .nil)

end Check.LayoutRiskHotspot

end StyleGauge
