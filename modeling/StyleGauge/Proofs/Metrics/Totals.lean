import StyleGauge.Proofs.Listing
import StyleGauge.Proofs.Metrics.Average

/-!
# Totals and maxima

The totals and maxima of all stylesheets are those of their rules in a row. It does not matter how
the rules are split into stylesheets, nor in which order these come.
-/

namespace StyleGauge

open Number (Fault)

/-- What metrics count and what they have the maximum of. -/
structure Totals where
  rules : Int
  selectors : Int
  declarations : Int
  maxDepth : Int
  maxSpecificity : Specificity
  important : Int
  duplicates : Int
  layoutRisk : Int
  deriving DecidableEq

/-- The totals and maxima of one stylesheet. -/
def FileMetrics.totals (m : FileMetrics) : Totals where
  rules := m.rules
  selectors := m.selectors
  declarations := m.declarations
  maxDepth := m.maxDepth
  maxSpecificity := m.maxSpecificity
  important := m.important
  duplicates := m.duplicates
  layoutRisk := m.layoutRisk

/-- The totals and maxima of all stylesheets. -/
def GlobalMetrics.totals (m : GlobalMetrics) : Totals where
  rules := m.rules
  selectors := m.selectors
  declarations := m.declarations
  maxDepth := m.maxDepth
  maxSpecificity := m.maxSpecificity
  important := m.important
  duplicates := m.duplicates
  layoutRisk := m.layoutRisk

namespace Totals

/-- The totals and maxima of rules of which the greatest specificity is known. -/
def ofRules (rules : List Rule) (maxSpecificity : Specificity) : Totals where
  rules := rules.length
  selectors := (rules.flatMap Rule.selectors).length
  declarations := (rules.flatMap Rule.declarations).length
  maxDepth := ((rules.flatMap Rule.selectors).map Selector.depth).foldl max 0
  maxSpecificity
  important := (Listing.total (rules.map Rule.importantCount) : Nat)
  duplicates := 0
  layoutRisk := (Listing.total (rules.map fun r => Layout.risk r.declarations) : Nat)

theorem ofRules_perm {a b : List Rule} (h : a.Perm b) (s : Specificity) :
    ofRules a s = ofRules b s := by
  have hselectors := h.flatMap_right Rule.selectors
  have hdeclarations := h.flatMap_right Rule.declarations
  have hdepth := (hselectors.map Selector.depth).foldl_eq (f := max) (0 : Int)
  have htotal : ∀ f : Rule → Nat, Listing.total (a.map f) = Listing.total (b.map f) :=
    fun f => (h.map f).sum_eq
  rw [ofRules, ofRules, h.length_eq, hselectors.length_eq, hdeclarations.length_eq, hdepth, htotal,
    htotal]

end Totals

namespace Stylesheet

variable {s : Stylesheet} {m : FileMetrics}

/-- The metrics of a stylesheet are the totals of its rules, and the maximum and the averages of its
selectors. -/
structure HasMetrics (s : Stylesheet) (m : FileMetrics) : Prop where
  file : m.file = s.file
  totals : m.totals = Totals.ofRules s.rules m.maxSpecificity
  averageDepth : meanDepth (s.selectors.map fun x => .int x.depth) = .ok m.averageDepth
  maxSpecificity :
    Specificity.maximum (s.selectors.map Selector.specificity) = .ok m.maxSpecificity
  averageSpecificity :
    Specificity.average (s.selectors.map Selector.specificity) = .ok m.averageSpecificity

theorem hasMetrics (h : s.metrics = .ok m) : s.HasMetrics m := by
  obtain ⟨depth, hdepth, h⟩ := bind_eq_ok_iff.1 h
  obtain ⟨greatest, hgreatest, h⟩ := bind_eq_ok_iff.1 h
  obtain ⟨mean, hmean, h⟩ := bind_eq_ok_iff.1 h
  obtain rfl := pure_eq_ok_iff.1 h
  exact ⟨rfl, rfl, hdepth, hgreatest, hmean⟩

theorem exists_metrics_iff : (∃ m, s.metrics = .ok m) ↔
    (∃ r, meanDepth (s.selectors.map fun x => .int x.depth) = .ok r) ∧
      (∃ w, Specificity.maximum (s.selectors.map Selector.specificity) = .ok w) ∧
      ∃ a, Specificity.average (s.selectors.map Selector.specificity) = .ok a := by
  constructor
  · rintro ⟨m, h⟩
    have hm := hasMetrics h
    exact ⟨⟨_, hm.averageDepth⟩, ⟨_, hm.maxSpecificity⟩, ⟨_, hm.averageSpecificity⟩⟩
  · rintro ⟨⟨depth, hdepth⟩, ⟨greatest, hgreatest⟩, ⟨mean, hmean⟩⟩
    rw [metrics, hdepth, hgreatest, hmean]
    exact ⟨_, rfl⟩

end Stylesheet

theorem greatest_le_iff {ns : List Int} {a : Int} (ha : 0 ≤ a) :
    greatest ns ≤ a ↔ ∀ n ∈ ns, n ≤ a := by
  cases ns with
  | nil => simpa [greatest] using ha
  | cons n ns => simp [greatest, Listing.foldl_max_le_iff]

namespace GlobalMetrics

variable {files : List FileMetrics} {g : GlobalMetrics}

/-- Without stylesheets the metrics are the totals, the maximum and the averages of nothing. -/
theorem ofFiles_eq (files : List FileMetrics) : ofFiles files = do return {
    files := files.length
    rules := Listing.total (files.map FileMetrics.rules)
    selectors := Listing.total (files.map FileMetrics.selectors)
    declarations := Listing.total (files.map FileMetrics.declarations)
    maxDepth := greatest (files.map FileMetrics.maxDepth)
    averageDepth := ← meanDepth (files.map FileMetrics.averageDepth)
    maxSpecificity := ← Specificity.maximum (files.map FileMetrics.maxSpecificity)
    averageSpecificity := ← Specificity.average (files.map FileMetrics.averageSpecificity)
    important := Listing.total (files.map FileMetrics.important)
    duplicates := Listing.total (files.map FileMetrics.duplicates)
    layoutRisk := Listing.total (files.map FileMetrics.layoutRisk) } := by
  cases files with
  | nil =>
    simp only [List.map_nil, meanDepth_nil]
    rfl
  | cons m files => rfl

theorem exists_ofFiles_iff : (∃ g, ofFiles files = .ok g) ↔
    (∃ r, meanDepth (files.map FileMetrics.averageDepth) = .ok r) ∧
      (∃ w, Specificity.maximum (files.map FileMetrics.maxSpecificity) = .ok w) ∧
      ∃ a, Specificity.average (files.map FileMetrics.averageSpecificity) = .ok a := by
  rw [ofFiles_eq]
  constructor
  · rintro ⟨g, h⟩
    obtain ⟨depth, hdepth, h⟩ := bind_eq_ok_iff.1 h
    obtain ⟨greatest, hgreatest, h⟩ := bind_eq_ok_iff.1 h
    obtain ⟨mean, hmean, -⟩ := bind_eq_ok_iff.1 h
    exact ⟨⟨depth, hdepth⟩, ⟨greatest, hgreatest⟩, ⟨mean, hmean⟩⟩
  · rintro ⟨⟨depth, hdepth⟩, ⟨greatest, hgreatest⟩, ⟨mean, hmean⟩⟩
    rw [hdepth, hgreatest, hmean]
    exact ⟨_, rfl⟩

variable {sheets : List Stylesheet}

theorem totals_of_ofFiles_eq_ok (h : ofFiles files = .ok g) :
    Specificity.maximum (files.map FileMetrics.maxSpecificity) = .ok g.maxSpecificity ∧
      g.totals = {
        rules := Listing.total (files.map FileMetrics.rules)
        selectors := Listing.total (files.map FileMetrics.selectors)
        declarations := Listing.total (files.map FileMetrics.declarations)
        maxDepth := greatest (files.map FileMetrics.maxDepth)
        maxSpecificity := g.maxSpecificity
        important := Listing.total (files.map FileMetrics.important)
        duplicates := Listing.total (files.map FileMetrics.duplicates)
        layoutRisk := Listing.total (files.map FileMetrics.layoutRisk) } := by
  rw [ofFiles_eq] at h
  obtain ⟨depth, -, h⟩ := bind_eq_ok_iff.1 h
  obtain ⟨greatest, hgreatest, h⟩ := bind_eq_ok_iff.1 h
  obtain ⟨mean, -, h⟩ := bind_eq_ok_iff.1 h
  obtain rfl := pure_eq_ok_iff.1 h
  exact ⟨hgreatest, rfl⟩

/-- What is counted rule by rule is counted stylesheet by stylesheet. -/
theorem total_flatMap_rules (count : List Rule → Nat) (hnil : count [] = 0)
    (happend : ∀ a b, count (a ++ b) = count a + count b) (sheets : List Stylesheet) :
    Listing.total (sheets.map fun s => (count s.rules : Int)) =
      (count (sheets.flatMap Stylesheet.rules) : Nat) := by
  induction sheets with
  | nil =>
    rw [List.flatMap_nil, hnil]
    rfl
  | cons s sheets ih =>
    rw [List.map_cons, Listing.total_cons, ih, List.flatMap_cons, happend, Nat.cast_add]

/-- The greatest depth of all stylesheets is that of all their selectors. -/
theorem greatest_depth (sheets : List Stylesheet) :
    greatest (sheets.map fun s => (s.selectors.map Selector.depth).foldl max 0) =
      ((sheets.flatMap Stylesheet.selectors).map Selector.depth).foldl max 0 := by
  have hdepth : ∀ {a : Int}, 0 ≤ a →
      (greatest (sheets.map fun s => (s.selectors.map Selector.depth).foldl max 0) ≤ a ↔
        ((sheets.flatMap Stylesheet.selectors).map Selector.depth).foldl max 0 ≤ a) := by
    intro a ha
    rw [greatest_le_iff ha, Listing.foldl_max_le_iff]
    simp only [List.forall_mem_map, List.forall_mem_flatMap, Listing.foldl_max_le_iff, ha, true_and]
  have hnonneg : ∀ depths : List Int, 0 ≤ depths.foldl max 0 := by
    intro depths
    exact (Listing.foldl_max_le_iff.1 (le_refl (depths.foldl max 0))).1
  have hnonneg' :
      0 ≤ greatest (sheets.map fun s => (s.selectors.map Selector.depth).foldl max 0) := by
    cases sheets with
    | nil => exact le_refl 0
    | cons s sheets =>
      exact (hnonneg _).trans (Listing.foldl_max_le_iff.1 (le_refl _)).1
  exact le_antisymm ((hdepth (hnonneg _)).2 (le_refl _)) ((hdepth hnonneg').1 (le_refl _))

section

variable (hfiles : sheets.mapM Stylesheet.metrics = .ok files)
include hfiles

/-- A total of metrics that are counted in the rules of each stylesheet. -/
theorem total_files (get : FileMetrics → Int) (count : List Rule → Nat) (hnil : count [] = 0)
    (happend : ∀ a b, count (a ++ b) = count a + count b)
    (hget : ∀ s m, Stylesheet.HasMetrics s m → get m = count s.rules) :
    Listing.total (files.map get) = (count (sheets.flatMap Stylesheet.rules) : Nat) := by
  rw [map_eq_of_mapM_eq_ok hfiles fun s m h => hget s m (Stylesheet.hasMetrics h)]
  exact total_flatMap_rules count hnil happend sheets

theorem greatest_files : greatest (files.map FileMetrics.maxDepth) =
    (((sheets.flatMap Stylesheet.rules).flatMap Rule.selectors).map Selector.depth).foldl max 0 := by
  have hdepths : files.map FileMetrics.maxDepth =
      sheets.map fun s => (s.selectors.map Selector.depth).foldl max 0 :=
    map_eq_of_mapM_eq_ok hfiles fun s m h =>
      congrArg Totals.maxDepth (Stylesheet.hasMetrics h).totals
  rw [hdepths, List.flatMap_assoc]
  exact greatest_depth sheets

/-- The totals of all stylesheets are those of their rules in a row. -/
theorem totals_eq_ofRules (hg : ofFiles files = .ok g) :
    g.totals = Totals.ofRules (sheets.flatMap Stylesheet.rules) g.maxSpecificity := by
  have hrules := total_files hfiles FileMetrics.rules List.length rfl
    (fun a b => List.length_append) fun s m h => congrArg Totals.rules h.totals
  have hselectors := total_files hfiles FileMetrics.selectors
    (fun rs => (rs.flatMap Rule.selectors).length) rfl (by simp)
    fun s m h => congrArg Totals.selectors h.totals
  have hdeclarations := total_files hfiles FileMetrics.declarations
    (fun rs => (rs.flatMap Rule.declarations).length) rfl (by simp)
    fun s m h => congrArg Totals.declarations h.totals
  have himportant := total_files hfiles FileMetrics.important
    (fun rs => Listing.total (rs.map Rule.importantCount)) rfl
    (fun a b => by rw [List.map_append, Listing.total_append])
    fun s m h => congrArg Totals.important h.totals
  have hduplicates := total_files hfiles FileMetrics.duplicates (fun _ => 0) rfl
    (fun _ _ => rfl) fun s m h => congrArg Totals.duplicates h.totals
  have hrisk := total_files hfiles FileMetrics.layoutRisk
    (fun rs => Listing.total (rs.map fun r : Rule => Layout.risk r.declarations)) rfl
    (fun a b => by rw [List.map_append, Listing.total_append])
    fun s m h => congrArg Totals.layoutRisk h.totals
  rw [(totals_of_ofFiles_eq_ok hg).2, hrules, hselectors, hdeclarations, greatest_files hfiles,
    himportant, hduplicates, hrisk]
  rfl

end

end GlobalMetrics

end StyleGauge
