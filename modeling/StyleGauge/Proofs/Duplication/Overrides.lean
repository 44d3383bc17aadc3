import Mathlib.Data.List.Nodup
import StyleGauge.Proofs.Check.Found
import StyleGauge.Proofs.Listing

/-!
# Overrides

A property has a definition for each of its declarations. So its definitions are one for each rule
exactly if no rule declares it twice.
-/

namespace StyleGauge

/-- How often a rule declares a property. -/
def Rule.declaredCount (r : Rule) (property : String) : Nat :=
  r.declarations.countP (·.property = property)

namespace Duplication

variable {sheets : List Stylesheet} {count : Int} {property : String}

/-! ### Rules and declarations -/

/-- The rules that declare a property. -/
def declaring (sheets : List Stylesheet) (property : String) : List Site :=
  (sites sheets).filter fun s => 0 < s.rule.declaredCount property

/-- How often rules declare a property, a rule that declares it twice counted twice. -/
def declaredCount (sheets : List Stylesheet) (property : String) : Nat :=
  Listing.total ((sites sheets).map fun s => s.rule.declaredCount property)

/-- What a rule is as a definition of a property. -/
def definitionAt (s : Site) : Definition :=
  ⟨s.location, s.rule.firstSpecificity⟩

/-- A definition for each declaration of a property. -/
def definitionsOf (sheets : List Stylesheet) (property : String) : List Definition :=
  (sites sheets).flatMap fun s => List.replicate (s.rule.declaredCount property) (definitionAt s)

@[simp] theorem length_definitionsOf (sheets : List Stylesheet) (property : String) :
    (definitionsOf sheets property).length = declaredCount sheets property := by
  rw [definitionsOf, List.length_flatMap]
  simp only [List.length_replicate]
  rfl

theorem filter_defined (sheets : List Stylesheet) (property : String) :
    ((defined sheets).filter fun d => d.1 = property).map Prod.snd =
      definitionsOf sheets property := by
  rw [defined, List.filter_flatMap, List.map_flatMap]
  refine List.flatMap_congr fun s _ => ?_
  rw [List.filter_map, List.map_map, Rule.declaredCount, List.countP_eq_length_filter]
  exact List.map_const' ..

/-- As many rules declare a property as there are declarations of it if no rule has two of them. -/
theorem length_declaring_eq_iff :
    (declaring sheets property).length = declaredCount sheets property ↔
      ∀ s ∈ sites sheets, s.rule.declaredCount property ≤ 1 :=
  Listing.length_filter_pos_eq_total_iff

theorem length_declaring_le (sheets : List Stylesheet) (property : String) :
    (declaring sheets property).length ≤ declaredCount sheets property :=
  Listing.length_filter_pos_le_total ..

theorem definitionsOf_eq_map_declaring
    (h : ∀ s ∈ sites sheets, s.rule.declaredCount property ≤ 1) :
    definitionsOf sheets property = (declaring sheets property).map definitionAt :=
  Listing.flatMap_replicate_eq_map_filter h

theorem mem_map_fst_defined_iff :
    property ∈ (defined sheets).map Prod.fst ↔ 0 < declaredCount sheets property := by
  rw [← length_definitionsOf, ← filter_defined, List.length_map, List.length_pos_iff, ne_eq,
    List.filter_eq_nil_iff]
  simp

/-- A group holds all definitions of a property. -/
theorem overrides_eq_map (sheets : List Stylesheet) (count : Int) :
    overrides sheets count =
      ((Listing.distinct ((defined sheets).map Prod.fst)).filter
        fun property => count ≤ declaredCount sheets property).map
          fun property => ⟨property, definitionsOf sheets property⟩ := by
  rw [overrides, Listing.groups, List.map_map, List.filter_map]
  simp only [Function.comp_def, filter_defined, length_definitionsOf]

theorem mem_overrides_iff {o : Override} : o ∈ overrides sheets count ↔
    0 < declaredCount sheets o.property ∧ count ≤ declaredCount sheets o.property ∧
      o.definitions = definitionsOf sheets o.property := by
  rw [overrides_eq_map, List.mem_map]
  simp only [List.mem_filter, Listing.mem_distinct, mem_map_fst_defined_iff, decide_eq_true_iff]
  constructor
  · rintro ⟨property, ⟨hpos, hcount⟩, rfl⟩
    exact ⟨hpos, hcount, rfl⟩
  · rintro ⟨hpos, hcount, hdefinitions⟩
    exact ⟨o.property, ⟨hpos, hcount⟩, by rw [← hdefinitions]⟩

/-- A property has a group if there are enough declarations of it. -/
theorem exists_mem_overrides_iff : (∃ o ∈ overrides sheets count, o.property = property) ↔
    0 < declaredCount sheets property ∧ count ≤ declaredCount sheets property := by
  constructor
  · rintro ⟨o, ho, rfl⟩
    obtain ⟨hpos, hcount, -⟩ := mem_overrides_iff.1 ho
    exact ⟨hpos, hcount⟩
  · rintro ⟨hpos, hcount⟩
    exact ⟨⟨property, definitionsOf sheets property⟩, mem_overrides_iff.2 ⟨hpos, hcount, rfl⟩, rfl⟩

theorem nodup_map_property_overrides (sheets : List Stylesheet) (count : Int) :
    ((overrides sheets count).map Override.property).Nodup := by
  rw [overrides_eq_map, List.map_map]
  refine List.Nodup.map (fun _ _ h => h) ?_
  exact (Listing.nodup_distinct _).sublist List.filter_sublist

/-! ### Groups by rule -/

/-- Groups that hold one definition for each rule that declares a property. -/
structure AreByRule (sheets : List Stylesheet) (count : Int) (os : List Override) : Prop where
  /-- Those properties have a group that enough rules declare. -/
  exists_iff : ∀ property, (∃ o ∈ os, o.property = property) ↔
    declaring sheets property ≠ [] ∧ count ≤ (declaring sheets property).length
  /-- No property has two groups. -/
  nodup : (os.map Override.property).Nodup
  /-- A group has a definition for each rule, in the order of the rules. -/
  definitions_eq : ∀ o ∈ os, o.definitions = (declaring sheets o.property).map definitionAt

/-- No rule declares a property twice if the property is declared often enough for a group. -/
def DeclaredOnce (sheets : List Stylesheet) (count : Int) : Prop :=
  ∀ property, count ≤ declaredCount sheets property →
    ∀ s ∈ sites sheets, s.rule.declaredCount property ≤ 1

theorem declaredOnce_of_nodup
    (h : ∀ s ∈ sites sheets, (s.rule.declarations.map Declaration.property).Nodup) :
    DeclaredOnce sheets count := by
  intro property _ s hs
  have hcount := List.nodup_iff_count_le_one.1 (h s hs) property
  rwa [List.count_eq_countP, List.countP_map] at hcount

theorem areByRule_of_declaredOnce (h : DeclaredOnce sheets count) :
    AreByRule sheets count (overrides sheets count) := by
  constructor
  case exists_iff =>
    intro property
    rw [exists_mem_overrides_iff, ← List.length_pos_iff]
    have hle := length_declaring_le sheets property
    constructor
    · rintro ⟨hpos, hcount⟩
      have heq := length_declaring_eq_iff.2 (h property hcount)
      omega
    · rintro ⟨hpos, hcount⟩
      omega
  case nodup => exact nodup_map_property_overrides sheets count
  case definitions_eq =>
    intro o ho
    obtain ⟨-, hcount, hdefinitions⟩ := mem_overrides_iff.1 ho
    rw [hdefinitions, definitionsOf_eq_map_declaring (h o.property hcount)]

theorem declaredOnce_of_definitions_eq (h : ∀ o ∈ overrides sheets count,
    o.definitions = (declaring sheets o.property).map definitionAt) :
    DeclaredOnce sheets count := by
  intro property hcount
  rw [← length_declaring_eq_iff]
  by_cases hpos : 0 < declaredCount sheets property
  · have hlength := congrArg List.length (h ⟨property, definitionsOf sheets property⟩
      (mem_overrides_iff.2 ⟨hpos, hcount, rfl⟩))
    rw [length_definitionsOf, List.length_map] at hlength
    exact hlength.symm
  · have hle := length_declaring_le sheets property
    omega

/-! ### Issues -/

section

open Check.OverridePressure

variable {issues : List Issue}

theorem exists_property_of_mem_run (h : run sheets = .ok issues) :
    ∀ i ∈ issues, ∃ o ∈ overrides sheets minimum, i.evidence.property = some o.property := by
  intro i hi
  obtain ⟨o, ho, hissue⟩ := (Issue.mem_of_collect_eq_ok h).1 hi
  obtain ⟨scores, -, spread, -, rfl⟩ := issue?_eq_some_iff.1 hissue
  exact ⟨o, ho, rfl⟩

/-- Every group is an issue. -/
theorem exists_issue_of_mem_overrides (h : run sheets = .ok issues) :
    ∀ o ∈ overrides sheets minimum, ∃ i ∈ issues, i.evidence.property = some o.property := by
  intro o ho
  obtain ⟨found, hfound, -⟩ := bind_eq_ok_iff.1 h
  obtain ⟨y, hy⟩ := forall_of_mapM_eq_ok hfound o ho
  obtain ⟨scores, hscores, hspread⟩ := bind_eq_ok_iff.1 hy
  obtain ⟨spread, hspread, hissue⟩ := bind_eq_ok_iff.1 hspread
  obtain rfl := pure_eq_ok_iff.1 hissue
  exact ⟨_, (Issue.mem_of_collect_eq_ok h).2 ⟨o, ho, hy⟩, rfl⟩

end

/-- The definitions of a property are one for each rule that declares it exactly if no rule declares
it twice. Its issue is about as many different rules as there have to be exactly if as many rules
declare it as there have to be declarations. -/
theorem areByRule_overrides_iff (sheets : List Stylesheet) (count : Int) :
    (AreByRule sheets count (overrides sheets count) ↔ DeclaredOnce sheets count) ∧
      ((∀ s ∈ sites sheets, (s.rule.declarations.map Declaration.property).Nodup) →
        DeclaredOnce sheets count) ∧
      ∀ issues, Check.OverridePressure.run sheets = .ok issues →
        ((∀ i ∈ issues, ∃ property, i.evidence.property = some property ∧
            5 ≤ (declaring sheets property).length) ↔
          ∀ property, 5 ≤ declaredCount sheets property →
            5 ≤ (declaring sheets property).length) := by
  refine ⟨⟨fun h => declaredOnce_of_definitions_eq h.definitions_eq, areByRule_of_declaredOnce⟩,
    declaredOnce_of_nodup, fun issues hrun => ⟨fun h property hcount => ?_, fun h i hi => ?_⟩⟩
  · have hgroup := exists_mem_overrides_iff.2
      ⟨Nat.lt_of_lt_of_le (by decide) hcount, Int.ofNat_le.2 hcount⟩
    obtain ⟨o, ho, rfl⟩ := hgroup
    obtain ⟨i, hi, hproperty⟩ := exists_issue_of_mem_overrides hrun o ho
    obtain ⟨property, hsome, hrules⟩ := h i hi
    rw [hproperty] at hsome
    rwa [Option.some.inj hsome]
  · obtain ⟨o, ho, hproperty⟩ := exists_property_of_mem_run hrun i hi
    obtain ⟨-, hcount, -⟩ := mem_overrides_iff.1 ho
    exact ⟨o.property, hproperty, h o.property (Int.ofNat_le.1 hcount)⟩

/-- One rule with five values for a property is an issue. -/
theorem overrides_five_values :
    let sheets :=
      [Stylesheet.ofText ".a\x7bcolor:red;color:tan;color:pink;color:navy;color:teal\x7d"]
    (declaring sheets "color").length = 1 ∧
      (overrides sheets).map Override.property = ["color"] ∧
      ¬AreByRule sheets defaultOverrides (overrides sheets) ∧
      ∃ issues, Check.OverridePressure.run sheets = .ok issues ∧
        issues.map (·.evidence.property) = [some "color"] := by
  intro sheets
  have hone : (declaring sheets "color").length = 1 := by decide +kernel
  have hcolor : (overrides sheets).map Override.property = ["color"] := by decide +kernel
  refine ⟨hone, hcolor, fun h => ?_, ?_⟩
  · obtain ⟨o, ho, hproperty⟩ := List.mem_map.1 (hcolor ▸ List.mem_singleton_self "color")
    have hcount := ((h.exists_iff "color").1 ⟨o, ho, hproperty⟩).2
    rw [hone] at hcount
    exact absurd hcount (by decide)
  · have hrun : (Check.OverridePressure.run sheets).toOption.map
        (fun issues => issues.map (·.evidence.property)) = some [some "color"] := by decide +kernel
    cases hissues : Check.OverridePressure.run sheets with
    | error e =>
      rw [hissues] at hrun
      cases hrun
    | ok issues =>
      rw [hissues] at hrun
      exact ⟨issues, rfl, Option.some.inj hrun⟩

end Duplication

end StyleGauge
