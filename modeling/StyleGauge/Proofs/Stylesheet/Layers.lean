import StyleGauge.Proofs.Listing
import StyleGauge.Proofs.Stylesheet.SourceOrder
import StyleGauge.Proofs.Text.Case
import StyleGauge.Proofs.Text.Trim

/-!
# Layers of rules and layers of stylesheets

The layers of a stylesheet are the names that its layer at-rules list, each once, in the order in
which they appear. The layer of a rule is that of the nearest layer block around it that is not
anonymous. Both come from the same at-rules, so the layers of rules are among those of the
stylesheet.
-/

namespace StyleGauge.Stylesheet

/-! ### Layer at-rules -/

/-- An at-rule of this name is about layers; the letters are of either case. -/
def IsLayer (name : String) : Prop :=
  name.toList.map Char.toLower = "layer".toList

instance (name : String) : Decidable (IsLayer name) :=
  inferInstanceAs (Decidable (_ = _))

theorem isLayerName_iff {name : String} : isLayerName name = true ↔ IsLayer name := by
  have hword : "layer".toList.Forall fun c => c.isLower = true ∧ c ≠ 'i' ∧ c ≠ 'k' := by decide
  rw [isLayerName, beq_iff_eq, ← String.toList_inj, Text.lowerString, String.toList_ofList]
  exact Text.lowerAfter_eq_iff (List.forall_iff_forall_mem.1 hword) [] name.toList

/-- The name of an at-rule. -/
def Node.atName? : Node → Option String
  | .block name .. => some name
  | .statement name _ => some name
  | _ => none

/-- A block puts its content into a layer, and its parameters name it. -/
def Head.NamesLayer (head : Head) (layer : String) : Prop :=
  ∃ name, head = .atRule name layer ∧ IsLayer name ∧ layer ≠ ""

theorem Head.layer?_eq_some_iff {head : Head} {layer : String} :
    head.layer? = some layer ↔ head.NamesLayer layer := by
  cases head with
  | rule prelude start => simp [Head.layer?, Head.NamesLayer]
  | atRule name params =>
    simp only [Head.layer?, Option.ite_none_right_eq_some, Bool.and_eq_true, isLayerName_iff,
      bne_iff_ne, Option.some.injEq, Head.NamesLayer, Head.atRule.injEq]
    constructor
    · rintro ⟨⟨hname, hparams⟩, rfl⟩
      exact ⟨name, ⟨rfl, rfl⟩, hname, hparams⟩
    · rintro ⟨name, ⟨rfl, rfl⟩, hname, hparams⟩
      exact ⟨⟨hname, hparams⟩, rfl⟩

theorem Head.layer?_eq_none_iff {head : Head} :
    head.layer? = none ↔ ∀ layer, ¬head.NamesLayer layer := by
  simp only [← Head.layer?_eq_some_iff, Option.eq_none_iff_forall_ne_some, ne_eq]

/-- The nearest block that has a layer decides. -/
theorem layerAround_eq_some_iff {outer : List Head} {layer : String} :
    layerAround outer = some layer ↔ ∃ inner head around, outer = inner ++ head :: around ∧
      head.NamesLayer layer ∧ ∀ h ∈ inner, ∀ l, ¬h.NamesLayer l := by
  simp only [layerAround, List.findSome?_eq_some_iff, Head.layer?_eq_some_iff,
    Head.layer?_eq_none_iff]

theorem layerAround_eq_none_iff {outer : List Head} :
    layerAround outer = none ↔ ∀ head ∈ outer, ∀ layer, ¬head.NamesLayer layer := by
  simp only [layerAround, List.findSome?_eq_none_iff, Head.layer?_eq_none_iff]

/-! ### Names of layers -/

/-- The names of layers that a visited node lists. -/
def Visit.layerNames (v : Visit) : List String :=
  v.node.layerParams?.toList.flatMap Stylesheet.layerNames

theorem mem_layerNames_iff {params name : String} : name ∈ layerNames params ↔
    ∃ part ∈ Text.parts ',' params.toList, Text.trim part ≠ [] ∧
      name = String.ofList (Text.trim part) := by
  simp only [layerNames, List.mem_map, List.mem_filter, decide_eq_true_eq]
  constructor
  · rintro ⟨trimmed, ⟨⟨part, hpart, rfl⟩, hne⟩, rfl⟩
    exact ⟨part, hpart, hne, rfl⟩
  · rintro ⟨part, hpart, hne, rfl⟩
    exact ⟨_, ⟨⟨part, hpart, rfl⟩, hne⟩, rfl⟩

/-- A name of a layer is trimmed, and it is neither empty nor a list. -/
structure IsLayerLabel (name : String) : Prop where
  ne_empty : name ≠ ""
  trimmed : Text.Trimmed name.toList
  comma_not_mem : ',' ∉ name.toList

theorem isLayerLabel_of_mem_layerNames {params name : String} (h : name ∈ layerNames params) :
    IsLayerLabel name := by
  obtain ⟨part, hpart, hne, rfl⟩ := mem_layerNames_iff.1 h
  constructor
  · simpa using hne
  · rw [String.toList_ofList]
    exact Text.trimmed_trim part
  · rw [String.toList_ofList]
    exact fun hmem =>
      Text.separator_not_mem_of_mem_parts hpart ((Text.trim_isInfix part).sublist.mem hmem)

theorem self_mem_layerNames {params : String} (htrimmed : Text.Trimmed params.toList)
    (hne : params ≠ "") (hcomma : ',' ∉ params.toList) : params ∈ layerNames params := by
  refine mem_layerNames_iff.2 ⟨params.toList, ?_, ?_, ?_⟩
  · rw [Text.parts_eq_singleton hcomma]
    exact List.mem_singleton_self _
  · rw [htrimmed]
    simpa using hne
  · rw [htrimmed, String.ofList_toList]

/-! ### Layers of a stylesheet -/

theorem isSome_layerParams?_iff {node : Node} :
    node.layerParams?.isSome ↔ ∃ name, node.atName? = some name ∧ IsLayer name := by
  cases node <;> simp [Node.layerParams?, Node.atName?, isLayerName_iff]

variable (source file : String)

theorem layers_ofText :
    (ofText source file).layers = Listing.distinct
      ((visitsOf [] (scan (withoutComments source.toList))).flatMap Visit.layerNames) := by
  have hlayers : (ofText source file).layers = Listing.distinct
      ((layerParamsOf (scan (withoutComments source.toList))).flatMap layerNames) := rfl
  rw [hlayers, layerParamsOf_eq_filterMap [], List.filterMap_eq_flatMap_toList, List.flatMap_assoc]
  rfl

theorem usesLayers_ofText_iff :
    (ofText source file).usesLayers = true ↔
      ∃ v ∈ visitsOf [] (scan (withoutComments source.toList)),
        ∃ name, v.node.atName? = some name ∧ IsLayer name := by
  have huses : (ofText source file).usesLayers =
      !(layerParamsOf (scan (withoutComments source.toList))).isEmpty := rfl
  simp only [← isSome_layerParams?_iff]
  rw [huses, layerParamsOf_eq_filterMap [], Bool.not_eq_true', ← Bool.not_eq_true,
    List.isEmpty_iff, List.filterMap_eq_nil_iff]
  push Not
  simp only [Option.isSome_iff_ne_none]

/-- The layers of a stylesheet, as a walk through its tree meets them. -/
structure AreLayers (visits : List Visit) (layers : List String) : Prop where
  nodup : layers.Nodup
  isLayerLabel : ∀ name ∈ layers, IsLayerLabel name
  mem_iff : ∀ name, name ∈ layers ↔ ∃ v ∈ visits, name ∈ v.layerNames
  /-- They are in the order of their first appearance. -/
  pairwise : layers.Pairwise fun a b =>
    (visits.flatMap Visit.layerNames).idxOf a < (visits.flatMap Visit.layerNames).idxOf b

theorem areLayers_ofText :
    AreLayers (visitsOf [] (scan (withoutComments source.toList))) (ofText source file).layers := by
  rw [layers_ofText]
  constructor
  case nodup => exact Listing.nodup_distinct _
  case isLayerLabel =>
    intro name hname
    obtain ⟨v, -, hname⟩ := List.mem_flatMap.1 (Listing.mem_distinct.1 hname)
    obtain ⟨params, -, hname⟩ := List.mem_flatMap.1 hname
    exact isLayerLabel_of_mem_layerNames hname
  case mem_iff => exact fun name => Listing.mem_distinct.trans List.mem_flatMap
  case pairwise => exact Listing.pairwise_idxOf_distinct _

/-! ### Layers of rules -/

/-- The layer of what is in blocks, next to the layers of the stylesheet. -/
structure IsLayerWithin (outer : List Head) (layers : List String) (layer : Option String) :
    Prop where
  eq_none_iff : layer = none ↔ ∀ head ∈ outer, ∀ l, ¬head.NamesLayer l
  /-- The nearest block that is not anonymous decides. -/
  eq_some_iff : ∀ l, layer = some l ↔ ∃ inner head around, outer = inner ++ head :: around ∧
    head.NamesLayer l ∧ ∀ h ∈ inner, ∀ l', ¬h.NamesLayer l'
  part_mem : ∀ l, layer = some l → ∀ part ∈ Text.parts ',' l.toList, Text.trim part ≠ [] →
    String.ofList (Text.trim part) ∈ layers
  mem : ∀ l, layer = some l → ',' ∉ l.toList → l ∈ layers

/-- The parameters of a block that a step finds are trimmed. -/
theorem Scan.Finds.trimmed_params {s : Scan} {v : Visit} (h : s.Finds v) {name params : String}
    (hv : v.node.head? = some (.atRule name params)) : Text.Trimmed params.toList := by
  cases h with
  | block hs hread =>
    obtain ⟨rfl, rfl⟩ := Head.atRule.inj (Option.some.inj hv)
    rw [String.toList_ofList]
    exact Text.trimmed_trim _
  | statement hs hread hrest => cases hv
  | rule hat hread => cases hv
  | declaration hat hread hrest hopen hparse => cases hv

variable {source} {v : Visit}

/-- A named layer around a node is the parameters of an at-rule, which are trimmed, and its names
are those of the stylesheet. -/
theorem layerNames_subset_of_layerAround
    (hv : v ∈ visitsOf [] (scan (withoutComments source.toList))) {layer : String}
    (h : layerAround v.outer = some layer) :
    Text.Trimmed layer.toList ∧ layer ≠ "" ∧ layerNames layer ⊆ (ofText source file).layers := by
  obtain ⟨inner, head, around, houter, ⟨name, rfl, hname, hne⟩, -⟩ := layerAround_eq_some_iff.1 h
  have hhead : Head.atRule name layer ∈ v.outer := by simp [houter]
  -- the block is visited itself
  obtain ⟨w, hw, hnode⟩ := (exists_visit_of_mem_outer hv hhead).resolve_left (by simp)
  have hparams : w.node.layerParams? = some layer := by
    cases hcase : w.node <;> simp_all [Node.head?, Node.layerParams?, isLayerName_iff]
  refine ⟨?_, hne, ?_⟩
  · obtain ⟨s, -, hfinds⟩ := (inSourceOrder_visitsOf_scan _).exists_finds hw
    exact hfinds.trimmed_params (by rw [Visit.bare, head?_bare, hnode])
  · intro label hlabel
    rw [layers_ofText, Listing.mem_distinct]
    exact List.mem_flatMap.2 ⟨w, hw, List.mem_flatMap.2 ⟨layer, by simp [hparams], hlabel⟩⟩

theorem isLayerWithin_of_mem_visitsOf
    (hv : v ∈ visitsOf [] (scan (withoutComments source.toList))) :
    IsLayerWithin v.outer (ofText source file).layers (layerAround v.outer) where
  eq_none_iff := layerAround_eq_none_iff
  eq_some_iff _ := layerAround_eq_some_iff
  part_mem l hl part hpart hne :=
    (layerNames_subset_of_layerAround file hv hl).2.2 (mem_layerNames_iff.2 ⟨part, hpart, hne, rfl⟩)
  mem l hl hcomma := by
    obtain ⟨htrimmed, hne, hsubset⟩ := layerNames_subset_of_layerAround file hv hl
    exact hsubset (self_mem_layerNames htrimmed hne hcomma)

/-- The layers of a stylesheet, its mark that it has layers, and the layers of its rules come from
the same at-rules. -/
theorem layers_agree (source file : String) :
    let visits := visitsOf [] (scan (withoutComments source.toList))
    let sheet := ofText source file
    AreLayers visits sheet.layers ∧
      (sheet.usesLayers = true ↔ ∃ v ∈ visits, ∃ name, v.node.atName? = some name ∧ IsLayer name) ∧
      (sheet.layers ≠ [] → sheet.usesLayers = true) ∧
      sheet.rules = visits.filterMap (Visit.rule? file) ∧
      ∀ v ∈ visits, ∀ r, v.rule? file = some r → IsLayerWithin v.outer sheet.layers r.layer := by
  intro visits sheet
  have hlayers := areLayers_ofText source file
  have huses := usesLayers_ofText_iff source file
  refine ⟨hlayers, huses, ?_, rules_ofText_eq_filterMap source file, ?_⟩
  · intro hne
    obtain ⟨name, hname⟩ := List.exists_mem_of_ne_nil _ hne
    obtain ⟨v, hv, hname⟩ := (hlayers.mem_iff name).1 hname
    obtain ⟨params, hparams, -⟩ := List.mem_flatMap.1 hname
    refine huses.2 ⟨v, hv, isSome_layerParams?_iff.1 ?_⟩
    rw [Option.mem_toList.1 hparams]
    rfl
  · intro v hv r hr
    obtain ⟨prelude, start, -, -, -, -, -, hlayer⟩ := Visit.of_rule?_eq_some hr
    rw [hlayer]
    exact isLayerWithin_of_mem_visitsOf file hv

/-- A layer that is announced, two layers in one block, an anonymous one in it, and a layer in that
one, with none of the blocks closed. -/
theorem layers_agree_openBlocks :
    let source := "@layer base;@Layer a , b\x7bp\x7b\x7d@layer\x7bq\x7b\x7d@layer base\x7br\x7b"
    let visits := visitsOf [] (scan (withoutComments source.toList))
    let sheet := ofText source
    AreLayers visits sheet.layers ∧ sheet.layers = ["base", "a", "b"] ∧ sheet.usesLayers = true ∧
      sheet.rules.map Rule.layer = [some "a , b", some "a , b", some "base"] ∧
      ∀ r ∈ sheet.rules, ∃ v ∈ visits, v.rule? defaultFile = some r ∧
        IsLayerWithin v.outer sheet.layers r.layer := by
  intro source visits sheet
  obtain ⟨hlayers, -, huses, hrules, hwithin⟩ := layers_agree source defaultFile
  have hnames : sheet.layers = ["base", "a", "b"] := by decide +kernel
  refine ⟨hlayers, hnames, huses (by rw [hnames]; decide), by decide +kernel, ?_⟩
  intro r hr
  obtain ⟨v, hv, hrule⟩ := List.mem_filterMap.1 (hrules ▸ hr)
  exact ⟨v, hv, hrule, hwithin v hv r hrule⟩

end StyleGauge.Stylesheet
