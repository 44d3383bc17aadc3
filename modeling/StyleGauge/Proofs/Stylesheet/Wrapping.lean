import Mathlib.Data.List.Infix
import StyleGauge.Check.Run
import StyleGauge.Metrics.Basic
import StyleGauge.Proofs.Stylesheet.Closing
import StyleGauge.Proofs.Stylesheet.Settled

/-!
# Stylesheets inside of blocks

A stylesheet that leaves nothing open and closes nothing but its own blocks can be put into the
block of an at-rule. It has the same rules there. Only their layer can be another, if the block is a
named layer, and the stylesheet uses layers if the block is a layer at all.
-/

namespace StyleGauge.Stylesheet

open Text (Position Trimmed)

/-! ### Blocks in texts -/

/-- A text that can be put into a block: it leaves nothing open, and skips no brace. -/
structure Enclosable (text : List Char) : Prop extends Settled text where
  unskipped : ∀ u ∈ (Scan.start (withoutComments text)).trace, u.skipsBrace = false

instance (text : List Char) : Decidable (Enclosable text) :=
  decidable_of_iff
    (Settled text ∧ ∀ u ∈ (Scan.start (withoutComments text)).trace, u.skipsBrace = false)
    ⟨fun ⟨h₁, h₂⟩ => ⟨h₁, h₂⟩, fun ⟨h₁, h₂⟩ => ⟨h₁, h₂⟩⟩

/-- A name and parameters that an at-rule with a block is read back with. -/
structure IsAtHead (name params : String) : Prop where
  name : ∀ c ∈ name.toList, isAtNameChar c = true
  trimmed : Trimmed params.toList
  clean : Clean params.toList
  code : modeAfter .code params.toList = .code
  uncommented : ¬ ['/', '*'] <:+: params.toList

instance (name params : String) : Decidable (IsAtHead name params) :=
  decidable_of_iff
    (name.toList.all isAtNameChar = true ∧ Trimmed params.toList ∧ Clean params.toList ∧
      modeAfter .code params.toList = .code ∧ ¬ ['/', '*'] <:+: params.toList)
    ⟨fun ⟨h₁, h₂, h₃, h₄, h₅⟩ => ⟨List.all_eq_true.1 h₁, h₂, h₃, h₄, h₅⟩,
      fun ⟨h₁, h₂, h₃, h₄, h₅⟩ => ⟨List.all_eq_true.2 h₁, h₂, h₃, h₄, h₅⟩⟩

/-- What stands before the content of a block. -/
def opening (name params : String) : String :=
  "@" ++ name ++ " " ++ params ++ "\x7b"

/-- A text inside of the block of an at-rule. -/
def inBlock (name params source : String) : String :=
  opening name params ++ source ++ "\x7d"

variable {name params : String} {text : List Char}

theorem toList_opening_append (name params : String) (more : List Char) :
    (opening name params).toList ++ more =
      ('@' :: name.toList ++ [' ']) ++ (params.toList ++ '\x7b' :: more) := by
  simp [opening]

theorem length_opening (name params : String) :
    (opening name params).length = name.length + params.length + 3 := by
  simp only [opening, String.length_append]
  show 1 + name.length + 1 + params.length + 1 = _
  omega

/-! ### Comments -/

/-- Where no comment and no string can begin, a text stays in code. -/
theorem modeAfter_eq_code (h : ∀ c ∈ text, c ≠ '/' ∧ c ≠ '"' ∧ c ≠ '\'') :
    modeAfter .code text = .code := by
  induction text with
  | nil => rfl
  | cons c cs ih =>
    obtain ⟨⟨hslash, hdouble, hsingle⟩, hcs⟩ := List.forall_mem_cons.1 h
    have hopen : opensComment (c :: cs) = false := by
      rw [← Bool.not_eq_true, opensComment_eq_true_iff]
      rintro ⟨after, hafter⟩
      exact hslash (List.cons.inj hafter).1
    rw [(takes_code hopen).mode_eq cs List.prefix_rfl, Mode.afterCode,
      if_neg (not_or.2 ⟨hdouble, hsingle⟩), ih hcs]

theorem withoutComments_append_of_plain (h : ∀ c ∈ text, c ≠ '/' ∧ c ≠ '"' ∧ c ≠ '\'')
    (more : List Char) : withoutComments (text ++ more) = text ++ withoutComments more := by
  have htext : withoutComments text = text :=
    withoutComments_eq_self fun hin => (h '/' (hin.subset List.mem_cons_self)).1 rfl
  have hborder : NoCommentBetween (withoutComments text) more := by
    rw [htext]
    intro hlast
    exact absurd rfl (h '/' (List.mem_of_getLast? hlast)).1
  rw [withoutComments_append (modeAfter_eq_code h) hborder, htext]

theorem IsAtHead.withoutComments_append (h : IsAtHead name params) (more : List Char) :
    withoutComments ((opening name params).toList ++ more) =
      (opening name params).toList ++ withoutComments more := by
  have hname : ∀ c ∈ '@' :: name.toList ++ [' '], c ≠ '/' ∧ c ≠ '"' ∧ c ≠ '\'' := by
    intro c hc
    rw [List.mem_append, List.mem_cons, List.mem_singleton] at hc
    rcases hc with (rfl | hc) | rfl
    · decide
    · have hc := h.name c hc
      refine ⟨?_, ?_, ?_⟩ <;> rintro rfl <;> exact absurd hc (by decide)
    · decide
  have hparams : withoutComments params.toList = params.toList :=
    withoutComments_eq_self h.uncommented
  have hborder : NoCommentBetween (withoutComments params.toList) ('\x7b' :: more) := by
    intro _ hstar
    exact absurd (Option.some.inj hstar) (by decide)
  have hopening : ∀ c ∈ ['\x7b'], c ≠ '/' ∧ c ≠ '"' ∧ c ≠ '\'' := by simp
  have hbrace : withoutComments ('\x7b' :: more) = '\x7b' :: withoutComments more :=
    withoutComments_append_of_plain hopening more
  calc withoutComments ((opening name params).toList ++ more)
    _ = withoutComments (('@' :: name.toList ++ [' ']) ++ (params.toList ++ '\x7b' :: more)) := by
      rw [toList_opening_append]
    _ = ('@' :: name.toList ++ [' ']) ++ withoutComments (params.toList ++ '\x7b' :: more) :=
      withoutComments_append_of_plain hname _
    _ = ('@' :: name.toList ++ [' ']) ++ (params.toList ++ '\x7b' :: withoutComments more) := by
      rw [Stylesheet.withoutComments_append h.code hborder, hparams, hbrace]
    _ = (opening name params).toList ++ withoutComments more := by
      rw [toList_opening_append]

/-- The comments of a text inside of a block are the comments of the text. -/
theorem withoutComments_inBlock {source : String} (hhead : IsAtHead name params)
    (hsource : Enclosable source.toList) :
    withoutComments (inBlock name params source).toList =
      (opening name params).toList ++ withoutComments source.toList ++ ['\x7d'] := by
  have hbrace : withoutComments ['\x7d'] = ['\x7d'] := withoutComments_replicate 1
  rw [inBlock, String.toList_append, String.toList_append, List.append_assoc,
    hhead.withoutComments_append, List.append_assoc]
  refine congrArg _ ((hsource.toSettled.withoutComments_append _).trans ?_)
  exact congrArg _ hbrace

/-! ### Trees -/

/-- Behind its opening a block is open, and nothing is in it. -/
theorem IsAtHead.scan_append (h : IsAtHead name params) (more : List Char) :
    scan ((opening name params).toList ++ more) =
      (Scan.mk [⟨.atRule name params, []⟩] [] (Position.start.afterAll (opening name params).toList)
        more).run := by
  have hrest : (Scan.start ((opening name params).toList ++ more)).rest =
      '@' :: name.toList ++ ' ' :: params.toList ++ '\x7b' :: more := by
    simp [Scan.start, toList_opening_append]
  have hopening : '@' :: name.toList ++ ' ' :: params.toList ++ ['\x7b'] =
      (opening name params).toList := by
    simp [opening]
  have htrim : Text.trim params.toList = params.toList := h.trimmed
  rw [scan, Scan.run_atRule hrest h.name h.clean (by decide), htrim, String.ofList_toList,
    String.ofList_toList, ← hopening]
  rfl

/-- The tree of a text inside of a block is the block with the nodes of the text in it, and with the
declarations that do not count outside of blocks. -/
theorem scan_inBlock (hhead : IsAtHead name params) (htext : Enclosable text) :
    ∃ own, scan ((opening name params).toList ++ withoutComments text ++ ['\x7d']) =
        [.block name params own] ∧
      withoutDeclarations own =
        mapPlacesAll (placeIn ((opening name params).toList ++ withoutComments text ++ ['\x7d'])
          (opening name params).length) (scan (withoutComments text)) := by
  obtain ⟨hwithin, hreads⟩ := within_scan (opening name params).toList (withoutComments text)
    ['\x7d'] [] [⟨.atRule name params, []⟩] (.inr htext.unskipped)
  have halike : ∀ read ∈ (Scan.mk [⟨.atRule name params, []⟩] []
      (Position.start.afterAll (opening name params).toList) (withoutComments text)).reads,
      ReadsAlike read ['\x7d'] := by
    rw [hreads]
    exact htext.readsAlike _
  obtain ⟨own, hclosed, hown⟩ := hwithin.stack.closeAll
  refine ⟨own.reverse, ?_, ?_⟩
  · -- the block is still open behind the text, and the brace there closes it
    rw [List.append_assoc, hhead.scan_append]
    refine (Scan.run_followedBy_eq halike).trans ?_
    refine (Scan.run_eq_finish_of_replicate (k := 1) rfl).trans ?_
    refine hclosed.trans ?_
    rw [List.append_nil]
    rfl
  · rw [scan, Scan.run_eq_finish_last, Scan.finish, Scan.mapPlacesAll_closeAll, ← hown,
      String.length_toList]
    rfl

/-! ### Stylesheets -/

/-- A text inside of a block has the rules of the text, in the layer that the block is. -/
theorem forall₂_rules_inBlock {source : String} (hhead : IsAtHead name params)
    (hsource : Enclosable source.toList) (file : String) :
    List.Forall₂
      (Rule.IsShifted source.toList (inBlock name params source).toList
        (opening name params).length)
      ((ofText source file).rules.map (Rule.inLayer (innerLayer none name params)))
      (ofText (inBlock name params source) file).rules := by
  obtain ⟨own, hscan, hown⟩ := scan_inBlock hhead hsource
  rw [← withoutComments_inBlock hhead hsource] at hscan hown
  have hrules : rulesOf none (scan (withoutComments (inBlock name params source).toList)) =
      ((rulesOf none (scan (withoutComments source.toList))).map (FlatRule.mapPlace
        (placeIn (withoutComments (inBlock name params source).toList)
          (opening name params).length))).map (FlatRule.inLayer (innerLayer none name params)) := by
    rw [hscan, rulesOf_cons, rulesOf_nil, List.append_nil, Node.rules,
      ← rulesOf_withoutDeclarations, hown, ← rulesOf_mapPlacesAll, ← rulesOf_or, Option.none_or]
  have hshift := forall₂_rules_isShifted source file (inBlock name params source).toList
    (opening name params).length
  show List.Forall₂ _ _ ((rulesOf none _).filterMap _)
  rw [hrules, filterMap_ruleOf?_inLayer, List.forall₂_map_left_iff, List.forall₂_map_right_iff]
  exact hshift.imp fun r r' hr => hr.inLayer _

theorem usesLayers_inBlock {source : String} (hhead : IsAtHead name params)
    (hsource : Enclosable source.toList) (file : String) :
    (ofText (inBlock name params source) file).usesLayers =
      (isLayerName name || (ofText source file).usesLayers) := by
  obtain ⟨own, hscan, hown⟩ := scan_inBlock hhead hsource
  rw [← withoutComments_inBlock hhead hsource] at hscan hown
  have hparams : layerParamsOf own = layerParamsOf (scan (withoutComments source.toList)) := by
    rw [← layerParamsOf_withoutDeclarations, hown, layerParamsOf_mapPlacesAll]
  show (!(layerParamsOf _).isEmpty) = (_ || !(layerParamsOf _).isEmpty)
  rw [hscan, layerParamsOf_cons, layerParamsOf_nil, List.append_nil, Node.layerParams, hparams]
  cases isLayerName name with
  | true => rfl
  | false => rfl

/-- A stylesheet inside of a block has the rules that it has alone, further on by what stands before
them. Those without a layer are in the layer that the block is, if it is a named one. No layers are
missed where the block is a layer, and the metrics stay what they are. -/
theorem ofText_inBlock {name params source : String} (hhead : IsAtHead name params)
    (hsource : Enclosable source.toList) (file : String) :
    List.Forall₂
        (Rule.IsShifted source.toList (inBlock name params source).toList
          (name.length + params.length + 3))
        ((ofText source file).rules.map (Rule.inLayer (innerLayer none name params)))
        (ofText (inBlock name params source) file).rules ∧
      (ofText (inBlock name params source) file).usesLayers =
        (isLayerName name || (ofText source file).usesLayers) ∧
      (isLayerName name = true → ∀ sheets thresholds,
        ofText (inBlock name params source) file ∈ sheets →
          Check.missingLayers.run sheets thresholds = .ok []) ∧
      (ofText (inBlock name params source) file).metrics = (ofText source file).metrics := by
  have hrules := forall₂_rules_inBlock hhead hsource file
  have huses := usesLayers_inBlock hhead hsource file
  obtain ⟨hselectors, hdeclarations⟩ := Rule.map_eq_of_isShifted hrules
  rw [List.map_map] at hselectors hdeclarations
  refine ⟨length_opening name params ▸ hrules, huses, ?_, ?_⟩
  · intro hlayer sheets thresholds hmem
    rw [hlayer, Bool.true_or] at huses
    have hany : sheets.any Stylesheet.usesLayers = true := List.any_eq_true.2 ⟨_, hmem, huses⟩
    show Except.ok (Check.MissingLayers.run sheets) = _
    rw [Check.MissingLayers.run, hany, Bool.true_or, if_pos rfl]
  · exact metrics_congr rfl hselectors hdeclarations

/-- A declaration that counts nowhere alone, a comment, a layer without a name and a named one, all
put into a layer. -/
theorem ofText_inBlock_nestedLayers :
    let source :=
      "a: b; @layer\x7bc\x7bd: e\x7d\x7d /* \x7d */ @layer one\x7b[f=\"\x7b\"] g\x7bh: i\x7d\x7d"
    IsAtHead "Layer" "base" ∧ Enclosable source.toList ∧
      (ofText source).rules.map Rule.layer = [none, some "one"] ∧
      List.Forall₂
        (Rule.IsShifted source.toList (inBlock "Layer" "base" source).toList 12)
        ((ofText source).rules.map (Rule.inLayer (some "base")))
        (ofText (inBlock "Layer" "base" source)).rules ∧
      (ofText (inBlock "Layer" "base" source)).usesLayers = true ∧
      Check.missingLayers.run [ofText (inBlock "Layer" "base" source)] {} = .ok [] ∧
      (ofText (inBlock "Layer" "base" source)).metrics = (ofText source).metrics := by
  intro source
  have hhead : IsAtHead "Layer" "base" := by decide +kernel
  have hsource : Enclosable source.toList := by decide +kernel
  have hlayer : isLayerName "Layer" = true := by decide +kernel
  obtain ⟨hrules, huses, hmissing, hmetrics⟩ := ofText_inBlock hhead hsource defaultFile
  refine ⟨hhead, hsource, by decide +kernel, ?_, ?_, ?_, hmetrics⟩
  · rwa [innerLayer, hlayer] at hrules
  · rw [huses, hlayer, Bool.true_or]
  · exact hmissing hlayer _ {} List.mem_cons_self

end StyleGauge.Stylesheet
