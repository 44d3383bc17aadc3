import StyleGauge.Proofs.Stylesheet.Reading
import StyleGauge.Stylesheet.Basic

/-!
# Pieces of a text

Reading writes nothing of its own: every prelude, name, property and value in the tree of a text is
a piece of the text, and so is every branch of a selector list. A step of the scanner keeps this of
the nodes that it has built, and so does a run.
-/

namespace StyleGauge

open Text (Nesting)

/-! ### Declarations and selector lists -/

theorem Text.dropWord?_isSuffix {word cs rest : List Char} (h : dropWord? word cs = some rest) :
    rest <:+ cs := by
  fun_induction dropWord? word cs with
  | case1 cs => simp_all
  | case2 letter word c cs hform ih => exact (ih h).trans (List.suffix_cons c cs)
  | case3 => simp at h
  | case4 => simp at h

namespace Declaration

theorem beforeImportant?_isPrefix {value before : List Char}
    (h : beforeImportant? value = some before) : before <+: value := by
  unfold beforeImportant? at h
  split at h
  · simp at h
  · rename_i rest hword
    split at h
    · rename_i more hmark
      simp only [Option.some.injEq] at h
      subst h
      have hmore : more <:+ Text.trimStart rest := hmark ▸ List.suffix_cons '!' more
      have hsuffix : more <:+ value.reverse :=
        hmore.trans ((Text.trimStart_isSuffix rest).trans
          ((Text.dropWord?_isSuffix hword).trans (Text.trimStart_isSuffix _)))
      rw [← List.reverse_suffix, List.reverse_reverse]
      exact hsuffix
    · simp at h

/-- The property and the value of a declaration are pieces of its text. -/
theorem parse?_isInfix {text : List Char} {d : Declaration} (h : parse? text = some d) :
    d.property.toList <:+: text ∧ d.value.toList <:+: text := by
  unfold parse? at h
  split at h
  · simp at h
  · rename_i colon value hdrop
    have hvalue : value <:+ text := by
      have := List.dropWhile_suffix (l := text) (· != ':')
      rw [hdrop] at this
      exact (List.suffix_cons colon value).trans this
    have hprop : Text.trim (text.takeWhile (· != ':')) <:+: text :=
      (Text.trim_isInfix _).trans (List.takeWhile_prefix _).isInfix
    dsimp only at h
    split at h
    · simp at h
    · simp only [Option.some.injEq] at h
      subst h
      refine ⟨by simpa using hprop, ?_⟩
      cases hbefore : beforeImportant? value with
      | none => simpa using (Text.trim_isInfix value).trans hvalue.isInfix
      | some before =>
        simpa using (Text.trim_isInfix before).trans
          ((beforeImportant?_isPrefix hbefore).isInfix.trans hvalue.isInfix)

end Declaration

namespace Selector

theorem pieces_isInfix (state : Nesting) (cs : List Char) :
    (∀ piece ∈ (pieces state cs).head?, piece <+: cs) ∧ ∀ piece ∈ pieces state cs, piece <:+: cs := by
  fun_induction pieces state cs with
  | case1 => simp
  | case2 state c rest hcut ih =>
    refine ⟨by simp, ?_⟩
    intro piece hpiece
    rcases List.mem_cons.1 hpiece with rfl | hpiece
    · exact List.nil_infix
    · exact (ih.2 piece hpiece).trans (List.suffix_cons c rest).isInfix
  | case3 state c rest hcut hnil ih => exact absurd hnil (pieces_ne_nil _ _)
  | case4 state c rest hcut first more hmore ih =>
    rw [hmore] at ih
    have hfirst : c :: first <+: c :: rest := by
      simpa using ih.1 first rfl
    refine ⟨by simpa using hfirst, ?_⟩
    intro piece hpiece
    rcases List.mem_cons.1 hpiece with rfl | hpiece
    · exact hfirst.isInfix
    · exact (ih.2 piece (List.mem_cons_of_mem _ hpiece)).trans (List.suffix_cons c rest).isInfix

/-- Every branch of a selector list is a piece of it. -/
theorem splitList_isInfix {cs branch : List Char} (h : branch ∈ splitList cs) : branch <:+: cs := by
  simp only [splitList, List.mem_filter, List.mem_map] at h
  obtain ⟨⟨piece, hpiece, rfl⟩, -⟩ := h
  exact (Text.trim_isInfix piece).trans ((pieces_isInfix _ cs).2 piece hpiece)

end Selector

namespace Stylesheet

/-! ### Trees -/

mutual

/-- Every text in the node is a piece of `text`. -/
def Node.CutFrom (text : List Char) : Node → Prop
  | .declaration d => d.property.toList <:+: text ∧ d.value.toList <:+: text
  | .rule prelude _ children => prelude.toList <:+: text ∧ CutFromAll text children
  | .block name params children =>
    name.toList <:+: text ∧ params.toList <:+: text ∧ CutFromAll text children
  | .statement name params => name.toList <:+: text ∧ params.toList <:+: text

/-- Every text in the nodes is a piece of `text`. -/
def CutFromAll (text : List Char) : List Node → Prop
  | [] => True
  | node :: nodes => node.CutFrom text ∧ CutFromAll text nodes

end

variable {text : List Char}

@[simp] theorem cutFromAll_nil : CutFromAll text [] := by simp [CutFromAll]

@[simp] theorem cutFromAll_cons {node : Node} {nodes : List Node} :
    CutFromAll text (node :: nodes) ↔ node.CutFrom text ∧ CutFromAll text nodes := by
  simp [CutFromAll]

theorem cutFromAll_append {a b : List Node} :
    CutFromAll text (a ++ b) ↔ CutFromAll text a ∧ CutFromAll text b := by
  induction a with
  | nil => simp
  | cons node a ih => simp [ih, and_assoc]

theorem cutFromAll_reverse {nodes : List Node} :
    CutFromAll text nodes.reverse ↔ CutFromAll text nodes := by
  induction nodes with
  | nil => simp
  | cons node nodes ih => simp [cutFromAll_append, ih, and_comm]

/-- Every text in the head of a block is a piece of `text`. -/
def Head.CutFrom (text : List Char) : Head → Prop
  | rule prelude _ => prelude.toList <:+: text
  | atRule name params => name.toList <:+: text ∧ params.toList <:+: text

theorem Head.CutFrom.close {head : Head} (h : head.CutFrom text) {children : List Node}
    (hchildren : CutFromAll text children) : (head.close children).CutFrom text := by
  cases head with
  | rule prelude start => exact ⟨h, hchildren⟩
  | atRule name params => exact ⟨h.1, h.2, hchildren⟩

namespace Scan

/-- Everything that the scanner has read and still has to read is cut out of `text`. -/
structure CutFrom (text : List Char) (s : Scan) : Prop where
  rest : s.rest <:+ text
  nodes : CutFromAll text s.nodes
  outer : ∀ b ∈ s.outer, b.head.CutFrom text ∧ CutFromAll text b.before

namespace CutFrom

variable {s t : Scan}

theorem start (text : List Char) : (Scan.start text).CutFrom text :=
  ⟨List.suffix_rfl, cutFromAll_nil, by simp [Scan.start]⟩

theorem moveOver (h : s.CutFrom text) (taken : List Char) {rest : List Char}
    (hrest : rest <:+ text) : (s.moveOver taken rest).CutFrom text :=
  ⟨hrest, h.nodes, h.outer⟩

theorem add (h : s.CutFrom text) {node : Node} (hnode : node.CutFrom text) :
    (s.add node).CutFrom text :=
  ⟨h.rest, cutFromAll_cons.2 ⟨hnode, h.nodes⟩, h.outer⟩

theorem openBlock (h : s.CutFrom text) {head : Head} (hhead : head.CutFrom text) :
    (s.openBlock head).CutFrom text := by
  refine ⟨h.rest, cutFromAll_nil, ?_⟩
  intro b hb
  rcases List.mem_cons.1 hb with rfl | hb
  · exact ⟨hhead, h.nodes⟩
  · exact h.outer b hb

theorem closeBlock (h : s.CutFrom text) : s.closeBlock.CutFrom text := by
  unfold Scan.closeBlock
  split
  · exact h
  · rename_i b outer hb
    have hblock := h.outer b (by simp [hb])
    refine ⟨h.rest, cutFromAll_cons.2 ⟨?_, hblock.2⟩, fun b' hb' => h.outer b' (by simp [hb, hb'])⟩
    exact hblock.1.close (cutFromAll_reverse.2 h.nodes)

theorem skipSeparators (h : s.CutFrom text) : s.skipSeparators.CutFrom text :=
  h.moveOver _ ((List.dropWhile_suffix isSeparator).trans h.rest)

theorem afterText (h : s.CutFrom text) {taken after : List Char} {head : Head}
    {complete : Scan → Scan} (hafter : after <:+ text) (hhead : head.CutFrom text)
    (hcomplete : (complete s).CutFrom text) :
    (s.afterText taken after head complete).CutFrom text := by
  unfold Scan.afterText
  split
  · exact (h.openBlock hhead).moveOver _ ((List.suffix_cons _ _).trans hafter)
  · exact hcomplete.moveOver _ ((List.suffix_cons _ _).trans hafter)
  · exact hcomplete.moveOver _ hafter

theorem readAtRule (h : s.CutFrom text) {after : List Char} (hafter : after <:+ text) :
    (s.readAtRule after).CutFrom text := by
  have hrest : after.dropWhile isAtNameChar <:+ text :=
    (List.dropWhile_suffix _).trans hafter
  have hname : (String.ofList (after.takeWhile isAtNameChar)).toList <:+: text := by
    simpa using (List.takeWhile_prefix _).isInfix.trans hafter.isInfix
  have hparams : (String.ofList (Text.trim
      (readUntil .start (after.dropWhile isAtNameChar)).1)).toList <:+: text := by
    simpa using (Text.trim_isInfix _).trans ((readUntil_isPrefix _ _).isInfix.trans hrest.isInfix)
  unfold Scan.readAtRule
  refine h.afterText ((readUntil_isSuffix _ _).trans hrest) ?_ (h.add ?_)
  · exact And.intro hname hparams
  · rw [Node.CutFrom]
    exact And.intro hname hparams

theorem addDeclaration (h : s.CutFrom text) {taken : List Char} (htaken : taken <:+: text) :
    (s.addDeclaration taken).CutFrom text := by
  unfold Scan.addDeclaration
  split
  · rename_i hparse _
    have hd := Declaration.parse?_isInfix hparse
    exact h.add ⟨hd.1.trans htaken, hd.2.trans htaken⟩
  · exact h

theorem readItem (h : s.CutFrom text) : s.readItem.CutFrom text := by
  have hread : (readUntil .start s.rest).1 <:+: text :=
    (readUntil_isPrefix _ _).isInfix.trans h.rest.isInfix
  unfold Scan.readItem
  refine h.afterText ((readUntil_isSuffix _ _).trans h.rest) ?_ (h.addDeclaration hread)
  simpa [Head.CutFrom] using (Text.trim_isInfix _).trans hread

/-- A step of the scanner cuts what it builds out of the text. -/
theorem step? (h : s.CutFrom text) (hstep : s.step? = some t) : t.CutFrom text := by
  have hskip := h.skipSeparators
  unfold Scan.step? stepHere? at hstep
  split at hstep
  · simp at hstep
  · rename_i c rest hrest
    have hsuffix : rest <:+ text := (hrest ▸ List.suffix_cons c rest).trans hskip.rest
    split at hstep
    · simp only [Option.some.injEq] at hstep
      exact hstep ▸ hskip.closeBlock.moveOver _ hsuffix
    · split at hstep
      · simp only [Option.some.injEq] at hstep
        exact hstep ▸ hskip.readAtRule hsuffix
      · simp only [Option.some.injEq] at hstep
        exact hstep ▸ hskip.readItem

theorem closeAll {outer : List OpenBlock} {nodes : List Node} (hnodes : CutFromAll text nodes)
    (houter : ∀ b ∈ outer, b.head.CutFrom text ∧ CutFromAll text b.before) :
    CutFromAll text (Scan.closeAll outer nodes) := by
  induction outer generalizing nodes with
  | nil => exact cutFromAll_reverse.2 hnodes
  | cons b outer ih =>
    have hblock := houter b (by simp)
    refine ih ?_ fun b' hb' => houter b' (List.mem_cons_of_mem b hb')
    exact cutFromAll_cons.2 ⟨hblock.1.close (cutFromAll_reverse.2 hnodes), hblock.2⟩

/-- A run of the scanner cuts all that it builds out of the text. -/
theorem run (h : s.CutFrom text) : CutFromAll text s.run := by
  fun_induction Scan.run s with
  | case1 s hstep => exact closeAll h.nodes h.outer
  | case2 s t hstep hlt ih => exact ih (h.step? hstep)

end CutFrom

end Scan

theorem cutFromAll_scan (text : List Char) : CutFromAll text (scan text) :=
  (Scan.CutFrom.start text).run

/-! ### Rules -/

mutual

theorem declarations_isInfix {node : Node} (h : node.CutFrom text) :
    ∀ d ∈ node.declarations, d.property.toList <:+: text ∧ d.value.toList <:+: text := by
  match node with
  | .declaration d => simpa [Node.declarations, Node.CutFrom] using h
  | .rule prelude start children =>
    rw [Node.declarations]
    exact declarationsOf_isInfix h.2
  | .block name params children =>
    rw [Node.declarations]
    exact declarationsOf_isInfix h.2.2
  | .statement name params => simp [Node.declarations]

theorem declarationsOf_isInfix {nodes : List Node} (h : CutFromAll text nodes) :
    ∀ d ∈ declarationsOf nodes, d.property.toList <:+: text ∧ d.value.toList <:+: text := by
  match nodes with
  | [] => simp
  | node :: nodes =>
    intro d hd
    rw [declarationsOf_cons, List.mem_append] at hd
    rw [cutFromAll_cons] at h
    rcases hd with hd | hd
    · exact declarations_isInfix h.1 d hd
    · exact declarationsOf_isInfix h.2 d hd

end

/-- Every text of a rule that is taken out of its tree is a piece of `text`. -/
structure FlatRule.CutFrom (text : List Char) (r : FlatRule) : Prop where
  prelude : r.prelude.toList <:+: text
  declarations : ∀ d ∈ r.declarations, d.property.toList <:+: text ∧ d.value.toList <:+: text

mutual

theorem rules_cutFrom {node : Node} (h : node.CutFrom text) (layer : Option String) :
    ∀ r ∈ node.rules layer, r.CutFrom text := by
  match node with
  | .declaration d => simp [Node.rules]
  | .rule prelude start children =>
    intro r hr
    rw [Node.rules, List.mem_cons] at hr
    rcases hr with rfl | hr
    · exact ⟨h.1, declarationsOf_isInfix h.2⟩
    · exact rulesOf_cutFrom h.2 layer r hr
  | .block name params children =>
    rw [Node.rules]
    exact rulesOf_cutFrom h.2.2 _
  | .statement name params => simp [Node.rules]

theorem rulesOf_cutFrom {nodes : List Node} (h : CutFromAll text nodes) (layer : Option String) :
    ∀ r ∈ rulesOf layer nodes, r.CutFrom text := by
  match nodes with
  | [] => simp
  | node :: nodes =>
    intro r hr
    rw [rulesOf_cons, List.mem_append] at hr
    rw [cutFromAll_cons] at h
    rcases hr with hr | hr
    · exact rules_cutFrom h.1 layer r hr
    · exact rulesOf_cutFrom h.2 layer r hr

end

end Stylesheet

/-- The texts that a rule is known by: its selectors, its properties and their values. -/
def Rule.texts (r : Rule) : List String :=
  r.selectors.map Selector.raw ++ r.declarations.flatMap fun d => [d.property, d.value]

namespace Stylesheet

/-- Every selector, property and value of a stylesheet is a piece of its text without comments. -/
theorem texts_isInfix (source file : String) :
    ∀ r ∈ (ofText source file).rules, ∀ t ∈ r.texts,
      t.toList <:+: withoutComments source.toList := by
  intro r hr t ht
  simp only [ofText, ofTree, List.mem_filterMap] at hr
  obtain ⟨flat, hflat, hr⟩ := hr
  have hcut := rulesOf_cutFrom (cutFromAll_scan (withoutComments source.toList)) none flat hflat
  unfold ruleOf? at hr
  split at hr
  · simp at hr
  · simp only [Option.some.injEq] at hr
    subst hr
    simp only [Rule.texts, List.map_map, List.mem_append, List.mem_map, Function.comp_apply,
      Selector.raw_analyze, List.mem_flatMap, List.mem_cons, List.not_mem_nil, or_false] at ht
    rcases ht with ⟨branch, hbranch, rfl⟩ | ⟨d, hd, rfl | rfl⟩
    · simpa using (Selector.splitList_isInfix hbranch).trans hcut.prelude
    · exact (hcut.declarations d hd).1
    · exact (hcut.declarations d hd).2

end Stylesheet

end StyleGauge
