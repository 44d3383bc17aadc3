import StyleGauge.Proofs.Stylesheet.Trace
import StyleGauge.Proofs.Text.Position

/-!
# The places of rules

A scan never looks at the place where it stands: it only notes it beside the rules that it finds.
So every operation of the scanner commutes with a change of places, as long as the change keeps in
step with the characters that are gone over. Two such changes are of use. One takes every place to
the position of its offset in the text, and changes nothing: the rules of a tree stand where they
say. The other one puts texts before and behind, and moves every place accordingly.
-/

namespace StyleGauge.Stylesheet

open Text (Position)

variable {f : Position → Position}

/-! ### Trees -/

mutual

/-- The node with the places of its rules changed. -/
def Node.mapPlaces (f : Position → Position) : Node → Node
  | .declaration d => .declaration d
  | .rule prelude start children => .rule prelude (f start) (mapPlacesAll f children)
  | .block name params children => .block name params (mapPlacesAll f children)
  | .statement name params => .statement name params

/-- The nodes with the places of their rules changed. -/
def mapPlacesAll (f : Position → Position) : List Node → List Node
  | [] => []
  | node :: nodes => node.mapPlaces f :: mapPlacesAll f nodes

end

@[simp] theorem mapPlacesAll_nil : mapPlacesAll f [] = [] := by simp [mapPlacesAll]

@[simp] theorem mapPlacesAll_cons (node : Node) (nodes : List Node) :
    mapPlacesAll f (node :: nodes) = node.mapPlaces f :: mapPlacesAll f nodes := by
  simp [mapPlacesAll]

theorem mapPlacesAll_append (a b : List Node) :
    mapPlacesAll f (a ++ b) = mapPlacesAll f a ++ mapPlacesAll f b := by
  induction a with
  | nil => simp
  | cons node a ih => simp [ih]

theorem mapPlacesAll_reverse (nodes : List Node) :
    mapPlacesAll f nodes.reverse = (mapPlacesAll f nodes).reverse := by
  induction nodes with
  | nil => simp
  | cons node nodes ih => simp [mapPlacesAll_append, ih]

/-! ### Scans -/

/-- What stands before a block, with its place changed. -/
def Head.mapPlaces (f : Position → Position) : Head → Head
  | .rule prelude start => .rule prelude (f start)
  | .atRule name params => .atRule name params

/-- An open block with the places in it changed. -/
def OpenBlock.mapPlaces (f : Position → Position) (b : OpenBlock) : OpenBlock :=
  ⟨b.head.mapPlaces f, mapPlacesAll f b.before⟩

theorem Head.mapPlaces_close (head : Head) (children : List Node) :
    (head.close children).mapPlaces f = (head.mapPlaces f).close (mapPlacesAll f children) := by
  cases head with
  | rule prelude start => simp [Head.close, Head.mapPlaces, Node.mapPlaces]
  | atRule name params => simp [Head.close, Head.mapPlaces, Node.mapPlaces]

namespace Scan

/-- A scan with all its places changed. -/
def mapPlaces (f : Position → Position) (s : Scan) : Scan :=
  ⟨s.outer.map (OpenBlock.mapPlaces f), mapPlacesAll f s.nodes, f s.place, s.rest⟩

/-- A change of places that goes along with what a scan has still to go over. -/
def GoesAlong (f : Position → Position) (s : Scan) : Prop :=
  ∀ taken, taken <+: s.rest → f (s.place.afterAll taken) = (f s.place).afterAll taken

variable {s t : Scan}

theorem GoesAlong.of_follows (h : GoesAlong f s) (hst : t.Follows s) : GoesAlong f t := by
  obtain ⟨taken, hrest, hplace⟩ := hst
  intro more hmore
  have htaken : taken <+: s.rest := ⟨t.rest, hrest.symm⟩
  have hboth : taken ++ more <+: s.rest := by
    rw [hrest]
    exact (List.prefix_append_right_inj taken).2 hmore
  rw [hplace, ← Position.afterAll_append, h _ hboth, h _ htaken, Position.afterAll_append]

theorem mapPlaces_moveOver (h : GoesAlong f s) {taken : List Char} (htaken : taken <+: s.rest)
    (rest : List Char) :
    (s.moveOver taken rest).mapPlaces f = (s.mapPlaces f).moveOver taken rest := by
  simp only [mapPlaces, moveOver, h taken htaken]

theorem mapPlaces_add (s : Scan) (node : Node) :
    (s.add node).mapPlaces f = (s.mapPlaces f).add (node.mapPlaces f) := by
  simp [mapPlaces, add]

theorem mapPlaces_openBlock (s : Scan) (head : Head) :
    (s.openBlock head).mapPlaces f = (s.mapPlaces f).openBlock (head.mapPlaces f) := by
  simp [mapPlaces, openBlock, OpenBlock.mapPlaces]

theorem mapPlaces_closeBlock (s : Scan) :
    s.closeBlock.mapPlaces f = (s.mapPlaces f).closeBlock := by
  obtain ⟨outer, nodes, place, rest⟩ := s
  cases outer with
  | nil => rfl
  | cons b outer =>
    simp [mapPlaces, closeBlock, OpenBlock.mapPlaces, Head.mapPlaces_close, mapPlacesAll_reverse]

theorem mapPlaces_addDeclaration (s : Scan) (text : List Char) :
    (s.addDeclaration text).mapPlaces f = (s.mapPlaces f).addDeclaration text := by
  obtain ⟨outer, nodes, place, rest⟩ := s
  cases outer with
  | nil =>
    cases hparse : Declaration.parse? text <;> simp [mapPlaces, addDeclaration, hparse]
  | cons b outer =>
    cases hparse : Declaration.parse? text <;>
      simp [mapPlaces, addDeclaration, hparse, add, Node.mapPlaces]

theorem mapPlaces_skipSeparators (h : GoesAlong f s) :
    s.skipSeparators.mapPlaces f = (s.mapPlaces f).skipSeparators :=
  mapPlaces_moveOver h (List.takeWhile_prefix _) _

theorem mapPlaces_afterText (h : GoesAlong f s) {text after : List Char} {head : Head}
    {complete complete' : Scan → Scan} (hs : s.rest = text ++ after)
    (hplace : (complete s).place = s.place) (hrest : (complete s).rest = s.rest)
    (hcomplete : (complete s).mapPlaces f = complete' (s.mapPlaces f)) :
    (s.afterText text after head complete).mapPlaces f =
      (s.mapPlaces f).afterText text after (head.mapPlaces f) complete' := by
  have hdone : GoesAlong f (complete s) := by
    intro taken htaken
    rw [hplace]
    exact h taken (hrest ▸ htaken)
  have hopen : GoesAlong f (s.openBlock head) := h
  unfold afterText
  split
  · rename_i rest
    have htaken : text ++ ['\x7b'] <+: s.rest := ⟨rest, by simp [hs]⟩
    rw [mapPlaces_moveOver hopen htaken, mapPlaces_openBlock]
  · rename_i rest
    have htaken : text ++ [';'] <+: (complete s).rest := ⟨rest, by simp [hrest, hs]⟩
    rw [mapPlaces_moveOver hdone htaken, hcomplete]
  · have htaken : text <+: (complete s).rest := ⟨after, by rw [hrest, hs]⟩
    rw [mapPlaces_moveOver hdone htaken, hcomplete]

theorem mapPlaces_readAtRule (h : GoesAlong f s) {text : List Char} (hs : s.rest = '@' :: text) :
    (s.readAtRule text).mapPlaces f = (s.mapPlaces f).readAtRule text := by
  unfold readAtRule
  refine mapPlaces_afterText h ?_ rfl rfl ?_
  · rw [hs, List.cons_append, List.cons_append, List.append_assoc, readUntil_append,
      List.takeWhile_append_dropWhile]
  · rw [mapPlaces_add, Node.mapPlaces]

theorem mapPlaces_readItem (h : GoesAlong f s) :
    s.readItem.mapPlaces f = (s.mapPlaces f).readItem := by
  unfold readItem
  refine mapPlaces_afterText h (readUntil_append ..).symm (place_addDeclaration ..) ?_
    (mapPlaces_addDeclaration ..)
  unfold addDeclaration
  split <;> rfl

/-- A step commutes with a change of places. -/
theorem Step.mapPlaces (hst : s.Step t) (h : GoesAlong f s) :
    (s.mapPlaces f).Step (t.mapPlaces f) := by
  have hskip := mapPlaces_skipSeparators h
  have hgoes : GoesAlong f s.skipSeparators := h.of_follows (follows_skipSeparators s)
  cases hst with
  | close hs =>
    have hbrace : GoesAlong f s.skipSeparators.closeBlock := by
      intro taken htaken
      rw [rest_closeBlock] at htaken
      rw [place_closeBlock]
      exact hgoes taken htaken
    have htaken : ['\x7d'] <+: s.skipSeparators.closeBlock.rest := by
      rw [rest_closeBlock, hs]
      exact ⟨_, rfl⟩
    rw [mapPlaces_moveOver hbrace htaken, mapPlaces_closeBlock, hskip]
    exact .close hs
  | atRule hs =>
    rw [mapPlaces_readAtRule hgoes hs, hskip]
    exact .atRule hs
  | item hs hbrace hat =>
    rw [mapPlaces_readItem hgoes, hskip]
    exact .item hs hbrace hat

theorem GoesAlong.step? (h : GoesAlong f s) (hst : s.step? = some t) : GoesAlong f t :=
  h.of_follows (follows_step? hst)

theorem step?_mapPlaces (h : GoesAlong f s) :
    (s.mapPlaces f).step? = s.step?.map (mapPlaces f) := by
  cases hst : s.step? with
  | none =>
    have hend : s.skipSeparators.rest = [] := step?_eq_none_iff.1 hst
    exact step?_eq_none_iff.2 hend
  | some t => exact ((step_of_step? hst).mapPlaces h).step?

theorem trace_mapPlaces (h : GoesAlong f s) :
    (s.mapPlaces f).trace = s.trace.map (mapPlaces f) := by
  fun_induction trace s with
  | case1 s hst => exact trace_of_step?_eq_none (by rw [step?_mapPlaces h, hst]; rfl)
  | case2 s t hst hlt ih =>
    have hst' : (s.mapPlaces f).step? = some (t.mapPlaces f) := by rw [step?_mapPlaces h, hst]; rfl
    rw [trace_of_step? hst', ih (h.step? hst), List.map_cons]

theorem last_mapPlaces (h : GoesAlong f s) : (s.mapPlaces f).last = s.last.mapPlaces f := by
  fun_induction last s with
  | case1 s hst => exact last_of_step?_eq_none (by rw [step?_mapPlaces h, hst]; rfl)
  | case2 s t hst hlt ih =>
    have hst' : (s.mapPlaces f).step? = some (t.mapPlaces f) := by rw [step?_mapPlaces h, hst]; rfl
    rw [last_of_step? hst', ih (h.step? hst)]

theorem mapPlacesAll_closeAll (outer : List OpenBlock) (nodes : List Node) :
    mapPlacesAll f (closeAll outer nodes) =
      closeAll (outer.map (OpenBlock.mapPlaces f)) (mapPlacesAll f nodes) := by
  induction outer generalizing nodes with
  | nil => simp [closeAll, mapPlacesAll_reverse]
  | cons b outer ih =>
    simp [closeAll, ih, OpenBlock.mapPlaces, Head.mapPlaces_close, mapPlacesAll_reverse]

theorem run_mapPlaces (h : GoesAlong f s) : (s.mapPlaces f).run = mapPlacesAll f s.run := by
  rw [run_eq_finish_last, last_mapPlaces h, run_eq_finish_last]
  exact (mapPlacesAll_closeAll ..).symm

/-! ### Reads and braces -/

theorem reads_mapPlaces (h : GoesAlong f s) : (s.mapPlaces f).reads = s.reads := by
  rw [reads, trace_mapPlaces h, List.filterMap_map]
  rfl

theorem skipsBrace_mapPlaces (s : Scan) : (s.mapPlaces f).skipsBrace = s.skipsBrace := by
  simp [skipsBrace, mapPlaces, skipSeparators]

end Scan

/-! ### Rules -/

/-- A rule taken out of its tree, with its place changed. -/
def FlatRule.mapPlace (f : Position → Position) (r : FlatRule) : FlatRule :=
  { r with start := f r.start }

mutual

theorem declarations_mapPlaces (node : Node) :
    (node.mapPlaces f).declarations = node.declarations := by
  match node with
  | .declaration d => simp [Node.mapPlaces, Node.declarations]
  | .rule prelude start children =>
    rw [Node.mapPlaces, Node.declarations, Node.declarations, declarationsOf_mapPlacesAll children]
  | .block name params children =>
    rw [Node.mapPlaces, Node.declarations, Node.declarations, declarationsOf_mapPlacesAll children]
  | .statement name params => simp [Node.mapPlaces, Node.declarations]

theorem declarationsOf_mapPlacesAll (nodes : List Node) :
    declarationsOf (mapPlacesAll f nodes) = declarationsOf nodes := by
  match nodes with
  | [] => simp
  | node :: nodes =>
    simp [declarations_mapPlaces node, declarationsOf_mapPlacesAll nodes]

end

mutual

theorem layerParams_mapPlaces (node : Node) :
    (node.mapPlaces f).layerParams = node.layerParams := by
  match node with
  | .declaration d => simp [Node.mapPlaces, Node.layerParams]
  | .rule prelude start children =>
    rw [Node.mapPlaces, Node.layerParams, Node.layerParams, layerParamsOf_mapPlacesAll children]
  | .block name params children =>
    rw [Node.mapPlaces, Node.layerParams, Node.layerParams, layerParamsOf_mapPlacesAll children]
  | .statement name params => simp [Node.mapPlaces, Node.layerParams]

theorem layerParamsOf_mapPlacesAll (nodes : List Node) :
    layerParamsOf (mapPlacesAll f nodes) = layerParamsOf nodes := by
  match nodes with
  | [] => simp
  | node :: nodes => simp [layerParams_mapPlaces node, layerParamsOf_mapPlacesAll nodes]

end

mutual

theorem rules_mapPlaces (node : Node) (layer : Option String) :
    (node.mapPlaces f).rules layer = (node.rules layer).map (FlatRule.mapPlace f) := by
  match node with
  | .declaration d => simp [Node.mapPlaces, Node.rules]
  | .rule prelude start children =>
    rw [Node.mapPlaces, Node.rules, Node.rules, declarationsOf_mapPlacesAll,
      rulesOf_mapPlacesAll children, List.map_cons]
    rfl
  | .block name params children =>
    rw [Node.mapPlaces, Node.rules, Node.rules, rulesOf_mapPlacesAll children]
  | .statement name params => simp [Node.mapPlaces, Node.rules]

theorem rulesOf_mapPlacesAll (nodes : List Node) (layer : Option String) :
    rulesOf layer (mapPlacesAll f nodes) = (rulesOf layer nodes).map (FlatRule.mapPlace f) := by
  match nodes with
  | [] => simp
  | node :: nodes => simp [rules_mapPlaces node, rulesOf_mapPlacesAll nodes]

end

/-! ### Places in a text -/

/-- The position in a text of what stands `n` characters further on than a place. -/
def placeIn (text : List Char) (n : Nat) (p : Position) : Position :=
  .ofOffset text (n + p.offset)

theorem goesAlong_placeIn (before text behind : List Char) :
    Scan.GoesAlong (placeIn (before ++ text ++ behind) before.length) (.start text) := by
  intro taken htaken
  have hlength : taken.length ≤ text.length := htaken.length_le
  have htake : text.take taken.length = taken := (List.prefix_iff_eq_take.1 htaken).symm
  have hstart : placeIn (before ++ text ++ behind) before.length .start =
      Position.start.afterAll before :=
    Position.ofOffset_length_add before text behind (Nat.zero_le _)
  have hoffset : (Position.start.afterAll taken).offset = taken.length := by
    rw [Position.offset_afterAll]
    exact Nat.zero_add _
  show placeIn _ _ (Position.start.afterAll taken) = Position.afterAll (placeIn _ _ .start) taken
  rw [hstart, placeIn, hoffset, Position.ofOffset_length_add before text behind hlength, htake]

/-- A text in which nothing has been read yet, with another text gone over before it. -/
theorem mapPlaces_start (before text behind : List Char) :
    (Scan.start text).mapPlaces (placeIn (before ++ text ++ behind) before.length) =
      ⟨[], [], Position.start.afterAll before, text⟩ := by
  have hstart : placeIn (before ++ text ++ behind) before.length .start =
      Position.start.afterAll before :=
    Position.ofOffset_length_add before text behind (Nat.zero_le _)
  rw [Scan.mapPlaces, ← hstart]
  rfl

/-- The rules of a tree stand where they say. -/
theorem start_of_mem_rulesOf_scan {text : List Char} {layer : Option String} {r : FlatRule}
    (hr : r ∈ rulesOf layer (scan text)) :
    r.start.offset ≤ text.length ∧ r.start = .ofOffset text r.start.offset := by
  -- taking every place to the position of its offset changes nothing
  have hgoes := goesAlong_placeIn [] text []
  have hstart := mapPlaces_start [] text []
  rw [List.nil_append, List.append_nil, List.length_nil] at hgoes hstart
  have hscan : mapPlacesAll (placeIn text 0) (scan text) = scan text := by
    rw [scan, ← Scan.run_mapPlaces hgoes, hstart]
    rfl
  have hrules : (rulesOf layer (scan text)).map (FlatRule.mapPlace (placeIn text 0)) =
      (rulesOf layer (scan text)).map id := by
    rw [← rulesOf_mapPlacesAll, hscan, List.map_id]
  have hplace : placeIn text 0 r.start = r.start :=
    congrArg FlatRule.start (List.map_inj_left.1 hrules r hr)
  rw [placeIn, Nat.zero_add] at hplace
  refine ⟨?_, hplace.symm⟩
  have hoffset := Position.offset_ofOffset text r.start.offset
  rw [hplace] at hoffset
  omega

end StyleGauge.Stylesheet
