import StyleGauge.Proofs.Stylesheet.Trace

/-!
# What stands around a scan

A text is scanned alike at the top level, behind nodes that are there already, and inside a block
that is open: the steps are the same and so are the nodes. There are two exceptions. A declaration
counts only in a block, so that in there some stand beside the nodes; none of them bears a rule or a
layer. And a closing brace that would be skipped at the top level closes the block.
-/

namespace StyleGauge.Stylesheet

/-! ### Declarations beside nodes -/

/-- Whether the node is a declaration. -/
def Node.isDeclaration : Node → Bool
  | .declaration _ => true
  | _ => false

/-- The nodes but the declarations among them. -/
def withoutDeclarations (nodes : List Node) : List Node :=
  nodes.filter fun node => !node.isDeclaration

theorem rulesOf_withoutDeclarations (layer : Option String) (nodes : List Node) :
    rulesOf layer (withoutDeclarations nodes) = rulesOf layer nodes := by
  induction nodes with
  | nil => rfl
  | cons node nodes ih =>
    cases node <;> simp_all [withoutDeclarations, Node.isDeclaration, Node.rules]

theorem layerParamsOf_withoutDeclarations (nodes : List Node) :
    layerParamsOf (withoutDeclarations nodes) = layerParamsOf nodes := by
  induction nodes with
  | nil => rfl
  | cons node nodes ih =>
    cases node <;> simp_all [withoutDeclarations, Node.isDeclaration, Node.layerParams]

theorem withoutDeclarations_reverse (nodes : List Node) :
    withoutDeclarations nodes.reverse = (withoutDeclarations nodes).reverse :=
  List.filter_reverse ..

theorem Head.isDeclaration_close (head : Head) (children : List Node) :
    (head.close children).isDeclaration = false := by
  cases head <;> rfl

/-! ### Stacks -/

/-- Two innermost blocks and the blocks around them are the same but at the outermost place. There
one stands at the top level, and the other behind `base`, inside of `frame` and with declarations
beside its nodes. -/
inductive SameBut (base : List Node) (frame : List OpenBlock) :
    List Node → List OpenBlock → List Node → List OpenBlock → Prop
  | outermost {nodes own : List Node} (h : withoutDeclarations own = nodes) :
    SameBut base frame nodes [] (own ++ base) frame
  | inner {nodes before before' : List Node} {head : Head} {outer outer' : List OpenBlock}
    (h : SameBut base frame before outer before' outer') :
    SameBut base frame nodes (⟨head, before⟩ :: outer) nodes (⟨head, before'⟩ :: outer')

variable {base : List Node} {frame : List OpenBlock}

theorem SameBut.cons {nodes nodes' : List Node} {outer outer' : List OpenBlock}
    (h : SameBut base frame nodes outer nodes' outer') {node : Node}
    (hnode : node.isDeclaration = false) :
    SameBut base frame (node :: nodes) outer (node :: nodes') outer' := by
  cases h with
  | @outermost nodes own hown =>
    rw [← List.cons_append]
    refine .outermost ?_
    rw [← hown]
    simp [withoutDeclarations, hnode]
  | inner h => exact .inner h

/-- All blocks closed, the one side has the nodes of the other, declarations apart, behind those
that were there already. -/
theorem SameBut.closeAll {nodes nodes' : List Node} {outer outer' : List OpenBlock}
    (h : SameBut base frame nodes outer nodes' outer') :
    ∃ own, Scan.closeAll outer' nodes' = Scan.closeAll frame (own ++ base) ∧
      Scan.closeAll outer nodes = withoutDeclarations own.reverse := by
  induction outer generalizing nodes nodes' outer' with
  | nil =>
    cases h with
    | @outermost nodes own hown =>
      refine ⟨own, rfl, ?_⟩
      rw [withoutDeclarations_reverse, hown]
      rfl
  | cons b outer ih =>
    cases h with
    | @inner nodes before before' head outer outer' h =>
      have hclosed := ih (h.cons (head.isDeclaration_close nodes.reverse))
      exact hclosed

namespace Scan

/-- The scan `t` goes along with the scan `s` behind `base` and inside of `frame`. -/
structure Within (base : List Node) (frame : List OpenBlock) (s t : Scan) : Prop where
  place : t.place = s.place
  rest : t.rest = s.rest
  stack : SameBut base frame s.nodes s.outer t.nodes t.outer

variable {s s' t : Scan}

namespace Within

theorem moveOver (h : Within base frame s t) (taken rest : List Char) :
    Within base frame (s.moveOver taken rest) (t.moveOver taken rest) :=
  ⟨congrArg (·.afterAll taken) h.place, rfl, h.stack⟩

theorem skipSeparators (h : Within base frame s t) :
    Within base frame s.skipSeparators t.skipSeparators := by
  rw [Scan.skipSeparators, Scan.skipSeparators, h.rest]
  exact h.moveOver ..

theorem add (h : Within base frame s t) {node : Node} (hnode : node.isDeclaration = false) :
    Within base frame (s.add node) (t.add node) :=
  ⟨h.place, h.rest, h.stack.cons hnode⟩

theorem openBlock (h : Within base frame s t) (head : Head) :
    Within base frame (s.openBlock head) (t.openBlock head) :=
  ⟨h.place, h.rest, .inner h.stack⟩

/-- A brace closes the same block on both sides; at the top level there is none to close. -/
theorem closeBlock (h : Within base frame s t) (hopen : frame = [] ∨ s.outer ≠ []) :
    Within base frame s.closeBlock t.closeBlock := by
  obtain ⟨outer, nodes, place, rest⟩ := s
  obtain ⟨outer', nodes', place', rest'⟩ := t
  obtain ⟨hplace, hrest, hstack⟩ := h
  cases hstack with
  | outermost hown =>
    rcases hopen with rfl | hopen
    · exact ⟨hplace, hrest, .outermost hown⟩
    · exact absurd rfl hopen
  | @inner _ before before' head outer outer' h =>
    exact ⟨hplace, hrest, h.cons (head.isDeclaration_close _)⟩

theorem addDeclaration (h : Within base frame s t) (text : List Char) :
    Within base frame (s.addDeclaration text) (t.addDeclaration text) := by
  obtain ⟨outer, nodes, place, rest⟩ := s
  obtain ⟨outer', nodes', place', rest'⟩ := t
  obtain ⟨hplace, hrest, hstack⟩ := h
  cases hparse : Declaration.parse? text with
  | none =>
    simp only [Scan.addDeclaration, hparse]
    exact ⟨hplace, hrest, hstack⟩
  | some d =>
    cases hstack with
    | @outermost nodes own hown =>
      simp only [Scan.addDeclaration, hparse]
      cases outer' with
      | nil => exact ⟨hplace, hrest, .outermost hown⟩
      | cons b frame =>
        -- only the side in the block keeps the declaration
        refine ⟨hplace, hrest, ?_⟩
        show SameBut base (b :: frame) nodes [] ((.declaration d :: own) ++ base) (b :: frame)
        exact .outermost hown
    | inner h =>
      simp only [Scan.addDeclaration, hparse]
      exact ⟨hplace, hrest, .inner h⟩

theorem afterText (h : Within base frame s t) (text after : List Char) (head : Head)
    {complete : Scan → Scan} (hcomplete : Within base frame (complete s) (complete t)) :
    Within base frame (s.afterText text after head complete)
      (t.afterText text after head complete) := by
  unfold Scan.afterText
  split
  · exact (h.openBlock head).moveOver ..
  · exact hcomplete.moveOver ..
  · exact hcomplete.moveOver ..

theorem readAtRule (h : Within base frame s t) (text : List Char) :
    Within base frame (s.readAtRule text) (t.readAtRule text) := by
  rw [Scan.readAtRule, Scan.readAtRule]
  exact h.afterText _ _ _ (h.add rfl)

theorem readItem (h : Within base frame s t) : Within base frame s.readItem t.readItem := by
  rw [Scan.readItem, Scan.readItem, h.rest, h.place]
  exact h.afterText _ _ _ (h.addDeclaration _)

/-- A step is the same on both sides, unless it skips a brace on one and closes the block around the
other. -/
theorem step (h : Within base frame s t) (hst : s.Step s')
    (hbrace : frame = [] ∨ s.skipsBrace = false) : ∃ t', t.Step t' ∧ Within base frame s' t' := by
  have hskip := h.skipSeparators
  cases hst with
  | @close rest hs =>
    have hopen : frame = [] ∨ s.skipSeparators.outer ≠ [] := by
      refine hbrace.imp_right fun hbrace houter => ?_
      have houter : s.outer = [] := houter
      simp [skipsBrace, hs, houter] at hbrace
    exact ⟨_, .close (hskip.rest.trans hs), (hskip.closeBlock hopen).moveOver ..⟩
  | @atRule text hs => exact ⟨_, .atRule (hskip.rest.trans hs), hskip.readAtRule text⟩
  | item hs hb hat => exact ⟨_, .item (hskip.rest.trans hs) hb hat, hskip.readItem⟩

theorem readText? (h : Within base frame s t) : t.readText? = s.readText? := by
  rw [Scan.readText?, Scan.readText?, h.skipSeparators.rest]

theorem step?_eq_none (h : Within base frame s t) (hs : s.step? = none) : t.step? = none := by
  rw [step?_eq_none_iff] at hs ⊢
  exact h.skipSeparators.rest.trans hs

/-- Both sides come to their ends together, and read the same on the way. -/
theorem last (h : Within base frame s t)
    (hbrace : frame = [] ∨ ∀ u ∈ s.trace, u.skipsBrace = false) :
    Within base frame s.last t.last ∧ t.reads = s.reads := by
  fun_induction Scan.last s generalizing t with
  | case1 s hs =>
    have ht := h.step?_eq_none hs
    rw [last_of_step?_eq_none ht, reads, reads, trace_of_step?_eq_none hs,
      trace_of_step?_eq_none ht, List.filterMap_cons, List.filterMap_cons, h.readText?]
    exact ⟨h, rfl⟩
  | case2 s s' hs hlt ih =>
    have hbrace' := hbrace.imp_right (forall_mem_trace hs).1
    obtain ⟨t', ht, h'⟩ := h.step (step_of_step? hs) (hbrace'.imp_right And.left)
    obtain ⟨hlast, hreads⟩ := ih h' (hbrace'.imp_right And.right)
    rw [last_of_step? ht.step?, reads, reads, trace_of_step? hs, trace_of_step? ht.step?,
      List.filterMap_cons, List.filterMap_cons, h.readText?]
    exact ⟨hlast, by rw [← reads, ← reads, hreads]⟩

end Within

end Scan

end StyleGauge.Stylesheet
