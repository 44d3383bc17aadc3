import Mathlib.Algebra.Order.Ring.Int
import StyleGauge.Proofs.Selector.Size
import StyleGauge.Proofs.Stylesheet.Pieces

/-!
# How much a stylesheet can hold

Every step of the scanner takes a character and makes one node at most, so that a tree has no more
nodes than its text has characters. This bounds the rules of a stylesheet, the selectors and
declarations of every rule, and the measures of every selector.
-/

namespace StyleGauge

namespace Stylesheet

/-! ### Trees -/

mutual

/-- How many nodes a node is, itself included. -/
def Node.size : Node → Nat
  | .declaration _ => 1
  | .rule _ _ children => 1 + sizeOf children
  | .block _ _ children => 1 + sizeOf children
  | .statement _ _ => 1

/-- How many nodes there are, those in blocks included. -/
def sizeOf : List Node → Nat
  | [] => 0
  | node :: nodes => node.size + sizeOf nodes

end

@[simp] theorem sizeOf_nil : sizeOf [] = 0 := by simp [sizeOf]

@[simp] theorem sizeOf_cons (node : Node) (nodes : List Node) :
    sizeOf (node :: nodes) = node.size + sizeOf nodes := by
  simp [sizeOf]

@[simp] theorem sizeOf_append (a b : List Node) : sizeOf (a ++ b) = sizeOf a + sizeOf b := by
  induction a with
  | nil => simp
  | cons node a ih =>
    simp only [List.cons_append, sizeOf_cons, ih]
    omega

@[simp] theorem sizeOf_reverse (nodes : List Node) : sizeOf nodes.reverse = sizeOf nodes := by
  induction nodes with
  | nil => rfl
  | cons node nodes ih =>
    simp [ih]
    omega

theorem Head.size_close (head : Head) (children : List Node) :
    (head.close children).size = 1 + sizeOf children := by
  cases head <;> simp [Head.close, Node.size]

namespace Scan

/-- How many nodes an open block has before it, and makes itself. -/
def OpenBlock.size (b : OpenBlock) : Nat :=
  1 + sizeOf b.before

/-- How many nodes were made so far. -/
def size (s : Scan) : Nat :=
  sizeOf s.nodes + (s.outer.map OpenBlock.size).sum

variable {s t : Scan}

@[simp] theorem size_moveOver (s : Scan) (taken rest : List Char) :
    (s.moveOver taken rest).size = s.size := rfl

@[simp] theorem size_skipSeparators (s : Scan) : s.skipSeparators.size = s.size := rfl

theorem size_closeBlock (s : Scan) : s.closeBlock.size = s.size := by
  unfold closeBlock
  split
  · rfl
  · rename_i b outer hb
    simp [size, hb, Head.size_close, OpenBlock.size]
    omega

theorem size_openBlock (s : Scan) (head : Head) : (s.openBlock head).size = s.size + 1 := by
  simp [size, openBlock, OpenBlock.size]
  omega

theorem size_afterText_le (s : Scan) (text after : List Char) (head : Head)
    {complete : Scan → Scan} (h : (complete s).size ≤ s.size + 1) :
    (s.afterText text after head complete).size ≤ s.size + 1 := by
  unfold afterText
  split
  · exact (size_openBlock s head).le
  · exact h
  · exact h

theorem size_addDeclaration_le (s : Scan) (text : List Char) :
    (s.addDeclaration text).size ≤ s.size + 1 := by
  unfold addDeclaration
  split
  · simp [size, add, Node.size]
    omega
  · exact Nat.le_succ _

/-- A step makes one node at most. -/
theorem size_step?_le (h : s.step? = some t) : t.size ≤ s.size + 1 := by
  have hskip := size_skipSeparators s
  unfold step? stepHere? at h
  split at h
  · simp at h
  · split at h
    · obtain rfl := Option.some.inj h
      rw [size_moveOver, size_closeBlock, hskip]
      exact Nat.le_succ _
    · split at h
      · obtain rfl := Option.some.inj h
        rw [← hskip]
        refine size_afterText_le _ _ _ _ ?_
        simp [size, add, Node.size]
        omega
      · obtain rfl := Option.some.inj h
        rw [← hskip]
        exact size_afterText_le s.skipSeparators _ _ _ (size_addDeclaration_le _ _)

theorem size_closeAll (outer : List OpenBlock) (nodes : List Node) :
    sizeOf (closeAll outer nodes) = sizeOf nodes + (outer.map OpenBlock.size).sum := by
  induction outer generalizing nodes with
  | nil => simp [closeAll]
  | cons b outer ih =>
    simp [closeAll, ih, Head.size_close, OpenBlock.size]
    omega

/-- A run makes one node at most for every character that is left. -/
theorem size_run_le (s : Scan) : sizeOf s.run ≤ s.size + s.rest.length := by
  fun_induction run s with
  | case1 s hstep =>
    rw [finish, size_closeAll]
    exact Nat.le_add_right _ _
  | case2 s t hstep hlt ih =>
    have := size_step?_le hstep
    omega

end Scan

/-- A tree has no more nodes than its text has characters. -/
theorem sizeOf_scan_le (text : List Char) : sizeOf (scan text) ≤ text.length := by
  have hrun := Scan.size_run_le (.start text)
  have hstart : (Scan.start text).size = 0 := rfl
  rwa [hstart, Nat.zero_add] at hrun

/-! ### Rules and declarations -/

mutual

theorem length_declarations_le (node : Node) : node.declarations.length ≤ node.size := by
  match node with
  | .declaration d => simp [Node.declarations, Node.size]
  | .rule prelude start children =>
    have := length_declarationsOf_le children
    simp only [Node.declarations, Node.size]
    omega
  | .block name params children =>
    have := length_declarationsOf_le children
    simp only [Node.declarations, Node.size]
    omega
  | .statement name params => simp [Node.declarations]

theorem length_declarationsOf_le (nodes : List Node) :
    (declarationsOf nodes).length ≤ sizeOf nodes := by
  match nodes with
  | [] => simp
  | node :: nodes =>
    have := length_declarations_le node
    have := length_declarationsOf_le nodes
    simp only [declarationsOf_cons, List.length_append, sizeOf_cons]
    omega

end

mutual

theorem length_rules_le (node : Node) (layer : Option String) :
    (node.rules layer).length ≤ node.size := by
  match node with
  | .declaration d => simp [Node.rules]
  | .rule prelude start children =>
    have := length_rulesOf_le children layer
    simp only [Node.rules, Node.size, List.length_cons]
    omega
  | .block name params children =>
    have := length_rulesOf_le children (innerLayer layer name params)
    simp only [Node.rules, Node.size]
    omega
  | .statement name params => simp [Node.rules]

theorem length_rulesOf_le (nodes : List Node) (layer : Option String) :
    (rulesOf layer nodes).length ≤ sizeOf nodes := by
  match nodes with
  | [] => simp
  | node :: nodes =>
    have := length_rules_le node layer
    have := length_rulesOf_le nodes layer
    simp only [rulesOf_cons, List.length_append, sizeOf_cons]
    omega

end

mutual

theorem declarations_length_le_of_mem_rules {node : Node} {layer : Option String} {r : FlatRule}
    (h : r ∈ node.rules layer) : r.declarations.length ≤ node.size := by
  match node with
  | .declaration d => simp [Node.rules] at h
  | .rule prelude start children =>
    rw [Node.rules, List.mem_cons] at h
    rw [Node.size]
    rcases h with rfl | h
    · have := length_declarationsOf_le children
      dsimp only
      omega
    · have := declarations_length_le_of_mem_rulesOf h
      omega
  | .block name params children =>
    rw [Node.rules] at h
    have := declarations_length_le_of_mem_rulesOf h
    rw [Node.size]
    omega
  | .statement name params => simp [Node.rules] at h

theorem declarations_length_le_of_mem_rulesOf {nodes : List Node} {layer : Option String}
    {r : FlatRule} (h : r ∈ rulesOf layer nodes) : r.declarations.length ≤ sizeOf nodes := by
  match nodes with
  | [] => simp at h
  | node :: nodes =>
    rw [rulesOf_cons, List.mem_append] at h
    rw [sizeOf_cons]
    rcases h with h | h
    · have := declarations_length_le_of_mem_rules h
      omega
    · have := declarations_length_le_of_mem_rulesOf h
      omega

end

end Stylesheet

/-! ### Selector lists -/

theorem Selector.length_pieces_le (state : Text.Nesting) (cs : List Char) :
    (Selector.pieces state cs).length ≤ cs.length + 1 := by
  fun_induction Selector.pieces state cs with
  | case1 => simp
  | case2 state c rest hcut ih =>
    simp only [List.length_cons]
    omega
  | case3 => simp
  | case4 state c rest hcut first more hmore ih =>
    rw [hmore] at ih
    simp only [List.length_cons] at ih ⊢
    omega

theorem Selector.length_splitList_le (cs : List Char) :
    (Selector.splitList cs).length ≤ cs.length + 1 := by
  unfold Selector.splitList
  refine (List.length_filter_le _ _).trans ?_
  rw [List.length_map]
  exact Selector.length_pieces_le _ cs

/-! ### Stylesheets -/

/-- A rule with at most `b` selectors and declarations, and selectors of that size. -/
structure Rule.IsSized (b : Nat) (r : Rule) : Prop where
  selectors : r.selectors.length ≤ b
  declarations : r.declarations.length ≤ b
  selector : ∀ s ∈ r.selectors, s.IsSized b

/-- A stylesheet with at most `b` rules of that size. -/
structure Stylesheet.IsSized (b : Nat) (s : Stylesheet) : Prop where
  rules : s.rules.length ≤ b
  rule : ∀ r ∈ s.rules, r.IsSized b

theorem Selector.IsSized.mono {b b' : Nat} {s : Selector} (h : s.IsSized b) (hle : b ≤ b') :
    s.IsSized b' := by
  obtain ⟨i, c, e, heq, hi, hc, he⟩ := h.specificity
  refine ⟨h.depth_nonneg, h.depth_le.trans (by exact_mod_cast hle), ?_, h.hasId⟩
  exact ⟨i, c, e, heq, hi.trans hle, hc.trans hle, he.trans hle⟩

theorem Rule.IsSized.mono {b b' : Nat} {r : Rule} (h : r.IsSized b) (hle : b ≤ b') :
    r.IsSized b' :=
  ⟨h.selectors.trans hle, h.declarations.trans hle, fun s hs => (h.selector s hs).mono hle⟩

theorem Stylesheet.IsSized.mono {b b' : Nat} {s : Stylesheet} (h : s.IsSized b) (hle : b ≤ b') :
    s.IsSized b' :=
  ⟨h.rules.trans hle, fun r hr => (h.rule r hr).mono hle⟩

namespace Stylesheet

theorem isSized_failure (b : Nat) (file message : String) : (failure file message).IsSized b :=
  ⟨Nat.zero_le _, by simp [failure]⟩

/-- What is read from a text is bounded by its length. -/
theorem isSized_ofText (source file : String) :
    (ofText source file).IsSized (2 * source.length + 1) := by
  have hblank : (withoutComments source.toList).length = source.length := by
    rw [withoutComments, blankComments_length, source.length_toList]
  have hsize := sizeOf_scan_le (withoutComments source.toList)
  rw [hblank] at hsize
  constructor
  · have hfilter := List.length_filterMap_le (ruleOf? file)
      (rulesOf none (scan (withoutComments source.toList)))
    have hrules := length_rulesOf_le (scan (withoutComments source.toList)) none
    simp only [ofText, ofTree]
    omega
  · intro r hr
    simp only [ofText, ofTree, List.mem_filterMap] at hr
    obtain ⟨flat, hflat, hr⟩ := hr
    have hcut := rulesOf_cutFrom (cutFromAll_scan (withoutComments source.toList)) none flat hflat
    have hprelude := hcut.prelude.length_le
    have hdeclarations := declarations_length_le_of_mem_rulesOf hflat
    unfold ruleOf? at hr
    split at hr
    · simp at hr
    · obtain rfl := Option.some.inj hr
      have hbranches := Selector.length_splitList_le flat.prelude.toList
      refine ⟨?_, ?_, ?_⟩
      · rw [List.length_map]
        omega
      · dsimp only
        omega
      · intro s hs
        obtain ⟨branch, hbranch, rfl⟩ := List.mem_map.1 hs
        have hlength := (Selector.splitList_isInfix hbranch).length_le
        refine (Selector.isSized_analyze _).mono ?_
        rw [String.length_ofList]
        omega

end Stylesheet

end StyleGauge
