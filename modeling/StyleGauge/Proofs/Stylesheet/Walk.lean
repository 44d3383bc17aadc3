import Mathlib.Tactic.Common
import StyleGauge.Proofs.Stylesheet.Shifts

/-!
# Walks through trees

A walk goes through a tree in pre-order, a node before the nodes in its block, and knows at every
node which blocks are around it. What is beneath a node follows it in one piece. The declarations,
layers and rules of a tree are what a walk meets of them, and the layer of a rule is that of the
nearest block around it that has one.
-/

namespace StyleGauge.Stylesheet

/-! ### Visits -/

/-- A node on a walk, with the blocks around it, the innermost first. -/
structure Visit where
  outer : List Head
  node : Node

mutual

/-- The visits of a node and of everything beneath it. -/
def Node.visits (outer : List Head) : Node → List Visit
  | .declaration d => [⟨outer, .declaration d⟩]
  | .rule prelude start children =>
    ⟨outer, .rule prelude start children⟩ :: visitsOf (.rule prelude start :: outer) children
  | .block name params children =>
    ⟨outer, .block name params children⟩ :: visitsOf (.atRule name params :: outer) children
  | .statement name params => [⟨outer, .statement name params⟩]

/-- The visits of nodes in a row and of everything beneath them. -/
def visitsOf (outer : List Head) : List Node → List Visit
  | [] => []
  | node :: nodes => node.visits outer ++ visitsOf outer nodes

end

/-- What stands before the block of a node, if it has one. -/
def Node.head? : Node → Option Head
  | .declaration _ => none
  | .rule prelude start _ => some (.rule prelude start)
  | .block name params _ => some (.atRule name params)
  | .statement .. => none

@[simp] theorem head?_close (head : Head) (children : List Node) :
    (head.close children).head? = some head := by
  cases head <;> rfl

/-- Nodes in a row, by what the first of them is: what is beneath it comes with its own block
around. -/
theorem nodes_induction {P : List Head → List Node → Prop} (nil : ∀ outer, P outer [])
    (leaf : ∀ outer node nodes, node.head? = none → P outer nodes → P outer (node :: nodes))
    (close : ∀ outer (head : Head) children nodes, P (head :: outer) children → P outer nodes →
      P outer (head.close children :: nodes))
    (outer : List Head) (nodes : List Node) : P outer nodes := by
  match nodes with
  | [] => exact nil outer
  | .declaration d :: nodes =>
    exact leaf outer (.declaration d) nodes rfl (nodes_induction nil leaf close outer nodes)
  | .statement name params :: nodes =>
    exact leaf outer (.statement name params) nodes rfl (nodes_induction nil leaf close outer nodes)
  | .rule prelude start children :: nodes =>
    have hchildren := nodes_induction nil leaf close (.rule prelude start :: outer) children
    have hnodes := nodes_induction nil leaf close outer nodes
    exact close outer (.rule prelude start) children nodes hchildren hnodes
  | .block name params children :: nodes =>
    have hchildren := nodes_induction nil leaf close (.atRule name params :: outer) children
    have hnodes := nodes_induction nil leaf close outer nodes
    exact close outer (.atRule name params) children nodes hchildren hnodes

section

variable {outer : List Head} {nodes : List Node}

@[simp] theorem visitsOf_nil (outer : List Head) : visitsOf outer [] = [] := by simp [visitsOf]

@[simp] theorem visitsOf_cons (outer : List Head) (node : Node) (nodes : List Node) :
    visitsOf outer (node :: nodes) = node.visits outer ++ visitsOf outer nodes := by
  simp [visitsOf]

theorem visitsOf_append (outer : List Head) (a b : List Node) :
    visitsOf outer (a ++ b) = visitsOf outer a ++ visitsOf outer b := by
  induction a with
  | nil => simp
  | cons node a ih => simp [ih]

theorem visits_of_leaf {node : Node} (h : node.head? = none) (outer : List Head) :
    node.visits outer = [⟨outer, node⟩] := by
  cases node <;> simp_all [Node.visits, Node.head?]

@[simp] theorem visits_close (outer : List Head) (head : Head) (children : List Node) :
    (head.close children).visits outer =
      ⟨outer, head.close children⟩ :: visitsOf (head :: outer) children := by
  cases head <;> simp [Head.close, Node.visits]

/-- Every block around a visited node is around the whole walk or is visited itself. -/
theorem exists_visit_of_mem_outer {v : Visit} (hv : v ∈ visitsOf outer nodes) {head : Head}
    (hhead : head ∈ v.outer) :
    head ∈ outer ∨ ∃ w ∈ visitsOf outer nodes, w.node.head? = some head := by
  induction outer, nodes using nodes_induction with
  | nil => simp at hv
  | leaf outer node nodes hleaf ih =>
    rw [visitsOf_cons, visits_of_leaf hleaf, List.singleton_append, List.mem_cons] at hv
    rcases hv with rfl | hv
    · exact .inl hhead
    · refine (ih hv).imp_right ?_
      rintro ⟨w, hw, hnode⟩
      exact ⟨w, by simp [hw], hnode⟩
  | close outer own inner nodes ihinner ihnodes =>
    rw [visitsOf_cons, visits_close, List.cons_append, List.mem_cons, List.mem_append] at hv
    rcases hv with rfl | hv | hv
    · exact .inl hhead
    · rcases ihinner hv with hmem | ⟨w, hw, hnode⟩
      · rcases List.mem_cons.1 hmem with rfl | hmem
        · exact .inr ⟨⟨outer, head.close inner⟩, by simp, head?_close head inner⟩
        · exact .inl hmem
      · exact .inr ⟨w, by simp [hw], hnode⟩
    · refine (ihnodes hv).imp_right ?_
      rintro ⟨w, hw, hnode⟩
      exact ⟨w, by simp [hw], hnode⟩

/-! ### What is beneath a node -/

/-- The visits of what is beneath a node. -/
def Visit.beneath (v : Visit) : List Visit :=
  match v.node with
  | .rule prelude start children => visitsOf (.rule prelude start :: v.outer) children
  | .block name params children => visitsOf (.atRule name params :: v.outer) children
  | _ => []

theorem beneath_close (outer : List Head) (head : Head) (children : List Node) :
    (Visit.mk outer (head.close children)).beneath = visitsOf (head :: outer) children := by
  cases head <;> rfl

/-- A walk goes through all that is beneath a node right after the node. -/
theorem exists_eq_beneath_append {before after : List Visit} {v : Visit}
    (h : visitsOf outer nodes = before ++ v :: after) : ∃ rest, after = v.beneath ++ rest := by
  induction outer, nodes using nodes_induction generalizing before after with
  | nil => simp at h
  | leaf outer node nodes hleaf ih =>
    rw [visitsOf_cons, visits_of_leaf hleaf, List.singleton_append] at h
    rcases List.cons_eq_append_iff.1 h with ⟨-, hv⟩ | ⟨before, -, hrest⟩
    · obtain ⟨rfl, rfl⟩ := List.cons.inj hv
      cases node <;> simp_all [Visit.beneath, Node.head?]
    · exact ih hrest
  | close outer head children nodes ihchildren ihnodes =>
    rw [visitsOf_cons, visits_close, List.cons_append] at h
    rcases List.cons_eq_append_iff.1 h with ⟨-, hv⟩ | ⟨before, -, hrest⟩
    · obtain ⟨rfl, rfl⟩ := List.cons.inj hv
      exact ⟨_, by rw [beneath_close]⟩
    · -- the node is beneath the first one, or it is one of those behind it
      rcases List.append_eq_append_iff.1 hrest with ⟨more, -, hbehind⟩ | ⟨more, hbeneath, hmore⟩
      · exact ihnodes hbehind
      · cases more with
        | nil => exact @ihnodes [] after hmore.symm
        | cons w more =>
          obtain ⟨rfl, rfl⟩ := List.cons.inj hmore
          obtain ⟨rest, rfl⟩ := ihchildren hbeneath
          exact ⟨rest ++ visitsOf outer nodes, List.append_assoc ..⟩

end

/-! ### Declarations, layers and rules -/

/-- The declaration that a node is. -/
def Node.declaration? : Node → Option Declaration
  | .declaration d => some d
  | _ => none

/-- The parameters of a layer at-rule. -/
def Node.layerParams? : Node → Option String
  | .block name params _ => if isLayerName name then some params else none
  | .statement name params => if isLayerName name then some params else none
  | _ => none

/-- The layer that a block puts its content into by itself. -/
def Head.layer? : Head → Option String
  | rule .. => none
  | atRule name params => if isLayerName name && params != "" then some params else none

/-- The layer of the nearest block that has one. -/
def layerAround (outer : List Head) : Option String :=
  outer.findSome? Head.layer?

/-- The declarations beneath a node. -/
def Visit.declarations (v : Visit) : List Declaration :=
  v.beneath.filterMap fun w => w.node.declaration?

/-- The rule that a visited node is, taken out of its tree. -/
def Visit.flatRule? (v : Visit) : Option FlatRule :=
  match v.node with
  | .rule prelude start _ => some ⟨prelude, start, v.declarations, layerAround v.outer⟩
  | _ => none

@[simp] theorem declaration?_close (head : Head) (children : List Node) :
    (head.close children).declaration? = none := by
  cases head <;> rfl

theorem declarations_close (head : Head) (children : List Node) :
    (head.close children).declarations = declarationsOf children := by
  cases head <;> simp [Head.close, Node.declarations]

theorem declarationsOf_eq_filterMap (outer : List Head) (nodes : List Node) :
    declarationsOf nodes = (visitsOf outer nodes).filterMap fun v => v.node.declaration? := by
  induction outer, nodes using nodes_induction with
  | nil => simp
  | leaf outer node nodes hleaf ih =>
    rw [declarationsOf_cons, ih, visitsOf_cons, visits_of_leaf hleaf]
    cases node <;> simp_all [Node.declarations, Node.declaration?, Node.head?]
  | close outer head children nodes ihchildren ihnodes =>
    simp [declarations_close, ihchildren, ihnodes]

theorem layerParams_close (head : Head) (children : List Node) :
    (head.close children).layerParams =
      (head.close children).layerParams?.toList ++ layerParamsOf children := by
  cases head with
  | rule prelude start => simp [Head.close, Node.layerParams, Node.layerParams?]
  | atRule name params =>
    rw [Head.close, Node.layerParams, Node.layerParams?]
    split <;> rfl

theorem layerParams_of_leaf {node : Node} (h : node.head? = none) :
    node.layerParams = node.layerParams?.toList := by
  cases node with
  | declaration d => simp [Node.layerParams, Node.layerParams?]
  | rule prelude start children => simp [Node.head?] at h
  | block name params children => simp [Node.head?] at h
  | statement name params =>
    rw [Node.layerParams, Node.layerParams?]
    split <;> rfl

theorem layerParamsOf_eq_filterMap (outer : List Head) (nodes : List Node) :
    layerParamsOf nodes = (visitsOf outer nodes).filterMap fun v => v.node.layerParams? := by
  induction outer, nodes using nodes_induction with
  | nil => simp
  | leaf outer node nodes hleaf ih =>
    rw [layerParamsOf_cons, layerParams_of_leaf hleaf, ih, visitsOf_cons,
      visits_of_leaf hleaf, List.singleton_append, List.filterMap_cons]
    cases node.layerParams? <;> rfl
  | close outer head children nodes ihchildren ihnodes =>
    rw [layerParamsOf_cons, layerParams_close, ihchildren, ihnodes, visitsOf_cons, visits_close,
      List.cons_append, List.filterMap_cons, List.filterMap_append]
    cases (head.close children).layerParams? <;> simp

theorem layerAround_cons_rule (prelude : String) (start : Text.Position) (outer : List Head) :
    layerAround (.rule prelude start :: outer) = layerAround outer := rfl

theorem layerAround_cons_atRule (name params : String) (outer : List Head) :
    layerAround (.atRule name params :: outer) = innerLayer (layerAround outer) name params := by
  rw [layerAround, List.findSome?_cons, Head.layer?, innerLayer]
  split_ifs <;> rfl

/-- The rules of nodes are those that a walk meets. -/
theorem rulesOf_eq_filterMap (outer : List Head) (nodes : List Node) :
    rulesOf (layerAround outer) nodes = (visitsOf outer nodes).filterMap Visit.flatRule? := by
  induction outer, nodes using nodes_induction with
  | nil => simp
  | leaf outer node nodes hleaf ih =>
    rw [rulesOf_cons, ih, visitsOf_cons, visits_of_leaf hleaf, List.singleton_append,
      List.filterMap_cons]
    cases node <;> simp_all [Node.rules, Visit.flatRule?, Node.head?]
  | close outer head children nodes ihchildren ihnodes =>
    rw [rulesOf_cons, ihnodes, visitsOf_cons, visits_close, List.cons_append,
      List.filterMap_cons, List.filterMap_append, ← ihchildren]
    cases head with
    | rule prelude start =>
      rw [Head.close, Node.rules, layerAround_cons_rule,
        declarationsOf_eq_filterMap (.rule prelude start :: outer)]
      rfl
    | atRule name params =>
      rw [Head.close, Node.rules, layerAround_cons_atRule]
      rfl

/-! ### Rules of stylesheets -/

/-- The rule that a visited node is in a stylesheet. A rule needs a branch of its selectors that is
not blank. -/
def Visit.rule? (file : String) (v : Visit) : Option Rule :=
  match v.node with
  | .rule prelude start _ =>
    if Selector.splitList prelude.toList = [] then none
    else some {
      selectors := (Selector.splitList prelude.toList).map fun branch =>
        Selector.analyze (String.ofList branch)
      declarations := v.declarations
      file
      line := some start.line
      column := some start.column
      layer := layerAround v.outer }
  | _ => none

/-- The rule of a visited node has its place and its layer, and the declarations beneath it. -/
theorem Visit.of_rule?_eq_some {file : String} {v : Visit} {r : Rule} (h : v.rule? file = some r) :
    ∃ prelude start, v.node.head? = some (.rule prelude start) ∧
      Selector.splitList prelude.toList ≠ [] ∧ r.declarations = v.declarations ∧
      r.line = some (start.line : Int) ∧ r.column = some (start.column : Int) ∧
      r.layer = layerAround v.outer := by
  unfold Visit.rule? at h
  split at h
  · rename_i prelude start children hnode
    split_ifs at h with hsplit
    obtain rfl := Option.some.inj h
    exact ⟨prelude, start, by rw [hnode, Node.head?], hsplit, rfl, rfl, rfl, rfl⟩
  · cases h

theorem Visit.rule?_eq_bind (file : String) (v : Visit) :
    v.rule? file = v.flatRule?.bind (ruleOf? file) := by
  unfold Visit.rule? Visit.flatRule?
  split
  · rw [Option.bind_some, ruleOf?_eq]
    rfl
  · rfl

/-- The rules of a stylesheet are those that a walk through its tree meets, in its order. -/
theorem rules_ofText_eq_filterMap (source file : String) :
    (ofText source file).rules =
      (visitsOf [] (scan (withoutComments source.toList))).filterMap (Visit.rule? file) := by
  rw [funext (Visit.rule?_eq_bind file), ← List.filterMap_filterMap, ← rulesOf_eq_filterMap]
  rfl

/-! ### Nodes without what is beneath them -/

/-- The node with nothing in its block. -/
def Node.bare : Node → Node
  | .declaration d => .declaration d
  | .rule prelude start _ => .rule prelude start []
  | .block name params _ => .block name params []
  | .statement name params => .statement name params

/-- The visit of a node without what is beneath it. -/
def Visit.bare (v : Visit) : Visit :=
  ⟨v.outer, v.node.bare⟩

@[simp] theorem bare_close (head : Head) (children : List Node) :
    (head.close children).bare = head.close [] := by
  cases head <;> rfl

theorem bare_of_leaf {node : Node} (h : node.head? = none) : node.bare = node := by
  cases node <;> simp_all [Node.bare, Node.head?]

@[simp] theorem head?_bare (node : Node) : node.bare.head? = node.head? := by
  cases node <;> rfl

end StyleGauge.Stylesheet
