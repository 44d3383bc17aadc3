import StyleGauge.Selector.Estimate
import StyleGauge.Selector.Parser
import StyleGauge.Selector.Specificity

/-!
# What is known of a selector

Depth, specificity and features of one branch of a selector list. They are views of its nodes; of
a branch that is not well formed they are estimates.
-/

namespace StyleGauge

/-- A branch of a selector list and what is known of it. -/
structure Selector where
  /-- The text of the branch. -/
  raw : String
  /-- How many compounds the branch has. -/
  depth : Int
  /-- How strongly it binds. -/
  specificity : Specificity
  hasId : Bool := false
  hasPseudoClass : Bool := false
  hasPseudoElement : Bool := false
  hasAttribute : Bool := false
  deriving DecidableEq, Repr

namespace Selector

/-- The depth of a node sequence: one more than its combinators, those in arguments left out. -/
def depthOf (nodes : List Node) : Nat :=
  1 + nodes.countP Node.isCombinator

/-- The specificity of a node sequence: the nodes that count, those in arguments included. -/
def specificityOf (nodes : List Node) : Specificity :=
  let all := allNodes nodes
  .ofCounts (all.countP Node.isId) (all.countP Node.countsAsClass) (all.countP Node.countsAsElement)

/-- A branch that is well formed. -/
def ofNodes (raw : String) (nodes : List Node) : Selector :=
  let all := allNodes nodes
  { raw
    depth := depthOf nodes
    specificity := specificityOf nodes
    hasId := all.any Node.isId
    hasPseudoClass := all.any Node.isPseudoClass
    hasPseudoElement := all.any Node.isPseudoElement
    hasAttribute := all.any Node.isAttribute }

/-- A branch that is not well formed, by looks. -/
def estimate (raw : String) : Selector :=
  let cs := raw.toList
  { raw
    depth := Estimate.depth cs
    specificity := .ofCounts (Estimate.ids cs)
      (Estimate.classNames cs + Estimate.attributeTests cs) (Estimate.elements cs)
    hasId := Estimate.ids cs != 0
    hasPseudoClass := Estimate.hasPseudoClass cs
    hasPseudoElement := Estimate.hasPseudoElement cs
    hasAttribute := Estimate.attributeTests cs != 0 }

/-- What is known of a branch. -/
def analyze (raw : String) : Selector :=
  match parse? raw.toList with
  | some nodes => ofNodes raw nodes
  | none => estimate raw

@[simp] theorem raw_analyze (raw : String) : (analyze raw).raw = raw := by
  unfold analyze
  split <;> rfl

end Selector

end StyleGauge
