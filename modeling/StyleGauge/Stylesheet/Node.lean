import StyleGauge.Stylesheet.Declaration
import StyleGauge.Text.Position

/-!
# Stylesheets as trees

The tree of a stylesheet holds its rules, its at-rules and the declarations in their blocks, in
source order and nested as in the source.
-/

namespace StyleGauge.Stylesheet

/-- A part of a stylesheet. -/
inductive Node where
  | declaration (d : Declaration)
  /-- What stands before the block of a rule, where it starts, and what is in the block. -/
  | rule (prelude : String) (start : Text.Position) (children : List Node)
  /-- An at-rule with a block. -/
  | block (name params : String) (children : List Node)
  /-- An at-rule without a block. -/
  | statement (name params : String)
  deriving Repr, Inhabited

/-- Whether the name of an at-rule is that of cascade layers. -/
def isLayerName (name : String) : Bool :=
  Text.lowerString name == "layer"

/-! ### Declarations of a node -/

mutual

/-- The declarations of a node and of everything beneath it. -/
def Node.declarations : Node → List Declaration
  | .declaration d => [d]
  | .rule _ _ children => declarationsOf children
  | .block _ _ children => declarationsOf children
  | .statement _ _ => []

/-- The declarations of nodes and of everything beneath them. -/
def declarationsOf : List Node → List Declaration
  | [] => []
  | node :: nodes => node.declarations ++ declarationsOf nodes

end

/-! ### Layers -/

mutual

/-- The parameters of the layer at-rules of a node, it and everything beneath it. -/
def Node.layerParams : Node → List String
  | .declaration _ => []
  | .rule _ _ children => layerParamsOf children
  | .block name params children =>
    if isLayerName name then params :: layerParamsOf children else layerParamsOf children
  | .statement name params => if isLayerName name then [params] else []

/-- The parameters of the layer at-rules of nodes and of everything beneath them. -/
def layerParamsOf : List Node → List String
  | [] => []
  | node :: nodes => node.layerParams ++ layerParamsOf nodes

end

/-- The layer that a block puts its content into, given the layer around it. A layer block without
a name keeps the layer around it. -/
def innerLayer (outer : Option String) (name params : String) : Option String :=
  if isLayerName name && params != "" then some params else outer

/-! ### Rules -/

/-- A rule taken out of its tree. -/
structure FlatRule where
  /-- The text before its block. -/
  prelude : String
  /-- Where that text starts. -/
  start : Text.Position
  /-- The declarations of its block, those of nested blocks included. -/
  declarations : List Declaration
  /-- The nearest named layer around it. -/
  layer : Option String
  deriving DecidableEq, Repr

mutual

/-- The rules of a node, a rule before the rules in its block. -/
def Node.rules (layer : Option String) : Node → List FlatRule
  | .declaration _ => []
  | .rule prelude start children =>
    ⟨prelude, start, declarationsOf children, layer⟩ :: rulesOf layer children
  | .block name params children => rulesOf (innerLayer layer name params) children
  | .statement _ _ => []

/-- The rules of nodes in source order. -/
def rulesOf (layer : Option String) : List Node → List FlatRule
  | [] => []
  | node :: nodes => node.rules layer ++ rulesOf layer nodes

end

@[simp] theorem declarationsOf_nil : declarationsOf [] = [] := by simp [declarationsOf]

@[simp] theorem declarationsOf_cons (node : Node) (nodes : List Node) :
    declarationsOf (node :: nodes) = node.declarations ++ declarationsOf nodes := by
  simp [declarationsOf]

@[simp] theorem layerParamsOf_nil : layerParamsOf [] = [] := by simp [layerParamsOf]

@[simp] theorem layerParamsOf_cons (node : Node) (nodes : List Node) :
    layerParamsOf (node :: nodes) = node.layerParams ++ layerParamsOf nodes := by
  simp [layerParamsOf]

@[simp] theorem rulesOf_nil (layer : Option String) : rulesOf layer [] = [] := by simp [rulesOf]

@[simp] theorem rulesOf_cons (layer : Option String) (node : Node) (nodes : List Node) :
    rulesOf layer (node :: nodes) = node.rules layer ++ rulesOf layer nodes := by
  simp [rulesOf]

end StyleGauge.Stylesheet
