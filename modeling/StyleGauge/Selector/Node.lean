import StyleGauge.Text.Case

/-!
# Selectors as node sequences

One branch of a selector list is a sequence of nodes: the parts of its compounds in order, with a
combinator between two compounds. The arguments of `:not()`, `:is()`, `:where()` and `:has()` are
such sequences themselves. Depth, specificity and the other views of a selector count nodes.
-/

namespace StyleGauge.Selector

/-- How two neighbouring compounds are related. -/
inductive Combinator where
  | descendant
  | child
  | nextSibling
  | subsequentSibling
  deriving DecidableEq, Repr

/-- The sign of a combinator. -/
def Combinator.text : Combinator → String
  | descendant => " "
  | child => ">"
  | nextSibling => "+"
  | subsequentSibling => "~"

/-- A part of a selector. -/
inductive Node where
  /-- An element name, with its namespace. -/
  | element (name : String)
  /-- The star, with its namespace. -/
  | universal (raw : String)
  | id (name : String)
  | className (name : String)
  /-- An attribute test with its brackets. -/
  | attributeTest (raw : String)
  | pseudoElement (name : String)
  /-- A pseudo-class, and the argument of one that is written as a function. -/
  | pseudoClass (name : String) (argument : Option String)
  /-- A pseudo-class whose arguments are selectors. -/
  | logical (name : String) (arguments : List (List Node))
  | combinator (kind : Combinator)
  deriving Repr, Inhabited

/-- The pseudo-classes that take selectors. They add no specificity of their own. -/
def logicalNames : List String :=
  ["not", "is", "where", "has"]

/-- The pseudo-elements that are also written with one colon. -/
def legacyPseudoElements : List String :=
  ["before", "after", "first-line", "first-letter", "selection", "placeholder"]

/-- Whether a pseudo-class of this name is left out of the specificity. -/
def isLogicalName (name : String) : Bool :=
  logicalNames.contains (Text.lowerString name)

namespace Node

/-- Whether the node is a combinator. -/
def isCombinator : Node → Bool
  | combinator _ => true
  | _ => false

/-- Whether the node is an id. -/
def isId : Node → Bool
  | id _ => true
  | _ => false

/-- Whether the node is an attribute test. -/
def isAttribute : Node → Bool
  | attributeTest _ => true
  | _ => false

/-- Whether the node is a pseudo-class of either kind. -/
def isPseudoClass : Node → Bool
  | pseudoClass .. | logical .. => true
  | _ => false

/-- Whether the node is a pseudo-element. -/
def isPseudoElement : Node → Bool
  | pseudoElement _ => true
  | _ => false

/-- Whether the node counts as a class in the specificity. -/
def countsAsClass : Node → Bool
  | className _ | attributeTest _ => true
  | pseudoClass name _ | logical name _ => !isLogicalName name
  | _ => false

/-- Whether the node counts as an element in the specificity. -/
def countsAsElement : Node → Bool
  | element _ | pseudoElement _ => true
  | _ => false

end Node

/-! ### Descent into arguments -/

mutual

/-- A node and all nodes in its arguments. -/
def Node.within : Node → List Node
  | .logical name arguments => .logical name arguments :: argumentNodes arguments
  | node => [node]

/-- All nodes of a sequence, those in arguments included. -/
def allNodes : List Node → List Node
  | [] => []
  | node :: nodes => node.within ++ allNodes nodes

/-- All nodes of a list of arguments. -/
def argumentNodes : List (List Node) → List Node
  | [] => []
  | argument :: arguments => allNodes argument ++ argumentNodes arguments

end

@[simp] theorem allNodes_nil : allNodes [] = [] := by simp [allNodes]

@[simp] theorem allNodes_cons (node : Node) (nodes : List Node) :
    allNodes (node :: nodes) = node.within ++ allNodes nodes := by simp [allNodes]

@[simp] theorem allNodes_append (a b : List Node) : allNodes (a ++ b) = allNodes a ++ allNodes b := by
  induction a with
  | nil => simp
  | cons node nodes ih => simp [ih]

end StyleGauge.Selector
