import Mathlib.Data.List.Forall2
import StyleGauge.Proofs.Stylesheet.Places
import StyleGauge.Stylesheet.Basic

/-!
# Rules further on in a text

A rule that is read from a piece of a text is the rule that is read from the piece alone, but for
its line and column: these are the ones of an offset that is larger by the length of what stands
before the piece. A layer around the piece is the layer of the rules that have none of their own.
-/

namespace StyleGauge

namespace Rule

/-- The rule has the line and the column of an offset in a text. -/
def StandsAt (r : Rule) (text : List Char) (offset : Nat) : Prop :=
  r.line = some ((Text.Position.ofOffset text offset).line : Int) ∧
    r.column = some ((Text.Position.ofOffset text offset).column : Int)

/-- `r'` is in `text'` the rule that `r` is in `text`, `n` characters further on. -/
structure IsShifted (text text' : List Char) (n : Nat) (r r' : Rule) : Prop where
  selectors : r'.selectors = r.selectors
  declarations : r'.declarations = r.declarations
  layer : r'.layer = r.layer
  file : r'.file = r.file
  place : ∃ offset ≤ text.length, r.StandsAt text offset ∧ r'.StandsAt text' (n + offset)

theorem map_eq_of_isShifted {text text' : List Char} {n : Nat} {rs rs' : List Rule}
    (h : List.Forall₂ (IsShifted text text' n) rs rs') :
    rs'.map selectors = rs.map selectors ∧ rs'.map declarations = rs.map declarations := by
  induction h with
  | nil => exact ⟨rfl, rfl⟩
  | cons hr hrs ih => simp [hr.selectors, hr.declarations, ih.1, ih.2]

/-- The rule inside of a layer, if there is one. -/
def inLayer (layer : Option String) (r : Rule) : Rule :=
  { r with layer := r.layer.or layer }

theorem IsShifted.inLayer {text text' : List Char} {n : Nat} {r r' : Rule}
    (h : IsShifted text text' n r r') (layer : Option String) :
    IsShifted text text' n (r.inLayer layer) (r'.inLayer layer) where
  selectors := h.selectors
  declarations := h.declarations
  layer := congrArg (·.or layer) h.layer
  file := h.file
  place := h.place

end Rule

namespace Stylesheet

/-! ### Nodes in a row -/

theorem rulesOf_append (layer : Option String) (a b : List Node) :
    rulesOf layer (a ++ b) = rulesOf layer a ++ rulesOf layer b := by
  induction a with
  | nil => simp
  | cons node a ih => simp [ih]

theorem layerParamsOf_append (a b : List Node) :
    layerParamsOf (a ++ b) = layerParamsOf a ++ layerParamsOf b := by
  induction a with
  | nil => simp
  | cons node a ih => simp [ih]

/-! ### Layers around nodes -/

/-- A rule taken out of its tree, inside of a layer if there is one. -/
def FlatRule.inLayer (layer : Option String) (r : FlatRule) : FlatRule :=
  { r with layer := r.layer.or layer }

theorem innerLayer_or (inner outer : Option String) (name params : String) :
    innerLayer (inner.or outer) name params = (innerLayer inner name params).or outer := by
  unfold innerLayer
  split <;> rfl

mutual

theorem rules_or (node : Node) (inner outer : Option String) :
    node.rules (inner.or outer) = (node.rules inner).map (FlatRule.inLayer outer) := by
  match node with
  | .declaration d => simp [Node.rules]
  | .rule prelude start children =>
    rw [Node.rules, Node.rules, rulesOf_or children, List.map_cons]
    rfl
  | .block name params children =>
    rw [Node.rules, Node.rules, innerLayer_or, rulesOf_or children]
  | .statement name params => simp [Node.rules]

/-- The layer around nodes is the layer of the rules that have none among the nodes. -/
theorem rulesOf_or (nodes : List Node) (inner outer : Option String) :
    rulesOf (inner.or outer) nodes = (rulesOf inner nodes).map (FlatRule.inLayer outer) := by
  match nodes with
  | [] => simp
  | node :: nodes => simp [rules_or node, rulesOf_or nodes]

end

/-! ### Rules of trees -/

/-- The rule that a rule taken out of its tree stands for, if a branch of its selectors is not
blank. -/
def FlatRule.toRule (file : String) (r : FlatRule) : Rule where
  selectors := (Selector.splitList r.prelude.toList).map fun b => Selector.analyze (String.ofList b)
  declarations := r.declarations
  file := file
  line := some r.start.line
  column := some r.start.column
  layer := r.layer

theorem ruleOf?_eq (file : String) (r : FlatRule) :
    ruleOf? file r =
      if Selector.splitList r.prelude.toList = [] then none else some (r.toRule file) := by
  unfold ruleOf?
  split
  · rename_i h
    rw [if_pos h]
  · rename_i h
    rw [if_neg h]
    rfl

theorem filterMap_ruleOf?_inLayer (file : String) (layer : Option String) (rs : List FlatRule) :
    (rs.map (FlatRule.inLayer layer)).filterMap (ruleOf? file) =
      (rs.filterMap (ruleOf? file)).map (Rule.inLayer layer) := by
  have hrule (r : FlatRule) :
      ruleOf? file (r.inLayer layer) = (ruleOf? file r).map (Rule.inLayer layer) := by
    rw [ruleOf?_eq, ruleOf?_eq, FlatRule.inLayer]
    split_ifs <;> rfl
  rw [List.filterMap_map, List.map_filterMap]
  exact congrArg (rs.filterMap ·) (funext hrule)

/-- Rules that stand where they say are shifted with the text that they stand in. -/
theorem forall₂_isShifted {text : List Char} {rs : List FlatRule}
    (hrs : ∀ r ∈ rs, r.start.offset ≤ text.length ∧ r.start = .ofOffset text r.start.offset)
    (file : String) (text' : List Char) (n : Nat) :
    List.Forall₂ (Rule.IsShifted text text' n) (rs.filterMap (ruleOf? file))
      ((rs.map (FlatRule.mapPlace (placeIn text' n))).filterMap (ruleOf? file)) := by
  induction rs with
  | nil => exact .nil
  | cons r rs ih =>
    have ih := ih fun r' hr' => hrs r' (List.mem_cons_of_mem r hr')
    obtain ⟨hle, hstart⟩ := hrs r List.mem_cons_self
    rw [List.map_cons, List.filterMap_cons, List.filterMap_cons, ruleOf?_eq, ruleOf?_eq,
      FlatRule.mapPlace]
    split_ifs with hsplit
    · exact ih
    · have hplace : (r.toRule file).StandsAt text r.start.offset := by
        rw [Rule.StandsAt, ← hstart]
        exact ⟨rfl, rfl⟩
      exact .cons ⟨rfl, rfl, rfl, rfl, r.start.offset, hle, hplace, rfl, rfl⟩ ih

end Stylesheet

end StyleGauge
