import StyleGauge.Proofs.Stylesheet.Reading

/-!
# Printing trees

The text of a tree, without any blanks that are not needed, and the trees whose text can be read
back. Reading the text of such a tree gives the tree, with every rule at the place where its prelude
stands in the text.

What `Scan.run` does is followed node by node, with any blocks open around the nodes and any text
behind them: `run_printed` is the induction over the tree, `scan_printedAll` its case of a whole
text.
-/

namespace StyleGauge

open Text (Trimmed)

/-! ### Texts -/

/-- The text of a declaration without its semicolon. -/
def Declaration.printed (d : Declaration) : List Char :=
  d.property.toList ++ ':' :: d.value.toList ++ if d.important then "!important".toList else []

namespace Stylesheet

mutual

/-- The text of a node. -/
def Node.printed : Node → List Char
  | .declaration d => d.printed ++ [';']
  | .rule prelude _ children => prelude.toList ++ '{' :: printedAll children ++ ['}']
  | .block name params children =>
    '@' :: name.toList ++ ' ' :: params.toList ++ '{' :: printedAll children ++ ['}']
  | .statement name params => '@' :: name.toList ++ ' ' :: params.toList ++ [';']

/-- The text of nodes. -/
def printedAll : List Node → List Char
  | [] => []
  | node :: nodes => node.printed ++ printedAll nodes

end

mutual

/-- The node with its rules at the places where they stand in its text, which begins at a given
place. -/
def Node.placed (p : Text.Position) : Node → Node
  | .declaration d => .declaration d
  | .rule prelude _ children =>
    .rule prelude p (placedAll (p.afterAll (prelude.toList ++ ['{'])) children)
  | .block name params children =>
    .block name params
      (placedAll (p.afterAll ('@' :: name.toList ++ ' ' :: params.toList ++ ['{'])) children)
  | .statement name params => .statement name params

/-- The nodes with their rules at the places where they stand in their text. -/
def placedAll (p : Text.Position) : List Node → List Node
  | [] => []
  | node :: nodes => node.placed p :: placedAll (p.afterAll node.printed) nodes

end

mutual

/-- The node without the places of its rules. -/
def Node.unplaced : Node → Node
  | .declaration d => .declaration d
  | .rule prelude _ children => .rule prelude .start (unplacedAll children)
  | .block name params children => .block name params (unplacedAll children)
  | .statement name params => .statement name params

/-- The nodes without the places of their rules. -/
def unplacedAll : List Node → List Node
  | [] => []
  | node :: nodes => node.unplaced :: unplacedAll nodes

end

/-! ### Trees that can be read back -/

end Stylesheet

/-- A declaration that its text stands for. -/
structure Declaration.Printable (d : Declaration) : Prop where
  property_ne : d.property.toList ≠ []
  property_trimmed : Trimmed d.property.toList
  colon_not_mem : ':' ∉ d.property.toList
  property_head : d.property.toList.head? ≠ some '@'
  value_trimmed : Trimmed d.value.toList
  /-- The value does not itself end in a marker. -/
  value_unmarked : Declaration.beforeImportant? d.value.toList = none
  clean : Stylesheet.Clean (d.property.toList ++ ':' :: d.value.toList)

instance (d : Declaration) : Decidable d.Printable :=
  decidable_of_iff
    (d.property.toList ≠ [] ∧ Trimmed d.property.toList ∧ ':' ∉ d.property.toList ∧
      d.property.toList.head? ≠ some '@' ∧ Trimmed d.value.toList ∧
      Declaration.beforeImportant? d.value.toList = none ∧
      Stylesheet.Clean (d.property.toList ++ ':' :: d.value.toList))
    ⟨fun ⟨h₁, h₂, h₃, h₄, h₅, h₆, h₇⟩ => ⟨h₁, h₂, h₃, h₄, h₅, h₆, h₇⟩,
      fun ⟨h₁, h₂, h₃, h₄, h₅, h₆, h₇⟩ => ⟨h₁, h₂, h₃, h₄, h₅, h₆, h₇⟩⟩

namespace Stylesheet

/-- What can stand before the block of a rule. -/
structure PrintablePrelude (prelude : List Char) : Prop where
  ne_nil : prelude ≠ []
  trimmed : Trimmed prelude
  clean : Clean prelude
  head : prelude.head? ≠ some '@'

instance (prelude : List Char) : Decidable (PrintablePrelude prelude) :=
  decidable_of_iff
    (prelude ≠ [] ∧ Trimmed prelude ∧ Clean prelude ∧ prelude.head? ≠ some '@')
    ⟨fun ⟨h₁, h₂, h₃, h₄⟩ => ⟨h₁, h₂, h₃, h₄⟩, fun ⟨h₁, h₂, h₃, h₄⟩ => ⟨h₁, h₂, h₃, h₄⟩⟩

/-- What an at-rule can be called, and what can stand behind its name. -/
structure PrintableAtRule (name params : List Char) : Prop where
  name_ne : name ≠ []
  name_chars : ∀ c ∈ name, isAtNameChar c = true
  trimmed : Trimmed params
  clean : Clean params

instance (name params : List Char) : Decidable (PrintableAtRule name params) :=
  decidable_of_iff
    (name ≠ [] ∧ name.all isAtNameChar = true ∧ Trimmed params ∧ Clean params)
    ⟨fun ⟨h₁, h₂, h₃, h₄⟩ => ⟨h₁, List.all_eq_true.1 h₂, h₃, h₄⟩,
      fun ⟨h₁, h₂, h₃, h₄⟩ => ⟨h₁, List.all_eq_true.2 h₂, h₃, h₄⟩⟩

mutual

/-- A node that its text stands for; declarations are possible only in a block. -/
def Node.Printable (inBlock : Bool) : Node → Prop
  | .declaration d => inBlock = true ∧ d.Printable
  | .rule prelude _ children => PrintablePrelude prelude.toList ∧ PrintableAll true children
  | .block name params children =>
    PrintableAtRule name.toList params.toList ∧ PrintableAll true children
  | .statement name params => PrintableAtRule name.toList params.toList

/-- Nodes that their text stands for. -/
def PrintableAll (inBlock : Bool) : List Node → Prop
  | [] => True
  | node :: nodes => node.Printable inBlock ∧ PrintableAll inBlock nodes

end

end Stylesheet

/-! ### Reading a declaration -/

namespace Declaration

theorem dropWord?_self_append {word : List Char} (h : ∀ c ∈ word, Text.isFormOf c c = true)
    (rest : List Char) : Text.dropWord? word (word ++ rest) = some rest := by
  induction word with
  | nil => rfl
  | cons c word ih =>
    rw [List.cons_append, Text.dropWord?, if_pos (h c (by simp))]
    exact ih fun x hx => h x (List.mem_cons_of_mem c hx)

theorem beforeImportant?_append_marker (value : List Char) :
    beforeImportant? (value ++ "!important".toList) = some value := by
  have hmark : "!important".toList = '!' :: importantWord := by decide
  have hlast : importantWord.reverse = 't' :: "natropmi".toList := by decide
  have hstart : Text.trimStart (importantWord.reverse ++ '!' :: value.reverse) =
      importantWord.reverse ++ '!' :: value.reverse := by
    rw [hlast]
    exact Text.trimStart_cons_of_not_isBlank (by decide) _
  have hword : Text.dropWord? importantWord.reverse
      (importantWord.reverse ++ '!' :: value.reverse) = some ('!' :: value.reverse) :=
    dropWord?_self_append (List.all_eq_true.1 (by decide)) _
  rw [beforeImportant?, hmark, List.reverse_append, List.reverse_cons, List.append_assoc,
    List.singleton_append, hstart, hword]
  simp [Text.trimStart_cons_of_not_isBlank (show Text.isBlank '!' = false by decide)]

/-- Reading the text of a declaration gives the declaration. -/
theorem parse?_printed {d : Declaration} (h : d.Printable) : parse? d.printed = some d := by
  obtain ⟨property, value, important⟩ := d
  have hprop : ∀ c ∈ property.toList, (c != ':') = true := by
    intro c hc
    rw [bne_iff_ne]
    rintro rfl
    exact h.colon_not_mem hc
  have htrim : Text.trim property.toList = property.toList := h.property_trimmed
  have htrim' : Text.trim value.toList = value.toList := h.value_trimmed
  have hne : property.toList.isEmpty = false := by simpa using h.property_ne
  have htake (more : List Char) :
      (property.toList ++ ':' :: more).takeWhile (· != ':') = property.toList := by
    rw [List.takeWhile_append_of_pos hprop, List.takeWhile_cons_of_neg (by simp),
      List.append_nil]
  have hdrop (more : List Char) :
      (property.toList ++ ':' :: more).dropWhile (· != ':') = ':' :: more := by
    rw [List.dropWhile_append_of_pos hprop, List.dropWhile_cons_of_neg (by simp)]
  cases important with
  | false =>
    simp [parse?, printed, htake, hdrop, htrim, htrim', hne, h.value_unmarked]
  | true =>
    have hmark := beforeImportant?_append_marker value.toList
    simp only [parse?, printed, if_true, List.append_assoc, List.cons_append, htake, hdrop, htrim,
      hne, hmark, htrim', String.ofList_toList]
    rfl

/-- The text of a declaration is clean, and begins like the name of its property. -/
theorem Printable.clean_printed {d : Declaration} (h : d.Printable) :
    Stylesheet.Clean d.printed := by
  refine h.clean.append ?_
  cases d.important <;> decide

end Declaration

/-! ### Reading a tree -/

namespace Stylesheet

open Scan

/-- A clean text before a brace opens the block of a rule. -/
theorem run_prelude {s : Scan} {prelude : String} {rest : List Char}
    (h : PrintablePrelude prelude.toList) (hs : s.rest = prelude.toList ++ '{' :: rest) :
    s.run = ((s.openBlock (.rule prelude s.place)).moveOver (prelude.toList ++ ['{']) rest).run := by
  obtain ⟨hne, htrim, hclean, hhead⟩ := h
  have hprelude : String.ofList (Text.trim prelude.toList) = prelude := by
    rw [show Text.trim prelude.toList = prelude.toList from htrim, String.ofList_toList]
  obtain ⟨c, text, htext⟩ := List.exists_cons_of_ne_nil hne
  rw [htext] at htrim hclean hhead hs hprelude ⊢
  rw [run_item hs hclean htrim.isBlank_head (by simpa using hhead) (by decide), hprelude]
  rfl

/-- The text of a declaration before a semicolon is a declaration of the innermost block. -/
theorem run_declaration {s : Scan} {d : Declaration} {rest : List Char} (h : d.Printable)
    (houter : s.outer ≠ []) (hs : s.rest = d.printed ++ ';' :: rest) :
    s.run = ((s.add (.declaration d)).moveOver (d.printed ++ [';']) rest).run := by
  have hadd : s.addDeclaration d.printed = s.add (.declaration d) := by
    obtain ⟨b, outer, hb⟩ := List.exists_cons_of_ne_nil houter
    simp [addDeclaration, Declaration.parse?_printed h, hb]
  obtain ⟨c, property, hproperty⟩ := List.exists_cons_of_ne_nil h.property_ne
  obtain ⟨text, htext⟩ : ∃ text, d.printed = c :: text := by
    rw [Declaration.printed, hproperty]
    exact ⟨_, rfl⟩
  have hblank : Text.isBlank c = false := by
    have := h.property_trimmed
    rw [hproperty] at this
    exact this.isBlank_head
  have hat : c ≠ '@' := by
    have := h.property_head
    simpa [hproperty] using this
  have hclean := h.clean_printed
  rw [htext] at hadd hclean hs ⊢
  rw [run_item hs hclean hblank hat (by decide), ← hadd]
  rfl

/-- The head of an at-rule before a brace opens its block. -/
theorem run_blockHead {s : Scan} {name params : String} {rest : List Char}
    (h : PrintableAtRule name.toList params.toList)
    (hs : s.rest = '@' :: name.toList ++ ' ' :: params.toList ++ '{' :: rest) :
    s.run = ((s.openBlock (.atRule name params)).moveOver
      ('@' :: name.toList ++ ' ' :: params.toList ++ ['{']) rest).run := by
  rw [run_atRule hs h.name_chars h.clean (by decide),
    show Text.trim params.toList = params.toList from h.trimmed, String.ofList_toList,
    String.ofList_toList]
  rfl

/-- The head of an at-rule before a semicolon is a statement. -/
theorem run_statement {s : Scan} {name params : String} {rest : List Char}
    (h : PrintableAtRule name.toList params.toList)
    (hs : s.rest = '@' :: name.toList ++ ' ' :: params.toList ++ ';' :: rest) :
    s.run = ((s.add (.statement name params)).moveOver
      ('@' :: name.toList ++ ' ' :: params.toList ++ [';']) rest).run := by
  rw [run_atRule hs h.name_chars h.clean (by decide),
    show Text.trim params.toList = params.toList from h.trimmed, String.ofList_toList,
    String.ofList_toList]
  rfl

mutual

/-- Reading the text of a node adds the node to the innermost block, whatever is open around it and
whatever comes behind it. -/
theorem run_printed (node : Node) {inBlock : Bool} {s : Scan} {rest : List Char}
    (h : node.Printable inBlock) (houter : inBlock = true → s.outer ≠ [])
    (hs : s.rest = node.printed ++ rest) :
    s.run = ((s.add (node.placed s.place)).moveOver node.printed rest).run := by
  match node with
  | .declaration d =>
    simp only [Node.Printable, Node.printed, List.append_assoc, List.singleton_append] at h hs
    rw [run_declaration h.2 (houter h.1) hs, Node.placed, Node.printed]
  | .statement name params =>
    simp only [Node.Printable, Node.printed, List.append_assoc, List.singleton_append] at h hs
    rw [run_statement h (by simpa using hs), Node.placed, Node.printed]
  | .rule prelude start children =>
    simp only [Node.Printable, Node.printed, List.append_assoc, List.cons_append,
      List.nil_append] at h hs
    rw [run_prelude h.1 hs, run_printedAll children h.2 (fun _ => by simp [openBlock, moveOver]) rfl,
      run_closing rfl]
    simp [closeBlock, openBlock, moveOver, add, Head.close, Node.placed, Node.printed,
      Text.Position.afterAll_append]
  | .block name params children =>
    simp only [Node.Printable, Node.printed, List.append_assoc, List.cons_append,
      List.nil_append] at h hs
    rw [run_blockHead h.1 (by simpa using hs),
      run_printedAll children h.2 (fun _ => by simp [openBlock, moveOver]) rfl, run_closing rfl]
    simp [closeBlock, openBlock, moveOver, add, Head.close, Node.placed, Node.printed,
      Text.Position.afterAll_append]

/-- Reading the text of nodes adds them to the innermost block. -/
theorem run_printedAll (nodes : List Node) {inBlock : Bool} {s : Scan} {rest : List Char}
    (h : PrintableAll inBlock nodes) (houter : inBlock = true → s.outer ≠ [])
    (hs : s.rest = printedAll nodes ++ rest) :
    s.run = (Scan.mk s.outer ((placedAll s.place nodes).reverse ++ s.nodes)
      (s.place.afterAll (printedAll nodes)) rest).run := by
  match nodes with
  | [] =>
    rw [printedAll, List.nil_append] at hs
    simp [placedAll, printedAll, ← hs]
  | node :: nodes =>
    rw [printedAll, List.append_assoc] at hs
    rw [PrintableAll] at h
    have hnodes := @run_printedAll nodes inBlock
      ((s.add (node.placed s.place)).moveOver node.printed (printedAll nodes ++ rest)) rest
      h.2 houter rfl
    rw [run_printed node h.1 houter hs, hnodes]
    simp [placedAll, printedAll, add, moveOver, Text.Position.afterAll_append]

end

/-- Reading the text of a tree gives the tree, each rule at its place in the text. -/
theorem scan_printedAll {nodes : List Node} (h : PrintableAll false nodes) :
    scan (printedAll nodes) = placedAll .start nodes := by
  have hnil : (Scan.mk [] ((placedAll .start nodes).reverse ++ [])
      (Text.Position.start.afterAll (printedAll nodes)) []).step? = none := rfl
  have hnodes := run_printedAll nodes (s := Scan.start (printedAll nodes)) h (by simp)
    (List.append_nil _).symm
  rw [scan, hnodes, Scan.start, run_of_step?_eq_none hnil]
  simp [finish, closeAll]

mutual

theorem unplaced_placed (p : Text.Position) (node : Node) :
    (node.placed p).unplaced = node.unplaced := by
  match node with
  | .declaration d => simp [Node.placed, Node.unplaced]
  | .rule prelude start children =>
    simp only [Node.placed, Node.unplaced, unplacedAll_placedAll _ children]
  | .block name params children =>
    simp only [Node.placed, Node.unplaced, unplacedAll_placedAll _ children]
  | .statement name params => simp [Node.placed, Node.unplaced]

theorem unplacedAll_placedAll (p : Text.Position) (nodes : List Node) :
    unplacedAll (placedAll p nodes) = unplacedAll nodes := by
  match nodes with
  | [] => simp [placedAll, unplacedAll]
  | node :: nodes =>
    simp only [placedAll, unplacedAll, unplaced_placed _ node, unplacedAll_placedAll _ nodes]

end

/-- Printing loses nothing: the tree that is read from the text of a tree has the same nodes in the
same order and nesting, and its rules stand where their preludes were printed. -/
theorem scan_recovers_printed {nodes : List Node} (h : PrintableAll false nodes) :
    unplacedAll (scan (printedAll nodes)) = unplacedAll nodes ∧
      scan (printedAll nodes) = placedAll .start nodes := by
  refine ⟨?_, scan_printedAll h⟩
  rw [scan_printedAll h, unplacedAll_placedAll]

/-- A tree with stops in strings and brackets, colons in a prelude, and blocks in blocks. -/
def nestedTree : List Node := [
  .statement "import" "url(a;b.css) \"\x7d\"",
  .block "media" "(min-width:40em)" [
    .rule "a:not([b=\"\x7b\"]),c\\;::before" .start [
      .declaration ⟨"color", "red", true⟩,
      .rule "&:hover" .start [.declaration ⟨"--x", "", false⟩],
      .block "layer" "" [.declaration ⟨"content", "\";!important\"", false⟩]]]]

theorem scan_recovers_printed_nestedTree :
    PrintableAll false nestedTree ∧
      unplacedAll (scan (printedAll nestedTree)) = unplacedAll nestedTree ∧
      scan (printedAll nestedTree) = placedAll .start nestedTree := by
  have h : PrintableAll false nestedTree := by
    simp only [nestedTree, PrintableAll, Node.Printable]
    decide
  exact ⟨h, scan_recovers_printed h⟩

end Stylesheet

end StyleGauge
