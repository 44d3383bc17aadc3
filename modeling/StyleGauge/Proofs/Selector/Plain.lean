import StyleGauge.Proofs.Selector.Colons
import StyleGauge.Proofs.Selector.Combination
import StyleGauge.Proofs.Selector.Compounds
import StyleGauge.Proofs.Selector.Estimates

/-!
# Plain selectors

A plain selector has element names, stars, classes and ids only, all names of it in ASCII. It is
well formed, and it is what it looks like: its estimate is what its nodes say.

One compound after the other is put behind a combinator. A text that is read as its nodes and whose
estimate counts them stays one when a further compound is joined to it.
-/

namespace StyleGauge.Selector

open Estimate Token

/-! ### Texts and nodes -/

/-- A name in ASCII that begins with a letter or an underscore. -/
structure PlainName where
  first : Char
  rest : List Char
  isStart : (isLetter first || first == '_') = true
  isPlain : ∀ c ∈ rest, isPlainChar c = true

/-- The characters of a name. -/
def PlainName.text (name : PlainName) : List Char :=
  name.first :: name.rest

/-- A part of a plain compound. The name of an element begins with a letter. -/
inductive PlainPart where
  | element (name : PlainName) (hletter : isLetter name.first = true)
  | universal
  | className (name : PlainName)
  | id (name : PlainName)

namespace PlainPart

/-- How a part is written. -/
def text : PlainPart → List Char
  | element name _ => name.text
  | universal => ['*']
  | className name => '.' :: name.text
  | id name => '#' :: name.text

/-- The node that a part stands for. -/
def node : PlainPart → Node
  | element name _ => .element (String.ofList name.text)
  | universal => .universal "*"
  | className name => .className (String.ofList name.text)
  | id name => .id (String.ofList name.text)

end PlainPart

/-- A plain compound: at least one part, and an element name or a star in the first place only. -/
structure PlainCompound where
  first : PlainPart
  more : List PlainPart
  not_isSubject : ∀ part ∈ more, part.node.isSubject = false

/-- How a compound is written. -/
def PlainCompound.text (compound : PlainCompound) : List Char :=
  compound.first.text ++ compound.more.flatMap PlainPart.text

/-- The nodes of a compound. -/
def PlainCompound.nodes (compound : PlainCompound) : List Node :=
  compound.first.node :: compound.more.map PlainPart.node

/-- A compound with the combinator before it, as it is written. -/
structure PlainLink where
  kind : Combinator
  joint : List Char
  isJoint : IsJoint kind joint
  compound : PlainCompound

/-- A plain selector: compounds with combinators between them. -/
structure PlainSelector where
  first : PlainCompound
  links : List PlainLink

/-- How a selector is written. -/
def PlainSelector.text (selector : PlainSelector) : String :=
  String.ofList (selector.first.text ++
    selector.links.flatMap fun link => link.joint ++ link.compound.text)

/-- The nodes of a selector. -/
def PlainSelector.nodes (selector : PlainSelector) : List Node :=
  chain selector.first.nodes (selector.links.map fun link => (link.kind, link.compound.nodes))

variable {parts : List PlainPart} {cs : List Char} {nodes : List Node}

/-! ### Names -/

theorem isNameChar_of_isPlainChar {c : Char} (hc : isPlainChar c = true) : isNameChar c = true := by
  rw [isNameChar, Bool.or_eq_true]
  exact .inl hc

theorem takeName_of_isNameChars (hcs : ∀ c ∈ cs, isNameChar c = true) : takeName cs = (cs, []) := by
  induction cs with
  | nil => rfl
  | cons c cs ih =>
    obtain ⟨hc, hcs⟩ := List.forall_mem_cons.1 hcs
    have hback : c ≠ '\\' := by
      rintro rfl
      exact absurd hc (by decide)
    rw [takeName]
    · simp [hc, ih hcs]
    · intro d more heq
      exact absurd heq hback

namespace PlainName

variable (name : PlainName)

theorem looksLikeNameStart_first : looksLikeNameStart name.first = true := by
  rw [looksLikeNameStart, name.isStart, Bool.true_or]

theorem isPlainChar_of_mem : ∀ c ∈ name.text, isPlainChar c = true :=
  List.forall_mem_cons.2
    ⟨isPlainChar_of_looksLikeNameStart name.looksLikeNameStart_first, name.isPlain⟩

theorem takeName_text : takeName name.text = (name.text, []) :=
  takeName_of_isNameChars fun c hc => isNameChar_of_isPlainChar (name.isPlainChar_of_mem c hc)

theorem takeIdent?_text : takeIdent? name.text = some (name.text, []) := by
  have hstart := name.isStart
  obtain ⟨hhyphen, hback⟩ : name.first ≠ '-' ∧ name.first ≠ '\\' := by
    constructor <;>
      · intro heq
        rw [heq] at hstart
        exact absurd hstart (by decide)
  have hstarts : startsName name.text = true := by
    rw [PlainName.text, startsName, isNameStart, ← isLetter, hstart, Bool.true_or]
    intro d more heq
    exact absurd heq hback
  have htaken := name.takeName_text
  rw [PlainName.text] at hstarts htaken ⊢
  simp [takeIdent?, hhyphen, hstarts, htaken]

end PlainName

/-! ### Reading -/

namespace PlainPart

/-- A part that is not the subject of its compound begins with its sign. -/
theorem exists_text_eq_of_not_isSubject {part : PlainPart} (h : part.node.isSubject = false) :
    ∃ sign name, (sign = '.' ∨ sign = '#') ∧ part.text = sign :: PlainName.text name := by
  cases part with
  | element | universal => simp [node, Node.isSubject] at h
  | className name => exact ⟨'.', name, .inl rfl, rfl⟩
  | id name => exact ⟨'#', name, .inr rfl, rfl⟩

theorem readPart?_text {part : PlainPart} (h : part.node.isSubject = false) :
    readPart? part.text = some (.part part.node, []) := by
  cases part with
  | element | universal => simp [node, Node.isSubject] at h
  | className name => simp [text, node, readPart?, name.takeIdent?_text]
  | id name =>
    rw [text, readPart?, name.takeName_text]
    rfl

theorem readCompound?_text (part : PlainPart) :
    readCompound? part.text = some (.part part.node, []) := by
  cases hsubject : part.node.isSubject with
  | false => rw [readCompound?, readPart?_text hsubject, Option.some_or]
  | true =>
    have hread : readSubject? part.text = some (.part part.node, []) := by
      cases part with
      | element name hletter =>
        have hspace := takeNamespace?_of_takeIdent? name.takeIdent?_text (by simp)
        simp [text, node, readSubject?, takeElement?, hspace, name.takeIdent?_text]
      | universal => rfl
      | className | id => simp [node, Node.isSubject] at hsubject
    have hpart := readPart?_eq_none_of_readSubject? (by rw [hread]; rfl)
    rw [readCompound?, hpart, hread, Option.none_or]

theorem tokens?_compound_text (part : PlainPart) :
    tokens? .compound part.text = some [.part part.node] := by
  have hread : Token.read? .compound part.text = some (.part part.node, []) :=
    part.readCompound?_text
  rw [tokens?_of_read? hread, Token.next, tokens?_nil_inside, Option.map_some]

theorem tokens?_inside_text {part : PlainPart} (h : part.node.isSubject = false) :
    tokens? .inside part.text = some [.part part.node] := by
  have hread : Token.read? .inside part.text = some (.part part.node, []) := by
    have hpart := readPart?_text h
    obtain ⟨sign, name, hsign, htext⟩ := exists_text_eq_of_not_isSubject h
    rw [htext] at hpart ⊢
    rcases hsign with rfl | rfl <;>
      · rw [Token.read?, readSign?, readDelimiter?, Text.trimStart_cons_of_not_isBlank (by decide),
          hpart]
        rfl
  rw [tokens?_of_read? hread, Token.next, tokens?_nil_inside, Option.map_some]

end PlainPart

theorem isBoundary_parts (hparts : ∀ part ∈ parts, part.node.isSubject = false) :
    IsBoundary (parts.flatMap PlainPart.text) := by
  cases parts with
  | nil => intro c hc; simp at hc
  | cons part parts =>
    obtain ⟨sign, name, hsign, htext⟩ :=
      PlainPart.exists_text_eq_of_not_isSubject (hparts part List.mem_cons_self)
    rw [List.flatMap_cons, htext, List.cons_append]
    refine isBoundary_cons ?_ _
    rcases hsign with rfl | rfl <;> decide

/-- Parts behind the first one are read one by one. -/
theorem tokens?_parts (hparts : ∀ part ∈ parts, part.node.isSubject = false) :
    tokens? .inside (parts.flatMap PlainPart.text) =
      some (parts.map fun part => .part part.node) := by
  induction parts with
  | nil => simp
  | cons part parts ih =>
    obtain ⟨hpart, hparts⟩ := List.forall_mem_cons.1 hparts
    have htokens := PlainPart.tokens?_inside_text hpart
    rw [List.flatMap_cons, tokens?_append htokens (isBoundary_parts hparts) (by simp), ih hparts]
    rfl

theorem buildNodes?_parts (before nodes : List Node) :
    buildNodes? [] before (nodes.map .part) = some (before.reverse ++ nodes) := by
  induction nodes generalizing before with
  | nil => simp [buildNodes?]
  | cons node nodes ih => simp [buildNodes?, ih]

/-! ### Characters -/

/-- Names and signs are all that a part is made of. -/
theorem PlainPart.mem_text {part : PlainPart} {c : Char} (hc : c ∈ part.text) :
    isPlainChar c = true ∨ c = '*' ∨ c = '.' ∨ c = '#' := by
  cases part with
  | element name hletter => exact .inl (name.isPlainChar_of_mem c hc)
  | universal => exact .inr (.inl (List.mem_singleton.1 hc))
  | className name | id name =>
    rcases List.mem_cons.1 hc with rfl | hname
    · simp
    · exact .inl (name.isPlainChar_of_mem c hname)

theorem PlainPart.not_isSeparator (part : PlainPart) : ∀ c ∈ part.text, isSeparator c = false := by
  intro c hc
  rcases part.mem_text hc with hplain | rfl | rfl | rfl
  · exact not_isSeparator_of_isPlainChar hplain
  all_goals decide

theorem PlainPart.text_ne_nil (part : PlainPart) : part.text ≠ [] := by
  cases part <;> simp [text, PlainName.text]

namespace PlainCompound

variable (compound : PlainCompound)

theorem text_eq_flatMap :
    compound.text = (compound.first :: compound.more).flatMap PlainPart.text := rfl

theorem text_ne_nil : compound.text ≠ [] :=
  List.append_ne_nil_of_left_ne_nil compound.first.text_ne_nil _

theorem exists_part_of_mem {c : Char} (hc : c ∈ compound.text) :
    ∃ part : PlainPart, c ∈ part.text := by
  rw [text_eq_flatMap] at hc
  obtain ⟨part, -, hc⟩ := List.mem_flatMap.1 hc
  exact ⟨part, hc⟩

theorem not_isSeparator : ∀ c ∈ compound.text, isSeparator c = false := by
  intro c hc
  obtain ⟨part, hpart⟩ := compound.exists_part_of_mem hc
  exact part.not_isSeparator c hpart

/-- A plain compound has no test, and neither a pseudo-class nor a pseudo-element. -/
theorem bracket_and_colon_not_mem : '[' ∉ compound.text ∧ ':' ∉ compound.text := by
  constructor <;>
    · intro hmem
      obtain ⟨part, hpart⟩ := compound.exists_part_of_mem hmem
      exact absurd (part.mem_text hpart) (by decide)

theorem trimmed : Text.Trimmed compound.text := by
  have hblank : ∀ c ∈ compound.text, Text.isBlank c = false := fun c hc =>
    isBlank_of_not_isSeparator (compound.not_isSeparator c hc)
  exact Text.trimmed_iff.2 ⟨fun c hc => hblank c (List.mem_of_mem_head? hc),
    fun c hc => hblank c (List.mem_of_mem_getLast? hc)⟩

theorem parse?_text : parse? compound.text = some compound.nodes := by
  have htokens : tokens? .compound compound.text = some (compound.nodes.map .part) := by
    have hfirst := compound.first.tokens?_compound_text
    have hstart : Text.trimStart compound.first.text = compound.first.text :=
      Text.trimStart_eq_self_iff.2 fun c hc => isBlank_of_not_isSeparator
        (compound.first.not_isSeparator c (List.mem_of_mem_head? hc))
    rw [text, tokens?_append hfirst (isBoundary_parts compound.not_isSubject) fun _ => hstart,
      tokens?_parts compound.not_isSubject]
    simp [nodes]
  refine parse?_eq_some_iff.2 ⟨_, by rw [compound.trimmed]; exact htokens, ?_⟩
  exact buildNodes?_parts [] compound.nodes

end PlainCompound

/-! ### Counting -/

theorem PlainName.countPairs_text (name : PlainName) {sign : Char}
    (hsign : isPlainChar sign = false) :
    countPairs (· == sign) looksLikeNameStart name.text = 0 := by
  refine countPairs_eq_zero fun c hc => ?_
  rw [beq_eq_false_iff_ne]
  rintro rfl
  rw [name.isPlainChar_of_mem _ hc] at hsign
  exact absurd hsign (by decide)

/-- A name behind its sign is counted once. -/
theorem PlainName.countPairs_cons_text (name : PlainName) (c : Char) {sign : Char}
    (hsign : isPlainChar sign = false) :
    countPairs (· == sign) looksLikeNameStart (c :: name.text) = if c == sign then 1 else 0 := by
  have hrest := name.countPairs_text hsign
  rw [PlainName.text] at hrest ⊢
  rw [countPairs, hrest, name.looksLikeNameStart_first, Bool.and_true, Nat.add_zero]

theorem PlainPart.countPairs_text_id (part : PlainPart) :
    countPairs (· == '#') looksLikeNameStart part.text = if part.node.isId then 1 else 0 := by
  cases part with
  | element name hletter => exact name.countPairs_text (by decide)
  | universal => rfl
  | className name => exact name.countPairs_cons_text '.' (by decide)
  | id name => exact name.countPairs_cons_text '#' (by decide)

theorem PlainPart.countPairs_text_class (part : PlainPart) :
    countPairs (· == '.') looksLikeNameStart part.text =
      if part.node.countsAsClass then 1 else 0 := by
  cases part with
  | element name hletter => exact name.countPairs_text (by decide)
  | universal => rfl
  | className name => exact name.countPairs_cons_text '.' (by decide)
  | id name => exact name.countPairs_cons_text '#' (by decide)

/-- What is counted part by part is counted in a whole compound, as no part begins with a name but
the first one. -/
theorem PlainCompound.countPairs_text (compound : PlainCompound) {first : Char → Bool}
    {p : Node → Bool} (hcount : ∀ part : PlainPart,
      countPairs first looksLikeNameStart part.text = if p part.node then 1 else 0) :
    countPairs first looksLikeNameStart compound.text = compound.nodes.countP p := by
  have hparts : ∀ (part : PlainPart) (parts : List PlainPart),
      (∀ other ∈ parts, other.node.isSubject = false) →
      countPairs first looksLikeNameStart (part.text ++ parts.flatMap PlainPart.text) =
        (part.node :: parts.map PlainPart.node).countP p := by
    -- by induction on the further parts, whatever part stands before them
    intro part parts hparts
    induction parts generalizing part with
    | nil => simp [hcount, List.countP_singleton]
    | cons next parts ih =>
      obtain ⟨hnext, hparts⟩ := List.forall_mem_cons.1 hparts
      have hhead : ∀ c ∈ ((next :: parts).flatMap PlainPart.text).head?,
          looksLikeNameStart c = false := by
        obtain ⟨sign, name, hsign, htext⟩ := PlainPart.exists_text_eq_of_not_isSubject hnext
        intro c hc
        rw [List.flatMap_cons, htext] at hc
        obtain rfl := Option.some.inj hc
        rcases hsign with rfl | rfl <;> decide
      rw [countPairs_append hhead, hcount, List.flatMap_cons, ih next hparts, List.map_cons,
        List.countP_cons (a := part.node), Nat.add_comm]
  exact hparts compound.first compound.more compound.not_isSubject

theorem PlainPart.head?_text (part : PlainPart) :
    part.text.head?.any isLetter = part.node.countsAsElement := by
  cases part with
  | element name hletter => exact hletter
  | universal | className | id => rfl

theorem PlainCompound.elements_text (compound : PlainCompound) :
    elements compound.text = compound.nodes.countP Node.countsAsElement := by
  have hmore : (compound.more.map PlainPart.node).countP Node.countsAsElement = 0 := by
    rw [List.countP_eq_zero]
    intro node hnode
    obtain ⟨part, hpart, rfl⟩ := List.mem_map.1 hnode
    have hnot := compound.not_isSubject part hpart
    cases part with
    | element | universal => simp [PlainPart.node, Node.isSubject] at hnot
    | className | id => simp [PlainPart.node, Node.countsAsElement]
  rw [elements_eq_countPairs, countPairs_eq_zero compound.not_isSeparator, text, nodes,
    List.countP_cons, hmore, List.head?_append_of_ne_nil _ compound.first.text_ne_nil,
    compound.first.head?_text, Nat.add_zero, Nat.zero_add]

/-! ### Estimates that are exact -/

/-- A joint is made of separators. -/
theorem IsJoint.separators {kind : Combinator} {joint : List Char} (h : IsJoint kind joint) :
    joint ≠ [] ∧ ∀ c ∈ joint, isSeparator c = true := by
  have hblanks : ∀ ws : List Char, (∀ c ∈ ws, isAsciiBlank c = true) →
      ∀ c ∈ ws, isSeparator c = true := by
    intro ws hws c hc
    simp [isSeparator, isBlank_of_isAsciiBlank (hws c hc)]
  cases h with
  | blanks hne hws => exact ⟨hne, hblanks _ hws⟩
  | @sign _ before after hkind hbefore hafter =>
    have hsign : kind.text.toList ≠ [] ∧ ∀ c ∈ kind.text.toList, isSeparator c = true := by
      rcases Combinator.toList_text hkind with ⟨hsign, -⟩ | ⟨hsign, -⟩ | ⟨hsign, -⟩ <;>
        · rw [hsign]
          simp [isSeparator]
    refine ⟨by simp [hsign.1], ?_⟩
    exact List.forall_mem_append.2
      ⟨List.forall_mem_append.2 ⟨hblanks _ hbefore, hsign.2⟩, hblanks _ hafter⟩

/-- An element name, a star, a class, an id or a combinator. -/
def Node.isPlain : Node → Bool
  | element _ | universal _ | className _ | id _ | combinator _ => true
  | _ => false

theorem features_of_isPlain {node : Node} (h : node.isPlain = true) :
    node.isPseudoClass = false ∧ node.isPseudoElement = false ∧ node.isAttribute = false := by
  cases node with
  | element | universal | className | id | combinator => exact ⟨rfl, rfl, rfl⟩
  | attributeTest | pseudoElement | pseudoClass | logical => cases h

theorem allNodes_of_isPlain (hnodes : ∀ node ∈ nodes, node.isPlain = true) :
    allNodes nodes = nodes := by
  induction nodes with
  | nil => simp
  | cons node nodes ih =>
    obtain ⟨hnode, hnodes⟩ := List.forall_mem_cons.1 hnodes
    have hwithin : node.within = [node] := by
      cases node <;> simp_all [Node.within, Node.isPlain]
    rw [allNodes_cons, ih hnodes, hwithin, List.singleton_append]

theorem PlainCompound.isPlain_of_mem_nodes (compound : PlainCompound) :
    ∀ node ∈ compound.nodes, node.isPlain = true ∧ node.isCombinator = false := by
  intro node hnode
  obtain ⟨part, -, rfl⟩ := List.mem_map.1
    (show node ∈ (compound.first :: compound.more).map PlainPart.node from hnode)
  cases part <;> exact ⟨rfl, rfl⟩

/-- A text that is read as plain nodes, and in which these are counted by looks. -/
structure IsExact (cs : List Char) (nodes : List Node) : Prop where
  trimmed : Text.Trimmed cs
  parsed : parse? cs = some nodes
  isPlain : ∀ node ∈ nodes, node.isPlain = true
  ids : Estimate.ids cs = nodes.countP Node.isId
  classNames : Estimate.classNames cs = nodes.countP Node.countsAsClass
  elements : Estimate.elements cs = nodes.countP Node.countsAsElement
  runs : Estimate.runs false cs = depthOf nodes
  bracket_and_colon_not_mem : '[' ∉ cs ∧ ':' ∉ cs

namespace IsExact

theorem ne_nil (h : IsExact cs nodes) : cs ≠ [] := by
  rintro rfl
  have := h.parsed
  simp [parse?] at this

theorem estimate_eq {raw : String} (h : IsExact raw.toList nodes) :
    estimate raw = ofNodes raw nodes := by
  obtain ⟨hbracket, hcolon⟩ := h.bracket_and_colon_not_mem
  have hany : ∀ p : Node → Bool, (nodes.countP p != 0) = nodes.any p := by
    intro p
    rw [Bool.eq_iff_iff, bne_iff_ne, List.any_eq_true, ← Nat.pos_iff_ne_zero, List.countP_pos_iff]
  have hnone : ∀ p : Node → Bool, (∀ node, node.isPlain = true → p node = false) →
      nodes.any p = false := by
    intro p hp
    rw [List.any_eq_false]
    intro node hnode
    simp [hp node (h.isPlain node hnode)]
  have hclass : Estimate.hasPseudoClass raw.toList = false := by
    rw [← Bool.not_eq_true, hasPseudoClass_iff_mem]
    exact hcolon
  have helement : Estimate.hasPseudoElement raw.toList = false := by
    rw [← Bool.not_eq_true, hasPseudoElement_iff_isInfix]
    exact fun hcolons => hcolon (hcolons.subset List.mem_cons_self)
  have hdepth : Estimate.depth raw.toList = depthOf nodes := by
    rw [depth_eq_runs, h.runs, depthOf]
    omega
  simp only [estimate, ofNodes, specificityOf, allNodes_of_isPlain h.isPlain, hdepth, h.ids,
    h.classNames, h.elements, attributeTests_eq_zero hbracket, hclass, helement, hany,
    Nat.add_zero, Selector.mk.injEq, true_and]
  exact ⟨(hnone _ fun _ h => (features_of_isPlain h).1).symm,
    (hnone _ fun _ h => (features_of_isPlain h).2.1).symm,
    (hnone _ fun _ h => (features_of_isPlain h).2.2).symm⟩

/-- A single compound. -/
theorem of_compound (compound : PlainCompound) : IsExact compound.text compound.nodes where
  trimmed := compound.trimmed
  parsed := compound.parse?_text
  isPlain node hnode := (compound.isPlain_of_mem_nodes node hnode).1
  ids := by
    rw [ids_eq_countPairs]
    exact compound.countPairs_text PlainPart.countPairs_text_id
  classNames := by
    rw [classNames_eq_countPairs]
    exact compound.countPairs_text PlainPart.countPairs_text_class
  elements := compound.elements_text
  runs := by
    have hnone : compound.nodes.countP Node.isCombinator = 0 :=
      List.countP_eq_zero.2 fun node hnode => by
        simp [(compound.isPlain_of_mem_nodes node hnode).2]
    rw [runs_eq_one compound.text_ne_nil compound.not_isSeparator, depthOf, hnone]
  bracket_and_colon_not_mem := compound.bracket_and_colon_not_mem

/-- The texts on either side of a combinator are counted one by one. -/
theorem joined {a b joint : List Char} {before after : List Node} {kind : Combinator}
    (ha : IsExact a before) (hb : IsExact b after) (hjoint : IsJoint kind joint) :
    IsExact (a ++ joint ++ b) (before ++ .combinator kind :: after) := by
  obtain ⟨hne, hseparators⟩ := hjoint.separators
  have hcount : ∀ p : Node → Bool, p (.combinator kind) = false →
      (before ++ .combinator kind :: after).countP p = before.countP p + after.countP p := by
    intro p hp
    rw [List.countP_append, List.countP_cons_of_neg (by simp [hp])]
  refine
    { trimmed := Text.trimmed_append ha.trimmed hb.trimmed ha.ne_nil hb.ne_nil joint
      parsed := ?_
      isPlain := ?_
      ids := by rw [ids_joined hne hseparators, ha.ids, hb.ids, hcount _ rfl]
      classNames := by
        rw [classNames_joined hne hseparators, ha.classNames, hb.classNames, hcount _ rfl]
      elements := by rw [elements_joined hne hseparators, ha.elements, hb.elements, hcount _ rfl]
      runs := ?_
      bracket_and_colon_not_mem := ?_ }
  · have hparsed := parse?_joined ha.parsed hb.parsed hjoint
    rwa [ha.trimmed, hb.trimmed] at hparsed
  · exact List.forall_mem_append.2 ⟨ha.isPlain, List.forall_mem_cons.2 ⟨rfl, hb.isPlain⟩⟩
  · rw [runs_joined hne hseparators, ha.runs, hb.runs, depthOf, depthOf, depthOf,
      List.countP_append, List.countP_cons_of_pos rfl]
    omega
  · have hnot : ∀ c, isSeparator c = false → c ∉ joint := by
      intro c hc hmem
      rw [hseparators c hmem] at hc
      exact absurd hc (by decide)
    obtain ⟨habracket, hacolon⟩ := ha.bracket_and_colon_not_mem
    obtain ⟨hbbracket, hbcolon⟩ := hb.bracket_and_colon_not_mem
    simp only [List.mem_append, not_or]
    exact ⟨⟨⟨habracket, hnot _ (by decide)⟩, hbbracket⟩, ⟨hacolon, hnot _ (by decide)⟩, hbcolon⟩

/-- Compound after compound is put behind what has been read and counted. -/
theorem chained {cs : List Char} {nodes : List Node} (h : IsExact cs nodes)
    (links : List PlainLink) :
    IsExact (cs ++ links.flatMap fun link => link.joint ++ link.compound.text)
      (chain nodes (links.map fun link => (link.kind, link.compound.nodes))) := by
  induction links generalizing cs nodes with
  | nil => simpa [chain] using h
  | cons link links ih =>
    have hlink := ih (h.joined (of_compound link.compound) link.isJoint)
    simpa [chain] using hlink

end IsExact

/-- A plain selector is well formed, and its estimate is what its nodes say. -/
theorem estimate_plain (selector : PlainSelector) :
    parse? selector.text.toList = some selector.nodes ∧
      estimate selector.text = ofNodes selector.text selector.nodes := by
  have hexact : IsExact selector.text.toList selector.nodes := by
    rw [PlainSelector.text, String.toList_ofList]
    exact (IsExact.of_compound selector.first).chained selector.links
  exact ⟨hexact.parsed, hexact.estimate_eq⟩

/-- An element with a class, and behind a sign with blanks on both sides a star with an id. -/
theorem estimate_plain_twoCompounds :
    let ul : PlainName := ⟨'u', ['l'], rfl, List.all_eq_true.1 rfl⟩
    let note : PlainName := ⟨'_', ['-', '1'], rfl, List.all_eq_true.1 rfl⟩
    let first : PlainCompound := ⟨.element ul rfl, [.className note],
      List.forall_mem_singleton.2 rfl⟩
    let second : PlainCompound := ⟨.universal, [.id ul], List.forall_mem_singleton.2 rfl⟩
    let joint := @IsJoint.sign .child [' '] ['\t'] (by decide) (List.all_eq_true.1 rfl)
      (List.all_eq_true.1 rfl)
    let selector : PlainSelector := ⟨first, [⟨.child, _, joint, second⟩]⟩
    let nodes : List Node :=
      [.element "ul", .className "_-1", .combinator .child, .universal "*", .id "ul"]
    selector.text = "ul._-1 >\t*#ul" ∧ parse? "ul._-1 >\t*#ul".toList = some nodes ∧
      estimate "ul._-1 >\t*#ul" = ofNodes "ul._-1 >\t*#ul" nodes ∧
      (ofNodes "ul._-1 >\t*#ul" nodes).depth = 2 := by
  intro ul note first second joint selector nodes
  have htext : selector.text = "ul._-1 >\t*#ul" := rfl
  have hnodes : selector.nodes = nodes := rfl
  have hplain := estimate_plain selector
  rw [htext, hnodes] at hplain
  exact ⟨htext, hplain.1, hplain.2, rfl⟩

end StyleGauge.Selector
