import Mathlib
import StyleGauge.Proofs.Selector.Locality
import StyleGauge.Proofs.Text.Case
import StyleGauge.Selector.Analysis

/-!
# Joining selectors by a combinator

Two selectors with a combinator between them make a selector. Its nodes are those of the first, the
combinator, and those of the second, whatever names, escapes and arguments they hold, so that depths
and specificities add up.
-/

namespace StyleGauge

/-- The sum of two specificities, component by component. -/
def Specificity.plus (a b : Specificity) : Except Number.Fault Specificity := do
  return ⟨← a.ids.add b.ids, ← a.classes.add b.classes, ← a.elements.add b.elements⟩

theorem Specificity.plus_ofCounts (i c e i' c' e' : Nat) :
    (Specificity.ofCounts i c e).plus (.ofCounts i' c' e') =
      .ok (.ofCounts (i + i') (c + c') (e + e')) := by
  simp [Specificity.plus, Specificity.ofCounts, Number.ofNat]
  rfl

namespace Selector

open Token

/-! ### Nodes of tokens in a row -/

/-- The nodes read so far, those of the outermost place put on `base`. -/
def nodesOn (base : List Node) : List OpenLogical → List Node → List Node
  | [], nodes => nodes ++ base
  | _ :: _, nodes => nodes

/-- Open pseudo-classes, the outermost of them put on `base`. -/
def openOn (base : List Node) : List OpenLogical → List OpenLogical
  | [] => []
  | inner :: outer => { inner with before := nodesOn base outer inner.before } :: openOn base outer

/-- Tokens that build nodes by themselves add these to any nodes before them, also inside of
pseudo-classes that are open. -/
theorem buildNodes?_append {outer : List OpenLogical} {nodes built : List Node}
    {tokens : List Token} (h : buildNodes? outer nodes tokens = some built) (base : List Node)
    (below : List OpenLogical) (later : List Token) :
    buildNodes? (openOn base outer ++ below) (nodesOn base outer nodes) (tokens ++ later) =
      buildNodes? below (built.reverse ++ base) later := by
  fun_induction buildNodes? outer nodes tokens with
  | case1 nodes =>
    obtain rfl := Option.some.inj h
    simp [openOn, nodesOn]
  | case2 => simp at h
  | case3 outer nodes node rest ih =>
    rw [← ih h]
    cases outer <;> simp [openOn, nodesOn, buildNodes?]
  | case4 outer nodes kind rest ih =>
    rw [← ih h]
    cases outer <;> simp [openOn, nodesOn, buildNodes?]
  | case5 outer nodes name rest ih =>
    rw [← ih h]
    cases outer <;> simp [openOn, nodesOn, buildNodes?]
  | case6 => simp at h
  | case7 inner outer nodes rest ih =>
    rw [← ih h]
    simp [openOn, nodesOn, buildNodes?]
  | case8 => simp at h
  | case9 inner outer nodes rest arguments ih =>
    rw [← ih h]
    cases outer <;> simp [openOn, nodesOn, buildNodes?, arguments]

/-! ### Combinators as text -/

/-- A blank of ASCII; one beyond ASCII would be part of a name. -/
def isAsciiBlank (c : Char) : Bool :=
  Text.isBlank c && c.toNat < 0x80

/-- A text that stands for a combinator between two compounds: ASCII blanks, at least one, or a sign
with ASCII blanks around it. -/
inductive IsJoint : Combinator → List Char → Prop
  | blanks {ws : List Char} (hne : ws ≠ []) (hws : ∀ c ∈ ws, isAsciiBlank c = true) :
    IsJoint .descendant ws
  | sign {kind : Combinator} {before after : List Char} (hkind : kind ≠ .descendant)
    (hbefore : ∀ c ∈ before, isAsciiBlank c = true) (hafter : ∀ c ∈ after, isAsciiBlank c = true) :
    IsJoint kind (before ++ kind.text.toList ++ after)

theorem isBlank_of_isAsciiBlank {c : Char} (h : isAsciiBlank c = true) : Text.isBlank c = true :=
  (Bool.and_eq_true_iff.1 h).1

theorem isBoundary_of_isAsciiBlank {c : Char} (h : isAsciiBlank c = true) (cs : List Char) :
    IsBoundary (c :: cs) := by
  have hascii : ∀ c : Char, c.toNat < 0x80 → isAsciiBlank c = true →
      isNameChar c = false ∧ c ≠ '\\' ∧ c ≠ '|' ∧ c ≠ '(' :=
    Text.forall_of_ascii (by decide)
  have hlt : c.toNat < 0x80 := of_decide_eq_true (Bool.and_eq_true_iff.1 h).2
  intro d hd
  obtain rfl := Option.some.inj hd
  exact hascii c hlt h

/-- A combinator but the descendant one is written as one sign. -/
theorem Combinator.toList_text {kind : Combinator} (hkind : kind ≠ .descendant) :
    kind.text.toList = ['>'] ∧ kind = .child ∨ kind.text.toList = ['+'] ∧ kind = .nextSibling ∨
      kind.text.toList = ['~'] ∧ kind = .subsequentSibling := by
  cases kind with
  | descendant => exact absurd rfl hkind
  | child => exact .inl ⟨by decide, rfl⟩
  | nextSibling => exact .inr (.inl ⟨by decide, rfl⟩)
  | subsequentSibling => exact .inr (.inr ⟨by decide, rfl⟩)

theorem IsJoint.isBoundary {kind : Combinator} {joint : List Char} (h : IsJoint kind joint)
    (cs : List Char) : IsBoundary (joint ++ cs) := by
  cases h with
  | blanks hne hws =>
    obtain ⟨c, ws, rfl⟩ := List.exists_cons_of_ne_nil hne
    exact isBoundary_of_isAsciiBlank (hws c (by simp)) _
  | @sign _ before _ hkind hbefore _ =>
    cases before with
    | cons c before => exact isBoundary_of_isAsciiBlank (hbefore c (by simp)) _
    | nil =>
      intro d hd
      rcases Combinator.toList_text hkind with ⟨hsign, -⟩ | ⟨hsign, -⟩ | ⟨hsign, -⟩ <;>
        · rw [hsign] at hd
          obtain rfl := Option.some.inj hd
          decide

/-- A compound begins with no sign of a combinator, and with none of those between arguments. -/
theorem readSign?_of_readCompound? {cs : List Char} (hcs : Text.trimStart cs = cs)
    (h : (readCompound? cs).isSome) : readSign? cs = none ∧ readDelimiter? cs = none := by
  unfold readSign? readDelimiter?
  rw [hcs]
  constructor <;>
  · split <;> first
      | rfl
      | simp [readCompound?, readPart?, readSubject?, takeElement?, takeUniversal?, takeNamespace?,
          takeIdent?, takeStar?, startsName, isNameStart] at h

theorem trimStart_blanks {ws : List Char} (hws : ∀ c ∈ ws, isAsciiBlank c = true)
    (cs : List Char) : Text.trimStart (ws ++ cs) = Text.trimStart cs :=
  Text.trimStart_append_of_blanks (fun c hc => isBlank_of_isAsciiBlank (hws c hc)) cs

/-- Between two compounds, a joint is read as its combinator and nothing else. -/
theorem IsJoint.read? {kind : Combinator} {joint cs : List Char} (h : IsJoint kind joint)
    (hcs : Text.trimStart cs = cs) (hread : (readCompound? cs).isSome) :
    Token.read? .inside (joint ++ cs) = some (.combinator kind, cs) := by
  obtain ⟨hsign, hdelimiter⟩ := readSign?_of_readCompound? hcs hread
  unfold Token.read?
  cases h with
  | blanks hne hws =>
    obtain ⟨c, ws, rfl⟩ := List.exists_cons_of_ne_nil hne
    have htrim := trimStart_blanks hws cs
    have hc := isBlank_of_isAsciiBlank (hws c (by simp))
    have hnosign : readSign? (c :: ws ++ cs) = none := by
      rw [readSign?, htrim]
      exact hsign
    have hnodelimiter : readDelimiter? (c :: ws ++ cs) = none := by
      rw [readDelimiter?, htrim]
      exact hdelimiter
    rw [hcs] at htrim
    rw [hnosign, hnodelimiter, List.cons_append, readPart?_of_isBlank hc, readBlanks?, if_pos hc,
      ← List.cons_append, htrim]
    rfl
  | @sign _ before after hkind hbefore hafter =>
    have hrest : Text.trimStart (after ++ cs) = cs := (trimStart_blanks hafter cs).trans hcs
    have hread : readSign? (before ++ kind.text.toList ++ after ++ cs) =
        some (.combinator kind, cs) := by
      rw [readSign?, List.append_assoc, List.append_assoc, trimStart_blanks hbefore]
      rcases Combinator.toList_text hkind with ⟨hsign, rfl⟩ | ⟨hsign, rfl⟩ | ⟨hsign, rfl⟩ <;>
      · rw [hsign, List.singleton_append, Text.trimStart_cons_of_not_isBlank (by decide)]
        exact congrArg (fun rest => some (_, rest)) hrest
    rw [hread]
    rfl

/-! ### Joined selectors -/

/-- What a selector is read from. -/
theorem parse?_eq_some_iff {text : List Char} {nodes : List Node} :
    parse? text = some nodes ↔
      ∃ tokens, tokens? .compound (Text.trim text) = some tokens ∧
        buildNodes? [] [] tokens = some nodes :=
  Option.bind_eq_some_iff

theorem readCompound?_of_tokens? {cs : List Char} {tokens : List Token}
    (h : tokens? .compound cs = some tokens) : cs ≠ [] ∧ (readCompound? cs).isSome := by
  cases cs with
  | nil => simp at h
  | cons c cs =>
    refine ⟨by simp, ?_⟩
    by_contra hnone
    have hnone : readCompound? (c :: cs) = none := by simpa using hnone
    rw [tokens?_of_read?_eq_none (show Token.read? .compound (c :: cs) = none from hnone)] at h
    simp at h

/-- Two selectors with a combinator between them are a selector. -/
theorem parse?_joined {a b joint : List Char} {kind : Combinator} {before after : List Node}
    (ha : parse? a = some before) (hb : parse? b = some after) (hjoint : IsJoint kind joint) :
    parse? (Text.trim a ++ joint ++ Text.trim b) = some (before ++ .combinator kind :: after) := by
  obtain ⟨first, hfirst, hbefore⟩ := parse?_eq_some_iff.1 ha
  obtain ⟨second, hsecond, hafter⟩ := parse?_eq_some_iff.1 hb
  have hstart : ∀ cs, Text.trimStart (Text.trim cs) = Text.trim cs := fun cs =>
    Text.trimStart_eq_self_iff.2 (Text.trimmed_iff.1 (Text.trimmed_trim cs)).1
  obtain ⟨hna, -⟩ := readCompound?_of_tokens? hfirst
  obtain ⟨hnb, hread⟩ := readCompound?_of_tokens? hsecond
  have htrim : Text.trim (Text.trim a ++ joint ++ Text.trim b) =
      Text.trim a ++ joint ++ Text.trim b :=
    Text.trimmed_append (Text.trimmed_trim a) (Text.trimmed_trim b) hna hnb joint
  have htokens : tokens? .compound (Text.trim a ++ joint ++ Text.trim b) =
      some (first ++ .combinator kind :: second) := by
    rw [List.append_assoc, tokens?_append hfirst (hjoint.isBoundary _) fun _ => hstart a,
      tokens?_of_read? (hjoint.read? (hstart b) hread), Token.next, hsecond]
    rfl
  refine parse?_eq_some_iff.2 ⟨_, by rw [htrim]; exact htokens, ?_⟩
  -- the nodes of the first selector and the combinator are what those of the second are put on
  have hfirst := buildNodes?_append hbefore [] [] (.combinator kind :: second)
  have hsecond := buildNodes?_append hafter (.combinator kind :: before.reverse) [] []
  simp only [openOn, nodesOn, List.append_nil, List.nil_append] at hfirst hsecond
  rw [hfirst, buildNodes?, hsecond, buildNodes?]
  simp

/-- Depths add up, and so do the components of specificities. -/
theorem analyze_joined {a b joint : String} {kind : Combinator} {before after : List Node}
    (ha : parse? a.toList = some before) (hb : parse? b.toList = some after)
    (hjoint : IsJoint kind joint.toList) :
    let joined := Text.trimString a ++ joint ++ Text.trimString b
    parse? joined.toList = some (before ++ .combinator kind :: after) ∧
      (analyze joined).depth = (analyze a).depth + (analyze b).depth ∧
      (analyze a).specificity.plus (analyze b).specificity = .ok (analyze joined).specificity := by
  intro joined
  have hjoined : parse? joined.toList = some (before ++ .combinator kind :: after) := by
    have := parse?_joined ha hb hjoint
    simpa [joined, Text.trimString] using this
  refine ⟨hjoined, ?_, ?_⟩
  · simp only [analyze, ha, hb, hjoined, ofNodes, depthOf, List.countP_append]
    rw [List.countP_cons_of_pos rfl]
    push_cast
    omega
  · simp only [analyze, ha, hb, hjoined, ofNodes, specificityOf, allNodes_append, allNodes_cons,
      Node.within, List.countP_append, List.countP_singleton, Specificity.plus_ofCounts]
    simp [Node.isId, Node.countsAsClass, Node.countsAsElement]

/-- An escaped sign is no combinator, and one in an argument does not count. -/
theorem analyze_joined_escaped_sign :
    parse? "ul.a\\> b:not(c > d)".toList =
        some [.element "ul", .className "a\\>", .combinator .descendant, .element "b",
          .logical "not" [[.element "c", .combinator .child, .element "d"]]] ∧
      (analyze "ul.a\\> b:not(c > d)").depth = 2 := by
  have ha : parse? "ul.a\\>".toList = some [.element "ul", .className "a\\>"] := by cbv
  have hb : parse? " b:not(c > d)".toList = some [.element "b",
      .logical "not" [[.element "c", .combinator .child, .element "d"]]] := by cbv
  have hjoint : IsJoint .descendant " ".toList :=
    .blanks (by decide) (List.all_eq_true.1 (by decide))
  have htext : Text.trimString "ul.a\\>" ++ " " ++ Text.trimString " b:not(c > d)" =
      "ul.a\\> b:not(c > d)" := by decide
  obtain ⟨hnodes, hdepth, -⟩ := analyze_joined ha hb hjoint
  rw [htext] at hnodes hdepth
  refine ⟨hnodes, hdepth.trans ?_⟩
  simp only [analyze, ha, hb, ofNodes]
  decide

end Selector

end StyleGauge
