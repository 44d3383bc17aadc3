import StyleGauge.Proofs.Selector.Size

/-!
# Selectors as chains of compounds

The nodes of a selector are compounds with single combinators between them, and so are the nodes of
every argument in it, at any depth; an argument may also begin with the sign of a combinator. The
depth of a selector is the number of its compounds, whatever its arguments are.

Which node may follow which is a matter of context. Tokens are read by context, so the nodes built
from them fit one behind the other, and nodes that fit are a chain.
-/

namespace StyleGauge.Selector

open Token

/-! ### Chains -/

namespace Node

/-- Whether the node is an element name or a star. -/
def isSubject : Node → Bool
  | element _ | universal _ => true
  | _ => false

/-- The selectors in the argument of a pseudo-class that takes selectors. -/
def arguments : Node → List (List Node)
  | logical _ arguments => arguments
  | _ => []

/-- The argument of a pseudo-class that is kept as text. -/
def rawArgument : Node → Option String
  | pseudoClass _ argument => argument
  | _ => none

end Node

/-- A compound: at least one part, no combinator, and an element name or a star in the first place
only. -/
structure IsCompound (nodes : List Node) : Prop where
  ne_nil : nodes ≠ []
  not_combinator : ∀ node ∈ nodes, node.isCombinator = false
  subject_first : ∀ node ∈ nodes.tail, node.isSubject = false

/-- A first row of nodes and further ones, each behind a combinator. -/
def chain (first : List Node) (links : List (Combinator × List Node)) : List Node :=
  first ++ links.flatMap fun link => .combinator link.1 :: link.2

/-- A sequence of compounds with single combinators between them. -/
def IsChain (nodes : List Node) : Prop :=
  ∃ first links, nodes = chain first links ∧ IsCompound first ∧ ∀ link ∈ links, IsCompound link.2

/-- A chain that may stand behind the sign of a combinator. -/
inductive IsRelative : List Node → Prop
  | plain {nodes : List Node} : IsChain nodes → IsRelative nodes
  | led {kind : Combinator} {nodes : List Node} : kind ≠ .descendant → IsChain nodes →
      IsRelative (.combinator kind :: nodes)

/-- Of the pseudo-classes that take selectors it is asked that they have at least one, and that each
is a chain, led or not. -/
def Node.IsSound : Node → Prop
  | .logical _ arguments => arguments ≠ [] ∧ ∀ argument ∈ arguments, IsRelative argument
  | _ => True

/-- All nodes are sound, those in arguments included. -/
def AreSound (nodes : List Node) : Prop :=
  ∀ node ∈ allNodes nodes, node.IsSound

theorem depthOf_chain {first : List Node} {links : List (Combinator × List Node)}
    (hfirst : IsCompound first) (hlinks : ∀ link ∈ links, IsCompound link.2) :
    depthOf (chain first links) = 1 + links.length := by
  have hcompound : ∀ nodes, IsCompound nodes → nodes.countP Node.isCombinator = 0 := by
    intro nodes h
    exact List.countP_eq_zero.2 fun node hnode => by simp [h.not_combinator node hnode]
  rw [depthOf, chain, List.countP_append, hcompound first hfirst, Nat.zero_add]
  congr 1
  induction links with
  | nil => rfl
  | cons link links ih =>
    obtain ⟨hlink, hlinks⟩ := List.forall_mem_cons.1 hlinks
    rw [List.flatMap_cons, List.countP_append, List.countP_cons_of_pos rfl, hcompound _ hlink,
      ih hlinks, List.length_cons]
    omega

/-! ### Nodes by context -/

/-- The context behind a node, if the node may stand in its context. -/
def Context.after? (context : Context) : Node → Option Context
  | .combinator kind =>
    match context with
    | .compound => none
    | .relative => if kind = .descendant then none else some .compound
    | .inside => some .compound
  | node => if node.isSubject && context = .inside then none else some .inside

/-- The context behind nodes, if each of them may stand in its context. -/
def contextAfter (context : Context) (nodes : List Node) : Option Context :=
  nodes.foldlM Context.after? context

variable {context next : Context} {node : Node} {nodes : List Node}

@[simp] theorem contextAfter_nil : contextAfter context [] = some context := rfl

theorem contextAfter_cons_eq_some_iff : contextAfter context (node :: nodes) = some next ↔
    ∃ c, context.after? node = some c ∧ contextAfter c nodes = some next := by
  rw [contextAfter, List.foldlM_cons]
  exact Option.bind_eq_some_iff

theorem contextAfter_append_singleton_eq_some {c : Context}
    (hnodes : contextAfter context nodes = some c) (hnode : c.after? node = some next) :
    contextAfter context (nodes ++ [node]) = some next := by
  simp_all [contextAfter, List.foldlM_append]

theorem exists_eq_combinator (h : node.isCombinator = true) : ∃ kind, node = .combinator kind := by
  cases node with
  | combinator kind => exact ⟨kind, rfl⟩
  | _ => simp [Node.isCombinator] at h

theorem Context.after?_of_not_isCombinator (h : node.isCombinator = false) (context : Context) :
    context.after? node = if node.isSubject && context = .inside then none else some .inside := by
  cases node <;> first | rfl | simp [Node.isCombinator] at h

/-- What fits behind a part of a compound are further parts of it, and a chain behind a combinator.
What fits at the start of a selector is a chain. -/
theorem exists_links_and_isChain (nodes : List Node) :
    (contextAfter .inside nodes = some .inside → ∃ parts links, nodes = chain parts links ∧
      (∀ part ∈ parts, part.isCombinator = false ∧ part.isSubject = false) ∧
      ∀ link ∈ links, IsCompound link.2) ∧
    (contextAfter .compound nodes = some .inside → IsChain nodes) := by
  induction nodes with
  | nil => exact ⟨fun _ => ⟨[], [], rfl, by simp⟩, by simp⟩
  | cons node nodes ih =>
    obtain ⟨hinside, hcompound⟩ := ih
    cases hnode : node.isCombinator with
    | true =>
      obtain ⟨kind, rfl⟩ := exists_eq_combinator hnode
      refine ⟨fun h => ?_, fun h => ?_⟩
      · obtain ⟨c, hc, hrest⟩ := contextAfter_cons_eq_some_iff.1 h
        obtain rfl := Option.some.inj hc
        obtain ⟨first, links, rfl, hfirst, hlinks⟩ := hcompound hrest
        exact ⟨[], (kind, first) :: links, rfl, by simp,
          List.forall_mem_cons.2 ⟨hfirst, hlinks⟩⟩
      · obtain ⟨c, hc, -⟩ := contextAfter_cons_eq_some_iff.1 h
        simp [Context.after?] at hc
    | false =>
      have hafter := Context.after?_of_not_isCombinator hnode
      refine ⟨fun h => ?_, fun h => ?_⟩
      · obtain ⟨c, hc, hrest⟩ := contextAfter_cons_eq_some_iff.1 h
        rw [hafter] at hc
        split_ifs at hc with hsubject
        obtain rfl := Option.some.inj hc
        obtain ⟨parts, links, rfl, hparts, hlinks⟩ := hinside hrest
        refine ⟨node :: parts, links, rfl, List.forall_mem_cons.2 ⟨⟨hnode, ?_⟩, hparts⟩, hlinks⟩
        simpa using hsubject
      · obtain ⟨c, hc, hrest⟩ := contextAfter_cons_eq_some_iff.1 h
        rw [hafter, if_neg (by simp)] at hc
        obtain rfl := Option.some.inj hc
        obtain ⟨parts, links, rfl, hparts, hlinks⟩ := hinside hrest
        refine ⟨node :: parts, links, rfl, ⟨List.cons_ne_nil _ _, ?_, ?_⟩, hlinks⟩
        · exact List.forall_mem_cons.2 ⟨hnode, fun part hpart => (hparts part hpart).1⟩
        · exact fun part hpart => (hparts part hpart).2

theorem isChain_of_contextAfter (h : contextAfter .compound nodes = some .inside) :
    IsChain nodes :=
  (exists_links_and_isChain nodes).2 h

theorem isRelative_of_contextAfter (h : contextAfter .relative nodes = some .inside) :
    IsRelative nodes := by
  cases nodes with
  | nil => simp at h
  | cons node nodes =>
    obtain ⟨c, hc, hrest⟩ := contextAfter_cons_eq_some_iff.1 h
    cases hnode : node.isCombinator with
    | true =>
      obtain ⟨kind, rfl⟩ := exists_eq_combinator hnode
      simp only [Context.after?] at hc
      split_ifs at hc with hkind
      obtain rfl := Option.some.inj hc
      exact .led hkind (isChain_of_contextAfter hrest)
    | false =>
      have hafter := Context.after?_of_not_isCombinator hnode
      refine .plain (isChain_of_contextAfter (contextAfter_cons_eq_some_iff.2 ⟨c, ?_, hrest⟩))
      rw [hafter] at hc ⊢
      simpa using hc

/-! ### Tokens by context -/

/-- A token that may stand in a context. Only an opening and its arguments make a pseudo-class that
takes selectors. -/
def Token.Fits (context : Context) : Token → Prop
  | .part node => (∀ name arguments, node ≠ .logical name arguments) ∧
      context.after? node = some .inside
  | .combinator kind => context.after? (.combinator kind) = some .compound
  | .opening _ => True
  | .comma | .closing => context = .inside

section

variable {cs rest : List Char} {token : Token}

/-- The parts of a compound other than its subject may stand anywhere. -/
theorem fits_of_readPart? (h : readPart? cs = some (token, rest)) (context : Context) :
    token.Fits context := by
  have hnamed : ∀ name argument, (Token.part (pseudoNode name argument)).Fits context := by
    intro name argument
    unfold pseudoNode
    split <;> exact ⟨by simp, rfl⟩
  unfold readPart? at h
  split at h
  · dsimp only at h
    split at h <;> simp only [Option.some.injEq, reduceCtorEq, Prod.mk.injEq] at h
    exact h.1 ▸ ⟨by simp, rfl⟩
  · obtain ⟨taken, -, heq⟩ := Option.map_eq_some_iff.1 h
    exact (Prod.mk.inj heq).1 ▸ ⟨by simp, rfl⟩
  · split at h <;> simp only [Option.some.injEq, reduceCtorEq, Prod.mk.injEq] at h
    exact h.1 ▸ ⟨by simp, rfl⟩
  · obtain ⟨name, argument, rfl⟩ := readNamed?_eq_part h
    exact ⟨by simp, rfl⟩
  · rcases Option.or_eq_some_iff.1 h with hlogical | ⟨-, hpseudo⟩
    · obtain ⟨taken, -, heq⟩ := Option.map_eq_some_iff.1 hlogical
      exact (Prod.mk.inj heq).1 ▸ trivial
    · obtain ⟨name, argument, rfl⟩ := readNamed?_eq_part hpseudo
      exact hnamed name argument
  · simp at h

/-- An element name or a star begins a compound. -/
theorem fits_of_readCompound? (h : readCompound? cs = some (token, rest)) {context : Context}
    (hcontext : context ≠ .inside) : token.Fits context := by
  rcases Option.or_eq_some_iff.1 h with hpart | ⟨-, hsubject⟩
  · exact fits_of_readPart? hpart context
  · obtain ⟨name, rfl | rfl⟩ := readSubject?_eq_part hsubject <;>
      exact ⟨by simp, by simp [Context.after?, hcontext]⟩

theorem fits_of_readSign? (h : readSign? cs = some (token, rest)) {context : Context}
    (hcontext : context ≠ .compound) : token.Fits context := by
  unfold readSign? at h
  split at h <;> simp only [Option.some.injEq, reduceCtorEq, Prod.mk.injEq] at h <;>
    obtain ⟨rfl, -⟩ := h <;> cases context <;> simp_all [Token.Fits, Context.after?]

theorem fits_of_readDelimiter? (h : readDelimiter? cs = some (token, rest)) :
    token.Fits .inside := by
  unfold readDelimiter? at h
  split at h <;> simp only [Option.some.injEq, reduceCtorEq, Prod.mk.injEq] at h <;>
    obtain ⟨rfl, -⟩ := h <;> rfl

/-- What is read in a context may stand in it. -/
theorem fits_of_read? {context : Context} (h : Token.read? context cs = some (token, rest)) :
    token.Fits context := by
  match context with
  | .compound => exact fits_of_readCompound? h (by simp)
  | .relative =>
    rcases Option.or_eq_some_iff.1 h with hsign | ⟨-, hcompound⟩
    · exact fits_of_readSign? hsign (by simp)
    · exact fits_of_readCompound? hcompound (by simp)
  | .inside =>
    rcases Option.or_eq_some_iff.1 h with h | ⟨-, hblanks⟩
    · rcases Option.or_eq_some_iff.1 h with h | ⟨-, hpart⟩
      · rcases Option.or_eq_some_iff.1 h with hsign | ⟨-, hdelimiter⟩
        · exact fits_of_readSign? hsign (by simp)
        · exact fits_of_readDelimiter? hdelimiter
      · exact fits_of_readPart? hpart .inside
    · rw [(readBlanks?_eq_some hblanks).2.1]
      rfl

end

/-- Tokens each of which may stand in its context, and that end inside a compound. -/
def FitInRow : Context → List Token → Prop
  | context, [] => context = .inside
  | context, token :: tokens => token.Fits context ∧ FitInRow token.next tokens

theorem fitInRow_of_tokens? {context : Context} {cs : List Char} {tokens : List Token}
    (h : tokens? context cs = some tokens) : FitInRow context tokens := by
  fun_induction tokens? context cs generalizing tokens with
  | case1 =>
    obtain rfl := Option.some.inj h
    rfl
  | case2 | case3 => simp at h
  | case4 context c more token rest hread ih =>
    obtain ⟨later, hlater, rfl⟩ := Option.map_eq_some_iff.1 h
    exact ⟨fits_of_read? hread, ih hlater⟩

/-! ### Building nodes -/

theorem mem_argumentNodes {arguments : List (List Node)} :
    node ∈ argumentNodes arguments ↔ ∃ argument ∈ arguments, node ∈ allNodes argument := by
  induction arguments with
  | nil => simp
  | cons argument arguments ih => simp [ih]

theorem areSound_nil : AreSound [] := by
  simp [AreSound]

theorem areSound_append {a b : List Node} : AreSound (a ++ b) ↔ AreSound a ∧ AreSound b := by
  simp only [AreSound, allNodes_append, List.forall_mem_append]

theorem areSound_of_not_logical (h : ∀ name arguments, node ≠ .logical name arguments) :
    AreSound [node] := by
  have hwithin : node.within = [node] := by
    cases node with
    | logical name arguments => exact absurd rfl (h name arguments)
    | _ => simp [Node.within]
  have hsound : node.IsSound := by
    cases node with
    | logical name arguments => exact absurd rfl (h name arguments)
    | _ => trivial
  simpa [AreSound, hwithin] using hsound

theorem areSound_logical {name : String} {arguments : List (List Node)} (hne : arguments ≠ [])
    (h : ∀ argument ∈ arguments, IsRelative argument ∧ AreSound argument) :
    AreSound [.logical name arguments] := by
  simp only [AreSound, allNodes_cons, allNodes_nil, Node.within, List.append_nil,
    List.forall_mem_cons]
  refine ⟨⟨hne, fun argument hargument => (h argument hargument).1⟩, fun node hnode => ?_⟩
  obtain ⟨argument, hargument, hmem⟩ := mem_argumentNodes.1 hnode
  exact (h argument hargument).2 node hmem

/-- The context at the start of the nodes that are being read: arguments may be led. -/
def startContext : List OpenLogical → Context
  | [] => .compound
  | _ :: _ => .relative

/-- Nodes read so far, the latest first, that are sound and fit up to a context. -/
structure Reaches (outer : List OpenLogical) (nodes : List Node) (context : Context) : Prop where
  fits : contextAfter (startContext outer) nodes.reverse = some context
  sound : AreSound nodes.reverse

/-- Pseudo-classes that are open, with nothing before them or in their arguments that does not
fit. -/
def AreOpen : List OpenLogical → Prop
  | [] => True
  | inner :: outer => (∃ context, Reaches outer inner.before context) ∧
      (∀ argument ∈ inner.arguments, IsRelative argument ∧ AreSound argument) ∧ AreOpen outer

variable {outer : List OpenLogical}

theorem Reaches.cons (h : Reaches outer nodes context) (hnode : context.after? node = some next)
    (hsound : AreSound [node]) : Reaches outer (node :: nodes) next where
  fits := by
    rw [List.reverse_cons]
    exact contextAfter_append_singleton_eq_some h.fits hnode
  sound := by
    rw [List.reverse_cons]
    exact areSound_append.2 ⟨h.sound, hsound⟩

theorem reaches_nil (outer : List OpenLogical) : Reaches outer [] (startContext outer) :=
  ⟨rfl, areSound_nil⟩

/-- The nodes of an argument that comes to its end are a chain, led or not. -/
theorem Reaches.argument {inner : OpenLogical} (h : Reaches (inner :: outer) nodes .inside) :
    IsRelative nodes.reverse ∧ AreSound nodes.reverse :=
  ⟨isRelative_of_contextAfter h.fits, h.sound⟩

/-- Tokens that fit build sound nodes that fit: the invariant is that what is open and what has been
read does, up to the context of the next token. -/
theorem isChain_of_buildNodes? {built : List Node} {tokens : List Token}
    (hbuild : buildNodes? outer nodes tokens = some built) {context : Context}
    (htokens : FitInRow context tokens) (houter : AreOpen outer)
    (hnodes : Reaches outer nodes context) : IsChain built ∧ AreSound built := by
  fun_induction buildNodes? outer nodes tokens generalizing context with
  | case1 nodes =>
    obtain rfl := Option.some.inj hbuild
    obtain rfl : context = .inside := htokens
    exact ⟨isChain_of_contextAfter hnodes.fits, hnodes.sound⟩
  | case2 | case6 | case8 => simp at hbuild
  | case3 outer nodes node rest ih =>
    obtain ⟨⟨hlogical, hafter⟩, hrest⟩ := htokens
    exact ih hbuild hrest houter (hnodes.cons hafter (areSound_of_not_logical hlogical))
  | case4 outer nodes kind rest ih =>
    obtain ⟨hafter, hrest⟩ := htokens
    exact ih hbuild hrest houter (hnodes.cons hafter (areSound_of_not_logical (by simp)))
  | case5 outer nodes name rest ih =>
    exact ih hbuild htokens.2 ⟨⟨context, hnodes⟩, by simp, houter⟩ (reaches_nil _)
  | case7 inner outer nodes rest ih =>
    obtain ⟨rfl, hrest⟩ : context = .inside ∧ _ := htokens
    obtain ⟨hbefore, harguments, houter⟩ := houter
    refine ih hbuild hrest ⟨hbefore, ?_, houter⟩ (reaches_nil _)
    exact List.forall_mem_cons.2 ⟨hnodes.argument, harguments⟩
  | case9 inner outer nodes rest arguments ih =>
    obtain ⟨rfl, hrest⟩ : context = .inside ∧ _ := htokens
    obtain ⟨⟨before, hbefore⟩, harguments, houter⟩ := houter
    have hall : ∀ argument ∈ arguments, IsRelative argument ∧ AreSound argument := by
      intro argument hargument
      rcases List.mem_cons.1 (List.mem_reverse.1 hargument) with rfl | hargument
      · exact hnodes.argument
      · exact harguments argument hargument
    have hlogical : AreSound [.logical inner.name arguments] :=
      areSound_logical (by simp [arguments]) hall
    exact ih hbuild hrest houter (hbefore.cons rfl hlogical)

/-- A selector is a chain of compounds, as many as its depth; of the nodes in it, at any depth, every
combinator has one of four signs, no pseudo-class has arguments of both kinds, and every argument is
a chain, led or not. The signs and the kinds of arguments hold of any `Node` by its constructors; the
rest is what reading preserves. -/
theorem isChain_of_parse? {raw : String} {nodes : List Node} (h : parse? raw.toList = some nodes) :
    (∃ first links, nodes = chain first links ∧ IsCompound first ∧
        (∀ link ∈ links, IsCompound link.2) ∧
        (analyze raw).depth = ((first :: links.map Prod.snd).length : Int)) ∧
      ∀ node ∈ allNodes nodes,
        (∀ kind, node = .combinator kind → kind.text ∈ [" ", ">", "+", "~"]) ∧
        (node.arguments = [] ∨ node.rawArgument = none) ∧
        (∀ name arguments, node = .logical name arguments → arguments ≠ []) ∧
        ∀ argument ∈ node.arguments, IsRelative argument := by
  obtain ⟨tokens, htokens, hbuild⟩ := parse?_eq_some_iff.1 h
  obtain ⟨⟨first, links, rfl, hfirst, hlinks⟩, hsound⟩ :=
    isChain_of_buildNodes? hbuild (fitInRow_of_tokens? htokens) trivial (reaches_nil [])
  refine ⟨⟨first, links, rfl, hfirst, hlinks, ?_⟩, fun node hnode => ⟨?_, ?_, ?_, ?_⟩⟩
  · simp only [analyze, h, ofNodes, depthOf_chain hfirst hlinks, List.length_cons,
      List.length_map]
    push_cast
    omega
  · rintro kind -
    cases kind <;> simp [Combinator.text]
  · cases node <;> simp [Node.arguments, Node.rawArgument]
  · rintro name arguments rfl
    exact (hsound _ hnode).1
  · intro argument hargument
    cases node with
    | logical name arguments => exact (hsound _ hnode).2 argument hargument
    | _ => cases hargument

/-- Two compounds, and an argument in an argument that begins with a sign. -/
theorem isChain_of_parse?_ledArgument :
    (analyze "ul >*:not(.a,|b:has(> c + d))").depth = 2 ∧
      IsRelative [.combinator .child, .element "c", .combinator .nextSibling, .element "d"] := by
  have hnodes : parse? "ul >*:not(.a,|b:has(> c + d))".toList = some [.element "ul",
      .combinator .child, .universal "*", .logical "not" [[.className "a"], [.element "|b",
        .logical "has" [[.combinator .child, .element "c", .combinator .nextSibling,
          .element "d"]]]]] := by cbv
  obtain ⟨-, hall⟩ := isChain_of_parse? hnodes
  refine ⟨?_, ?_⟩
  · simp only [analyze, hnodes]
    decide
  · refine (hall (.logical "has" [[.combinator .child, .element "c", .combinator .nextSibling,
      .element "d"]]) ?_).2.2.2 _ (by simp [Node.arguments])
    simp [Node.within]

end StyleGauge.Selector
