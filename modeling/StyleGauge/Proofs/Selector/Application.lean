import StyleGauge.Proofs.Selector.Combination
import StyleGauge.Proofs.Text.Case

/-!
# Pseudo-classes that take selectors

A selector with `:not()`, `:is()`, `:where()` or `:has()` behind it is a selector, whatever
selectors the arguments are. Its depth is the one of the selector before the colon. Its specificity
is the sum of all of them, and it has the features that any of them has.
-/

namespace StyleGauge

namespace Selector

open Token

variable {name : String} {cs rest tail : List Char}

/-- A name of a pseudo-class that takes selectors, in letters of either case. -/
def IsLogicalVariant (name : String) : Prop :=
  name.toList.map Char.toLower ∈ logicalNames.map String.toList

instance (name : String) : Decidable (IsLogicalVariant name) :=
  inferInstanceAs (Decidable (_ ∈ _))

theorem IsLogicalVariant.isLower (h : IsLogicalVariant name) :
    ∀ c ∈ name.toList, c.toLower.isLower = true := by
  intro c hc
  obtain ⟨plain, hplain, heq⟩ := List.mem_map.1 h
  refine isLower_of_mem_logicalNames hplain _ ?_
  rw [heq]
  exact List.mem_map_of_mem hc

theorem IsLogicalVariant.isLogicalName (h : IsLogicalVariant name) : isLogicalName name = true := by
  obtain ⟨plain, hplain, heq⟩ := List.mem_map.1 h
  have hascii : ∀ c ∈ name.toList, c.toNat < 0x80 := fun c hc =>
    Text.toNat_lt_of_isLower_toLower (h.isLower c hc)
  rw [Selector.isLogicalName, Text.lowerString, Text.lower, Text.lowerAfter_eq_map hascii, ← heq,
    String.ofList_toList]
  exact List.contains_iff_mem.2 hplain

/-! ### The opening -/

/-- A word is read in letters of either case. -/
theorem dropWord?_append_of_map_toLower (hcs : ∀ c ∈ cs, c.toLower.isLower = true)
    (rest : List Char) : Text.dropWord? (cs.map Char.toLower) (cs ++ rest) = some rest := by
  induction cs with
  | nil => simp [Text.dropWord?]
  | cons c cs ih =>
    obtain ⟨hc, hcs⟩ := List.forall_mem_cons.1 hcs
    rw [List.map_cons, List.cons_append, Text.dropWord?, Text.isFormOf_eq hc, beq_self_eq_true,
      if_pos rfl, ih hcs]

theorem toList_ne_nil_of_mem_logicalNames {a : String} (ha : a ∈ logicalNames) :
    a.toList ≠ [] := by
  have hall : ∀ a ∈ logicalNames, a.toList ≠ [] := by decide
  exact hall a ha

/-- No two of the names begin with the same letter. -/
theorem head?_ne_of_mem_logicalNames {a b : String} (ha : a ∈ logicalNames) (hb : b ∈ logicalNames)
    (hne : a ≠ b) : a.toList.head? ≠ b.toList.head? := by
  have hall : ∀ a ∈ logicalNames, ∀ b ∈ logicalNames, a ≠ b → a.toList.head? ≠ b.toList.head? := by
    decide
  exact hall a ha b hb hne

/-- What is read as one of the names is not read as another. -/
theorem takeOpening?_eq_none {plain other : String} (hplain : plain ∈ logicalNames)
    (hother : other ∈ logicalNames) (hne : other ≠ plain) (hcs : cs.map Char.toLower = plain.toList)
    (rest : List Char) : takeOpening? (cs ++ rest) other = none := by
  obtain ⟨letter, letters, hletters⟩ :=
    List.exists_cons_of_ne_nil (toList_ne_nil_of_mem_logicalNames hother)
  have hhead := head?_ne_of_mem_logicalNames hother hplain hne
  have hlower := isLower_of_mem_logicalNames hplain
  rw [← hcs] at hhead hlower
  cases cs with
  | nil => exact absurd hcs.symm (toList_ne_nil_of_mem_logicalNames hplain)
  | cons c cs =>
    have hc : c.toLower.isLower = true := hlower _ List.mem_cons_self
    have hform : Text.isFormOf letter c = false := by
      rw [Text.isFormOf_eq hc, beq_eq_false_iff_ne]
      rintro rfl
      exact hhead (by rw [hletters]; rfl)
    have hdrop : Text.dropWord? other.toList (c :: cs ++ rest) = none := by
      rw [hletters, List.cons_append, Text.dropWord?, hform, if_neg Bool.false_ne_true]
    rw [takeOpening?, hdrop]

theorem takeLogical?_of_isLogicalVariant (h : IsLogicalVariant name) (rest : List Char) :
    takeLogical? (name.toList ++ '(' :: rest) = some (name.toList, Text.trimStart rest) := by
  obtain ⟨plain, hplain, heq⟩ := List.mem_map.1 h
  -- the names before this one are tried first, and in vain
  obtain ⟨before, after, hnames, hbefore⟩ := List.eq_append_cons_of_mem hplain
  rw [takeLogical?_eq, List.findSome?_eq_some_iff]
  refine ⟨before, plain, after, hnames, ?_, fun other hother => ?_⟩
  · have hdrop : Text.dropWord? plain.toList (name.toList ++ '(' :: rest) = some ('(' :: rest) := by
      rw [heq]
      exact dropWord?_append_of_map_toLower h.isLower _
    have hlength : plain.length = name.toList.length := by
      rw [← String.length_toList, heq, List.length_map]
    simp [takeOpening?, hdrop, hlength]
  · refine takeOpening?_eq_none hplain (by simp [hnames, hother]) ?_ heq.symm _
    rintro rfl
    exact hbefore hother

/-- Behind a compound, a colon and a name of these open a pseudo-class that takes selectors. -/
theorem read?_opening (h : IsLogicalVariant name) (rest : List Char) :
    Token.read? .inside (':' :: (name.toList ++ '(' :: rest)) =
      some (.opening name, Text.trimStart rest) := by
  have htake := takeLogical?_of_isLogicalVariant h rest
  have hpart : readPart? (':' :: (name.toList ++ '(' :: rest)) =
      some (.opening name, Text.trimStart rest) := by
    rw [← String.ofList_toList (s := name), String.toList_ofList]
    cases hname : name.toList with
    | nil =>
      rw [IsLogicalVariant, hname] at h
      exact absurd h (by decide)
    | cons c cs =>
      have hc : c ≠ ':' := by
        rintro rfl
        exact absurd (h.isLower ':' (by simp [hname])) (by decide)
      rw [hname, List.cons_append] at htake
      simp [readPart?, readPseudoClass?, htake, hc]
  have htrim : Text.trimStart (':' :: (name.toList ++ '(' :: rest)) =
      ':' :: (name.toList ++ '(' :: rest) := Text.trimStart_cons_of_not_isBlank (by decide) _
  simp only [Token.read?, readSign?, readDelimiter?, htrim, hpart]
  rfl

/-! ### Arguments -/

/-- A compound begins an argument as it begins a selector. -/
theorem tokens?_relative {tokens : List Token} (hcs : Text.trimStart cs = cs)
    (h : tokens? .compound cs = some tokens) : tokens? .relative cs = some tokens := by
  obtain ⟨-, hread⟩ := readCompound?_of_tokens? h
  obtain ⟨hsign, -⟩ := readSign?_of_readCompound? hcs hread
  obtain ⟨⟨token, rest⟩, hcompound⟩ := Option.isSome_iff_exists.1 hread
  have hrelative : Token.read? .relative cs = some (token, rest) := by
    rw [Token.read?, hsign, Option.none_or, hcompound]
  have hplain : Token.read? .compound cs = some (token, rest) := hcompound
  rw [tokens?_of_read? hrelative, ← tokens?_of_read? hplain, h]

/-- A selector is read as its tokens at the start of a text and of an argument, and they build its
nodes inside of any pseudo-classes. -/
theorem exists_tokens_of_parse? {a : List Char} {nodes : List Node} (h : parse? a = some nodes) :
    ∃ tokens,
      (∀ context tail, context ≠ .inside → IsBoundary tail →
        tokens? context (Text.trim a ++ tail) = (tokens? .inside tail).map (tokens ++ ·)) ∧
      ∀ below later,
        buildNodes? below [] (tokens ++ later) = buildNodes? below nodes.reverse later := by
  obtain ⟨tokens, htokens, hbuild⟩ := parse?_eq_some_iff.1 h
  have hstart := Text.trimStart_trim a
  refine ⟨tokens, fun context tail hcontext htail => ?_, fun below later => ?_⟩
  · cases context with
    | compound => exact tokens?_append htokens htail fun _ => hstart
    | relative => exact tokens?_append (tokens?_relative hstart htokens) htail fun _ => hstart
    | inside => exact absurd rfl hcontext
  · have hnodes := buildNodes?_append hbuild [] below later
    rwa [List.append_nil] at hnodes

theorem trim_ne_nil_of_parse? {a : List Char} {nodes : List Node} (h : parse? a = some nodes) :
    Text.trim a ≠ [] := by
  obtain ⟨tokens, htokens, -⟩ := parse?_eq_some_iff.1 h
  exact (readCompound?_of_tokens? htokens).1

theorem trimStart_trim_append {a : List Char} {nodes : List Node} (h : parse? a = some nodes)
    (tail : List Char) : Text.trimStart (Text.trim a ++ tail) = Text.trim a ++ tail := by
  have hstart := Text.trimStart_trim a
  rw [Text.trimStart_append (hstart.symm ▸ trim_ne_nil_of_parse? h), hstart]

/-- The text of arguments, from behind the opening parenthesis to the closing one. -/
def argumentsText (arguments : List (List Char)) : List Char :=
  [','].intercalate (arguments.map Text.trim) ++ [')']

theorem argumentsText_singleton (a : List Char) : argumentsText [a] = Text.trim a ++ [')'] := by
  rw [argumentsText, List.map_singleton, List.intercalate_singleton]

theorem argumentsText_cons_cons (a b : List Char) (arguments : List (List Char)) :
    argumentsText (a :: b :: arguments) =
      Text.trim a ++ ',' :: argumentsText (b :: arguments) := by
  simp [argumentsText]

theorem trimStart_argumentsText {arguments : List (List Char)} {asts : List (List Node)}
    (h : List.Forall₂ (fun a nodes => parse? a = some nodes) arguments asts) :
    Text.trimStart (argumentsText arguments) = argumentsText arguments := by
  cases h with
  | nil => decide
  | cons ha hrest =>
    cases hrest with
    | nil => rw [argumentsText_singleton, trimStart_trim_append ha]
    | cons hb hrest => rw [argumentsText_cons_cons, trimStart_trim_append ha]

theorem tokens?_closing : tokens? .inside [')'] = some [.closing] := by
  have hread : Token.read? .inside [')'] = some (.closing, []) := rfl
  rw [tokens?_of_read? hread, Token.next, tokens?_nil_inside]
  rfl

theorem read?_comma (hcs : Text.trimStart cs = cs) :
    Token.read? .inside (',' :: cs) = some (.comma, cs) := by
  have htrim : Text.trimStart (',' :: cs) = ',' :: cs :=
    Text.trimStart_cons_of_not_isBlank (by decide) _
  simp only [Token.read?, readSign?, readDelimiter?, htrim, hcs]
  rfl

/-- Selectors with commas between them and a parenthesis behind them are read as the arguments of
the pseudo-class that is open. -/
theorem exists_tokens_argumentsText {arguments : List (List Char)} {asts : List (List Node)}
    (h : List.Forall₂ (fun a nodes => parse? a = some nodes) arguments asts)
    (hne : arguments ≠ []) :
    ∃ tokens, tokens? .relative (argumentsText arguments) = some tokens ∧
      ∀ name before done, buildNodes? [⟨name, before, done⟩] [] tokens =
        some (.logical name (done.reverse ++ asts) :: before).reverse := by
  induction h with
  | nil => exact absurd rfl hne
  | @cons a nodes arguments asts ha hrest ih =>
    obtain ⟨first, hfirst, hnodes⟩ := exists_tokens_of_parse? ha
    cases hrest with
    | nil =>
      refine ⟨first ++ [.closing], ?_, fun name before done => ?_⟩
      · rw [argumentsText_singleton, hfirst .relative _ (by decide) (isBoundary_cons (by decide) _),
          tokens?_closing]
        rfl
      · rw [hnodes, buildNodes?, buildNodes?]
        simp
    | @cons b nodes' arguments asts hb hrest =>
      obtain ⟨later, hlater, hbuild⟩ := ih (List.cons_ne_nil _ _)
      have hcomma := read?_comma (trimStart_argumentsText (.cons hb hrest))
      refine ⟨first ++ .comma :: later, ?_, fun name before done => ?_⟩
      · rw [argumentsText_cons_cons, hfirst .relative _ (by decide) (isBoundary_cons (by decide) _),
          tokens?_of_read? hcomma, Token.next, hlater]
        rfl
      · rw [hnodes, buildNodes?, hbuild]
        simp

/-! ### Selectors with arguments -/

/-- The text of a selector with a pseudo-class behind it that takes selectors. -/
def appliedText (subject name : String) (arguments : List String) : String :=
  Text.trimString subject ++ ":" ++ name ++ "(" ++
    ",".intercalate (arguments.map Text.trimString) ++ ")"

theorem toList_appliedText (subject name : String) (arguments : List String) :
    (appliedText subject name arguments).toList =
      Text.trim subject.toList ++
        ':' :: (name.toList ++ '(' :: argumentsText (arguments.map String.toList)) := by
  have hcomma : ",".toList = [','] := rfl
  simp [appliedText, argumentsText, Text.trimString, String.toList_intercalate, hcomma,
    Function.comp_def]

theorem trimmed_appliedText {subject : String} {before : List Node}
    (hsubject : parse? subject.toList = some before) (name : String) (arguments : List String) :
    Text.Trimmed (appliedText subject name arguments).toList := by
  have hclosing : Text.Trimmed [')'] := by decide
  have htext := Text.trimmed_append (Text.trimmed_trim subject.toList) hclosing
    (trim_ne_nil_of_parse? hsubject) (List.cons_ne_nil _ _) (':' :: (name.toList ++
      '(' :: [','].intercalate ((arguments.map String.toList).map Text.trim)))
  simpa [toList_appliedText, argumentsText] using htext

/-- A selector with a pseudo-class behind it that takes selectors is a selector. -/
theorem parse?_appliedText {subject : String} {before : List Node} {arguments : List String}
    {asts : List (List Node)} (hsubject : parse? subject.toList = some before)
    (hname : IsLogicalVariant name)
    (h : List.Forall₂ (fun a nodes => parse? a = some nodes) (arguments.map String.toList) asts)
    (hne : arguments ≠ []) :
    parse? (appliedText subject name arguments).toList =
      some (before ++ [.logical name asts]) := by
  obtain ⟨first, hfirst, hnodes⟩ := exists_tokens_of_parse? hsubject
  obtain ⟨later, hlater, hbuild⟩ :=
    exists_tokens_argumentsText h fun hnil => hne (List.map_eq_nil_iff.1 hnil)
  have hopening := read?_opening hname (argumentsText (arguments.map String.toList))
  rw [trimStart_argumentsText h] at hopening
  have htrim : Text.trim (appliedText subject name arguments).toList =
      (appliedText subject name arguments).toList := trimmed_appliedText hsubject name arguments
  refine parse?_eq_some_iff.2 ⟨first ++ .opening name :: later, ?_, ?_⟩
  · rw [htrim, toList_appliedText, hfirst .compound _ (by decide) (isBoundary_cons (by decide) _),
      tokens?_of_read? hopening, Token.next, hlater]
    rfl
  · rw [hnodes, buildNodes?, hbuild]
    simp

/-! ### Nodes in arguments -/

theorem within_logical (name : String) (asts : List (List Node)) :
    (Node.logical name asts).within = .logical name asts :: argumentNodes asts := by
  simp [Node.within]

theorem any_argumentNodes (p : Node → Bool) (asts : List (List Node)) :
    (argumentNodes asts).any p = asts.any fun ast => (allNodes ast).any p := by
  induction asts with
  | nil => simp [argumentNodes]
  | cons ast asts ih => simp [argumentNodes, ih]

/-- A feature that the pseudo-class itself has not is one of the nodes before it or of an
argument. -/
theorem any_allNodes_append_logical {p : Node → Bool} {name : String} {asts : List (List Node)}
    (hp : p (.logical name asts) = false) (before : List Node) :
    (allNodes (before ++ [.logical name asts])).any p =
      ((allNodes before).any p || asts.any fun ast => (allNodes ast).any p) := by
  simp [within_logical, any_argumentNodes, hp]

theorem depthOf_append_logical (before : List Node) (name : String) (asts : List (List Node)) :
    depthOf (before ++ [.logical name asts]) = depthOf before := by
  simp [depthOf, Node.isCombinator]

/-- Specificities of arguments add up to that of all nodes in them. -/
theorem foldlM_plus_specificityOf (asts : List (List Node)) (i c e : Nat) :
    (asts.map specificityOf).foldlM Specificity.plus (.ofCounts i c e) =
      .ok (.ofCounts (i + (argumentNodes asts).countP Node.isId)
        (c + (argumentNodes asts).countP Node.countsAsClass)
        (e + (argumentNodes asts).countP Node.countsAsElement)) := by
  induction asts generalizing i c e with
  | nil =>
    simp only [argumentNodes, List.countP_nil, Nat.add_zero]
    rfl
  | cons ast asts ih =>
    rw [List.map_cons, List.foldlM_cons, specificityOf, Specificity.plus_ofCounts]
    show List.foldlM _ _ _ = _
    rw [ih]
    simp [argumentNodes, Nat.add_assoc]

/-- The pseudo-class itself adds nothing to the specificity. -/
theorem foldlM_plus_append_logical {name : String} (hname : isLogicalName name = true)
    (before : List Node) (asts : List (List Node)) :
    (asts.map specificityOf).foldlM Specificity.plus (specificityOf before) =
      .ok (specificityOf (before ++ [.logical name asts])) := by
  rw [specificityOf, foldlM_plus_specificityOf]
  simp [specificityOf, within_logical, Node.isId, Node.countsAsClass, Node.countsAsElement, hname]

/-! ### Compositions -/

/-- Selectors put together by pseudo-classes that take selectors, as often as one likes. -/
inductive Composition where
  /-- A selector as it stands. -/
  | plain (text : String)
  /-- A selector with a pseudo-class behind it, and the arguments of that. -/
  | applied (subject : Composition) (name : String) (arguments : List Composition)

namespace Composition

/-- The text of a composition. -/
def text : Composition → String
  | plain text => text
  | applied subject name arguments => appliedText subject.text name (arguments.map text)

/-- The nodes of a composition. -/
def nodes : Composition → List Node
  | plain text => (parse? text.toList).getD []
  | applied subject name arguments => subject.nodes ++ [.logical name (arguments.map nodes)]

/-- A composition of selectors that are well formed, by pseudo-classes that have arguments. -/
def IsValid : Composition → Prop
  | plain text => (parse? text.toList).isSome
  | applied subject name arguments =>
    subject.IsValid ∧ IsLogicalVariant name ∧ arguments ≠ [] ∧ ∀ a ∈ arguments, a.IsValid

/-- The text of a composition is read as its nodes. -/
theorem parse?_text (c : Composition) (h : c.IsValid) : parse? c.text.toList = some c.nodes := by
  match c with
  | plain text =>
    rw [IsValid] at h
    obtain ⟨nodes, hnodes⟩ := Option.isSome_iff_exists.1 h
    rw [Composition.text, Composition.nodes, hnodes, Option.getD_some]
  | applied subject name arguments =>
    rw [IsValid] at h
    obtain ⟨hsubject, hname, hne, harguments⟩ := h
    have hall : List.Forall₂ (fun a nodes => parse? a = some nodes)
        ((arguments.map text).map String.toList) (arguments.map nodes) := by
      rw [List.map_map, List.forall₂_map_left_iff, List.forall₂_map_right_iff, List.forall₂_same]
      exact fun a ha => parse?_text a (harguments a ha)
    rw [Composition.text, Composition.nodes]
    exact parse?_appliedText (parse?_text subject hsubject) hname hall
      fun hnil => hne (List.map_eq_nil_iff.1 hnil)

theorem analyze_text {c : Composition} (h : c.IsValid) :
    analyze c.text = ofNodes c.text c.nodes := by
  rw [analyze, c.parse?_text h]

end Composition

/-- A composition by a pseudo-class is read as its subject with one node behind it. Its depth is the
one of its subject, its specificity is the sum, and it has the features of all its parts. -/
theorem analyze_applied {subject : Composition} {name : String} {arguments : List Composition}
    (h : (Composition.applied subject name arguments).IsValid) :
    let text := appliedText subject.text name (arguments.map Composition.text)
    let before := analyze subject.text
    let inside := arguments.map fun a => analyze a.text
    (∀ part ∈ subject :: arguments, parse? part.text.toList = some part.nodes) ∧
      parse? text.toList =
        some (subject.nodes ++ [.logical name (arguments.map Composition.nodes)]) ∧
      (analyze text).depth = before.depth ∧
      (inside.map Selector.specificity).foldlM Specificity.plus before.specificity =
        .ok (analyze text).specificity ∧
      (analyze text).hasId = (before.hasId || inside.any Selector.hasId) ∧
      (analyze text).hasAttribute = (before.hasAttribute || inside.any Selector.hasAttribute) ∧
      (analyze text).hasPseudoElement =
        (before.hasPseudoElement || inside.any Selector.hasPseudoElement) ∧
      (analyze text).hasPseudoClass = true := by
  intro text before inside
  have hparse := Composition.parse?_text _ h
  have htext := Composition.analyze_text h
  rw [Composition.text, Composition.nodes] at hparse htext
  rw [Composition.IsValid] at h
  obtain ⟨hsubject, hname, -, harguments⟩ := h
  have hbefore : before = ofNodes subject.text subject.nodes := Composition.analyze_text hsubject
  have hinside : inside = arguments.map fun a => ofNodes a.text a.nodes :=
    List.map_congr_left fun a ha => Composition.analyze_text (harguments a ha)
  have hparts : ∀ part ∈ subject :: arguments, parse? part.text.toList = some part.nodes :=
    List.forall_mem_cons.2
      ⟨subject.parse?_text hsubject, fun a ha => a.parse?_text (harguments a ha)⟩
  have hfeature {p : Node → Bool}
      (hp : p (.logical name (arguments.map Composition.nodes)) = false) :
      (allNodes (subject.nodes ++ [.logical name (arguments.map Composition.nodes)])).any p =
        ((allNodes subject.nodes).any p || arguments.any fun a => (allNodes a.nodes).any p) := by
    rw [any_allNodes_append_logical hp, List.any_map]
    rfl
  refine ⟨hparts, hparse, ?_, ?_, ?_, ?_, ?_, ?_⟩
  · rw [htext, hbefore]
    exact congrArg Nat.cast (depthOf_append_logical ..)
  · rw [htext, hbefore, hinside, List.map_map]
    have hsum := foldlM_plus_append_logical hname.isLogicalName subject.nodes
      (arguments.map Composition.nodes)
    rwa [List.map_map] at hsum
  · rw [htext, hbefore, hinside, List.any_map]
    exact hfeature rfl
  · rw [htext, hbefore, hinside, List.any_map]
    exact hfeature rfl
  · rw [htext, hbefore, hinside, List.any_map]
    exact hfeature rfl
  · rw [htext]
    simp [ofNodes, within_logical, Node.isPseudoClass]

/-- Pseudo-classes behind and inside of each other, their names in letters of either case. -/
theorem analyze_applied_nested :
    let subject := Composition.applied (.plain "ul.a ") "NOT" [.plain "#b"]
    let arguments := [.applied (.plain "li") "Has" [.plain "a > b"], .plain " [c]"]
    (Composition.applied subject "is" arguments).IsValid ∧
      parse? "ul.a:NOT(#b):is(li:Has(a > b),[c])".toList =
        some [.element "ul", .className "a", .logical "NOT" [[.id "b"]],
          .logical "is" [[.element "li",
            .logical "Has" [[.element "a", .combinator .child, .element "b"]]],
            [.attributeTest "[c]"]]] ∧
      (analyze "ul.a:NOT(#b):is(li:Has(a > b),[c])").depth =
        (analyze "ul.a:NOT(#b)").depth := by
  intro subject arguments
  have hsubject : parse? "ul.a ".toList = some [.element "ul", .className "a"] := by cbv
  have hb : parse? "#b".toList = some [.id "b"] := by cbv
  have hli : parse? "li".toList = some [.element "li"] := by cbv
  have hchild : parse? "a > b".toList =
      some [.element "a", .combinator .child, .element "b"] := by cbv
  have hc : parse? " [c]".toList = some [.attributeTest "[c]"] := by cbv
  have hnames : IsLogicalVariant "NOT" ∧ IsLogicalVariant "Has" ∧ IsLogicalVariant "is" := by
    decide
  have hvalid : (Composition.applied subject "is" arguments).IsValid := by
    simp [subject, arguments, Composition.IsValid, hsubject, hb, hli, hchild, hc, hnames,
      -String.reduceToList]
  have htext : appliedText subject.text "is" (arguments.map Composition.text) =
      "ul.a:NOT(#b):is(li:Has(a > b),[c])" := by
    simp only [subject, arguments, Composition.text, List.map_cons, List.map_nil]
    decide
  have hbefore : subject.text = "ul.a:NOT(#b)" := by
    simp only [subject, Composition.text, List.map_cons, List.map_nil]
    decide
  obtain ⟨-, hnodes, hdepth, -⟩ := analyze_applied hvalid
  rw [htext] at hnodes hdepth
  rw [hbefore] at hdepth
  refine ⟨hvalid, hnodes.trans ?_, hdepth⟩
  simp [subject, arguments, Composition.nodes, hsubject, hb, hli, hchild, hc, -String.reduceToList]

end Selector

end StyleGauge
