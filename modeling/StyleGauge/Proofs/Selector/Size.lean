import StyleGauge.Proofs.Selector.Combination

/-!
# How much a selector can hold

A selector has no more nodes, those in arguments included, than its text has characters, so that
its depth and the components of its specificity are bounded by the length of the text. Estimates
keep to such bounds too.
-/

namespace StyleGauge

namespace Selector

open Token

/-! ### Tokens -/

/-- How many nodes a token adds at most. -/
def Token.weight : Token → Nat
  | .part node => node.within.length
  | _ => 1

theorem within_pseudoNode (name : String) (argument : Option String) :
    (pseudoNode name argument).within.length = 1 := by
  unfold pseudoNode
  split <;> simp [Node.within]

theorem weight_of_readPart? {cs rest : List Char} {token : Token}
    (h : readPart? cs = some (token, rest)) : token.weight = 1 := by
  unfold readPart? at h
  split at h
  · dsimp only at h
    split at h <;> simp only [Option.some.injEq, reduceCtorEq, Prod.mk.injEq] at h
    simp [← h.1, Token.weight, Node.within]
  · obtain ⟨taken, -, heq⟩ := Option.map_eq_some_iff.1 h
    simp [← (Prod.mk.inj heq).1, Token.weight, Node.within]
  · split at h <;> simp only [Option.some.injEq, reduceCtorEq, Prod.mk.injEq] at h
    simp [← h.1, Token.weight, Node.within]
  · obtain ⟨name, argument, rfl⟩ := readNamed?_eq_part h
    simp [Token.weight, Node.within]
  · rcases Option.or_eq_some_iff.1 h with hlogical | ⟨-, hnamed⟩
    · obtain ⟨taken, -, heq⟩ := Option.map_eq_some_iff.1 hlogical
      simp [← (Prod.mk.inj heq).1, Token.weight]
    · obtain ⟨name, argument, rfl⟩ := readNamed?_eq_part hnamed
      exact within_pseudoNode name argument
  · simp at h

theorem weight_of_readCompound? {cs rest : List Char} {token : Token}
    (h : readCompound? cs = some (token, rest)) : token.weight = 1 := by
  rcases Option.or_eq_some_iff.1 h with hpart | ⟨-, hsubject⟩
  · exact weight_of_readPart? hpart
  · obtain ⟨name, rfl | rfl⟩ := readSubject?_eq_part hsubject <;> simp [Token.weight, Node.within]

theorem weight_of_readSign? {cs rest : List Char} {token : Token}
    (h : readSign? cs = some (token, rest)) : token.weight = 1 := by
  unfold readSign? at h
  split at h <;> simp only [Option.some.injEq, reduceCtorEq, Prod.mk.injEq] at h <;>
    simp [← h.1, Token.weight]

theorem weight_of_readDelimiter? {cs rest : List Char} {token : Token}
    (h : readDelimiter? cs = some (token, rest)) : token.weight = 1 := by
  unfold readDelimiter? at h
  split at h <;> simp only [Option.some.injEq, reduceCtorEq, Prod.mk.injEq] at h <;>
    simp [← h.1, Token.weight]

/-- Every token that is read adds at most one node. -/
theorem weight_of_read? {context : Context} {cs rest : List Char} {token : Token}
    (h : Token.read? context cs = some (token, rest)) : token.weight = 1 := by
  match context with
  | .compound => exact weight_of_readCompound? h
  | .relative =>
    rcases Option.or_eq_some_iff.1 h with hsign | ⟨-, hcompound⟩
    · exact weight_of_readSign? hsign
    · exact weight_of_readCompound? hcompound
  | .inside =>
    rcases Option.or_eq_some_iff.1 h with h | ⟨-, hblanks⟩
    · rcases Option.or_eq_some_iff.1 h with h | ⟨-, hpart⟩
      · rcases Option.or_eq_some_iff.1 h with hsign | ⟨-, hdelimiter⟩
        · exact weight_of_readSign? hsign
        · exact weight_of_readDelimiter? hdelimiter
      · exact weight_of_readPart? hpart
    · rw [(readBlanks?_eq_some hblanks).2.1]
      rfl

/-- Tokens add no more nodes than there are characters. -/
theorem weight_tokens?_le {context : Context} {cs : List Char} {tokens : List Token}
    (h : tokens? context cs = some tokens) : (tokens.map Token.weight).sum ≤ cs.length := by
  fun_induction tokens? context cs generalizing tokens with
  | case1 =>
    obtain rfl := Option.some.inj h
    simp
  | case2 | case3 => simp at h
  | case4 context c more token rest hread ih =>
    obtain ⟨later, hlater, rfl⟩ := Option.map_eq_some_iff.1 h
    have hlt := Token.read?_consumes context hread
    have hle := ih hlater
    rw [List.map_cons, List.sum_cons, weight_of_read? hread]
    dsimp only at hlt
    omega

/-! ### Nodes -/

/-- How many nodes a pseudo-class that is open holds so far, it and those before it included. -/
def OpenLogical.weight (o : OpenLogical) : Nat :=
  1 + (allNodes o.before).length + (argumentNodes o.arguments).length

@[simp] theorem allNodes_reverse_length (nodes : List Node) :
    (allNodes nodes.reverse).length = (allNodes nodes).length := by
  induction nodes with
  | nil => rfl
  | cons node nodes ih =>
    simp [ih]
    omega

@[simp] theorem argumentNodes_nil : argumentNodes [] = [] := by simp [argumentNodes]

@[simp] theorem argumentNodes_cons (argument : List Node) (arguments : List (List Node)) :
    argumentNodes (argument :: arguments) = allNodes argument ++ argumentNodes arguments := by
  simp [argumentNodes]

theorem argumentNodes_append (a b : List (List Node)) :
    argumentNodes (a ++ b) = argumentNodes a ++ argumentNodes b := by
  induction a with
  | nil => simp
  | cons argument a ih => simp [ih]

@[simp] theorem argumentNodes_reverse_length (arguments : List (List Node)) :
    (argumentNodes arguments.reverse).length = (argumentNodes arguments).length := by
  induction arguments with
  | nil => rfl
  | cons argument arguments ih =>
    simp [argumentNodes_append, ih]
    omega

/-- Building nodes makes no more of them than tokens and what was built before have. -/
theorem buildNodes?_length_le {outer : List OpenLogical} {nodes built : List Node}
    {tokens : List Token} (h : buildNodes? outer nodes tokens = some built) :
    (allNodes built).length ≤ (outer.map OpenLogical.weight).sum + (allNodes nodes).length +
      (tokens.map Token.weight).sum := by
  fun_induction buildNodes? outer nodes tokens with
  | case1 nodes =>
    obtain rfl := Option.some.inj h
    simp
  | case2 | case6 | case8 => simp at h
  | case3 outer nodes node rest ih =>
    have := ih h
    simp only [allNodes_cons, List.length_append, List.map_cons, List.sum_cons, Token.weight] at *
    omega
  | case4 outer nodes kind rest ih =>
    have := ih h
    simp [Token.weight, Node.within] at *
    omega
  | case5 outer nodes name rest ih =>
    have := ih h
    simp [Token.weight, OpenLogical.weight] at *
    omega
  | case7 inner outer nodes rest ih =>
    have := ih h
    simp [Token.weight, OpenLogical.weight] at *
    omega
  | case9 inner outer nodes rest arguments ih =>
    have := ih h
    simp [Token.weight, OpenLogical.weight, Node.within, arguments, argumentNodes_append] at *
    omega

/-- A selector has no more nodes than its text has characters. -/
theorem parse?_length_le {text : List Char} {nodes : List Node} (h : parse? text = some nodes) :
    (allNodes nodes).length ≤ text.length := by
  obtain ⟨tokens, htokens, hnodes⟩ := parse?_eq_some_iff.1 h
  have hbuilt := buildNodes?_length_le hnodes
  have hweight := weight_tokens?_le htokens
  have htrim := (Text.trim_isInfix text).length_le
  simp only [List.map_nil, List.sum_nil, allNodes_nil, List.length_nil] at hbuilt
  omega

/-! ### Estimates -/

namespace Estimate

theorem depth_le (cs : List Char) : depth cs ≤ cs.length + 1 := by
  have hpieces := (Text.Pattern.one isSeparator).length_split cs
  have hcount := (Text.Pattern.one isSeparator).count_le cs
  have hfilter := List.length_filter_le (fun piece : List Char => decide (Text.trim piece ≠ []))
    ((Text.Pattern.one isSeparator).split cs)
  rw [depth]
  omega

end Estimate

end Selector

/-! ### Measures of a selector -/

/-- A specificity whose components are counts of at most `b`. -/
def Specificity.IsCount (b : Nat) (s : Specificity) : Prop :=
  ∃ i c e, s = .ofCounts i c e ∧ i ≤ b ∧ c ≤ b ∧ e ≤ b

namespace Selector

/-- A selector whose depth and specificity are counts of at most `b`, and that has an id only if an
id counts. -/
structure IsSized (b : Nat) (s : Selector) : Prop where
  depth_nonneg : 0 ≤ s.depth
  depth_le : s.depth ≤ b
  specificity : s.specificity.IsCount b
  hasId : s.hasId = true → Number.le 1 s.specificity.ids = true

theorem depthOf_le (nodes : List Node) : depthOf nodes ≤ 1 + (allNodes nodes).length := by
  have hwithin : ∀ nodes : List Node, nodes.length ≤ (allNodes nodes).length := by
    intro nodes
    induction nodes with
    | nil => simp
    | cons node nodes ih =>
      have : 1 ≤ node.within.length := by
        cases node <;> simp [Node.within]
      simp only [List.length_cons, allNodes_cons, List.length_append]
      omega
  have := List.countP_le_length (p := Node.isCombinator) (l := nodes)
  have := hwithin nodes
  unfold depthOf
  omega

theorem le_ofNat_of_ne_zero {n : Nat} (h : n ≠ 0) : Number.le 1 (.ofNat n) = true := by
  show Number.le (.int 1) (.int n) = true
  rw [Number.le_int]
  exact decide_eq_true (by omega)

/-- The measures of a selector are bounded by the length of its text. -/
theorem isSized_analyze (raw : String) : (analyze raw).IsSized (2 * raw.length + 1) := by
  have hlength : raw.toList.length = raw.length := raw.length_toList
  unfold analyze
  split
  · rename_i nodes hnodes
    have hle := parse?_length_le hnodes
    have hdepth := depthOf_le nodes
    have hcount : ∀ p : Node → Bool, (allNodes nodes).countP p ≤ 2 * raw.length + 1 := by
      intro p
      have := List.countP_le_length (p := p) (l := allNodes nodes)
      omega
    refine ⟨by simp [ofNodes], ?_, ⟨_, _, _, rfl, hcount _, hcount _, hcount _⟩, ?_⟩
    · show (depthOf nodes : Int) ≤ _
      omega
    · intro hid
      refine le_ofNat_of_ne_zero ?_
      rw [Nat.ne_zero_iff_zero_lt, List.countP_pos_iff]
      simpa [ofNodes] using hid
  · have hdepth := Estimate.depth_le raw.toList
    have hids : Estimate.ids raw.toList ≤ raw.toList.length := Text.Pattern.count_le _ _
    have hclasses : Estimate.classNames raw.toList ≤ raw.toList.length := Text.Pattern.count_le _ _
    have htests : Estimate.attributeTests raw.toList ≤ raw.toList.length :=
      Text.Pattern.count_le _ _
    have helements : Estimate.elements raw.toList ≤ raw.toList.length := Text.Pattern.count_le _ _
    refine ⟨by simp [estimate], ?_, ⟨_, _, _, rfl, by omega, by omega, by omega⟩, ?_⟩
    · show ((Estimate.depth raw.toList : Nat) : Int) ≤ _
      omega
    · intro hid
      exact le_ofNat_of_ne_zero (by simpa [estimate] using hid)

end Selector

end StyleGauge
