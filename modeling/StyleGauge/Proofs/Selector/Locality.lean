import Mathlib.Tactic.Common
import StyleGauge.Proofs.Text.Trim
import StyleGauge.Selector.Parser

/-!
# Tokens do not look ahead

What is read from a selector does not change if more text follows, as long as that text cannot
prolong a name, a namespace or the opening of a function. Each reader has its law here; together
they say that the tokens of a text are the tokens of its beginning and those of what follows.
-/

namespace StyleGauge.Selector

open Token

/-- A text that prolongs nothing before it: it does not begin with a part of a name, the bar of a
namespace or the parenthesis of a function. -/
def IsBoundary (tail : List Char) : Prop :=
  ∀ c ∈ tail.head?, isNameChar c = false ∧ c ≠ '\\' ∧ c ≠ '|' ∧ c ≠ '('

/-- What may be left after a name: neither a backslash that awaits its character nor the bar of a
namespace. -/
def EndsName (rest : List Char) : Prop :=
  rest ≠ ['\\'] ∧ ∀ c ∈ rest.head?, c ≠ '|'

variable {cs rest tail : List Char}

theorem isBoundary_cons {c : Char} (hc : isNameChar c = false ∧ c ≠ '\\' ∧ c ≠ '|' ∧ c ≠ '(')
    (cs : List Char) : IsBoundary (c :: cs) := by
  intro d hd
  obtain rfl := Option.some.inj hd
  exact hc

theorem IsBoundary.head_append (htail : IsBoundary tail) {c : Char} (hbar : c = '|' ∨ c = '(')
    (hrest : ∀ d ∈ rest.head?, d ≠ c) : ∀ d ∈ (rest ++ tail).head?, d ≠ c := by
  cases rest with
  | nil =>
    intro d hd
    rcases hbar with rfl | rfl
    · exact (htail d hd).2.2.1
    · exact (htail d hd).2.2.2
  | cons e rest => exact hrest

/-! ### Names -/

theorem takeName_of_isBoundary (htail : IsBoundary tail) : takeName tail = ([], tail) := by
  cases tail with
  | nil => rfl
  | cons c tail =>
    obtain ⟨hname, hback, -⟩ := htail c rfl
    rw [takeName]
    · simp [hname]
    · intro d more hc
      exact absurd hc hback

theorem takeName_append_of_isBoundary (htail : IsBoundary tail) (hrest : (takeName cs).2 ≠ ['\\']) :
    takeName (cs ++ tail) = ((takeName cs).1, (takeName cs).2 ++ tail) := by
  fun_induction takeName cs with
  | case1 => exact takeName_of_isBoundary htail
  | case2 rest => simp [takeName]
  | case3 c rest hc name after heq ih =>
    rw [heq] at ih
    simp [takeName, hc, ih hrest]
  | case4 c rest hnot hname name after heq ih =>
    rw [heq] at ih
    have hback : c ≠ '\\' := by
      rintro rfl
      exact absurd hname (by decide)
    rw [List.cons_append, takeName]
    · simp [hname, ih hrest]
    · intro d more hc
      exact absurd hc hback
  | case5 c rest hnot hname =>
    rw [List.cons_append, takeName]
    · simp [hname]
    · intro d more hc hmore
      cases rest with
      | nil => exact hrest (by rw [hc])
      | cons e rest => exact hnot e rest hc rfl

theorem startsName_append (h : startsName cs = true) (tail : List Char) :
    startsName (cs ++ tail) = true := by
  unfold startsName at h
  split at h
  · simpa [startsName] using h
  · rename_i c rest hnot
    have hback : c ≠ '\\' := by
      rintro rfl
      exact absurd h (by decide)
    rw [List.cons_append, startsName]
    · exact h
    · intro d more hc
      exact absurd hc hback
  · simp at h

theorem takeIdent?_append_isSome (h : (takeIdent? cs).isSome) (tail : List Char) :
    (takeIdent? (cs ++ tail)).isSome := by
  unfold takeIdent? at h
  split at h
  · simp [takeIdent?]
  · rename_i rest hnot
    have hstarts : startsName rest = true := by
      by_contra hstarts
      simp [hstarts] at h
    cases rest with
    | nil => simp [startsName] at hstarts
    | cons d rest =>
      have hd : d ≠ '-' := fun hd => hnot rest (by rw [hd])
      have := startsName_append hstarts tail
      rw [List.cons_append] at this
      simp [takeIdent?, hd, this]
  · rename_i hnot hnot'
    have hstarts : startsName cs = true := by
      by_contra hstarts
      simp [hstarts] at h
    cases cs with
    | nil => simp [startsName] at hstarts
    | cons c rest =>
      have hc : c ≠ '-' := fun hc => hnot' rest (by rw [hc])
      have := startsName_append hstarts tail
      rw [List.cons_append] at this
      simp [takeIdent?, hc, this]

theorem takeIdent?_append {name : List Char} (h : takeIdent? cs = some (name, rest))
    (htail : IsBoundary tail) (hrest : rest ≠ ['\\']) :
    takeIdent? (cs ++ tail) = some (name, rest ++ tail) := by
  obtain ⟨taken, htaken⟩ := Option.isSome_iff_exists.1
    (takeIdent?_append_isSome (by rw [h]; rfl) tail)
  have hname := (takeIdent?_eq_some h).1
  have hmore := (takeIdent?_eq_some htaken).1
  rw [takeName_append_of_isBoundary htail (by rw [← hname]; exact hrest), ← hname] at hmore
  rw [htaken, hmore]

/-! ### Element names and stars -/

theorem takeIdent?_star (cs : List Char) : takeIdent? ('*' :: cs) = none := rfl

theorem takeIdent?_bar (cs : List Char) : takeIdent? ('|' :: cs) = none := rfl

/-- What a namespace is read from. -/
theorem takeNamespace?_eq_some {space : List Char} (h : takeNamespace? cs = some (space, rest)) :
    (∃ name, takeIdent? cs = some (name, '|' :: rest) ∧ space = name ++ ['|']) ∨
      (cs = '*' :: '|' :: rest ∧ space = ['*', '|']) ∨ (cs = '|' :: rest ∧ space = ['|']) := by
  unfold takeNamespace? at h
  split at h
  · rename_i name after hname
    simp only [Option.some.injEq, Prod.mk.injEq] at h
    obtain ⟨rfl, rfl⟩ := h
    exact .inl ⟨name, hname, rfl⟩
  · split at h <;> simp_all

theorem takeNamespace?_append {space : List Char} (h : takeNamespace? cs = some (space, rest))
    (htail : IsBoundary tail) : takeNamespace? (cs ++ tail) = some (space, rest ++ tail) := by
  rcases takeNamespace?_eq_some h with ⟨name, hname, rfl⟩ | ⟨rfl, rfl⟩ | ⟨rfl, rfl⟩
  · have := takeIdent?_append hname htail (by simp)
    simp [takeNamespace?, this]
  · simp [takeNamespace?, takeIdent?_star]
  · simp [takeNamespace?, takeIdent?_bar]

/-- A name that no bar follows is no namespace. -/
theorem takeNamespace?_of_takeIdent? {name : List Char} (h : takeIdent? cs = some (name, rest))
    (hrest : ∀ c ∈ rest.head?, c ≠ '|') : takeNamespace? cs = none := by
  by_contra hspace
  obtain ⟨⟨space, after⟩, hspace⟩ := Option.ne_none_iff_exists'.1 hspace
  rcases takeNamespace?_eq_some hspace with ⟨name', hname, -⟩ | ⟨rfl, -⟩ | ⟨rfl, -⟩
  · rw [h] at hname
    simp only [Option.some.injEq, Prod.mk.injEq] at hname
    exact hrest '|' (by rw [hname.2]; rfl) rfl
  · simp [takeIdent?_star] at h
  · simp [takeIdent?_bar] at h

theorem takeElement?_append {name : List Char} (h : takeElement? cs = some (name, rest))
    (htail : IsBoundary tail) (hrest : EndsName rest) :
    takeElement? (cs ++ tail) = some (name, rest ++ tail) := by
  obtain ⟨hback, hbar⟩ := hrest
  unfold takeElement? at h ⊢
  rcases Option.or_eq_some_iff.1 h with hqualified | ⟨-, hplain⟩
  · obtain ⟨⟨space, after⟩, hspace, hname⟩ := Option.bind_eq_some_iff.1 hqualified
    obtain ⟨⟨ident, more⟩, hident, heq⟩ := Option.bind_eq_some_iff.1 hname
    simp only [Option.pure_def, Option.some.injEq, Prod.mk.injEq] at heq
    obtain ⟨rfl, rfl⟩ := heq
    have hspace := takeNamespace?_append hspace htail
    have hident := takeIdent?_append hident htail hback
    simp [hspace, hident]
  · have hplain := takeIdent?_append hplain htail hback
    have hspace := takeNamespace?_of_takeIdent? hplain (htail.head_append (.inl rfl) hbar)
    simp [hspace, hplain]

/-- What a star is read from, if no element name can be read. -/
theorem takeUniversal?_eq_some {star : List Char} (hno : takeElement? cs = none)
    (h : takeUniversal? cs = some (star, rest)) :
    (cs = '*' :: rest ∧ star = ['*']) ∨ (cs = '*' :: '|' :: '*' :: rest ∧ star = ['*', '|', '*']) ∨
      (cs = '|' :: '*' :: rest ∧ star = ['|', '*']) := by
  have htakeStar : ∀ {cs star rest : List Char}, takeStar? cs = some (star, rest) →
      cs = '*' :: rest ∧ star = ['*'] := by
    intro cs star rest h
    unfold takeStar? at h
    split at h <;> simp_all
  have hident : takeIdent? cs = none := (Option.or_eq_none_iff.1 hno).2
  rcases Option.or_eq_some_iff.1 h with hqualified | ⟨-, hplain⟩
  · obtain ⟨⟨space, after⟩, hspace, hstar⟩ := Option.bind_eq_some_iff.1 hqualified
    obtain ⟨⟨sign, more⟩, hsign, heq⟩ := Option.bind_eq_some_iff.1 hstar
    simp only [Option.pure_def, Option.some.injEq, Prod.mk.injEq] at heq
    obtain ⟨rfl, rfl⟩ := heq
    obtain ⟨rfl, rfl⟩ := htakeStar hsign
    rcases takeNamespace?_eq_some hspace with ⟨name, hname, -⟩ | ⟨rfl, rfl⟩ | ⟨rfl, rfl⟩
    · simp [hident] at hname
    · exact .inr (.inl ⟨rfl, rfl⟩)
    · exact .inr (.inr ⟨rfl, rfl⟩)
  · exact .inl (htakeStar hplain)

theorem readSubject?_append {token : Token} (h : readSubject? cs = some (token, rest))
    (htail : IsBoundary tail) (hrest : EndsName rest) :
    readSubject? (cs ++ tail) = some (token, rest ++ tail) := by
  unfold readSubject? at h
  rcases Option.or_eq_some_iff.1 h with helement | ⟨hno, hstar⟩
  · obtain ⟨⟨name, after⟩, hname, heq⟩ := Option.map_eq_some_iff.1 helement
    simp only [Prod.mk.injEq] at heq
    obtain ⟨rfl, rfl⟩ := heq
    have hname := takeElement?_append hname htail hrest
    simp [readSubject?, hname]
  · obtain ⟨⟨star, after⟩, htaken, heq⟩ := Option.map_eq_some_iff.1 hstar
    simp only [Prod.mk.injEq] at heq
    obtain ⟨rfl, rfl⟩ := heq
    rcases takeUniversal?_eq_some (Option.map_eq_none_iff.1 hno) htaken with
      ⟨rfl, rfl⟩ | ⟨rfl, rfl⟩ | ⟨rfl, rfl⟩
    · -- no bar may follow the star, in the text or behind it
      have hbar := htail.head_append (.inl rfl) hrest.2
      have hspace : takeNamespace? ('*' :: (after ++ tail)) = none := by
        by_contra hspace
        obtain ⟨⟨space, more⟩, hspace⟩ := Option.ne_none_iff_exists'.1 hspace
        rcases takeNamespace?_eq_some hspace with ⟨name, hname, -⟩ | ⟨heq, -⟩ | ⟨heq, -⟩
        · simp [takeIdent?_star] at hname
        · simp only [List.cons.injEq, true_and] at heq
          exact hbar '|' (by rw [heq]; rfl) rfl
        · simp at heq
      simp [readSubject?, takeElement?, takeUniversal?, hspace, takeIdent?_star, takeStar?]
    · simp [readSubject?, takeElement?, takeUniversal?, takeNamespace?, takeIdent?_star, takeStar?]
    · simp [readSubject?, takeElement?, takeUniversal?, takeNamespace?, takeIdent?_star,
        takeIdent?_bar, takeStar?]

/-! ### Pseudo-classes and pseudo-elements -/

/-- What a text holds up to a stop does not depend on what follows. -/
theorem span_append {p : Char → Bool} {c : Char} (h : cs.dropWhile p = c :: rest)
    (tail : List Char) :
    (cs ++ tail).dropWhile p = c :: (rest ++ tail) ∧ (cs ++ tail).takeWhile p = cs.takeWhile p := by
  have hlen := congrArg List.length (List.takeWhile_append_dropWhile (p := p) (l := cs))
  rw [List.length_append, h, List.length_cons] at hlen
  rw [List.dropWhile_append, List.takeWhile_append, h, if_neg (by simp), if_neg (by omega)]
  exact ⟨rfl, rfl⟩

theorem takeArgument?_append {argument : List Char} (h : takeArgument? cs = some (argument, rest))
    (tail : List Char) : takeArgument? (cs ++ tail) = some (argument, rest ++ tail) := by
  simp only [takeArgument?] at h ⊢
  split at h <;> simp only [Option.some.injEq, reduceCtorEq, Prod.mk.injEq] at h
  rename_i after hafter
  obtain ⟨rfl, rfl⟩ := h
  obtain ⟨hdrop, htake⟩ := span_append hafter tail
  rw [hdrop, htake]
  rfl

theorem readNamed?_append {node : String → Option String → Node} {token : Token}
    (h : readNamed? node cs = some (token, rest)) (htail : IsBoundary tail)
    (hrest : EndsName rest) :
    readNamed? node (cs ++ tail) = some (token, rest ++ tail) := by
  unfold readNamed? at h
  split at h
  · simp at h
  · rename_i ident body hident
    obtain ⟨⟨argument, after⟩, hargument, heq⟩ := Option.map_eq_some_iff.1 h
    simp only [Prod.mk.injEq] at heq
    obtain ⟨rfl, rfl⟩ := heq
    have hident := takeIdent?_append hident htail (by simp)
    have hargument := takeArgument?_append hargument tail
    simp [readNamed?, hident, hargument]
  · rename_i ident after hnot hident
    simp only [Option.some.injEq, Prod.mk.injEq] at h
    obtain ⟨rfl, rfl⟩ := h
    have hparen : ∀ c ∈ after.head?, c ≠ '(' := by
      rintro c hc rfl
      obtain ⟨body, rfl⟩ := List.head?_eq_some_iff.1 hc
      exact hnot body rfl
    have hident := takeIdent?_append hident htail hrest.1
    have hparen := htail.head_append (.inr rfl) hparen
    unfold readNamed?
    rw [hident]
    split
    · simp_all
    · rename_i body heq
      simp only [Option.some.injEq, Prod.mk.injEq] at heq
      exact absurd rfl (hparen '(' (by rw [heq.2]; rfl))
    · simp_all

/-- A name is read as one part, which its reader makes of it. -/
theorem readNamed?_eq_part {node : String → Option String → Node} {token : Token}
    (h : readNamed? node cs = some (token, rest)) :
    ∃ name argument, token = .part (node name argument) := by
  unfold readNamed? at h
  split at h
  · simp at h
  · obtain ⟨taken, -, heq⟩ := Option.map_eq_some_iff.1 h
    exact ⟨_, _, (Prod.mk.inj heq).1.symm⟩
  · exact ⟨_, _, (Prod.mk.inj (Option.some.inj h)).1.symm⟩

/-! ### Opening parentheses -/

theorem isFormOf_of_not_isNameChar {letter c : Char} (hletter : letter.isLower = true)
    (hc : isNameChar c = false) : Text.isFormOf letter c = false := by
  have hbeyond : ¬ 0x7F < c.toNat := by
    intro hbeyond
    simp [isNameChar, hbeyond] at hc
  have halpha : c.isAlpha = false := by
    by_contra halpha
    simp [isNameChar, Char.isAlphanum, halpha] at hc
  obtain ⟨hupper, hnotLower⟩ : c.isUpper = false ∧ c.isLower = false :=
    Bool.or_eq_false_iff.1 halpha
  have hlower : c.toLower = c := dif_neg fun h => by
    have : c.isUpper = true := decide_eq_true h
    simp [hupper] at this
  have hne : c ≠ letter := by
    rintro rfl
    simp [hletter] at hnotLower
  have hforms : c ≠ '\u0130' ∧ c ≠ '\u0131' ∧ c ≠ '\u017f' := by
    refine ⟨?_, ?_, ?_⟩ <;>
      · rintro rfl
        exact hbeyond (by decide)
  simp [Text.isFormOf, hlower, hne, hforms]

theorem dropWord?_append {letters : List Char} (hletters : ∀ l ∈ letters, l.isLower = true)
    (htail : IsBoundary tail) :
    Text.dropWord? letters (cs ++ tail) = (Text.dropWord? letters cs).map (· ++ tail) := by
  fun_induction Text.dropWord? letters cs with
  | case1 cs => simp [Text.dropWord?]
  | case2 letter letters c cs hform ih =>
    rw [List.cons_append, Text.dropWord?, if_pos hform]
    exact ih fun l hl => hletters l (List.mem_cons_of_mem letter hl)
  | case3 letter letters c cs hform =>
    rw [List.cons_append, Text.dropWord?, if_neg hform, Option.map_none]
  | case4 letter letters =>
    cases tail with
    | nil => rfl
    | cons c tail =>
      have := isFormOf_of_not_isNameChar (hletters letter (by simp)) (htail c rfl).1
      simp [Text.dropWord?, this]

theorem dropWord?_length {letters : List Char} (h : Text.dropWord? letters cs = some rest) :
    letters.length + rest.length = cs.length := by
  fun_induction Text.dropWord? letters cs with
  | case1 cs => simp_all
  | case2 letter letters c cs hform ih =>
    have := ih h
    simp only [List.length_cons]
    omega
  | case3 | case4 => simp at h

/-- The name `name` of a pseudo-class that takes selectors, if its parenthesis opens after it. -/
def takeOpening? (cs : List Char) (name : String) : Option (List Char × List Char) :=
  match Text.dropWord? name.toList cs with
  | some ('(' :: rest) => some (cs.take name.length, Text.trimStart rest)
  | _ => none

theorem takeLogical?_eq (cs : List Char) :
    takeLogical? cs = logicalNames.findSome? (takeOpening? cs) := rfl

theorem takeOpening?_eq_some {name : String} {taken : List Char}
    (h : takeOpening? cs name = some (taken, rest)) :
    ∃ after, Text.dropWord? name.toList cs = some ('(' :: after) ∧ taken = cs.take name.length ∧
      rest = Text.trimStart after := by
  unfold takeOpening? at h
  split at h
  · rename_i after hafter
    simp only [Option.some.injEq, Prod.mk.injEq] at h
    exact ⟨after, hafter, h.1.symm, h.2.symm⟩
  · simp at h

theorem isLower_of_mem_logicalNames {name : String} (h : name ∈ logicalNames) :
    ∀ l ∈ name.toList, l.isLower = true := by
  have hall : (logicalNames.all fun name => name.toList.all Char.isLower) = true := by decide
  exact List.all_eq_true.1 (List.all_eq_true.1 hall name h)

theorem takeOpening?_append_eq_none {name : String} (hname : name ∈ logicalNames)
    (htail : IsBoundary tail) (h : takeOpening? cs name = none) :
    takeOpening? (cs ++ tail) name = none := by
  have hdrop : Text.dropWord? name.toList (cs ++ tail) =
      (Text.dropWord? name.toList cs).map (· ++ tail) :=
    dropWord?_append (isLower_of_mem_logicalNames hname) htail
  by_contra hsome
  obtain ⟨⟨taken, rest⟩, hsome⟩ := Option.ne_none_iff_exists'.1 hsome
  obtain ⟨after, hafter, -, -⟩ := takeOpening?_eq_some hsome
  rw [hdrop] at hafter
  obtain ⟨more, hmore, heq⟩ := Option.map_eq_some_iff.1 hafter
  cases more with
  | nil => exact absurd rfl (htail '(' (by rw [List.nil_append] at heq; rw [heq]; rfl)).2.2.2
  | cons c more =>
    simp only [List.cons_append, List.cons.injEq] at heq
    simp [takeOpening?, hmore, heq.1] at h

theorem takeOpening?_append {name : String} {taken : List Char} (hname : name ∈ logicalNames)
    (htail : IsBoundary tail) (hrest : rest ≠ []) (h : takeOpening? cs name = some (taken, rest)) :
    takeOpening? (cs ++ tail) name = some (taken, rest ++ tail) := by
  obtain ⟨after, hafter, rfl, rfl⟩ := takeOpening?_eq_some h
  have hdrop : Text.dropWord? name.toList (cs ++ tail) =
      (Text.dropWord? name.toList cs).map (· ++ tail) :=
    dropWord?_append (isLower_of_mem_logicalNames hname) htail
  have hlength := dropWord?_length hafter
  rw [hafter, Option.map_some, List.cons_append] at hdrop
  rw [String.length_toList] at hlength
  simp only [takeOpening?, hdrop]
  rw [List.take_append_of_le_length (by omega), Text.trimStart_append hrest]

theorem takeLogical?_append {taken : List Char} (htail : IsBoundary tail) (hrest : rest ≠ [])
    (h : takeLogical? cs = some (taken, rest)) :
    takeLogical? (cs ++ tail) = some (taken, rest ++ tail) := by
  rw [takeLogical?_eq, List.findSome?_eq_some_iff] at h
  obtain ⟨before, name, after, hnames, hname, hbefore⟩ := h
  rw [takeLogical?_eq, List.findSome?_eq_some_iff]
  refine ⟨before, name, after, hnames, ?_, ?_⟩
  · exact takeOpening?_append (by simp [hnames]) htail hrest hname
  · intro other hother
    exact takeOpening?_append_eq_none (by simp [hnames, hother]) htail (hbefore other hother)

theorem takeLogical?_append_eq_none (htail : IsBoundary tail) (h : takeLogical? cs = none) :
    takeLogical? (cs ++ tail) = none := by
  rw [takeLogical?_eq, List.findSome?_eq_none_iff] at h ⊢
  exact fun name hname => takeOpening?_append_eq_none hname htail (h name hname)

/-! ### Tokens -/

/-- What a token may leave for those after it: something that is not blank where a compound has to
follow, and otherwise what ends a name. -/
def Settled (context : Context) (rest : List Char) : Prop :=
  match context with
  | .inside => EndsName rest
  | _ => rest ≠ [] ∧ Text.trimStart rest = rest

theorem readPseudoClass?_append {token : Token} (h : readPseudoClass? cs = some (token, rest))
    (htail : IsBoundary tail) (hrest : Settled token.next rest) :
    readPseudoClass? (cs ++ tail) = some (token, rest ++ tail) := by
  unfold readPseudoClass? at h ⊢
  rcases Option.or_eq_some_iff.1 h with hlogical | ⟨hno, hnamed⟩
  · obtain ⟨⟨name, after⟩, hname, heq⟩ := Option.map_eq_some_iff.1 hlogical
    simp only [Prod.mk.injEq] at heq
    obtain ⟨rfl, rfl⟩ := heq
    have hname := takeLogical?_append htail hrest.1 hname
    simp [hname]
  · have hno := takeLogical?_append_eq_none htail (Option.map_eq_none_iff.1 hno)
    obtain ⟨name, argument, rfl⟩ := readNamed?_eq_part hnamed
    have hnamed := readNamed?_append hnamed htail hrest
    simp [hno, hnamed]

theorem readPart?_append {token : Token} (h : readPart? cs = some (token, rest))
    (htail : IsBoundary tail) (hrest : Settled token.next rest) :
    readPart? (cs ++ tail) = some (token, rest ++ tail) := by
  unfold readPart? at h
  split at h
  · rename_i cs
    dsimp only at h
    split at h <;> simp only [Option.some.injEq, reduceCtorEq, Prod.mk.injEq] at h
    rename_i hne
    obtain ⟨rfl, rfl⟩ := h
    have hname := takeName_append_of_isBoundary htail hrest.1
    simp only [List.cons_append, readPart?, hname, hne, Bool.false_eq_true, if_false]
  · rename_i cs
    obtain ⟨⟨name, after⟩, hname, heq⟩ := Option.map_eq_some_iff.1 h
    simp only [Prod.mk.injEq] at heq
    obtain ⟨rfl, rfl⟩ := heq
    have hname := takeIdent?_append hname htail hrest.1
    simp [readPart?, hname]
  · rename_i cs
    split at h <;> simp only [Option.some.injEq, reduceCtorEq, Prod.mk.injEq] at h
    rename_i after hafter
    obtain ⟨rfl, rfl⟩ := h
    obtain ⟨hdrop, htake⟩ := span_append hafter tail
    simp only [List.cons_append, readPart?, hdrop, htake]
  · rename_i cs
    obtain ⟨name, argument, rfl⟩ := readNamed?_eq_part h
    have hnamed := readNamed?_append h htail hrest
    simpa [readPart?, readPseudoElement?] using hnamed
  · rename_i cs hnot
    cases cs with
    | nil => simp [readPseudoClass?, takeLogical?_eq, readNamed?, takeIdent?, startsName,
        takeOpening?, logicalNames, Text.dropWord?] at h
    | cons c cs =>
      have hc : c ≠ ':' := fun hc => hnot cs (by rw [hc])
      have := readPseudoClass?_append h htail hrest
      rw [List.cons_append] at this
      simp [readPart?, hc, this]
  · simp at h

/-- An element name or a star begins with none of the signs of the other parts. -/
theorem readPart?_eq_none_of_readSubject? (h : (readSubject? cs).isSome) : readPart? cs = none := by
  unfold readPart?
  split <;> first
    | rfl
    | simp [readSubject?, takeElement?, takeUniversal?, takeNamespace?, takeIdent?, takeStar?,
        startsName, isNameStart] at h

theorem readSubject?_eq_part {token : Token} (h : readSubject? cs = some (token, rest)) :
    ∃ name, token = .part (.element name) ∨ token = .part (.universal name) := by
  rcases Option.or_eq_some_iff.1 h with h | ⟨-, h⟩
  · obtain ⟨taken, -, heq⟩ := Option.map_eq_some_iff.1 h
    exact ⟨_, .inl (Prod.mk.inj heq).1.symm⟩
  · obtain ⟨taken, -, heq⟩ := Option.map_eq_some_iff.1 h
    exact ⟨_, .inr (Prod.mk.inj heq).1.symm⟩

/-- What an element name or a star leaves ends a name. -/
theorem endsName_of_readSubject? {token : Token} (h : readSubject? cs = some (token, rest))
    (hrest : Settled token.next rest) : EndsName rest := by
  obtain ⟨name, rfl | rfl⟩ := readSubject?_eq_part h <;> exact hrest

theorem readCompound?_append {token : Token} (h : readCompound? cs = some (token, rest))
    (htail : IsBoundary tail) (hrest : Settled token.next rest) :
    readCompound? (cs ++ tail) = some (token, rest ++ tail) := by
  unfold readCompound? at h ⊢
  rcases Option.or_eq_some_iff.1 h with hpart | ⟨-, hsubject⟩
  · rw [readPart?_append hpart htail hrest, Option.some_or]
  · have hsubject := readSubject?_append hsubject htail (endsName_of_readSubject? hsubject hrest)
    have hno := readPart?_eq_none_of_readSubject? (by rw [hsubject]; rfl)
    rw [hno, hsubject, Option.none_or]

/-! ### Signs and blanks -/

/-- What follows a text that is not blank does not change which character it begins with. -/
theorem trimStart_append_eq_cons (h : Text.trimStart cs ≠ []) (tail : List Char) :
    ∃ c more, Text.trimStart cs = c :: more ∧
      Text.trimStart (cs ++ tail) = c :: (more ++ tail) := by
  obtain ⟨c, more, hcs⟩ := List.exists_cons_of_ne_nil h
  refine ⟨c, more, hcs, ?_⟩
  rw [Text.trimStart_append h, hcs, List.cons_append]

theorem readSign?_eq_some {token : Token} (h : readSign? cs = some (token, rest)) :
    Text.trimStart cs ≠ [] ∧ token.next = .compound ∧ Text.trimStart rest = rest := by
  unfold readSign? at h
  split at h <;> simp only [Option.some.injEq, reduceCtorEq, Prod.mk.injEq] at h <;>
    obtain ⟨rfl, rfl⟩ := h <;> simp_all [Token.next]

theorem readSign?_append {token : Token} (h : readSign? cs = some (token, rest)) (hrest : rest ≠ [])
    (tail : List Char) : readSign? (cs ++ tail) = some (token, rest ++ tail) := by
  have hcs := Text.trimStart_append (readSign?_eq_some h).1 tail
  unfold readSign? at h ⊢
  split at h <;> simp only [Option.some.injEq, reduceCtorEq, Prod.mk.injEq] at h <;>
    obtain ⟨rfl, rfl⟩ := h <;> simp_all [Text.trimStart_append]

theorem readSign?_append_eq_none (h : readSign? cs = none) (hcs : Text.trimStart cs ≠ [])
    (tail : List Char) : readSign? (cs ++ tail) = none := by
  obtain ⟨c, more, hcs, happend⟩ := trimStart_append_eq_cons hcs tail
  unfold readSign? at h ⊢
  rw [hcs] at h
  rw [happend]
  split at h <;> simp_all

theorem trimStart_ne_nil_of_readDelimiter? {token : Token}
    (h : readDelimiter? cs = some (token, rest)) : Text.trimStart cs ≠ [] := by
  unfold readDelimiter? at h
  split at h <;> simp_all

theorem readDelimiter?_append {token : Token} (h : readDelimiter? cs = some (token, rest))
    (hrest : Settled token.next rest) (tail : List Char) :
    readDelimiter? (cs ++ tail) = some (token, rest ++ tail) := by
  have hcs := Text.trimStart_append (trimStart_ne_nil_of_readDelimiter? h) tail
  unfold readDelimiter? at h
  split at h <;> simp only [Option.some.injEq, reduceCtorEq, Prod.mk.injEq] at h
  · rename_i after hafter
    obtain ⟨rfl, rfl⟩ := h
    simp [readDelimiter?, hcs, hafter, Text.trimStart_append hrest.1]
  · rename_i after hafter
    obtain ⟨rfl, rfl⟩ := h
    simp [readDelimiter?, hcs, hafter]

theorem readDelimiter?_append_eq_none (h : readDelimiter? cs = none) (hcs : Text.trimStart cs ≠ [])
    (tail : List Char) : readDelimiter? (cs ++ tail) = none := by
  obtain ⟨c, more, hcs, happend⟩ := trimStart_append_eq_cons hcs tail
  unfold readDelimiter? at h ⊢
  rw [hcs] at h
  rw [happend]
  split at h <;> simp_all

theorem readPart?_of_isBlank {c : Char} (hc : Text.isBlank c = true) (cs : List Char) :
    readPart? (c :: cs) = none := by
  unfold readPart?
  split <;> simp_all [Text.isBlank]

theorem trimStart_ne_nil_of_readPart? {token : Token} (h : readPart? cs = some (token, rest)) :
    Text.trimStart cs ≠ [] := by
  cases cs with
  | nil => simp [readPart?] at h
  | cons c cs =>
    cases hc : Text.isBlank c with
    | false => simp [Text.trimStart_cons_of_not_isBlank hc]
    | true => simp [readPart?_of_isBlank hc] at h

/-! ### What a token leaves -/

/-- Blanks before a compound are taken by the token before it. -/
theorem trimStart_of_readPart? {token : Token} (h : readPart? cs = some (token, rest))
    (hnext : token.next ≠ .inside) : Text.trimStart rest = rest := by
  have hnot : ∀ node, token ≠ .part node := by
    rintro node rfl
    exact hnext rfl
  unfold readPart? at h
  split at h
  · dsimp only at h
    split at h <;> simp only [Option.some.injEq, reduceCtorEq, Prod.mk.injEq] at h
    exact absurd h.1.symm (hnot _)
  · obtain ⟨taken, -, heq⟩ := Option.map_eq_some_iff.1 h
    exact absurd (Prod.mk.inj heq).1.symm (hnot _)
  · split at h <;> simp only [Option.some.injEq, reduceCtorEq, Prod.mk.injEq] at h
    exact absurd h.1.symm (hnot _)
  · obtain ⟨name, argument, hnode⟩ := readNamed?_eq_part h
    exact absurd hnode (hnot _)
  · rcases Option.or_eq_some_iff.1 h with hlogical | ⟨-, hnamed⟩
    · obtain ⟨⟨name, after⟩, hname, heq⟩ := Option.map_eq_some_iff.1 hlogical
      obtain ⟨opening, -, hopening⟩ := List.exists_of_findSome?_eq_some (takeLogical?_eq _ ▸ hname)
      obtain ⟨inner, -, -, rfl⟩ := takeOpening?_eq_some hopening
      rw [← (Prod.mk.inj heq).2]
      exact Text.trimStart_trimStart inner
    · obtain ⟨name, argument, hnode⟩ := readNamed?_eq_part hnamed
      exact absurd hnode (hnot _)
  · simp at h

theorem trimStart_of_readDelimiter? {token : Token} (h : readDelimiter? cs = some (token, rest))
    (hnext : token.next ≠ .inside) : Text.trimStart rest = rest := by
  unfold readDelimiter? at h
  split at h <;> simp only [Option.some.injEq, reduceCtorEq, Prod.mk.injEq] at h
  · rw [← h.2]
    exact Text.trimStart_trimStart _
  · rw [← h.1] at hnext
    exact absurd rfl hnext

theorem readBlanks?_eq_some {token : Token} (h : readBlanks? cs = some (token, rest)) :
    (∃ c more, cs = c :: more ∧ Text.isBlank c = true) ∧ token = .combinator .descendant ∧
      rest = Text.trimStart cs := by
  unfold readBlanks? at h
  split at h
  · split at h <;> simp_all
  · simp at h

theorem readCompound?_trimStart {token : Token} (h : readCompound? cs = some (token, rest))
    (hnext : token.next ≠ .inside) : Text.trimStart rest = rest := by
  rcases Option.or_eq_some_iff.1 h with hpart | ⟨-, hsubject⟩
  · exact trimStart_of_readPart? hpart hnext
  · obtain ⟨name, rfl | rfl⟩ := readSubject?_eq_part hsubject <;> exact absurd rfl hnext

theorem trimStart_of_read? {context : Context} {token : Token}
    (h : read? context cs = some (token, rest)) (hnext : token.next ≠ .inside) :
    Text.trimStart rest = rest := by
  match context with
  | .compound => exact readCompound?_trimStart h hnext
  | .relative =>
    rcases Option.or_eq_some_iff.1 h with hsign | ⟨-, hcompound⟩
    · exact (readSign?_eq_some hsign).2.2
    · exact readCompound?_trimStart hcompound hnext
  | .inside =>
    rcases Option.or_eq_some_iff.1 h with h | ⟨-, hblanks⟩
    · rcases Option.or_eq_some_iff.1 h with h | ⟨-, hpart⟩
      · rcases Option.or_eq_some_iff.1 h with hsign | ⟨-, hdelimiter⟩
        · exact (readSign?_eq_some hsign).2.2
        · exact trimStart_of_readDelimiter? hdelimiter hnext
      · exact trimStart_of_readPart? hpart hnext
    · rw [(readBlanks?_eq_some hblanks).2.2]
      exact Text.trimStart_trimStart cs

theorem tokens?_of_read?_eq_none {context : Context} {c : Char}
    (h : read? context (c :: cs) = none) :
    tokens? context (c :: cs) = none := by
  rw [tokens?]
  split <;> simp_all

theorem endsName_of_tokens? {tokens : List Token} (h : tokens? .inside rest = some tokens) :
    EndsName rest := by
  constructor
  · rintro rfl
    rw [tokens?_of_read?_eq_none (by decide)] at h
    simp at h
  · rintro c hc rfl
    obtain ⟨more, rfl⟩ := List.head?_eq_some_iff.1 hc
    rw [tokens?_of_read?_eq_none rfl] at h
    simp at h

/-- Where tokens follow, a token has left what settles it. -/
theorem settled_of_tokens? {context : Context} {token : Token} {tokens : List Token}
    (h : read? context cs = some (token, rest)) (hrest : tokens? token.next rest = some tokens) :
    Settled token.next rest := by
  have htrim := trimStart_of_read? h
  revert htrim hrest
  cases token.next with
  | inside => exact fun hrest _ => endsName_of_tokens? hrest
  | compound =>
    intro hrest htrim
    refine ⟨?_, htrim (by simp)⟩
    rintro rfl
    simp at hrest
  | relative =>
    intro hrest htrim
    refine ⟨?_, htrim (by simp)⟩
    rintro rfl
    simp [tokens?] at hrest

/-! ### Texts -/

/-- A token is read alike whatever follows. -/
theorem read?_append {context : Context} {token : Token}
    (h : read? context cs = some (token, rest)) (htail : IsBoundary tail)
    (hcs : context ≠ .inside → Text.trimStart cs = cs) (hrest : Settled token.next rest) :
    read? context (cs ++ tail) = some (token, rest ++ tail) := by
  match context with
  | .compound => exact readCompound?_append h htail hrest
  | .relative =>
    simp only [read?] at h ⊢
    rcases Option.or_eq_some_iff.1 h with hsign | ⟨hno, hcompound⟩
    · have hnext := (readSign?_eq_some hsign).2.1
      rw [hnext] at hrest
      rw [readSign?_append hsign hrest.1 tail, Option.some_or]
    · have hcs : Text.trimStart cs ≠ [] := by
        rw [hcs (by simp)]
        rintro rfl
        exact absurd (readCompound?_consumes hcompound) (by simp)
      rw [readSign?_append_eq_none hno hcs tail, readCompound?_append hcompound htail hrest,
        Option.none_or]
  | .inside =>
    simp only [read?] at h ⊢
    rcases Option.or_eq_some_iff.1 h with h | ⟨hno, hblanks⟩
    · rcases Option.or_eq_some_iff.1 h with h | ⟨hno, hpart⟩
      · rcases Option.or_eq_some_iff.1 h with hsign | ⟨hno, hdelimiter⟩
        · have hnext := (readSign?_eq_some hsign).2.1
          rw [hnext] at hrest
          rw [readSign?_append hsign hrest.1 tail, Option.some_or, Option.some_or, Option.some_or]
        · have hcs := trimStart_ne_nil_of_readDelimiter? hdelimiter
          rw [readSign?_append_eq_none hno hcs tail, readDelimiter?_append hdelimiter hrest tail,
            Option.none_or, Option.some_or, Option.some_or]
      · have hcs := trimStart_ne_nil_of_readPart? hpart
        obtain ⟨hsign, hdelimiter⟩ := Option.or_eq_none_iff.1 hno
        rw [readSign?_append_eq_none hsign hcs tail,
          readDelimiter?_append_eq_none hdelimiter hcs tail,
          readPart?_append hpart htail hrest, Option.none_or, Option.none_or, Option.some_or]
    · obtain ⟨⟨c, more, rfl, hc⟩, rfl, rfl⟩ := readBlanks?_eq_some hblanks
      have hcs : Text.trimStart (c :: more) ≠ [] := hrest.1
      obtain ⟨⟨hsign, hdelimiter⟩, -⟩ := (Option.or_eq_none_iff.1 hno).imp_left
        Option.or_eq_none_iff.1
      rw [readSign?_append_eq_none hsign hcs tail,
        readDelimiter?_append_eq_none hdelimiter hcs tail,
        List.cons_append, readPart?_of_isBlank hc, Option.none_or, Option.none_or, Option.none_or,
        readBlanks?, if_pos hc, ← List.cons_append, Text.trimStart_append hcs]

/-- The tokens of a text are those of its beginning and those of what follows. -/
theorem tokens?_append {context : Context} {tokens : List Token}
    (h : tokens? context cs = some tokens) (htail : IsBoundary tail)
    (hcs : context ≠ .inside → Text.trimStart cs = cs) :
    tokens? context (cs ++ tail) = (tokens? .inside tail).map (tokens ++ ·) := by
  fun_induction tokens? context cs generalizing tokens with
  | case1 =>
    obtain rfl := Option.some.inj h
    simp
  | case2 | case3 => simp at h
  | case4 context c more token rest hread ih =>
    obtain ⟨later, hlater, rfl⟩ := Option.map_eq_some_iff.1 h
    have happend := read?_append hread htail hcs (settled_of_tokens? hread hlater)
    rw [tokens?_of_read? happend, ih hlater (trimStart_of_read? hread), Option.map_map]
    rfl

end StyleGauge.Selector
