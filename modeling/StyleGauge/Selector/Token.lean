import StyleGauge.Selector.Node
import StyleGauge.Text.Blank

/-!
# Tokens of a selector

A selector is read from left to right, one token at a time. Which tokens are possible depends only
on the token before: an element name or a star begins a compound and stands nowhere else, and
blanks are a combinator unless a sign follows that absorbs them. The first possible token is
taken, and there is no going back.
-/

namespace StyleGauge.Selector

/-- A token. -/
inductive Token where
  /-- A part of a compound. -/
  | part (node : Node)
  | combinator (kind : Combinator)
  /-- The name and opening parenthesis of a pseudo-class that takes selectors. -/
  | opening (name : String)
  | comma
  | closing
  deriving Repr

/-- What may come next. -/
inductive Context where
  /-- A compound. -/
  | compound
  /-- A compound, or a combinator that leads one. -/
  | relative
  /-- A further part of a compound, a combinator, a comma, a parenthesis, or the end. -/
  | inside
  deriving DecidableEq, Repr

/-- What may come after a token. -/
def Token.next : Token → Context
  | part _ | closing => .inside
  | combinator _ => .compound
  | opening _ | comma => .relative

namespace Token

/-! ### Names -/

/-- The characters of a name: letters, digits, hyphens, underscores and everything beyond ASCII. -/
def isNameChar (c : Char) : Bool :=
  c.isAlphanum || c == '_' || c == '-' || 0x7F < c.toNat

/-- The characters that a name may begin with. -/
def isNameStart (c : Char) : Bool :=
  c.isAlpha || c == '_' || 0x7F < c.toNat

/-- The longest name part at the start of a text, and the rest. A backslash makes any character
but a line end part of a name. -/
def takeName : List Char → List Char × List Char
  | [] => ([], [])
  | '\\' :: c :: rest =>
    if c = '\n' then ([], '\\' :: c :: rest)
    else
      let (name, after) := takeName rest
      ('\\' :: c :: name, after)
  | c :: rest =>
    if isNameChar c then
      let (name, after) := takeName rest
      (c :: name, after)
    else ([], c :: rest)

/-- Whether a text begins with a character, plain or escaped, that a name may begin with. -/
def startsName : List Char → Bool
  | '\\' :: c :: _ => c != '\n'
  | c :: _ => isNameStart c
  | [] => false

/-- The identifier at the start of a text, and the rest. An identifier begins with two hyphens, or
with a name start after at most one hyphen. -/
def takeIdent? (cs : List Char) : Option (List Char × List Char) :=
  match cs with
  | '-' :: '-' :: _ => some (takeName cs)
  | '-' :: rest => if startsName rest then some (takeName cs) else none
  | _ => if startsName cs then some (takeName cs) else none

/-- A namespace with its bar at the start of a text: an identifier, a star or nothing before it. -/
def takeNamespace? (cs : List Char) : Option (List Char × List Char) :=
  match takeIdent? cs with
  | some (name, '|' :: rest) => some (name ++ ['|'], rest)
  | _ =>
    match cs with
    | '*' :: '|' :: rest => some (['*', '|'], rest)
    | '|' :: rest => some (['|'], rest)
    | _ => none

/-- An element name at the start of a text, with its namespace if one can be read. -/
def takeElement? (cs : List Char) : Option (List Char × List Char) :=
  let qualified := do
    let (space, rest) ← takeNamespace? cs
    let (name, after) ← takeIdent? rest
    return (space ++ name, after)
  qualified.or (takeIdent? cs)

/-- A star at the start of a text. -/
def takeStar? : List Char → Option (List Char × List Char)
  | '*' :: rest => some (['*'], rest)
  | _ => none

/-- A star at the start of a text, with its namespace if one can be read. -/
def takeUniversal? (cs : List Char) : Option (List Char × List Char) :=
  let qualified := do
    let (space, rest) ← takeNamespace? cs
    let (star, after) ← takeStar? rest
    return (space ++ star, after)
  qualified.or (takeStar? cs)

/-! ### Pseudo-classes and pseudo-elements -/

/-- The name of a pseudo-class that takes selectors, if its parenthesis opens after it. -/
def takeLogical? (cs : List Char) : Option (List Char × List Char) :=
  logicalNames.findSome? fun name =>
    match Text.dropWord? name.toList cs with
    | some ('(' :: rest) => some (cs.take name.length, Text.trimStart rest)
    | _ => none

/-- The argument of any other function: text without parentheses up to the closing one. -/
def takeArgument? (cs : List Char) : Option (List Char × List Char) :=
  let isInner := fun c => c != '(' && c != ')'
  match cs.dropWhile isInner with
  | ')' :: rest => some (Text.trim (cs.takeWhile isInner), rest)
  | _ => none

/-- The name of a pseudo-class or pseudo-element: its identifier up to the first parenthesis, also
an escaped one. -/
def pseudoName (ident : List Char) : String :=
  String.ofList (ident.takeWhile (· != '('))

/-- The node of a single-colon name. -/
def pseudoNode (name : String) (argument : Option String) : Node :=
  if legacyPseudoElements.contains (Text.lowerString name) then .pseudoElement name
  else .pseudoClass name argument

/-- A name with the argument that it has as a function, as the node that `node` makes of them. -/
def readNamed? (node : String → Option String → Node) (cs : List Char) :
    Option (Token × List Char) :=
  match takeIdent? cs with
  | none => none
  | some (ident, '(' :: body) => (takeArgument? body).map fun taken =>
      (.part (node (pseudoName ident) (some (String.ofList taken.1))), taken.2)
  | some (ident, after) => some (.part (node (pseudoName ident) none), after)

/-- What follows a colon that is not doubled. -/
def readPseudoClass? (cs : List Char) : Option (Token × List Char) :=
  ((takeLogical? cs).map fun taken => (.opening (String.ofList taken.1), taken.2)).or
    (readNamed? pseudoNode cs)

/-- What follows a doubled colon. -/
def readPseudoElement? (cs : List Char) : Option (Token × List Char) :=
  readNamed? (fun name _ => .pseudoElement name) cs

/-! ### Tokens by context -/

/-- A part of a compound other than an element name or a star. -/
def readPart? : List Char → Option (Token × List Char)
  | '#' :: rest =>
    let (name, after) := takeName rest
    if name.isEmpty then none else some (.part (.id (String.ofList name)), after)
  | '.' :: rest =>
    (takeIdent? rest).map fun (name, after) => (.part (.className (String.ofList name)), after)
  | '[' :: rest =>
    match rest.dropWhile (· != ']') with
    | ']' :: after =>
      some (.part (.attributeTest (String.ofList ('[' :: rest.takeWhile (· != ']') ++ [']']))), after)
    | _ => none
  | ':' :: ':' :: rest => readPseudoElement? rest
  | ':' :: rest => readPseudoClass? rest
  | _ => none

/-- An element name or a star. -/
def readSubject? (cs : List Char) : Option (Token × List Char) :=
  ((takeElement? cs).map fun taken => (part (.element (String.ofList taken.1)), taken.2)).or
    ((takeUniversal? cs).map fun taken => (part (.universal (String.ofList taken.1)), taken.2))

/-- The first part of a compound. -/
def readCompound? (cs : List Char) : Option (Token × List Char) :=
  (readPart? cs).or (readSubject? cs)

/-- A combinator sign with the blanks around it. -/
def readSign? (cs : List Char) : Option (Token × List Char) :=
  match Text.trimStart cs with
  | '>' :: rest => some (combinator .child, Text.trimStart rest)
  | '+' :: rest => some (combinator .nextSibling, Text.trimStart rest)
  | '~' :: rest => some (combinator .subsequentSibling, Text.trimStart rest)
  | _ => none

/-- A comma with the blanks around it, or a closing parenthesis with the blanks before it. -/
def readDelimiter? (cs : List Char) : Option (Token × List Char) :=
  match Text.trimStart cs with
  | ',' :: rest => some (comma, Text.trimStart rest)
  | ')' :: rest => some (closing, rest)
  | _ => none

/-- Blanks that stand for the descendant combinator. -/
def readBlanks? (cs : List Char) : Option (Token × List Char) :=
  match cs with
  | c :: _ => if Text.isBlank c then some (combinator .descendant, Text.trimStart cs) else none
  | [] => none

/-- The next token of a text in a context, and the rest. -/
def read? (context : Context) (cs : List Char) : Option (Token × List Char) :=
  match context with
  | .compound => readCompound? cs
  | .relative => (readSign? cs).or (readCompound? cs)
  | .inside => (((readSign? cs).or (readDelimiter? cs)).or (readPart? cs)).or (readBlanks? cs)

/-! ### Every token takes something -/

theorem takeName_append (cs : List Char) : (takeName cs).1 ++ (takeName cs).2 = cs := by
  fun_induction takeName cs <;> simp_all

/-- Less is left after a name that is not empty. -/
theorem takeName_length_lt {cs : List Char} (h : (takeName cs).1 ≠ []) :
    (takeName cs).2.length < cs.length := by
  have hl := congrArg List.length (takeName_append cs)
  have := List.length_pos_iff.2 h
  simp only [List.length_append] at hl
  omega

theorem takeName_of_isNameChar {c : Char} (h : isNameChar c = true) (rest : List Char) :
    (takeName (c :: rest)).1 ≠ [] := by
  have hc : c ≠ '\\' := by rintro rfl; exact absurd h (by decide)
  unfold takeName
  split
  · simp_all
  · simp_all
  · simp_all

theorem isNameChar_of_isNameStart {c : Char} (h : isNameStart c = true) : isNameChar c = true := by
  simp only [isNameStart, isNameChar, Bool.or_eq_true, Char.isAlphanum] at h ⊢
  rcases h with (h | h) | h <;> simp [h]

theorem takeName_of_startsName {cs : List Char} (h : startsName cs = true) :
    (takeName cs).1 ≠ [] := by
  unfold startsName at h
  split at h
  · rename_i c rest
    simp_all [takeName]
  · exact takeName_of_isNameChar (isNameChar_of_isNameStart h) _
  · simp at h

/-- An identifier is the longest name at its place, and is not empty. -/
theorem takeIdent?_eq_some {cs : List Char} {taken : List Char × List Char}
    (h : takeIdent? cs = some taken) : taken = takeName cs ∧ (takeName cs).1 ≠ [] := by
  unfold takeIdent? at h
  split at h
  · simp only [Option.some.injEq] at h
    exact ⟨h.symm, takeName_of_isNameChar (by decide) _⟩
  · split at h <;> simp only [Option.some.injEq, reduceCtorEq] at h
    exact ⟨h.symm, takeName_of_isNameChar (by decide) _⟩
  · split at h <;> simp only [Option.some.injEq, reduceCtorEq] at h
    exact ⟨h.symm, takeName_of_startsName (by assumption)⟩

theorem takeIdent?_length_lt {cs : List Char} {taken : List Char × List Char}
    (h : takeIdent? cs = some taken) : taken.2.length < cs.length := by
  obtain ⟨rfl, hne⟩ := takeIdent?_eq_some h
  exact takeName_length_lt hne

/-- A reader that leaves less than it is given. -/
def Consumes {α : Type} (reader : List Char → Option (α × List Char)) : Prop :=
  ∀ ⦃cs taken⦄, reader cs = some taken → taken.2.length < cs.length

theorem Consumes.or {α : Type} {f g : List Char → Option (α × List Char)}
    (hf : Consumes f) (hg : Consumes g) : Consumes fun cs => (f cs).or (g cs) := by
  intro cs taken h
  rcases Option.or_eq_some_iff.1 h with h | ⟨-, h⟩
  · exact hf h
  · exact hg h

theorem Consumes.map {α β : Type} {f : List Char → Option (α × List Char)} (hf : Consumes f)
    (g : α → β) : Consumes fun cs => (f cs).map fun taken => (g taken.1, taken.2) := by
  intro cs taken h
  obtain ⟨t, ht, rfl⟩ := Option.map_eq_some_iff.1 h
  exact hf ht

theorem takeNamespace?_consumes : Consumes takeNamespace? := by
  intro cs taken h
  unfold takeNamespace? at h
  split at h
  · rename_i hi
    have := takeIdent?_length_lt hi
    simp only [Option.some.injEq] at h
    subst h
    simp only [List.length_cons] at this ⊢
    omega
  · split at h <;> simp only [Option.some.injEq, reduceCtorEq] at h <;> subst h <;>
      simp only [List.length_cons] <;> omega

theorem takeElement?_consumes : Consumes takeElement? := by
  refine Consumes.or (fun cs taken h => ?_) (fun _ _ => takeIdent?_length_lt)
  simp only [Option.bind_eq_bind, Option.bind_eq_some_iff, Option.pure_def, Option.some.injEq] at h
  obtain ⟨a, ha, b, hb, rfl⟩ := h
  have hb := takeIdent?_length_lt hb
  exact Nat.lt_trans hb (takeNamespace?_consumes ha)

theorem takeStar?_consumes : Consumes takeStar? := by
  intro cs taken h
  unfold takeStar? at h
  split at h <;> simp only [Option.some.injEq, reduceCtorEq] at h
  subst h
  simp

theorem takeUniversal?_consumes : Consumes takeUniversal? := by
  refine Consumes.or (fun cs taken h => ?_) takeStar?_consumes
  simp only [Option.bind_eq_bind, Option.bind_eq_some_iff, Option.pure_def, Option.some.injEq] at h
  obtain ⟨a, ha, b, hb, rfl⟩ := h
  have hb := takeStar?_consumes hb
  exact Nat.lt_trans hb (takeNamespace?_consumes ha)

theorem takeLogical?_consumes : Consumes takeLogical? := by
  intro cs taken h
  obtain ⟨name, -, hn⟩ := List.exists_of_findSome?_eq_some h
  split at hn <;> simp only [Option.some.injEq, reduceCtorEq] at hn
  rename_i rest hd
  have := Text.dropWord?_length_le hd
  have := Text.trimStart_length_le rest
  subst hn
  simp only [List.length_cons] at *
  omega

theorem takeArgument?_consumes : Consumes takeArgument? := by
  intro cs taken h
  simp only [takeArgument?] at h
  split at h <;> simp only [Option.some.injEq, reduceCtorEq] at h
  rename_i rest hd
  have := (List.dropWhile_suffix (l := cs) fun c => c != '(' && c != ')').length_le
  subst h
  rw [hd, List.length_cons] at this
  exact this

theorem readNamed?_consumes (node : String → Option String → Node) :
    Consumes (readNamed? node) := by
  intro cs taken h
  unfold readNamed? at h
  split at h
  · simp at h
  · rename_i hi
    have hi := takeIdent?_length_lt hi
    obtain ⟨t, ht, rfl⟩ := Option.map_eq_some_iff.1 h
    have := takeArgument?_consumes ht
    simp only [List.length_cons] at hi ⊢
    omega
  · rename_i hi
    simp only [Option.some.injEq] at h
    exact h ▸ takeIdent?_length_lt hi

theorem readPseudoClass?_consumes : Consumes readPseudoClass? :=
  (takeLogical?_consumes.map fun name => Token.opening (String.ofList name)).or
    (readNamed?_consumes pseudoNode)

theorem readPseudoElement?_consumes : Consumes readPseudoElement? :=
  readNamed?_consumes _

theorem readPart?_consumes : Consumes readPart? := by
  intro cs taken h
  unfold readPart? at h
  split at h
  · dsimp only at h
    split at h <;> simp only [Option.some.injEq, reduceCtorEq] at h
    rename_i rest hne
    have hne : (takeName rest).1 ≠ [] := by simpa using hne
    have := takeName_length_lt hne
    subst h
    simp only [List.length_cons]
    omega
  · obtain ⟨t, ht, rfl⟩ := Option.map_eq_some_iff.1 h
    have := takeIdent?_length_lt ht
    simp only [List.length_cons]
    omega
  · split at h <;> simp only [Option.some.injEq, reduceCtorEq] at h
    rename_i rest _ after hd
    have := (List.dropWhile_suffix (l := rest) (· != ']')).length_le
    subst h
    rw [hd] at this
    simp only [List.length_cons] at *
    omega
  · have := readPseudoElement?_consumes h
    simp only [List.length_cons]
    omega
  · have := readPseudoClass?_consumes h
    simp only [List.length_cons]
    omega
  · simp at h

theorem readCompound?_consumes : Consumes readCompound? :=
  readPart?_consumes.or
    ((takeElement?_consumes.map fun name => part (.element (String.ofList name))).or
      (takeUniversal?_consumes.map fun raw => part (.universal (String.ofList raw))))

theorem readSign?_consumes : Consumes readSign? := by
  intro cs taken h
  unfold readSign? at h
  have := Text.trimStart_length_le cs
  split at h <;> simp only [Option.some.injEq, reduceCtorEq] at h <;> subst h <;>
    rename_i rest hr <;> have := Text.trimStart_length_le rest <;> simp_all <;> omega

theorem readDelimiter?_consumes : Consumes readDelimiter? := by
  intro cs taken h
  have hlength := Text.trimStart_length_le cs
  unfold readDelimiter? at h
  split at h
  · rename_i rest hrest
    obtain rfl := Option.some.inj h
    rw [hrest, List.length_cons] at hlength
    exact Nat.lt_of_le_of_lt (Text.trimStart_length_le rest) hlength
  · rename_i rest hrest
    obtain rfl := Option.some.inj h
    rw [hrest, List.length_cons] at hlength
    exact hlength
  · simp at h

theorem readBlanks?_consumes : Consumes readBlanks? := by
  intro cs taken h
  unfold readBlanks? at h
  split at h
  · split at h <;> simp only [Option.some.injEq, reduceCtorEq] at h
    rename_i c rest hc
    have := Text.trimStart_length_le rest
    subst h
    rw [Text.trimStart_cons_of_isBlank hc]
    simp only [List.length_cons]
    omega
  · simp at h

theorem read?_consumes (context : Context) : Consumes (read? context) := by
  cases context
  · exact readCompound?_consumes
  · exact readSign?_consumes.or readCompound?_consumes
  · exact ((readSign?_consumes.or readDelimiter?_consumes).or readPart?_consumes).or
      readBlanks?_consumes

end Token

end StyleGauge.Selector
