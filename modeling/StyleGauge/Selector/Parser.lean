import StyleGauge.Selector.Token

/-!
# From text to nodes

The tokens of a selector are read first; whether commas and parentheses fit together is found
while the nodes are built from them.
-/

namespace StyleGauge.Selector

/-- The tokens of a text, unless some place holds none that is possible there. The text has to end
inside a compound. -/
def tokens? (context : Context) (cs : List Char) : Option (List Token) :=
  match cs with
  | [] => if context = .inside then some [] else none
  | c :: more =>
    match _h : Token.read? context (c :: more) with
    | none => none
    | some (token, rest) =>
      (tokens? token.next rest).map (token :: ·)
termination_by cs.length
decreasing_by exact Token.read?_consumes context _h

/-- A pseudo-class whose arguments are being read. -/
structure OpenLogical where
  /-- Its name. -/
  name : String
  /-- The nodes before it, the latest first. -/
  before : List Node
  /-- The arguments that are complete, the latest first. -/
  arguments : List (List Node)

/-- The nodes that tokens stand for, given the pseudo-classes that are open, the innermost first,
and the nodes read so far, the latest first. A comma or a closing parenthesis needs an open
pseudo-class, and none may be open at the end. -/
def buildNodes? : List OpenLogical → List Node → List Token → Option (List Node)
  | [], nodes, [] => some nodes.reverse
  | _ :: _, _, [] => none
  | outer, nodes, .part node :: rest => buildNodes? outer (node :: nodes) rest
  | outer, nodes, .combinator kind :: rest => buildNodes? outer (.combinator kind :: nodes) rest
  | outer, nodes, .opening name :: rest => buildNodes? (⟨name, nodes, []⟩ :: outer) [] rest
  | [], _, .comma :: _ => none
  | inner :: outer, nodes, .comma :: rest =>
    buildNodes? ({ inner with arguments := nodes.reverse :: inner.arguments } :: outer) [] rest
  | [], _, .closing :: _ => none
  | inner :: outer, nodes, .closing :: rest =>
    let arguments := (nodes.reverse :: inner.arguments).reverse
    buildNodes? outer (.logical inner.name arguments :: inner.before) rest

/-- The nodes of one branch of a selector list, if it is well formed. Blanks at its ends do not
count. -/
def parse? (text : List Char) : Option (List Node) := do
  buildNodes? [] [] (← tokens? .compound (Text.trim text))

@[simp] theorem tokens?_nil_inside : tokens? .inside [] = some [] := by simp [tokens?]

@[simp] theorem tokens?_nil_compound : tokens? .compound [] = none := by simp [tokens?]

/-- Tokens are read one by one. -/
theorem tokens?_of_read? {context : Context} {cs rest : List Char} {token : Token}
    (h : Token.read? context cs = some (token, rest)) :
    tokens? context cs = (tokens? token.next rest).map (token :: ·) := by
  cases cs with
  | nil => exact absurd (Token.read?_consumes context h) (by simp)
  | cons c more =>
    rw [tokens?]
    split
    · simp_all
    · simp_all

end StyleGauge.Selector
