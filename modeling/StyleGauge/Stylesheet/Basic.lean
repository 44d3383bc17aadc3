import StyleGauge.Listing
import StyleGauge.Selector.Analysis
import StyleGauge.Selector.Split
import StyleGauge.Stylesheet.Comment
import StyleGauge.Stylesheet.Scanner
import StyleGauge.Text.Parts

/-!
# Stylesheets

What is known of one stylesheet after reading it: its rules with their selectors and declarations,
and its cascade layers. Reading never fails for a text; a source that could not be read is a
stylesheet without rules and with one error. Limits of an interpreter are left out: how deeply calls
may be nested, which blocks in blocks and arguments in arguments reach first, and how many digits an
integer may have that is written as a text.
-/

namespace StyleGauge

/-- A rule: selectors that share a block of declarations. -/
structure Rule where
  /-- The branches of the selector list. -/
  selectors : List Selector
  /-- The declarations of the block, those of nested blocks included. -/
  declarations : List Declaration
  /-- The name of the file. -/
  file : String
  /-- The line where the selector list starts. -/
  line : Option Int := none
  /-- The column where the selector list starts. -/
  column : Option Int := none
  /-- The nearest named layer around the rule. -/
  layer : Option String := none
  deriving DecidableEq, Repr

namespace Rule

/-- The text of the first selector, empty if there is none. -/
def firstSelector (r : Rule) : String :=
  (r.selectors.head?.map Selector.raw).getD ""

/-- The specificity of the first selector. -/
def firstSpecificity (r : Rule) : Specificity :=
  (r.selectors.head?.map Selector.specificity).getD .zero

/-- How many declarations are marked as important. -/
def importantCount (r : Rule) : Nat :=
  r.declarations.countP (·.important)

end Rule

/-- What is known of one stylesheet. -/
structure Stylesheet where
  /-- The name of its file. -/
  file : String
  /-- Its rules, in source order. -/
  rules : List Rule := []
  /-- Why it could not be read. -/
  errors : List String := []
  /-- The names of its cascade layers, each once, in order of appearance. -/
  layers : List String := []
  /-- Whether it has a layer at-rule. -/
  usesLayers : Bool := false
  deriving DecidableEq, Repr

namespace Stylesheet

/-- The name of a stylesheet that comes from no file. -/
def defaultFile : String := "input.css"

/-- A stylesheet that could not be read. -/
def failure (file message : String) : Stylesheet :=
  { file, errors := [message] }

/-- The failure of a source of some other kind than text. -/
def notText (file kind : String) : Stylesheet :=
  failure file s!"Failed to parse CSS: object of type '{kind}' has no len()"

/-- The failure of a file that cannot be read. -/
def unreadable (file reason : String) : Stylesheet :=
  failure file s!"Failed to read file: {reason}"

/-- Whether the stylesheet could be read. -/
def ok (s : Stylesheet) : Bool :=
  s.errors.isEmpty

/-- The layer names that the parameters of a layer at-rule list. -/
def layerNames (params : String) : List String :=
  ((Text.parts ',' params.toList).map Text.trim).filter (· ≠ []) |>.map String.ofList

/-- The rule of a rule taken out of its tree, unless all branches of its selector list are
blank. -/
def ruleOf? (file : String) (r : FlatRule) : Option Rule :=
  match Selector.splitList r.prelude.toList with
  | [] => none
  | branches =>
    some {
      selectors := branches.map fun b => Selector.analyze (String.ofList b)
      declarations := r.declarations
      file
      line := some r.start.line
      column := some r.start.column
      layer := r.layer }

/-- What the tree of a stylesheet tells. -/
def ofTree (file : String) (tree : List Node) : Stylesheet :=
  let params := layerParamsOf tree
  { file
    rules := (rulesOf none tree).filterMap (ruleOf? file)
    layers := Listing.distinct (params.flatMap layerNames)
    usesLayers := !params.isEmpty }

/-- A stylesheet read from its text. -/
def ofText (source : String) (file : String := defaultFile) : Stylesheet :=
  ofTree file (scan (withoutComments source.toList))

end Stylesheet

end StyleGauge
