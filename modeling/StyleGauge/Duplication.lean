import StyleGauge.Listing
import StyleGauge.Site

/-!
# Duplication

What is said more than once across stylesheets: the same declaration, the same block of
declarations, and the same property with any value. Everything is listed in the order in which it
is met.
-/

namespace StyleGauge

namespace Duplication

/-! ### Declarations -/

/-- A declaration that is said at several places, by its key. -/
structure Repeated where
  /-- The property, a colon, and the normalized value. -/
  key : String
  locations : List Location
  deriving DecidableEq, Repr

namespace Repeated

/-- How often the declaration is said. -/
def count (r : Repeated) : Nat :=
  r.locations.length

/-- The property: the part of the key before its first colon. -/
def property (r : Repeated) : String :=
  String.ofList (r.key.toList.takeWhile (· != ':'))

/-- The value: the part of the key behind its first colon. -/
def value (r : Repeated) : String :=
  String.ofList ((r.key.toList.dropWhile (· != ':')).drop 1)

end Repeated

/-- Every declaration of stylesheets, by its key, with its place. -/
def keyed (sheets : List Stylesheet) : List (String × Location) :=
  (sites sheets).flatMap fun s => s.rule.declarations.map fun d => (d.key, s.location)

/-- How often a declaration has to be said to count as repeated. -/
def defaultMinimum : Int := 3

/-- The declarations that are said at least `minimum` times. -/
def declarations (sheets : List Stylesheet) (minimum : Int := defaultMinimum) : List Repeated :=
  ((Listing.groups Prod.fst (keyed sheets)).map fun g => ⟨g.1, g.2.map Prod.snd⟩).filter
    fun r => minimum ≤ r.locations.length

/-! ### Blocks -/

/-- Declarations that stand together in several rules. -/
structure Block where
  /-- The keys of the declarations, in order. -/
  pairs : List String
  occurrences : List Location
  deriving DecidableEq, Repr

/-- The keys of the declarations of a rule, sorted. -/
def sortedKeys (r : Rule) : List String :=
  (r.declarations.map Declaration.key).mergeSort fun a b => decide (a ≤ b)

/-- The integers from `low` to `high`. -/
def span (low high : Int) : List Int :=
  (List.range (high + 1 - low).toNat).map fun i : Nat => low + i

/-- The combinations that a rule has a part in: the beginnings of its sorted keys, from the
shortest that counts to all of them. A rule with too few declarations has none. -/
def combinations (minimum : Int) (r : Rule) : List (List String) :=
  if r.declarations.length < minimum then []
  else (span minimum r.declarations.length).map fun n => Listing.firstItems n (sortedKeys r)

/-- Every combination of stylesheets with its place. -/
def combined (sheets : List Stylesheet) (minimum : Int) : List (List String × Location) :=
  (sites sheets).flatMap fun s => (combinations minimum s.rule).map (·, s.location)

/-- The text by which combinations are compared. -/
def combinationKey (pairs : List String) : String :=
  "|".intercalate pairs

/-- How many declarations a block has to have. -/
def defaultBlockSize : Int := 3

/-- How often a block has to occur. -/
def defaultBlockCount : Int := 2

/-- The blocks of at least `size` declarations that occur at least `count` times, the most
frequent first. A block is shown as it was met first. -/
def blocks (sheets : List Stylesheet) (size : Int := defaultBlockSize)
    (count : Int := defaultBlockCount) : List Block :=
  let found := (Listing.groups (fun c => combinationKey c.1) (combined sheets size)).map
    fun g => ⟨(g.2.head?.map Prod.fst).getD [], g.2.map Prod.snd⟩
  (found.filter fun (b : Block) => count ≤ b.occurrences.length).mergeSort
    fun a b => decide (b.occurrences.length ≤ a.occurrences.length)

/-! ### Properties -/

/-- One definition of a property. -/
structure Definition where
  location : Location
  /-- The specificity of the rule's first selector. -/
  specificity : Specificity
  deriving DecidableEq, Repr

/-- A property and its definitions, whatever the values. -/
structure Override where
  property : String
  definitions : List Definition
  deriving DecidableEq, Repr

/-- Every declaration of stylesheets as a definition of its property. -/
def defined (sheets : List Stylesheet) : List (String × Definition) :=
  (sites sheets).flatMap fun s =>
    s.rule.declarations.map fun d => (d.property, ⟨s.location, s.rule.firstSpecificity⟩)

/-- How many definitions put a property under pressure. -/
def defaultOverrides : Int := 5

/-- The properties with at least `minimum` definitions. -/
def overrides (sheets : List Stylesheet) (minimum : Int := defaultOverrides) : List Override :=
  ((Listing.groups Prod.fst (defined sheets)).map fun g => ⟨g.1, g.2.map Prod.snd⟩).filter
    fun o => minimum ≤ o.definitions.length

end Duplication

end StyleGauge
