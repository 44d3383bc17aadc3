import StyleGauge.Text.Parts

/-!
# Paths

A path is a row of names, starting at the root or at the current directory. Empty names and single
dots are dropped when a path is read; double dots are kept until the path is resolved.
-/

namespace StyleGauge

/-- A path to a file or a directory. -/
structure Path where
  /-- The slashes it starts with: none from the current directory on, else one, or two where
  exactly two were given. -/
  slashes : Nat := 0
  /-- The names on the way. -/
  names : List String := []
  deriving DecidableEq, Repr, Inhabited

namespace Path

/-- Holds of the parts of a text that count as names. -/
def isName (part : List Char) : Bool :=
  part != [] && part != ['.']

/-- How many of the slashes at the start of a text count. -/
def leadingSlashes (cs : List Char) : Nat :=
  match (cs.takeWhile (· == '/')).length with
  | 0 => 0
  | 2 => 2
  | _ => 1

/-- A path read from a text. -/
def ofString (text : String) : Path where
  slashes := leadingSlashes text.toList
  names := ((Text.parts '/' text.toList).filter isName).map String.ofList

/-- Whether the text of a path asks for a directory, by a slash or a dot at its end. -/
def asksForDirectory (text : String) : Bool :=
  match (Text.parts '/' text.toList).reverse with
  | last :: _ :: _ => !isName last
  | _ => false

/-- Whether a path starts at the root. -/
def isAbsolute (p : Path) : Bool :=
  p.slashes != 0

/-- Names as a text, with slashes between them. -/
def joinNames (names : List String) : String :=
  "/".intercalate names

/-- The text of a path. -/
def text (p : Path) : String :=
  if p.slashes = 0 && p.names.isEmpty then "."
  else String.ofList (List.replicate p.slashes '/') ++ joinNames p.names

/-- A path that starts at the root. -/
def ofRoot (names : List String) : Path :=
  { slashes := 1, names }

/-- The path that a second one leads to when it starts from a first one. -/
def join (p q : Path) : Path :=
  if q.isAbsolute then q else { p with names := p.names ++ q.names }

/-- Names with every double dot taken together with the name before it. -/
def cancelDots (names : List String) : List String :=
  names.foldl (fun done name => if name = ".." then done.dropLast else done ++ [name]) []

/-- The names from the root on that a path leads to from a directory. -/
def resolve (current : List String) (p : Path) : List String :=
  cancelDots ((ofRoot current).join p).names

/-- The last name of a path. -/
def name (p : Path) : String :=
  p.names.getLast?.getD ""

/-- The end of a name from its last dot on, if something stands before and after the dot. -/
def suffixOf (name : List Char) : List Char :=
  let ending := name.reverse.takeWhile (· != '.')
  if ending.length + 1 < name.length && !ending.isEmpty then '.' :: ending.reverse else []

/-- The suffix of the last name of a path. -/
def suffix (p : Path) : String :=
  String.ofList (suffixOf p.name.toList)

/-- Whether one row of names comes before another or is the same, name by name and by code
points. -/
def namesLe : List String → List String → Bool
  | [], _ => true
  | _ :: _, [] => false
  | a :: as, b :: bs => if a = b then namesLe as bs else decide (a < b)

end Path

end StyleGauge
