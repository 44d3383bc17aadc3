import StyleGauge.Config.Basic
import StyleGauge.Files.Glob
import StyleGauge.Listing

/-!
# Finding stylesheets

The stylesheets below a directory are the files that an include pattern selects and no pattern
excludes, each once and in the order of their names. A base that is a file is taken as it is.
-/

namespace StyleGauge

/-- Why no stylesheets can be looked for. -/
inductive SearchError where
  /-- Nothing is there. -/
  | notFound (base : String)
  /-- An include pattern is none. -/
  | pattern (e : GlobError)
  deriving DecidableEq, Repr

/-- The message of a search that fails. -/
def SearchError.message : SearchError → String
  | notFound base => s!"Path not found: {base}"
  | pattern e => e.message

namespace Search

/-- Whether a pattern excludes a file. A pattern that starts with two stars and a slash also
counts without them, so that it reaches the top of the tree. -/
def isExcludedBy (relative pattern : String) : Bool :=
  Wildcard.isMatch pattern relative ||
    match pattern.toList with
    | '*' :: '*' :: '/' :: rest => Wildcard.isMatch (String.ofList rest) relative
    | _ => false

/-- Whether one of several patterns excludes a file. -/
def isExcluded (relative : String) (patterns : List String) : Bool :=
  patterns.any (isExcludedBy relative)

/-- The files that a pattern selects below a directory. -/
def selectFiles (w : Workspace) (base : Path) (pattern : String) : Except GlobError (List Path) := do
  let glob ← Glob.ofString pattern
  return (glob.select w base).filter w.isFile

/-- A path as seen from a directory above it. -/
def relativeTo (base p : Path) : String :=
  Path.joinNames (p.names.drop base.names.length)

/-- Each path once, in order of names. -/
def inOrder (paths : List Path) : List Path :=
  (Listing.distinct paths).mergeSort fun p q => Path.namesLe p.names q.names

/-- The stylesheets below a directory. -/
def below (w : Workspace) (base : Path) (config : Config) : Except GlobError (List Path) := do
  let found ← config.included.mapM (selectFiles w base)
  return inOrder (found.flatten.filter fun p =>
    !isExcluded (relativeTo base p) (config.excluded ++ config.ignored))

/-- The stylesheets at a path. -/
def stylesheets (w : Workspace) (path : String) (config : Config) :
    Except SearchError (List Path) :=
  let base := w.resolve (Path.ofString path)
  match w.get base with
  | .error _ => .error (.notFound path)
  | .ok (.file _) => .ok [base]
  | .ok (.directory _) => (below w base config).mapError .pattern

end Search

end StyleGauge
