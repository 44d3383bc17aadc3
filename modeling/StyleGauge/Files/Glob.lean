import StyleGauge.Files.Wildcard
import StyleGauge.Files.Workspace

/-!
# Selecting paths by a pattern

A glob pattern is a relative path whose names may hold wildcards, each matched against one name. A
name of two stars stands for a directory and all directories below it. The paths selected keep the
names of the pattern as they are written, double dots included.
-/

namespace StyleGauge

/-- A name in a glob pattern. -/
inductive Glob.Part where
  /-- A name without wildcards. -/
  | name (name : String)
  /-- Any name that a wildcard pattern matches. -/
  | wildcard (pattern : String)
  /-- The directory itself and all directories below it. -/
  | below
  deriving DecidableEq, Repr

/-- A pattern that selects paths. -/
structure Glob where
  parts : List Glob.Part
  /-- Whether directories alone are selected. -/
  directoriesOnly : Bool
  deriving DecidableEq, Repr

/-- Why a text is not a glob pattern. -/
inductive GlobError where
  | empty
  | absolute
  | doubleStar
  /-- No name, only a dot. -/
  | dot
  /-- No name, only a dot and a slash. -/
  | dotSlash
  deriving DecidableEq, Repr

/-- The message of a text that is not a glob pattern. -/
def GlobError.message : GlobError → String
  | empty => "Unacceptable pattern: ''"
  | absolute => "Non-relative patterns are unsupported"
  | doubleStar => "Invalid pattern: '**' can only be an entire path component"
  | dot => "tuple index out of range"
  | dotSlash => "'_TerminatingSelector' object has no attribute 'select_from'"

namespace Glob

/-- Whether two stars stand next to each other. -/
def hasDoubleStar : List Char → Bool
  | '*' :: '*' :: _ => true
  | _ :: cs => hasDoubleStar cs
  | [] => false

/-- The part that a name of a pattern stands for. -/
def partOf (name : String) : Except GlobError Part :=
  if name = "**" then .ok .below
  else if hasDoubleStar name.toList then .error .doubleStar
  else if Wildcard.hasWildcard name.toList then .ok (.wildcard name)
  else .ok (.name name)

/-- A pattern read from a text. -/
def ofString (text : String) : Except GlobError Glob := do
  let path := Path.ofString text
  let directoriesOnly := text.toList.getLast? == some '/'
  if text.isEmpty then .error .empty
  else if path.isAbsolute then .error .absolute
  else if path.names.isEmpty then .error (if directoriesOnly then .dotSlash else .dot)
  else
    let parts ← path.names.mapM partOf
    return { parts, directoriesOnly }

/-- The paths that a part leads to from a directory, there or not. -/
def Part.candidates (w : Workspace) (p : Path) : Part → List Path
  | name n => [{ p with names := p.names ++ [n] }]
  | wildcard pattern =>
    let names := ((w.get p).toOption.elim [] Tree.entries).map Prod.fst
    (names.filter (Wildcard.isMatch pattern)).map fun n => { p with names := p.names ++ [n] }
  | below =>
    ((w.get p).toOption.elim [] Tree.directories).map fun ns => { p with names := p.names ++ ns }

/-- The paths that parts of a pattern select from a path on. What is not the last has to be a
directory. -/
def selectFrom (w : Workspace) (directoriesOnly : Bool) : List Part → Path → List Path
  | [], p => [p]
  | part :: parts, p =>
    let isGood : Path → Bool :=
      if parts.isEmpty && !directoriesOnly then w.isThere else w.isDirectory
    ((part.candidates w p).filter isGood).flatMap (selectFrom w directoriesOnly parts)

/-- The paths that a pattern selects below a directory. -/
def select (g : Glob) (w : Workspace) (base : Path) : List Path :=
  selectFrom w g.directoriesOnly g.parts base

end Glob

end StyleGauge
