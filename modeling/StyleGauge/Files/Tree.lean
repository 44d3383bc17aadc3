/-!
# Directory trees

Files and directories as one value. A directory holds named entries, so that everything in a tree
stands in a directory; names on the way down pick an entry each.
-/

namespace StyleGauge

/-- A file, or a directory with named entries. -/
inductive Tree where
  | file (bytes : List UInt8)
  | directory (entries : List (String × Tree))
  deriving Inhabited

namespace Tree

/-- The entries of a directory; a file has none. -/
def entries : Tree → List (String × Tree)
  | file _ => []
  | directory es => es

/-- Whether a tree is a directory. -/
def isDirectory : Tree → Bool
  | file _ => false
  | directory _ => true

/-- Whether a tree is a file. -/
def isFile (t : Tree) : Bool :=
  !t.isDirectory

/-- What the names on the way down lead to. -/
def find? : List String → Tree → Option Tree
  | [], t => some t
  | name :: names, t => (t.entries.lookup name).bind (find? names)

/-- Entries with what is under one name changed. The change gets nothing where the name is new,
and an entry is removed when the change leaves nothing. -/
def alterEntry (name : String) (change : Option Tree → Option Tree) :
    List (String × Tree) → List (String × Tree)
  | [] => ((change none).map (name, ·)).toList
  | e :: es =>
    if e.1 = name then ((change (some e.2)).map (name, ·)).toList ++ es
    else e :: alterEntry name change es

/-- A tree with what the names lead to changed. Where the names lead through a file or through
nothing, all stays as it is. -/
def alter (change : Option Tree → Option Tree) : List String → Option Tree → Option Tree
  | [], t => change t
  | name :: names, some (directory es) =>
    some (directory (alterEntry name (alter change names) es))
  | _ :: _, t => t

/-- A tree with something put where the names lead. -/
def put (t : Tree) (names : List String) (new : Tree) : Tree :=
  (alter (fun _ => some new) names (some t)).getD t

/-- A tree without what the names lead to. -/
def remove (t : Tree) (names : List String) : Tree :=
  (alter (fun _ => none) names (some t)).getD t

/-- A tree with a directory wherever the names lead on the way down, unless something is there. -/
def makeDirectory (t : Tree) (names : List String) : Tree :=
  ((List.range names.length).map fun n => names.take (n + 1)).foldl
    (fun t names => (alter (fun old => old.or (some (directory []))) names (some t)).getD t) t

mutual

/-- The names that lead to the directories of a tree, the tree itself first and every directory
before what is in it. -/
def directories : Tree → List (List String)
  | file _ => []
  | directory es => [] :: directoriesIn es

/-- The names that lead to the directories among entries. -/
def directoriesIn : List (String × Tree) → List (List String)
  | [] => []
  | (name, t) :: es => (directories t).map (name :: ·) ++ directoriesIn es

end

end Tree

end StyleGauge
