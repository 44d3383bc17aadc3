import StyleGauge.Files.Path
import StyleGauge.Files.Tree
import StyleGauge.Text.Newline
import StyleGauge.Text.Quoted
import StyleGauge.Text.Utf8

/-!
# Working in a directory tree

A tree and the directory in it from which paths start. A path is walked name by name; every step,
also one back up, starts from a directory that is there.
-/

namespace StyleGauge

/-- Why a file cannot be reached or used. -/
inductive FileError.Cause where
  | missing
  | notDirectory
  | isDirectory
  deriving DecidableEq, Repr

/-- A failure at a path. -/
structure FileError where
  cause : FileError.Cause
  path : Path
  deriving DecidableEq, Repr

/-- The number of a cause, as systems count them. -/
def FileError.Cause.number : Cause → Nat
  | missing => 2
  | notDirectory => 20
  | isDirectory => 21

/-- The text of a cause. -/
def FileError.Cause.text : Cause → String
  | missing => "No such file or directory"
  | notDirectory => "Not a directory"
  | isDirectory => "Is a directory"

/-- The message of a failure at a path. -/
def FileError.message (e : FileError) : String :=
  let number := toString e.cause.number
  let path := Text.quoted e.path.text
  s!"[Errno {number}] {e.cause.text}: {path}"

/-- Why a file cannot be read as text. -/
inductive ReadError where
  | file (e : FileError)
  | utf8 (f : Text.Utf8.Flaw)
  deriving DecidableEq, Repr

/-- The message of a file that cannot be read as text. -/
def ReadError.message : ReadError → String
  | file e => e.message
  | utf8 f => f.message

/-- A directory tree, and the directory from which paths start. -/
structure Workspace where
  tree : Tree
  /-- The names that lead to the current directory. -/
  current : List String

namespace Workspace

/-- The names from the root on that a walk leads to, or why it fails. The last name need not be
there. -/
def walk (t : Tree) (here : List String) : List String → Except FileError.Cause (List String)
  | [] => .ok here
  | name :: names =>
    match t.find? here with
    | none => .error .missing
    | some (.file _) => .error .notDirectory
    | some (.directory _) =>
      walk t (if name = ".." then here.dropLast else here ++ [name]) names

/-- The names from the root on that a path leads to. -/
def locate (w : Workspace) (p : Path) : Except FileError.Cause (List String) :=
  walk w.tree (if p.isAbsolute then [] else w.current) p.names

/-- What a path leads to. -/
def get (w : Workspace) (p : Path) : Except FileError.Cause Tree := do
  match w.tree.find? (← w.locate p) with
  | some t => .ok t
  | none => .error .missing

/-- Whether a path leads to something. -/
def isThere (w : Workspace) (p : Path) : Bool :=
  (w.get p).isOk

/-- Whether a path leads to a file. -/
def isFile (w : Workspace) (p : Path) : Bool :=
  (w.get p).toOption.any Tree.isFile

/-- Whether a path leads to a directory. -/
def isDirectory (w : Workspace) (p : Path) : Bool :=
  (w.get p).toOption.any Tree.isDirectory

/-- A path from the root on, without double dots. -/
def resolve (w : Workspace) (p : Path) : Path :=
  Path.ofRoot (p.resolve w.current)

/-! ### Reading and writing -/

/-- The bytes of a file. -/
def read (w : Workspace) (p : Path) : Except FileError (List UInt8) :=
  match w.get p with
  | .ok (.file bytes) => .ok bytes
  | .ok (.directory _) => .error ⟨.isDirectory, p⟩
  | .error cause => .error ⟨cause, p⟩

/-- The text of a file, its lines ended by line feeds. -/
def readText (w : Workspace) (p : Path) : Except ReadError String := do
  let bytes ← (w.read p).mapError .file
  let text ← (Text.Utf8.decode bytes).mapError .utf8
  return String.ofList (Text.unifyNewlines text)

/-- A workspace after writing a file, which is made if its directory is there. -/
def write (w : Workspace) (p : Path) (bytes : List UInt8) : Except FileError Workspace :=
  match w.locate p with
  | .error cause => .error ⟨cause, p⟩
  | .ok names =>
    match w.tree.find? names, w.tree.find? names.dropLast with
    | some (.directory _), _ => .error ⟨.isDirectory, p⟩
    | _, none => .error ⟨.missing, p⟩
    | _, some (.file _) => .error ⟨.notDirectory, p⟩
    | _, some (.directory _) => .ok { w with tree := w.tree.put names (.file bytes) }

/-- A workspace after writing a text into a file. -/
def writeText (w : Workspace) (p : Path) (text : String) : Except FileError Workspace :=
  w.write p (Text.Utf8.encode text)

/-- A workspace after making a directory, and the directories above it. -/
def makeDirectory (w : Workspace) (p : Path) : Workspace :=
  { w with tree := w.tree.makeDirectory (p.resolve w.current) }

/-- A workspace after removing a file, or a directory with all that is in it. -/
def remove (w : Workspace) (p : Path) : Except FileError Workspace :=
  match w.locate p with
  | .error cause => .error ⟨cause, p⟩
  | .ok names =>
    match w.tree.find? names with
    | none => .error ⟨.missing, p⟩
    | some _ => .ok { w with tree := w.tree.remove names }

end Workspace

end StyleGauge
