import StyleGauge.Config.Basic
import StyleGauge.Files.Workspace
import StyleGauge.Json.Parser
import StyleGauge.Json.Printer
import StyleGauge.Text.Blank
import StyleGauge.Text.Case
import StyleGauge.Yaml.Parser

/-!
# Configuration files

The configuration of a file or directory stands in the nearest configuration file at or above it.
The suffix tells whether a configuration file is YAML; all others are JSON. An empty one says
nothing, and what it says can be overridden entry by entry.
-/

namespace StyleGauge

/-- Why a configuration file is of no use. -/
inductive ConfigFileError.Cause where
  | unreadable (e : ReadError)
  | notJson (f : Json.Flaw)
  | notYaml
  | notMapping (kind : String)

/-- A configuration file of no use. -/
structure ConfigFileError where
  path : Path
  cause : ConfigFileError.Cause

/-- The text of a cause. -/
def ConfigFileError.Cause.message : Cause → String
  | unreadable e => e.message
  | notJson f => f.message
  | notYaml => "malformed YAML"
  | notMapping kind => s!"expected a mapping, got {kind}"

/-- The message of a configuration file of no use. -/
def ConfigFileError.message (e : ConfigFileError) : String :=
  s!"Invalid config file {e.path.text}: {e.cause.message}"

namespace Config

/-- The names of configuration files, in the order in which they are looked for. -/
def fileNames : List String := [
  ".csscomplexityrc",
  ".csscomplexityrc.json",
  "csscomplexity.config.json",
  ".csscomplexityrc.yaml",
  ".csscomplexityrc.yml"]

/-- The name of a new configuration file. -/
def freshFileName : String := ".csscomplexityrc.json"

/-- The text of a new configuration file. -/
def freshText : String :=
  fresh.toJson.pretty

/-- Whether a path is that of a YAML file. -/
def isYaml (p : Path) : Bool :=
  [".yaml", ".yml"].contains (Text.lowerString p.suffix)

/-- The value that the text of a configuration file stands for. Blanks alone stand for null. -/
def readValue (yaml : Bool) (text : String) : Except ConfigFileError.Cause Json :=
  if yaml then
    match Yaml.parse? text with
    | some value => .ok value
    | none => .error .notYaml
  else if (Text.trim text.toList).isEmpty then .ok .null
  else (Json.parse text).mapError .notJson

/-- The entries that the value of a configuration file holds. -/
def entriesOf : Json → Except ConfigFileError.Cause (List (String × Json))
  | .null => .ok []
  | .object entries => .ok entries
  | other => .error (.notMapping other.kind)

/-- The entries of a configuration file. -/
def load (w : Workspace) (p : Path) : Except ConfigFileError (List (String × Json)) :=
  Except.mapError (ConfigFileError.mk p) do
    let text ← (w.readText p).mapError .unreadable
    entriesOf (← readValue (isYaml p) text)

/-- The configuration file nearest to some names from the root on. -/
def nearest? (w : Workspace) (names : List String) : Option Path :=
  let directories := (List.range (names.length + 1)).reverse.map names.take
  let candidates := directories.flatMap fun d => fileNames.map fun name => Path.ofRoot (d ++ [name])
  candidates.find? w.isFile

/-- The configuration file for a path: the nearest one at or above it. -/
def find? (w : Workspace) (p : Path) : Option Path :=
  let place := w.resolve p
  nearest? w (if w.isFile place then place.names.dropLast else place.names)

/-- The entries of the configuration file for a path, if there is one. -/
def found (w : Workspace) (p : Path) : Except ConfigFileError (Option (List (String × Json))) :=
  match find? w p with
  | none => .ok none
  | some file => some <$> load w file

/-- Entries with others set over them. An entry that is there keeps its place. -/
def overridden (entries overrides : List (String × Json)) : List (String × Json) :=
  Json.setFields entries overrides

/-- The entries for a path: those of its configuration file, if it is to be used, and others set
over them. -/
def resolve (w : Workspace) (p : Path) (useFile : Bool) (overrides : List (String × Json)) :
    Except ConfigFileError (List (String × Json)) := do
  let entries ← if useFile then found w p else .ok none
  return overridden (entries.getD []) overrides

/-- A workspace with a new configuration file in a directory, and the path of the file. -/
def writeFresh (w : Workspace) (directory : Path) (name : String := freshFileName) :
    Except FileError (Path × Workspace) := do
  let path := directory.join (Path.ofString name)
  return (path, ← w.writeText path freshText)

end Config

end StyleGauge
