import StyleGauge.Command.Invocation
import StyleGauge.Config.File
import StyleGauge.Config.Setting
import StyleGauge.Console.Text
import StyleGauge.Files.Search
import StyleGauge.Report.Record
import StyleGauge.Stylesheet.File

/-!
# Running an invocation

A run starts in a workspace and leaves one, with what was printed on the way. It ends at the first
failure; what was printed and written until then stays.
-/

namespace StyleGauge.Command

/-- A failure that is not told to the user in words of the program. -/
inductive Crash where
  | pattern (e : GlobError)
  | fault (f : Number.Fault)

/-- Why a run ends before its end. -/
inductive Stop where
  /-- The arguments are of no use. -/
  | usage (e : UsageError)
  /-- Something went wrong, as the message tells. -/
  | refused (message : String)
  /-- A check is not passed. -/
  | notPassed
  | crash (c : Crash)

/-- What a run has done so far. -/
structure Progress where
  workspace : Workspace
  /-- The text printed. -/
  printed : String := ""
  /-- The lines of warnings and errors. -/
  messages : List String := []
  /-- The files written, in order. -/
  written : List Path := []

/-- A part of a run. -/
abbrev Action := ExceptT Stop (StateM Progress)

/-- Prints a text and a line end. -/
def print (text : String) : Action Unit :=
  modify fun p => { p with printed := p.printed ++ text ++ "\n" }

/-- Gives warnings or errors, one on each line. -/
def tell (messages : List String) : Action Unit :=
  modify fun p => { p with messages := p.messages ++ messages }

/-- Ends a run with an error message. -/
def refuse {α : Type} (message : String) : Action α :=
  throw (.refused message)

/-- The value of a result, or the end of the run with the message of its error. -/
def orRefuse {ε α : Type} (message : ε → String) : Except ε α → Action α
  | .ok a => pure a
  | .error e => refuse (message e)

/-- The value of a computation, or the end of the run with its fault. -/
def orFault {α : Type} : Except Number.Fault α → Action α
  | .ok a => pure a
  | .error f => throw (.crash (.fault f))

/-- Goes on in the workspace that a file has been written into. -/
def keepWritten (file : Path) (w : Workspace) : Action Unit :=
  modify fun p => { p with workspace := w, written := p.written ++ [file] }

/-! ### Analyses -/

/-- The configuration that entries make, with warnings about those that are passed over. -/
def configOf (entries : List (String × Json)) : Action Config := do
  tell (Config.warnings entries)
  orRefuse ConfigError.message (Config.ofEntries entries)

/-- The stylesheets at a path, with warnings about files that cannot be read. -/
def readStylesheets (path : String) (config : Config) : Action (List Stylesheet) := do
  let w := (← get).workspace
  match Search.stylesheets w path config with
  | .error (.notFound base) => refuse (SearchError.notFound base).message
  | .error (.pattern e) => throw (.crash (.pattern e))
  | .ok paths =>
    let files := paths.map Path.text
    tell (files.filterMap (Stylesheet.readWarning? w))
    return files.map (Stylesheet.ofFile w)

/-- The report on a path, and the entries of its configuration. -/
def analyzePath (path : Path) (useConfig : Bool) (overrides : List (String × Json))
    (timestamp : String) : Action (Report × List (String × Json)) := do
  let entries ← orRefuse ConfigFileError.message
    (Config.resolve (← get).workspace path useConfig overrides)
  let config ← configOf entries
  let sheets ← readStylesheets path.text config
  return (← orFault (Report.ofStylesheets sheets config timestamp), entries)

/-- The entries that patterns given on the command line stand for. -/
def patternEntries (o : AnalyzeOptions) : List (String × Json) :=
  let entry (key : String) (patterns : List String) : List (String × Json) :=
    if patterns.isEmpty then [] else [(key, .ofStrings patterns)]
  entry "include" o.included ++ entry "exclude" o.excluded

/-- A report as it is written; a silent one without a file has no text to show. -/
def render (format : Format) (silent : Bool) (r : Report) : Except Number.Fault String :=
  match format with
  | .json => .ok r.text
  | .text => if silent then .ok "" else Console.report r

/-- Writes a report into a file. -/
def writeReport (out : Path) (text : String) : Action Unit := do
  keepWritten out (← orRefuse FileError.message ((← get).workspace.writeText out text))

/-- Makes an analysis. -/
def analyze (o : AnalyzeOptions) (timestamp : String) : Action Unit := do
  let w := (← get).workspace
  let out := o.out.filter (!·.isEmpty)
  if out.any fun file => w.isDirectory (Path.ofString file) then
    throw (.usage (.directoryGiven (out.getD "")))
  let path := w.resolve (Path.ofString o.path)
  let (report, _) ← analyzePath path o.useConfig (patternEntries o) timestamp
  let text ← orFault (render o.format (o.silent && out.isNone) report)
  match out with
  | some file =>
    writeReport (Path.ofString file) text
    unless o.silent do print s!"Report written to {file}"
  | none => unless o.silent do print text

/-! ### Checks -/

/-- Why the issues of high severity do not pass. -/
def highReasons (high limit : Int) : List String :=
  if limit < high then
    let high := toString high
    let limit := toString limit
    [s!"High severity issues ({high}) exceed maximum ({limit})"]
  else []

/-- Makes a check. -/
def check (o : CheckOptions) (timestamp : String) : Action Unit := do
  let path := (← get).workspace.resolve (Path.ofString o.path)
  let (report, entries) ← analyzePath path o.useConfig [("maxScore", .ofInt o.maxScore)] timestamp
  let config ← configOf entries
  let reasons := report.reasons config ++ highReasons (report.summary.count .high) o.maxHigh
  unless o.silent do
    print (← orFault (Console.verdict reasons.isEmpty reasons report.summary.overallScore))
  unless reasons.isEmpty do throw .notPassed

/-! ### Configuration files -/

/-- Writes a new configuration file. -/
def newConfig (path : String) : Action Unit := do
  let w := (← get).workspace
  if w.isFile (Path.ofString path) && !Path.asksForDirectory path then
    throw (.usage (.fileGiven path))
  let directory := w.resolve (Path.ofString path)
  let (file, after) ← orRefuse FileError.message (Config.writeFresh w directory)
  keepWritten file after
  print s!"Created config file: {file.text}"

/-! ### Runs -/

/-- The text of the version. -/
def versionText : String :=
  s!"csscomplexity, version {Report.analyzerVersion}"

/-- How the program is used. -/
def helpText : String :=
  "Usage: csscomplexity [--verbose] [--version] [--help] COMMAND ...\n\n" ++
  "  analyze [PATH] [-i PATTERN] [-e PATTERN] [-f text|json] [-o FILE] [-s] [--no-config]\n" ++
  "  check [PATH] [--max-score N] [--max-high-severity N] [-s] [--no-config]\n" ++
  "  init [PATH]"

/-- Does what is asked for. -/
def Request.run (timestamp : String) : Request → Action Unit
  | analyze o => Command.analyze o timestamp
  | check o => Command.check o timestamp
  | newConfig path => Command.newConfig path
  | help => print helpText
  | version => print versionText

/-- How a run ended, and what it did. -/
structure Outcome where
  progress : Progress
  stop : Option Stop := none

/-- The exit code of a run: two if the arguments are of no use, one after other failures. -/
def Outcome.exitCode (o : Outcome) : Nat :=
  match o.stop with
  | none => 0
  | some (.usage _) => 2
  | some _ => 1

/-- The outcome of a part of a run. Messages that end it are told. -/
def outcome (w : Workspace) (action : Action Unit) : Outcome :=
  match action.run.run { workspace := w } with
  | (.ok _, p) => { progress := p }
  | (.error (.refused message), p) =>
    { progress := { p with messages := p.messages ++ [s!"Error: {message}"] }
      stop := some (.refused message) }
  | (.error stop, p) => { progress := p, stop := some stop }

/-- Runs what arguments ask for in a workspace. -/
def run (w : Workspace) (arguments : List String) (timestamp : String) : Outcome :=
  match Invocation.ofArguments arguments with
  | .error e => outcome w (throw (.usage e))
  | .ok invocation => outcome w (invocation.request.run timestamp)

end StyleGauge.Command
