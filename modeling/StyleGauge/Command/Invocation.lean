import StyleGauge.Command.Arguments
import StyleGauge.Text.Integer

/-!
# Invocations

What arguments ask for: an analysis, a check, a new configuration file, help, or the version. Of an
option that is given several times the last value counts, but patterns add up.
-/

namespace StyleGauge.Command

/-- How a report is written. -/
inductive Format where
  | text
  | json
  deriving DecidableEq, Repr

/-- What an analysis is asked to do. -/
structure AnalyzeOptions where
  path : String := "."
  included : List String := []
  excluded : List String := []
  format : Format := .text
  /-- The file for the report. -/
  out : Option String := none
  silent : Bool := false
  useConfig : Bool := true
  deriving DecidableEq, Repr

/-- What a check is asked to do. -/
structure CheckOptions where
  path : String := "."
  maxScore : Int := 60
  /-- How many issues of high severity may be there. -/
  maxHigh : Int := 0
  silent : Bool := false
  useConfig : Bool := true
  deriving DecidableEq, Repr

/-- What is asked for. -/
inductive Request where
  | analyze (options : AnalyzeOptions)
  | check (options : CheckOptions)
  | newConfig (path : String)
  | help
  | version
  deriving DecidableEq, Repr

/-- An invocation of the program. -/
structure Invocation where
  /-- Whether more is to be told on the way. -/
  verbose : Bool
  request : Request
  deriving DecidableEq, Repr

/-- An option of the program or of one of its commands. -/
inductive OptionName where
  | verbose
  | version
  | help
  | included
  | excluded
  | format
  | out
  | silent
  | config
  | noConfig
  | maxScore
  | maxHigh
  deriving DecidableEq, Repr

/-- The spelling of the option that asks for help. -/
def helpSpelling : Spelling OptionName := { text := "--help", option := .help }

/-- The spellings of the options before a command. -/
def programSpellings : List (Spelling OptionName) := [
  { text := "--version", option := .version },
  { text := "--verbose", option := .verbose },
  helpSpelling]

/-- The spellings of the options that analyses and checks share. -/
def sharedSpellings : List (Spelling OptionName) := [
  { text := "-s", option := .silent },
  { text := "--silent", option := .silent },
  { text := "--config", option := .config },
  { text := "--no-config", option := .noConfig },
  helpSpelling]

/-- The spellings of the options of an analysis. -/
def analyzeSpellings : List (Spelling OptionName) := [
  { text := "-i", option := .included, takesValue := true },
  { text := "--include", option := .included, takesValue := true },
  { text := "-e", option := .excluded, takesValue := true },
  { text := "--exclude", option := .excluded, takesValue := true },
  { text := "-f", option := .format, takesValue := true },
  { text := "--format", option := .format, takesValue := true },
  { text := "-o", option := .out, takesValue := true },
  { text := "--out", option := .out, takesValue := true }] ++ sharedSpellings

/-- The spellings of the options of a check. -/
def checkSpellings : List (Spelling OptionName) := [
  { text := "--max-score", option := .maxScore, takesValue := true },
  { text := "--max-high-severity", option := .maxHigh, takesValue := true }] ++ sharedSpellings

namespace Given

/-- Whether an option is given. -/
def has (g : Given OptionName) (name : OptionName) : Bool :=
  g.options.any (·.1 == name)

/-- The values that are given for an option. -/
def values (g : Given OptionName) (name : OptionName) : List String :=
  (g.options.filter (·.1 == name)).map Prod.snd

/-- The value that counts for an option. -/
def value? (g : Given OptionName) (name : OptionName) : Option String :=
  (g.values name).getLast?

/-- Whether a configuration file is to be used: the last word on that counts. -/
def useConfig (g : Given OptionName) : Bool :=
  ((g.options.map Prod.fst).reverse.find? fun o => o == .config || o == .noConfig) != some .noConfig

/-- The one path that is given, or the current directory. -/
def path (g : Given OptionName) : Except UsageError String :=
  match g.words with
  | [] => .ok "."
  | [path] => .ok path
  | _ :: word :: _ => .error (.unexpectedWord word)

/-- The integer that is given for an option. -/
def integer (g : Given OptionName) (name : OptionName) (spelling : String) (unset : Int) :
    Except UsageError Int :=
  match g.value? name with
  | none => .ok unset
  | some text =>
    match Text.int? text.toList with
    | some n => .ok n
    | none => .error (.badValue spelling text)

/-- The format that is given. -/
def format (g : Given OptionName) : Except UsageError Format :=
  match g.value? .format with
  | none | some "text" => .ok .text
  | some "json" => .ok .json
  | some other => .error (.badValue "--format" other)

end Given

/-- What the arguments of an analysis ask for. -/
def readAnalyze (arguments : List String) : Except UsageError Request := do
  let given ← readArguments analyzeSpellings false arguments
  if given.has .help then return .help
  return .analyze {
    path := ← given.path
    included := given.values .included
    excluded := given.values .excluded
    format := ← given.format
    out := given.value? .out
    silent := given.has .silent
    useConfig := given.useConfig }

/-- What the arguments of a check ask for. -/
def readCheck (arguments : List String) : Except UsageError Request := do
  let given ← readArguments checkSpellings false arguments
  if given.has .help then return .help
  return .check {
    path := ← given.path
    maxScore := ← given.integer .maxScore "--max-score" 60
    maxHigh := ← given.integer .maxHigh "--max-high-severity" 0
    silent := given.has .silent
    useConfig := given.useConfig }

/-- What the arguments of the command for a new configuration file ask for. -/
def readNewConfig (arguments : List String) : Except UsageError Request := do
  let given ← readArguments [helpSpelling] false arguments
  if given.has .help then return .help
  return .newConfig (← given.path)

/-- What the arguments from the name of a command on ask for. -/
def readCommand : List String → Except UsageError Request
  | [] => .error .missingCommand
  | "analyze" :: arguments => readAnalyze arguments
  | "check" :: arguments => readCheck arguments
  | "init" :: arguments => readNewConfig arguments
  | name :: _ => .error (.unknownCommand name)

/-- What all arguments ask for. Of help and the version the one given first counts. -/
def Invocation.ofArguments (arguments : List String) : Except UsageError Invocation := do
  if arguments.isEmpty then return { verbose := false, request := .help }
  let given ← readArguments programSpellings true arguments
  let verbose := given.has .verbose
  match (given.options.map Prod.fst).find? fun o => o == .help || o == .version with
  | some .help => return { verbose, request := .help }
  | some _ => return { verbose, request := .version }
  | none => return { verbose, request := ← readCommand given.words }

end StyleGauge.Command
