import StyleGauge.Config.Basic

/-!
# Reading a configuration

A configuration is read entry by entry over the defaults. An entry sets a value, is passed over
with or without a warning, or is an error; the first error ends the reading. Of two entries for
one value the later one counts.
-/

namespace StyleGauge

/-- What is wrong with a configuration. -/
inductive ConfigError where
  | notPatterns (label : String) (value : Json)
  | notStrings (label : String) (item : Json)
  | notInteger (label : String) (value : Json)
  | notBoolean (label : String) (value : Json)
  | notMapping (label : String) (value : Json)

/-- What is wrong, in words. -/
def ConfigError.detail : ConfigError → String
  | notPatterns label value => s!"{label} must be a list of glob patterns, got {value.shown}"
  | notStrings label item => s!"{label} must contain only strings, got {item.shown}"
  | notInteger label value => s!"{label} must be an integer, got {value.shown}"
  | notBoolean label value => s!"{label} must be a boolean, got {value.shown}"
  | notMapping label value => s!"{label} must be a mapping, got {value.shown}"

/-- The message of a configuration that is not good. -/
def ConfigError.message (e : ConfigError) : String :=
  "Invalid config: " ++ e.detail

/-- A value that an entry sets. -/
inductive Setting where
  | included (patterns : List String)
  | excluded (patterns : List String)
  | ignored (patterns : List String)
  | maxScore (value : Int)
  | threshold (t : Threshold) (value : Int)
  | toggle (check : Check) (on : Bool)
  deriving DecidableEq, Repr

namespace Config

/-- A configuration with a value set. -/
def apply (c : Config) : Setting → Config
  | .included patterns => { c with included := patterns }
  | .excluded patterns => { c with excluded := patterns }
  | .ignored patterns => { c with ignored := patterns }
  | .maxScore value => { c with maxScore := value }
  | .threshold t value => { c with thresholds := c.thresholds.set value t }
  | .toggle check on => { c with toggles := c.toggles.set on check }

/-- What comes of an entry. -/
inductive Finding where
  | setting (s : Setting)
  /-- An entry of no use, which is passed over. -/
  | unknown (label key : String)
  | error (e : ConfigError)

/-! ### Values -/

/-- The patterns that a value lists. -/
def patterns (label : String) (value : Json) : Except ConfigError (List String) :=
  match value with
  | .array items => items.mapM fun item =>
    match item with
    | .string s => .ok s
    | other => .error (.notStrings label other)
  | other => .error (.notPatterns label other)

/-- The integer that a value is. -/
def integer (label : String) (value : Json) : Except ConfigError Int :=
  match value.int? with
  | some n => .ok n
  | none => .error (.notInteger label value)

/-- The truth value that a value is. -/
def boolean (label : String) (value : Json) : Except ConfigError Bool :=
  match value.bool? with
  | some b => .ok b
  | none => .error (.notBoolean label value)

/-- What comes of a value that is good or not. -/
def Finding.ofValue {α : Type} (setting : α → Setting) : Except ConfigError α → Finding
  | .ok a => .setting (setting a)
  | .error e => .error e

/-! ### Entries -/

/-- What comes of the entries of a section. Null entries under a known name and sections that are
empty set nothing. -/
def sectionFindings {ν : Type} (label : String) (name? : String → Option ν)
    (value : ν → String → Json → Finding) (entries : Json) : List Finding :=
  if entries.isEmpty then []
  else match entries with
    | .object fields => fields.filterMap fun f =>
      match name? f.1, f.2 with
      | none, _ => some (.unknown label f.1)
      | some _, .null => none
      | some name, v => some (value name (label ++ " " ++ f.1) v)
    | other => [.error (.notMapping (label ++ "s") other)]

/-- What comes of an entry of the section of thresholds. -/
def thresholdFinding (t : Threshold) (label : String) (value : Json) : Finding :=
  .ofValue (.threshold t) (integer label value)

/-- What comes of an entry of the section of checks. -/
def toggleFinding (check : Check) (label : String) (value : Json) : Finding :=
  .ofValue (.toggle check) (boolean label value)

/-- What comes of an entry. A null entry sets nothing. -/
def entryFindings (entry : String × Json) : List Finding :=
  match entry with
  | (_, .null) => []
  | ("include", v) => [.ofValue .included (patterns "include" v)]
  | ("exclude", v) => [.ofValue .excluded (patterns "exclude" v)]
  | ("ignorePatterns", v) => [.ofValue .ignored (patterns "ignorePatterns" v)]
  | ("ignore_patterns", v) => [.ofValue .ignored (patterns "ignore_patterns" v)]
  | ("maxScore", v) => [.ofValue .maxScore (integer "maxScore" v)]
  | ("max_score", v) => [.ofValue .maxScore (integer "max_score" v)]
  | ("thresholds", v) => sectionFindings "threshold" Threshold.ofName? thresholdFinding v
  | ("rules", v) => sectionFindings "rule" Check.ofName? toggleFinding v
  | (key, _) => [.unknown "config" key]

/-- What comes of all entries, in order. -/
def findings (entries : List (String × Json)) : List Finding :=
  entries.flatMap entryFindings

/-! ### Results -/

/-- The configuration that findings lead to, or the first error. -/
def ofFindings : Config → List Finding → Except ConfigError Config
  | c, [] => .ok c
  | c, .setting s :: rest => ofFindings (c.apply s) rest
  | c, .unknown _ _ :: rest => ofFindings c rest
  | _, .error e :: _ => .error e

/-- The warnings up to the first error. -/
def warningsOf : List Finding → List String
  | [] => []
  | .setting _ :: rest => warningsOf rest
  | .unknown label key :: rest => s!"Ignoring unknown {label} key: {key}" :: warningsOf rest
  | .error _ :: _ => []

/-- The configuration that entries make of the defaults. -/
def ofEntries (entries : List (String × Json)) : Except ConfigError Config :=
  ofFindings {} (findings entries)

/-- The warnings about entries that are passed over. -/
def warnings (entries : List (String × Json)) : List String :=
  warningsOf (findings entries)

end Config

end StyleGauge
