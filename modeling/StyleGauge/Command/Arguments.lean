/-!
# Arguments of a command

Arguments are options and words. An option is spelled long, with its value after an equals sign or
as the next argument, or short, where several may share one dash and a value may follow at once.
After two dashes alone all arguments are words.
-/

namespace StyleGauge.Command

/-- Why arguments cannot be understood. -/
inductive UsageError where
  | unknownOption (spelling : String)
  | missingValue (spelling : String)
  | unexpectedValue (spelling : String)
  | badValue (spelling value : String)
  | unexpectedWord (word : String)
  | missingCommand
  | unknownCommand (name : String)
  | directoryGiven (path : String)
  | fileGiven (path : String)
  deriving DecidableEq, Repr

/-- The message of arguments that cannot be understood. -/
def UsageError.message : UsageError → String
  | unknownOption spelling => s!"No such option: {spelling}"
  | missingValue spelling => s!"Option '{spelling}' requires an argument."
  | unexpectedValue spelling => s!"Option '{spelling}' does not take a value."
  | badValue spelling value => s!"Invalid value for '{spelling}': '{value}'"
  | unexpectedWord word => s!"Got unexpected extra argument ({word})"
  | missingCommand => "Missing command."
  | unknownCommand name => s!"No such command '{name}'."
  | directoryGiven path => s!"File '{path}' is a directory."
  | fileGiven path => s!"Directory '{path}' is a file."

/-- A spelling of an option, long or short. -/
structure Spelling (ο : Type) where
  /-- The spelling with its dashes. -/
  text : String
  option : ο
  /-- Whether a value follows. -/
  takesValue : Bool := false

/-- What has been given: options in order, with the text of their values, and words. -/
structure Given (ο : Type) where
  options : List (ο × String)
  words : List String

variable {ο : Type}

/-- Whether an argument is an option, and not a word. -/
def isOption (argument : String) : Bool :=
  match argument.toList with
  | '-' :: _ :: _ => true
  | _ => false

/-- An argument cut at its first equals sign. -/
def splitAtEquals (argument : String) : String × Option String :=
  let cs := argument.toList
  match cs.dropWhile (· != '=') with
  | [] => (argument, none)
  | _ :: value => (String.ofList (cs.takeWhile (· != '=')), some (String.ofList value))

/-- The short options that share one dash: those that are complete, and a last one that takes the
next argument for its value. -/
def readShort (spellings : List (Spelling ο)) :
    List Char → Except UsageError (List (ο × String) × Option (Spelling ο))
  | [] => .ok ([], none)
  | c :: cs =>
    let text := String.ofList ['-', c]
    match spellings.find? (·.text == text) with
    | none => .error (.unknownOption text)
    | some s =>
      if !s.takesValue then do
        let (more, waiting) ← readShort spellings cs
        return ((s.option, "") :: more, waiting)
      else if cs.isEmpty then .ok ([], some s)
      else .ok ([(s.option, String.ofList cs)], none)

/-- The options that one argument gives: those that are complete, and a last one that takes the
next argument for its value. -/
def readOption (spellings : List (Spelling ο)) (argument : String) :
    Except UsageError (List (ο × String) × Option (Spelling ο)) :=
  let (text, value) := splitAtEquals argument
  match spellings.find? fun s => s.text == text && s.text.length != 2 with
  | some s =>
    match s.takesValue, value with
    | true, some v => .ok ([(s.option, v)], none)
    | true, none => .ok ([], some s)
    | false, some _ => .error (.unexpectedValue text)
    | false, none => .ok ([(s.option, "")], none)
  | none =>
    if argument.startsWith "--" then .error (.unknownOption text)
    else readShort spellings argument.toList.tail

/-- What is given with more options before it. -/
def Given.withOptions (options : List (ο × String)) (given : Given ο) : Given ο :=
  { given with options := options ++ given.options }

/-- What is given with a word before it. -/
def Given.withWord (word : String) (given : Given ο) : Given ο :=
  { given with words := word :: given.words }

/-- What arguments give. If options end with the first word, that word and all that follows are
words. -/
def readArguments (spellings : List (Spelling ο)) (endWithWord : Bool) :
    List String → Except UsageError (Given ο)
  | [] => .ok ⟨[], []⟩
  | argument :: rest =>
    if argument = "--" then .ok ⟨[], rest⟩
    else if !isOption argument then
      if endWithWord then .ok ⟨[], argument :: rest⟩
      else Given.withWord argument <$> readArguments spellings endWithWord rest
    else
      match readOption spellings argument with
      | .error e => .error e
      | .ok (options, none) =>
        Given.withOptions options <$> readArguments spellings endWithWord rest
      | .ok (options, some s) =>
        match rest with
        | [] => .error (.missingValue s.text)
        | value :: rest =>
          Given.withOptions (options ++ [(s.option, value)]) <$>
            readArguments spellings endWithWord rest

end StyleGauge.Command
