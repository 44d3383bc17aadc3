import StyleGauge.Command.Run
import StyleGauge.Timestamp
import Std.Time.DateTime.Timestamp

/-!
# The program

The names of the files to look at come on standard input, one to a line, so that the program lists
no directory by itself: `find . | csscomplexity analyze`. The configuration files above the current
directory are looked up without being named.
-/

namespace StyleGauge.Main

/-- The lines of a stream, without their line ends. -/
partial def readLines (input : IO.FS.Stream) : IO (List String) := do
  let line ← input.getLine
  if line.isEmpty then return []
  return (line.dropEndWhile (· == '\n')).toString :: (← readLines input)

/-- The bytes of a file, if it can be read. -/
def bytesOf? (path : Path) : IO (Option (List UInt8)) :=
  try return some (← IO.FS.readBinFile path.text).toList
  catch _ => return none

/-- A workspace with a path read into it: a file if it can be read, else a directory. -/
def withPath (w : Workspace) (path : Path) : IO Workspace := do
  let place := w.resolve path
  let above := w.makeDirectory { place with names := place.names.dropLast }
  match ← bytesOf? path with
  | none => return w.makeDirectory place
  | some bytes => return (above.write place bytes).toOption.getD w

/-- The paths of configuration files at or above a directory. -/
def configPaths (names : List String) : List Path :=
  (List.range (names.length + 1)).flatMap fun n =>
    Config.fileNames.map fun name => Path.ofRoot (names.take n ++ [name])

/-- A workspace with a configuration file read into it, if it is there. -/
def withConfig (w : Workspace) (path : Path) : IO Workspace := do
  match ← bytesOf? path with
  | none => return w
  | some bytes => return (w.write path bytes).toOption.getD w

/-- Prints what a run printed, without styles unless the stream shows them. -/
def printTo (stream : IO.FS.Stream) (text : String) : IO Unit := do
  let styled ← stream.isTty
  stream.putStr (if styled then text else String.ofList (Console.plain text.toList))
  stream.flush

/-- The message of a run that ends without one in words of the program. -/
def lastMessage : Option Command.Stop → List String
  | some (.usage e) => [s!"Error: {e.message}"]
  | some (.crash (.pattern e)) => [e.message]
  | some (.crash (.fault f)) => [f.message]
  | _ => []

/-- Whether an invocation looks at files. -/
def looksAtFiles (arguments : List String) : Bool :=
  match Command.Invocation.ofArguments arguments with
  | .ok ⟨_, .analyze _⟩ | .ok ⟨_, .check _⟩ | .ok ⟨_, .newConfig _⟩ => true
  | _ => false

/-- The workspace of an invocation. -/
def readWorkspace (arguments : List String) : IO Workspace := do
  let current := (Path.ofString ((← IO.getEnv "PWD").getD "/")).names
  let start : Workspace := ⟨(Tree.directory []).makeDirectory current, current⟩
  if !looksAtFiles arguments then return start
  let paths ← readLines (← IO.getStdin)
  let named ← (paths.map Path.ofString).foldlM withPath start
  (configPaths current).foldlM withConfig named

/-- The time now, as it is shown. -/
def timeNow : IO String := do
  let now ← Std.Time.Timestamp.now
  return Timestamp.text now.toMillisecondsSinceUnixEpoch.val.toNat

/-- Writes the files that a run wrote. -/
def writeFiles (progress : Command.Progress) : IO Unit :=
  progress.written.forM fun path =>
    match progress.workspace.read path with
    | .ok bytes => IO.FS.writeBinFile path.text ⟨bytes.toArray⟩
    | .error _ => return

/-- Runs what the arguments ask for. -/
def program (arguments : List String) : IO UInt32 := do
  let outcome := Command.run (← readWorkspace arguments) arguments (← timeNow)
  writeFiles outcome.progress
  printTo (← IO.getStdout) outcome.progress.printed
  let messages := outcome.progress.messages ++ lastMessage outcome.stop
  (← IO.getStderr).putStr (String.join (messages.map (· ++ "\n")))
  return outcome.exitCode.toUInt32

end StyleGauge.Main

def main (arguments : List String) : IO UInt32 :=
  StyleGauge.Main.program arguments
