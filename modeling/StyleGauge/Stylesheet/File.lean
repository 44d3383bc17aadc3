import StyleGauge.Files.Workspace
import StyleGauge.Stylesheet.Basic

/-!
# Stylesheets in files

A file is read as text and then as a stylesheet. A file that cannot be read gives a stylesheet with
an error and a warning.
-/

namespace StyleGauge.Stylesheet

/-- The stylesheet in a file. It bears the name of the file as it is given. -/
def ofFile (w : Workspace) (file : String) : Stylesheet :=
  match w.readText (Path.ofString file) with
  | .ok source => ofText source file
  | .error e => unreadable file e.message

/-- The warning about a file that cannot be read. -/
def readWarning? (w : Workspace) (file : String) : Option String :=
  match w.readText (Path.ofString file) with
  | .ok _ => none
  | .error e => some s!"Failed to read {file}: {e.message}"

end StyleGauge.Stylesheet
