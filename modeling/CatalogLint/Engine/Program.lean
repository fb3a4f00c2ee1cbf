/-
Engines that are programs.

The text to analyze is put into a temporary file, which the program gets as its first argument after
`-f`.  What it writes is read as its answer, unless it ends otherwise than it should or not in time.
Another program may install it.  What a program does is not known here: whatever starts programs is
handed to the engine.

* `CatalogLint.Engine.Ending`, `CatalogLint.Engine.Launcher` — what comes of a program, and what
  starts programs;
* `CatalogLint.Engine.temporaryFile` — the file with the text;
* `CatalogLint.Engine.answerOf` — the answer in what a program writes;
* `CatalogLint.Engine.ofSettings` — the engine that settings describe.
-/

import CatalogLint.Engine.Output
import CatalogLint.Settings.Basic

set_option autoImplicit false

namespace CatalogLint.Engine

/-- What comes of a program that was started. -/
structure Ending where
  /-- How it ended; nothing if its time was up before. -/
  status : Option ExitStatus
  output : ByteArray := .empty
  errors : ByteArray := .empty
  /-- The file tree that it leaves behind. -/
  root : Tree

/-- What starts a program with its arguments in a file tree, for so many seconds at most if there is
a limit; an error if the program cannot be started. -/
abbrev Launcher : Type :=
  Files → (limit : Option Nat) → (program : Text) → (arguments : List Text) →
    Except IoError Ending

/-- The path of the temporary file with the text to analyze. -/
def temporaryFile : Path := ⟨"/tmp/polint_000001.txt"⟩

/-- The place of the temporary file. -/
def temporaryPlace : List Text :=
  temporaryFile.components.filterMap fun component =>
    match component with
    | .named name => some name
    | _ => none

/-- The number of seconds from which on the end of a request cannot be told in 64 bits. -/
def unmeasurableSeconds : Nat := 9223372036854775807

/-- The answer of a program that could be started. -/
def answerOf (settings : GrammarSettings) (ending : Ending) : Except Error (List Remark) :=
  if unmeasurableSeconds ≤ settings.timeoutSeconds then .error .unmeasurable
  else
    match ending.status with
    | none => .error (.timeout settings.timeoutSeconds)
    | some status =>
      match Files.textOf? ending.output, Files.textOf? ending.errors with
      | some output, some errors =>
        if status.isSuccess then readOutput output
        else .error (.unexpected (.exited settings.program status (Text.trim errors)))
      | _, _ => .error (.io .notUtf8)

/-- Why there is no answer of a program that could not be started. -/
def startError (settings : GrammarSettings) (error : IoError) : Error :=
  match error with
  | .noSuchFile | .permissionDenied => .unavailable settings.program error.message
  | error => .io error

section
variable (launcher : Launcher) (settings : GrammarSettings)

/-- Runs the program on a text. -/
def analyzeWith (text : Text) (files : Files) : Except Error (List Remark) × Files :=
  let file := Tree.file (Text.toString text).toUTF8 false
  let given := { files with root := files.root.put temporaryPlace file }
  match launcher given (some settings.timeoutSeconds) settings.program
      ("-f" :: temporaryFile.text :: settings.arguments) with
  | .error error => (.error (startError settings error), files)
  | .ok ending =>
    (answerOf settings ending, { files with root := ending.root.erase temporaryPlace })

/-- Runs the command that installs the program.  There is no limit to its time, so a program that
does not tell how it ended has been killed. -/
def installWith (files : Files) : Except Error PUnit × Files :=
  match settings.installCommand with
  | [] => (.error (.unavailable settings.program "no install command configured"), files)
  | program :: arguments =>
    match launcher files none program arguments with
    | .error error => (.error (.io error), files)
    | .ok ending =>
      let status := ending.status.getD (.killed 9)
      let files := { files with root := ending.root }
      if status.isSuccess then (.ok ⟨⟩, files)
      else
        (.error (.unavailable settings.program
          ("install command \x60" ++ program ++ "\x60 exited with " ++ status.message)),
          files)

def ofSettings : Engine Files where
  analyze := analyzeWith launcher settings
  provision := installWith launcher settings

end

end CatalogLint.Engine
