/-
Carrying out a command.

* `CatalogLint.CommandLine.Error` — why a command cannot be carried out;
* `CatalogLint.CommandLine.Response` — what comes of the arguments;
* `CatalogLint.CommandLine.check`, `CatalogLint.CommandLine.setUp` — the commands;
* `CatalogLint.CommandLine.run` — carries out what the arguments ask for.
-/

import CatalogLint.CommandLine.Arguments
import CatalogLint.CommandLine.Event
import CatalogLint.Output
import CatalogLint.Settings.Load
import CatalogLint.Settings.Suite

set_option autoImplicit false

namespace CatalogLint.CommandLine

/-- Why a command cannot be carried out. -/
inductive Error where
  | settings (cause : Settings.Error)
  | patch (path : Path) (error : IoError)
  | dictionaries (cause : Dictionary.Error)
  | io (error : IoError)
  /-- Nothing can go on after an error of the engine. -/
  | engine (cause : Engine.Error)
deriving DecidableEq, Repr

def Error.messages : Error → List Text
  | settings cause => cause.messages
  | patch path error => ["Failed to read diff file: " ++ path.quoted, error.message]
  | dictionaries cause =>
    ["Failed to load personal dictionaries", cause.message, cause.reason]
  | io error => [error.message]
  | engine cause => [cause.message]

/-- What comes of a command that was carried out. -/
structure Transcript where
  status : Status
  output : List Output.Piece := []
  events : List Event := []
  /-- What is written beside the notes. -/
  remarks : List Output.Piece := []
deriving DecidableEq, Repr

/-- What comes of the arguments. -/
inductive Response where
  | refused (refusal : Refusal)
  | help
  | done (transcript : Transcript)
  | failed (error : Error)
deriving DecidableEq, Repr

def Response.isBroken : Response → Bool
  | failed (.engine _) => true
  | _ => false

/-- The text of the notes and of what is written beside them. -/
def Transcript.log (colours : Bool) (transcript : Transcript) : Text :=
  (transcript.events.flatMap fun event => event.line ++ ['\n']) ++
    Output.render colours transcript.remarks

/-! ### Checking -/

def workingDirectory (files : Files) : Path := ⟨'/' :: Text.joinWith "/" files.working⟩

/-- The patch that the arguments name, if they name one, with its path. -/
def loadPatch (files : Files) (arguments : CheckArguments) :
    Except Error (Option (Path × Patch.Store)) :=
  match arguments.patch with
  | none => .ok none
  | some path =>
    match files.readText path with
    | .error error => .error (.patch path error)
    | .ok text => .ok (some (path, .ofPatch text (arguments.patchRoot.getD ⟨"."⟩)))

/-- What to check: the given paths, or the catalogs of the patch, or the working directory. -/
def pathsToCheck (arguments : CheckArguments) (patch : Option Patch.Store) : List Path :=
  if !arguments.paths.isEmpty then arguments.paths
  else
    match patch with
    | some store => store.paths.filter Path.isCatalog
    | none => [⟨"."⟩]

/-- What is written about a check. -/
def checkOutput (arguments : CheckArguments) (verdict : Verdict) (outcome : Outcome) :
    List Output.Piece :=
  match arguments.format.getD .human with
  | .json => [Output.plain (Output.document verdict outcome.filesChecked)]
  | .human =>
    if verdict.issues.isEmpty then
      Output.allClear outcome.filesChecked arguments.patch.isSome
    else Output.listing verdict.issues

/-- Checks catalogs; the file tree is what the engine leaves behind. -/
def check (host : Settings.Host) (files : Files) (arguments : CheckArguments) :
    Except Error (Transcript × Files) := do
  let settings ← ((Settings.load files (workingDirectory files)).mapError .settings)
  let settings := settings.settings
  let patch ← loadPatch files arguments
  let store := patch.map Prod.snd
  let selection := files.select (pathsToCheck arguments store) settings.ignores
  let suite ← (settings.suite host files (!arguments.noGrammar)).mapError .dictionaries
  let (outcome, session) := checkPaths files suite store selection.files { state := files }
  if let some (_, failure) := outcome.failures.find? fun (_, failure) => failure.error.isFatal then
    throw (.engine failure.error)
  let verdict := outcome.report.verdict none
  .ok ({
      status := verdict.status
      output := checkOutput arguments verdict outcome
      events :=
        (patch.toList.filter fun (_, store) => store.isEmpty).map (fun (path, _) =>
          .emptyPatch path) ++
        Event.ofSelection selection ++ Event.ofSession suite session ++
        outcome.results.flatMap fun (path, result) => Event.ofResult path result
      remarks :=
        Output.unparsedWarning outcome.parseErrors ++
          Output.failureWarning outcome.failures.length },
    session.state)

/-! ### Setting up -/

/-- Makes a file with the default settings, unless there is one. -/
def setUp (files : Files) : Except Error (Transcript × Files) :=
  if files.exists? Settings.fileName then
    let reason := Settings.fileName.text ++ " already exists"
    let verdict := ({} : Report).verdict (some reason)
    .ok ({ status := verdict.status, remarks := Output.obstacle reason }, files)
  else
    match files.write Settings.fileName (Text.toString ({} : Settings).render).toUTF8 with
    | .error error => .error (.io error)
    | .ok files =>
      .ok ({ status := .success, output := Output.created Settings.fileName.text }, files)

/-! ### Commands -/

/-- What comes of a command, with the file tree it leaves behind. -/
def respond (files : Files) (result : Except Error (Transcript × Files)) : Response × Files :=
  match result with
  | .ok (transcript, files) => (.done transcript, files)
  | .error error => (.failed error, files)

def run (host : Settings.Host) (files : Files) (environment : List (Text × Text))
    (arguments : List Text) : Response × Files :=
  match parse environment arguments with
  | .error refusal => (.refused refusal, files)
  | .ok .nothing => (.help, files)
  | .ok (.check arguments) => respond files (check host files arguments)
  | .ok .setUp => respond files (setUp files)

end CatalogLint.CommandLine
