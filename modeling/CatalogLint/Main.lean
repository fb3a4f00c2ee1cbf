/-
The command line.

The files that a command can ask for are read first: those below the working directory, those that
the arguments name, and the marks of settings and repositories above it.  The command itself then
works on what was read, and only a new settings file is written back.  No other program is started
and nothing is fetched, so that the check of grammar always finds its engine missing.

* `main` — carries out what the arguments ask for.
-/

import CatalogLint.CommandLine.Run

set_option autoImplicit false

namespace CatalogLint.CommandLine

/-- What is shown where help is asked for. -/
def helpText : Text :=
  "Checks message catalogs\n\n" ++
  "Usage: catalog-lint [COMMAND]\n\n" ++
  "Commands:\n" ++
  "  check  Check message catalogs\n" ++
  "  init   Make a settings file\n" ++
  "  help   Show this help\n\n" ++
  "Options of check:\n" ++
  "  --diff <DIFF>            Show only the entries that a patch changes\n" ++
  "  --diff-root <DIFF_ROOT>  The directory that the patch's files are in\n" ++
  "  --no-grammar             Leave grammar and spelling out\n" ++
  "  --format <FORMAT>        human or json\n"

/-- What is shown where the arguments are refused. -/
def Refusal.text : Refusal → Text
  | help => helpText
  | version => "catalog-lint 0.1.0\n"
  | unknownArgument => "error: unexpected argument\n"
  | unknownCommand => "error: unrecognized subcommand\n"
  | badValue => "error: invalid or missing value\n"
  | missingOption => "error: a required option is missing\n"
  | repeatedOption => "error: an option cannot be used multiple times\n"
  | unneededValue => "error: unexpected value for an option\n"

/-- The names on the way to an absolute path. -/
def placeOf (path : String) : List Text :=
  (Path.mk path.toList).components.filterMap fun component =>
    match component with
    | .named name => some name
    | _ => none

/-- The place that a path names, by its text alone. -/
def absolutePlace (working : List Text) (path : Path) : List Text :=
  path.components.foldl
    (fun place component =>
      match component with
      | .root => []
      | .current => place
      | .parent => place.dropLast
      | .named name => place ++ [name])
    working

/-- The tree at a directory entry; a tree that cannot be read is empty. -/
partial def readTree (entry : IO.FS.DirEntry) : IO Tree := do
  let path := entry.path
  if ← path.isDir then
    if entry.fileName = ".git" then return .directory .empty
    let entries ← try path.readDir catch _ => pure #[]
    let mut forest := Forest.empty
    for inner in entries do
      forest := forest.insert inner.fileName.toList (← readTree inner)
    return .directory forest
  else
    let content ← try IO.FS.readBinFile path catch _ => pure .empty
    return .file content false

/-- The file tree that the arguments can ask for. -/
def readFiles (arguments : List Text) : IO Files := do
  let here ← IO.currentDir
  let working := placeOf here.toString
  let mut root := Tree.directory .empty
  root := root.put working (← readTree ⟨here, "."⟩)
  for path in (Path.mk here.toString.toList).ancestors.drop 1 do
    for name in [Settings.fileName, Settings.repositoryMark] do
      let mark := path.join name
      let entry : IO.FS.DirEntry := ⟨path.text.toString, name.text.toString⟩
      if ← entry.path.pathExists then
        root := root.put (absolutePlace [] mark) (← readTree entry)
  for argument in arguments do
    let place := absolutePlace working ⟨argument⟩
    let entry : IO.FS.DirEntry := ⟨here, argument.toString⟩
    if (root.get? place).isNone && (← entry.path.pathExists) then
      root := root.put place (← readTree entry)
  return { root, working }

/-- Writes the settings file if the command made one. -/
def writeBack (before after : Files) : IO PUnit := do
  if !before.exists? Settings.fileName then
    match after.read Settings.fileName with
    | .ok content => IO.FS.writeBinFile Settings.fileName.text.toString content
    | .error _ => pure ⟨⟩

end CatalogLint.CommandLine

open CatalogLint CatalogLint.CommandLine in
def main (arguments : List String) : IO UInt32 := do
  let arguments := arguments.map String.toList
  let files ← readFiles arguments
  let patch ← IO.getEnv patchVariable.toString
  let environment := (patch.map fun value => (patchVariable, value.toList)).toList
  let out ← IO.getStdout
  let err ← IO.getStderr
  let colours := (← out.isTty) && (← IO.getEnv "NO_COLOR").isNone
  let (response, after) := run .bare files environment arguments
  writeBack files after
  match response with
  | .refused refusal =>
    (if refusal.status = .success then out else err).putStr refusal.text.toString
    return refusal.status.code.toUInt32
  | .help =>
    out.putStr helpText.toString
    return Status.success.code.toUInt32
  | .done transcript =>
    out.putStr (Output.render colours transcript.output).toString
    err.putStr (transcript.log colours).toString
    return transcript.status.code.toUInt32
  | .failed error =>
    err.putStrLn ("Error: " ++ (Text.joinWith ": " error.messages).toString)
    return Status.abort.code.toUInt32
