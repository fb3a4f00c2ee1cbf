/-
The settings of a project.

* `CatalogLint.GrammarSettings`, `CatalogLint.Settings` — the settings, with their default values;
* `CatalogLint.Settings.Fault`, `CatalogLint.Settings.fault?` — what makes settings unusable.
-/

import CatalogLint.Glob
import CatalogLint.Glossary

set_option autoImplicit false

namespace CatalogLint

/-- How grammar is checked. -/
structure GrammarSettings where
  enabled : Bool := true
  program : Text := "grammalecte-cli.py"
  /-- What the program is given after the file to check. -/
  arguments : List Text := ["-off", "apos", "--json", "--only_when_errors"]
  timeoutSeconds : Nat := 120
  /-- The command that installs the program, with its arguments; none if it is empty. -/
  installCommand : List Text := []
deriving DecidableEq, Repr

/-- The settings of a project. -/
structure Settings where
  ignores : List Text := ["**/.git/**", "**/venv/**", "**/.venv/**"]
  maxLineLength : Nat := 79
  glossary : Glossary.Extension := {}
  personalDictionaries : List Text := []
  personalWords : List Text := ["HMAC"]
  grammar : GrammarSettings := {}
deriving DecidableEq, Repr

namespace Settings

/-- What makes settings unusable. -/
inductive Fault where
  | ignore (pattern : Text) (error : Glob.Error)
  /-- No text fits into a line. -/
  | lineLength (length : Nat)
  | noEquivalent (term : Text)
  | noTime
deriving DecidableEq, Repr

def Fault.messages : Fault → List Text
  | ignore pattern error =>
    ["Invalid glob pattern in 'ignores': \"" ++ pattern ++ "\"", error.message]
  | lineLength length =>
    ["'maxLineLength' must be greater than 2, got " ++ Text.decimal length]
  | noEquivalent term => ["Glossary term \"" ++ term ++ "\" has no accepted translation"]
  | noTime => ["'grammar.timeoutSecs' must be greater than 0"]

/-- The first text that is no pattern, among what is left out of directories. -/
def ignoreFault? (settings : Settings) : Option Fault :=
  settings.ignores.findSome? fun text =>
    match Glob.parse text with
    | .ok _ => none
    | .error error => some (.ignore text error)

/-- A fault of the line length. -/
def lineLengthFault? (settings : Settings) : Option Fault :=
  if settings.maxLineLength ≤ 2 then some (.lineLength settings.maxLineLength) else none

/-- The first term without an equivalent. -/
def glossaryFault? (settings : Settings) : Option Fault :=
  (settings.glossary.terms.find? fun term => term.equivalents.isEmpty).map fun term =>
    .noEquivalent term.name

/-- A fault of the time that the engine has. -/
def timeFault? (settings : Settings) : Option Fault :=
  if settings.grammar.enabled && settings.grammar.timeoutSeconds == 0 then some .noTime else none

/-- What makes the settings unusable, if anything does. -/
def fault? (settings : Settings) : Option Fault :=
  settings.ignoreFault? <|> settings.lineLengthFault? <|> settings.glossaryFault? <|>
    settings.timeFault?

end Settings

end CatalogLint
