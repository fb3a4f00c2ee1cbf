/-
The arguments of the command line.

An option may take a value, attached after `=` or as the next argument.  Such a value is looked at
only once it is certain that it is complete, when the next option or path comes or at the end, so
that an argument that means nothing is refused first.

* `CatalogLint.CommandLine.Refusal` — why arguments are not carried out as a command;
* `CatalogLint.CommandLine.CheckArguments`, `CatalogLint.CommandLine.Request` — the arguments of a
  check, and what is asked for;
* `CatalogLint.CommandLine.Reader` — the arguments read so far, and the value that is not complete;
* `CatalogLint.CommandLine.parse` — what the arguments ask for.
-/

import CatalogLint.Path
import CatalogLint.Verdict

set_option autoImplicit false

namespace CatalogLint.CommandLine

/-! ### Results -/

/-- Why arguments are not carried out as a command. -/
inductive Refusal where
  | help
  | version
  | unknownArgument
  | unknownCommand
  | badValue
  | missingOption
  | repeatedOption
  | unneededValue
deriving DecidableEq, Repr

/-- How a run with such arguments ends. -/
def Refusal.status : Refusal → Status
  | help | version => .success
  | _ => .abort

/-- How the issues are written. -/
inductive Format where
  | human
  | json
deriving DecidableEq, Repr

/-- The format of a name. -/
def Format.ofText? (text : Text) : Option Format :=
  if text = "human" then some .human
  else if text = "json" then some .json
  else none

/-- The arguments of a check. -/
structure CheckArguments where
  paths : List Path := []
  patch : Option Path := none
  patchRoot : Option Path := none
  noGrammar : Bool := false
  format : Option Format := none
deriving DecidableEq, Repr

/-- What is asked for. -/
inductive Request where
  | nothing
  | check (arguments : CheckArguments)
  | setUp
deriving DecidableEq, Repr

/-! ### Options -/

/-- The commands. -/
inductive Command where
  | check
  | setUp
deriving DecidableEq, Repr

def Command.ofText? (text : Text) : Option Command :=
  if text = "check" then some .check
  else if text = "init" then some .setUp
  else none

def helpCommand : Text := "help"

/-- The options that take a value. -/
inductive ValueOption where
  | patch
  | patchRoot
  | format
deriving DecidableEq, Repr

/-- The options. -/
inductive Flag where
  | help
  | verbose
  | noGrammar
  | value (option : ValueOption)
deriving DecidableEq, Repr

/-- The option of a command that has a long name. -/
def Flag.ofLongName? (command : Command) (name : Text) : Option Flag :=
  if name = "help" then some .help
  else if name = "verbose" then some .verbose
  else
    match command with
    | .setUp => none
    | .check =>
      if name = "no-grammar" then some .noGrammar
      else if name = "diff" then some (.value .patch)
      else if name = "diff-root" then some (.value .patchRoot)
      else if name = "format" then some (.value .format)
      else none

/-- The option that has a letter. -/
def Flag.ofLetter? (letter : Char) : Option Flag :=
  if letter = 'h' then some .help
  else if letter = 'v' then some .verbose
  else none

/-- The path that a value spells; no path is empty. -/
def path? (text : Text) : Except Refusal Path :=
  if text.isEmpty then .error .badValue else .ok ⟨text⟩

namespace CheckArguments

def has (arguments : CheckArguments) : ValueOption → Bool
  | .patch => arguments.patch.isSome
  | .patchRoot => arguments.patchRoot.isSome
  | .format => arguments.format.isSome

/-- The arguments with the value of an option. -/
def set (arguments : CheckArguments) (option : ValueOption) (value : Text) :
    Except Refusal CheckArguments :=
  if arguments.has option then .error .repeatedOption
  else
    match option with
    | .patch => (path? value).map fun path => { arguments with patch := some path }
    | .patchRoot => (path? value).map fun path => { arguments with patchRoot := some path }
    | .format =>
      match Format.ofText? value with
      | some format => .ok { arguments with format := some format }
      | none => .error .badValue

end CheckArguments

/-! ### Reading -/

/-- What is not complete. -/
inductive Pending where
  | nothing
  /-- An option whose value has not come yet. -/
  | awaiting (option : ValueOption)
  | given (option : ValueOption) (value : Text)
  | paths (paths : List Text)
deriving DecidableEq, Repr

/-- The arguments read so far. -/
structure Reader where
  command : Command
  arguments : CheckArguments := {}
  pending : Pending := .nothing
deriving DecidableEq, Repr

namespace Reader

def settle (reader : Reader) : Except Refusal Reader :=
  match reader.pending with
  | .nothing => .ok reader
  | .awaiting _ => .error .badValue
  | .given option value =>
    (reader.arguments.set option value).map fun arguments =>
      { reader with arguments, pending := .nothing }
  | .paths texts => do
    let paths ← texts.mapM path?
    .ok { reader with
      arguments := { reader.arguments with paths := reader.arguments.paths ++ paths }
      pending := .nothing }

/-- The reader after an option without a value. -/
def flag (reader : Reader) (flag : Flag) : Except Refusal Reader := do
  let reader ← reader.settle
  match flag with
  | .help => .error .help
  | .verbose => .ok reader
  | .noGrammar =>
    if reader.arguments.noGrammar then .error .repeatedOption
    else .ok { reader with arguments := { reader.arguments with noGrammar := true } }
  | .value option => .ok { reader with pending := .awaiting option }

/-- The reader after an argument with a long name, and with what is attached to it. -/
def long (reader : Reader) (name : Text) (attached : Option Text) : Except Refusal Reader :=
  match Flag.ofLongName? reader.command name, attached with
  | none, _ => .error .unknownArgument
  | some flag, none => reader.flag flag
  | some (.value option), some value => do
    let reader ← reader.settle
    let arguments ← reader.arguments.set option value
    .ok { reader with arguments }
  | some _, some _ => .error .unneededValue

/-- The reader after an argument with letters. -/
def letters (reader : Reader) : Text → Except Refusal Reader
  | [] => .ok reader
  | letter :: rest =>
    match Flag.ofLetter? letter with
    | some flag => do (← reader.flag flag).letters rest
    | none => .error .unknownArgument

/-- The reader after a path. -/
def path (reader : Reader) (text : Text) : Except Refusal Reader :=
  match reader.pending, reader.command with
  | .paths texts, _ => .ok { reader with pending := .paths (texts ++ [text]) }
  | _, .check => do .ok { ← reader.settle with pending := .paths [text] }
  | _, .setUp => do
    let _ ← reader.settle
    .error .unknownArgument

/-- The reader after an argument that is no option: the value of one, or a path. -/
def operand (reader : Reader) (text : Text) : Except Refusal Reader :=
  match reader.pending with
  | .awaiting option => .ok { reader with pending := .given option text }
  | _ => reader.path text

def readAll (reader : Reader) : List Text → Except Refusal Reader
  | [] => reader.settle
  | argument :: arguments =>
    match argument with
    | ['-', '-'] => do (← arguments.foldlM path reader).settle
    | '-' :: '-' :: option => do
      let reader ←
        match Text.splitFirst (· == '=') option with
        | some (name, value) => reader.long name (some value)
        | none => reader.long option none
      reader.readAll arguments
    | '-' :: letter :: rest => do (← reader.letters (letter :: rest)).readAll arguments
    | text => do (← reader.operand text).readAll arguments

end Reader

def patchVariable : Text := "POLINT_DIFF"

/-- The arguments with the patch that a variable names, if they name none. -/
def addVariable (environment : List (Text × Text)) (arguments : CheckArguments) :
    Except Refusal CheckArguments :=
  match arguments.patch, environment.lookup patchVariable with
  | none, some value => arguments.set .patch value
  | _, _ => .ok arguments

/-- What the arguments of a command ask for. -/
def parseCommand (environment : List (Text × Text)) (command : Command) (arguments : List Text) :
    Except Refusal Request := do
  let reader ← ({ command } : Reader).readAll arguments
  match command with
  | .setUp => .ok .setUp
  | .check =>
    let arguments ← addVariable environment reader.arguments
    if arguments.patchRoot.isSome && arguments.patch.isNone then .error .missingOption
    else .ok (.check arguments)

/-- Why arguments after the command that shows help are not carried out: they have to name a
command. -/
def parseHelp : List Text → Refusal
  | [] => .help
  | [name] =>
    if (Command.ofText? name).isSome || name = helpCommand then .help else .unknownCommand
  | _ => .unknownCommand

/-- Why arguments that begin with an option are not carried out. -/
def parseOption (option : Text) : Refusal :=
  match option with
  | '-' :: option =>
    let (name, attached) :=
      match Text.splitFirst (· == '=') option with
      | some (name, value) => (name, some value)
      | none => (option, none)
    if name = "help" || name = "version" then
      match attached with
      | some _ => .unneededValue
      | none => if name = "help" then .help else .version
    else .unknownArgument
  | 'h' :: _ => .help
  | 'V' :: _ => .version
  | _ => .unknownArgument

/-- What the arguments ask for. -/
def parse (environment : List (Text × Text)) : List Text → Except Refusal Request
  | [] => .ok .nothing
  | argument :: arguments =>
    match argument with
    | ['-', '-'] =>
      match arguments with
      | [] => .ok .nothing
      | name :: _ =>
        if (Command.ofText? name).isSome || name = helpCommand then .error .unknownArgument
        else .error .unknownCommand
    | '-' :: c :: option => .error (parseOption (c :: option))
    | name =>
      if name = helpCommand then .error (parseHelp arguments)
      else
        match Command.ofText? name with
        | some command => parseCommand environment command arguments
        | none => .error .unknownCommand

end CatalogLint.CommandLine
