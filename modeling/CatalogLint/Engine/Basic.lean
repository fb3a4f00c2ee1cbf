/-
Grammar engines.

An engine is told a text and answers with remarks on its paragraphs.  It may be missing, in which
case there may be a way to install it.  Nothing is assumed about an engine: what it does may depend
on a state that every request changes, and its answers may be errors of any kind.

* `CatalogLint.Engine.Remark` — a remark on a part of a paragraph, on its grammar or its spelling;
* `CatalogLint.Engine.ExitStatus` — how a program ends;
* `CatalogLint.Engine.Fault`, `CatalogLint.Engine.Error` — what is wrong with an answer, and why
  there are no remarks;
* `CatalogLint.Engine.Error.isFatal` — the errors after which nothing can go on;
* `CatalogLint.Engine` — an engine: how it is asked, and how it is installed.
-/

import CatalogLint.Files

set_option autoImplicit false

namespace CatalogLint

namespace Engine

/-- What a remark is about. -/
inductive Subject where
  | grammar (rule message : Text)
  | spelling (word : Text)
deriving DecidableEq, Repr

/-- Whether the subject is a word and not a rule of grammar. -/
def Subject.isSpelling : Subject → Bool
  | grammar _ _ => false
  | spelling _ => true

/-- A remark on the characters of a paragraph from `first` up to, but not including, `last`. -/
structure Remark where
  paragraph : Nat
  first : Nat
  last : Nat
  subject : Subject
deriving DecidableEq, Repr

/-- The names of the signals that have one, by their numbers. -/
def signalNames : List (Nat × Text) :=
  [(1, "SIGHUP"), (2, "SIGINT"), (3, "SIGQUIT"), (4, "SIGILL"), (5, "SIGTRAP"), (6, "SIGABRT"),
    (7, "SIGBUS"), (8, "SIGFPE"), (9, "SIGKILL"), (10, "SIGUSR1"), (11, "SIGSEGV"),
    (12, "SIGUSR2"), (13, "SIGPIPE"), (14, "SIGALRM"), (15, "SIGTERM"), (16, "SIGSTKFLT"),
    (17, "SIGCHLD"), (18, "SIGCONT"), (19, "SIGSTOP"), (20, "SIGTSTP"), (21, "SIGTTIN"),
    (22, "SIGTTOU"), (23, "SIGURG"), (24, "SIGXCPU"), (25, "SIGXFSZ"), (26, "SIGVTALRM"),
    (27, "SIGPROF"), (28, "SIGWINCH"), (29, "SIGIO"), (30, "SIGPWR"), (31, "SIGSYS")]

/-- How a program ends: by itself with a code, or by a signal. -/
inductive ExitStatus where
  | code (number : Nat)
  | killed (signal : Nat)
deriving DecidableEq, Repr

/-- Whether the program ends as it should. -/
def ExitStatus.isSuccess : ExitStatus → Bool
  | code number => number == 0
  | killed _ => false

def ExitStatus.message : ExitStatus → Text
  | code number => "exit status: " ++ Text.decimal number
  | killed signal =>
    "signal: " ++ Text.decimal signal ++
      match signalNames.lookup signal with
      | some name => " (" ++ name ++ ")"
      | none => []

/-- What is wrong with an answer. -/
inductive Fault where
  | exited (program : Text) (status : ExitStatus) (complaint : Text)
  /-- A remark is on a paragraph that belongs to none of the entries. -/
  | stray (paragraph entries : Nat)
  | undecodable
  | other (reason : Text)
deriving DecidableEq, Repr

def Fault.message : Fault → Text
  | exited program status complaint =>
    "\x60" ++ program ++ "\x60 exited with " ++ status.message ++ ": " ++ complaint
  | stray paragraph entries =>
    "paragraph " ++ Text.decimal paragraph ++ " does not match any of the " ++
      Text.decimal entries ++ " entries"
  | undecodable => "the answer cannot be decoded"
  | other reason => reason

/-- Why there are no remarks. -/
inductive Error where
  | unavailable (program reason : Text)
  | unexpected (fault : Fault)
  | timeout (seconds : Nat)
  /-- The engine may take longer than time can be measured. -/
  | unmeasurable
  | io (error : IoError)
deriving DecidableEq, Repr

def Error.message : Error → Text
  | unavailable program reason =>
    "grammar engine \x60" ++ program ++ "\x60 is unavailable: " ++ reason
  | unexpected fault => "unexpected answer from grammar engine: " ++ fault.message
  | timeout seconds => "grammar engine did not answer within " ++ Text.decimal seconds ++ "s"
  | unmeasurable => "overflow when adding duration to instant"
  | io error => "grammar engine I/O error: " ++ error.message

/-- Whether nothing can go on after the error. -/
def Error.isFatal : Error → Bool
  | unmeasurable => true
  | _ => false

end Engine

/-- A grammar engine; `σ` is the state that its requests change. -/
structure Engine (σ : Type) where
  analyze : Text → σ → Except Engine.Error (List Engine.Remark) × σ
  provision : σ → Except Engine.Error PUnit × σ

/-- What comes of installing an engine for which there is no way to do so. -/
def Engine.notInstallable (program : Text) : Except Engine.Error PUnit :=
  .error (.unavailable program "no way to install it")

end CatalogLint
