/-
Working with an engine for the length of a run.

A missing engine is installed at most once in a session, the first time it is asked in vain.  If
that succeeds, every request that found the engine missing is made once more; if it fails, those
requests fail with the reason of that one attempt.

What is asked of an engine can be seen with one that has prepared answers.  It gives them one after
another and has no remarks once they are used up; it records the texts it is sent and counts the
attempts to install it.

* `CatalogLint.Engine.Installation` — the attempt to install an engine;
* `CatalogLint.Engine.Session` — the state of an engine, and the attempt if there was one;
* `CatalogLint.Engine.Session.install`, `CatalogLint.Engine.Session.analyze` — installing the engine
  unless that was tried before, and asking for remarks;
* `CatalogLint.Engine.prepared` — the engine with prepared answers.
-/

import CatalogLint.Engine.Basic

set_option autoImplicit false

namespace CatalogLint.Engine

/-- An attempt to install an engine. -/
structure Installation where
  program : Text
  reason : Text
  outcome : Except Error PUnit

/-- The state of an engine, and the attempt to install it if there was one. -/
structure Session (σ : Type) where
  state : σ
  installation : Option Installation := none

namespace Session

variable {σ : Type}

/-- What came of the attempt to install the engine, which is made now unless it was made before. -/
def install (engine : Engine σ) (program reason : Text) (session : Session σ) :
    Except Error PUnit × Session σ :=
  match session.installation with
  | some installation => (installation.outcome, session)
  | none =>
    let (outcome, state) := engine.provision session.state
    (outcome, { state, installation := some { program, reason, outcome } })

/-- Asks for remarks on the paragraphs of a text, and once more if the engine was missing and is
installed now. -/
def analyze (engine : Engine σ) (text : Text) (session : Session σ) :
    Except Error (List Remark) × Session σ :=
  match engine.analyze text session.state with
  | (.error (.unavailable program reason), state) =>
    match install engine program reason { session with state } with
    | (.ok _, session) =>
      let (answer, state) := engine.analyze text session.state
      (answer, { session with state })
    | (.error error, session) => (.error (.unavailable program error.message), session)
  | (answer, state) => (answer, { session with state })

end Session

/-! ### Prepared answers -/

/-- The answers that are left, and what was asked so far. -/
structure Prepared where
  answers : List (Except Error (List Remark))
  outcome : Except Error PUnit
  /-- The texts that the engine was sent, in order. -/
  requests : List Text := []
  /-- The number of attempts to install it. -/
  installations : Nat := 0

/-- The engine that gives prepared answers. -/
def prepared : Engine Prepared where
  analyze text state :=
    let state := { state with requests := state.requests ++ [text] }
    match state.answers with
    | [] => (.ok [], state)
    | answer :: answers => (answer, { state with answers })
  provision state := (state.outcome, { state with installations := state.installations + 1 })

end CatalogLint.Engine
