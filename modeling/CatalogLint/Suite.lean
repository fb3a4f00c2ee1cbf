/-
Suites of checkers.

The checkers of a suite look at the entries of a catalog as the file has them and never at each
other's findings, so that each of them finds what it would find alone.  Only the check of grammar
can fail, because an engine does its work; the others run all the same.  Each check of grammar has
its own attempt to install its engine.

* `CatalogLint.Checker`, `CatalogLint.Checker.findings` — a checker, and what it finds on the
  entries of a catalog, entry by entry;
* `CatalogLint.Suite`, `CatalogLint.Suite.standard` — the checkers to run, in order, and the usual
  ones;
* `CatalogLint.Suite.Session` — the state of the engines, and the attempts to install them;
* `CatalogLint.Failure` — a checker that failed on a catalog;
* `CatalogLint.Suite.run` — a catalog with the findings of a suite.
-/

import CatalogLint.Catalog.Parse
import CatalogLint.Checker.Entry
import CatalogLint.Checker.Grammar
import CatalogLint.Checker.Spacing

set_option autoImplicit false

namespace CatalogLint

/-- A checker with what it has to know; `σ` is the state of the grammar engine. -/
inductive Checker (σ : Type) where
  | doubleSpace
  | untranslated
  | fuzzy
  | grammar (engine : Engine σ) (glossary : Glossary) (dictionary : Dictionary)
  | glossaryUse (glossary : Glossary)
  | lineLength (limit : Nat)
  | spacing

namespace Checker

variable {σ : Type}

def name : Checker σ → Text
  | doubleSpace => DoubleSpace.name
  | untranslated => Untranslated.name
  | fuzzy => Fuzzy.name
  | grammar _ _ _ => Grammar.name
  | glossaryUse _ => GlossaryUse.name
  | lineLength _ => LineLength.name
  | spacing => Spacing.name

/-- What the checker finds on the entries of a catalog, entry by entry. -/
def findings (checker : Checker σ) (entries : List Entry) (session : Engine.Session σ) :
    Except Engine.Error (List (List Finding)) × Engine.Session σ :=
  match checker with
  | doubleSpace => (.ok (entries.map DoubleSpace.findings), session)
  | untranslated => (.ok (entries.map Untranslated.findings), session)
  | fuzzy => (.ok (entries.map Fuzzy.findings), session)
  | grammar engine glossary dictionary =>
    Grammar.findings engine glossary dictionary entries session
  | glossaryUse glossary => (.ok (entries.map (GlossaryUse.findings glossary)), session)
  | lineLength limit => (.ok (entries.map (LineLength.findings limit)), session)
  | spacing => (.ok (entries.map Spacing.findings), session)

end Checker

/-- The checkers to run, in order. -/
structure Suite (σ : Type) where
  checkers : List (Checker σ)

/-- The state of the engines that a suite works with, and the attempts to install them. -/
structure Suite.Session (σ : Type) where
  state : σ
  /-- The attempts, each by the position of its checker in the suite. -/
  installations : Nat → Option Engine.Installation := fun _ => none

namespace Suite.Session

variable {σ : Type}

/-- The session as the checker at a position finds it. -/
def of (session : Session σ) (position : Nat) : Engine.Session σ :=
  ⟨session.state, session.installations position⟩

/-- The session as the checker at a position leaves it. -/
def update (session : Session σ) (position : Nat) (own : Engine.Session σ) : Session σ where
  state := own.state
  installations other :=
    if other = position then own.installation else session.installations other

@[simp] theorem of_update_self (session : Session σ) (position : Nat) (own : Engine.Session σ) :
    (session.update position own).of position = own := by
  simp [of, update]

@[simp] theorem update_of (session : Session σ) (position : Nat) :
    session.update position (session.of position) = session := by
  obtain ⟨state, installations⟩ := session
  simp only [update, of, mk.injEq, true_and]
  funext other
  split
  · next h => rw [h]
  · rfl

end Suite.Session

/-- A checker that failed on a catalog. -/
structure Failure where
  checker : Text
  error : Engine.Error
deriving DecidableEq, Repr

/-- A catalog after a suite has run on it. -/
structure SuiteRun (σ : Type) where
  catalog : Catalog
  failures : List Failure
  session : Suite.Session σ

namespace Suite

variable {σ : Type}

/-- The usual checkers; grammar is left out if there is no engine. -/
def standard (maxLineLength : Nat) (glossary : Glossary)
    (grammar : Option (Engine σ × Dictionary)) : Suite σ :=
  ⟨[.doubleSpace, .untranslated, .fuzzy] ++
    (grammar.map fun (engine, dictionary) => .grammar engine glossary dictionary).toList ++
    [.glossaryUse glossary, .lineLength maxLineLength, .spacing]⟩

def names (suite : Suite σ) : List Text := suite.checkers.map Checker.name

/-- Runs some checkers on a catalog, in order; `position` is that of the first one.  A checker that
fails adds no findings. -/
def runAll : List (Checker σ) → (position : Nat) → Catalog → Session σ → SuiteRun σ
  | [], _, catalog, session => { catalog, failures := [], session }
  | checker :: checkers, position, catalog, session =>
    match checker.findings catalog.plainEntries (session.of position) with
    | (.ok findings, own) =>
      runAll checkers (position + 1) (catalog.add findings) (session.update position own)
    | (.error error, own) =>
      let run := runAll checkers (position + 1) catalog (session.update position own)
      { run with failures := ⟨checker.name, error⟩ :: run.failures }

def run (suite : Suite σ) (catalog : Catalog) (session : Session σ) : SuiteRun σ :=
  runAll suite.checkers 0 catalog session

end Suite

end CatalogLint
