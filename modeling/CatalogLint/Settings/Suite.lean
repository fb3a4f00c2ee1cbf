/-
The checkers that settings describe.

What the settings ask for beyond the files that are there, texts from the net and other programs, is
for the system to supply.

* `CatalogLint.Settings.Host` — the system;
* `CatalogLint.Settings.suite` — the usual checkers, with the glossary, the limits and the engine of
  the settings.
-/

import CatalogLint.Engine.Program
import CatalogLint.Suite

set_option autoImplicit false

namespace CatalogLint.Settings

/-- The system that checks are made on. -/
structure Host where
  fetch : Dictionary.Fetch
  launcher : Engine.Launcher

/-- A system without a net and without programs. -/
def Host.bare : Host where
  fetch _ := .error "no connection"
  launcher _ _ _ _ := .error .noSuchFile

section
variable (host : Host) (settings : Settings) (files : Files)

/-- The engine and the dictionary for the check of grammar, if it is wanted and not turned off.
Dictionaries are read only then. -/
def grammarTools (wanted : Bool) :
    Except Dictionary.Error (Option (Engine Files × Dictionary)) :=
  if wanted && settings.grammar.enabled then
    (Dictionary.load host.fetch files settings.personalDictionaries settings.personalWords).map
      fun dictionary => some (Engine.ofSettings host.launcher settings.grammar, dictionary)
  else .ok none

/-- The checkers that the settings describe; `grammar` tells whether grammar is to be checked. -/
def suite (grammar : Bool) : Except Dictionary.Error (Suite Files) :=
  (settings.grammarTools host files grammar).map
    (Suite.standard settings.maxLineLength (Glossary.builtin.extend settings.glossary))

end

end CatalogLint.Settings
