/-
Settings as a JSON document.

* `CatalogLint.GrammarSettings.decode`, `CatalogLint.Settings.decode` — the settings that a value
  describes; what it does not mention has its default value;
* `CatalogLint.GrammarSettings.encode`, `CatalogLint.Settings.encode` — the value that describes the
  settings;
* `CatalogLint.Settings.parse`, `CatalogLint.Settings.render` — reading and writing a document.
-/

import CatalogLint.Json.Decode
import CatalogLint.Settings.Basic

set_option autoImplicit false

namespace CatalogLint

namespace GrammarSettings

def fieldNames : List Text := ["enabled", "program", "args", "timeoutSecs", "installCommand"]

def decode : Json.Decoder GrammarSettings := fun value => do
  match ← Json.fields fieldNames value with
  | [enabled, program, arguments, timeoutSeconds, installCommand] =>
    let default : GrammarSettings := {}
    some {
      enabled := ← Json.defaulting Json.flag default.enabled enabled
      program := ← Json.defaulting Json.text default.program program
      arguments := ← Json.defaulting (Json.list Json.text) default.arguments arguments
      timeoutSeconds := ← Json.defaulting Json.word default.timeoutSeconds timeoutSeconds
      installCommand :=
        ← Json.defaulting (Json.list Json.text) default.installCommand installCommand }
  | _ => none

def encode (settings : GrammarSettings) : Json.Value :=
  .ofMembers (fieldNames.zip
    [.bool settings.enabled, .ofText settings.program, .ofTexts settings.arguments,
      .natural settings.timeoutSeconds, .ofTexts settings.installCommand])

end GrammarSettings

namespace Settings

def fieldNames : List Text :=
  ["ignores", "maxLineLength", "glossary", "personalDictionaries", "personalWords", "grammar"]

/-- The terms that a map describes; of several terms of one name the last one counts. -/
def decodeGlossary : Json.Decoder Glossary.Extension := fun value => do
  let terms ← Json.entries (Json.list Json.text) value
  some (.ofList (terms.map fun (name, equivalents) => ⟨name, equivalents⟩))

/-- The map that describes some terms. -/
def encodeGlossary (glossary : Glossary.Extension) : Json.Value :=
  .ofMembers (glossary.terms.map fun term => (term.name, .ofTexts term.equivalents))

def decode : Json.Decoder Settings := fun value => do
  match ← Json.fields fieldNames value with
  | [ignores, maxLineLength, glossary, personalDictionaries, personalWords, grammar] =>
    let default : Settings := {}
    some {
      ignores := ← Json.defaulting (Json.list Json.text) default.ignores ignores
      maxLineLength := ← Json.defaulting Json.word default.maxLineLength maxLineLength
      glossary := ← Json.defaulting decodeGlossary default.glossary glossary
      personalDictionaries :=
        ← Json.defaulting (Json.list Json.text) default.personalDictionaries personalDictionaries
      personalWords := ← Json.defaulting (Json.list Json.text) default.personalWords personalWords
      grammar := ← Json.defaulting GrammarSettings.decode default.grammar grammar }
  | _ => none

def encode (settings : Settings) : Json.Value :=
  .ofMembers (fieldNames.zip
    [.ofTexts settings.ignores, .natural settings.maxLineLength,
      encodeGlossary settings.glossary, .ofTexts settings.personalDictionaries,
      .ofTexts settings.personalWords, settings.grammar.encode])

def parse (document : Text) : Option Settings := (Json.parse document).bind decode

def render (settings : Settings) : Text := settings.encode.pretty

end Settings

end CatalogLint
