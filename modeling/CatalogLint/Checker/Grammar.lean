/-
The check of grammar and spelling.

All target texts of a catalog are sent to an engine at once, with a blank line between them and the
contents of their quoted spans blanked out.  The engine counts paragraphs by line, so entry `n` is
its paragraph `2 * n`.  Remarks that another check makes, or that are known to be mistaken, are left
out; the others become warnings on the entries they belong to.  If one of them belongs to no entry,
the answer as a whole is not to be trusted.

* `CatalogLint.Checker.Grammar.request` — what is sent for the target texts of a catalog;
* `CatalogLint.Checker.Grammar.isIgnored` — the remarks that are left out;
* `CatalogLint.Checker.Grammar.warning` — the warning that a remark becomes;
* `CatalogLint.Checker.Grammar.assign` — the warnings that a list of remarks becomes, entry by
  entry;
* `CatalogLint.Checker.Grammar.findings` — the findings on the entries of a catalog.
-/

import CatalogLint.Catalog.Entry
import CatalogLint.Dictionary
import CatalogLint.Engine.Session
import CatalogLint.Glossary
import CatalogLint.Markup.Span
import CatalogLint.Text.Window

set_option autoImplicit false

namespace CatalogLint.Checker.Grammar

open Engine (Remark Subject Session)

def name : Text := "Grammalecte"

/-- What an engine is sent for some target texts: a blank line stands between any two of them, and
the contents of quoted spans are blanked out. -/
def request (targets : List Text) : Text :=
  Text.joinWith "\n\n" (targets.map Markup.maskQuoted)

/-- The index of the entry that a paragraph of the request belongs to. -/
def entryIndex (paragraph : Nat) : Nat := paragraph / 2

/-! ### Remarks that are left out -/

def coveredRules : List Text :=
  ["esp_milieu_ligne", "nbsp_avant_deux_points", "nbsp_avant_double_ponctuation"]

/-- A part of the names of the rules on single quotes. -/
def singleQuoteRules : Text := "typo_guillemets_typographiques_simples"

/-- Messages that are known to be mistaken. -/
def mistakenMessages : List Text :=
  ["Accord de genre erroné : « ABC » est masculin.",
   "Accord de genre erroné : « PEP » est masculin.",
   "Accord de nombre erroné : « PEP » devrait être au pluriel.",
   "Accord de genre erroné : « une entrée » est féminin, « utilisateur » est masculin."]

/-- What a message says that takes a verb for an imperative. -/
def imperativeHint : Text := "S’il s’agit d’un impératif"

/-- Whether the word blanks out the contents of a quoted span. -/
def isMasked (word : Text) : Bool := !word.isEmpty && word.all (· == Markup.placeholder)

/-- Whether the remark is left out.  Instructions often start with an imperative, so that one at the
beginning of a target text is no mistake. -/
def isIgnored (glossary : Glossary) (dictionary : Dictionary) (remark : Remark) : Bool :=
  match remark.subject with
  | .grammar rule message =>
    coveredRules.contains rule || rule.includes singleQuoteRules ||
      mistakenMessages.contains message ||
      (remark.first == 0 && message.includes imperativeHint)
  | .spelling word =>
    isMasked word || dictionary.contains word || word.getLast? == some '_' ||
      glossary.hasWord word

/-! ### Remarks that become warnings -/

/-- The number of characters shown before the part that a remark is on. -/
def contextBefore : Nat := 40

/-- The number of characters shown after it. -/
def contextAfter : Nat := 10

/-- The part of a target text that a remark is on, with the characters around it.  The end of the
window is a sum in 64 bits, so for a remark that claims to end near their limit it starts again from
zero. -/
def context (target : Text) (remark : Remark) : Text :=
  target.slice (remark.first - contextBefore) (wordSum remark.last contextAfter)

def message (target : Text) (remark : Remark) : Text :=
  let shown := "###" ++ context target remark ++ "###"
  match remark.subject with
  | .grammar _ message => message ++ " => " ++ shown
  | .spelling word => "Unknown word \"" ++ word ++ "\" in " ++ shown

/-- The warning that a remark on a target text becomes. -/
def warning (target : Text) (remark : Remark) : Finding :=
  ⟨name, .warning, message target remark⟩

/-- The remarks with those on grammar before those on spelling. -/
def ordered (remarks : List Remark) : List Remark :=
  remarks.filter (fun remark => !remark.subject.isSpelling) ++
    remarks.filter fun remark => remark.subject.isSpelling

/-- The warnings on the target text with the given index. -/
def warningsOn (remarks : List Remark) (target : Text) (index : Nat) : List Finding :=
  ((ordered remarks).filter fun remark => entryIndex remark.paragraph == index).map
    (warning target)

/-- The warnings that some remarks become, text by text; an error if one of the remarks
belongs to no target text. -/
def assign (targets : List Text) (remarks : List Remark) :
    Except Engine.Error (List (List Finding)) :=
  match remarks.find? fun remark => targets.length ≤ entryIndex remark.paragraph with
  | some remark => .error (.unexpected (.stray remark.paragraph targets.length))
  | none => .ok (targets.zipIdx.map fun (target, index) =>
      warningsOn remarks target index)

/-- The findings on the entries of a catalog, entry by entry.  A catalog without entries is not
worth a request. -/
def findings {σ : Type} (engine : Engine σ) (glossary : Glossary) (dictionary : Dictionary)
    (entries : List Entry) (session : Session σ) :
    Except Engine.Error (List (List Finding)) × Session σ :=
  if entries.isEmpty then (.ok [], session)
  else
    let targets := entries.map Entry.normalizedTarget
    match session.analyze engine (request targets) with
    | (.error error, session) => (.error error, session)
    | (.ok remarks, session) =>
      (assign targets
        (remarks.filter fun remark => !isIgnored glossary dictionary remark), session)

end CatalogLint.Checker.Grammar
