/-
Glossaries: terms with agreed equivalents.

A term is found in a source text where a word begins, whatever its case; what follows it is free, so
that inflected forms are found too.  It is translated if one of the agreed equivalents occurs in the
target text, whatever the case.

A glossary has the built-in terms, followed by those of a project.  The equivalents of the built-in
terms are those on which the French translators of programming documentation agreed; asterisks in an
equivalent are emphasis: the term may be kept if it is marked as foreign.  A project gives its terms
as a map.  A term of the map that equals a term of the glossary, but for the case of ASCII letters,
replaces that term's equivalents; any other is added at the end.

* `CatalogLint.Glossary.Term` — a term;
* `CatalogLint.Glossary.Term.foundIn`, `CatalogLint.Glossary.Term.translatedIn` — the term occurs in
  a source text, and one of its equivalents in a target text;
* `CatalogLint.Glossary.builtinTerms` — the built-in terms, in order;
* `CatalogLint.Glossary.Extension` — the terms of a project, in the order of their names;
* `CatalogLint.Glossary`, `CatalogLint.Glossary.builtin`, `CatalogLint.Glossary.extend` — a
  glossary, the built-in one, and a glossary with the terms of a project;
* `CatalogLint.Glossary.hasWord` — whether a word is one of the terms, whatever its case.
-/

import CatalogLint.Text.Case
import CatalogLint.Text.Word

set_option autoImplicit false

namespace CatalogLint

namespace Glossary

/-! ### Terms -/

/-- A term with its agreed equivalents in the target language. -/
structure Term where
  name : Text
  /-- The equivalents, any of which will do. -/
  equivalents : List Text
deriving DecidableEq, Repr

namespace Term

/-- Whether the name occurs in the rest of a text, but for the case, at a word boundary; `before` is
the character right before the rest. -/
def foundFrom (name : Text) (before : Option Char) : Text → Bool
  | [] => Text.isBoundary before none && name.isEmpty
  | c :: text =>
    (Text.isBoundary before (some c) && Text.startsWithFolded (c :: text) name) ||
      foundFrom name (some c) text

/-- Whether the term occurs in the text, but for the case, at a word boundary. -/
def foundIn (term : Term) (text : Text) : Bool := foundFrom term.name none text

/-- Whether one of the equivalents occurs in the text, but for the case. -/
def translatedIn (term : Term) (text : Text) : Bool :=
  let text := Text.lower text
  term.equivalents.any fun equivalent => text.includes (Text.lower equivalent)

end Term

/-- The terms that every glossary starts from, in order. -/
def builtinTerms : List Term :=
  [⟨"-like", ["-compatible"]⟩,
   ⟨"abstract data type", ["type abstrait"]⟩,
   ⟨"argument", ["argument"]⟩,
   ⟨"backslash", ["antislash", "*backslash*", "*backslashes*"]⟩,
   ⟨"backtrace", ["trace d'appels", "trace de pile", "traces d'appels", "traces de pile"]⟩,
   ⟨"big-endian", ["gros-boutiste"]⟩,
   ⟨"bound", ["lié"]⟩,
   ⟨"bug", ["bogue", "*bug*", "*bugs*"]⟩,
   ⟨"built-in", ["native"]⟩,
   ⟨"callback", ["fonction de rappel", "fonctions de rappel"]⟩,
   ⟨"call stack", ["pile d'appels"]⟩,
   ⟨"debugging", ["débogage"]⟩,
   ⟨"deep copy", ["copie récursive", "copie profonde"]⟩,
   ⟨"double quote", ["guillemet"]⟩,
   ⟨"deprecated", ["obsolète"]⟩,
   ⟨"e.g.", ["p. ex.", "par exemple"]⟩,
   ⟨"et al.", ["et autre", "et ailleurs"]⟩,
   ⟨"export", ["exporter", "exportation"]⟩,
   ⟨"expression", ["expression"]⟩,
   ⟨"garbage collector", ["ramasse-miettes"]⟩,
   ⟨"getter", ["accesseur"]⟩,
   ⟨"i.e", ["c.-à-d.", "c'est-à-dire"]⟩,
   ⟨"identifier", ["identifiant"]⟩,
   ⟨"immutable", ["immuable"]⟩,
   ⟨"import", ["importer", "importation"]⟩,
   ⟨"installer", ["installateur"]⟩,
   ⟨"interpreter", ["interpréteur"]⟩,
   ⟨"library", ["bibliothèque"]⟩,
   ⟨"libraries", ["bibliothèques"]⟩,
   ⟨"list comprehension", ["liste en compréhension"]⟩,
   ⟨"little-endian", ["petit-boutiste"]⟩,
   ⟨"mixin type", ["type de mélange"]⟩,
   ⟨"mutable", ["muable"]⟩,
   ⟨"namespace", ["espace de nommage", "espace de noms", "espaces de nommage", "espaces de noms"]⟩,
   ⟨"parameter", ["paramètre"]⟩,
   ⟨"pickle", ["sérialiser"]⟩,
   ⟨"prompt", ["invite"]⟩,
   ⟨"raise", ["lever", "levé"]⟩,
   ⟨"regular expression",
     ["expression rationnelle", "expressions rationnelles", "expression régulière",
      "expressions régulières"]⟩,
   ⟨"return", ["renvoie", "renvoyé"]⟩,
   ⟨"setter", ["mutateur"]⟩,
   ⟨"simple quote", ["guillemet simple", "guillemets simples"]⟩,
   ⟨"socket", ["connecteur", "interface de connexion", "interfaces de connexion"]⟩,
   ⟨"statement", ["instruction"]⟩,
   ⟨"subprocess", ["sous-processus"]⟩,
   ⟨"thread", ["fil d'exécution", "fils d'exécution"]⟩,
   ⟨"traceback", ["trace d'appels", "trace de pile", "traces d'appels", "traces de pile"]⟩,
   ⟨"underscore", ["tiret bas", "*underscore*"]⟩,
   ⟨"whitespace", ["caractère d'espacement", "caractères d'espacement"]⟩,
   ⟨"abstract base class", ["classe de base abstraite", "classes de base abstraites"]⟩,
   ⟨"annotation", ["annotation"]⟩,
   ⟨"asynchronous context manager",
     ["gestionnaire de contexte asynchrone", "gestionnaires de contexte asynchrone"]⟩,
   ⟨"asynchronous generator", ["générateur asynchrone", "générateurs asynchrones"]⟩,
   ⟨"asynchronous iterable", ["itérable asynchrone", "itérables asynchrones"]⟩,
   ⟨"asynchronous", ["asynchrone"]⟩,
   ⟨"attribute", ["attribut"]⟩,
   ⟨"awaitable", ["*awaitable*"]⟩,
   ⟨"BDFL", ["*BDFL*"]⟩,
   ⟨"binary file", ["fichier binaire", "fichiers binaires"]⟩,
   ⟨"bytes-like object", ["objet octet-compatible", "objets octet-compatible"]⟩,
   ⟨"bytecode", ["code intermédiaire", "*bytecode*"]⟩,
   ⟨"class", ["classe"]⟩,
   ⟨"class variable", ["variable de classe", "variables de classe"]⟩,
   ⟨"coercion", ["coercition"]⟩,
   ⟨"complex number", ["nombre complexe", "nombres complexes"]⟩,
   ⟨"context manager", ["gestionnaire de contexte", "gestionnaires de contexte"]⟩,
   ⟨"context variable", ["variable de contexte", "variables de contexte"]⟩,
   ⟨"contiguous", ["contigu"]⟩,
   ⟨"coroutine", ["coroutine"]⟩,
   ⟨"CPython", ["CPython"]⟩,
   ⟨"decorator", ["décorateur"]⟩,
   ⟨"descriptor", ["descripteur"]⟩,
   ⟨"dictionary", ["dictionnaire"]⟩,
   ⟨"dictionary view", ["vue de dictionnaire", "vues de dictionnaire"]⟩,
   ⟨"docstring",
     ["*docstring*", "*docstrings*", "chaîne de documentation", "chaînes de documentation"]⟩,
   ⟨"duck-typing", ["*duck-typing*"]⟩,
   ⟨"extension module", ["module d'extension", "modules d'extension"]⟩,
   ⟨"f-string", ["f-string"]⟩,
   ⟨"file object", ["objet fichier", "objets fichier"]⟩,
   ⟨"file-like object", ["objet fichier-compatible", "objets fichier-compatible"]⟩,
   ⟨"finder", ["chercheur"]⟩,
   ⟨"floor division", ["division entière", "divisions entières"]⟩,
   ⟨"function", ["fonction"]⟩,
   ⟨"function annotation", ["annotation de fonction", "annotations de fonction"]⟩,
   ⟨"__future__", ["__future__"]⟩,
   ⟨"garbage collection", ["ramasse-miettes"]⟩,
   ⟨"generator", ["générateur"]⟩,
   ⟨"iterator", ["itérateur"]⟩]

end Glossary

/-! ### Glossaries -/

/-- A list of terms in a fixed order. -/
structure Glossary where
  terms : List Glossary.Term
deriving DecidableEq, Repr

namespace Glossary

/-- The terms of a project, in the order of their names, each name once. -/
structure Extension where
  terms : List Term := []
deriving DecidableEq, Repr

/-- The terms with one more, which replaces a term of the same name. -/
def Extension.insertTerm (term : Term) : List Term → List Term
  | [] => [term]
  | other :: terms =>
    match Text.compare term.name other.name with
    | .lt => term :: other :: terms
    | .eq => term :: terms
    | .gt => other :: insertTerm term terms

/-- The extension with one more term, which replaces a term of the same name. -/
def Extension.insert (extension : Extension) (term : Term) : Extension :=
  ⟨insertTerm term extension.terms⟩

/-- The extension made of the given terms; of several terms of one name the last one counts. -/
def Extension.ofList (terms : List Term) : Extension := terms.foldl Extension.insert {}

def builtin : Glossary := ⟨builtinTerms⟩

/-- The terms with the equivalents of `term`: those of the first equal term are replaced, and if
there is no equal term, `term` is added at the end. -/
def addTerm (term : Term) : List Term → List Term
  | [] => [term]
  | other :: terms =>
    if Text.equalAscii other.name term.name then
      { other with equivalents := term.equivalents } :: terms
    else other :: addTerm term terms

def extend (glossary : Glossary) (extension : Extension) : Glossary :=
  ⟨extension.terms.foldl (fun terms term => addTerm term terms) glossary.terms⟩

/-- Whether the word is one of the terms, whatever its case. -/
def hasWord (glossary : Glossary) (word : Text) : Bool :=
  let word := Text.lower word
  glossary.terms.any fun term => Text.lower term.name == word

end Glossary

end CatalogLint
