/-
What an engine writes.

An engine writes a JSON document with the paragraphs it has remarks on, each with its errors of
grammar and of spelling.  If it has nothing to say it may also write nothing at all.

* `CatalogLint.Engine.Paragraph` — a paragraph with the remarks on it;
* `CatalogLint.Engine.paragraphs` — the paragraphs of a document;
* `CatalogLint.Engine.readOutput` — the remarks in what an engine writes, those on grammar before
  those on spelling within a paragraph.
-/

import CatalogLint.Engine.Basic
import CatalogLint.Json.Decode
import CatalogLint.Text.Class

set_option autoImplicit false

namespace CatalogLint.Engine

/-- A part of a paragraph and what is wrong with it. -/
structure Mistake where
  first : Nat
  last : Nat
  subject : Subject
deriving DecidableEq, Repr

/-- A paragraph with its mistakes. -/
structure Paragraph where
  number : Nat
  grammar : List Mistake := []
  spelling : List Mistake := []
deriving DecidableEq, Repr

def grammarMistake : Json.Decoder Mistake := fun value => do
  match ← Json.fields ["nStart", "nEnd", "sRuleId", "sMessage"] value with
  | [first, last, rule, message] =>
    some {
      first := ← Json.required Json.word first
      last := ← Json.required Json.word last
      subject := .grammar (← Json.required Json.text rule) (← Json.required Json.text message) }
  | _ => none

def spellingMistake : Json.Decoder Mistake := fun value => do
  match ← Json.fields ["nStart", "nEnd", "sValue"] value with
  | [first, last, word] =>
    some {
      first := ← Json.required Json.word first
      last := ← Json.required Json.word last
      subject := .spelling (← Json.required Json.text word) }
  | _ => none

def paragraph : Json.Decoder Paragraph := fun value => do
  match ← Json.fields ["iParagraph", "lGrammarErrors", "lSpellingErrors"] value with
  | [number, grammar, spelling] =>
    some {
      number := ← Json.required Json.word number
      grammar := ← Json.defaulting (Json.list grammarMistake) [] grammar
      spelling := ← Json.defaulting (Json.list spellingMistake) [] spelling }
  | _ => none

def paragraphs : Json.Decoder (List Paragraph) := fun value => do
  match ← Json.fields ["data"] value with
  | [data] => Json.required (Json.list paragraph) data
  | _ => none

/-- The remark that a mistake in a paragraph gives rise to. -/
def Mistake.remark (paragraph : Nat) (mistake : Mistake) : Remark :=
  { paragraph, first := mistake.first, last := mistake.last, subject := mistake.subject }

def Paragraph.remarks (paragraph : Paragraph) : List Remark :=
  (paragraph.grammar ++ paragraph.spelling).map (Mistake.remark paragraph.number)

/-- The remarks in what an engine writes. -/
def readOutput (output : Text) : Except Error (List Remark) :=
  if (Text.trim output).isEmpty then .ok []
  else
    match (Json.parse output).bind paragraphs with
    | some paragraphs => .ok (paragraphs.flatMap Paragraph.remarks)
    | none => .error (.unexpected .undecodable)

end CatalogLint.Engine
