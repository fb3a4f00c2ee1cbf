/-
**What an engine reports is what is read.**

An engine has notes on some paragraphs: mistakes of grammar, each with a rule and a message, and
unknown words, all with 64-bit numbers for their places.  Its document says so in JSON, and leaves
the engine much freedom: the order of the members, members that nobody asked for, arrays in place of
objects, lists without items left out, blanks, and the escapes in every text.  None of it makes a
difference to the remarks that are read.

Main definitions:

* `CatalogLint.Engine.GrammarNote`, `CatalogLint.Engine.SpellingNote`, `CatalogLint.Engine.Notes` —
  what an engine has to say on a paragraph;
* `CatalogLint.Engine.Notes.remarks` — the remarks that come of it;
* `CatalogLint.Engine.IsDocument` — a text is a document with some notes.

Main results:

* `CatalogLint.Engine.paragraph_eq` — a paragraph is read as it is written;
* `CatalogLint.Engine.readOutput_of_isDocument` — **every document with some notes is read as the
  remarks that come of them**.
-/

import CatalogLint.Engine.Output
import CatalogLint.Proofs.Json.Field
import CatalogLint.Proofs.Text.Trim

set_option autoImplicit false

namespace CatalogLint.Engine

/-! ### Notes -/

/-- A broken rule of grammar. -/
structure GrammarNote where
  first : UInt64
  last : UInt64
  rule : Text
  message : Text
deriving DecidableEq

/-- An unknown word. -/
structure SpellingNote where
  first : UInt64
  last : UInt64
  word : Text
deriving DecidableEq

/-- What an engine has to say on a paragraph. -/
structure Notes where
  /-- The number of the paragraph. -/
  number : UInt64
  grammar : List GrammarNote
  spelling : List SpellingNote
deriving DecidableEq

/-- The remarks that come of the notes: those on grammar before those on spelling, each on the
paragraph of the notes. -/
def Notes.remarks (notes : Notes) : List Remark :=
  (notes.grammar.map fun note =>
    { paragraph := notes.number.toNat, first := note.first.toNat, last := note.last.toNat
      subject := .grammar note.rule note.message }) ++
  notes.spelling.map fun note =>
    { paragraph := notes.number.toNat, first := note.first.toNat, last := note.last.toNat
      subject := .spelling note.word }

/-! ### Documents -/

/-- A value for a broken rule of grammar. -/
def GrammarNote.WrittenAs (note : GrammarNote) (value : Json.Value) : Prop :=
  Json.Gives ["nStart", "nEnd", "sRuleId", "sMessage"]
    [some (.ofWord note.first), some (.ofWord note.last), some (.ofText note.rule),
      some (.ofText note.message)] value

/-- A value for an unknown word. -/
def SpellingNote.WrittenAs (note : SpellingNote) (value : Json.Value) : Prop :=
  Json.Gives ["nStart", "nEnd", "sValue"]
    [some (.ofWord note.first), some (.ofWord note.last), some (.ofText note.word)] value

/-- A list as the value of a field, where a list without items may be left out. -/
inductive ListWrittenAs {α : Type} (writtenAs : α → Json.Value → Prop) :
    List α → Option Json.Value → Prop
  | omitted : ListWrittenAs writtenAs [] none
  | array {list : List α} {items : List Json.Value} (h : List.Forall₂ writtenAs list items) :
      ListWrittenAs writtenAs list (some (.array items))

/-- A value for the notes on a paragraph. -/
inductive Notes.WrittenAs (notes : Notes) : Json.Value → Prop
  | record {grammar spelling : Option Json.Value} {value : Json.Value}
      (hgrammar : ListWrittenAs GrammarNote.WrittenAs notes.grammar grammar)
      (hspelling : ListWrittenAs SpellingNote.WrittenAs notes.spelling spelling)
      (h : Json.Gives ["iParagraph", "lGrammarErrors", "lSpellingErrors"]
        [some (.ofWord notes.number), grammar, spelling] value) : WrittenAs notes value

/-- A text is a document with the notes on some paragraphs, in any notation and spelling. -/
inductive IsDocument (notes : List Notes) : Text → Prop
  | spelled {items : List Json.Value} {value : Json.Value} {text : Text}
      (hitems : List.Forall₂ Notes.WrittenAs notes items)
      (h : Json.Gives ["data"] [some (.array items)] value) (htext : Json.Spells value text) :
      IsDocument notes text

/-! ### Reading -/

/-- A list comes back if its items do. -/
theorem list_eq_of_forall₂ {α β : Type} {item : Json.Decoder β} {read : α → β} {list : List α}
    {items : List Json.Value}
    (h : List.Forall₂ (fun a value => item value = some (read a)) list items) :
    Json.list item (.array items) = some (list.map read) :=
  Json.mapM_eq_some_of_forall₂ (List.forall₂_map_right_iff.2 h.flip)

theorem defaulting_list {α β : Type} {writtenAs : α → Json.Value → Prop} {item : Json.Decoder β}
    {read : α → β} (hitem : ∀ a value, writtenAs a value → item value = some (read a))
    {list : List α} {value : Option Json.Value} (h : ListWrittenAs writtenAs list value) :
    Json.defaulting (Json.list item) [] value = some (list.map read) := by
  cases h with
  | omitted => rfl
  | array h => exact list_eq_of_forall₂ (h.imp hitem)

theorem grammarMistake_eq (note : GrammarNote) (value : Json.Value) (h : note.WrittenAs value) :
    grammarMistake value = some {
      first := note.first.toNat
      last := note.last.toNat
      subject := .grammar note.rule note.message } := by
  rw [grammarMistake, h.fields_eq (by decide) rfl]
  simp only [Json.required, Option.bind_eq_bind, Option.bind_some, Json.word_ofWord]
  rfl

theorem spellingMistake_eq (note : SpellingNote) (value : Json.Value) (h : note.WrittenAs value) :
    spellingMistake value = some {
      first := note.first.toNat
      last := note.last.toNat
      subject := .spelling note.word } := by
  rw [spellingMistake, h.fields_eq (by decide) rfl]
  simp only [Json.required, Option.bind_eq_bind, Option.bind_some, Json.word_ofWord]
  rfl

/-- A paragraph is read as it is written. -/
theorem paragraph_eq (notes : Notes) (value : Json.Value) (h : notes.WrittenAs value) :
    ∃ read, paragraph value = some read ∧ read.remarks = notes.remarks := by
  obtain ⟨hgrammar, hspelling, h⟩ := h
  rw [paragraph, h.fields_eq (by decide) rfl]
  simp only [Json.required, Option.bind_eq_bind, Option.bind_some, Json.word_ofWord,
    defaulting_list grammarMistake_eq hgrammar, defaulting_list spellingMistake_eq hspelling]
  refine ⟨_, rfl, ?_⟩
  rw [Paragraph.remarks, List.map_append, List.map_map, List.map_map]
  rfl

/-- The paragraphs are read one by one. -/
theorem list_paragraph {notes : List Notes} {items : List Json.Value}
    (h : List.Forall₂ Notes.WrittenAs notes items) :
    ∃ read, Json.list paragraph (.array items) = some read ∧
      read.flatMap Paragraph.remarks = notes.flatMap Notes.remarks := by
  induction h with
  | nil => exact ⟨[], rfl, rfl⟩
  | @cons notes value rest items hvalue _ ih =>
    obtain ⟨first, hfirst, hremarks⟩ := paragraph_eq notes value hvalue
    obtain ⟨others, hothers, hrest⟩ := ih
    refine ⟨first :: others, ?_, by rw [List.flatMap_cons, List.flatMap_cons, hremarks, hrest]⟩
    rw [Json.list] at hothers ⊢
    rw [List.mapM_cons, hfirst, hothers]
    rfl

/-- **Every document with some notes is read as the remarks that come of them.** -/
theorem readOutput_of_isDocument {notes : List Notes} {text : Text} (h : IsDocument notes text) :
    readOutput text = .ok (notes.flatMap Notes.remarks) := by
  cases h with
  | @spelled items value text hitems hvalue htext =>
    obtain ⟨read, hread, hremarks⟩ := list_paragraph hitems
    have hne := Text.trim_ne_nil (hvalue.exists_mem_not_isBlank htext)
    have hparagraphs : paragraphs value = some read := by
      rw [paragraphs, hvalue.fields_eq (by decide) rfl]
      exact hread
    rw [readOutput, if_neg (by simpa using hne), Json.parse_of_spells htext, Option.bind_some,
      hparagraphs]
    exact congrArg Except.ok hremarks

/-- Notes with the greatest number there is and with texts that have to be escaped. -/
def someNotes : List Notes :=
  [⟨18446744073709551615, [], [⟨0, 3, "é\"𝄞\n"⟩]⟩, ⟨7, [⟨1, 2, "rule", "\\"⟩], []⟩]

/-- The notes as a value: objects with their members from last to first and with others before them,
and arrays. -/
def mixedDocument : Json.Value :=
  .ofMembers [
    ("data", .array [
      .ofMembers [
        ("lSpellingErrors", .array [.array [.natural 0, .natural 3, .ofText "é\"𝄞\n"]]),
        ("iParagraph", .natural 18446744073709551615),
        ("nStart", .object [(none, .null)]),
        ("nStart", .array [.bool true, .string none])],
      .array [
        .natural 7,
        .array [.ofMembers [("sMessage", .ofText "\\"), ("sRuleId", .ofText "rule"),
          ("nEnd", .natural 2), ("nStart", .natural 1)]]]]),
    ("lang", .ofText "fr")]

theorem proper_mixedDocument : mixedDocument.Proper := by
  have harray (items : List Json.Value) :
      (Json.Value.array items).Proper ↔ ∀ item ∈ items, item.Proper :=
    ⟨fun | .array h => h, .array⟩
  have hobject (members : List (Option Text × Json.Value)) :
      (Json.Value.object members).Proper ↔ ∀ member ∈ members, member.2.Proper :=
    ⟨fun | .object h => h, .object⟩
  simp [mixedDocument, Json.Value.ofMembers, harray, hobject, Json.proper_ofText,
    Json.Value.Proper.null, Json.Value.Proper.bool, Json.Value.Proper.natural,
    Json.Value.Proper.string]

theorem readOutput_mixedDocument :
    IsDocument someNotes mixedDocument.pretty ∧
      readOutput mixedDocument.pretty = .ok [
        ⟨18446744073709551615, 0, 3, .spelling "é\"𝄞\n"⟩, ⟨7, 1, 2, .grammar "rule" "\\"⟩] := by
  have hreversed {names : List Text} {values : List (Option Json.Value)}
      (others members : List (Text × Json.Value)) (hothers : ∀ other ∈ others, other.1 ∉ names)
      (h : members = (others ++ Json.given names values).reverse) :
      Json.Gives names values (.ofMembers members) :=
    .object (h ▸ List.reverse_perm _) hothers
  have hword : SpellingNote.WrittenAs ⟨0, 3, "é\"𝄞\n"⟩
      (.array [.natural 0, .natural 3, .ofText "é\"𝄞\n"]) :=
    @Json.Gives.array _ _ _ 0 rfl
  have hrule : GrammarNote.WrittenAs ⟨1, 2, "rule", "\\"⟩ (.ofMembers [("sMessage", .ofText "\\"),
      ("sRuleId", .ofText "rule"), ("nEnd", .natural 2), ("nStart", .natural 1)]) :=
    hreversed [] _ (by simp) rfl
  have hdocument : IsDocument someNotes mixedDocument.pretty := by
    refine .spelled (.cons ?object (.cons ?array .nil))
      (hreversed [("lang", .ofText "fr")] _ (by decide) rfl) proper_mixedDocument.spells_pretty
    case object =>
      exact .record .omitted (.array (.cons hword .nil))
        (hreversed [("nStart", .array [.bool true, .string none]),
          ("nStart", .object [(none, .null)])] _ (by decide) rfl)
    case array => exact .record (.array (.cons hrule .nil)) .omitted (@Json.Gives.array _ _ _ 1 rfl)
  exact ⟨hdocument, readOutput_of_isDocument hdocument⟩

end CatalogLint.Engine
