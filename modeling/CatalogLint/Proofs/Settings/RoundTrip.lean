/-
**Settings survive being written and read.**

The value of some settings gives all of them back: each field is found by the name it is written
with, so that none comes from its default value, and the terms of a project come back in the order
in which they are kept.  With the reader and the writer of JSON, a directory that has the document
of some settings gets these settings, unless something makes them unusable.

Nothing is asked of the settings but what holds of all that a document can describe: their terms are
in order, and their numbers fit into 64 bits.

Main definitions:

* `CatalogLint.Settings.WellFormed` — the settings that documents describe;
* `CatalogLint.Settings.Survives` — settings survive being written and read.

Main results:

* `CatalogLint.Settings.decode_encode` — **a value describes the settings it was made from**;
* `CatalogLint.Settings.wellFormed_of_parse` — what a document describes is well-formed;
* `CatalogLint.Settings.survives` — **settings survive being written and read**.
-/

import CatalogLint.Proofs.Glossary.Extension
import CatalogLint.Proofs.Json.Record
import CatalogLint.Settings.Load

set_option autoImplicit false

namespace CatalogLint

/-! ### Settings as values -/

namespace GrammarSettings

theorem decode_encode {settings : GrammarSettings}
    (h : settings.timeoutSeconds < wordBound) : decode settings.encode = some settings := by
  rw [decode, encode, Json.fields_ofMembers (by decide) rfl]
  simp only [Option.bind_eq_bind, Option.bind_some, List.map_cons, List.map_nil, Json.defaulting,
    Json.flag, Json.list_ofTexts, Json.word, if_pos h]
  rfl

theorem proper_encode (settings : GrammarSettings) : settings.encode.Proper := by
  refine Json.proper_record ?_
  simp only [List.forall_mem_cons]
  exact ⟨.bool _, Json.proper_ofText _, Json.proper_ofTexts _, .natural _, Json.proper_ofTexts _,
    List.forall_mem_nil _⟩

theorem timeoutSeconds_lt_of_decode {value : Json.Value} {settings : GrammarSettings}
    (h : decode value = some settings) : settings.timeoutSeconds < wordBound := by
  rw [decode] at h
  simp only [Option.bind_eq_bind, Option.bind_eq_some_iff] at h
  obtain ⟨fields, -, h⟩ := h
  split at h
  · simp only [Option.bind_eq_some_iff, Option.some.injEq] at h
    obtain ⟨enabled, -, program, -, arguments, -, timeoutSeconds, htime, install, -, rfl⟩ := h
    exact Json.of_defaulting (· < wordBound) htime (by decide) fun _ _ =>
      Json.lt_wordBound_of_word
  · cases h

end GrammarSettings

namespace Settings

/-- The settings that documents describe. -/
structure WellFormed (settings : Settings) : Prop where
  /-- The terms are in order, each name once. -/
  glossary : settings.glossary.Ordered
  maxLineLength : settings.maxLineLength < wordBound
  timeoutSeconds : settings.grammar.timeoutSeconds < wordBound

theorem ordered_of_decodeGlossary {value : Json.Value} {glossary : Glossary.Extension}
    (h : decodeGlossary value = some glossary) : glossary.Ordered := by
  obtain ⟨terms, -, heq⟩ := Option.bind_eq_some_iff.1 h
  cases heq
  exact Glossary.Extension.ordered_ofList _

theorem decodeGlossary_encodeGlossary {glossary : Glossary.Extension} (h : glossary.Ordered) :
    decodeGlossary (encodeGlossary glossary) = some glossary := by
  have hentries := Json.entries_ofMembers Json.list_ofTexts
    (glossary.terms.map fun term => (term.name, term.equivalents))
  simp only [List.map_map, Function.comp_def] at hentries
  rw [decodeGlossary, encodeGlossary, hentries]
  simp only [Option.bind_eq_bind, Option.bind_some, List.map_map, Function.comp_def, List.map_id']
  rw [Glossary.Extension.ofList_terms h]

/-- **A value describes the settings it was made from.** -/
theorem decode_encode {settings : Settings} (h : settings.WellFormed) :
    decode settings.encode = some settings := by
  rw [decode, encode, Json.fields_ofMembers (by decide) rfl]
  simp only [Option.bind_eq_bind, Option.bind_some, List.map_cons, List.map_nil, Json.defaulting,
    Json.list_ofTexts, Json.word, if_pos h.maxLineLength, decodeGlossary_encodeGlossary h.glossary,
    GrammarSettings.decode_encode h.timeoutSeconds]

/-- What a value describes is well-formed. -/
theorem wellFormed_of_decode {value : Json.Value} {settings : Settings}
    (h : decode value = some settings) : settings.WellFormed := by
  rw [decode] at h
  simp only [Option.bind_eq_bind, Option.bind_eq_some_iff] at h
  obtain ⟨fields, -, h⟩ := h
  split at h
  · simp only [Option.bind_eq_some_iff, Option.some.injEq] at h
    obtain ⟨ignores, -, maxLineLength, hlength, glossary, hglossary, dictionaries, -, words, -,
      grammar, hgrammar, rfl⟩ := h
    refine ⟨?glossary, ?maxLineLength, ?timeoutSeconds⟩
    case glossary =>
      exact Json.of_defaulting Glossary.Extension.Ordered hglossary List.Pairwise.nil fun _ _ =>
        ordered_of_decodeGlossary
    case maxLineLength =>
      exact Json.of_defaulting (· < wordBound) hlength (by decide) fun _ _ =>
        Json.lt_wordBound_of_word
    case timeoutSeconds =>
      exact Json.of_defaulting (·.timeoutSeconds < wordBound) hgrammar (by decide) fun _ _ =>
        GrammarSettings.timeoutSeconds_lt_of_decode
  · cases h

theorem proper_encodeGlossary (glossary : Glossary.Extension) :
    (encodeGlossary glossary).Proper := by
  refine Json.proper_ofMembers fun member hmember => ?_
  obtain ⟨term, -, rfl⟩ := List.mem_map.1 hmember
  exact Json.proper_ofTexts _

theorem proper_encode (settings : Settings) : settings.encode.Proper := by
  refine Json.proper_record ?_
  simp only [List.forall_mem_cons]
  exact ⟨Json.proper_ofTexts _, .natural _, proper_encodeGlossary _, Json.proper_ofTexts _,
    Json.proper_ofTexts _, settings.grammar.proper_encode, List.forall_mem_nil _⟩

/-! ### Documents -/

theorem parse_render {settings : Settings} (h : settings.WellFormed) :
    parse settings.render = some settings := by
  rw [parse, render, Json.parse_pretty settings.proper_encode, Option.bind_some, decode_encode h]

/-- What a document describes is well-formed. -/
theorem wellFormed_of_parse {document : Text} {settings : Settings}
    (h : parse document = some settings) : settings.WellFormed := by
  obtain ⟨value, -, hdecode⟩ := Option.bind_eq_some_iff.1 h
  exact wellFormed_of_decode hdecode

end Settings

/-! ### Files -/

namespace Files

variable {files : Files} {path : Path}

theorem exists?_of_read {content : ByteArray} (h : files.read path = .ok content) :
    files.exists? path = true := by
  rw [read] at h
  rw [exists?]
  cases htree : files.tree path with
  | ok tree => rfl
  | error error =>
    rw [htree] at h
    cases h

/-- A text is read from the bytes that encode it. -/
theorem readText_of_read {text : Text} (h : files.read path = .ok (Text.toString text).toUTF8) :
    files.readText path = .ok text := by
  have htext : textOf? (Text.toString text).toUTF8 = some text := by
    have hvalid : (Text.toString text).toUTF8.IsValidUTF8 := (Text.toString text).isValidUTF8
    rw [textOf?, String.fromUTF8?, dif_pos hvalid]
    exact congrArg some String.toList_ofList
  simp only [readText, h, bind, Except.bind, htext]

end Files

namespace Settings

variable {files : Files} {directory : Path}

/-- The settings of a directory itself come before those above it. -/
theorem find?_of_exists (h : files.exists? (directory.join fileName) = true) :
    find? files directory = some (directory.join fileName) := by
  rw [find?, Path.ancestors]
  cases directory.components.length <;> rw [Path.ancestorsUpTo, findIn, if_pos h]

theorem load_of_read {document : Text} {settings : Settings}
    (hread : files.read (directory.join fileName) = .ok (Text.toString document).toUTF8)
    (hparse : parse document = some settings) :
    load files directory =
      match settings.fault? with
      | some fault => .error (.fault fault)
      | none => .ok ⟨settings, true⟩ := by
  rw [load, find?_of_exists (Files.exists?_of_read hread)]
  simp only [loadFile, Files.readText_of_read hread, hparse]
  cases settings.fault? <;> rfl

/-- Settings survive being written and read. -/
structure Survives (settings : Settings) : Prop where
  /-- The document is JSON, and spells the value of the settings. -/
  spelled : Json.Spells settings.encode settings.render
  /-- The document describes the settings. -/
  parsed : parse settings.render = some settings
  /-- A directory that has the document gets the settings, if nothing makes them unusable. -/
  loaded : settings.fault? = none → ∀ (files : Files) (directory : Path),
    files.read (directory.join fileName) = .ok (Text.toString settings.render).toUTF8 →
      load files directory = .ok ⟨settings, true⟩
  /-- Settings that something makes unusable are refused, with what it is. -/
  refused : ∀ fault, settings.fault? = some fault → ∀ (files : Files) (directory : Path),
    files.read (directory.join fileName) = .ok (Text.toString settings.render).toUTF8 →
      load files directory = .error (.fault fault)

/-- **Settings survive being written and read.** -/
theorem survives {settings : Settings} (h : settings.WellFormed) : settings.Survives := by
  have hparsed := parse_render h
  refine ⟨settings.proper_encode.spells_pretty, hparsed,
    fun hfault files directory hread => ?loaded,
    fun fault hfault files directory hread => ?refused⟩
  case loaded => rw [load_of_read hread hparsed, hfault]
  case refused => rw [load_of_read hread hparsed, hfault]

/-- Settings with texts that have to be escaped, and with terms. -/
def someSettings : Settings where
  ignores := ["build\\\"*", "café/[!a-z]", "line\nfeed\x01"]
  maxLineLength := 18446744073709551615
  glossary := ⟨[⟨"", ["\u2028"]⟩, ⟨"a \"term\"", ["un terme", ""]⟩, ⟨"𝄞", ["clef"]⟩]⟩
  personalWords := []
  grammar := { enabled := false, arguments := ["--tab\t"], timeoutSeconds := 0 }

def filesWith (settings : Settings) : Files where
  root := .directory (.entry ".polintrc.json"
    (.file (Text.toString settings.render).toUTF8 false) .empty)
  working := []

theorem survives_someSettings :
    (someSettings.WellFormed ∧ parse someSettings.render = some someSettings ∧
        load (filesWith someSettings) ⟨"."⟩ = .ok ⟨someSettings, true⟩) ∧
      load (filesWith { someSettings with maxLineLength := 2 }) ⟨"."⟩ =
        .error (.fault (.lineLength 2)) := by
  have hwellFormed : someSettings.WellFormed := ⟨by decide, by decide, by decide⟩
  have hshort : { someSettings with maxLineLength := 2 }.WellFormed :=
    ⟨by decide, by decide, by decide⟩
  exact ⟨⟨hwellFormed, (survives hwellFormed).parsed,
    (survives hwellFormed).loaded (by decide) (filesWith someSettings) ⟨"."⟩ rfl⟩,
    (survives hshort).refused (.lineLength 2) (by decide) (filesWith _) ⟨"."⟩ rfl⟩

end Settings

end CatalogLint
