/-
**The paragraphs that an engine is sent.**

An engine counts paragraphs by line, and nothing in its answer says more about a remark than the
number of its paragraph.  So the number has to lead back to the entry: the target text of an entry
must be one line, whatever markup it holds, and every line must be where it is counted.

A file is read line by line, so no string of an entry holds a newline; neither the plain form of a
line nor its mask brings one in.  With a blank line between any two of them, entry `n` is paragraph
`2 * n`.

Main definitions:

* `CatalogLint.Checker.Grammar.paragraphs` — the lines of what is sent for some entries;
* `CatalogLint.Checker.Grammar.Numbered` — the numbers of the paragraphs lead back to the entries.

Main results:

* `CatalogLint.Text.splitOn_joinWith_blankLine` — lines with blank lines between them are read back;
* `CatalogLint.Catalog.exists_line_of_mem_segments` — **the strings of an entry are parts of
  lines**;
* `CatalogLint.Checker.Grammar.paragraphs_eq` — what the paragraphs are;
* `CatalogLint.Checker.Grammar.numbered_paragraphs` — **the paragraphs sent for a catalog that was
  read are those of its entries**, at twice their indices.
-/

import CatalogLint.Checker.Grammar
import CatalogLint.Proofs.Catalog.Blocks
import CatalogLint.Proofs.Markup.OneLine

set_option autoImplicit false

namespace CatalogLint

/-! ### Splitting at newlines -/

namespace Text

/-- Lines with a blank line between any two of them are read back, with an empty line between any
two of them. -/
theorem splitOn_joinWith_blankLine {texts : List Text} (h : ∀ text ∈ texts, '\n' ∉ text)
    (hne : texts ≠ []) : splitOn '\n' (joinWith "\n\n" texts) = texts.intersperse [] := by
  induction texts with
  | nil => exact absurd rfl hne
  | cons first texts ih =>
      obtain ⟨hfirst, hothers⟩ := List.forall_mem_cons.1 h
      cases texts with
      | nil => simpa [joinWith, List.intercalate] using splitOn_of_not_mem hfirst
      | cons second texts =>
          have hjoin : joinWith "\n\n" (first :: second :: texts) =
              first ++ '\n' :: ([] ++ '\n' :: joinWith "\n\n" (second :: texts)) := by
            simp [joinWith, List.intercalate]
          rw [hjoin, splitOn_append_cons, splitOn_append_cons, splitOn_of_not_mem hfirst,
            ih hothers (List.cons_ne_nil _ _), List.intersperse_cons_cons]
          rfl

end Text

/-! ### The strings of an entry -/

namespace Catalog

theorem infix_of_unquote {text inner : Text} (h : unquote text = some inner) :
    inner <:+: text := by
  obtain ⟨rest, hstart, hend⟩ := Option.bind_eq_some_iff.1 h
  rw [Text.dropStart?_eq_some_iff] at hstart
  rw [Text.dropEnd?_eq_some_iff] at hend
  have hinner : inner <:+: Text.trim text := ⟨['"'], ['"'], by rw [hstart, hend]; rfl⟩
  exact hinner.trans (Text.trim_infix text)

/-- The text that a line holds between quotes, if any. -/
def Line.text? : Line → Option Text
  | keyword _ text => some text
  | string text => some text
  | _ => none

theorem infix_of_text?_ofKeyword {line text : Text}
    (h : (Line.ofKeyword line).text? = some text) : text <:+: line := by
  rw [Line.ofKeyword, Text.splitFirst_getD] at h
  simp only at h
  split at h
  · cases h
  · next inner hinner =>
    have hrest : (line.dropWhile (!Text.isBlank ·)).tail <:+: line :=
      (List.tail_suffix _).isInfix.trans (List.dropWhile_suffix _).isInfix
    split at h
    · cases h
      exact (infix_of_unquote hinner).trans hrest
    · cases h

theorem infix_of_text?_ofTrimmed {line text : Text} (htrim : Text.trimEnd line = line)
    (h : (Line.ofTrimmed line).text? = some text) : text <:+: line := by
  cases hstart : startsString line with
  | true =>
      rw [ofTrimmed_of_startsString hstart] at h
      exact infix_of_text?_ofKeyword h
  | false =>
      cases hcontinue : continuesString line with
      | true =>
          rw [ofTrimmed_of_continuesString htrim hcontinue] at h
          split at h
          · cases h
            exact (List.dropLast_prefix _).isInfix.trans (List.tail_suffix _).isInfix
          · cases h
      | false =>
          rcases ofTrimmed_of_other hstart hcontinue with
            ⟨_, hread⟩ | ⟨_, hread⟩ | ⟨_, hread⟩ | hread
          all_goals
            rw [hread] at h
            cases h

/-- The text that a line holds is a part of the line. -/
theorem infix_of_text?_ofText {line text : Text} (h : (Line.ofText line).text? = some text) :
    text <:+: line :=
  (infix_of_text?_ofTrimmed (Text.trimEnd_trimEnd line) h).trans (Text.trimEnd_prefix line).isInfix

/-- The quoted texts of some lines are those that the lines hold. -/
theorem text?_of_mem_strings {field owner : Field} {text : Text} {lines : List Line}
    (h : (owner, text) ∈ strings field lines) : ∃ line ∈ lines, line.text? = some text := by
  induction lines generalizing field with
  | nil => cases h
  | cons line lines ih =>
      have hlater : ∀ {next : Field}, (owner, text) ∈ strings next lines →
          ∃ found ∈ line :: lines, found.text? = some text := fun hmem => by
        obtain ⟨later, hlater, htext⟩ := ih hmem
        exact ⟨later, List.mem_cons_of_mem _ hlater, htext⟩
      cases line with
      | keyword next found =>
          rcases List.mem_cons.1 h with heq | hmem
          · cases heq
            exact ⟨_, List.mem_cons_self, rfl⟩
          · exact hlater hmem
      | string found =>
          rcases List.mem_cons.1 h with heq | hmem
          · cases heq
            exact ⟨_, List.mem_cons_self, rfl⟩
          · exact hlater hmem
      | reference | flags | comment | other | faulty => exact hlater h

/-- **The strings of an entry are parts of the lines of its file.** -/
theorem exists_line_of_mem_segments {content text : Text} {block : Block} {field : Field}
    (hblock : block ∈ blocksOf content) (h : text ∈ block.segments field) :
    ∃ line ∈ contentLines content, text <:+: line := by
  obtain ⟨⟨owner, text⟩, hmem, rfl⟩ := List.mem_map.1 h
  obtain ⟨reading, hreading, htext⟩ := text?_of_mem_strings (List.mem_filter.1 hmem).1
  obtain ⟨before, opener, body, after, hlines, -, -, hbody, -⟩ := standsIn_of_mem_blocks hblock
  rw [hbody] at hreading
  obtain ⟨line, hline, rfl⟩ := List.mem_map.1 hreading
  refine ⟨line, ?_, infix_of_text?_ofText htext⟩
  rw [hlines]
  exact List.mem_append_right _ (List.mem_cons_of_mem _ (List.mem_append_left _ hline))

/-- The target text of an entry that was read is one line. -/
theorem newline_not_mem_targetText {path : Path} {content : Text} {catalog : Catalog}
    (h : parse path content = .ok catalog) :
    ∀ entry ∈ catalog.plainEntries, '\n' ∉ entry.targetText := by
  obtain ⟨-, -, hentries⟩ := parse_eq_ok h
  intro entry hentry hnew
  rw [hentries] at hentry
  obtain ⟨block, hblock, rfl⟩ := List.mem_map.1 hentry
  obtain ⟨segment, hsegment, hmem⟩ := List.mem_flatten.1 hnew
  obtain ⟨line, hline, hpart⟩ := exists_line_of_mem_segments hblock hsegment
  exact Text.newline_not_mem_of_mem_lines hline (hpart.subset hmem)

end Catalog

/-! ### Paragraphs and entries -/

namespace Checker.Grammar

/-- The lines of what an engine is sent for some entries. -/
def paragraphs (entries : List Entry) : List Text :=
  Text.splitOn '\n' (request (entries.map Entry.normalizedTarget))

/-- The numbers of the paragraphs lead back to the entries. -/
structure Numbered (entries : List Entry) (paragraphs : List Text) : Prop where
  /-- There is one paragraph for each entry, and one between any two of them. -/
  count : paragraphs.length = 2 * entries.length - 1
  /-- The paragraph at twice the index of an entry is its plain target text, masked. -/
  target : ∀ (index : Nat) (entry : Entry), entries[index]? = some entry →
    paragraphs[2 * index]? = some (Markup.maskQuoted entry.normalizedTarget)
  /-- It has as many characters as the plain target text. -/
  sameLength : ∀ entry ∈ entries,
    (Markup.maskQuoted entry.normalizedTarget).length = entry.normalizedTarget.length
  /-- The paragraphs with odd numbers are empty. -/
  blank : ∀ number < paragraphs.length, number % 2 = 1 → paragraphs[number]? = some []
  /-- Every paragraph has an entry, and holds the masked target text of this entry or nothing. -/
  owner : ∀ number < paragraphs.length, ∃ entry, entries[entryIndex number]? = some entry ∧
    paragraphs[number]? = some
      (if number % 2 = 0 then Markup.maskQuoted entry.normalizedTarget else [])

/-- The masked target texts of some entries. -/
def masks (entries : List Entry) : List Text :=
  entries.map fun entry => Markup.maskQuoted entry.normalizedTarget

theorem length_masks (entries : List Entry) : (masks entries).length = entries.length :=
  List.length_map _

/-- The paragraphs are the masked target texts with an empty line between any two of them. -/
theorem paragraphs_eq {entries : List Entry} (hne : entries ≠ [])
    (h : ∀ entry ∈ entries, '\n' ∉ entry.targetText) :
    paragraphs entries = (masks entries).intersperse [] := by
  have hlines : ∀ text ∈ (entries.map Entry.normalizedTarget).map Markup.maskQuoted,
      '\n' ∉ text := by
    simp only [List.map_map, List.forall_mem_map]
    intro entry hentry
    exact Markup.newline_not_mem_maskQuoted (Markup.newline_not_mem_normalize (h entry hentry))
  rw [paragraphs, request, Text.splitOn_joinWith_blankLine hlines (by simpa using hne),
    List.map_map]
  rfl

/-- Lines with empty lines between them lead back to the entries they were made of. -/
theorem numbered_intersperse (entries : List Entry) :
    Numbered entries ((masks entries).intersperse []) := by
  have hcount : ((masks entries).intersperse []).length = 2 * entries.length - 1 := by
    rw [List.length_intersperse, length_masks]
  have htarget : ∀ (index : Nat) (entry : Entry), entries[index]? = some entry →
      ((masks entries).intersperse [])[2 * index]? =
        some (Markup.maskQuoted entry.normalizedTarget) := by
    intro index entry hentry
    rw [List.getElem?_intersperse_two_mul, masks, List.getElem?_map, hentry, Option.map_some]
  have hblank : ∀ index, index + 1 < entries.length →
      ((masks entries).intersperse [])[2 * index + 1]? = some [] := by
    intro index hindex
    rw [← length_masks] at hindex
    exact List.getElem?_intersperse_two_mul_add_one hindex
  refine ⟨hcount, htarget, fun entry _ => Markup.length_maskQuoted _,
    fun number hnumber hodd => ?blank, fun number hnumber => ?owner⟩
  case blank =>
    rw [hcount] at hnumber
    obtain ⟨index, rfl⟩ : ∃ index, number = 2 * index + 1 := ⟨number / 2, by omega⟩
    exact hblank index (by omega)
  case owner =>
    rw [hcount] at hnumber
    -- an odd number is that of the empty line after an entry, which is not the last one
    obtain ⟨index, rfl | rfl⟩ : ∃ index, number = 2 * index ∨ number = 2 * index + 1 :=
      ⟨number / 2, by omega⟩
    · have hindex : index < entries.length := by omega
      have hhalf : entryIndex (2 * index) = index := Nat.mul_div_cancel_left index (by decide)
      have hentry := List.getElem?_eq_getElem hindex
      refine ⟨entries[index], by rw [hhalf, hentry], ?_⟩
      rw [if_pos (Nat.mul_mod_right 2 index)]
      exact htarget index _ hentry
    · have hindex : index < entries.length := by omega
      have hhalf : entryIndex (2 * index + 1) = index := by
        unfold entryIndex
        omega
      refine ⟨entries[index], by rw [hhalf, List.getElem?_eq_getElem hindex], ?_⟩
      rw [if_neg (by omega)]
      exact hblank index (by omega)

/-- **The paragraphs sent for a catalog that was read are those of its entries.** -/
theorem numbered_paragraphs {path : Path} {content : Text} {catalog : Catalog}
    (h : Catalog.parse path content = .ok catalog) (hne : catalog.plainEntries ≠ []) :
    Numbered catalog.plainEntries (paragraphs catalog.plainEntries) := by
  rw [paragraphs_eq hne (Catalog.newline_not_mem_targetText h)]
  exact numbered_intersperse _

/-- A file with markup and guillemets in its translations, one of which is missing. -/
def markedContent : Text :=
  "#: a\nmsgid \"x\"\nmsgstr \"\"\n\"voir \x60\x60len()\x60\x60\"\n" ++
    "#: b\nmsgid \"y\"\nmsgstr \"\"\n" ++ "#: c\nmsgstr \"« *fin* »\"\n"

def markedCatalog : Catalog where
  path := ⟨"a.po"⟩
  entries :=
    [{ entry :=
         { reference := "a", firstLine := 1, lastLine := 4, source := ["x"],
           target := ["", "voir \x60\x60len()\x60\x60"] } },
     { entry :=
         { reference := "b", firstLine := 5, lastLine := 7, source := ["y"], target := [""] } },
     { entry := { reference := "c", firstLine := 8, lastLine := 9, target := ["« *fin* »"] } }]

theorem numbered_paragraphs_marked :
    Catalog.parse ⟨"a.po"⟩ markedContent = .ok markedCatalog ∧ markedCatalog.plainEntries ≠ [] ∧
      Numbered markedCatalog.plainEntries (paragraphs markedCatalog.plainEntries) ∧
      paragraphs markedCatalog.plainEntries =
        [("voir «\u00a0xxxxx\u00a0»" : Text), [], [], [], "« xxxxx\u00a0» »"] := by
  have h : Catalog.parse ⟨"a.po"⟩ markedContent = .ok markedCatalog := by rfl
  have hne : markedCatalog.plainEntries ≠ [] := List.cons_ne_nil _ _
  exact ⟨h, hne, numbered_paragraphs h hne, by rfl⟩

end Checker.Grammar

end CatalogLint
