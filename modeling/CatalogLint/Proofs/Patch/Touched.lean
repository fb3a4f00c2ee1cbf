/-
**The entries that a patch brings into a report.**

A hunk usually has three unchanged lines at each end, and the lines that it changes are taken to be
those between the first three and the last three of its lines in the new file.  Where a hunk begins
or ends with its file it has fewer unchanged lines, down to none for a file that is new, and then
the lines that are left out hold changes too.

The sums that are made of the numbers in a header are sums of 64 bits.  They fit if the header is
that of a hunk which leads to a file in memory.

Main definitions:

* `CatalogLint.Patch.WrittenHunk.Inner` — a line of the new file that has three lines of the hunk
  before it and three after it;
* `CatalogLint.Patch.Hunk.SumsFit` — the sums fit;
* `CatalogLint.Catalog.PatchOf` — a patch that leads to the file of a catalog.

Main results:

* `CatalogLint.Entry.isTouched_iff` — when a hunk touches an entry;
* `CatalogLint.Catalog.inScope_tagScope_iff` — **a report shows an entry if and only if the entry
  has an inner line of a hunk**; so it shows every entry with an added line that is none of the
  first three lines of the file and none of the last three;
* `CatalogLint.Catalog.not_forall_added_inScope` — an added line alone does not suffice.
-/

import CatalogLint.Proofs.Catalog.LineRange
import CatalogLint.Proofs.Patch.Written
import CatalogLint.Report

set_option autoImplicit false

namespace CatalogLint

/-! ### Files in memory -/

namespace Text

theorem length_linesFrom_le (reversed text : Text) :
    (linesFrom reversed text).length ≤ text.length + min 1 reversed.length := by
  induction text generalizing reversed with
  | nil => cases reversed <;> simp [linesFrom]
  | cons c text ih =>
      rw [linesFrom]
      split
      · have := ih []
        simp only [List.length_cons, List.length_nil] at this ⊢
        omega
      · have := ih (c :: reversed)
        simp only [List.length_cons] at this ⊢
        omega

theorem length_le_byteLength (text : Text) : text.length ≤ byteLength text := by
  induction text with
  | nil => exact Nat.le_refl 0
  | cons c text ih =>
      have := c.utf8Size_pos
      rw [List.length_cons, byteLength]
      omega

/-- A text has no more lines than bytes. -/
theorem length_lines_le_byteLength (text : Text) : (lines text).length ≤ byteLength text :=
  (length_linesFrom_le [] text).trans (length_le_byteLength text)

end Text

/-! ### Inner lines -/

namespace Patch.WrittenHunk

/-- The line of the new file has three lines of the hunk before it and three after it. -/
def Inner (hunk : WrittenHunk) (number : Nat) : Prop :=
  ∃ before text after, newLines hunk.body = before ++ text :: after ∧
    contextLines ≤ before.length ∧ contextLines ≤ after.length ∧
    number = hunk.header.newStart + before.length

/-- The header alone tells which lines are inner ones. -/
theorem inner_iff (hunk : WrittenHunk) (number : Nat) :
    hunk.Inner number ↔ hunk.header.newStart + contextLines ≤ number ∧
      number + contextLines < hunk.header.newStart + hunk.header.newLength := by
  rw [← hunk.newLength]
  constructor
  · rintro ⟨before, text, after, hsplit, hbefore, hafter, rfl⟩
    rw [hsplit, List.length_append, List.length_cons]
    omega
  · rintro ⟨hstart, hend⟩
    have hlt : number - hunk.header.newStart < (newLines hunk.body).length := by omega
    refine ⟨(newLines hunk.body).take (number - hunk.header.newStart),
      (newLines hunk.body)[number - hunk.header.newStart],
      (newLines hunk.body).drop (number - hunk.header.newStart + 1), ?_, ?_, ?_, ?_⟩
    · rw [List.getElem_cons_drop, List.take_append_drop]
    · rw [List.length_take]
      omega
    · rw [List.length_drop]
      omega
    · rw [List.length_take]
      omega

end Patch.WrittenHunk

theorem Patch.LineRange.meets_iff (range : LineRange) (first last : Nat) :
    range.meets first last = true ↔ ∃ number, range.first ≤ number ∧ number < range.stop ∧
      first ≤ number ∧ number ≤ last := by
  simp only [meets, Bool.and_eq_true, decide_eq_true_eq]
  constructor
  · rintro ⟨hstop, hlast⟩
    exact ⟨max range.first first, Nat.le_max_left _ _, hstop, Nat.le_max_right _ _, hlast⟩
  · rintro ⟨number, hstart, hstop, hfirst, hlast⟩
    have hmax : max range.first first ≤ number := Nat.max_le.2 ⟨hstart, hfirst⟩
    exact ⟨Nat.lt_of_le_of_lt hmax hstop, Nat.le_trans hmax hlast⟩

/-- The sums that are made of the numbers in a header fit into 64 bits. -/
structure Patch.Hunk.SumsFit (hunk : Hunk) : Prop where
  /-- The first line behind the context at the beginning has a number. -/
  first : hunk.newStart + contextLines < wordBound
  /-- So has the first line behind the hunk. -/
  stop : hunk.newStart + hunk.newLength < wordBound

theorem Patch.Hunk.SumsFit.mem_changed_iff {hunk : Hunk} (h : hunk.SumsFit) {number : Nat} :
    hunk.changed.first ≤ number ∧ number < hunk.changed.stop ↔
      hunk.newStart + contextLines ≤ number ∧
        number + contextLines < hunk.newStart + hunk.newLength := by
  simp only [changed, wordSum_of_lt h.first, wordSum_of_lt h.stop]
  omega

/-- A hunk touches an entry if and only if the entry has one of the lines between the first three
and the last three of the hunk. -/
theorem Entry.isTouched_iff (entry : Entry) {hunk : Patch.Hunk} (h : hunk.SumsFit) :
    entry.isTouched hunk = true ↔ ∃ number, hunk.newStart + Patch.contextLines ≤ number ∧
      number + Patch.contextLines < hunk.newStart + hunk.newLength ∧
      entry.hasLine number = true := by
  simp only [isTouched, Patch.LineRange.meets_iff, Catalog.hasLine_iff]
  refine exists_congr fun number => ?_
  rw [← and_assoc, h.mem_changed_iff, and_assoc]

/-! ### The scope of the entries of a file -/

namespace Catalog

open Patch

/-- A patch that is written with whole hunks, and a catalog read from the file it leads to. -/
structure PatchOf (path : Path) (content : Text) (catalog : Catalog) (store : Store)
    (patch : List WrittenHunk) : Prop where
  /-- The file is held in memory, where the number of its bytes is a signed one. -/
  inMemory : 2 * Text.byteLength content < wordBound
  reads : parse path content = .ok catalog
  /-- The patch has these hunks for the path of the catalog. -/
  diff : Text.lines (store.diff path) = patch.flatMap WrittenHunk.lines
  /-- They lead to the file. -/
  fits : ∀ hunk ∈ patch, hunk.Fits (Text.lines content)

variable {path : Path} {content : Text} {catalog : Catalog} {store : Store}
  {patch : List WrittenHunk}

/-- Tagging sets the scope of the entries and nothing else. -/
theorem mem_entries_tagScope {tracked : TrackedEntry} {patch : Option Store}
    (h : tracked ∈ (catalog.tagScope patch).entries) :
    tracked.inScope = tracked.entry.inScopeOf catalog.path patch := by
  obtain ⟨before, -, rfl⟩ := List.mem_map.1 h
  rfl

theorem plainEntries_tagScope (catalog : Catalog) (patch : Option Store) :
    (catalog.tagScope patch).plainEntries = catalog.plainEntries := by
  simp [plainEntries, tagScope]

/-- An entry is in the scope of a written patch if and only if it has an inner line of a hunk. -/
theorem inScopeOf_iff (hdiff : Text.lines (store.diff path) = patch.flatMap WrittenHunk.lines)
    (hsums : ∀ hunk ∈ patch, hunk.header.SumsFit) (entry : Entry) :
    entry.inScopeOf path (some store) = true ↔
      ∃ hunk ∈ patch, ∃ number, hunk.Inner number ∧ entry.hasLine number = true := by
  simp only [Entry.inScopeOf, hunks_eq hdiff, List.any_map, List.any_eq_true, Function.comp_apply]
  refine exists_congr fun hunk => and_congr_right fun hhunk => ?_
  simp only [entry.isTouched_iff (hsums hunk hhunk), WrittenHunk.inner_iff, and_assoc]

/-- The hunks of a patch that leads to a file in memory have sums that fit. -/
theorem PatchOf.sumsFit (h : PatchOf path content catalog store patch) :
    ∀ hunk ∈ patch, hunk.header.SumsFit := by
  intro hunk hhunk
  have hlines := Text.length_lines_le_byteLength content
  have hend := (h.fits hunk hhunk).newStart_add_newLength_le
  have hbytes := h.inMemory
  simp only [wordBound] at hbytes
  constructor <;> simp only [contextLines, wordBound] <;> omega

/-- **A report shows an entry if and only if the entry has an inner line of a hunk.**  So it shows
every entry with an added line that is none of the first three lines of the file and none of the
last three. -/
theorem inScope_tagScope_iff (h : PatchOf path content catalog store patch) :
    (catalog.tagScope (some store)).plainEntries = catalog.plainEntries ∧
      ∀ tracked ∈ (catalog.tagScope (some store)).entries,
        (tracked.inScope = true ↔
          ∃ hunk ∈ patch, ∃ number, hunk.Inner number ∧ tracked.entry.hasLine number = true) ∧
        ∀ hunk ∈ patch, ∀ number ∈ hunk.added, tracked.entry.hasLine number = true →
          contextLines < number → number + contextLines ≤ (Text.lines content).length →
          tracked.inScope = true := by
  refine ⟨plainEntries_tagScope catalog (some store), fun tracked htracked => ?_⟩
  have hpath : catalog.path = path := (parse_eq_ok h.reads).2.1
  have hscope : tracked.inScope = true ↔
      ∃ hunk ∈ patch, ∃ number, hunk.Inner number ∧ tracked.entry.hasLine number = true := by
    rw [mem_entries_tagScope htracked, hpath]
    exact inScopeOf_iff h.diff h.sumsFit tracked.entry
  refine ⟨hscope, fun hunk hhunk number hadded hline hstart hend => hscope.2 ?_⟩
  have hinner := (h.fits hunk hhunk).of_mem_added hadded hstart hend
  exact ⟨hunk, hhunk, number, (hunk.inner_iff number).2 hinner, hline⟩

/-! ### Two patches -/

/-- A file with two entries. -/
def noteContent : Text :=
  "#: a\nmsgid \"x\"\nmsgstr \"y\"\n# note\n#: b\nmsgid \"u\"\nmsgstr \"v\"\n"

def noteCatalog : Catalog where
  path := ⟨"a.po"⟩
  entries :=
    [{ entry := { reference := "a", firstLine := 1, lastLine := 4, source := ["x"], target := ["y"],
                  comments := ["note"] } },
     { entry := { reference := "b", firstLine := 5, lastLine := 7, source := ["u"],
                  target := ["v"] } }]

/-- The hunk that adds the comment to the first entry. -/
def noteHunk : WrittenHunk where
  line := "@@ -1,6 +1,7 @@"
  header := ⟨1, 6, 1, 7⟩
  body := [.kept "#: a", .kept "msgid \"x\"", .kept "msgstr \"y\"", .added "# note", .kept "#: b",
    .kept "msgid \"u\"", .kept "msgstr \"v\""]
  reads := by rfl
  oldLength := by rfl
  newLength := by rfl

def noteStore : Store where
  files := [⟨"a.po", ⟨"a.po"⟩, Text.unlines noteHunk.lines⟩]

theorem noteHunk_patchOf : PatchOf ⟨"a.po"⟩ noteContent noteCatalog noteStore [noteHunk] where
  inMemory := by decide
  reads := by rfl
  diff := by rfl
  fits := by decide

theorem inScope_tagScope_note : PatchOf ⟨"a.po"⟩ noteContent noteCatalog noteStore [noteHunk] ∧
    (noteCatalog.tagScope (some noteStore)).entries.map TrackedEntry.inScope = [true, false] ∧
    ∀ tracked ∈ (noteCatalog.tagScope (some noteStore)).entries,
      tracked.inScope = true ↔
        ∃ hunk ∈ [noteHunk], ∃ number, hunk.Inner number ∧ tracked.entry.hasLine number = true :=
  ⟨noteHunk_patchOf, by rfl, fun tracked htracked =>
    ((inScope_tagScope_iff noteHunk_patchOf).2 tracked htracked).1⟩

/-- A file that a patch adds. -/
def newContent : Text := "#: a\nmsgid \"x\"\nmsgstr \"y\"\n"

def newCatalog : Catalog where
  path := ⟨"a.po"⟩
  entries :=
    [{ entry := { reference := "a", firstLine := 1, lastLine := 3, source := ["x"],
                  target := ["y"] } }]

/-- The hunk that adds the file. -/
def newHunk : WrittenHunk where
  line := "@@ -0,0 +1,3 @@"
  header := ⟨0, 0, 1, 3⟩
  body := [.added "#: a", .added "msgid \"x\"", .added "msgstr \"y\""]
  reads := by rfl
  oldLength := by rfl
  newLength := by rfl

def newStore : Store where
  files := [⟨"a.po", ⟨"a.po"⟩, Text.unlines newHunk.lines⟩]

/-- An added line does not always bring its entry into a report: here the file is new and has three
lines, and none of them is an inner one. -/
theorem not_forall_added_inScope :
    ¬ ∀ (path : Path) (content : Text) (catalog : Catalog) (store : Store)
      (patch : List WrittenHunk), PatchOf path content catalog store patch →
      ∀ tracked ∈ (catalog.tagScope (some store)).entries, ∀ hunk ∈ patch, ∀ number ∈ hunk.added,
        tracked.entry.hasLine number = true → tracked.inScope = true := by
  intro hall
  have hpatch : PatchOf ⟨"a.po"⟩ newContent newCatalog newStore [newHunk] := {
    inMemory := by decide
    reads := by rfl
    diff := by rfl
    fits := by decide }
  have hentry : { entry := { reference := "a", firstLine := 1, lastLine := 3, source := ["x"],
                             target := ["y"] } } ∈ (newCatalog.tagScope (some newStore)).entries :=
    List.mem_singleton.2 (by rfl)
  have hscope := hall _ _ _ _ _ hpatch _ hentry newHunk (List.mem_singleton.2 rfl) 1 (by decide)
    (by decide)
  cases hscope

end Catalog

end CatalogLint
