/-
**Hunks with all their context.**

In the middle of a file a hunk has three unchanged lines at each end, and what stands between them
begins and ends with a changed line.  For such hunks the lines that a header is taken to change are
exactly the lines of the new file between the two contexts, so that a report shows the entries that
own one of them and no other.  A patch need not belong to the file at all, so its headers may have
any numbers; only those whose sums fit into 64 bits are considered.

The module walks through the body of a hunk and counts the lines of the new file, as opposed to
reading them off the header.

Main definitions:

* `CatalogLint.Patch.newNumbers` — the numbers of the lines that a body has in the new file;
* `CatalogLint.Patch.FullHunk` — a hunk with three unchanged lines at each end;
* `CatalogLint.Patch.FullHunk.middleNumbers`, `CatalogLint.Patch.FullHunk.outerNumbers` — the
  numbers of the lines between the two contexts, and of the lines of the contexts;
* `CatalogLint.Catalog.ScopedBy` — what the scope of entries has to do with such hunks.

Main results:

* `CatalogLint.Patch.FullHunk.mem_middleNumbers_iff` — **the walk through the body and the
  arithmetic on the header agree**;
* `CatalogLint.Catalog.scopedBy_tagScope` — **a report shows an entry if and only if it owns a line
  between two contexts**; an added line of the file belongs to exactly one entry, from the first
  reference comment on;
* `CatalogLint.Catalog.not_forall_added_owned` — an added line after the end of the file belongs to
  none, and a sum that does not fit brings a wrong entry into the report.
-/

import CatalogLint.Proofs.Patch.Touched

set_option autoImplicit false

namespace CatalogLint

namespace Patch

/-! ### The lines of a body in the new file -/

/-- Whether the line is one of the old or of the new file alone. -/
def BodyLine.isChange : BodyLine → Bool
  | added _ => true
  | removed _ => true
  | _ => false

/-- The numbers of the lines that a body has in the new file; `number` is that of the first one. -/
def newNumbers (number : Nat) : List BodyLine → List Nat
  | [] => []
  | line :: body =>
    match line.newText? with
    | some _ => number :: newNumbers (number + 1) body
    | none => newNumbers number body

theorem newNumbers_append (number : Nat) (body more : List BodyLine) :
    newNumbers number (body ++ more) =
      newNumbers number body ++ newNumbers (number + (newLines body).length) more := by
  induction body generalizing number with
  | nil => rfl
  | cons line body ih =>
      cases line <;> simp [newNumbers, BodyLine.newText?, ih, Nat.add_assoc, Nat.add_comm 1]

theorem newNumbers_withoutRemarks (number : Nat) (body : List BodyLine) :
    newNumbers number (withoutRemarks body) = newNumbers number body := by
  induction body generalizing number with
  | nil => rfl
  | cons line body ih => cases line <;> simp [withoutRemarks, newNumbers, BodyLine.newText?, ih]

/-- The lines follow one another without a gap. -/
theorem mem_newNumbers_iff {first number : Nat} {body : List BodyLine} :
    number ∈ newNumbers first body ↔
      first ≤ number ∧ number < first + (newLines body).length := by
  induction body generalizing first with
  | nil =>
      simp only [newNumbers, List.not_mem_nil, false_iff]
      exact fun h => Nat.lt_irrefl _ (Nat.lt_of_le_of_lt h.1 h.2)
  | cons line body ih =>
      -- a line of the new file takes the first number, any other line none
      have hnew : ∀ text, number ∈ first :: newNumbers (first + 1) body ↔
          first ≤ number ∧ number < first + (text :: newLines body).length := by
        intro text
        rw [List.mem_cons, ih, List.length_cons]
        omega
      cases line with
      | kept text => exact hnew text
      | bare => exact hnew []
      | added text => exact hnew text
      | removed text => exact ih
      | remark text => exact ih

/-! ### Hunks -/

/-- A hunk with three unchanged lines at each end, and between them a part that begins and ends with
a changed line.  Remarks stand for no line and may be anywhere. -/
structure FullHunk extends WrittenHunk where
  leading : List BodyLine
  middle : List BodyLine
  trailing : List BodyLine
  /-- The body consists of these parts. -/
  parts : withoutRemarks body = leading ++ (middle ++ trailing)
  leadingKept : ∀ line ∈ leading, line.isContext = true
  leadingLength : leading.length = contextLines
  trailingKept : ∀ line ∈ trailing, line.isContext = true
  trailingLength : trailing.length = contextLines
  /-- The part between the contexts begins with a changed line. -/
  begins : ∃ line ∈ middle.head?, line.isChange = true
  /-- It ends with one. -/
  ends : ∃ line ∈ middle.getLast?, line.isChange = true

namespace FullHunk

variable (hunk : FullHunk)

/-- The numbers of the lines of the new file between the two contexts, as one counts them on a walk
through the body. -/
def middleNumbers : List Nat :=
  newNumbers (hunk.header.newStart + (newLines hunk.leading).length) hunk.middle

/-- The numbers of the lines of the two contexts. -/
def outerNumbers : List Nat :=
  newNumbers hunk.header.newStart hunk.leading ++
    newNumbers (hunk.header.newStart + (newLines (hunk.leading ++ hunk.middle)).length)
      hunk.trailing

/-- Every line of the hunk in the new file is one of a context or one between the contexts. -/
theorem mem_newNumbers_body_iff (number : Nat) :
    number ∈ newNumbers hunk.header.newStart hunk.body ↔
      number ∈ hunk.middleNumbers ∨ number ∈ hunk.outerNumbers := by
  rw [← newNumbers_withoutRemarks, hunk.parts, newNumbers_append, newNumbers_append, middleNumbers,
    outerNumbers, newLines_append, List.length_append, Nat.add_assoc]
  simp only [List.mem_append]
  tauto

theorem length_newLines_leading : (newLines hunk.leading).length = contextLines := by
  rw [length_newLines_of_isContext hunk.leadingKept, hunk.leadingLength]

theorem length_newLines_trailing : (newLines hunk.trailing).length = contextLines := by
  rw [length_newLines_of_isContext hunk.trailingKept, hunk.trailingLength]

/-- The header counts the lines of the middle part and of both contexts. -/
theorem newLength_eq :
    hunk.header.newLength = (newLines hunk.middle).length + 2 * contextLines := by
  rw [← hunk.newLength, ← newLines_withoutRemarks, hunk.parts, newLines_append, newLines_append,
    List.length_append, List.length_append, length_newLines_leading, length_newLines_trailing]
  omega

/-- **The walk through the body and the arithmetic on the header agree** on the lines between the
two contexts. -/
theorem mem_middleNumbers_iff {number : Nat} :
    number ∈ hunk.middleNumbers ↔ hunk.header.newStart + contextLines ≤ number ∧
      number + contextLines < hunk.header.newStart + hunk.header.newLength := by
  rw [middleNumbers, mem_newNumbers_iff, length_newLines_leading, newLength_eq]
  omega

/-- There is a line between the contexts, so both sums fit if the greater one does. -/
theorem sumsFit (h : hunk.header.newStart + hunk.header.newLength < wordBound) :
    hunk.header.SumsFit := by
  have hlength := hunk.newLength_eq
  exact ⟨by omega, h⟩

theorem not_mem_middleNumbers_of_mem_outerNumbers {number : Nat}
    (h : number ∈ hunk.outerNumbers) : number ∉ hunk.middleNumbers := by
  rw [outerNumbers, List.mem_append, mem_newNumbers_iff, mem_newNumbers_iff, newLines_append,
    List.length_append, length_newLines_leading, length_newLines_trailing] at h
  rw [mem_middleNumbers_iff, newLength_eq]
  omega

/-- An added line stands between the two contexts. -/
theorem mem_middleNumbers_of_mem_added {number : Nat} (h : number ∈ hunk.added) :
    number ∈ hunk.middleNumbers := by
  rw [WrittenHunk.added, ← addedNumbers_withoutRemarks, hunk.parts, addedNumbers_append,
    addedNumbers_append, addedNumbers_of_isContext _ hunk.leadingKept,
    addedNumbers_of_isContext _ hunk.trailingKept, List.nil_append, List.append_nil] at h
  exact mem_newNumbers_iff.2 (mem_addedNumbers _ h)

end FullHunk

end Patch

/-! ### The scope of the entries of a file -/

namespace Catalog

open Patch

/-- The entries of a catalog that was read tile the lines after the header of its file. -/
theorem tiles_of_parse {path : Path} {content : Text} {catalog : Catalog}
    (h : parse path content = .ok catalog) :
    Tiles (1 + (headerLines (contentLines content)).length) catalog.plainEntries
      (1 + (contentLines content).length) := by
  rw [(parse_eq_ok h).2.2]
  exact tiles_blocks 1 (contentLines content)

/-- An entry starts at a line that opens one. -/
theorem firstLine_mem_referenceNumbers {path : Path} {content : Text} {catalog : Catalog}
    (h : parse path content = .ok catalog) {entry : Entry} (hentry : entry ∈ catalog.plainEntries) :
    entry.firstLine ∈ referenceNumbers (contentLines content) := by
  rw [(parse_eq_ok h).2.2] at hentry
  obtain ⟨block, hblock, rfl⟩ := List.mem_map.1 hentry
  have hmem := List.mem_map_of_mem (f := Block.firstLine) hblock
  rw [blocksOf, firstLine_blocks] at hmem
  exact hmem

section
variable {path : Path} {content : Text} {catalog : Catalog} {number : Nat}
variable (h : parse path content = .ok catalog)
include h

/-- A line of the file, from the first line that opens an entry on, belongs to exactly one entry. -/
theorem existsUnique_owner
    (hfrom : ∃ first ∈ referenceNumbers (contentLines content), first ≤ number)
    (hto : number ≤ (contentLines content).length) :
    ∃! i : Nat, ∃ entry, catalog.plainEntries[i]? = some entry ∧ entry.hasLine number = true := by
  obtain ⟨first, hfirst, hle⟩ := hfrom
  have hheader := lt_of_mem_referenceNumbers hfirst
  exact (tiles_of_parse h).existsUnique_hasLine (by omega) (by omega)

/-- Any other line belongs to none. -/
theorem hasLine_eq_false_of_outside
    (houtside : (∀ first ∈ referenceNumbers (contentLines content), number < first) ∨
      (contentLines content).length < number) {entry : Entry}
    (hentry : entry ∈ catalog.plainEntries) : entry.hasLine number = false := by
  have hbounds := (tiles_of_parse h).bounds _ hentry
  rw [← Bool.not_eq_true, hasLine_iff]
  -- an entry begins with a line that opens one, and ends where the file ends at the latest
  rcases houtside with hbefore | hafter
  · have hfirst := hbefore _ (firstLine_mem_referenceNumbers h hentry)
    omega
  · omega

end

/-- What the scope of entries has to do with hunks that have all their context; `lines` are the
lines of the file that the entries are read from. -/
structure ScopedBy (lines : List Text) (patch : List FullHunk) (entries : List TrackedEntry) :
    Prop where
  /-- An entry is in scope if and only if it owns a line between two contexts. -/
  exact : ∀ tracked ∈ entries, tracked.inScope = true ↔
    ∃ hunk ∈ patch, ∃ number ∈ hunk.middleNumbers, tracked.entry.hasLine number = true
  /-- An added line of the file, from the first line that opens an entry on, brings exactly one
  entry into scope. -/
  owned : ∀ hunk ∈ patch, ∀ number ∈ hunk.added,
    (∃ first ∈ referenceNumbers lines, first ≤ number) → number ≤ lines.length →
    ∃! i : Nat, ∃ tracked, entries[i]? = some tracked ∧
      tracked.entry.hasLine number = true ∧ tracked.inScope = true
  /-- An added line before the first line that opens an entry, or after the end of the file, brings
  none into scope. -/
  unowned : ∀ hunk ∈ patch, ∀ number ∈ hunk.added,
    ((∀ first ∈ referenceNumbers lines, number < first) ∨ lines.length < number) →
    ∀ tracked ∈ entries, tracked.entry.hasLine number = false
  /-- Nor does a line of a context: an entry that owns no other line of a hunk is out of scope. -/
  outer : ∀ tracked ∈ entries,
    (∀ hunk ∈ patch, ∀ number ∈ newNumbers hunk.header.newStart hunk.body,
      tracked.entry.hasLine number = true → number ∈ hunk.outerNumbers) →
    tracked.inScope = false

/-- An entry is in the scope of hunks with all their context if and only if it owns a line between
two contexts. -/
theorem inScopeOf_fullHunks_iff {path : Path} {store : Store} {patch : List FullHunk}
    (hdiff : Text.lines (store.diff path) = patch.flatMap fun hunk => hunk.lines)
    (hsums : ∀ hunk ∈ patch, hunk.header.newStart + hunk.header.newLength < wordBound)
    (entry : Entry) :
    entry.inScopeOf path (some store) = true ↔
      ∃ hunk ∈ patch, ∃ number ∈ hunk.middleNumbers, entry.hasLine number = true := by
  have hwritten : Text.lines (store.diff path) =
      (patch.map FullHunk.toWrittenHunk).flatMap WrittenHunk.lines := by
    rw [hdiff, List.flatMap_map]
  have hfit : ∀ hunk ∈ patch.map FullHunk.toWrittenHunk, hunk.header.SumsFit :=
    List.forall_mem_map.2 fun hunk hhunk => hunk.sumsFit (hsums hunk hhunk)
  simp only [inScopeOf_iff hwritten hfit, WrittenHunk.inner_iff, FullHunk.mem_middleNumbers_iff,
    List.mem_map, exists_exists_and_eq_and]

/-- **A report shows an entry if and only if it owns a line between two contexts.**  An added line
of the file brings the one entry into the report that owns it, and a line of a context brings
none. -/
theorem scopedBy_tagScope {path : Path} {content : Text} {catalog : Catalog} {store : Store}
    {patch : List FullHunk} (hreads : parse path content = .ok catalog)
    (hdiff : Text.lines (store.diff path) = patch.flatMap fun hunk => hunk.lines)
    (hsums : ∀ hunk ∈ patch, hunk.header.newStart + hunk.header.newLength < wordBound) :
    (catalog.tagScope (some store)).plainEntries = catalog.plainEntries ∧
      ScopedBy (contentLines content) patch (catalog.tagScope (some store)).entries := by
  have hpath : catalog.path = path := (parse_eq_ok hreads).2.1
  have hplain := plainEntries_tagScope catalog (some store)
  have hscope : ∀ tracked ∈ (catalog.tagScope (some store)).entries, tracked.inScope = true ↔
      ∃ hunk ∈ patch, ∃ number ∈ hunk.middleNumbers, tracked.entry.hasLine number = true := by
    intro tracked htracked
    rw [mem_entries_tagScope htracked, hpath]
    exact inScopeOf_fullHunks_iff hdiff hsums tracked.entry
  refine ⟨hplain, ⟨hscope, ?owned, ?unowned, ?outer⟩⟩
  case owned =>
    intro hunk hhunk number hadded hfrom hto
    obtain ⟨i, ⟨entry, hi, hline⟩, hunique⟩ := existsUnique_owner hreads hfrom hto
    rw [← hplain, plainEntries, List.getElem?_map, Option.map_eq_some_iff] at hi
    obtain ⟨tracked, htracked, rfl⟩ := hi
    -- the owner is in scope, as no added line belongs to a context
    have hmiddle := hunk.mem_middleNumbers_of_mem_added hadded
    have hin := (hscope tracked (List.mem_of_getElem? htracked)).2
      ⟨hunk, hhunk, number, hmiddle, hline⟩
    refine ⟨i, ⟨tracked, htracked, hline, hin⟩, ?_⟩
    rintro j ⟨other, hother, hotherLine, -⟩
    refine hunique j ⟨other.entry, ?_, hotherLine⟩
    rw [← hplain, plainEntries, List.getElem?_map, hother, Option.map_some]
  case unowned =>
    intro hunk hhunk number hadded houtside tracked htracked
    refine hasLine_eq_false_of_outside hreads houtside ?_
    rw [← hplain]
    exact List.mem_map_of_mem htracked
  case outer =>
    intro tracked htracked houter
    rw [← Bool.not_eq_true, hscope tracked htracked]
    rintro ⟨hunk, hhunk, number, hmiddle, hline⟩
    have hbody := (hunk.mem_newNumbers_body_iff number).2 (.inl hmiddle)
    exact hunk.not_mem_middleNumbers_of_mem_outerNumbers (houter hunk hhunk number hbody hline)
      hmiddle

/-! ### Three patches -/

/-- A file with three entries. -/
def tripleContent : Text :=
  Text.unlines ["#: a", "msgid \"x\"", "msgstr \"y\"", "#: b", "msgid \"u\"", "msgstr \"v\"",
    "#: c", "msgid \"p\"", "msgstr \"q\""]

def tripleCatalog : Catalog where
  path := ⟨"a.po"⟩
  entries :=
    [{ entry := { reference := "a", firstLine := 1, lastLine := 3, source := ["x"],
                  target := ["y"] } },
     { entry := { reference := "b", firstLine := 4, lastLine := 6, source := ["u"],
                  target := ["v"] } },
     { entry := { reference := "c", firstLine := 7, lastLine := 9, source := ["p"],
                  target := ["q"] } }]

/-- The hunk that changes a line of the second entry; its contexts reach into the other two. -/
def tripleHunk : FullHunk where
  line := "@@ -2,7 +2,7 @@"
  header := ⟨2, 7, 2, 7⟩
  body := [.kept "msgid \"x\"", .kept "msgstr \"y\"", .kept "#: b", .removed "msgid \"t\"",
    .added "msgid \"u\"", .kept "msgstr \"v\"", .kept "#: c", .kept "msgid \"p\""]
  reads := by rfl
  oldLength := by rfl
  newLength := by rfl
  leading := [.kept "msgid \"x\"", .kept "msgstr \"y\"", .kept "#: b"]
  middle := [.removed "msgid \"t\"", .added "msgid \"u\""]
  trailing := [.kept "msgstr \"v\"", .kept "#: c", .kept "msgid \"p\""]
  parts := by rfl
  leadingKept := by decide
  leadingLength := by rfl
  trailingKept := by decide
  trailingLength := by rfl
  begins := ⟨_, rfl, rfl⟩
  ends := ⟨_, rfl, rfl⟩

def tripleStore : Store where
  files := [⟨"a.po", ⟨"./a.po"⟩, Text.unlines tripleHunk.lines⟩]

theorem scopedBy_tagScope_triple :
    parse ⟨"a.po"⟩ tripleContent = .ok tripleCatalog ∧
      Text.lines (tripleStore.diff ⟨"a.po"⟩) = ([tripleHunk].flatMap fun hunk => hunk.lines) ∧
      (∀ hunk ∈ [tripleHunk], hunk.header.newStart + hunk.header.newLength < wordBound) ∧
      (tripleCatalog.tagScope (some tripleStore)).entries.map TrackedEntry.inScope =
        [false, true, false] ∧
      ScopedBy (contentLines tripleContent) [tripleHunk]
        (tripleCatalog.tagScope (some tripleStore)).entries := by
  have hreads : parse ⟨"a.po"⟩ tripleContent = .ok tripleCatalog := by rfl
  have hdiff : Text.lines (tripleStore.diff ⟨"a.po"⟩) =
      ([tripleHunk].flatMap fun hunk => hunk.lines) := by rfl
  have hsums : ∀ hunk ∈ [tripleHunk],
      hunk.header.newStart + hunk.header.newLength < wordBound := by decide
  exact ⟨hreads, hdiff, hsums, by rfl, (scopedBy_tagScope hreads hdiff hsums).2⟩

/-- A hunk of a patch for a longer file. -/
def farHunk : FullHunk where
  line := "@@ -10,6 +10,7 @@"
  header := ⟨10, 6, 10, 7⟩
  body := [.kept "a", .kept "b", .kept "c", .added "d", .kept "e", .kept "f", .kept "g"]
  reads := by rfl
  oldLength := by rfl
  newLength := by rfl
  leading := [.kept "a", .kept "b", .kept "c"]
  middle := [.added "d"]
  trailing := [.kept "e", .kept "f", .kept "g"]
  parts := by rfl
  leadingKept := by decide
  leadingLength := by rfl
  trailingKept := by decide
  trailingLength := by rfl
  begins := ⟨_, rfl, rfl⟩
  ends := ⟨_, rfl, rfl⟩

def farStore : Store where
  files := [⟨"a.po", ⟨"a.po"⟩, Text.unlines farHunk.lines⟩]

/-- A hunk of a patch for a file that is longer than a file can be. -/
def endlessHunk : FullHunk where
  line := "@@ -1,6 +18446744073709551615,7 @@"
  header := ⟨1, 6, 18446744073709551615, 7⟩
  body := farHunk.body
  reads := by rfl
  oldLength := by rfl
  newLength := by rfl
  leading := farHunk.leading
  middle := farHunk.middle
  trailing := farHunk.trailing
  parts := farHunk.parts
  leadingKept := farHunk.leadingKept
  leadingLength := farHunk.leadingLength
  trailingKept := farHunk.trailingKept
  trailingLength := farHunk.trailingLength
  begins := farHunk.begins
  ends := farHunk.ends

def endlessStore : Store where
  files := [⟨"a.po", ⟨"a.po"⟩, Text.unlines endlessHunk.lines⟩]

/-- A patch need not belong to the file.  One may add a line that would be the thirteenth one of a
file with three lines, all of them of one entry, and the line brings no entry into scope.  Another
one may begin where no file has a line: the sums of its numbers start again from zero, and the entry
comes into scope though it owns no line between the contexts. -/
theorem not_forall_added_owned :
    (¬ ∀ (path : Path) (content : Text) (catalog : Catalog) (store : Store)
      (patch : List FullHunk), parse path content = .ok catalog →
      Text.lines (store.diff path) = (patch.flatMap fun hunk => hunk.lines) →
      ∀ hunk ∈ patch, ∀ number ∈ hunk.added,
        (∃ first ∈ referenceNumbers (contentLines content), first ≤ number) →
        ∃! i : Nat, ∃ tracked, (catalog.tagScope (some store)).entries[i]? = some tracked ∧
          tracked.entry.hasLine number = true ∧ tracked.inScope = true) ∧
    ¬ ∀ (path : Path) (content : Text) (catalog : Catalog) (store : Store)
      (patch : List FullHunk), parse path content = .ok catalog →
      Text.lines (store.diff path) = (patch.flatMap fun hunk => hunk.lines) →
      ∀ tracked ∈ (catalog.tagScope (some store)).entries, tracked.inScope = true →
        ∃ hunk ∈ patch, ∃ number ∈ hunk.middleNumbers, tracked.entry.hasLine number = true := by
  have hreads : parse ⟨"a.po"⟩ newContent = .ok newCatalog := by rfl
  constructor
  · intro hall
    have hdiff : Text.lines (farStore.diff ⟨"a.po"⟩) =
        ([farHunk].flatMap fun hunk => hunk.lines) := by rfl
    have hfirst : ∃ first ∈ referenceNumbers (contentLines newContent), first ≤ 13 :=
      ⟨1, by decide, by decide⟩
    obtain ⟨i, ⟨tracked, hi, -, hscope⟩, -⟩ :=
      hall _ _ _ _ _ hreads hdiff farHunk (List.mem_singleton.2 rfl) 13 (by decide) hfirst
    have hnone : ∀ other ∈ (newCatalog.tagScope (some farStore)).entries,
        other.inScope = false := by decide
    rw [hnone tracked (List.mem_of_getElem? hi)] at hscope
    cases hscope
  · intro hall
    have hdiff : Text.lines (endlessStore.diff ⟨"a.po"⟩) =
        ([endlessHunk].flatMap fun hunk => hunk.lines) := by rfl
    have htracked : { entry := { reference := "a", firstLine := 1, lastLine := 3, source := ["x"],
                                 target := ["y"] }, inScope := true } ∈
        (newCatalog.tagScope (some endlessStore)).entries := List.mem_singleton.2 (by rfl)
    obtain ⟨hunk, hhunk, number, hnumber, hline⟩ :=
      hall _ _ _ _ _ hreads hdiff _ htracked rfl
    -- the one line between the contexts has a number beyond 64 bits
    rw [List.mem_singleton.1 hhunk, FullHunk.mem_middleNumbers_iff] at hnumber
    have hlarge : 18446744073709551618 ≤ number := hnumber.1
    rw [hasLine_iff] at hline
    have hsmall : number ≤ 3 := hline.2
    omega

end Catalog

end CatalogLint
