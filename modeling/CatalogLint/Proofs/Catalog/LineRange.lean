/-
**The entries of a catalog tile the lines of its file.**

An entry starts at its reference comment and ends on the line before the next one, the last entry at
the end of the file.  So the lines from the first reference comment on are divided among the entries
without a gap and without an overlap, which is what a report relies on when a patch is given: a line
that the patch changes names one entry.

Main definitions:

* `CatalogLint.Catalog.Tiles` — entries that follow one another without a gap, from one line to
  another.

Main results:

* `CatalogLint.Catalog.tiles_blocks` — **the entries of a file's blocks tile the lines after the
  header**;
* `CatalogLint.Catalog.Tiles.existsUnique_hasLine` — a tiled line belongs to exactly one entry;
* `CatalogLint.Catalog.entries_tile_lines` — what this says of a catalog that was read.
-/

import CatalogLint.Proofs.Catalog.Blocks
import Mathlib.Data.List.Chain

set_option autoImplicit false

namespace CatalogLint.Catalog

/-! ### Tilings -/

/-- The entries follow one another without a gap and without an overlap, from the line `start` up
to, but not including, the line `stop`. -/
def Tiles : Nat → List Entry → Nat → Prop
  | start, [], stop => start = stop
  | start, entry :: entries, stop =>
      entry.firstLine = start ∧ entry.firstLine ≤ entry.lastLine ∧
        Tiles (entry.lastLine + 1) entries stop

variable {start stop : Nat} {entries : List Entry}

theorem hasLine_iff {entry : Entry} {number : Nat} :
    entry.hasLine number = true ↔ entry.firstLine ≤ number ∧ number ≤ entry.lastLine := by
  simp [Entry.hasLine]

theorem Tiles.start_le (h : Tiles start entries stop) : start ≤ stop := by
  induction entries generalizing start with
  | nil => exact Nat.le_of_eq h
  | cons entry entries ih =>
      obtain ⟨rfl, hle, hrest⟩ := h
      have := ih hrest
      omega

/-- The entries of a tiling stay within it. -/
theorem Tiles.bounds (h : Tiles start entries stop) :
    ∀ entry ∈ entries,
      start ≤ entry.firstLine ∧ entry.firstLine ≤ entry.lastLine ∧ entry.lastLine < stop := by
  induction entries generalizing start with
  | nil => simp
  | cons entry entries ih =>
      obtain ⟨rfl, hle, hrest⟩ := h
      intro other hother
      rcases List.mem_cons.1 hother with rfl | hother
      · exact ⟨Nat.le_refl _, hle, hrest.start_le⟩
      · obtain ⟨hfirst, hbounds⟩ := ih hrest other hother
        exact ⟨by omega, hbounds⟩

theorem Tiles.isChain (h : Tiles start entries stop) :
    entries.IsChain fun entry next => entry.lastLine + 1 = next.firstLine := by
  induction entries generalizing start with
  | nil => exact List.isChain_nil
  | cons entry entries ih =>
      obtain ⟨-, -, hrest⟩ := h
      cases entries with
      | nil => exact List.isChain_singleton _
      | cons next entries => exact List.isChain_cons_cons.2 ⟨hrest.1.symm, ih hrest⟩

/-- The last entry ends where the tiling does. -/
theorem Tiles.getLast? (h : Tiles start entries stop) {entry : Entry}
    (hlast : entries.getLast? = some entry) : entry.lastLine + 1 = stop := by
  induction entries generalizing start with
  | nil => simp at hlast
  | cons first entries ih =>
      obtain ⟨-, -, hrest⟩ := h
      cases entries with
      | nil =>
          obtain rfl : first = entry := by simpa using hlast
          exact hrest
      | cons next entries =>
          rw [List.getLast?_cons_cons] at hlast
          exact ih hrest hlast

/-- **A tiled line belongs to exactly one entry.** -/
theorem Tiles.existsUnique_hasLine (h : Tiles start entries stop) {number : Nat}
    (hstart : start ≤ number) (hstop : number < stop) :
    ∃! i : Nat, ∃ entry, entries[i]? = some entry ∧ entry.hasLine number = true := by
  induction entries generalizing start with
  | nil =>
      have : start = stop := h
      omega
  | cons entry entries ih =>
      obtain ⟨rfl, hle, hrest⟩ := h
      rcases Nat.lt_or_ge entry.lastLine number with hlater | hhere
      · -- the line belongs to one of the later entries, and not to the first one
        obtain ⟨i, hi, hunique⟩ := ih hrest hlater
        refine ⟨i + 1, by simpa using hi, ?_⟩
        rintro (_ | j) ⟨found, hfound, hline⟩
        · obtain rfl : entry = found := by simpa using hfound
          have := (hasLine_iff.1 hline).2
          omega
        · rw [hunique j ⟨found, by simpa using hfound, hline⟩]
      · refine ⟨0, ⟨entry, rfl, hasLine_iff.2 ⟨hstart, hhere⟩⟩, ?_⟩
        rintro (_ | j) ⟨found, hfound, hline⟩
        · rfl
        · have hmem : found ∈ entries := List.mem_of_getElem? (by simpa using hfound)
          have := (hrest.bounds found hmem).1
          have := (hasLine_iff.1 hline).1
          omega

/-! ### The entries of a file -/

/-- **The entries of a file's blocks tile the lines after the header.** -/
theorem tiles_blocks (n : Nat) (lines : List Text) :
    Tiles (n + (headerLines lines).length)
      ((blocks n (lines.map Line.ofText)).2.map Block.entry) (n + lines.length) := by
  induction lines generalizing n with
  | nil => rfl
  | cons line lines ih =>
      have hlength : n + (line :: lines).length = n + 1 + lines.length := by
        rw [List.length_cons]
        omega
      rw [hlength]
      cases h : opensEntry line with
      | false =>
          have hheader : n + (line :: headerLines lines).length =
              n + 1 + (headerLines lines).length := by
            rw [List.length_cons]
            omega
          rw [List.map_cons, blocks_of_not_opensEntry n lines h,
            headerLines_of_not_opensEntry lines h, hheader]
          exact ih (n + 1)
      | true =>
          obtain ⟨place, -, hblocks⟩ := blocks_of_opensEntry n lines h
          rw [List.map_cons, hblocks, headerLines_of_opensEntry lines h, List.map_cons,
            List.length_nil]
          have hlast : n + (blocks (n + 1) (lines.map Line.ofText)).1.length + 1 =
              n + 1 + (headerLines lines).length := by
            rw [fst_blocks, List.length_map]
            omega
          refine ⟨rfl, Nat.le_add_right _ _, ?_⟩
          rw [Block.entry, hlast]
          exact ih (n + 1)

/-- The blocks of a file start at the lines that open an entry. -/
theorem firstLine_blocks (n : Nat) (lines : List Text) :
    (blocks n (lines.map Line.ofText)).2.map Block.firstLine =
      ((lines.zipIdx n).filter fun (line, _) => opensEntry line).map fun (_, number) => number := by
  induction lines generalizing n with
  | nil => rfl
  | cons line lines ih =>
      rw [List.zipIdx_cons, List.map_cons]
      cases h : opensEntry line with
      | false => rw [blocks_of_not_opensEntry n lines h, ih, List.filter_cons_of_neg (by simp [h])]
      | true =>
          obtain ⟨place, -, hblocks⟩ := blocks_of_opensEntry n lines h
          rw [hblocks, List.filter_cons_of_pos (by simp [h]), List.map_cons, List.map_cons, ih]

theorem pairwise_referenceNumbers (lines : List Text) :
    (referenceNumbers lines).Pairwise (· < ·) := by
  have hall : (numbered lines).map Prod.snd = List.range' 1 lines.length :=
    List.zipIdx_map_snd 1 lines
  refine List.Pairwise.sublist (List.filter_sublist.map Prod.snd) ?_
  rw [hall]
  exact List.pairwise_lt_range'

/-- What it means that entries tile the lines of a file. -/
structure TileLines (lines : List Text) (entries : List Entry) : Prop where
  /-- They start exactly at the lines that open an entry, one entry at each. -/
  starts : entries.map Entry.firstLine = referenceNumbers lines
  /-- They stand in the order of the file. -/
  increasing : (entries.map Entry.firstLine).Pairwise (· < ·)
  /-- Each has a line at least. -/
  ordered : ∀ entry ∈ entries, entry.firstLine ≤ entry.lastLine
  /-- Each ends right before the next one. -/
  adjacent : entries.IsChain fun entry next => entry.lastLine + 1 = next.firstLine
  /-- The last one ends with the file. -/
  last : ∀ entry, entries.getLast? = some entry → entry.lastLine = lines.length
  /-- A line from the first one that opens an entry on belongs to exactly one of them. -/
  owned : ∀ number ≤ lines.length, (∃ first ∈ referenceNumbers lines, first ≤ number) →
    ∃! i : Nat, ∃ entry, entries[i]? = some entry ∧ entry.hasLine number = true
  /-- An earlier line belongs to none. -/
  unowned : ∀ number, (∀ first ∈ referenceNumbers lines, number < first) →
    ∀ entry ∈ entries, entry.hasLine number = false

/-- **The entries of a catalog that was read tile the lines of its file.** -/
theorem entries_tile_lines {path : Path} {content : Text} {catalog : Catalog}
    (h : parse path content = .ok catalog) :
    TileLines (contentLines content) catalog.plainEntries := by
  obtain ⟨-, -, hentries⟩ := parse_eq_ok h
  have htiles := tiles_blocks 1 (contentLines content)
  rw [← blocksOf, ← hentries] at htiles
  have hfirst : catalog.plainEntries.map Entry.firstLine =
      referenceNumbers (contentLines content) := by
    rw [hentries, List.map_map]
    exact firstLine_blocks 1 (contentLines content)
  exact {
    starts := hfirst
    increasing := by
      rw [hfirst]
      exact pairwise_referenceNumbers _
    ordered := fun entry hentry => (htiles.bounds entry hentry).2.1
    adjacent := htiles.isChain
    last := fun entry hlast => by
      have := htiles.getLast? hlast
      omega
    owned := fun number hnumber hopened => by
      obtain ⟨first, hmem, hle⟩ := hopened
      -- the tiling starts no later than any entry does
      rw [← hfirst] at hmem
      obtain ⟨entry, hentry, rfl⟩ := List.mem_map.1 hmem
      have hstart := (htiles.bounds entry hentry).1
      exact htiles.existsUnique_hasLine (by omega) (by omega)
    unowned := fun number hearlier entry hentry => by
      have hmem : entry.firstLine ∈ referenceNumbers (contentLines content) := by
        rw [← hfirst]
        exact List.mem_map_of_mem hentry
      have := hearlier _ hmem
      rw [← Bool.not_eq_true, hasLine_iff]
      omega }

/-- A file with a byte order mark, a header, two reference comments in a row, mixed line ends and a
last line without one. -/
def mixedContent : Text := "\uFEFF# head\n\n#: a\r\n#: b\nmsgid \"x\"\n\n  "

def mixedCatalog : Catalog where
  path := ⟨"a.po"⟩
  entries :=
    [{ entry := { reference := "a", firstLine := 3, lastLine := 3 } },
     { entry := { reference := "b", firstLine := 4, lastLine := 7, source := ["x"] } }]

theorem entries_tile_lines_mixed :
    parse ⟨"a.po"⟩ mixedContent = .ok mixedCatalog ∧
      TileLines (contentLines mixedContent) mixedCatalog.plainEntries := by
  have h : parse ⟨"a.po"⟩ mixedContent = .ok mixedCatalog := by rfl
  exact ⟨h, entries_tile_lines h⟩

end CatalogLint.Catalog
