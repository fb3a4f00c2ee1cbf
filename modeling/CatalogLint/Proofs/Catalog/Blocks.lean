/-
**The blocks of a file, and the lines they are made of.**

`CatalogLint.Catalog.blocks` cuts the lines of a file at its reference comments, and each block is
read by itself.  This module relates the blocks to the lines as they stand in the file, and the
reading of the blocks to the first line at fault.

Main definitions:

* `CatalogLint.Catalog.numbered` — the lines with their numbers, counted from one;
* `CatalogLint.Catalog.referenceNumbers` — the numbers of the lines that open an entry;
* `CatalogLint.Catalog.Block.StandsIn` — where a block stands among the lines;
* `CatalogLint.Catalog.Block.fault?` — the first line at fault in a block.

Main results:

* `CatalogLint.Catalog.fst_blocks`, `CatalogLint.Catalog.standsIn_of_mem_blocks` — the header is
  what stands before the first reference comment, and **a block is a contiguous part of the file**
  that starts with its only reference comment;
* `CatalogLint.Catalog.readEntries_eq` — **the entries are those of the blocks, unless a line after
  the header is at fault**, and then the first such line is reported;
* `CatalogLint.Catalog.firstFault_eq_some_iff` — what the first line at fault is.
-/

import CatalogLint.Catalog.Parse
import CatalogLint.Proofs.Catalog.LineShape
import Mathlib.Data.List.TakeWhile

set_option autoImplicit false

namespace CatalogLint.Catalog

/-! ### Lines and their numbers -/

/-- The lines with their numbers, counted from one. -/
def numbered (lines : List Text) : List (Text × Nat) := lines.zipIdx 1

/-- The numbers of the lines that open an entry, in increasing order. -/
def referenceNumbers (lines : List Text) : List Nat :=
  ((numbered lines).filter fun (line, _) => opensEntry line).map fun (_, number) => number

/-- The lines before the first one that opens an entry. -/
def headerLines (lines : List Text) : List Text := lines.takeWhile fun line => !opensEntry line

/-- The lines from the first one that opens an entry on. -/
def entryLines (lines : List Text) : List Text := lines.dropWhile fun line => !opensEntry line

theorem headerLines_append_entryLines (lines : List Text) :
    headerLines lines ++ entryLines lines = lines := List.takeWhile_append_dropWhile

theorem headerLines_of_opensEntry {line : Text} (lines : List Text) (h : opensEntry line = true) :
    headerLines (line :: lines) = [] := by simp [headerLines, h]

theorem headerLines_of_not_opensEntry {line : Text} (lines : List Text)
    (h : opensEntry line = false) :
    headerLines (line :: lines) = line :: headerLines lines := by simp [headerLines, h]

theorem entryLines_of_opensEntry {line : Text} (lines : List Text) (h : opensEntry line = true) :
    entryLines (line :: lines) = line :: lines := by simp [entryLines, h]

theorem entryLines_of_not_opensEntry {line : Text} (lines : List Text)
    (h : opensEntry line = false) :
    entryLines (line :: lines) = entryLines lines := by simp [entryLines, h]

theorem opensEntry_of_mem_headerLines {line : Text} {lines : List Text}
    (h : line ∈ headerLines lines) : opensEntry line = false := by
  simpa using List.mem_takeWhile_imp h

theorem numbered_eq (lines : List Text) :
    numbered lines =
      (headerLines lines).zipIdx 1 ++
        (entryLines lines).zipIdx (1 + (headerLines lines).length) := by
  rw [← List.zipIdx_append, headerLines_append_entryLines, numbered]

theorem mem_referenceNumbers {lines : List Text} {number : Nat} :
    number ∈ referenceNumbers lines ↔
      ∃ line, (line, number) ∈ numbered lines ∧ opensEntry line = true := by
  simp [referenceNumbers]

/-- No line of the header opens an entry. -/
theorem lt_of_mem_referenceNumbers {lines : List Text} {number : Nat}
    (h : number ∈ referenceNumbers lines) : (headerLines lines).length < number := by
  obtain ⟨line, hmem, hopens⟩ := mem_referenceNumbers.1 h
  rw [numbered_eq] at hmem
  rcases List.mem_append.1 hmem with hheader | hentry
  · rw [opensEntry_of_mem_headerLines (List.fst_mem_of_mem_zipIdx hheader)] at hopens
    cases hopens
  · have : 1 + (headerLines lines).length ≤ number := List.le_snd_of_mem_zipIdx hentry
    omega

/-- The first line after the header opens an entry. -/
theorem opensEntry_of_entryLines {line : Text} {lines rest : List Text}
    (h : entryLines lines = line :: rest) : opensEntry line = true := by
  have := List.head?_dropWhile_not (fun line => !opensEntry line) lines
  rw [entryLines] at h
  simpa [h] using this

/-! ### Cutting a file -/

variable {n : Nat} {line : Text} {lines : List Text} {block : Block}

/-- A line that opens an entry opens a block, and what follows it up to the next such line is the
body. -/
theorem blocks_of_opensEntry (n : Nat) (lines : List Text) (h : opensEntry line = true) :
    ∃ place, Text.trimEnd line = "#: ".toList ++ place ∧
      blocks n (Line.ofText line :: lines.map Line.ofText) =
        ([], ⟨n, place, (blocks (n + 1) (lines.map Line.ofText)).1⟩ ::
          (blocks (n + 1) (lines.map Line.ofText)).2) := by
  obtain ⟨place, hplace⟩ := opensEntry_iff.1 h
  refine ⟨place, ofText_eq_reference_iff.1 hplace, ?_⟩
  rw [hplace, blocks]

/-- Any other line belongs to what is open: the header, before the first block. -/
theorem blocks_of_not_opensEntry (n : Nat) (lines : List Text) (h : opensEntry line = false) :
    blocks n (Line.ofText line :: lines.map Line.ofText) =
      (Line.ofText line :: (blocks (n + 1) (lines.map Line.ofText)).1,
        (blocks (n + 1) (lines.map Line.ofText)).2) := by
  have hplace : ∀ place, Line.ofText line ≠ .reference place := by
    intro place hread
    rw [opensEntry_iff.2 ⟨place, hread⟩] at h
    cases h
  rw [blocks]
  cases hread : Line.ofText line with
  | reference place => exact absurd hread (hplace place)
  | _ => rfl

/-- **The header is what stands before the first line that opens an entry.** -/
theorem fst_blocks (n : Nat) (lines : List Text) :
    (blocks n (lines.map Line.ofText)).1 = (headerLines lines).map Line.ofText := by
  induction lines generalizing n with
  | nil => rfl
  | cons line lines ih =>
      cases h : opensEntry line with
      | true =>
          obtain ⟨place, -, hblocks⟩ := blocks_of_opensEntry n lines h
          rw [List.map_cons, hblocks, headerLines_of_opensEntry lines h, List.map_nil]
      | false =>
          rw [List.map_cons, blocks_of_not_opensEntry n lines h, ih,
            headerLines_of_not_opensEntry lines h, List.map_cons]

/-- The block is a contiguous part of the lines, which are counted from `n` on: the line that opens
it, and then the lines of its body, none of which opens an entry. -/
def Block.StandsIn (block : Block) (n : Nat) (lines : List Text) : Prop :=
  ∃ before opener body after, lines = before ++ opener :: (body ++ after) ∧
    block.firstLine = n + before.length ∧
    Text.trimEnd opener = "#: ".toList ++ block.reference ∧
    block.body = body.map Line.ofText ∧ ∀ line ∈ body, opensEntry line = false

/-- A line may be put before those that a block stands in. -/
theorem Block.StandsIn.cons (line : Text) (h : block.StandsIn (n + 1) lines) :
    block.StandsIn n (line :: lines) := by
  obtain ⟨before, opener, body, after, rfl, hfirst, hrest⟩ := h
  refine ⟨line :: before, opener, body, after, rfl, ?_, hrest⟩
  rw [hfirst, List.length_cons]
  omega

/-- **A block is a contiguous part of the file.** -/
theorem standsIn_of_mem_blocks (h : block ∈ (blocks n (lines.map Line.ofText)).2) :
    block.StandsIn n lines := by
  induction lines generalizing n with
  | nil => simp [blocks] at h
  | cons line lines ih =>
      cases hopens : opensEntry line with
      | false =>
          rw [List.map_cons, blocks_of_not_opensEntry n lines hopens] at h
          exact (ih h).cons line
      | true =>
          obtain ⟨place, hplace, hblocks⟩ := blocks_of_opensEntry n lines hopens
          rw [List.map_cons, hblocks] at h
          rcases List.mem_cons.1 h with rfl | h
          · refine ⟨[], line, headerLines lines, entryLines lines, ?_, rfl, hplace,
              fst_blocks _ _, fun _ => opensEntry_of_mem_headerLines⟩
            rw [headerLines_append_entryLines, List.nil_append]
          · exact (ih h).cons line

/-! ### The first line at fault -/

theorem firstFault_cons (n : Nat) (line : Line) (lines : List Line) :
    firstFault n (line :: lines) =
      (line.fault?.map fun fault => (n, fault)).or (firstFault (n + 1) lines) := by
  cases h : line.fault? <;> simp [firstFault, h]

theorem firstFault_append (n : Nat) (lines more : List Line) :
    firstFault n (lines ++ more) =
      (firstFault n lines).or (firstFault (n + lines.length) more) := by
  induction lines generalizing n with
  | nil => simp [firstFault]
  | cons line lines ih =>
      rw [List.cons_append, firstFault_cons, firstFault_cons, ih, Option.or_assoc,
        List.length_cons, Nat.add_assoc, Nat.add_comm 1]

/-- What the first line at fault is: it is at fault, and no line with a smaller number is. -/
theorem firstFault_eq_some_iff {n m : Nat} {lines : List Line} {fault : Fault} :
    firstFault n lines = some (m, fault) ↔
      (∃ line, (line, m) ∈ lines.zipIdx n ∧ line.fault? = some fault) ∧
        ∀ line k, (line, k) ∈ lines.zipIdx n → k < m → line.fault? = none := by
  induction lines generalizing n with
  | nil => simp [firstFault]
  | cons line lines ih =>
      rw [firstFault_cons, List.zipIdx_cons]
      cases h : line.fault? with
      | some found =>
          simp only [Option.map_some, Option.some_or, Option.some.injEq, Prod.mk.injEq]
          constructor
          · rintro ⟨rfl, rfl⟩
            refine ⟨⟨line, List.mem_cons_self, h⟩, fun earlier k hearlier hk => ?_⟩
            rcases List.mem_cons.1 hearlier with heq | hearlier
            · cases heq
              omega
            · have := List.le_snd_of_mem_zipIdx hearlier
              omega
          · rintro ⟨⟨faulty, hfaulty, hfault⟩, hleast⟩
            rcases List.mem_cons.1 hfaulty with heq | hfaulty
            · cases heq
              rw [h] at hfault
              exact ⟨rfl, Option.some.inj hfault⟩
            · -- a later line cannot be the first one at fault
              have hlt : n < m := List.le_snd_of_mem_zipIdx hfaulty
              rw [hleast line n List.mem_cons_self hlt] at h
              cases h
      | none =>
          rw [Option.map_none, Option.none_or, ih]
          constructor
          · rintro ⟨⟨faulty, hfaulty, hfault⟩, hleast⟩
            refine ⟨⟨faulty, List.mem_cons_of_mem _ hfaulty, hfault⟩,
              fun earlier k hearlier hk => ?_⟩
            rcases List.mem_cons.1 hearlier with heq | hearlier
            · cases heq
              exact h
            · exact hleast earlier k hearlier hk
          · rintro ⟨⟨faulty, hfaulty, hfault⟩, hleast⟩
            refine ⟨⟨faulty, ?_, hfault⟩, fun earlier k hearlier hk =>
              hleast earlier k (List.mem_cons_of_mem _ hearlier) hk⟩
            rcases List.mem_cons.1 hfaulty with heq | hfaulty
            · cases heq
              rw [h] at hfault
              cases hfault
            · exact hfaulty

/-- No line is at fault if there is no first one. -/
theorem firstFault_eq_none_iff {n : Nat} {lines : List Line} :
    firstFault n lines = none ↔ ∀ line ∈ lines, line.fault? = none := by
  induction lines generalizing n with
  | nil => simp [firstFault]
  | cons line lines ih => cases h : line.fault? <;> simp [firstFault, h, ih]

/-! ### Reading the blocks -/

def Block.fault? (block : Block) : Option (Nat × Fault) :=
  firstFault (block.firstLine + 1) block.body

/-- The entries of some blocks, unless there is a line at fault; then the first one is reported. -/
theorem mapM_read (list : List Block) :
    list.mapM Block.read =
      match list.findSome? Block.fault? with
      | some fault => .error fault
      | none => .ok (list.map Block.entry) := by
  induction list with
  | nil => rfl
  | cons block list ih =>
      have hread : block.read = match block.fault? with
        | some fault => .error fault
        | none => .ok block.entry := rfl
      rw [List.mapM_cons, hread, List.findSome?_cons, ih]
      cases block.fault? with
      | some fault => rfl
      | none => cases list.findSome? Block.fault? <;> rfl

/-- The first line at fault in the blocks of a file is the first one after the header. -/
theorem findSome?_fault?_blocks (n : Nat) (lines : List Text) :
    (blocks n (lines.map Line.ofText)).2.findSome? Block.fault? =
      firstFault (n + (headerLines lines).length) ((entryLines lines).map Line.ofText) := by
  induction lines generalizing n with
  | nil => rfl
  | cons line lines ih =>
      cases hopens : opensEntry line with
      | false =>
          rw [List.map_cons, blocks_of_not_opensEntry n lines hopens, ih,
            headerLines_of_not_opensEntry lines hopens, entryLines_of_not_opensEntry lines hopens,
            List.length_cons, Nat.add_assoc, Nat.add_comm 1]
      | true =>
          obtain ⟨place, hplace, hblocks⟩ := blocks_of_opensEntry n lines hopens
          have hfault : (Line.ofText line).fault? = none := by
            rw [ofText_eq_reference_iff.2 hplace]
            rfl
          -- the body of the first block and the blocks after it make up the rest of the file
          have hrest : firstFault (n + 1) (lines.map Line.ofText) =
              (firstFault (n + 1) (blocks (n + 1) (lines.map Line.ofText)).1).or
                ((blocks (n + 1) (lines.map Line.ofText)).2.findSome? Block.fault?) := by
            rw [ih, fst_blocks, ← List.length_map Line.ofText, ← firstFault_append,
              ← List.map_append, headerLines_append_entryLines]
          rw [List.map_cons, hblocks, List.findSome?_cons, headerLines_of_opensEntry lines hopens,
            entryLines_of_opensEntry lines hopens, List.map_cons, firstFault_cons, hfault,
            List.length_nil, Nat.add_zero, Option.map_none, Option.none_or, hrest]
          cases h : firstFault (n + 1) (blocks (n + 1) (lines.map Line.ofText)).1 <;>
            simp [Block.fault?, h]

def contentLines (content : Text) : List Text := Text.lines (dropByteOrderMark content)

/-- The first line at fault after the header of a file. -/
def firstFaultOf (content : Text) : Option (Nat × Fault) :=
  firstFault (1 + (headerLines (contentLines content)).length)
    ((entryLines (contentLines content)).map Line.ofText)

def blocksOf (content : Text) : List Block := (blocks 1 ((contentLines content).map Line.ofText)).2

/-- **The entries of a file are those of its blocks, unless a line after the header is at fault**,
and then the first such line is reported. -/
theorem readEntries_eq (content : Text) :
    readEntries content =
      match firstFaultOf content with
      | some fault => .error fault
      | none => .ok ((blocksOf content).map Block.entry) := by
  rw [firstFaultOf, ← findSome?_fault?_blocks, blocksOf, ← mapM_read]
  rfl

/-- If no line of a file is at fault, none in its blocks is. -/
theorem fault?_of_mem_blocksOf {content : Text} {block : Block} (h : firstFaultOf content = none)
    (hblock : block ∈ blocksOf content) : ∀ line ∈ block.body, line.fault? = none := by
  rw [firstFaultOf, ← findSome?_fault?_blocks, List.findSome?_eq_none_iff] at h
  exact firstFault_eq_none_iff.1 (h block hblock)

/-- A file that has a line at fault is no catalog, and the first one is reported. -/
theorem parse_of_fault (path : Path) {content : Text} {line : Nat} {fault : Fault}
    (h : firstFaultOf content = some (line, fault)) :
    parse path content = .error (.malformed path line fault) := by
  rw [parse, readEntries_eq, h]

/-- A file that has none is a catalog with the entries of its blocks. -/
theorem parse_of_no_fault (path : Path) {content : Text} (h : firstFaultOf content = none) :
    parse path content =
      .ok ⟨path, ((blocksOf content).map Block.entry).map fun entry => { entry }⟩ := by
  rw [parse, readEntries_eq, h]

/-- What a catalog that was read is made of. -/
theorem parse_eq_ok {path : Path} {content : Text} {catalog : Catalog}
    (h : parse path content = .ok catalog) :
    firstFaultOf content = none ∧ catalog.path = path ∧
      catalog.plainEntries = (blocksOf content).map Block.entry := by
  cases hfault : firstFaultOf content with
  | some found =>
      rw [parse_of_fault path hfault] at h
      cases h
  | none =>
      rw [parse_of_no_fault path hfault] at h
      cases h
      refine ⟨rfl, rfl, ?_⟩
      rw [plainEntries, List.map_map]
      exact List.map_id _

end CatalogLint.Catalog
