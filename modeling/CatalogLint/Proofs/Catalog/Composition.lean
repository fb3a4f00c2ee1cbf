/-
**Catalog files in a row.**

A file that follows another one is read as if it stood alone, as long as it begins with a reference
comment: the entry that is open before it ends there, and so does the string that is open in that
entry.  What remains of the first file is the number of its lines, by which all line numbers in the
second one are greater.  A file may be cut at every reference comment, so that an entry is what its
own lines are read as, wherever they stand.

Main definitions:

* `CatalogLint.Text.EndsLine`, `CatalogLint.Catalog.BeginsEntry` — texts after which a line begins,
  and texts that begin with a reference comment;
* `CatalogLint.Entry.shift`, `CatalogLint.ParseError.shift` — an entry and an error, so many lines
  later;
* `CatalogLint.Catalog.inARow` — what two readings come to if one text follows the other;
* `CatalogLint.Catalog.ReadsAlone` — an entry that its own lines are read as.

Main results:

* `CatalogLint.Text.lines_append` — the lines of texts in a row;
* `CatalogLint.Catalog.blocksOf_append` — **the blocks of files in a row are those of each file**;
* `CatalogLint.Catalog.firstFaultOf_append` — the first line at fault is that of the first file that
  has one;
* `CatalogLint.Catalog.parse_append` — **a file is read piece by piece**;
* `CatalogLint.Catalog.readsAlone_of_parse` — **an entry is what its own lines are read as**;
* `CatalogLint.Catalog.parse_compositional` — both together.
-/

import CatalogLint.Proofs.Catalog.Attribution
import CatalogLint.Proofs.Text.Trim

set_option autoImplicit false

namespace CatalogLint

/-! ### Texts in a row -/

namespace Text

/-- Nothing that follows the text can continue its last line. -/
def EndsLine (text : Text) : Prop := text = [] ∨ text.getLast? = some '\n'

theorem linesFrom_append {first : Text} (h : first.getLast? = some '\n')
    (reversed second : Text) :
    linesFrom reversed (first ++ second) = linesFrom reversed first ++ lines second := by
  induction first generalizing reversed with
  | nil => cases h
  | cons c first ih =>
      cases first with
      | nil =>
          obtain rfl : c = '\n' := by simpa using h
          rfl
      | cons d first =>
          rw [List.getLast?_cons_cons] at h
          rw [List.cons_append, linesFrom, linesFrom]
          by_cases hc : c = '\n'
          · rw [if_pos hc, if_pos hc, ih h, List.cons_append]
          · rw [if_neg hc, if_neg hc, ih h]

/-- The lines of texts in a row are those of each text. -/
theorem lines_append {first : Text} (h : EndsLine first) (second : Text) :
    lines (first ++ second) = lines first ++ lines second := by
  obtain rfl | h := h
  · rfl
  · exact linesFrom_append h [] second

/-- How many lines there are does not depend on the line that a text continues. -/
theorem length_linesFrom {text : Text} (h : text ≠ []) (reversed other : Text) :
    (linesFrom reversed text).length = (linesFrom other text).length := by
  induction text generalizing reversed other with
  | nil => exact absurd rfl h
  | cons c text ih =>
      rw [linesFrom, linesFrom]
      by_cases hc : c = '\n'
      · rw [if_pos hc, if_pos hc, List.length_cons, List.length_cons]
      · rw [if_neg hc, if_neg hc]
        cases text with
        | nil => simp [linesFrom]
        | cons d text => exact ih (List.cons_ne_nil d text) _ _

theorem closeLine_prefix (reversed : Text) : closeLine reversed <+: reversed.reverse := by
  unfold closeLine
  split
  · next reversed =>
    rw [List.reverse_cons]
    exact List.prefix_append _ _
  · exact List.prefix_rfl

theorem prefix_of_linesFrom_eq_cons {reversed text line : Text} {rest : List Text}
    (h : linesFrom reversed text = line :: rest) : line <+: reversed.reverse ++ text := by
  induction text generalizing reversed with
  | nil =>
      rw [linesFrom] at h
      split at h
      · cases h
      · cases h
        exact List.prefix_append _ _
  | cons c text ih =>
      rw [linesFrom] at h
      split at h
      · cases h
        have hclosed := closeLine_prefix reversed
        exact hclosed.trans (List.prefix_append _ _)
      · simpa using ih h

/-- A text begins with its first line. -/
theorem prefix_of_lines_eq_cons {text line : Text} {rest : List Text}
    (h : lines text = line :: rest) : line <+: text := prefix_of_linesFrom_eq_cons h

end Text

namespace Catalog

variable {first second : Text}

/-- The text begins with a reference comment. -/
def BeginsEntry (content : Text) : Prop :=
  ∃ line rest, Text.lines content = line :: rest ∧ opensEntry line = true

theorem dropByteOrderMark_cons (c : Char) (content : Text) :
    dropByteOrderMark (c :: content) = if c = '\uFEFF' then content else c :: content := by
  by_cases hc : c = '\uFEFF'
  · subst hc
    rfl
  · rw [if_neg hc, dropByteOrderMark]
    exact fun _ heq => hc (List.cons.inj heq).1

/-- A text that begins with a reference comment does not begin with a byte order mark. -/
theorem BeginsEntry.dropByteOrderMark_eq {content : Text} (h : BeginsEntry content) :
    dropByteOrderMark content = content := by
  obtain ⟨line, rest, hlines, hopens⟩ := h
  obtain ⟨place, hplace⟩ := Text.startsWith_iff_exists.1 hopens
  -- the reference comment begins the line, which begins the text
  have hhash : ("#: ".toList ++ place) <+: content := by
    rw [← hplace]
    exact (Text.trimEnd_prefix line).trans (Text.prefix_of_lines_eq_cons hlines)
  obtain ⟨after, rfl⟩ := hhash
  rfl

theorem BeginsEntry.contentLines_eq {content : Text} (h : BeginsEntry content) :
    contentLines content = Text.lines content := by
  rw [contentLines, h.dropByteOrderMark_eq]

/-- A byte order mark is at the beginning of the first of two files, or there is none. -/
theorem dropByteOrderMark_append (hne : first ≠ []) :
    dropByteOrderMark (first ++ second) = dropByteOrderMark first ++ second := by
  cases first with
  | nil => exact absurd rfl hne
  | cons c first =>
      rw [List.cons_append, dropByteOrderMark_cons, dropByteOrderMark_cons]
      split <;> rfl

theorem endsLine_dropByteOrderMark (h : first.getLast? = some '\n') :
    Text.EndsLine (dropByteOrderMark first) := by
  cases first with
  | nil => cases h
  | cons c first =>
      rw [dropByteOrderMark_cons]
      split
      · cases first with
        | nil => exact .inl rfl
        | cons d first =>
            rw [List.getLast?_cons_cons] at h
            exact .inr h
      · exact .inr h

/-- Nothing of the first file but its lines is left in the second one. -/
theorem contentLines_append (hfirst : Text.EndsLine first) (hsecond : BeginsEntry second) :
    contentLines (first ++ second) = contentLines first ++ contentLines second := by
  obtain rfl | h := hfirst
  · rfl
  · have hne : first ≠ [] := by
      rintro rfl
      cases h
    rw [contentLines, dropByteOrderMark_append hne,
      Text.lines_append (endsLine_dropByteOrderMark h), hsecond.contentLines_eq, contentLines]

/-- A byte order mark does not count as a line. -/
theorem length_contentLines (h : Text.EndsLine first) :
    (contentLines first).length = (Text.lines first).length := by
  obtain rfl | h := h
  · rfl
  · cases first with
    | nil => cases h
    | cons c first =>
        rw [contentLines, dropByteOrderMark_cons]
        by_cases hc : c = '\uFEFF'
        · subst hc
          have hne : first ≠ [] := by
            rintro rfl
            cases h
          rw [if_pos rfl, Text.lines, Text.lines, Text.linesFrom, if_neg (by decide)]
          exact Text.length_linesFrom hne _ _
        · rw [if_neg hc]

/-! ### Blocks in a row -/

/-- The block, so many lines later. -/
def Block.shift (n : Nat) (block : Block) : Block :=
  { block with firstLine := block.firstLine + n }

/-- Where the lines are counted from has no influence on how they are cut. -/
theorem blocks_shift (number n : Nat) (lines : List Line) :
    blocks (number + n) lines =
      ((blocks number lines).1, (blocks number lines).2.map (Block.shift n)) := by
  induction lines generalizing number with
  | nil => rfl
  | cons line lines ih =>
      rw [blocks, blocks, Nat.add_right_comm, ih (number + 1)]
      cases line <;> rfl

/-- A reference comment ends the block before it. -/
theorem blocks_append_reference (number : Nat) (lines : List Line) (place : Text)
    (more : List Line) :
    blocks number (lines ++ .reference place :: more) =
      ((blocks number lines).1, (blocks number lines).2 ++
        (blocks (number + lines.length) (.reference place :: more)).2) := by
  induction lines generalizing number with
  | nil => rfl
  | cons line lines ih =>
      have hlength : number + (line :: lines).length = number + 1 + lines.length := by
        rw [List.length_cons]
        omega
      rw [List.cons_append, blocks, ih (number + 1), hlength, blocks]
      cases line <;> rfl

/-- **The blocks of files in a row are those of each file.** -/
theorem blocksOf_append (hfirst : Text.EndsLine first) (hsecond : BeginsEntry second) :
    blocksOf (first ++ second) =
      blocksOf first ++ (blocksOf second).map (Block.shift (Text.lines first).length) := by
  obtain ⟨line, rest, hlines, hopens⟩ := id hsecond
  obtain ⟨place, hplace⟩ := opensEntry_iff.1 hopens
  have hread : (contentLines second).map Line.ofText =
      .reference place :: rest.map Line.ofText := by
    rw [hsecond.contentLines_eq, hlines, List.map_cons, hplace]
  rw [blocksOf, blocksOf, blocksOf, contentLines_append hfirst hsecond, List.map_append, hread,
    blocks_append_reference, blocks_shift, List.length_map, length_contentLines hfirst]

theorem firstFault_shift (number n : Nat) (lines : List Line) :
    firstFault (number + n) lines =
      (firstFault number lines).map fun (line, fault) => (line + n, fault) := by
  induction lines generalizing number with
  | nil => rfl
  | cons line lines ih =>
      rw [firstFault_cons, firstFault_cons, Nat.add_right_comm, ih (number + 1)]
      cases line.fault? <;> rfl

theorem Block.fault?_shift (n : Nat) (block : Block) :
    (block.shift n).fault? = block.fault?.map fun (line, fault) => (line + n, fault) := by
  rw [Block.fault?, Block.shift, Nat.add_right_comm, firstFault_shift]
  rfl

theorem firstFaultOf_eq_findSome? (content : Text) :
    firstFaultOf content = (blocksOf content).findSome? Block.fault? :=
  (findSome?_fault?_blocks 1 (contentLines content)).symm

/-- The first line at fault is that of the first file that has one. -/
theorem firstFaultOf_append (hfirst : Text.EndsLine first) (hsecond : BeginsEntry second) :
    firstFaultOf (first ++ second) =
      (firstFaultOf first).or ((firstFaultOf second).map fun (line, fault) =>
        (line + (Text.lines first).length, fault)) := by
  rw [firstFaultOf_eq_findSome?, firstFaultOf_eq_findSome?, firstFaultOf_eq_findSome?,
    blocksOf_append hfirst hsecond, List.findSome?_append, List.findSome?_map,
    List.map_findSome?]
  congr 2
  funext block
  exact block.fault?_shift _

end Catalog

/-! ### Files in a row -/

/-- The entry, so many lines later. -/
def Entry.shift (n : Nat) (entry : Entry) : Entry :=
  { entry with firstLine := entry.firstLine + n, lastLine := entry.lastLine + n }

def TrackedEntry.shift (n : Nat) (tracked : TrackedEntry) : TrackedEntry :=
  { tracked with entry := tracked.entry.shift n }

/-- The error, so many lines later if it is on a line. -/
def ParseError.shift (n : Nat) : ParseError → ParseError
  | io path error => io path error
  | encoding path => encoding path
  | malformed path line fault => malformed path (line + n) fault

namespace Catalog

variable {first second : Text}

theorem Block.entry_shift (n : Nat) (block : Block) :
    (block.shift n).entry = block.entry.shift n := by
  have hlast : block.firstLine + n + block.body.length =
      block.firstLine + block.body.length + n := Nat.add_right_comm _ _ _
  rw [Block.entry, Block.shift, hlast]
  rfl

/-- What two readings come to if the second text follows `n` lines of the first one: the first
error, or all entries. -/
def inARow (n : Nat) : Except ParseError Catalog → Except ParseError Catalog →
    Except ParseError Catalog
  | .error error, _ => .error error
  | .ok _, .error error => .error (error.shift n)
  | .ok first, .ok second =>
    .ok ⟨first.path, first.entries ++ second.entries.map (TrackedEntry.shift n)⟩

/-- **A file is read piece by piece**: before a reference comment it may be cut, and the line
numbers of the second piece are counted on from the first one. -/
theorem parse_append (path : Path) (hfirst : Text.EndsLine first) (hsecond : BeginsEntry second) :
    parse path (first ++ second) =
      inARow (Text.lines first).length (parse path first) (parse path second) := by
  have hfault := firstFaultOf_append hfirst hsecond
  cases hone : firstFaultOf first with
  | some found =>
      rw [hone, Option.some_or] at hfault
      rw [parse_of_fault path hone, parse_of_fault path hfault, inARow]
  | none =>
      rw [hone, Option.none_or] at hfault
      cases htwo : firstFaultOf second with
      | some found =>
          rw [htwo, Option.map_some] at hfault
          rw [parse_of_no_fault path hone, parse_of_fault path htwo, parse_of_fault path hfault,
            inARow, ParseError.shift]
      | none =>
          rw [htwo, Option.map_none] at hfault
          rw [parse_of_no_fault path hone, parse_of_no_fault path htwo,
            parse_of_no_fault path hfault, inARow, blocksOf_append hfirst hsecond]
          simp only [List.map_append, List.map_map, Except.ok.injEq, Catalog.mk.injEq, true_and,
            List.append_cancel_left_eq]
          refine List.map_congr_left fun block _ => ?_
          simp only [Function.comp_apply, Block.entry_shift, TrackedEntry.shift]

/-! ### Entries by themselves -/

/-- The lines of an entry are read as that entry alone, but for the line numbers. -/
def ReadsAlone (path : Path) (own : List Text) (entry : Entry) : Prop :=
  ∃ alone, parse path (Text.unlines own) = .ok ⟨path, [{ entry := alone }]⟩ ∧
    entry = alone.shift (entry.firstLine - 1)

/-- Lines that do not open an entry belong to what is open. -/
theorem blocks_of_forall_not_opensEntry (n : Nat) {lines : List Text}
    (h : ∀ line ∈ lines, opensEntry line = false) :
    blocks n (lines.map Line.ofText) = (lines.map Line.ofText, []) := by
  induction lines generalizing n with
  | nil => rfl
  | cons line lines ih =>
      have hrest := ih (n + 1) fun other hother => h other (List.mem_cons_of_mem _ hother)
      rw [List.map_cons, blocks_of_not_opensEntry n lines (h line List.mem_cons_self), hrest]

theorem ofText_trimEnd (line : Text) : Line.ofText (Text.trimEnd line) = Line.ofText line := by
  rw [Line.ofText, Line.ofText, Text.trimEnd_trimEnd]

/-- The lines of an entry can be read back from their text. -/
theorem lines_unlines_trimEnd {content : Text} {lines : List Text}
    (h : ∀ line ∈ lines, line ∈ contentLines content) :
    Text.lines (Text.unlines (lines.map Text.trimEnd)) = lines.map Text.trimEnd := by
  refine Text.lines_unlines fun line hline => ?_
  obtain ⟨raw, hraw, rfl⟩ := List.mem_map.1 hline
  have hnewline : '\n' ∉ raw := Text.newline_not_mem_of_mem_lines (h raw hraw)
  exact ⟨fun hmem => hnewline ((Text.trimEnd_prefix raw).subset hmem),
    Text.getLast?_trimEnd_ne raw (by decide)⟩

/-- The lines of a block, read by themselves, are one block. -/
theorem blocksOf_unlines_ownLines {content : Text} {block : Block}
    (h : block ∈ blocksOf content) :
    blocksOf (Text.unlines (ownLines (contentLines content) block.entry)) =
      [{ block with firstLine := 1 }] := by
  obtain ⟨opener, body, hown, hopener, hbody, hplain, hmem⟩ := exists_ownLines_eq h
  have hreference : Line.ofText opener = .reference block.reference :=
    ofText_eq_reference_iff.2 hopener
  have hlines := lines_unlines_trimEnd hmem
  rw [← hown] at hlines
  have hopens : BeginsEntry (Text.unlines (ownLines (contentLines content) block.entry)) := by
    refine ⟨Text.trimEnd opener, body.map Text.trimEnd, hlines.trans hown, ?_⟩
    rw [opensEntry_iff, ofText_trimEnd]
    exact ⟨_, hreference⟩
  have hread : (contentLines (Text.unlines (ownLines (contentLines content) block.entry))).map
      Line.ofText = .reference block.reference :: body.map Line.ofText := by
    rw [hopens.contentLines_eq, hlines, hown, List.map_map, List.map_cons, Function.comp_apply,
      ofText_trimEnd, hreference]
    exact congrArg _ (List.map_congr_left fun line _ => ofText_trimEnd line)
  rw [blocksOf, hread, blocks, blocks_of_forall_not_opensEntry _ hplain, hbody]

/-- **An entry is what its own lines are read as**, wherever they stand. -/
theorem readsAlone_of_parse {path : Path} {content : Text} {catalog : Catalog}
    (h : parse path content = .ok catalog) :
    ∀ entry ∈ catalog.plainEntries,
      ReadsAlone path (ownLines (contentLines content) entry) entry := by
  obtain ⟨hfault, -, hentries⟩ := parse_eq_ok h
  intro entry hentry
  rw [hentries] at hentry
  obtain ⟨block, hblock, rfl⟩ := List.mem_map.1 hentry
  have halone := blocksOf_unlines_ownLines hblock
  have hgood : ∀ line ∈ block.body, line.fault? = none := fault?_of_mem_blocksOf hfault hblock
  obtain ⟨before, _, _, _, -, hfirst, -⟩ := standsIn_of_mem_blocks hblock
  refine ⟨Block.entry { block with firstLine := 1 }, ?_, ?_⟩
  · have hnone : firstFaultOf (Text.unlines (ownLines (contentLines content) block.entry)) =
        none := by
      rw [firstFaultOf_eq_findSome?, halone, List.findSome?_eq_none_iff]
      intro other hother
      obtain rfl := List.mem_singleton.1 hother
      exact firstFault_eq_none_iff.2 hgood
    rw [parse_of_no_fault path hnone, halone]
    rfl
  · have hnumber : 1 + (block.firstLine - 1) = block.firstLine := by omega
    have hshift : Block.shift (block.firstLine - 1) { block with firstLine := 1 } = block := by
      rw [Block.shift, hnumber]
    have hentry := Block.entry_shift (block.firstLine - 1) { block with firstLine := 1 }
    rwa [hshift] at hentry

/-- **Reading is compositional at reference comments**, and so an entry depends on no line outside
its own block. -/
theorem parse_compositional (path : Path) :
    (∀ first second, Text.EndsLine first → BeginsEntry second →
      parse path (first ++ second) =
        inARow (Text.lines first).length (parse path first) (parse path second)) ∧
      ∀ content catalog, parse path content = .ok catalog →
        ∀ entry ∈ catalog.plainEntries,
          ReadsAlone path (ownLines (contentLines content) entry) entry :=
  ⟨fun _ _ => parse_append path, fun _ _ => readsAlone_of_parse⟩

/-- A file with a byte order mark, a header and an entry whose string is still open. -/
def openContent : Text := "\uFEFF# head\r\n#: a\nmsgid \"x\"\n\n"

/-- A file that goes on with two entries. -/
def nextContent : Text := "#: b \n\"stray\"\nmsgstr \"y\"\n#: c"

/-- What is read from both in a row. -/
def joinedCatalog : Catalog where
  path := ⟨"a.po"⟩
  entries :=
    [{ entry := { reference := "a", firstLine := 2, lastLine := 4, source := ["x"] } },
     { entry := { reference := "b", firstLine := 5, lastLine := 7, target := ["y"] } },
     { entry := { reference := "c", firstLine := 8, lastLine := 8 } }]

theorem parse_compositional_joined :
    Text.EndsLine openContent ∧ BeginsEntry nextContent ∧
      parse ⟨"a.po"⟩ (openContent ++ nextContent) =
        inARow 4 (parse ⟨"a.po"⟩ openContent) (parse ⟨"a.po"⟩ nextContent) ∧
      parse ⟨"a.po"⟩ (openContent ++ nextContent) = .ok joinedCatalog ∧
      ∀ entry ∈ joinedCatalog.plainEntries,
        ReadsAlone ⟨"a.po"⟩ (ownLines (contentLines (openContent ++ nextContent)) entry) entry := by
  have hends : Text.EndsLine openContent := .inr (by rfl)
  have hopens : BeginsEntry nextContent :=
    ⟨"#: b ", ["\"stray\"", "msgstr \"y\"", "#: c"], by rfl, by rfl⟩
  have hread : parse ⟨"a.po"⟩ (openContent ++ nextContent) = .ok joinedCatalog := by rfl
  exact ⟨hends, hopens, (parse_compositional ⟨"a.po"⟩).1 _ _ hends hopens, hread,
    (parse_compositional ⟨"a.po"⟩).2 _ _ hread⟩

/-- A line at fault in the second file is found, and its number counts the lines of the first. -/
example :
    parse ⟨"a.po"⟩ (openContent ++ "#: b\nmsgid y\n".toList) =
      .error (.malformed ⟨"a.po"⟩ 6 (.notQuoted "msgid y")) := by rfl

end Catalog

end CatalogLint
