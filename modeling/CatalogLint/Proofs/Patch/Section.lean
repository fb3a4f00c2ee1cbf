/-
**The sections of a patch, and the files that are read off them.**

The reading of a patch goes line by line.  Between two lines it knows how many lines of the old and
of the new file the hunk at hand still has to come, and whether a file is being read at all.  This
module describes whole sections instead, as diff tools write them: some lines about the file, a line
with its name, and its hunks.  What the reader makes of such a section depends on nothing that
stands before it.

Main definitions:

* `CatalogLint.Patch.ClosedHunk` — a hunk whose body ends with the last line that its header
  announces, and the remark that may follow;
* `CatalogLint.Patch.Section`, `CatalogLint.Patch.Section.lines` — a section, and its lines;
* `CatalogLint.Patch.Section.file?` — the file of a section, unless the patch deletes it.

Main results:

* `CatalogLint.Patch.ClosedHunk.foldl_step` — **all lines of a hunk become lines of the current
  file**, whatever they look like, and nothing is awaited after them;
* `CatalogLint.Patch.Section.files_foldl_step` — a section adds its file to those before it;
* `CatalogLint.Patch.split_sections` — **a patch has the files of its sections**, in order and
  without the deleted ones;
* `CatalogLint.Patch.not_forall_split_joinWith` — an empty line at the end of a patch has to be
  ended by a newline, or it is no line of the patch.
-/

import CatalogLint.Patch.Split
import CatalogLint.Proofs.Catalog.LineShape
import CatalogLint.Proofs.Patch.Written

set_option autoImplicit false

namespace CatalogLint.Patch

/-! ### Hunks -/

/-- The lines that some lines of a body have in the old file. -/
def oldLines (body : List BodyLine) : List Text := body.filterMap BodyLine.oldText?

theorem length_oldLines_cons (line : BodyLine) (body : List BodyLine) :
    (oldLines (line :: body)).length = (oldLines body).length + line.oldText?.toList.length := by
  cases line <;> rfl

theorem length_newLines_cons (line : BodyLine) (body : List BodyLine) :
    (newLines (line :: body)).length = (newLines body).length + line.newText?.toList.length := by
  cases line <;> rfl

/-- A hunk as it stands in a patch, with the remark that may follow its body. -/
structure ClosedHunk extends WrittenHunk where
  /-- The remark after the body, which says that the file ends without a newline. -/
  remark? : Option Text
  /-- No shorter beginning of the body has all the lines that the header announces. -/
  ends : ∀ n < body.length, (oldLines (body.take n)).length = header.oldLength →
    (newLines (body.take n)).length ≠ header.newLength

/-- The lines of the hunk, the remark after its body included. -/
def ClosedHunk.allLines (hunk : ClosedHunk) : List Text :=
  hunk.lines ++ (hunk.remark?.map fun text => '\\' :: text).toList

/-! ### The reader between two hunks -/

namespace Reader

/-- No line of a hunk is still to come. -/
def Idle (reader : Reader) : Prop := reader.oldAwaited = 0 ∧ reader.newAwaited = 0

/-- The state in which a hunk still has so many lines of the old and of the new file to come. -/
def awaiting (reader : Reader) (old new : Nat) : Reader :=
  { reader with oldAwaited := old, newAwaited := new }

/-- The state with some lines added to the current file, one after the other. -/
def pushAll (reader : Reader) (lines : List Text) : Reader := lines.foldl push reader

/-- The files as they are once the current one is finished. -/
def files (reader : Reader) : List FilePatch := reader.finish.finished.reverse

variable {reader : Reader}

theorem awaiting_zero (h : reader.Idle) : reader.awaiting 0 0 = reader := by
  obtain ⟨finished, current, old, new⟩ := reader
  obtain ⟨rfl, rfl⟩ := h
  rfl

theorem Idle.push (h : reader.Idle) (line : Text) : (reader.push line).Idle := h

theorem Idle.pushAll (h : reader.Idle) (lines : List Text) : (reader.pushAll lines).Idle := by
  induction lines generalizing reader with
  | nil => exact h
  | cons line lines ih => exact ih (h.push line)

theorem Idle.finish (h : reader.Idle) : reader.finish.Idle := by
  unfold Reader.finish
  split
  · exact h
  · exact h

theorem pushAll_append (reader : Reader) (lines more : List Text) :
    reader.pushAll (lines ++ more) = (reader.pushAll lines).pushAll more :=
  List.foldl_append

theorem finished_pushAll (reader : Reader) (lines : List Text) :
    (reader.pushAll lines).finished = reader.finished := by
  induction lines generalizing reader with
  | nil => rfl
  | cons line lines ih => exact ih (reader.push line)

theorem current_pushAll (reader : Reader) (lines : List Text) :
    (reader.pushAll lines).current =
      reader.current.map fun file => { file with lines := lines.reverse ++ file.lines } := by
  induction lines generalizing reader with
  | nil => cases h : reader.current <;> simp [pushAll, h]
  | cons line lines ih =>
      have hstep : reader.pushAll (line :: lines) = (reader.push line).pushAll lines := rfl
      rw [hstep, ih]
      cases h : reader.current <;> simp [push, h]

theorem finish_finish (reader : Reader) : reader.finish.finish = reader.finish := by
  cases h : reader.current <;> simp [finish, h]

/-- The files are those that are complete and the current one. -/
theorem files_eq (reader : Reader) :
    reader.files = reader.finished.reverse ++
      (reader.current.map fun file => { file with lines := file.lines.reverse }).toList := by
  cases h : reader.current <;> simp [files, finish, h]

theorem step_of_idle (h : reader.Idle) (line : Text) : reader.step line = reader.header line := by
  simp [step, h.1, h.2]

/-- A line of a body is added to the current file, and what it stands for is awaited no more. -/
theorem step_awaiting (reader : Reader) (line : BodyLine) {old new : Nat}
    (h : old + line.oldText?.toList.length = 0 → new + line.newText?.toList.length ≠ 0) :
    (reader.awaiting (old + line.oldText?.toList.length)
        (new + line.newText?.toList.length)).step line.render =
      (reader.push line.render).awaiting old new := by
  have hbody : (reader.awaiting (old + line.oldText?.toList.length)
      (new + line.newText?.toList.length)).step line.render =
      (reader.awaiting (old + line.oldText?.toList.length)
        (new + line.newText?.toList.length)).body line.render := by
    refine if_neg ?_
    simpa [awaiting] using h
  rw [hbody]
  cases line <;> rfl

/-- **All lines of a body are added to the current file**, and none is awaited after them. -/
theorem foldl_step_body (h : reader.Idle) {body : List BodyLine}
    (hends : ∀ n < body.length, (oldLines (body.take n)).length = (oldLines body).length →
      (newLines (body.take n)).length ≠ (newLines body).length) :
    (body.map BodyLine.render).foldl step
        (reader.awaiting (oldLines body).length (newLines body).length) =
      reader.pushAll (body.map BodyLine.render) := by
  induction body generalizing reader with
  | nil => exact awaiting_zero h
  | cons line body ih =>
      -- something is awaited, as the empty beginning of the body does not have all its lines
      have hnot : (oldLines body).length + line.oldText?.toList.length = 0 →
          (newLines body).length + line.newText?.toList.length ≠ 0 := by
        intro hold hnew
        rw [← length_oldLines_cons] at hold
        rw [← length_newLines_cons] at hnew
        exact hends 0 (Nat.zero_lt_succ _) hold.symm hnew.symm
      have hrest : ∀ n < body.length,
          (oldLines (body.take n)).length = (oldLines body).length →
          (newLines (body.take n)).length ≠ (newLines body).length := by
        intro n hn hold hnew
        refine hends (n + 1) (Nat.succ_lt_succ hn) ?_ ?_
        · rw [List.take_succ_cons, length_oldLines_cons, length_oldLines_cons, hold]
        · rw [List.take_succ_cons, length_newLines_cons, length_newLines_cons, hnew]
      rw [List.map_cons, List.foldl_cons, length_oldLines_cons, length_newLines_cons,
        step_awaiting reader line hnot]
      exact ih (h.push _) hrest

end Reader

/-- A remark outside a body is added to the current file. -/
theorem Reader.step_remark {reader : Reader} (h : reader.Idle) (text : Text) :
    reader.step ('\\' :: text) = reader.push ('\\' :: text) := by
  rw [Reader.step_of_idle h]
  rfl

/-- **All lines of a hunk are added to the current file**, whatever they look like. -/
theorem ClosedHunk.foldl_step {reader : Reader} (h : reader.Idle) (hunk : ClosedHunk) :
    hunk.allLines.foldl Reader.step reader = reader.pushAll hunk.allLines := by
  have hheader : reader.step hunk.line =
      (reader.push hunk.line).awaiting hunk.header.oldLength hunk.header.newLength := by
    rw [Reader.step_of_idle h, Reader.header, hunk.reads]
    rfl
  have hold : hunk.header.oldLength = (oldLines hunk.body).length := hunk.oldLength.symm
  have hnew : hunk.header.newLength = (newLines hunk.body).length := hunk.newLength.symm
  have hends := hunk.ends
  rw [hold, hnew] at hends
  have hlines : hunk.lines.foldl Reader.step reader = reader.pushAll hunk.lines := by
    rw [WrittenHunk.lines, List.foldl_cons, hheader, hold, hnew,
      Reader.foldl_step_body (h.push _) hends]
    rfl
  rw [allLines, List.foldl_append, hlines, Reader.pushAll_append]
  cases hunk.remark? with
  | none => rfl
  | some text => exact Reader.step_remark (h.pushAll _) text

theorem ClosedHunk.foldl_step_flatMap {reader : Reader} (h : reader.Idle)
    (hunks : List ClosedHunk) :
    (hunks.flatMap allLines).foldl Reader.step reader =
      reader.pushAll (hunks.flatMap allLines) := by
  induction hunks generalizing reader with
  | nil => rfl
  | cons hunk hunks ih =>
      rw [List.flatMap_cons, List.foldl_append, hunk.foldl_step h, ih (h.pushAll _),
        Reader.pushAll_append]

/-! ### Sections -/

/-- The line neither names a file nor begins as a remark or as a hunk header does. -/
def IsPlain (line : Text) : Prop :=
  ¬"+++ ".toList <+: line ∧ ¬"\\".toList <+: line ∧ ¬"@@".toList <+: line

instance (line : Text) : Decidable (IsPlain line) := inferInstanceAs (Decidable (_ ∧ _ ∧ _))

/-- The part of a patch that is about one file. -/
structure Section where
  /-- The lines before the one with the file's name. -/
  preamble : List Text
  target : Text
  /-- The time that may stand after the name. -/
  time? : Option Text
  hunks : List ClosedHunk
  /-- The lines at the beginning say nothing that matters. -/
  plain : ∀ line ∈ preamble, IsPlain line
  /-- A tabulator ends the name. -/
  tabless : '\t' ∉ target

namespace Section

/-- The line with the file's name. -/
def nameLine (part : Section) : Text :=
  "+++ ".toList ++ (part.target ++ (part.time?.map ('\t' :: ·)).getD [])

def hunkLines (part : Section) : List Text := part.hunks.flatMap ClosedHunk.allLines

def lines (part : Section) : List Text := part.preamble ++ part.nameLine :: part.hunkLines

/-- The file's name without the blanks around it and without the directory that stands for the new
version. -/
def name (part : Section) : Text :=
  match Text.trim part.target with
  | 'b' :: '/' :: name => name
  | name => name

/-- The file of the section with its hunks, unless the patch deletes it. -/
def file? (part : Section) : Option FilePatch :=
  if Text.trim part.target = "/dev/null" then none else some ⟨part.name, part.hunkLines⟩

end Section

/-- A plain line may finish a file, and does nothing else. -/
theorem IsPlain.step {line : Text} (hline : IsPlain line) {reader : Reader} (h : reader.Idle) :
    (reader.step line).Idle ∧ (reader.step line).finish = reader.finish := by
  obtain ⟨hname, hremark, hhunk⟩ := hline
  have hparse : Hunk.parse line = none := by
    have hdrop : Text.dropStart? "@@" line = none := by
      refine Option.eq_none_iff_forall_not_mem.2 fun rest hrest => hhunk ?_
      exact ⟨rest, (Text.dropStart?_eq_some_iff.1 hrest).symm⟩
    rw [Hunk.parse, hdrop]
    rfl
  have htarget : Text.dropStart? "+++ " line = none := by
    refine Option.eq_none_iff_forall_not_mem.2 fun rest hrest => hname ?_
    exact ⟨rest, (Text.dropStart?_eq_some_iff.1 hrest).symm⟩
  have hslash : Text.startsWith line "\\" = false := by
    rw [← Bool.not_eq_true, Text.startsWith_iff]
    exact hremark
  have hstep : reader.step line =
      if Text.startsWith line "diff " then reader.finish else reader := by
    rw [Reader.step_of_idle h, Reader.header, hparse, htarget, hslash]
    rfl
  rw [hstep]
  split
  · exact ⟨h.finish, reader.finish_finish⟩
  · exact ⟨h, rfl⟩

theorem foldl_step_of_isPlain {lines : List Text} (hlines : ∀ line ∈ lines, IsPlain line)
    {reader : Reader} (h : reader.Idle) :
    (lines.foldl Reader.step reader).Idle ∧
      (lines.foldl Reader.step reader).finish = reader.finish := by
  induction lines generalizing reader with
  | nil => exact ⟨h, rfl⟩
  | cons line lines ih =>
      obtain ⟨hidle, hfinish⟩ := (hlines line List.mem_cons_self).step h
      have hrest := ih (fun other hother => hlines other (List.mem_cons_of_mem _ hother)) hidle
      rw [hfinish] at hrest
      exact hrest

namespace Section

variable {reader : Reader}

/-- What is read off the line with the file's name. -/
theorem fileOf?_target (part : Section) :
    Reader.fileOf? (part.target ++ (part.time?.map ('\t' :: ·)).getD []) =
      part.file?.map fun file => { file with lines := [] } := by
  have htake : (part.target ++ (part.time?.map ('\t' :: ·)).getD []).takeWhile (· != '\t') =
      part.target := by
    have hall : ∀ c ∈ part.target, (c != '\t') = true := fun c hc =>
      bne_iff_ne.2 fun heq => part.tabless (heq ▸ hc)
    rw [List.takeWhile_append_of_pos hall]
    cases part.time? <;> simp
  have hname : (Text.dropStart? "b/" (Text.trim part.target)).getD (Text.trim part.target) =
      part.name := by
    rw [name]
    split
    · next rest heq =>
      have hdrop : Text.dropStart? "b/" ('b' :: '/' :: rest) = some rest := rfl
      rw [heq, hdrop]
      rfl
    · next hnot =>
      have hdrop : Text.dropStart? "b/" (Text.trim part.target) = none :=
        Option.eq_none_iff_forall_not_mem.2 fun rest hrest =>
          hnot rest (Text.dropStart?_eq_some_iff.1 hrest)
      rw [hdrop]
      rfl
  rw [Reader.fileOf?, htake, file?, hname]
  split <;> rfl

/-- The line with a file's name finishes the file before it. -/
theorem step_nameLine (h : reader.Idle) (part : Section) :
    reader.step part.nameLine =
      { reader.finish with current := part.file?.map fun file => { file with lines := [] } } := by
  have hparse : Hunk.parse part.nameLine = none := rfl
  have htarget : Text.dropStart? "+++ " part.nameLine =
      some (part.target ++ (part.time?.map ('\t' :: ·)).getD []) :=
    Text.dropStart?_eq_some_iff.2 rfl
  rw [Reader.step_of_idle h, Reader.header, hparse, htarget]
  simp only [fileOf?_target]

/-- **A section adds its file to those before it**, unless the patch deletes it. -/
theorem files_foldl_step (h : reader.Idle) (part : Section) :
    (part.lines.foldl Reader.step reader).Idle ∧
      (part.lines.foldl Reader.step reader).files = reader.files ++ part.file?.toList := by
  obtain ⟨hidle, hfinish⟩ := foldl_step_of_isPlain part.plain h
  -- the state after the line with the name, in which the hunks are read
  let opened : Reader :=
    { reader.finish with current := part.file?.map fun file => { file with lines := [] } }
  have hopened : opened.Idle := h.finish
  have hlines : part.lines.foldl Reader.step reader = opened.pushAll part.hunkLines := by
    rw [lines, List.foldl_append, List.foldl_cons, step_nameLine hidle, hfinish]
    exact ClosedHunk.foldl_step_flatMap hopened part.hunks
  rw [hlines]
  refine ⟨hopened.pushAll _, ?_⟩
  rw [Reader.files_eq, Reader.finished_pushAll, Reader.current_pushAll, Reader.files]
  congr 2
  rw [Option.map_map, Option.map_map]
  unfold file?
  split <;> simp

theorem files_foldl_step_flatMap (h : reader.Idle) (parts : List Section) :
    ((parts.flatMap lines).foldl Reader.step reader).files =
      reader.files ++ parts.filterMap file? := by
  induction parts generalizing reader with
  | nil => simp
  | cons part parts ih =>
      obtain ⟨hidle, hfiles⟩ := part.files_foldl_step h
      rw [List.flatMap_cons, List.foldl_append, ih hidle, hfiles, List.append_assoc]
      congr 1
      cases hfile : part.file? <;> simp [hfile]

end Section

/-! ### Whole patches -/

/-- The files of a patch whose lines are those of some sections. -/
theorem split_of_lines_eq {patch : Text} {parts : List Section}
    (h : Text.lines patch = parts.flatMap Section.lines) :
    split patch = parts.filterMap Section.file? := by
  have hidle : Reader.Idle {} := ⟨rfl, rfl⟩
  rw [split, h]
  exact Section.files_foldl_step_flatMap hidle parts

/-- **A patch has the files of its sections**, in order and without the deleted ones, each with all
lines of its hunks and no other line.  A newline stands after every line of the patch, or only
between any two of them; in the second case the last line must not be empty. -/
theorem split_sections {parts : List Section}
    (h : ∀ part ∈ parts, ∀ line ∈ part.lines, '\n' ∉ line ∧ line.getLast? ≠ some '\r') :
    split (Text.unlines (parts.flatMap Section.lines)) = parts.filterMap Section.file? ∧
      ((parts.flatMap Section.lines).getLast? ≠ some [] →
        split (Text.joinWith ['\n'] (parts.flatMap Section.lines)) =
          parts.filterMap Section.file?) := by
  have hlines : ∀ line ∈ parts.flatMap Section.lines,
      '\n' ∉ line ∧ line.getLast? ≠ some '\r' := by
    intro line hline
    obtain ⟨part, hpart, hmem⟩ := List.mem_flatMap.1 hline
    exact h part hpart line hmem
  exact ⟨split_of_lines_eq (Text.lines_unlines hlines),
    fun hlast => split_of_lines_eq (Text.lines_joinWith_newline hlines hlast)⟩

/-- A section with a line that looks like the name of another file, and a remark at its end. -/
def changedSection : Section where
  preamble := ["diff --git a/a.po b/a.po", "index 1111111..2222222 100644", "--- a/a.po"]
  target := "b/a.po"
  time? := none
  hunks := [{
    line := "@@ -1,2 +1,2 @@"
    header := ⟨1, 2, 1, 2⟩
    body := [.kept "x", .removed "-- old", .remark " No newline at end of file", .added "++ new"]
    reads := by rfl
    oldLength := by rfl
    newLength := by rfl
    remark? := some " No newline at end of file"
    ends := by decide }]
  plain := by decide
  tabless := by decide

def deletedSection : Section where
  preamble := ["--- b.po\t2024-01-01"]
  target := "/dev/null"
  time? := some "1970-01-01"
  hunks := [{
    line := "@@ -1 +0,0 @@"
    header := ⟨1, 1, 0, 0⟩
    body := [.removed "gone"]
    reads := by rfl
    oldLength := by rfl
    newLength := by rfl
    remark? := none
    ends := by decide }]
  plain := by decide
  tabless := by decide

theorem split_sections_changed_deleted :
    (∀ part ∈ [changedSection, deletedSection, changedSection], ∀ line ∈ part.lines,
      '\n' ∉ line ∧ line.getLast? ≠ some '\r') ∧
    split (Text.joinWith ['\n'] ([changedSection, deletedSection, changedSection].flatMap
      Section.lines)) =
      [⟨"a.po", changedSection.hunkLines⟩, ⟨"a.po", changedSection.hunkLines⟩] := by
  have hlines : ∀ part ∈ [changedSection, deletedSection, changedSection], ∀ line ∈ part.lines,
      '\n' ∉ line ∧ line.getLast? ≠ some '\r' := by decide
  exact ⟨hlines, ((split_sections hlines).2 (by decide)).trans (by rfl)⟩

/-- A section whose last line is empty. -/
def bareSection : Section where
  preamble := []
  target := "a.po"
  time? := none
  hunks := [{
    line := "@@ -1 +1 @@"
    header := ⟨1, 1, 1, 1⟩
    body := [.bare]
    reads := by rfl
    oldLength := by rfl
    newLength := by rfl
    remark? := none
    ends := by decide }]
  plain := by decide
  tabless := by decide

/-- Newlines between the lines do not suffice: an empty line at the end of the patch is no line if
it is not ended by a newline of its own. -/
theorem not_forall_split_joinWith :
    ¬ ∀ parts : List Section, (∀ part ∈ parts, ∀ line ∈ part.lines,
      '\n' ∉ line ∧ line.getLast? ≠ some '\r') →
      split (Text.joinWith ['\n'] (parts.flatMap Section.lines)) =
        parts.filterMap Section.file? := by
  intro hall
  have hsplit := hall [bareSection] (by decide)
  have hread : split (Text.joinWith ['\n'] ([bareSection].flatMap Section.lines)) =
      [⟨"a.po", ["@@ -1 +1 @@"]⟩] := by rfl
  have hfile : [bareSection].filterMap Section.file? =
      [⟨"a.po", ["@@ -1 +1 @@", []]⟩] := by rfl
  rw [hread, hfile] at hsplit
  revert hsplit
  decide

end CatalogLint.Patch
