/-
**Hunks as diff tools write them.**

The reading of a patch looks at hunk headers alone.  A hunk also has a body, which says line by line
what became of the old file, and the header only sums it up.  This module describes whole hunks, the
header together with its body, and where the lines of the body stand in the new file.

Main definitions:

* `CatalogLint.Patch.BodyLine`, `CatalogLint.Patch.BodyLine.render` — a line of a body, and its
  text;
* `CatalogLint.Patch.newLines`, `CatalogLint.Patch.addedNumbers` — the lines that a body has in the
  new file, and the numbers of those that it adds;
* `CatalogLint.Patch.leadingContext`, `CatalogLint.Patch.trailingContext` — the number of unchanged
  lines at its two ends;
* `CatalogLint.Patch.WrittenHunk` — a header with a body that has as many lines as it says;
* `CatalogLint.Patch.WrittenHunk.Fits` — the hunk is one of a patch that leads to the given lines.

Main results:

* `CatalogLint.Patch.le_of_mem_addedNumbers`, `CatalogLint.Patch.lt_of_mem_addedNumbers` — **an
  added line stands between the context at the two ends of the body**;
* `CatalogLint.Patch.WrittenHunk.Fits.of_mem_added` — an added line that is not at an end of the
  file has three lines of its hunk on each side;
* `CatalogLint.Patch.hunks_eq` — **the hunks that are read off a written patch are its headers**: no
  line of a body passes for a header.
-/

import CatalogLint.Patch.Hunk
import Mathlib.Data.List.TakeWhile
import Mathlib.Tactic.MkIffOfInductiveProp

set_option autoImplicit false

namespace CatalogLint.Patch

/-! ### Lines of a body -/

/-- A line of a hunk's body. -/
inductive BodyLine where
  /-- A line of both files. -/
  | kept (text : Text)
  /-- An empty line of both files, written without the blank that marks it. -/
  | bare
  /-- A line of the new file alone. -/
  | added (text : Text)
  /-- A line of the old file alone. -/
  | removed (text : Text)
  /-- A remark, which stands for no line. -/
  | remark (text : Text)
deriving DecidableEq, Repr

namespace BodyLine

/-- The line as the patch has it. -/
def render : BodyLine → Text
  | kept text => ' ' :: text
  | bare => []
  | added text => '+' :: text
  | removed text => '-' :: text
  | remark text => '\\' :: text

/-- The line of the old file, if there is one. -/
def oldText? : BodyLine → Option Text
  | kept text => some text
  | bare => some []
  | added _ => none
  | removed text => some text
  | remark _ => none

/-- The line of the new file, if there is one. -/
def newText? : BodyLine → Option Text
  | kept text => some text
  | bare => some []
  | added text => some text
  | removed _ => none
  | remark _ => none

/-- Whether the line is one of both files. -/
def isContext : BodyLine → Bool
  | kept _ => true
  | bare => true
  | _ => false

end BodyLine

/-- The lines that some lines of a body have in the new file. -/
def newLines (body : List BodyLine) : List Text := body.filterMap BodyLine.newText?

/-- The numbers of the lines that a body adds to the new file; `number` is that of the first line
that the body has there. -/
def addedNumbers (number : Nat) : List BodyLine → List Nat
  | [] => []
  | .added _ :: body => number :: addedNumbers (number + 1) body
  | .kept _ :: body => addedNumbers (number + 1) body
  | .bare :: body => addedNumbers (number + 1) body
  | .removed _ :: body => addedNumbers number body
  | .remark _ :: body => addedNumbers number body

section
variable (text : Text) (body more : List BodyLine)

@[simp] theorem newLines_kept : newLines (.kept text :: body) = text :: newLines body := rfl

@[simp] theorem newLines_bare : newLines (.bare :: body) = [] :: newLines body := rfl

@[simp] theorem newLines_added : newLines (.added text :: body) = text :: newLines body := rfl

@[simp] theorem newLines_removed : newLines (.removed text :: body) = newLines body := rfl

@[simp] theorem newLines_remark : newLines (.remark text :: body) = newLines body := rfl

@[simp] theorem newLines_append : newLines (body ++ more) = newLines body ++ newLines more :=
  List.filterMap_append

end

/-- The lines of a body follow one another in the new file. -/
theorem addedNumbers_append (number : Nat) (body more : List BodyLine) :
    addedNumbers number (body ++ more) =
      addedNumbers number body ++ addedNumbers (number + (newLines body).length) more := by
  induction body generalizing number with
  | nil => rfl
  | cons line body ih =>
      cases line <;> simp [addedNumbers, ih, Nat.add_assoc, Nat.add_comm 1]

/-- An added line is one of those that the body has in the new file. -/
theorem mem_addedNumbers (first : Nat) {number : Nat} {body : List BodyLine}
    (h : number ∈ addedNumbers first body) :
    first ≤ number ∧ number < first + (newLines body).length := by
  induction body generalizing first with
  | nil => simp [addedNumbers] at h
  | cons line body ih =>
      cases line with
      | added text =>
          rw [newLines_added, List.length_cons]
          rcases List.mem_cons.1 h with rfl | h
          · omega
          · have := ih (first + 1) h
            omega
      | kept text =>
          have := ih (first + 1) h
          rw [newLines_kept, List.length_cons]
          omega
      | bare =>
          have := ih (first + 1) h
          rw [newLines_bare, List.length_cons]
          omega
      | removed text => exact ih first h
      | remark text => exact ih first h

/-- Unchanged lines add nothing. -/
theorem addedNumbers_of_isContext (number : Nat) {body : List BodyLine}
    (h : ∀ line ∈ body, line.isContext = true) : addedNumbers number body = [] := by
  induction body generalizing number with
  | nil => rfl
  | cons line body ih =>
      have hline := h line List.mem_cons_self
      have hbody := fun other hother => h other (List.mem_cons_of_mem _ hother)
      cases line with
      | kept text => exact ih (number + 1) hbody
      | bare => exact ih (number + 1) hbody
      | _ => cases hline

/-- Unchanged lines are lines of the new file. -/
theorem length_newLines_of_isContext {body : List BodyLine}
    (h : ∀ line ∈ body, line.isContext = true) : (newLines body).length = body.length := by
  induction body with
  | nil => rfl
  | cons line body ih =>
      have hline := h line List.mem_cons_self
      have hbody := ih fun other hother => h other (List.mem_cons_of_mem _ hother)
      cases line with
      | kept text => rw [newLines_kept, List.length_cons, List.length_cons, hbody]
      | bare => rw [newLines_bare, List.length_cons, List.length_cons, hbody]
      | _ => cases hline

/-! ### Remarks and the context at the two ends -/

def withoutRemarks : List BodyLine → List BodyLine
  | [] => []
  | .remark _ :: body => withoutRemarks body
  | line :: body => line :: withoutRemarks body

/-- The number of unchanged lines at the beginning of a body. -/
def leadingContext (body : List BodyLine) : Nat :=
  ((withoutRemarks body).takeWhile BodyLine.isContext).length

/-- The number of unchanged lines at the end of a body. -/
def trailingContext (body : List BodyLine) : Nat :=
  ((withoutRemarks body).reverse.takeWhile BodyLine.isContext).length

theorem newLines_withoutRemarks (body : List BodyLine) :
    newLines (withoutRemarks body) = newLines body := by
  induction body with
  | nil => rfl
  | cons line body ih => cases line <;> simp [withoutRemarks, ih]

theorem addedNumbers_withoutRemarks (number : Nat) (body : List BodyLine) :
    addedNumbers number (withoutRemarks body) = addedNumbers number body := by
  induction body generalizing number with
  | nil => rfl
  | cons line body ih => cases line <;> simp [withoutRemarks, addedNumbers, ih]

theorem isContext_of_mem_takeWhile {body : List BodyLine} :
    ∀ line ∈ body.takeWhile BodyLine.isContext, line.isContext = true :=
  fun _ hline => List.mem_takeWhile_imp hline

/-- **An added line stands after the context at the beginning of the body.** -/
theorem le_of_mem_addedNumbers (first : Nat) {number : Nat} {body : List BodyLine}
    (h : number ∈ addedNumbers first body) : first + leadingContext body ≤ number := by
  have hsplit : withoutRemarks body = (withoutRemarks body).takeWhile BodyLine.isContext ++
      (withoutRemarks body).dropWhile BodyLine.isContext := List.takeWhile_append_dropWhile.symm
  rw [← addedNumbers_withoutRemarks, hsplit, addedNumbers_append,
    addedNumbers_of_isContext first isContext_of_mem_takeWhile, List.nil_append,
    length_newLines_of_isContext isContext_of_mem_takeWhile] at h
  exact (mem_addedNumbers _ h).1

/-- **An added line stands before the context at the end of the body.** -/
theorem lt_of_mem_addedNumbers (first : Nat) {number : Nat} {body : List BodyLine}
    (h : number ∈ addedNumbers first body) :
    number + trailingContext body < first + (newLines body).length := by
  -- the body from its end is some context and what stands before it
  let front := ((withoutRemarks body).reverse.dropWhile BodyLine.isContext).reverse
  let context := ((withoutRemarks body).reverse.takeWhile BodyLine.isContext).reverse
  have hsplit : withoutRemarks body = front ++ context := by
    rw [← List.reverse_append, List.takeWhile_append_dropWhile, List.reverse_reverse]
  have hcontext : ∀ line ∈ context, line.isContext = true := fun line hline =>
    isContext_of_mem_takeWhile line (List.mem_reverse.1 hline)
  have hlength : (newLines body).length = (newLines front).length + trailingContext body := by
    rw [← newLines_withoutRemarks, hsplit, newLines_append, List.length_append,
      length_newLines_of_isContext hcontext, List.length_reverse, trailingContext]
  rw [← addedNumbers_withoutRemarks, hsplit, addedNumbers_append,
    addedNumbers_of_isContext _ hcontext, List.append_nil] at h
  have := (mem_addedNumbers _ h).2
  omega

/-- The unchanged lines at the beginning are lines of the new file. -/
theorem leadingContext_le_length_newLines (body : List BodyLine) :
    leadingContext body ≤ (newLines body).length := by
  have hsplit : withoutRemarks body = (withoutRemarks body).takeWhile BodyLine.isContext ++
      (withoutRemarks body).dropWhile BodyLine.isContext := List.takeWhile_append_dropWhile.symm
  rw [← newLines_withoutRemarks, hsplit, newLines_append, List.length_append,
    length_newLines_of_isContext isContext_of_mem_takeWhile]
  exact Nat.le_add_right _ _

/-! ### Hunks -/

/-- A hunk with its body. -/
structure WrittenHunk where
  line : Text
  header : Hunk
  body : List BodyLine
  /-- The header is read off its line. -/
  reads : Hunk.parse line = some header
  /-- The body has as many lines of the old file as the header says. -/
  oldLength : (body.filterMap BodyLine.oldText?).length = header.oldLength
  /-- The body has as many lines of the new file as the header says. -/
  newLength : (newLines body).length = header.newLength

namespace WrittenHunk

def lines (hunk : WrittenHunk) : List Text := hunk.line :: hunk.body.map BodyLine.render

def added (hunk : WrittenHunk) : List Nat := addedNumbers hunk.header.newStart hunk.body

/-- The hunk is one of a patch that leads to a file with the given lines: its lines of the new file
stand there from the one that its header names, and it has three unchanged lines at each end, fewer
where the file begins or ends. -/
@[mk_iff]
structure Fits (hunk : WrittenHunk) (file : List Text) : Prop where
  /-- The lines of a file are counted from one. -/
  start : newLines hunk.body ≠ [] → 1 ≤ hunk.header.newStart
  /-- The lines of the new file stand there. -/
  newSide : newLines hunk.body <+: file.drop (hunk.header.newStart - 1)
  /-- There are no more unchanged lines at the beginning than usual. -/
  leading : leadingContext hunk.body ≤ contextLines
  /-- There are fewer only where the file begins. -/
  atStart : leadingContext hunk.body < contextLines → hunk.header.newStart ≤ 1
  /-- There are no more unchanged lines at the end than usual. -/
  trailing : trailingContext hunk.body ≤ contextLines
  /-- There are fewer only where the file ends. -/
  atEnd : trailingContext hunk.body < contextLines →
    file.length < hunk.header.newStart + hunk.header.newLength

instance (hunk : WrittenHunk) (file : List Text) : Decidable (hunk.Fits file) :=
  decidable_of_iff _ (fits_iff hunk file).symm

/-- The header counts no further than to the end of the file. -/
theorem Fits.newStart_add_newLength_le {hunk : WrittenHunk} {file : List Text}
    (hfits : hunk.Fits file) :
    hunk.header.newStart + hunk.header.newLength ≤ file.length + 1 := by
  have hlength := hunk.newLength
  by_cases hempty : newLines hunk.body = []
  · -- without a line of the new file there is no context, so the hunk is at the beginning
    have hcontext := leadingContext_le_length_newLines hunk.body
    rw [hempty, List.length_nil] at hlength hcontext
    have hstart := hfits.atStart (Nat.lt_of_le_of_lt hcontext (by decide))
    omega
  · have hstart := hfits.start hempty
    have hprefix := hfits.newSide.length_le
    have hpositive := List.length_pos_iff.2 hempty
    rw [List.length_drop] at hprefix
    omega

/-- An added line with three lines of the file before it and after it has three lines of its hunk
before it and after it. -/
theorem Fits.of_mem_added {hunk : WrittenHunk} {file : List Text} (hfits : hunk.Fits file)
    {number : Nat} (h : number ∈ hunk.added) (hstart : contextLines < number)
    (hend : number + contextLines ≤ file.length) :
    hunk.header.newStart + contextLines ≤ number ∧
      number + contextLines < hunk.header.newStart + hunk.header.newLength := by
  have hle := le_of_mem_addedNumbers _ h
  have hlt := lt_of_mem_addedNumbers _ h
  rw [hunk.newLength] at hlt
  constructor
  · rcases Nat.lt_or_ge (leadingContext hunk.body) contextLines with hless | hmore
    · have := hfits.atStart hless
      omega
    · omega
  · rcases Nat.lt_or_ge (trailingContext hunk.body) contextLines with hless | hmore
    · have := hfits.atEnd hless
      omega
    · omega

end WrittenHunk

/-- No line of a body passes for a header. -/
theorem parse_render (line : BodyLine) : Hunk.parse line.render = none := by
  cases line <;> rfl

theorem filterMap_parse_lines (hunk : WrittenHunk) :
    hunk.lines.filterMap Hunk.parse = [hunk.header] := by
  rw [WrittenHunk.lines, List.filterMap_cons_some hunk.reads, List.filterMap_map]
  congr 1
  exact List.filterMap_eq_nil_iff.2 fun line _ => parse_render line

/-- **The hunks that are read off a written patch are its headers.** -/
theorem hunks_eq {diff : Text} {patch : List WrittenHunk}
    (h : Text.lines diff = patch.flatMap WrittenHunk.lines) :
    hunks diff = patch.map WrittenHunk.header := by
  rw [hunks, h, List.filterMap_flatMap]
  simp only [filterMap_parse_lines]
  exact List.map_eq_flatMap.symm

end CatalogLint.Patch
