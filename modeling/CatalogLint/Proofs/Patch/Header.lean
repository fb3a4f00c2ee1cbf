/-
**The lines that describe a hunk.**

A hunk header gives four numbers between its marks, and either length may be left out if it is one.
The reader takes the digits of every script for digits, but only ASCII digits make a number, and
only a number that fits into 64 bits counts.  So a line may have the form of a header and still be
none: a number that cannot be read is not taken for one that was left out.

A line in the form of a header is told by its parts.  What the reader makes of it is put together
from what it makes of the four numbers alone, and every line that it takes is in this form.

Main definitions:

* `CatalogLint.Patch.IsNumber` — the digits of a number that fits into 64 bits;
* `CatalogLint.Patch.HeaderLine`, `CatalogLint.Patch.HeaderLine.render` — a line in the form of a
  header, by its parts, and its text;
* `CatalogLint.Patch.HeaderLine.Describes` — what the numbers of such a line say;
* `CatalogLint.Patch.Hunk.ReadsHeaders` — a reader takes exactly the headers.

Main results:

* `CatalogLint.Patch.value?_eq_some_iff` — a number is read from its digits;
* `CatalogLint.Patch.HeaderLine.parse_render` — **a line is read number by number**;
* `CatalogLint.Patch.exists_headerLine_of_parse` — a line that is read has the form of a header;
* `CatalogLint.Patch.Hunk.readsHeaders_parse` — **exactly the headers are read**.
-/

import CatalogLint.Patch.Hunk
import CatalogLint.Proofs.Json.Pretty
import CatalogLint.Proofs.Text.Trim

set_option autoImplicit false

namespace CatalogLint.Patch

open Json (IsDigits natural?_of_isDigits isDigits_decimal)

/-! ### Numbers -/

/-- Some ASCII digits make a number that fits into 64 bits. -/
structure IsNumber (digits : Text) (n : Nat) : Prop where
  isDigits : IsDigits digits
  value : Nat.ofDigitChars 10 digits 0 = n
  lt : n < wordBound

def value? (run : Text) : Option Nat := (Text.natural? run).filter (· < wordBound)

/-- Only ASCII digits make a number. -/
theorem isDigits_of_natural? {digits : Text} {n : Nat} (h : Text.natural? digits = some n) :
    IsDigits digits := by
  have hfold (digits : Text) (start : Nat)
      (h : digits.foldlM (fun n c =>
        if c.isDigit then some (10 * n + (c.toNat - 48)) else none) start = some n) :
      ∀ c ∈ digits, c.isDigit = true := by
    induction digits generalizing start with
    | nil => simp
    | cons c digits ih =>
      rw [List.foldlM_cons] at h
      by_cases hc : c.isDigit = true
      · rw [if_pos hc] at h
        exact List.forall_mem_cons.2 ⟨hc, ih _ h⟩
      · rw [if_neg hc] at h
        cases h
  rw [Text.natural?] at h
  split at h
  · cases h
  · next hne => exact ⟨by simpa using hne, hfold digits 0 h⟩

/-- A number is read from its digits. -/
theorem value?_eq_some_iff {digits : Text} {n : Nat} :
    value? digits = some n ↔ IsNumber digits n := by
  rw [value?, Option.filter_eq_some_iff, decide_eq_true_eq]
  constructor
  · rintro ⟨hvalue, hlt⟩
    have hdigits := isDigits_of_natural? hvalue
    rw [natural?_of_isDigits hdigits, Option.some.injEq] at hvalue
    exact ⟨hdigits, hvalue, hlt⟩
  · rintro ⟨hdigits, hvalue, hlt⟩
    exact ⟨by rw [natural?_of_isDigits hdigits, hvalue], hlt⟩

theorem isNumber_decimal {n : Nat} (h : n < wordBound) : IsNumber (Text.decimal n) n :=
  ⟨isDigits_decimal n, Nat.ofDigitChars_ten_toDigits, h⟩

/-- A number that may be left out if it is one. -/
inductive IsLength : Option Text → Nat → Prop
  | omitted : IsLength none 1
  | written {digits : Text} {n : Nat} (h : IsNumber digits n) : IsLength (some digits) n

/-- The number that a run of digits makes, or one if it is left out. -/
def lengthValue? : Option Text → Option Nat
  | none => some 1
  | some run => value? run

theorem lengthValue?_eq_some_iff {length : Option Text} {n : Nat} :
    lengthValue? length = some n ↔ IsLength length n := by
  cases length with
  | none =>
    rw [lengthValue?, Option.some.injEq]
    constructor
    · rintro rfl
      exact .omitted
    · rintro ⟨⟩
      rfl
  | some run =>
    rw [lengthValue?, value?_eq_some_iff]
    constructor
    · exact .written
    · intro h
      cases h with
      | written h => exact h

/-! ### Lines in the form of a header -/

/-- One digit or more, of any script. -/
structure IsRun (run : Text) : Prop where
  ne_nil : run ≠ []
  all : ∀ c ∈ run, Text.isDecimalDigit c = true

/-- One blank or more. -/
structure IsGap (gap : Text) : Prop where
  ne_nil : gap ≠ []
  all : ∀ c ∈ gap, Text.isBlank c = true

/-- A line in the form of a header, by its parts. -/
structure HeaderLine where
  /-- What stands before the minus. -/
  before : Text
  oldStart : Text
  oldLength : Option Text
  /-- What stands before the plus. -/
  between : Text
  newStart : Text
  newLength : Option Text
  /-- What stands before the last mark. -/
  after : Text
  /-- What stands behind it. -/
  rest : Text
  before_blank : ∀ c ∈ before, Text.isBlank c = true
  oldStart_run : IsRun oldStart
  oldLength_run : ∀ run ∈ oldLength, IsRun run
  between_gap : IsGap between
  newStart_run : IsRun newStart
  newLength_run : ∀ run ∈ newLength, IsRun run
  after_gap : IsGap after

/-- A length behind its comma, or nothing. -/
def lengthText : Option Text → Text
  | none => []
  | some digits => ',' :: digits

namespace HeaderLine

def render (line : HeaderLine) : Text :=
  "@@" ++ line.before ++ "-" ++ line.oldStart ++ lengthText line.oldLength ++ line.between ++ "+" ++
    line.newStart ++ lengthText line.newLength ++ line.after ++ "@@" ++ line.rest

def numbers (line : HeaderLine) : List Text :=
  line.oldStart :: line.oldLength.toList ++ line.newStart :: line.newLength.toList

/-- The numbers of the line are those of a hunk. -/
structure Describes (line : HeaderLine) (hunk : Hunk) : Prop where
  oldStart : IsNumber line.oldStart hunk.oldStart
  oldLength : IsLength line.oldLength hunk.oldLength
  newStart : IsNumber line.newStart hunk.newStart
  newLength : IsLength line.newLength hunk.newLength

theorem Describes.exists_isNumber {line : HeaderLine} {hunk : Hunk} (h : line.Describes hunk) :
    ∀ run ∈ line.numbers, ∃ n, IsNumber run n := by
  have hlength {length : Option Text} {n : Nat} (h : IsLength length n) :
      ∀ run ∈ length.toList, ∃ n, IsNumber run n := by
    cases h with
    | omitted => simp
    | written h => simpa using ⟨n, h⟩
  rw [numbers, List.forall_mem_append, List.forall_mem_cons, List.forall_mem_cons]
  exact ⟨⟨⟨_, h.oldStart⟩, hlength h.oldLength⟩, ⟨_, h.newStart⟩, hlength h.newLength⟩

end HeaderLine

/-! ### Blanks and digits -/

theorem exists_range_of_includesNat {table : Text.RangeTable} {n : Nat}
    (h : table.includesNat n = true) : ∃ range ∈ table, range.1 ≤ n ∧ n ≤ range.2 := by
  induction table with
  | nil => cases h
  | cons range table ih =>
    simp only [Text.RangeTable.includesNat, Bool.and_eq_true, Bool.or_eq_true,
      decide_eq_true_eq] at h
    obtain ⟨hfirst, hlast | hmore⟩ := h
    · exact ⟨range, List.mem_cons_self, hfirst, hlast⟩
    · obtain ⟨other, hother, hn⟩ := ih hmore
      exact ⟨other, List.mem_cons_of_mem _ hother, hn⟩

/-- A blank is no digit. -/
theorem isDecimalDigit_of_isBlank {c : Char} (h : Text.isBlank c = true) :
    Text.isDecimalDigit c = false := by
  have hapart : ∀ blank ∈ Text.blankRanges, ∀ digit ∈ Text.digitRanges,
      blank.2 < digit.1 ∨ digit.2 < blank.1 := by decide
  rw [Text.isDecimalDigit, Bool.and_eq_false_iff]
  refine .inl (Bool.eq_false_iff.2 fun hdigit => ?_)
  obtain ⟨blank, hblank, hblank₁, hblank₂⟩ := exists_range_of_includesNat h
  obtain ⟨digit, hdigit, hdigit₁, hdigit₂⟩ := exists_range_of_includesNat hdigit
  rcases hapart blank hblank digit hdigit with hbefore | hbehind <;> omega

/-- An ASCII digit is a digit. -/
theorem isDecimalDigit_of_isDigit {c : Char} (h : c.isDigit = true) :
    Text.isDecimalDigit c = true := by
  have htable : ∀ n < 58, 48 ≤ n → Text.digitRanges.includesNat n = true ∧
      Text.recentRanges.includesNat n = false := by decide
  have hrange : 48 ≤ c.toNat ∧ c.toNat < 58 := by
    simp only [Char.isDigit, Bool.and_eq_true, decide_eq_true_eq, UInt32.le_iff_toNat_le] at h
    exact ⟨h.1, Nat.lt_succ_of_le h.2⟩
  obtain ⟨hdigit, hrecent⟩ := htable c.toNat hrange.2 hrange.1
  simp [Text.isDecimalDigit, Text.isRecent, Text.RangeTable.includes, hdigit, hrecent]

/-! ### Reading the parts -/

section
variable {run gap length rest : Text} {c : Char}

/-- What comes behind does not continue a run of digits. -/
def EndsRun (rest : Text) : Prop := ∀ c ∈ rest.head?, Text.isDecimalDigit c = false

theorem number?_append (h : IsRun run) (hrest : EndsRun rest) :
    Hunk.number? (run ++ rest) = (value? run).map (·, rest) := by
  rw [Hunk.number?, Text.takeWhile_append_of_head h.all hrest, List.drop_left, value?]
  cases Text.natural? run with
  | none => rfl
  | some n =>
    by_cases hn : n < wordBound
    · rw [Option.filter_some, if_pos (decide_eq_true hn)]
      exact if_pos hn
    · rw [Option.filter_some, if_neg (by simpa using hn)]
      exact if_neg hn

theorem IsGap.endsRun (h : IsGap gap) (rest : Text) : EndsRun (gap ++ rest) := by
  obtain ⟨c, gap, rfl⟩ := List.exists_cons_of_ne_nil h.ne_nil
  rintro _ ⟨⟩
  exact isDecimalDigit_of_isBlank (h.all c List.mem_cons_self)

/-- A length ends the run before it, or the gap behind it does. -/
theorem endsRun_lengthText (length : Option Text) (hrest : EndsRun rest) :
    EndsRun (lengthText length ++ rest) := by
  cases length with
  | none => exact hrest
  | some run =>
    rintro _ ⟨⟩
    decide

theorem length?_append {length : Option Text} (hlength : ∀ run ∈ length, IsRun run)
    (h : IsGap gap) (rest : Text) :
    Hunk.length? (lengthText length ++ (gap ++ rest)) =
      (lengthValue? length).map (·, gap ++ rest) := by
  cases length with
  | none =>
    obtain ⟨c, gap, rfl⟩ := List.exists_cons_of_ne_nil h.ne_nil
    have hc : c ≠ ',' := by
      rintro rfl
      exact absurd (h.all ',' List.mem_cons_self) (by decide)
    rw [lengthText, List.nil_append, List.cons_append, Hunk.length?]
    · rfl
    · intro text heq
      exact hc (List.cons.inj heq).1
  | some run =>
    have hrun := hlength run rfl
    obtain ⟨c, tail, rfl⟩ := List.exists_cons_of_ne_nil hrun.ne_nil
    rw [lengthText, List.cons_append, Hunk.length?, if_pos, number?_append hrun (h.endsRun rest)]
    · rfl
    · exact hrun.all c List.mem_cons_self

theorem blanks?_append (h : IsGap gap) (hc : Text.isBlank c = false) :
    Hunk.blanks? (gap ++ c :: rest) = some (c :: rest) := by
  have htrim : Text.trimStart (gap ++ c :: rest) = c :: rest := Text.trimStart_append h.all hc
  obtain ⟨d, gap, rfl⟩ := List.exists_cons_of_ne_nil h.ne_nil
  rw [Hunk.blanks?, if_pos, htrim]
  exact h.all d List.mem_cons_self

end

namespace HeaderLine

variable (line : HeaderLine)

theorem render_eq : line.render = '@' :: '@' :: (line.before ++ '-' :: (line.oldStart ++
    (lengthText line.oldLength ++ (line.between ++ '+' :: (line.newStart ++
      (lengthText line.newLength ++ (line.after ++ '@' :: '@' :: line.rest))))))) := by
  unfold render
  simp

/-- **A line is read number by number.** -/
theorem parse_render : Hunk.parse line.render = (do
    some ⟨← value? line.oldStart, ← lengthValue? line.oldLength, ← value? line.newStart,
      ← lengthValue? line.newLength⟩) := by
  have hmark (rest : Text) : Text.dropStart? "@@" ('@' :: '@' :: rest) = some rest :=
    Text.dropStart?_eq_some_iff.2 rfl
  have hminus (rest : Text) : Text.dropStart? "-" ('-' :: rest) = some rest :=
    Text.dropStart?_eq_some_iff.2 rfl
  have hplus (rest : Text) : Text.dropStart? "+" ('+' :: rest) = some rest :=
    Text.dropStart?_eq_some_iff.2 rfl
  have hbefore (rest : Text) : Text.trimStart (line.before ++ '-' :: rest) = '-' :: rest :=
    Text.trimStart_append line.before_blank (by decide)
  have hold (rest : Text) := number?_append line.oldStart_run
    (endsRun_lengthText line.oldLength (line.between_gap.endsRun rest))
  have holdLength (rest : Text) := length?_append line.oldLength_run line.between_gap rest
  have hbetween (rest : Text) : Hunk.blanks? (line.between ++ '+' :: rest) = some ('+' :: rest) :=
    blanks?_append line.between_gap (by decide)
  have hnew (rest : Text) := number?_append line.newStart_run
    (endsRun_lengthText line.newLength (line.after_gap.endsRun rest))
  have hnewLength (rest : Text) := length?_append line.newLength_run line.after_gap rest
  have hafter (rest : Text) : Hunk.blanks? (line.after ++ '@' :: rest) = some ('@' :: rest) :=
    blanks?_append line.after_gap (by decide)
  rw [render_eq, Hunk.parse, hmark]
  simp only [Option.bind_eq_bind, Option.bind_some, hbefore, hminus, hold, Option.bind_map,
    Function.comp_def, holdLength, hbetween, hplus, hnew, hnewLength, hafter, hmark]

/-- What is read off a line is what its numbers say. -/
theorem parse_render_eq_some_iff {hunk : Hunk} :
    Hunk.parse line.render = some hunk ↔ line.Describes hunk := by
  rw [parse_render]
  simp only [Option.bind_eq_bind, Option.bind_eq_some_iff, value?_eq_some_iff,
    lengthValue?_eq_some_iff, Option.some.injEq]
  constructor
  · rintro ⟨oldStart, holdStart, oldLength, holdLength, newStart, hnewStart, newLength, hnewLength,
      rfl⟩
    exact ⟨holdStart, holdLength, hnewStart, hnewLength⟩
  · intro h
    exact ⟨_, h.oldStart, _, h.oldLength, _, h.newStart, _, h.newLength, rfl⟩

end HeaderLine

/-! ### Every line that is read has the form of a header -/

section
variable {n : Nat} {text rest : Text}

theorem exists_isRun_of_number? (h : Hunk.number? text = some (n, rest)) :
    ∃ run, IsRun run ∧ text = run ++ rest := by
  rw [Hunk.number?] at h
  split at h
  · next hvalue =>
    split at h
    · cases h
      refine ⟨text.takeWhile Text.isDecimalDigit, ⟨?_, fun _ hc => List.mem_takeWhile_imp hc⟩, ?_⟩
      · exact (isDigits_of_natural? hvalue).ne_nil
      · exact (List.prefix_iff_eq_append.1 (List.takeWhile_prefix _)).symm
    · cases h
  · cases h

theorem exists_length_of_length? (h : Hunk.length? text = some (n, rest)) :
    ∃ length, (∀ run ∈ length, IsRun run) ∧ text = lengthText length ++ rest := by
  rw [Hunk.length?.eq_def] at h
  split at h
  · split at h
    · obtain ⟨run, hrun, rfl⟩ := exists_isRun_of_number? h
      exact ⟨some run, by simpa using hrun, rfl⟩
    · cases h
      exact ⟨none, by simp, rfl⟩
  · cases h
    exact ⟨none, by simp, rfl⟩

theorem exists_isGap_of_blanks? (h : Hunk.blanks? text = some rest) :
    ∃ gap, IsGap gap ∧ text = gap ++ rest := by
  rw [Hunk.blanks?] at h
  split at h
  · next hblank =>
    cases h
    refine ⟨text.takeWhile Text.isBlank, ⟨?_, fun _ hc => List.mem_takeWhile_imp hc⟩,
      List.takeWhile_append_dropWhile.symm⟩
    cases text with
    | nil => cases hblank
    | cons c text =>
      have hc : Text.isBlank c = true := hblank
      rw [List.takeWhile_cons_of_pos hc]
      exact List.cons_ne_nil _ _
  · cases h

end

/-- **A line that is read has the form of a header.** -/
theorem exists_headerLine_of_parse {line : Text} {hunk : Hunk} (h : Hunk.parse line = some hunk) :
    ∃ header : HeaderLine, line = header.render := by
  simp only [Hunk.parse, Option.bind_eq_bind, Option.bind_eq_some_iff,
    Text.dropStart?_eq_some_iff] at h
  obtain ⟨text, rfl, afterMinus, hminus, ⟨oldStart, afterOld⟩, hold, ⟨oldLength, afterOldLength⟩,
    holdLength, afterBetween, hbetween, afterPlus, rfl, ⟨newStart, afterNew⟩, hnew,
    ⟨newLength, afterNewLength⟩, hnewLength, afterAfter, hafter, rest, rfl, -⟩ := h
  obtain ⟨oldRun, holdRun, rfl⟩ := exists_isRun_of_number? hold
  obtain ⟨oldRun?, holdRun?, rfl⟩ := exists_length_of_length? holdLength
  obtain ⟨between, hgap, rfl⟩ := exists_isGap_of_blanks? hbetween
  obtain ⟨newRun, hnewRun, rfl⟩ := exists_isRun_of_number? hnew
  obtain ⟨newRun?, hnewRun?, rfl⟩ := exists_length_of_length? hnewLength
  obtain ⟨after, hlastGap, rfl⟩ := exists_isGap_of_blanks? hafter
  obtain ⟨before, hbefore, rfl⟩ := Text.exists_blanks_of_trimStart hminus
  refine ⟨{
    before
    oldStart := oldRun
    oldLength := oldRun?
    between
    newStart := newRun
    newLength := newRun?
    after
    rest
    before_blank := hbefore
    oldStart_run := holdRun
    oldLength_run := holdRun?
    between_gap := hgap
    newStart_run := hnewRun
    newLength_run := hnewRun?
    after_gap := hlastGap }, ?_⟩
  rw [HeaderLine.render_eq]
  simp

/-! ### Exactly the headers are read -/

namespace Hunk

/-- The digits of a length; they may be left out. -/
def lengthRun (isOmitted : Bool) (n : Nat) : Option Text :=
  if isOmitted then none else some (Text.decimal n)

/-- The header of the hunk, with any text behind it; either length may be left out. -/
def header (hunk : Hunk) (omitsOld omitsNew : Bool) (rest : Text) : Text :=
  "@@ -" ++ Text.decimal hunk.oldStart ++ lengthText (lengthRun omitsOld hunk.oldLength) ++
    " +" ++ Text.decimal hunk.newStart ++ lengthText (lengthRun omitsNew hunk.newLength) ++ " @@" ++
      rest

/-- The numbers of the hunk fit into 64 bits. -/
structure Fits (hunk : Hunk) : Prop where
  oldStart : hunk.oldStart < wordBound
  oldLength : hunk.oldLength < wordBound
  newStart : hunk.newStart < wordBound
  newLength : hunk.newLength < wordBound

/-- A reader takes exactly the headers. -/
structure ReadsHeaders (read : Text → Option Hunk) : Prop where
  /-- What is read are the lines in the form of a header whose numbers are those of the hunk. -/
  exact : ∀ line hunk,
    read line = some hunk ↔ ∃ header : HeaderLine, header.Describes hunk ∧ line = header.render
  /-- Every hunk is read off its header, also where a length of one is left out. -/
  written : ∀ hunk : Hunk, hunk.Fits → ∀ omitsOld omitsNew : Bool,
    (omitsOld = true → hunk.oldLength = 1) → (omitsNew = true → hunk.newLength = 1) →
      ∀ rest, read (hunk.header omitsOld omitsNew rest) = some hunk
  /-- Any number with another digit, or one that does not fit, makes the line unreadable. -/
  refused : ∀ line : HeaderLine,
    (∃ run ∈ line.numbers,
      (∃ c ∈ run, c.isDigit = false) ∨ wordBound ≤ Nat.ofDigitChars 10 run 0) →
    read line.render = none

theorem isLength_lengthRun {isOmitted : Bool} {n : Nat} (hn : n < wordBound)
    (h : isOmitted = true → n = 1) : IsLength (lengthRun isOmitted n) n := by
  cases isOmitted with
  | false => exact .written (isNumber_decimal hn)
  | true =>
    rw [h rfl]
    exact .omitted

theorem isRun_decimal (n : Nat) : IsRun (Text.decimal n) :=
  ⟨(isDigits_decimal n).ne_nil,
    fun c hc => isDecimalDigit_of_isDigit ((isDigits_decimal n).all c hc)⟩

theorem isRun_lengthRun (isOmitted : Bool) (n : Nat) :
    ∀ run ∈ lengthRun isOmitted n, IsRun run := by
  cases isOmitted with
  | false => simpa [lengthRun] using isRun_decimal n
  | true => simp [lengthRun]

theorem isGap_blank : IsGap [' '] :=
  ⟨List.cons_ne_nil _ _, List.forall_mem_singleton.2 (by decide)⟩

/-- The parts of a header. -/
def headerLine (hunk : Hunk) (omitsOld omitsNew : Bool) (rest : Text) : HeaderLine where
  before := [' ']
  oldStart := Text.decimal hunk.oldStart
  oldLength := lengthRun omitsOld hunk.oldLength
  between := [' ']
  newStart := Text.decimal hunk.newStart
  newLength := lengthRun omitsNew hunk.newLength
  after := [' ']
  rest
  before_blank := isGap_blank.all
  oldStart_run := isRun_decimal _
  oldLength_run := isRun_lengthRun _ _
  between_gap := isGap_blank
  newStart_run := isRun_decimal _
  newLength_run := isRun_lengthRun _ _
  after_gap := isGap_blank

theorem render_headerLine (hunk : Hunk) (omitsOld omitsNew : Bool) (rest : Text) :
    (hunk.headerLine omitsOld omitsNew rest).render = hunk.header omitsOld omitsNew rest := by
  rw [HeaderLine.render_eq]
  unfold header headerLine
  simp

/-- **Exactly the headers are read.** -/
theorem readsHeaders_parse : ReadsHeaders parse := by
  refine ⟨fun line hunk => ⟨fun h => ?reads, ?describes⟩, ?written, ?refused⟩
  case reads =>
    obtain ⟨header, rfl⟩ := exists_headerLine_of_parse h
    exact ⟨header, header.parse_render_eq_some_iff.1 h, rfl⟩
  case describes =>
    rintro ⟨header, hnumbers, rfl⟩
    exact header.parse_render_eq_some_iff.2 hnumbers
  case written =>
    intro hunk hfits omitsOld omitsNew hold hnew rest
    rw [← render_headerLine, HeaderLine.parse_render_eq_some_iff]
    exact ⟨isNumber_decimal hfits.oldStart, isLength_lengthRun hfits.oldLength hold,
      isNumber_decimal hfits.newStart, isLength_lengthRun hfits.newLength hnew⟩
  case refused =>
    rintro line ⟨run, hrun, hbad⟩
    rw [Option.eq_none_iff_forall_ne_some]
    intro hunk hread
    obtain ⟨n, hnumber⟩ := (line.parse_render_eq_some_iff.1 hread).exists_isNumber run hrun
    rcases hbad with ⟨c, hc, hdigit⟩ | hlarge
    · exact Bool.false_ne_true (hdigit.symm.trans (hnumber.isDigits.all c hc))
    · exact absurd hlarge (Nat.not_le_of_lt (hnumber.value ▸ hnumber.lt))

/-- A length with a digit of another script is no length that was left out. -/
example : parse "@@ -1 +2 @@" = some ⟨1, 1, 2, 1⟩ ∧ parse "@@ -1 +2,٣ @@" = none := by decide

end Hunk

end CatalogLint.Patch
