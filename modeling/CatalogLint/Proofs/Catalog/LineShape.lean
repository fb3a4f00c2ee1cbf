/-
**What a line of a catalog file is, said on its text.**

`CatalogLint.Catalog.Line.ofText` reads a line into a value with a case for each kind of line.  This
module says the same on the text alone, in a few tests that do not depend on one another: whether a
line opens an entry, continues a string or starts with a keyword, which part of it is the string,
and whether it is malformed.  Every statement about files is made in these words, and the lemmas
here carry it over to the reading.

Main definitions:

* `CatalogLint.Catalog.opensEntry` — the line opens an entry;
* `CatalogLint.Catalog.continuesString`, `CatalogLint.Catalog.startsString` — the line continues a
  string, or starts one with a keyword;
* `CatalogLint.Catalog.keywordOf`, `CatalogLint.Catalog.stringOf` — the keyword and the string;
* `CatalogLint.Catalog.isQuoted`, `CatalogLint.Catalog.unquoted` — a text between quotes, and what
  stands between them;
* `CatalogLint.Catalog.isMalformed`, `CatalogLint.Catalog.faultOf` — a malformed line, and what is
  wrong with it.

Main results:

* `CatalogLint.Catalog.fault?_ofTrimmed` — **a line is at fault exactly when it is malformed**;
* `CatalogLint.Catalog.ofText_eq_reference_iff` — the lines that are read as references;
* `CatalogLint.Catalog.ofTrimmed_of_startsString`,
  `CatalogLint.Catalog.ofTrimmed_of_continuesString` — the reading of a string's lines;
* `CatalogLint.Catalog.marksFuzzy_ofTrimmed`, `CatalogLint.Catalog.comment?_ofTrimmed` — the reading
  of flags and comments.
-/

import CatalogLint.Catalog.Line
import CatalogLint.Proofs.Text.Trim
import Mathlib.Tactic.SplitIfs

set_option autoImplicit false

namespace CatalogLint

namespace Text

theorem startsWith_iff {text start : Text} : startsWith text start = true ↔ start <+: text :=
  List.isPrefixOf_iff_prefix

/-- What a text begins with is what can be dropped from its start. -/
theorem startsWith_iff_exists {text start : Text} :
    startsWith text start = true ↔ ∃ rest, text = start ++ rest := by
  rw [startsWith_iff]
  constructor
  · rintro ⟨rest, h⟩
    exact ⟨rest, h.symm⟩
  · rintro ⟨rest, h⟩
    exact ⟨rest, h.symm⟩

/-- The cut at the first separator, if there is one, and else the whole text. -/
theorem splitFirst_getD (isSeparator : Char → Bool) (text : Text) :
    (splitFirst isSeparator text).getD (text, []) =
      (text.takeWhile (!isSeparator ·), (text.dropWhile (!isSeparator ·)).tail) := by
  induction text with
  | nil => rfl
  | cons c text ih =>
      by_cases h : isSeparator c = true
      · simp [splitFirst, h]
      · cases hs : splitFirst isSeparator text with
        | none =>
            rw [hs, Option.getD_none, Prod.mk.injEq] at ih
            simp [splitFirst, h, hs, ← ih.1, ← ih.2]
        | some parts =>
            rw [hs, Option.getD_some] at ih
            simp [splitFirst, h, hs, ih]

end Text

namespace Catalog

/-! ### Lines as texts -/

/-- Whether the line opens an entry: without the blanks at its end it starts with `#: `. -/
def opensEntry (line : Text) : Bool := Text.startsWith (Text.trimEnd line) "#: "

/-- Whether the line, which has no blanks at its end, continues a string. -/
def continuesString (line : Text) : Bool := Text.startsWith line ['"']

/-- Whether the line starts as a keyword does. -/
def startsString (line : Text) : Bool := Text.startsWith line "msg"

/-- What stands before the first blank of the line. -/
def keywordOf (line : Text) : Text := line.takeWhile (!Text.isBlank ·)

/-- The string on the line: after a keyword, what follows the first blank, without the blanks around
it; otherwise the whole line. -/
def stringOf (line : Text) : Text :=
  if startsString line then Text.trim (line.dropWhile (!Text.isBlank ·)).tail else line

/-- Whether the text is a quoted string: two characters at least, the first and the last of them a
double quote. -/
def isQuoted (text : Text) : Bool :=
  2 ≤ text.length && text.head? = some '"' && text.getLast? = some '"'

/-- What stands between the quotes. -/
def unquoted (text : Text) : Text := text.tail.dropLast

/-- The keywords that open a string. -/
def isKnownKeyword (keyword : Text) : Bool :=
  keyword = "msgctxt" || keyword = "msgid" || keyword = "msgid_plural" || keyword = "msgstr" ||
    Text.startsWith keyword "msgstr["

/-- Whether the line, which has no blanks at its end, is malformed: it continues a string and is not
quoted, or it starts as a keyword does and its string is not quoted or its keyword is unknown. -/
def isMalformed (line : Text) : Bool :=
  (continuesString line && !isQuoted line) ||
    (startsString line && (!isQuoted (stringOf line) || !isKnownKeyword (keywordOf line)))

/-- What is wrong with a malformed line: its keyword if the string is well quoted. -/
def faultOf (line : Text) : Fault :=
  if isQuoted (stringOf line) then .unknownKeyword (keywordOf line) else .notQuoted line

/-! ### Quoted strings -/

theorem isQuoted_iff {text : Text} :
    isQuoted text = true ↔ ∃ inner, text = '"' :: (inner ++ ['"']) := by
  constructor
  · intro h
    simp only [isQuoted, Bool.and_eq_true, decide_eq_true_eq] at h
    obtain ⟨⟨hlength, hfirst⟩, hlast⟩ := h
    match text with
    | [] => simp at hlength
    | c :: rest =>
        obtain rfl : c = '"' := by simpa using hfirst
        have hne : rest ≠ [] := by
          rintro rfl
          simp at hlength
        have hend : rest.getLast? = some '"' := by
          rwa [List.getLast?_cons_of_ne_nil hne] at hlast
        obtain ⟨inner, rfl⟩ := List.getLast?_eq_some_iff.1 hend
        exact ⟨inner, rfl⟩
  · rintro ⟨inner, rfl⟩
    have hlast : ('"' :: (inner ++ ['"'])).getLast? = some '"' :=
      List.getLast?_concat (l := '"' :: inner)
    simp [isQuoted, hlast]

@[simp] theorem unquoted_quoted (inner : Text) : unquoted ('"' :: (inner ++ ['"'])) = inner := by
  simp [unquoted]

/-- Reading a quoted string. -/
theorem unquote_eq (text : Text) :
    unquote text =
      if isQuoted (Text.trim text) then some (unquoted (Text.trim text)) else none := by
  split
  · next h =>
    obtain ⟨inner, hinner⟩ := isQuoted_iff.1 h
    have hstart : Text.dropStart? ['"'] (Text.trim text) = some (inner ++ ['"']) :=
      Text.dropStart?_eq_some_iff.2 hinner
    rw [unquote, hstart, Option.bind_some, Text.dropEnd?_eq_some_iff.2 rfl, hinner, unquoted_quoted]
  · next h =>
    rw [Option.eq_none_iff_forall_ne_some]
    intro inner hinner
    obtain ⟨rest, hstart, hend⟩ := Option.bind_eq_some_iff.1 hinner
    rw [Text.dropStart?_eq_some_iff] at hstart
    rw [Text.dropEnd?_eq_some_iff] at hend
    exact h (isQuoted_iff.2 ⟨inner, by rw [hstart, hend]; rfl⟩)

/-- A line that continues a string has no blanks around it. -/
theorem trim_of_continuesString {line : Text} (htrim : Text.trimEnd line = line)
    (h : continuesString line = true) : Text.trim line = line := by
  obtain ⟨rest, rfl⟩ := Text.startsWith_iff_exists.1 h
  have hstart : Text.trimStart (['"'] ++ rest) = ['"'] ++ rest := by
    simp [Text.trimStart, Text.isBlank, Text.blankRanges, Text.RangeTable.includes,
      Text.RangeTable.includesNat]
  rw [Text.trim, hstart, htrim]

/-! ### The reading of a line -/

theorem isSome_if_some {α : Type} (p : Prop) [Decidable p] (a : α) (rest : Option α) :
    (if p then some a else rest).isSome = (decide p || rest.isSome) := by
  by_cases h : p <;> simp [h]

/-- The known keywords are those that open a string. -/
theorem isSome_ofKeyword? (keyword : Text) :
    (Field.ofKeyword? keyword).isSome = isKnownKeyword keyword := by
  -- the first form of several is one of the forms
  have hfirst : (decide (keyword = "msgstr[0]") || Text.startsWith keyword "msgstr[") =
      Text.startsWith keyword "msgstr[" := by
    by_cases h : keyword = "msgstr[0]"
    · rw [h]
      decide
    · rw [decide_eq_false h, Bool.false_or]
  simp only [Field.ofKeyword?, isSome_if_some, Bool.decide_eq_true, Option.isSome_none,
    Bool.or_false, isKnownKeyword, Bool.or_assoc, hfirst]

theorem ofTrimmed_of_startsString {line : Text} (h : startsString line = true) :
    Line.ofTrimmed line = Line.ofKeyword line := by
  obtain ⟨rest, rfl⟩ := Text.startsWith_iff_exists.1 h
  simp [Line.ofTrimmed, Text.dropStart?, Text.startsWith]

/-- The reading of a line that starts as a keyword does. -/
theorem ofKeyword_eq {line : Text} (h : startsString line = true) :
    Line.ofKeyword line =
      if isQuoted (stringOf line) then
        match Field.ofKeyword? (keywordOf line) with
        | some field => .keyword field (unquoted (stringOf line))
        | none => .faulty (.unknownKeyword (keywordOf line))
      else .faulty (.notQuoted line) := by
  have hstring : stringOf line = Text.trim (line.dropWhile (!Text.isBlank ·)).tail := if_pos h
  rw [Line.ofKeyword, Text.splitFirst_getD, hstring]
  simp only [unquote_eq]
  split_ifs <;> rfl

/-- The reading of a line that continues a string. -/
theorem ofTrimmed_of_continuesString {line : Text} (htrim : Text.trimEnd line = line)
    (h : continuesString line = true) :
    Line.ofTrimmed line =
      if isQuoted line then .string (unquoted line) else .faulty (.notQuoted line) := by
  have hquote : unquote line = if isQuoted line then some (unquoted line) else none := by
    rw [unquote_eq, trim_of_continuesString htrim h]
  have hreference : Text.dropStart? "#: " line = none := by
    obtain ⟨rest, rfl⟩ := Text.startsWith_iff_exists.1 h
    rfl
  rw [Line.ofTrimmed, hreference]
  simp only [hquote]
  rw [if_pos (show Text.startsWith line ['"'] = true from h)]
  split_ifs <;> rfl

/-- A line that neither starts nor continues a string is a comment of some kind, or says nothing. -/
theorem ofTrimmed_of_other {line : Text} (hstart : startsString line = false)
    (hcontinue : continuesString line = false) :
    (∃ place, Line.ofTrimmed line = .reference place) ∨
      (∃ list, Line.ofTrimmed line = .flags list) ∨
      (∃ text, Line.ofTrimmed line = .comment text) ∨ Line.ofTrimmed line = .other := by
  have hquote : ¬Text.startsWith line ['"'] = true := Bool.eq_false_iff.1 hcontinue
  have hkeyword : ¬Text.startsWith line "msg" = true := Bool.eq_false_iff.1 hstart
  rw [Line.ofTrimmed, if_neg hquote, if_neg hkeyword]
  cases Text.dropStart? "#: " line with
  | some place => exact Or.inl ⟨place, rfl⟩
  | none =>
      cases Text.dropStart? "#," line with
      | some list => exact Or.inr (Or.inl ⟨_, rfl⟩)
      | none =>
          by_cases hempty : line = "#"
          · exact Or.inr (Or.inr (Or.inl ⟨[], if_pos hempty⟩))
          · simp only [if_neg hempty]
            cases Text.dropStart? "# " line with
            | some text => exact Or.inr (Or.inr (Or.inl ⟨text, rfl⟩))
            | none => exact Or.inr (Or.inr (Or.inr rfl))

/-- A line that continues a string does not start one. -/
theorem startsString_of_continuesString {line : Text} (h : continuesString line = true) :
    startsString line = false := by
  obtain ⟨rest, rfl⟩ := Text.startsWith_iff_exists.1 h
  rfl

theorem stringOf_of_not_startsString {line : Text} (h : startsString line = false) :
    stringOf line = line := if_neg (by simp [h])

/-- **A line is at fault exactly when it is malformed.** -/
theorem fault?_ofTrimmed {line : Text} (htrim : Text.trimEnd line = line) :
    (Line.ofTrimmed line).fault? = if isMalformed line then some (faultOf line) else none := by
  cases hcontinue : continuesString line with
  | true =>
      have hstart := startsString_of_continuesString hcontinue
      have hstring := stringOf_of_not_startsString hstart
      rw [ofTrimmed_of_continuesString htrim hcontinue]
      cases hquoted : isQuoted line <;>
        simp [isMalformed, faultOf, hcontinue, hstart, hstring, hquoted, Line.fault?]
  | false =>
      cases hstart : startsString line with
      | true =>
          have hknown := isSome_ofKeyword? (keywordOf line)
          rw [ofTrimmed_of_startsString hstart, ofKeyword_eq hstart]
          cases hquoted : isQuoted (stringOf line) <;>
            cases hfield : Field.ofKeyword? (keywordOf line) <;>
            simp_all [isMalformed, faultOf, Line.fault?]
      | false =>
          have hnone : isMalformed line = false := by simp [isMalformed, hstart, hcontinue]
          rcases ofTrimmed_of_other hstart hcontinue with ⟨_, h⟩ | ⟨_, h⟩ | ⟨_, h⟩ | h <;>
            simp [h, hnone, Line.fault?]

/-- The string on a line that is not malformed is well quoted. -/
theorem isQuoted_stringOf {line : Text} (hgood : isMalformed line = false)
    (h : startsString line = true ∨ continuesString line = true) :
    isQuoted (stringOf line) = true := by
  rcases h with h | h
  · simp only [isMalformed, h, Bool.true_and, Bool.or_eq_false_iff, Bool.not_eq_false'] at hgood
    exact hgood.2.1
  · have hstart := startsString_of_continuesString h
    simp only [isMalformed, h, hstart, Bool.true_and, Bool.false_and, Bool.or_false,
      Bool.not_eq_false'] at hgood
    rwa [stringOf_of_not_startsString hstart]

/-- A line that starts a string and is not malformed. -/
theorem ofTrimmed_keyword {line : Text} (hgood : isMalformed line = false)
    (h : startsString line = true) :
    ∃ field, Field.ofKeyword? (keywordOf line) = some field ∧
      Line.ofTrimmed line = .keyword field (unquoted (stringOf line)) := by
  have hquoted := isQuoted_stringOf hgood (Or.inl h)
  have hknown : isKnownKeyword (keywordOf line) = true := by
    simp only [isMalformed, h, Bool.true_and, Bool.or_eq_false_iff, Bool.not_eq_false'] at hgood
    exact hgood.2.2
  rw [← isSome_ofKeyword?, Option.isSome_iff_exists] at hknown
  obtain ⟨field, hfield⟩ := hknown
  refine ⟨field, hfield, ?_⟩
  rw [ofTrimmed_of_startsString h, ofKeyword_eq h, if_pos hquoted, hfield]

/-- A line that continues a string and is not malformed. -/
theorem ofTrimmed_string {line : Text} (htrim : Text.trimEnd line = line)
    (hgood : isMalformed line = false) (h : continuesString line = true) :
    Line.ofTrimmed line = .string (unquoted (stringOf line)) := by
  have hstring := stringOf_of_not_startsString (startsString_of_continuesString h)
  have hquoted := isQuoted_stringOf hgood (Or.inr h)
  rw [hstring] at hquoted
  rw [ofTrimmed_of_continuesString htrim h, if_pos hquoted, hstring]

/-- What is wrong with a line, with or without blanks at its end. -/
theorem fault?_ofText (line : Text) :
    (Line.ofText line).fault? =
      if isMalformed (Text.trimEnd line) then some (faultOf (Text.trimEnd line)) else none :=
  fault?_ofTrimmed (Text.trimEnd_trimEnd line)

theorem fault?_ofText_eq_some_iff {line : Text} {fault : Fault} :
    (Line.ofText line).fault? = some fault ↔
      isMalformed (Text.trimEnd line) = true ∧ faultOf (Text.trimEnd line) = fault := by
  rw [fault?_ofText]
  split_ifs with h <;> simp [h]

theorem fault?_ofText_eq_none_iff {line : Text} :
    (Line.ofText line).fault? = none ↔ isMalformed (Text.trimEnd line) = false := by
  rw [fault?_ofText]
  split_ifs with h <;> simp [h]

/-- The lines that are read as references. -/
theorem ofText_eq_reference_iff {line place : Text} :
    Line.ofText line = .reference place ↔ Text.trimEnd line = "#: ".toList ++ place := by
  rw [Line.ofText, ← Text.dropStart?_eq_some_iff, Line.ofTrimmed]
  cases Text.dropStart? "#: " (Text.trimEnd line) with
  | some found => simp
  | none =>
      simp only [reduceCtorEq, iff_false]
      -- none of the other readings is a reference
      unfold Line.ofKeyword
      split_ifs <;> repeat' split
      all_goals simp

/-- The lines read as references are those that open an entry. -/
theorem opensEntry_iff {line : Text} :
    opensEntry line = true ↔ ∃ place, Line.ofText line = .reference place := by
  simp only [ofText_eq_reference_iff, opensEntry, Text.startsWith_iff_exists]

/-- **A line marks the entry as unsure exactly when it is a line of flags with that flag.** -/
theorem marksFuzzy_ofTrimmed (line : Text) :
    (Line.ofTrimmed line).marksFuzzy = true ↔
      ∃ list, line = "#,".toList ++ list ∧
        ∃ flag ∈ Text.splitOn ',' list, Text.trim flag = "fuzzy" := by
  cases h : Text.dropStart? "#," line with
  | some list =>
      obtain rfl := Text.dropStart?_eq_some_iff.1 h
      have hflags : Line.ofTrimmed ("#,".toList ++ list) = .flags (Text.splitOn ',' list) := rfl
      simp only [hflags, Line.marksFuzzy, List.any_eq_true, decide_eq_true_eq,
        List.append_cancel_left_eq, exists_eq_left']
  | none =>
      have hfuzzy : (Line.ofTrimmed line).marksFuzzy = false := by
        unfold Line.ofTrimmed Line.ofKeyword
        rw [h]
        split_ifs <;> repeat' split
        all_goals simp_all [Line.marksFuzzy]
      simp only [hfuzzy, Bool.false_eq_true, false_iff]
      rintro ⟨list, hline, -⟩
      rw [Text.dropStart?_eq_some_iff.2 hline] at h
      cases h

/-- The translator's comment on a line. -/
theorem comment?_ofTrimmed (line : Text) :
    (Line.ofTrimmed line).comment? =
      if line = "#" then some [] else Text.dropStart? "# " line := by
  by_cases hempty : line = "#"
  · rw [if_pos hempty, hempty]
    rfl
  · rw [if_neg hempty]
    cases h : Text.dropStart? "# " line with
    | some text =>
        obtain rfl := Text.dropStart?_eq_some_iff.1 h
        rfl
    | none =>
        unfold Line.ofTrimmed Line.ofKeyword
        rw [h]
        split_ifs <;> repeat' split
        all_goals simp_all [Line.comment?]

end Catalog

end CatalogLint
