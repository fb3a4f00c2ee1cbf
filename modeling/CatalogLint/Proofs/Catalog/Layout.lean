/-
**The layout of a catalog file does not matter.**

A line of a file is read without the blanks at its end, and so is the line that an error shows.
Hence all that counts is how many lines there are and what is left of each of them.  A carriage
return before a newline, and any other blanks there, change neither; nor does a byte order mark
before the first line, or a newline after the last one.

Main definitions:

* `CatalogLint.Text.IsPadded` — a text has been made from another one by blanks before its newlines;
* `CatalogLint.Text.withReturns` — a text with a carriage return before each newline;
* `CatalogLint.Catalog.LayoutIndependent` — a content and its other layouts are read alike.

Main results:

* `CatalogLint.Text.IsPadded.map_trimEnd_linesFrom` — **blanks before newlines are no part of a
  line, once it is trimmed**;
* `CatalogLint.Text.map_trimEnd_linesFrom_newline` — nor is a newline after the last line;
* `CatalogLint.Catalog.parse_congr` — contents with the same trimmed lines are read alike;
* `CatalogLint.Catalog.layoutIndependent` — **the layout of a content does not matter**.
-/

import CatalogLint.Proofs.Catalog.Composition

set_option autoImplicit false

namespace CatalogLint

/-! ### Blanks at the ends of lines -/

namespace Text

/-- The second text has been made from the first one by blanks before some of its newlines. -/
inductive IsPadded : Text → Text → Prop
  /-- Nothing is added to the empty text. -/
  | nil : IsPadded [] []
  /-- Nothing is added before this character, be it a newline or not. -/
  | same {text padded : Text} (c : Char) (h : IsPadded text padded) :
      IsPadded (c :: text) (c :: padded)
  /-- Blanks other than newlines are added before a newline. -/
  | newline {text padded blanks : Text} (hblanks : ∀ c ∈ blanks, isBlank c = true ∧ c ≠ '\n')
      (h : IsPadded text padded) : IsPadded ('\n' :: text) (blanks ++ '\n' :: padded)

/-- The text with a carriage return before each newline. -/
def withReturns (text : Text) : Text :=
  text.flatMap fun c => if c = '\n' then ['\r', '\n'] else [c]

theorem IsPadded.refl (text : Text) : IsPadded text text := by
  induction text with
  | nil => exact .nil
  | cons c text ih => exact .same c ih

/-- A carriage return before a newline is a blank there. -/
theorem isPadded_withReturns (text : Text) : IsPadded text (withReturns text) := by
  induction text with
  | nil => exact .nil
  | cons c text ih =>
      rw [withReturns, List.flatMap_cons]
      split
      · next hc =>
        subst hc
        have hreturn : ∀ c ∈ ['\r'], isBlank c = true ∧ c ≠ '\n' := by decide
        exact .newline hreturn ih
      · exact .same c ih

/-- A carriage return that belongs to the line end would have been trimmed all the same. -/
theorem trimEnd_closeLine (reversed : Text) :
    trimEnd (closeLine reversed) = trimEnd reversed.reverse := by
  unfold closeLine
  split
  · next reversed =>
    rw [List.reverse_cons, trimEnd_append_of_forall_isBlank (by decide)]
  · rfl

/-- **Blanks before newlines are no part of a line, once it is trimmed.** -/
theorem IsPadded.map_trimEnd_linesFrom {text padded : Text} (h : IsPadded text padded)
    (reversed : Text) :
    (linesFrom reversed padded).map trimEnd = (linesFrom reversed text).map trimEnd := by
  induction h generalizing reversed with
  | nil => rfl
  | same c _ ih =>
      rw [linesFrom, linesFrom]
      split
      · rw [List.map_cons, List.map_cons, ih]
      · exact ih _
  | @newline text padded blanks hblanks _ ih =>
      have hnewline : '\n' ∉ blanks := fun hmem => (hblanks _ hmem).2 rfl
      have hline :
          trimEnd (closeLine (blanks.reverse ++ reversed)) = trimEnd (closeLine reversed) := by
        rw [trimEnd_closeLine, trimEnd_closeLine, List.reverse_append, List.reverse_reverse,
          trimEnd_append_of_forall_isBlank fun c hc => (hblanks c hc).1]
      rw [linesFrom_append_newline _ _ _ hnewline, linesFrom, if_pos rfl, List.map_cons,
        List.map_cons, ih, hline]

/-- A newline after the last line is no part of it; `reversed` is the beginning of that line if
nothing follows. -/
theorem map_trimEnd_linesFrom_newline {text reversed : Text} (hne : text = [] → reversed ≠ [])
    (hlast : text.getLast? ≠ some '\n') :
    (linesFrom reversed (text ++ ['\n'])).map trimEnd = (linesFrom reversed text).map trimEnd := by
  induction text generalizing reversed with
  | nil =>
      have hclosed : linesFrom reversed ['\n'] = [closeLine reversed] := rfl
      have hopen : linesFrom reversed [] = [reversed.reverse] := if_neg (by simpa using hne rfl)
      rw [List.nil_append, hclosed, hopen, List.map_singleton, List.map_singleton,
        trimEnd_closeLine]
  | cons c text ih =>
      have hrest : text.getLast? ≠ some '\n' := by
        cases text with
        | nil => simp
        | cons d text => rwa [List.getLast?_cons_cons] at hlast
      rw [List.cons_append, linesFrom, linesFrom]
      by_cases hc : c = '\n'
      · have hmore : text ≠ [] := by
          rintro rfl
          exact hlast (by rw [hc]; rfl)
        rw [if_pos hc, if_pos hc, List.map_cons, List.map_cons,
          ih (fun hempty => absurd hempty hmore) hrest]
      · rw [if_neg hc, if_neg hc, ih (fun _ => List.cons_ne_nil _ _) hrest]

end Text

/-! ### Files in other layouts -/

namespace Catalog

variable {content : Text}

/-- **All that counts are the trimmed lines of a content.** -/
theorem parse_congr (path : Path) {other : Text}
    (h : (contentLines other).map Text.trimEnd = (contentLines content).map Text.trimEnd) :
    parse path other = parse path content := by
  have hread (text : Text) : (contentLines text).map Line.ofText =
      ((contentLines text).map Text.trimEnd).map Line.ofTrimmed := by
    rw [List.map_map]
    rfl
  have hlines : (contentLines other).map Line.ofText = (contentLines content).map Line.ofText := by
    rw [hread, hread, h]
  rw [contentLines, contentLines] at hlines
  rw [parse, parse, readEntries, readEntries, hlines]

/-- What is added before a newline is no byte order mark. -/
theorem isPadded_dropByteOrderMark {padded : Text} (h : Text.IsPadded content padded) :
    Text.IsPadded (dropByteOrderMark content) (dropByteOrderMark padded) := by
  cases h with
  | nil => exact .nil
  | same c h =>
      rw [dropByteOrderMark_cons, dropByteOrderMark_cons]
      split
      · exact h
      · exact .same c h
  | @newline text padded blanks hblanks h =>
      have hnone : dropByteOrderMark (blanks ++ '\n' :: padded) = blanks ++ '\n' :: padded := by
        cases blanks with
        | nil => rfl
        | cons c blanks =>
            rw [List.cons_append, dropByteOrderMark_cons, if_neg]
            rintro rfl
            exact absurd (hblanks _ List.mem_cons_self).1 (by decide)
      rw [hnone]
      exact .newline hblanks h

theorem parse_of_isPadded (path : Path) {padded : Text} (h : Text.IsPadded content padded) :
    parse path padded = parse path content :=
  parse_congr path ((isPadded_dropByteOrderMark h).map_trimEnd_linesFrom [])

theorem dropByteOrderMark_eq_self (h : content.head? ≠ some '\uFEFF') :
    dropByteOrderMark content = content := by
  cases content with
  | nil => rfl
  | cons c content =>
      rw [dropByteOrderMark_cons, if_neg]
      rintro rfl
      exact h rfl

/-- A content and its other layouts are read alike: they give the same entries or the same error. -/
structure LayoutIndependent (path : Path) (content : Text) : Prop where
  /-- Newlines may have carriage returns before them. -/
  returns : parse path (Text.withReturns content) = parse path content
  /-- The content may follow a byte order mark. -/
  byteOrderMark : parse path ('\uFEFF' :: content) = parse path content
  /-- Some of the newlines may have blanks before them. -/
  blanks (padded : Text) (h : Text.IsPadded content padded) :
    parse path padded = parse path content
  /-- The newline at the end may be missing, unless the last line is empty. -/
  lastNewline (body : Text) (hbody : content = body ++ ['\n']) (hlast : ¬ Text.EndsLine body) :
    parse path body = parse path content

/-- **The layout of a content does not matter.** -/
theorem layoutIndependent (path : Path) (h : content.head? ≠ some '\uFEFF') :
    LayoutIndependent path content := by
  have hcontent := dropByteOrderMark_eq_self h
  refine ⟨parse_of_isPadded path (Text.isPadded_withReturns content), ?byteOrderMark,
    fun padded => parse_of_isPadded path, fun body hbody hlast => ?lastNewline⟩
  case byteOrderMark =>
    refine parse_congr path ?_
    rw [contentLines, contentLines, hcontent, dropByteOrderMark_cons, if_pos rfl]
  case lastNewline =>
    obtain ⟨hne, hlast⟩ := not_or.1 hlast
    have hbodyMark : body.head? ≠ some '\uFEFF' := by
      rwa [hbody, List.head?_append_of_ne_nil _ hne] at h
    refine parse_congr path ?_
    rw [contentLines, contentLines, hcontent, dropByteOrderMark_eq_self hbodyMark, hbody]
    exact (Text.map_trimEnd_linesFrom_newline (fun hempty => absurd hempty hne) hlast).symm

/-- A file whose third line lacks a quote. -/
def unquotedContent : Text := "\n#: a\nmsgid \"x\nmsgstr \"y\"\n"

def unquotedError : ParseError := .malformed ⟨"a.po"⟩ 3 (.notQuoted "msgid \"x")

theorem layoutIndependent_unquoted :
    unquotedContent.head? ≠ some '\uFEFF' ∧
      parse ⟨"a.po"⟩ unquotedContent = .error unquotedError ∧
      parse ⟨"a.po"⟩ (Text.withReturns unquotedContent) = .error unquotedError ∧
      parse ⟨"a.po"⟩ ('\uFEFF' :: unquotedContent) = .error unquotedError ∧
      parse ⟨"a.po"⟩ ("\u00A0\t\r".toList ++ unquotedContent) = .error unquotedError ∧
      parse ⟨"a.po"⟩ "\n#: a\nmsgid \"x\nmsgstr \"y\"" = .error unquotedError := by
  have hmark : unquotedContent.head? ≠ some '\uFEFF' := by decide
  have hread : parse ⟨"a.po"⟩ unquotedContent = .error unquotedError := by rfl
  have hlayout := layoutIndependent ⟨"a.po"⟩ hmark
  have hpadded : Text.IsPadded unquotedContent ("\u00A0\t\r".toList ++ unquotedContent) :=
    .newline (by decide) (.refl _)
  exact ⟨hmark, hread, hlayout.returns.trans hread, hlayout.byteOrderMark.trans hread,
    (hlayout.blanks _ hpadded).trans hread,
    (hlayout.lastNewline _ (by rfl) (by rw [Text.EndsLine]; decide)).trans hread⟩

end Catalog

end CatalogLint
