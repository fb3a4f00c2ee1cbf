/-
The lines of a text.

A line ends at a newline, and a carriage return right before that newline belongs to the line end.
A text that does not end in a newline has a last line without one, which keeps a carriage return at
its end.

* `CatalogLint.Text.lines` — the lines of a text, without their line ends;
* `CatalogLint.Text.unlines` — the text of some lines, each ended by a newline.

Main statements: `lines_unlines`, `lines_joinWith_newline`, lines that are written can be read back,
with a newline after each of them or only between them.
-/

import CatalogLint.Text.Basic

set_option autoImplicit false

namespace CatalogLint.Text

/-- The line whose characters, in reverse, stand before a newline. -/
def closeLine : Text → Text
  | '\r' :: reversed => reversed.reverse
  | reversed => reversed.reverse

/-- The lines of a text that continues a line whose characters so far are given in reverse. -/
def linesFrom (reversed : Text) : Text → List Text
  | [] => if reversed.isEmpty then [] else [reversed.reverse]
  | c :: text =>
    if c = '\n' then closeLine reversed :: linesFrom [] text else linesFrom (c :: reversed) text

/-- The lines of a text, without their line ends. -/
def lines (text : Text) : List Text := linesFrom [] text

/-- The text of some lines, each ended by a newline. -/
def unlines (lines : List Text) : Text := lines.flatMap (· ++ ['\n'])

theorem linesFrom_append_newline (reversed line text : Text) (h : '\n' ∉ line) :
    linesFrom reversed (line ++ '\n' :: text) =
      closeLine (line.reverse ++ reversed) :: linesFrom [] text := by
  induction line generalizing reversed with
  | nil => simp [linesFrom]
  | cons c line ih =>
    simp only [List.mem_cons, not_or] at h
    simp [linesFrom, Ne.symm h.1, ih (c :: reversed) h.2]

theorem closeLine_reverse {line : Text} (h : line.getLast? ≠ some '\r') :
    closeLine line.reverse = line := by
  unfold closeLine
  split
  · next reversed heq =>
    have : line = reversed.reverse ++ ['\r'] := by simpa using congrArg List.reverse heq
    simp [this] at h
  · simp

/-- Lines that are ended by newlines can be read back one by one, whatever follows them. -/
theorem lines_unlines_append {texts : List Text}
    (h : ∀ line ∈ texts, '\n' ∉ line ∧ line.getLast? ≠ some '\r') (text : Text) :
    lines (unlines texts ++ text) = texts ++ lines text := by
  induction texts with
  | nil => rfl
  | cons line texts ih =>
    obtain ⟨hnew, hret⟩ := h line List.mem_cons_self
    have hrest := ih fun other hother => h other (List.mem_cons_of_mem _ hother)
    have hsplit : unlines (line :: texts) ++ text = line ++ '\n' :: (unlines texts ++ text) := by
      simp [unlines]
    rw [hsplit, lines, linesFrom_append_newline _ _ _ hnew, List.append_nil,
      closeLine_reverse hret, ← lines, hrest, List.cons_append]

/-- Lines without line ends of their own can be read back from their text. -/
theorem lines_unlines {texts : List Text}
    (h : ∀ line ∈ texts, '\n' ∉ line ∧ line.getLast? ≠ some '\r') :
    lines (unlines texts) = texts := by
  simpa [lines, linesFrom] using lines_unlines_append h []

theorem linesFrom_of_newline_not_mem {text : Text} (reversed : Text) (h : '\n' ∉ text)
    (hne : text ≠ []) : linesFrom reversed text = [reversed.reverse ++ text] := by
  induction text generalizing reversed with
  | nil => exact absurd rfl hne
  | cons c text ih =>
    simp only [List.mem_cons, not_or] at h
    rw [linesFrom, if_neg (Ne.symm h.1)]
    cases text with
    | nil => simp [linesFrom]
    | cons d text => simp [ih (c :: reversed) h.2]

/-- A text without newlines is a line, unless it is empty. -/
theorem lines_of_newline_not_mem {text : Text} (h : '\n' ∉ text) (hne : text ≠ []) :
    lines text = [text] := linesFrom_of_newline_not_mem [] h hne

/-- A newline between any two lines ends all of them but the last one. -/
theorem joinWith_newline_append_singleton (texts : List Text) (last : Text) :
    joinWith ['\n'] (texts ++ [last]) = unlines texts ++ last := by
  induction texts with
  | nil => simp [joinWith, unlines, List.intercalate]
  | cons line texts ih =>
    have hjoin : joinWith ['\n'] (line :: (texts ++ [last])) =
        line ++ ['\n'] ++ joinWith ['\n'] (texts ++ [last]) := by
      cases texts <;> simp [joinWith, List.intercalate, List.intersperse]
    rw [List.cons_append, hjoin, ih]
    simp [unlines]

/-- Lines can be read back from a text that has newlines only between them, unless the last one is
empty: then nothing stands after the last newline. -/
theorem lines_joinWith_newline {texts : List Text}
    (h : ∀ line ∈ texts, '\n' ∉ line ∧ line.getLast? ≠ some '\r')
    (hlast : texts.getLast? ≠ some []) : lines (joinWith ['\n'] texts) = texts := by
  rcases List.eq_nil_or_concat texts with rfl | ⟨front, last, rfl⟩
  · rfl
  · rw [List.concat_eq_append] at h hlast ⊢
    have hne : last ≠ [] := by simpa using hlast
    have hnew : '\n' ∉ last := (h last (by simp)).1
    have hfront := fun line hline => h line (List.mem_append_left _ hline)
    rw [joinWith_newline_append_singleton, lines_unlines_append hfront,
      lines_of_newline_not_mem hnew hne]

theorem newline_not_mem_of_mem_linesFrom {line : Text} {text : Text} :
    ∀ {reversed : Text}, '\n' ∉ reversed → line ∈ linesFrom reversed text → '\n' ∉ line := by
  induction text with
  | nil =>
    intro reversed hr h
    rw [linesFrom] at h
    split at h
    · simp at h
    · simp_all
  | cons c text ih =>
    intro reversed hr h
    rw [linesFrom] at h
    split at h
    · rcases List.mem_cons.mp h with rfl | h
      · unfold closeLine
        split
        · simp_all
        · simpa using hr
      · exact ih (by simp) h
    · next hc => exact ih (by simp [hr, Ne.symm hc]) h

/-- No line holds a newline. -/
theorem newline_not_mem_of_mem_lines {line text : Text} (h : line ∈ lines text) : '\n' ∉ line :=
  newline_not_mem_of_mem_linesFrom (by simp) h

end CatalogLint.Text
