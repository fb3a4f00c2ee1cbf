/-
**Texts without blanks at their ends.**

Trimming drops characters at the ends of a text as long as they are blank.  What is left is a part
of the text that neither begins nor ends with a blank, and such a part is left alone when it is
trimmed again.  Like all reading that goes on as long as a test holds, trimming stops where what is
left begins with a character that fails the test.

Main definition:

* `CatalogLint.Text.IsTrimmed` — a text neither begins nor ends with a blank.

Main results:

* `CatalogLint.Text.takeWhile_append_of_head`, `CatalogLint.Text.dropWhile_append_of_head` — where
  reading stops;
* `CatalogLint.Text.trimEnd_prefix`, `CatalogLint.Text.trim_infix` — what is left is a part of the
  text;
* `CatalogLint.Text.trimEnd_append_of_forall_isBlank`, `CatalogLint.Text.trimStart_append` — blanks
  that are put at an end are dropped;
* `CatalogLint.Text.isTrimmed_trim`, `CatalogLint.Text.IsTrimmed.trim_eq` — **trimmed texts are
  those that are left alone**.
-/

import CatalogLint.Text.Class
import Mathlib.Data.List.DropRight
import Mathlib.Data.List.TakeWhile

set_option autoImplicit false

namespace CatalogLint.Text

variable {text blanks rest : Text} {c : Char}

/-! ### Where reading stops -/

section
variable {p : Char → Bool} {front : Text} (hfront : ∀ c ∈ front, p c = true)
  (hrest : ∀ c ∈ rest.head?, p c = false)
include hfront hrest

theorem takeWhile_append_of_head : (front ++ rest).takeWhile p = front := by
  rw [List.takeWhile_append_of_pos hfront]
  cases rest with
  | nil => exact List.append_nil front
  | cons c rest =>
      rw [List.takeWhile_cons_of_neg (Bool.eq_false_iff.1 (hrest c rfl)), List.append_nil]

theorem dropWhile_append_of_head : (front ++ rest).dropWhile p = rest := by
  rw [List.dropWhile_append_of_pos hfront]
  cases rest with
  | nil => rfl
  | cons c rest => rw [List.dropWhile_cons_of_neg (Bool.eq_false_iff.1 (hrest c rfl))]

end

/-! ### The blanks at one end -/

theorem trimEnd_eq_rdropWhile (text : Text) : trimEnd text = text.rdropWhile isBlank := rfl

theorem trimEnd_prefix (text : Text) : trimEnd text <+: text := List.rdropWhile_prefix isBlank text

@[simp] theorem trimEnd_trimEnd (text : Text) : trimEnd (trimEnd text) = trimEnd text :=
  List.rdropWhile_idempotent isBlank text

/-- Blanks at the end of a text are dropped with those that were there. -/
theorem trimEnd_append_of_forall_isBlank (h : ∀ c ∈ blanks, isBlank c = true) :
    trimEnd (text ++ blanks) = trimEnd text := by
  have hreverse : ∀ c ∈ blanks.reverse, isBlank c = true := fun c hc => h c (List.mem_reverse.1 hc)
  rw [trimEnd, List.reverse_append, List.dropWhile_append_of_pos hreverse, trimEnd]

/-- A text without blanks at its end does not end in a blank. -/
theorem getLast?_trimEnd_ne (text : Text) (h : isBlank c = true) :
    (trimEnd text).getLast? ≠ some c := by
  intro hlast
  obtain ⟨hne, rfl⟩ := List.mem_getLast?_eq_getLast hlast
  exact List.rdropWhile_last_not isBlank text hne h

/-- Blanks at the beginning of a text are dropped up to its first other character. -/
theorem trimStart_append (h : ∀ c ∈ blanks, isBlank c = true) (hc : isBlank c = false) :
    trimStart (blanks ++ c :: rest) = c :: rest :=
  dropWhile_append_of_head h (by simpa using hc)

/-- What is dropped at the beginning are blanks. -/
theorem exists_blanks_of_trimStart (h : trimStart text = rest) :
    ∃ blanks, (∀ c ∈ blanks, isBlank c = true) ∧ text = blanks ++ rest :=
  ⟨text.takeWhile isBlank, fun _ hc => List.mem_takeWhile_imp hc,
    h ▸ List.takeWhile_append_dropWhile.symm⟩

/-! ### The blanks at both ends -/

theorem trim_infix (text : Text) : trim text <:+: text := by
  have hend := trimEnd_prefix (trimStart text)
  exact hend.isInfix.trans (List.dropWhile_suffix isBlank).isInfix

/-- A text with a character that is not blank is not trimmed away. -/
theorem trim_ne_nil (h : ∃ c ∈ text, isBlank c = false) : trim text ≠ [] := by
  intro htrim
  rw [trim, trimEnd_eq_rdropWhile, List.rdropWhile_eq_nil_iff] at htrim
  obtain ⟨c, hc, hblank⟩ := h
  obtain ⟨blanks, hblanks, htext⟩ := exists_blanks_of_trimStart (rfl : trimStart text = _)
  rw [htext] at hc
  refine Bool.false_ne_true (hblank.symm.trans ?_)
  exact (List.mem_append.1 hc).elim (hblanks c) (htrim c)

/-- The text neither begins nor ends with a blank. -/
structure IsTrimmed (text : Text) : Prop where
  head : ∀ c ∈ text.head?, isBlank c = false
  last : ∀ c ∈ text.getLast?, isBlank c = false

theorem isTrimmed_trim (text : Text) : IsTrimmed (trim text) where
  head c hc := by
    have hstart := List.head?_dropWhile_not isBlank text
    obtain ⟨rest, htrim⟩ := trimEnd_prefix (trimStart text)
    -- what is left at the end begins with the same character
    have hhead : (trimStart text).head? = some c := by
      rw [← htrim, List.head?_append, ← trim, hc, Option.some_or]
    rw [trimStart] at hhead
    rw [hhead] at hstart
    exact hstart
  last c hc := Bool.eq_false_iff.2 fun hblank => getLast?_trimEnd_ne _ hblank hc

theorem IsTrimmed.trim_eq (h : IsTrimmed text) : trim text = text := by
  have hstart : trimStart text = text := by
    refine List.dropWhile_eq_self_iff.2 fun hlength => Bool.eq_false_iff.1 (h.head _ ?_)
    rw [List.head?_eq_getElem?, List.getElem?_eq_getElem hlength]
    rfl
  have hend : trimEnd text = text := by
    refine List.rdropWhile_eq_self_iff.2 fun hne => Bool.eq_false_iff.1 (h.last _ ?_)
    exact List.getLast?_eq_getLast_of_ne_nil hne
  rw [trim, hstart, hend]

end CatalogLint.Text
