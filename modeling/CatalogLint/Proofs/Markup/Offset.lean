/-
**A position in the mask of a text is a position in the text.**

The checks look for signs and line ends in the mask of a text, and show the text itself at the place
where they found one.  This is sound because the mask differs from the text inside of quoted spans
only, and there by the placeholder.  A character of a replacement is either left alone, or it
belongs to the image of one match; what a match of the mask looks like is known, so that a place
where the mask differs can be located between two guillemets.

Main definitions:

* `CatalogLint.Text.Rule.Shows` — what a replacement can show at a position of the text;
* `CatalogLint.Markup.InSpan` — a position strictly inside of a quoted span;
* `CatalogLint.Markup.Span.written` — a span as it stands in a text.

Main results:

* `CatalogLint.Text.shows_replaceAll` — **a character of a replacement** is that of the text, or one
  of the image of a match that covers it;
* `CatalogLint.Markup.getElem?_masked` — the image of a span, character by character;
* `CatalogLint.Markup.offsets_maskQuoted` — **the mask keeps every offset**.
-/

import CatalogLint.Proofs.Markup.OneLine

set_option autoImplicit false

namespace CatalogLint

/-! ### Replacing, position by position -/

namespace Text

/-- What a replacement shows at a position of the text: the character that stands there, or that of
the image of a match which covers the position. -/
def Rule.Shows (rule : Rule) (text : Text) (position : Nat) (shown : Option Char) : Prop :=
  shown = text[position]? ∨
    ∃ start length image, rule (text.drop start) = some (length, image) ∧
      start ≤ position ∧ position < start + length ∧ shown = image[position - start]?

theorem Rule.Shows.cons {rule : Rule} {text : Text} {position : Nat} {shown : Option Char}
    (h : rule.Shows text position shown) (c : Char) :
    rule.Shows (c :: text) (position + 1) shown := by
  obtain hsame | ⟨start, length, image, hmatch, hle, hlt, himage⟩ := h
  · exact .inl (by rw [hsame, List.getElem?_cons_succ])
  · exact .inr ⟨start + 1, length, image, hmatch, by omega, by omega,
      by rw [himage, Nat.add_sub_add_right]⟩

theorem shows_replaceFrom {rule : Rule} (hrule : rule.KeepsLength) (text : Text)
    (taken index : Nat) :
    rule.Shows text (taken + index) (replaceFrom rule taken text)[index]? := by
  induction text generalizing taken index with
  | nil => cases taken <;> exact .inl (by simp [replaceFrom])
  | cons c text ih =>
      cases taken with
      | succ taken =>
          rw [replaceFrom, Nat.add_right_comm]
          exact (ih taken index).cons c
      | zero =>
          rw [replaceFrom, Nat.zero_add]
          split
          · next length image hmatch =>
            obtain ⟨hpos, -, rfl⟩ := hrule _ _ _ hmatch
            rcases Nat.lt_or_ge index image.length with hlt | hge
            · refine .inr ⟨0, image.length, image, hmatch, Nat.zero_le _, by omega, ?_⟩
              rw [List.getElem?_append_left hlt, Nat.sub_zero]
            · -- after the image the text goes on where the match ends
              have hposition : image.length - 1 + (index - image.length) + 1 = index := by omega
              have hafter := (ih (image.length - 1) (index - image.length)).cons c
              rwa [hposition, ← List.getElem?_append_right hge] at hafter
          · cases index with
            | zero => exact .inl rfl
            | succ index =>
                have hafter := (ih 0 index).cons c
                rwa [Nat.zero_add] at hafter

/-- **A character of a replacement** is that of the text at the same position, or it is one of the
image of a match that covers the position. -/
theorem shows_replaceAll {rule : Rule} (hrule : rule.KeepsLength) (text : Text) (index : Nat) :
    rule.Shows text index (replaceAll rule text)[index]? := by
  have hshows := shows_replaceFrom hrule text 0 index
  rwa [Nat.zero_add] at hshows

end Text

namespace Markup

/-! ### Spans, position by position -/

/-- The span as it stands in a text. -/
def Span.written (span : Span) : Text := ['«', span.first] ++ span.inner ++ [span.last, '»']

/-- The position is strictly inside of a quoted span of the text: after an opening guillemet and a
blank, before a blank and a closing guillemet, and with no newline between the two blanks. -/
def InSpan (text : Text) (index : Nat) : Prop :=
  ∃ opening closing, opening + 1 < index ∧ index < closing - 1 ∧
    text[opening]? = some '«' ∧ text[closing]? = some '»' ∧
    (∃ blank, Text.isBlank blank = true ∧ text[opening + 1]? = some blank) ∧
    (∃ blank, Text.isBlank blank = true ∧ text[closing - 1]? = some blank) ∧
    ∀ between, opening + 2 ≤ between → between ≤ closing - 2 → text[between]? ≠ some '\n'

/-- A character of the image of a span is the one that stands in the text, or it is the placeholder
and stands between the blanks. -/
theorem getElem?_masked (span : Span) (index : Nat) :
    span.masked[index]? = span.written[index]? ∨
      2 ≤ index ∧ index < 2 + span.inner.length ∧ span.masked[index]? = some placeholder := by
  rw [Span.masked, Span.written, List.append_assoc, List.append_assoc]
  rcases Nat.lt_or_ge index 2 with hlt | hge
  · exact .inl (by rw [List.getElem?_append_left hlt, List.getElem?_append_left hlt])
  · obtain ⟨offset, rfl⟩ := Nat.exists_eq_add_of_le' hge
    simp only [List.cons_append, List.nil_append, List.getElem?_cons_succ]
    rcases Nat.lt_or_ge offset span.inner.length with hinner | hafter
    · refine .inr ⟨hge, by omega, ?_⟩
      rw [List.getElem?_append_left (by rwa [List.length_replicate]), List.getElem?_replicate,
        if_pos hinner]
    · exact .inl (by
        rw [List.getElem?_append_right (by rwa [List.length_replicate]),
          List.getElem?_append_right hafter, List.length_replicate])

/-- Where a match of the mask starts in a text, all that is between the two blanks of the span is
inside of it. -/
theorem inSpan_of_atStart {text : Text} {start : Nat} {span : Span}
    (h : Span.atStart (text.drop start) = some span) {index : Nat} (hafter : start + 2 ≤ index)
    (hbefore : index < start + 2 + span.inner.length) : InSpan text index := by
  obtain ⟨hnewline, hfirst, hlast, rest, htext⟩ := Span.atStart_eq_some h
  have hat : ∀ offset, text[start + offset]? =
      ('«' :: span.first :: (span.inner ++ span.last :: '»' :: rest))[offset]? := by
    intro offset
    rw [← htext, List.getElem?_drop]
  refine ⟨start, start + (span.inner.length + 3), by omega, by omega, ?_, ?_, ?_, ?_, ?_⟩
  · exact hat 0
  · rw [hat, List.getElem?_cons_succ, List.getElem?_cons_succ,
      List.getElem?_append_right (Nat.le_succ _), Nat.succ_sub (Nat.le_refl _), Nat.sub_self]
    rfl
  · exact ⟨span.first, hfirst, hat 1⟩
  · refine ⟨span.last, hlast, ?_⟩
    have hlastAt : start + (span.inner.length + 3) - 1 = start + (span.inner.length + 2) := by omega
    rw [hlastAt, hat, List.getElem?_cons_succ, List.getElem?_cons_succ,
      List.getElem?_append_right (Nat.le_refl _), Nat.sub_self]
    rfl
  · intro between hle hge hfound
    obtain ⟨offset, rfl⟩ : ∃ offset, between = start + (offset + 2) :=
      ⟨between - start - 2, by omega⟩
    rw [hat, List.getElem?_cons_succ, List.getElem?_cons_succ,
      List.getElem?_append_left (by omega)] at hfound
    exact hnewline (List.mem_of_getElem? hfound)

/-! ### The mask, position by position -/

/-- What the mask of a text has to do with the text. -/
structure KeepsOffsets (text masked : Text) : Prop where
  /-- They have the same length. -/
  length : masked.length = text.length
  /-- At every position they have the same character, or the position is strictly inside of a quoted
  span and the mask has the placeholder there. -/
  characters : ∀ index, masked[index]? = text[index]? ∨
    masked[index]? = some placeholder ∧ InSpan text index
  /-- What is found in the mask, other than the placeholder, is in the text at the same offset. -/
  found : ∀ part start, placeholder ∉ part → part <+: masked.drop start → part <+: text.drop start

theorem getElem?_maskQuoted (text : Text) (index : Nat) :
    (maskQuoted text)[index]? = text[index]? ∨
      (maskQuoted text)[index]? = some placeholder ∧ InSpan text index := by
  rw [maskQuoted_eq]
  obtain hsame | ⟨start, length, image, hmatch, hle, hlt, himage⟩ :=
    Text.shows_replaceAll keepsLength_maskRule text index
  · exact .inl hsame
  · obtain ⟨span, hspan, heq⟩ := Option.map_eq_some_iff.1 hmatch
    cases heq
    rw [himage]
    obtain hwritten | ⟨hafter, hbefore, hplaceholder⟩ := getElem?_masked span (index - start)
    · -- outside of the blanks the image is what stands in the text
      obtain ⟨-, -, -, rest, htext⟩ := Span.atStart_eq_some hspan
      have hshape : text.drop start = span.written ++ rest := by simp [htext, Span.written]
      have hlength : span.written.length = span.length := by simp [Span.written, Span.length]
      refine .inl ?_
      rw [hwritten, ← List.getElem?_append_left (by omega), ← hshape, List.getElem?_drop,
        Nat.add_sub_cancel' hle]
    · exact .inr ⟨hplaceholder, inSpan_of_atStart hspan (by omega) (by omega)⟩

/-- **The mask keeps every offset.** -/
theorem offsets_maskQuoted (text : Text) : KeepsOffsets text (maskQuoted text) := by
  refine ⟨length_maskQuoted text, getElem?_maskQuoted text, ?_⟩
  intro part start hpart hprefix
  rw [List.prefix_iff_getElem?] at hprefix ⊢
  intro index hindex
  have hmasked := hprefix index hindex
  rw [List.getElem?_drop] at hmasked ⊢
  obtain hsame | ⟨hplaceholder, -⟩ := getElem?_maskQuoted text (start + index)
  · rw [← hsame, hmasked]
  · rw [hplaceholder, Option.some.injEq] at hmasked
    exact absurd (hmasked ▸ List.getElem_mem hindex) hpart

/-- The sign in the span is covered, the one after it is where it was. -/
example : maskQuoted "« é:t? » fin?" = "« xxxx » fin?".toList := by decide

end Markup

end CatalogLint
