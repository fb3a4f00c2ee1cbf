/-
**What the mask of a text covers.**

The quoted spans of a text are found from the left and do not overlap.  The mask shows the
placeholder at the places between the two blanks of a span, and the text everywhere else.  As a span
has a blank at each end of its content, a part without blanks is covered as a whole or not at all.

Main definitions:

* `CatalogLint.Markup.spans` — the quoted spans of a text, from the left;
* `CatalogLint.Markup.Masked` — a place in the content of a quoted span.

Main results:

* `CatalogLint.Markup.getElem?_maskQuoted_of_masked`,
  `CatalogLint.Markup.getElem?_maskQuoted_of_not_masked` — **the mask, place by place**;
* `CatalogLint.Markup.masked_succ` — the content of a span goes on up to a blank;
* `CatalogLint.Markup.prefix_drop_maskQuoted` — **a part without blanks is covered as a whole or not
  at all**.
-/

import CatalogLint.Proofs.Markup.Offset
import CatalogLint.Proofs.Text.Place

set_option autoImplicit false

namespace CatalogLint.Markup

/-! ### Quoted spans -/

/-- The quoted spans of a text, from the left. -/
def spans (text : Text) : List Text.Occurrence :=
  Text.occurrences (fun rest => (Span.atStart rest).map Span.length) text

/-- The place is in the content of a quoted span: behind the guillemet and the blank that open it,
and before the blank and the guillemet that close it. -/
def Masked (text : Text) (index : Nat) : Prop :=
  ∃ found ∈ spans text, found.before.length + 2 ≤ index ∧
    index + 2 < found.before.length + found.matched.length

theorem spans_eq (text : Text) : spans text = Text.occurrences maskRule.recogniser text := by
  have hpattern : (fun rest => (Span.atStart rest).map Span.length) = maskRule.recogniser := by
    funext rest
    rw [Text.Rule.recogniser, maskRule, Option.map_map]
    rfl
  rw [spans, hpattern]

/-- An occurrence in a text is that of a span. -/
structure Span.StandsIn (span : Span) (text : Text) (found : Text.Occurrence) : Prop where
  /-- The span is what the text begins with there. -/
  atStart : Span.atStart (found.matched ++ found.after) = some span
  /-- It takes as many characters as the occurrence. -/
  length : found.matched.length = span.length
  /-- Its characters are those of the text. -/
  getElem? : ∀ offset, offset < span.length →
    text[found.before.length + offset]? = span.written[offset]?
  first : Text.isBlank span.first = true
  last : Text.isBlank span.last = true

theorem Span.length_written (span : Span) : span.written.length = span.length := by
  simp [written, length]

/-- What is found as a span is a span. -/
theorem exists_standsIn {text : Text} {found : Text.Occurrence} (h : found ∈ spans text) :
    ∃ span : Span, span.StandsIn text found := by
  obtain ⟨length, hmatch, hmatched⟩ := Text.exists_match_of_mem_occurrences h
  obtain ⟨span, hspan, hlength⟩ := Option.map_eq_some_iff.1 hmatch
  obtain ⟨-, hfirst, hlast, rest, hrest⟩ := Span.atStart_eq_some hspan
  have hbegins : found.matched ++ found.after = span.written ++ rest := by
    rw [hrest, Span.written]
    simp
  have hwritten : found.matched = span.written := by
    rw [hmatched, hbegins, ← hlength, ← span.length_written, List.take_left]
  refine ⟨span, hspan, by rw [hwritten, span.length_written], fun offset hoffset => ?_, hfirst,
    hlast⟩
  rw [← span.length_written] at hoffset
  rw [← Text.append_of_mem_occurrences h, List.append_assoc,
    List.getElem?_append_right (Nat.le_add_right _ _), Nat.add_sub_cancel_left, hbegins,
    List.getElem?_append_left hoffset]

/-- Between the blanks the image of a span has the placeholder. -/
theorem Span.getElem?_masked_of_inner (span : Span) {offset : Nat} (hafter : 2 ≤ offset)
    (hbefore : offset + 2 < span.length) : span.masked[offset]? = some placeholder := by
  rw [length] at hbefore
  obtain ⟨offset, rfl⟩ := Nat.exists_eq_add_of_le' hafter
  rw [masked, List.append_assoc, List.cons_append, List.cons_append, List.nil_append,
    List.getElem?_cons_succ, List.getElem?_cons_succ,
    List.getElem?_append_left (by rw [List.length_replicate]; omega), List.getElem?_replicate,
    if_pos (by omega)]

/-! ### The mask, place by place -/

variable {text : Text} {index : Nat}

/-- Where a span stands, the mask shows its image. -/
theorem Span.StandsIn.getElem?_maskQuoted {span : Span} {found : Text.Occurrence}
    (h : span.StandsIn text found) (hfound : found ∈ spans text) (hcovers : found.Covers index) :
    (maskQuoted text)[index]? = span.masked[index - found.before.length]? := by
  rw [spans_eq] at hfound
  obtain ⟨image, hmatch, hshown⟩ :=
    Text.getElem?_replaceAll_of_covers keepsLength_maskRule hfound hcovers
  rw [maskRule, h.atStart, Option.map_some, Option.some.injEq, Prod.mk.injEq] at hmatch
  exact hmatch.2 ▸ hshown

/-- **The mask shows the placeholder in the content of a span.** -/
theorem getElem?_maskQuoted_of_masked (h : Masked text index) :
    (maskQuoted text)[index]? = some placeholder := by
  obtain ⟨found, hfound, hafter, hbefore⟩ := h
  obtain ⟨span, hspan⟩ := exists_standsIn hfound
  rw [hspan.getElem?_maskQuoted hfound ⟨by omega, by omega⟩]
  rw [hspan.length] at hbefore
  exact span.getElem?_masked_of_inner (by omega) (by omega)

/-- **The mask shows the text everywhere else.** -/
theorem getElem?_maskQuoted_of_not_masked (h : ¬ Masked text index) :
    (maskQuoted text)[index]? = text[index]? := by
  by_cases hcovered : ∃ found ∈ spans text, found.Covers index
  · obtain ⟨found, hfound, hcovers⟩ := hcovered
    obtain ⟨span, hspan⟩ := exists_standsIn hfound
    rw [hspan.getElem?_maskQuoted hfound hcovers]
    obtain ⟨hle, hlt⟩ := hcovers
    rw [hspan.length] at hlt
    obtain hwritten | ⟨hafter, hbefore, -⟩ := getElem?_masked span (index - found.before.length)
    · rw [hwritten, ← hspan.getElem? _ (by omega), Nat.add_sub_cancel' hle]
    · refine absurd ⟨found, hfound, by omega, ?_⟩ h
      rw [hspan.length, Span.length]
      omega
  · refine Text.getElem?_replaceAll_of_not_covers keepsLength_maskRule ?_
    intro found hfound hcovers
    exact hcovered ⟨found, spans_eq text ▸ hfound, hcovers⟩

/-! ### Where a content ends -/

/-- The character before a content is blank, and so is the one behind it. -/
theorem Span.StandsIn.blanks {span : Span} {found : Text.Occurrence}
    (h : span.StandsIn text found) :
    text[found.before.length + 1]? = some span.first ∧
      text[found.before.length + found.matched.length - 2]? = some span.last := by
  have hlength : found.matched.length - 2 = span.inner.length + 2 := by
    rw [h.length, Span.length]
    omega
  refine ⟨?_, ?_⟩
  · rw [h.getElem? 1 (by rw [Span.length]; omega)]
    rfl
  · rw [Nat.add_sub_assoc (by rw [h.length, Span.length]; omega), hlength,
      h.getElem? _ (by rw [Span.length]; omega), Span.written]
    simp

/-- The content of a span goes on up to a blank. -/
theorem masked_succ {c : Char} (h : Masked text index) (hc : text[index + 1]? = some c)
    (hblank : Text.isBlank c = false) : Masked text (index + 1) := by
  obtain ⟨found, hfound, hafter, hbefore⟩ := h
  obtain ⟨span, hspan⟩ := exists_standsIn hfound
  refine ⟨found, hfound, by omega, Nat.lt_of_le_of_ne hbefore fun hend => ?_⟩
  have hlast := hspan.blanks.2
  rw [← hend] at hlast
  rw [show index + 1 + 2 - 2 = index + 1 from rfl, hc, Option.some.injEq] at hlast
  rw [hlast, hspan.last] at hblank
  cases hblank

/-- A content begins behind a blank. -/
theorem masked_pred {c : Char} (h : Masked text (index + 1)) (hc : text[index]? = some c)
    (hblank : Text.isBlank c = false) : Masked text index := by
  obtain ⟨found, hfound, hafter, hbefore⟩ := h
  obtain ⟨span, hspan⟩ := exists_standsIn hfound
  refine ⟨found, hfound, Nat.le_of_lt_succ (Nat.lt_of_le_of_ne hafter fun hstart => ?_), by omega⟩
  have hfirst := hspan.blanks.1
  rw [show found.before.length + 1 = index by omega, hc, Option.some.injEq] at hfirst
  rw [hfirst, hspan.first] at hblank
  cases hblank

/-- A character of a part that stands in a text is one of the text. -/
theorem getElem?_of_prefix_drop {part : Text} {start offset : Nat}
    (hpart : part <+: text.drop start) (hoffset : offset < part.length) :
    text[start + offset]? = some part[offset] := by
  rw [← List.getElem?_drop]
  exact List.prefix_iff_getElem?.1 hpart offset hoffset

/-- **A part without blanks is covered as a whole or not at all.** -/
theorem masked_iff_of_prefix_drop {part : Text} {start offset : Nat}
    (hpart : part <+: text.drop start) (hblank : ∀ c ∈ part, Text.isBlank c = false)
    (hoffset : offset < part.length) : Masked text (start + offset) ↔ Masked text start := by
  induction offset with
  | zero => rw [Nat.add_zero]
  | succ offset ih =>
      rw [← ih (by omega), ← Nat.add_assoc]
      have hhere := getElem?_of_prefix_drop hpart (show offset < part.length by omega)
      have hnext := getElem?_of_prefix_drop hpart hoffset
      exact ⟨fun h => masked_pred h hhere (hblank _ (List.getElem_mem _)),
        fun h => masked_succ h hnext (hblank _ (List.getElem_mem _))⟩

/-- **The mask shows a part without blanks as it stands**, if it shows one of its characters. -/
theorem prefix_drop_maskQuoted {part : Text} {start offset : Nat}
    (hpart : part <+: text.drop start) (hblank : ∀ c ∈ part, Text.isBlank c = false)
    (hoffset : offset < part.length) (hshown : ¬ Masked text (start + offset)) :
    part <+: (maskQuoted text).drop start := by
  rw [masked_iff_of_prefix_drop hpart hblank hoffset] at hshown
  refine List.prefix_iff_getElem?.2 fun other hother => ?_
  rw [List.getElem?_drop, getElem?_maskQuoted_of_not_masked, getElem?_of_prefix_drop hpart hother]
  rwa [masked_iff_of_prefix_drop hpart hblank hother]

end CatalogLint.Markup
