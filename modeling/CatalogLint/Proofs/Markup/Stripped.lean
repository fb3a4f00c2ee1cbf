/-
**A text without its quoted spans.**

Without its spans a text shows the characters outside them, and nothing else.  So what is read there
is read in the text, at places that may have spans between them.  Right behind a span stands a
closing guillemet, and no word reaches over it.

Main definition:

* `CatalogLint.Markup.outside` — the places of a text outside its quoted spans.

Main results:

* `CatalogLint.Markup.map_getElem?_outside` — **what a text shows without its spans**;
* `CatalogLint.Markup.mem_outside_or_getElem?_eq_closing` — what stands before a place outside the
  spans.
-/

import CatalogLint.Proofs.Markup.Remasked

set_option autoImplicit false

namespace CatalogLint.Markup

instance (found : Text.Occurrence) (index : Nat) : Decidable (found.Covers index) :=
  inferInstanceAs (Decidable (_ ∧ _))

/-- The places of the text outside its quoted spans, in order. -/
def outside (text : Text) : List Nat :=
  (List.range text.length).filter fun index => ∀ found ∈ spans text, ¬found.Covers index

variable {text rest : Text} {span : Span} {index : Nat}

theorem mem_outside_iff :
    index ∈ outside text ↔ index < text.length ∧ ∀ found ∈ spans text, ¬found.Covers index := by
  rw [outside, List.mem_filter, List.mem_range, decide_eq_true_iff]

theorem pairwise_outside (text : Text) : (outside text).Pairwise (· < ·) :=
  List.Pairwise.filter _ List.pairwise_lt_range

/-! ### The places, step by step -/

/-- Where the spans of a text are some that end in its beginning and those of the rest, the places
outside them are those of the two parts. -/
theorem outside_append {front : Text} {early : List Text.Occurrence}
    (hspans : spans (front ++ rest) = early ++ (spans rest).map (Text.Occurrence.behind front))
    (hearly : ∀ found ∈ early, found.before.length + found.matched.length ≤ front.length) :
    outside (front ++ rest) =
      (List.range front.length).filter (fun index => ∀ found ∈ early, ¬found.Covers index) ++
        (outside rest).map (front.length + ·) := by
  rw [outside, List.length_append, List.range_add, List.filter_append, List.filter_map, outside]
  congr 1
  · refine List.filter_congr fun index hindex => decide_eq_decide.2 ?_
    rw [hspans, List.forall_mem_append, List.forall_mem_map]
    refine and_iff_left fun found _ hcovers => ?_
    have hle := (Text.Occurrence.covers_behind.1 hcovers).1
    exact Nat.not_lt.2 hle (List.mem_range.1 hindex)
  · refine congrArg _ (List.filter_congr fun index _ => decide_eq_decide.2 ?_)
    rw [hspans, List.forall_mem_append, List.forall_mem_map]
    constructor
    · rintro ⟨-, hrest⟩ found hfound hcovers
      refine hrest found hfound (Text.Occurrence.covers_behind.2 ⟨Nat.le_add_right _ _, ?_⟩)
      rwa [Nat.add_sub_cancel_left]
    · intro hrest
      refine ⟨fun found hfound hcovers => ?_, fun found hfound hcovers => hrest found hfound ?_⟩
      · exact Nat.not_lt.2 (Nat.le_trans (hearly found hfound) (Nat.le_add_right _ _)) hcovers.2
      · have hcovers := (Text.Occurrence.covers_behind.1 hcovers).2
        rwa [Nat.add_sub_cancel_left] at hcovers

theorem outside_cons {c : Char} (h : Span.atStart (c :: text) = none) :
    outside (c :: text) = 0 :: (outside text).map (1 + ·) := by
  have hsplit := @outside_append text [c] [] (spans_cons h) (List.forall_mem_nil _)
  simpa using hsplit

theorem outside_written (h : Span.atStart (span.written ++ rest) = some span) :
    outside (span.written ++ rest) = (outside rest).map (span.written.length + ·) := by
  have hcovered : (List.range span.written.length).filter (fun index =>
      ∀ found ∈ [Text.Occurrence.mk [] span.written rest], ¬found.Covers index) = [] := by
    rw [List.filter_eq_nil_iff]
    intro index hindex hfree
    rw [decide_eq_true_iff, List.forall_mem_singleton] at hfree
    exact hfree ⟨Nat.zero_le _, by simpa using List.mem_range.1 hindex⟩
  rw [@outside_append rest span.written [⟨[], span.written, rest⟩] (spans_written h) (by simp),
    hcovered, List.nil_append]

/-- **What a text shows without its spans.** -/
theorem map_getElem?_outside (text : Text) :
    (outside text).map (text[·]?) = (stripQuoted text).map some := by
  induction text using Span.inductionOn with
  | nil => rfl
  | kept c text hnone ih =>
      rw [outside_cons hnone, stripQuoted_eq_spanRule, replaceAll_spanRule_cons hnone,
        List.map_cons, List.map_map, List.map_cons, ← stripQuoted_eq_spanRule, ← ih]
      refine congrArg _ (List.map_congr_left fun index _ => ?_)
      rw [Function.comp_apply, Nat.add_comm, List.getElem?_cons_succ]
  | span span rest _ hspan ih =>
      rw [outside_written hspan, stripQuoted_eq_spanRule, replaceAll_spanRule_written hspan,
        List.map_map, List.nil_append, ← stripQuoted_eq_spanRule, ← ih]
      refine List.map_congr_left fun index _ => ?_
      rw [Function.comp_apply, List.getElem?_append_right (Nat.le_add_right _ _),
        Nat.add_sub_cancel_left]

/-- The last character of a span is a closing guillemet. -/
theorem Span.StandsIn.getElem?_closing {found : Text.Occurrence} (h : span.StandsIn text found)
    (hlast : index + 1 = found.before.length + found.matched.length) :
    text[index]? = some '»' := by
  rw [h.length, Span.length] at hlast
  obtain rfl : index = found.before.length + (span.inner.length + 3) := by omega
  rw [h.getElem? _ (by rw [Span.length]; omega), Span.written]
  simp

/-- What stands before a place outside the spans is outside, too, or it closes a span. -/
theorem mem_outside_or_getElem?_eq_closing (h : index + 1 ∈ outside text) :
    index ∈ outside text ∨ text[index]? = some '»' := by
  obtain ⟨hlt, hfree⟩ := mem_outside_iff.1 h
  rw [mem_outside_iff, and_iff_right (Nat.lt_of_succ_lt hlt), or_iff_not_imp_left]
  intro hcovered
  obtain ⟨found, hfound, hle, hcovers⟩ : ∃ found ∈ spans text, found.Covers index := by
    simpa using hcovered
  obtain ⟨span, hspan⟩ := exists_standsIn hfound
  -- the span does not take the place behind, so it ends here
  refine hspan.getElem?_closing (Nat.le_antisymm hcovers (Nat.not_lt.1 fun hnext => ?_))
  exact hfree found hfound ⟨Nat.le_succ_of_le hle, hnext⟩

end CatalogLint.Markup
