/-
**A mask has the quoted spans of the text, at the same places.**

To mask a text takes guillemets and blanks out of it, those in the contents of its spans, and puts
placeholders there.  This could free a guillemet before a span to begin a longer one, or take away
the end of a span that has not been found yet.  But where no span begins in the text, none begins in
its mask: an end that the mask shows is also in the text, with no newline before it.  And where a
span begins, the placeholders neither end it nor hide its end.  So masking the mask changes nothing,
and without its spans the mask is the text without its spans.

Main definitions:

* `CatalogLint.Markup.spanRule` — the rule that replaces each span by an image;
* `CatalogLint.Markup.Span.blanked` — a span with placeholders for its content;
* `CatalogLint.Markup.KeepsSpans` — the mask of a text has the spans of the text.

Main results:

* `CatalogLint.Markup.isSome_close_of_maskQuoted` — an end that the mask shows is in the text;
* `CatalogLint.Markup.atStart_maskQuoted` — **the span with which a mask begins** is that of the
  text, blanked out;
* `CatalogLint.Markup.replaceAll_spanRule_maskQuoted` — what is done about the spans of a mask;
* `CatalogLint.Markup.keepsSpans_maskQuoted` — **a mask has the spans of the text**.
-/

import CatalogLint.Proofs.Markup.Masked
import CatalogLint.Proofs.Text.Search

set_option autoImplicit false

namespace CatalogLint.Markup

open Text (Rule)

/-! ### Rules for quoted spans -/

/-- The rule that replaces each quoted span by an image. -/
def spanRule (image : Span → Text) : Rule := fun text =>
  (Span.atStart text).map fun span => (span.length, image span)

/-- The span with placeholders for its content. -/
def Span.blanked (span : Span) : Span :=
  { span with inner := List.replicate span.inner.length placeholder }

/-- The span is one that can be found in a text. -/
structure Span.IsProper (span : Span) : Prop where
  /-- Its content stands on one line. -/
  line : '\n' ∉ span.inner
  first : Text.isBlank span.first = true
  last : Text.isBlank span.last = true

theorem stripQuoted_eq_spanRule (text : Text) :
    stripQuoted text = Text.replaceAll (spanRule fun _ => []) text := rfl

section
variable {image : Span → Text} {text rest : Text} {span : Span}

theorem spanRule_eq_none_iff : spanRule image text = none ↔ Span.atStart text = none :=
  Option.map_eq_none_iff

theorem Span.exists_written_of_atStart (h : Span.atStart text = some span) :
    span.IsProper ∧ ∃ rest, text = span.written ++ rest := by
  obtain ⟨hline, hfirst, hlast, rest, rfl⟩ := Span.atStart_eq_some h
  exact ⟨⟨hline, hfirst, hlast⟩, rest, by simp [written]⟩

theorem Span.written_ne_nil (span : Span) : span.written ≠ [] := List.cons_ne_nil _ _

/-- **Induction from span to span.** -/
theorem Span.inductionOn {motive : Text → Prop} (nil : motive [])
    (kept : ∀ c text, Span.atStart (c :: text) = none → motive text → motive (c :: text))
    (span : ∀ (span : Span) rest, span.IsProper → Span.atStart (span.written ++ rest) = some span →
      motive rest → motive (span.written ++ rest)) (text : Text) : motive text := by
  have htakes : Text.Recogniser.Takes fun text => (Span.atStart text).map Span.length := by
    intro text length hmatch
    obtain ⟨found, hfound, rfl⟩ := Option.map_eq_some_iff.1 hmatch
    obtain ⟨-, rest, rfl⟩ := Span.exists_written_of_atStart hfound
    rw [List.length_append, found.length_written, Span.length]
    omega
  induction text using htakes.inductionOn with
  | nil => exact nil
  | kept c text hnone ih => exact kept c text (Option.map_eq_none_iff.1 hnone) ih
  | taken part rest _ hmatch ih =>
      obtain ⟨found, hfound, hlength⟩ := Option.map_eq_some_iff.1 hmatch
      obtain ⟨hproper, behind, hsplit⟩ := Span.exists_written_of_atStart hfound
      rw [← found.length_written] at hlength
      obtain ⟨rfl, rfl⟩ := List.append_inj hsplit hlength.symm
      exact span found rest hproper hfound ih

/-- A span gives way to its image. -/
theorem replaceAll_spanRule_written (h : Span.atStart (span.written ++ rest) = some span) :
    Text.replaceAll (spanRule image) (span.written ++ rest) =
      image span ++ Text.replaceAll (spanRule image) rest := by
  refine Text.replaceAll_append_of_match span.written_ne_nil ?_
  rw [spanRule, h, span.length_written]
  rfl

/-- Where no span begins, the first character stays. -/
theorem replaceAll_spanRule_cons {c : Char} (h : Span.atStart (c :: text) = none) :
    Text.replaceAll (spanRule image) (c :: text) = c :: Text.replaceAll (spanRule image) text :=
  Text.replaceAll_cons (spanRule_eq_none_iff.2 h)

theorem atStart_eq_none_of_ne {c : Char} (h : c ≠ '«') : Span.atStart (c :: text) = none := by
  rw [Option.eq_none_iff_forall_ne_some]
  intro span hspan
  obtain ⟨-, -, -, rest, htext⟩ := Span.atStart_eq_some hspan
  exact h (List.cons.inj htext).1

theorem maskQuoted_cons {c : Char} (h : Span.atStart (c :: text) = none) :
    maskQuoted (c :: text) = c :: maskQuoted text := replaceAll_spanRule_cons h

theorem maskQuoted_written (h : Span.atStart (span.written ++ rest) = some span) :
    maskQuoted (span.written ++ rest) = span.masked ++ maskQuoted rest :=
  replaceAll_spanRule_written h

end

/-! ### Ends of spans -/

section
variable {text rest : Text} {span : Span}

/-- An end is found at once, or behind the first character on the same line. -/
theorem isSome_close_cons {c : Char} :
    (Span.close (c :: text)).isSome = true ↔
      Text.isBlank c = true ∧ text.head? = some '»' ∨
        c ≠ '\n' ∧ (Span.close text).isSome = true := by
  rw [Span.close]
  split
  · next hend =>
    rw [Bool.and_eq_true, beq_iff_eq] at hend
    exact iff_of_true rfl (.inl hend)
  · next hend =>
    rw [Bool.and_eq_true, beq_iff_eq] at hend
    rw [or_iff_right hend]
    split
    · next hnewline => exact iff_of_false Bool.false_ne_true fun h => h.1 hnewline
    · next hnewline => rw [Option.isSome_map, and_iff_right hnewline]

/-- Behind a content that stands on one line an end is found, if only that of the content. -/
theorem isSome_close_append {inner : Text} {last : Char} (hline : '\n' ∉ inner)
    (hlast : Text.isBlank last = true) (rest : Text) :
    (Span.close (inner ++ last :: '»' :: rest)).isSome = true := by
  induction inner with
  | nil => exact isSome_close_cons.2 (.inl ⟨hlast, rfl⟩)
  | cons c inner ih =>
      obtain ⟨hc, hline⟩ := List.ne_and_not_mem_of_not_mem_cons hline
      exact isSome_close_cons.2 (.inr ⟨Ne.symm hc, ih hline⟩)

/-- A content without blanks ends at the first blank. -/
theorem close_append_of_forall_not_isBlank {inner : Text} {last : Char}
    (hinner : ∀ c ∈ inner, Text.isBlank c = false) (hlast : Text.isBlank last = true)
    (rest : Text) : Span.close (inner ++ last :: '»' :: rest) = some (inner, last) := by
  induction inner with
  | nil =>
      rw [List.nil_append, Span.close, hlast]
      rfl
  | cons c inner ih =>
      obtain ⟨hc, hinner⟩ := List.forall_mem_cons.1 hinner
      have hnewline : c ≠ '\n' := by
        rintro rfl
        exact absurd hc (by decide)
      rw [List.cons_append, Span.close, hc, Bool.false_and, if_neg Bool.false_ne_true,
        if_neg hnewline, ih hinner]
      rfl

/-- No placeholder is blank, so the mask of a span has the same end as the span. -/
theorem Span.IsProper.close_blanked (h : span.IsProper) (rest : Text) :
    Span.close (span.blanked.inner ++ span.last :: '»' :: rest) =
      some (span.blanked.inner, span.last) := by
  refine close_append_of_forall_not_isBlank (fun c hc => ?_) h.last rest
  rw [List.eq_of_mem_replicate hc]
  decide

/-- The mask of a span has no closing guillemet right behind its first blank. -/
theorem Span.IsProper.head?_blanked_append (h : span.IsProper) (rest : Text) :
    (span.blanked.inner ++ span.last :: '»' :: rest).head? ≠ some '»' := by
  cases hinner : span.inner with
  | nil =>
      intro hhead
      have hlast := h.last
      rw [blanked, hinner, List.length_nil, List.replicate_zero, List.nil_append, List.head?_cons,
        Option.some.injEq] at hhead
      rw [hhead] at hlast
      exact absurd hlast (by decide)
  | cons c inner =>
      rw [blanked, hinner, List.length_cons, List.replicate_succ, List.cons_append, List.head?_cons]
      decide

theorem Span.written_append (span : Span) (rest : Text) :
    span.written ++ rest = '«' :: span.first :: (span.inner ++ span.last :: '»' :: rest) := by
  simp [written]

theorem Span.masked_append (span : Span) (rest : Text) :
    span.masked ++ rest =
      '«' :: span.first :: (span.blanked.inner ++ span.last :: '»' :: rest) := by
  simp [masked, blanked]

/-- What masks a span is the span with placeholders for its content. -/
theorem Span.masked_eq_written (span : Span) : span.masked = span.blanked.written := rfl

/-- A mask begins with the character with which the text begins. -/
theorem head?_maskQuoted (text : Text) : (maskQuoted text).head? = text.head? := by
  cases text using Span.inductionOn with
  | nil => rfl
  | kept c text hnone _ => rw [maskQuoted_cons hnone, List.head?_cons, List.head?_cons]
  | span span rest _ hspan _ =>
      rw [maskQuoted_written hspan]
      rfl

/-- **An end that the mask shows is in the text**, and no newline is before it. -/
theorem isSome_close_of_maskQuoted (h : (Span.close (maskQuoted text)).isSome = true) :
    (Span.close text).isSome = true := by
  induction text using Span.inductionOn with
  | nil => exact h
  | kept c text hnone ih =>
      rw [maskQuoted_cons hnone, isSome_close_cons, head?_maskQuoted] at h
      exact isSome_close_cons.2 (h.imp_right (And.imp_right ih))
  | span span rest hproper hspan _ =>
      -- only a newline behind the guillemet could hide the end of the span itself
      have hguillemet : '«' ≠ '\n' := by decide
      have hfirst : span.first ≠ '\n' := by
        intro hnewline
        rw [maskQuoted_written hspan, span.masked_append, isSome_close_cons, isSome_close_cons] at h
        rcases h with ⟨hblank, -⟩ | ⟨-, ⟨-, hhead⟩ | ⟨hline, -⟩⟩
        · exact absurd hblank (by decide)
        · exact hproper.head?_blanked_append _ hhead
        · exact hline hnewline
      rw [span.written_append, isSome_close_cons, isSome_close_cons]
      exact .inr ⟨hguillemet, .inr ⟨hfirst, isSome_close_append hproper.line hproper.last rest⟩⟩

/-! ### Spans of a mask -/

/-- The span that stands in the mask is the span of the text, blanked out. -/
theorem Span.IsProper.atStart_blanked (h : span.IsProper) (rest : Text) :
    Span.atStart (span.blanked.written ++ rest) = some span.blanked := by
  rw [← masked_eq_written, span.masked_append, atStart, if_pos h.first, h.close_blanked]
  rfl

/-- A span begins with a guillemet and a blank, and its end is found behind them. -/
theorem isSome_atStart_cons {c : Char} :
    (Span.atStart (c :: text)).isSome = true ↔
      c = '«' ∧ ∃ first rest, text = first :: rest ∧ Text.isBlank first = true ∧
        (Span.close rest).isSome = true := by
  constructor
  · intro h
    obtain ⟨span, hspan⟩ := Option.isSome_iff_exists.1 h
    obtain ⟨hline, hfirst, hlast, rest, htext⟩ := Span.atStart_eq_some hspan
    obtain ⟨rfl, rfl⟩ := List.cons.inj htext
    exact ⟨rfl, span.first, _, rfl, hfirst, isSome_close_append hline hlast rest⟩
  · rintro ⟨rfl, first, rest, rfl, hfirst, hclose⟩
    rwa [Span.atStart, if_pos hfirst, Option.isSome_map]

/-- Where no span begins in the text, none begins in the mask. -/
theorem atStart_maskQuoted_eq_none (h : Span.atStart text = none) :
    Span.atStart (maskQuoted text) = none := by
  cases text with
  | nil => exact h
  | cons c text =>
      rw [maskQuoted_cons h, ← Option.not_isSome_iff_eq_none, isSome_atStart_cons]
      rw [← Option.not_isSome_iff_eq_none, isSome_atStart_cons] at h
      rintro ⟨hopening, first, shown, hshown, hfirst, hclose⟩
      -- the blank behind the guillemet is in the text, too, and no span begins with it
      have hhead : text.head? = some first := by
        rw [← head?_maskQuoted, hshown, List.head?_cons]
      obtain ⟨rest, rfl⟩ := List.head?_eq_some_iff.1 hhead
      have hblank : first ≠ '«' := by
        rintro rfl
        exact absurd hfirst (by decide)
      rw [maskQuoted_cons (atStart_eq_none_of_ne hblank)] at hshown
      obtain ⟨-, rfl⟩ := List.cons.inj hshown
      exact h ⟨hopening, first, rest, rfl, hfirst, isSome_close_of_maskQuoted hclose⟩

/-- **What is done about the spans of a mask** is done about those of the text, if it does not
depend on their contents. -/
theorem replaceAll_spanRule_maskQuoted {image : Span → Text}
    (himage : ∀ span, image span.blanked = image span) (text : Text) :
    Text.replaceAll (spanRule image) (maskQuoted text) =
      Text.replaceAll (spanRule image) text := by
  induction text using Span.inductionOn with
  | nil => rfl
  | kept c text hnone ih =>
      have hmask := atStart_maskQuoted_eq_none hnone
      rw [maskQuoted_cons hnone] at hmask ⊢
      rw [replaceAll_spanRule_cons hmask, replaceAll_spanRule_cons hnone, ih]
  | span span rest hproper hspan ih =>
      have hmask := hproper.atStart_blanked (maskQuoted rest)
      rw [maskQuoted_written hspan, span.masked_eq_written, replaceAll_spanRule_written hmask,
        replaceAll_spanRule_written hspan, himage, ih]

/-! ### The places of the spans -/

theorem spans_cons {c : Char} (h : Span.atStart (c :: text) = none) :
    spans (c :: text) = (spans text).map (Text.Occurrence.behind [c]) :=
  Text.occurrences_cons (Option.map_eq_none_iff.2 h)

theorem spans_written (h : Span.atStart (span.written ++ rest) = some span) :
    spans (span.written ++ rest) =
      ⟨[], span.written, rest⟩ :: (spans rest).map (Text.Occurrence.behind span.written) := by
  refine Text.occurrences_append span.written_ne_nil ?_
  rw [h, Option.map_some, span.length_written]

/-- **The spans of a mask are where those of the text are.** -/
theorem place_spans_maskQuoted (text : Text) :
    (spans (maskQuoted text)).map Text.Occurrence.place =
      (spans text).map Text.Occurrence.place := by
  have hbehind : ∀ front text : Text,
      ((spans text).map (Text.Occurrence.behind front)).map Text.Occurrence.place =
        ((spans text).map Text.Occurrence.place).map (Text.placeBehind front.length) := by
    intro front text
    rw [List.map_map, List.map_map]
    exact List.map_congr_left fun found _ => found.place_behind front
  induction text using Span.inductionOn with
  | nil => rfl
  | kept c text hnone ih =>
      have hmask := atStart_maskQuoted_eq_none hnone
      rw [maskQuoted_cons hnone] at hmask ⊢
      rw [spans_cons hmask, spans_cons hnone, hbehind, hbehind, ih]
  | span span rest hproper hspan ih =>
      have hmask := hproper.atStart_blanked (maskQuoted rest)
      have hlength : span.blanked.written.length = span.written.length := by
        simp [Span.written, Span.blanked]
      rw [maskQuoted_written hspan, span.masked_eq_written, spans_written hmask,
        spans_written hspan, List.map_cons, List.map_cons, hbehind, hbehind, ih, hlength]
      simp only [Text.Occurrence.place, hlength]

/-- The mask of a text has the quoted spans of the text. -/
structure KeepsSpans (text masked : Text) : Prop where
  /-- To mask the mask again changes nothing. -/
  again : maskQuoted masked = masked
  /-- Without its spans the mask is the text without its spans. -/
  stripped : stripQuoted masked = stripQuoted text
  /-- The spans of the mask are as many as those of the text, and stand at the same places. -/
  places : (spans masked).map Text.Occurrence.place = (spans text).map Text.Occurrence.place

/-- **A mask has the spans of the text.** -/
theorem keepsSpans_maskQuoted (text : Text) : KeepsSpans text (maskQuoted text) where
  again := by
    have hblanked : ∀ span : Span, span.blanked.masked = span.masked := by
      intro span
      simp [Span.masked, Span.blanked]
    exact replaceAll_spanRule_maskQuoted hblanked text
  stripped := by
    rw [stripQuoted_eq_spanRule, stripQuoted_eq_spanRule]
    exact replaceAll_spanRule_maskQuoted (fun _ => rfl) text
  places := place_spans_maskQuoted text

/-- A guillemet in the content of a span is gone, and the one that it would have closed stays. -/
example : maskQuoted "« « a » »" = "« xxx » »".toList := by decide

end

end CatalogLint.Markup
