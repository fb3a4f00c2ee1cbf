/-
**Texts without two blanks in a row.**

Where such a text is cut, both parts are of this kind, and they are put together again if no two
blanks meet at the border.  So a part that neither begins nor ends with a blank divides a text into
two that have nothing to do with each other.  A replacement takes such parts away and writes images
in their place: whether it puts two blanks next to each other depends on each image alone and on the
character behind it.

Main definitions:

* `CatalogLint.Text.BeginsBlank`, `CatalogLint.Text.EndsBlank` — a text begins, or ends, with a
  blank;
* `CatalogLint.Text.SingleSpaced` — no two blanks are next to each other;
* `CatalogLint.Text.Solid` — a text that neither begins nor ends with a blank.

Main results:

* `CatalogLint.Text.singleSpaced_append`, `CatalogLint.Text.Solid.singleSpaced_between` — where a
  text can be cut;
* `CatalogLint.Text.singleSpaced_replaceAll_iff` — **a replacement puts no blanks next to each
  other** if and only if the parts that it replaces fit;
* `CatalogLint.Checker.DoubleSpace.findings_eq_nil_iff` — an entry without two blanks in a row has
  no warning, and no other has none.
-/

import CatalogLint.Proofs.Checker.BlankRun
import Mathlib.Data.List.Chain

set_option autoImplicit false

namespace CatalogLint

namespace Text

/-! ### Blanks at the ends -/

/-- The text begins with a blank. -/
def BeginsBlank (text : Text) : Prop := ∃ c ∈ text.head?, isBlank c = true

def EndsBlank (text : Text) : Prop := ∃ c ∈ text.getLast?, isBlank c = true

/-- No two blanks are next to each other. -/
def SingleSpaced (text : Text) : Prop :=
  List.IsChain (fun c d => ¬(isBlank c = true ∧ isBlank d = true)) text

/-- The text is not empty, and there is no blank at its ends. -/
structure Solid (text : Text) : Prop where
  ne_nil : text ≠ []
  begins : ¬BeginsBlank text
  ends : ¬EndsBlank text

section
variable {first second text : Text} {c : Char}

instance : DecidablePred BeginsBlank := fun _ => decidable_of_iff _ (Option.any_eq_true _ _)

instance : DecidablePred EndsBlank := fun _ => decidable_of_iff _ (Option.any_eq_true _ _)

instance : DecidablePred SingleSpaced := fun text =>
  inferInstanceAs (Decidable (List.IsChain _ text))

instance : DecidablePred Solid := fun text =>
  decidable_of_iff (text ≠ [] ∧ ¬BeginsBlank text ∧ ¬EndsBlank text)
    ⟨fun ⟨hne, hbegins, hends⟩ => ⟨hne, hbegins, hends⟩, fun h => ⟨h.ne_nil, h.begins, h.ends⟩⟩

theorem not_beginsBlank_nil : ¬BeginsBlank [] := nofun

theorem not_endsBlank_nil : ¬EndsBlank [] := nofun

@[simp] theorem beginsBlank_cons : BeginsBlank (c :: text) ↔ isBlank c = true := by
  simp [BeginsBlank]

@[simp] theorem endsBlank_concat : EndsBlank (text ++ [c]) ↔ isBlank c = true := by
  simp [EndsBlank]

theorem beginsBlank_append (h : first ≠ []) :
    BeginsBlank (first ++ second) ↔ BeginsBlank first := by
  rw [BeginsBlank, List.head?_append_of_ne_nil _ h, BeginsBlank]

theorem endsBlank_append (h : second ≠ []) : EndsBlank (first ++ second) ↔ EndsBlank second := by
  rw [EndsBlank, List.getLast?_append_of_ne_nil _ h, EndsBlank]

theorem endsBlank_append_of_not (h : ¬EndsBlank first) :
    EndsBlank (first ++ second) ↔ EndsBlank second := by
  by_cases hne : second = []
  · rw [hne, List.append_nil]
    exact iff_of_false h not_endsBlank_nil
  · exact endsBlank_append hne

/-- Where a text is cut, no two blanks meet. -/
theorem singleSpaced_append :
    SingleSpaced (first ++ second) ↔
      SingleSpaced first ∧ SingleSpaced second ∧ ¬(EndsBlank first ∧ BeginsBlank second) := by
  rw [SingleSpaced, List.isChain_append]
  refine and_congr_right fun _ => and_congr_right fun _ => ?_
  constructor
  · rintro h ⟨⟨c, hc, hfirst⟩, d, hd, hsecond⟩
    exact h c hc d hd ⟨hfirst, hsecond⟩
  · rintro h c hc d hd ⟨hfirst, hsecond⟩
    exact h ⟨⟨c, hc, hfirst⟩, d, hd, hsecond⟩

theorem singleSpaced_cons :
    SingleSpaced (c :: text) ↔ SingleSpaced text ∧ ¬(isBlank c = true ∧ BeginsBlank text) := by
  rw [← List.singleton_append, singleSpaced_append]
  have hsingle : SingleSpaced [c] := .singleton c
  have hends : EndsBlank [c] ↔ isBlank c = true := @endsBlank_concat [] c
  rw [and_iff_right hsingle, hends]

theorem SingleSpaced.of_infix (h : SingleSpaced text) (hpart : first <:+: text) :
    SingleSpaced first := List.IsChain.infix h hpart

theorem singleSpaced_of_forall_not_isBlank (h : ∀ c ∈ text, isBlank c = false) :
    SingleSpaced text := by
  induction text with
  | nil => exact .nil
  | cons c text ih =>
      obtain ⟨hc, htext⟩ := List.forall_mem_cons.1 h
      refine singleSpaced_cons.2 ⟨ih htext, fun hblank => ?_⟩
      rw [hc] at hblank
      exact Bool.false_ne_true hblank.1

theorem Solid.of_forall_not_isBlank (hne : text ≠ []) (h : ∀ c ∈ text, isBlank c = false) :
    Solid text := by
  refine ⟨hne, ?_, ?_⟩
  · rintro ⟨c, hc, hblank⟩
    rw [h c (List.mem_of_mem_head? hc)] at hblank
    cases hblank
  · rintro ⟨c, hc, hblank⟩
    rw [h c (List.mem_of_getLast? hc)] at hblank
    cases hblank

theorem Solid.singleSpaced_append (h : Solid first) :
    SingleSpaced (first ++ second) ↔ SingleSpaced first ∧ SingleSpaced second := by
  rw [Text.singleSpaced_append, and_iff_left fun hborder => h.ends hborder.1]

/-- A solid part divides a text. -/
theorem Solid.singleSpaced_between (h : Solid second) (rest : Text) :
    SingleSpaced (first ++ second ++ rest) ↔
      SingleSpaced first ∧ SingleSpaced second ∧ SingleSpaced rest := by
  rw [List.append_assoc, Text.singleSpaced_append, h.singleSpaced_append,
    beginsBlank_append h.ne_nil, and_iff_left fun hborder => h.begins hborder.2]

/-- What stands between two solid parts has nothing to do with them. -/
theorem Solid.singleSpaced_enclosed (hfirst : Solid first) (hsecond : Solid second)
    (inner : Text) :
    SingleSpaced (first ++ inner ++ second) ↔
      SingleSpaced first ∧ SingleSpaced inner ∧ SingleSpaced second := by
  rw [List.append_assoc, hfirst.singleSpaced_append, Text.singleSpaced_append,
    and_iff_left fun hborder => hsecond.begins hborder.2]

/-- What stands between two solid texts can be anything. -/
theorem Solid.append (hfirst : Solid first) (hsecond : Solid second) (inner : Text) :
    Solid (first ++ inner ++ second) := by
  refine ⟨List.append_ne_nil_of_right_ne_nil _ hsecond.ne_nil, ?_, ?_⟩
  · rw [List.append_assoc, beginsBlank_append hfirst.ne_nil]
    exact hfirst.begins
  · rw [endsBlank_append hsecond.ne_nil]
    exact hsecond.ends

end

/-! ### Replacing solid parts -/

section
variable {rule : Rule} {fits : Text → Text → Prop}

/-- What a rule makes of a part, which is solid: the image does not begin with a blank, and with the
text behind it, it has no two blanks in a row if the part has none and fits there. -/
structure FitsIn (fits : Text → Text → Prop) (part image : Text) : Prop where
  /-- The part is solid. -/
  solid : Solid part
  /-- The image is not empty. -/
  image_ne_nil : image ≠ []
  /-- It does not begin with a blank. -/
  begins : ¬BeginsBlank image
  /-- It has blanks in a row, or one at its end before another one, only if the part does or does
  not fit. -/
  singleSpaced_iff : ∀ rest, SingleSpaced image ∧ ¬(EndsBlank image ∧ BeginsBlank rest) ↔
    SingleSpaced part ∧ fits part rest

/-- A replacement begins with a blank where the text does. -/
theorem beginsBlank_replaceAll (h : rule.Rewrites (FitsIn fits)) (text : Text) :
    BeginsBlank (replaceAll rule text) ↔ BeginsBlank text := by
  cases text using h.stepsOn with
  | nil => rfl
  | kept c text hnone _ => rw [replaceAll_cons hnone, beginsBlank_cons, beginsBlank_cons]
  | replaced part rest image hne hmatch hfits _ =>
      rw [replaceAll_append_of_match hne hmatch, beginsBlank_append hfits.image_ne_nil,
        beginsBlank_append hne]
      exact iff_of_false hfits.begins hfits.solid.begins

/-- **A replacement puts no blanks next to each other** if and only if the parts that it replaces
fit. -/
theorem singleSpaced_replaceAll_iff (h : rule.Rewrites (FitsIn fits)) (text : Text) :
    SingleSpaced (replaceAll rule text) ↔
      SingleSpaced text ∧
        ∀ found ∈ occurrences rule.recogniser text, fits found.matched found.after := by
  induction text using h.stepsOn with
  | nil => exact iff_of_true .nil ⟨.nil, List.forall_mem_nil _⟩
  | kept c text hnone ih =>
      rw [replaceAll_cons hnone, singleSpaced_cons, singleSpaced_cons, beginsBlank_replaceAll h, ih,
        occurrences_cons (Rule.recogniser_eq_none_iff.2 hnone), List.forall_mem_map]
      exact and_right_comm
  | replaced part rest image hne hmatch hfits ih =>
      rw [replaceAll_append_of_match hne hmatch, singleSpaced_append, beginsBlank_replaceAll h, ih,
        hfits.solid.singleSpaced_append,
        occurrences_append hne (Rule.recogniser_eq_some_iff.2 ⟨image, hmatch⟩),
        List.forall_mem_cons, List.forall_mem_map]
      -- the rest begins with a blank if its replacement does, so the image meets what the part
      -- meets
      have himage := hfits.singleSpaced_iff rest
      show _ ↔ (_ ∧ _) ∧ fits part rest ∧ _
      tauto

end

end Text

/-! ### Warnings about blanks in a row -/

namespace Checker.DoubleSpace

open Text (SingleSpaced singleSpaced_cons)

/-- No run is found if and only if no two blanks are next to each other. -/
theorem runs_eq_nil_iff {text : Text} : runs text = [] ↔ SingleSpaced text := by
  induction text using takes_run.inductionOn with
  | nil => exact iff_of_true rfl .nil
  | kept c text hnone ih =>
      rw [runs, Text.occurrences_cons hnone, List.map_eq_nil_iff, singleSpaced_cons]
      refine ih.trans (and_iff_left ?_).symm
      rintro ⟨hc, d, hd, hblank⟩
      obtain ⟨text, rfl⟩ := List.head?_eq_some_iff.1 hd
      rw [run_eq_none_iff, List.takeWhile_cons_of_pos hc,
        List.takeWhile_cons_of_pos hblank] at hnone
      simp only [List.length_cons] at hnone
      omega
  | taken part rest hne hmatch _ =>
      rw [runs, Text.occurrences_append hne hmatch]
      refine iff_of_false (List.cons_ne_nil _ _) fun hsingle => ?_
      obtain ⟨htwo, hblank, -⟩ := run_append_eq_some_iff.1 hmatch
      obtain ⟨c, part, rfl⟩ := List.exists_cons_of_ne_nil hne
      have hrest : part ≠ [] := List.ne_nil_of_length_pos (Nat.lt_of_succ_lt_succ htwo)
      obtain ⟨d, part, rfl⟩ := List.exists_cons_of_ne_nil hrest
      simp only [List.forall_mem_cons] at hblank
      exact (singleSpaced_cons.1 hsingle).2 ⟨hblank.1, d, rfl, hblank.2.1⟩

/-- An entry without two blanks in a row has no warning, and no other has none. -/
theorem findings_eq_nil_iff {entry : Entry} :
    findings entry = [] ↔ SingleSpaced entry.normalizedTarget := by
  rw [findings, List.map_eq_nil_iff, runs_eq_nil_iff]

end Checker.DoubleSpace

end CatalogLint
