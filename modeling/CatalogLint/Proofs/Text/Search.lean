/-
**A search, step by step.**

A search for a pattern goes through a text in steps.  Where the pattern matches, a step takes the
part that is matched, and otherwise it takes one character.  The occurrences in what is left are
those of a search that begins there, but for the text that stands before them.

Main definitions:

* `CatalogLint.Text.Occurrence.behind` — an occurrence with more text before it;
* `CatalogLint.Text.Occurrence.place` — where an occurrence begins, and how much it takes;
* `CatalogLint.Text.Recogniser.Takes` — a pattern takes a part of a text, and not an empty one.

Main results:

* `CatalogLint.Text.Recogniser.Takes.inductionOn`, `CatalogLint.Text.Rule.Rewrites.stepsOn` —
  **induction over the steps of a search**, and over those of a replacement;
* `CatalogLint.Text.occurrences_cons`, `CatalogLint.Text.occurrences_append` — what a step finds;
* `CatalogLint.Text.replaceAll_cons` — a step of a replacement that keeps a character;
* `CatalogLint.Text.Rule.First.occurrences_eq` — what is found from the first match of a rule on.
-/

import CatalogLint.Proofs.Text.Rewriting

set_option autoImplicit false

namespace CatalogLint.Text

/-! ### Occurrences behind a text -/

/-- The occurrence with more text before it. -/
def Occurrence.behind (front : Text) (found : Occurrence) : Occurrence :=
  { found with before := front ++ found.before }

/-- Where the occurrence begins, and how much of the text it takes. -/
def Occurrence.place (found : Occurrence) : Nat × Nat := (found.before.length, found.matched.length)

/-- The place behind as many characters more. -/
def placeBehind (offset : Nat) (place : Nat × Nat) : Nat × Nat := (offset + place.1, place.2)

theorem Occurrence.place_behind (front : Text) (found : Occurrence) :
    (found.behind front).place = placeBehind front.length found.place := by
  rw [place, place, placeBehind, behind, List.length_append]

theorem Occurrence.covers_behind {front : Text} {found : Occurrence} {index : Nat} :
    (found.behind front).Covers index ↔
      front.length ≤ index ∧ found.Covers (index - front.length) := by
  simp only [Covers, behind, List.length_append]
  omega

/-- A search finds the same, whatever precedes the text. -/
theorem occurrencesFrom_eq_map_behind (pattern : Recogniser) (reversed text : Text) (taken : Nat) :
    occurrencesFrom pattern reversed taken text =
      (occurrencesFrom pattern [] taken text).map (Occurrence.behind reversed.reverse) := by
  induction text generalizing reversed taken with
  | nil => cases taken <;> rfl
  | cons c text ih =>
      have hnext : ∀ taken, occurrencesFrom pattern (c :: reversed) taken text =
          (occurrencesFrom pattern [c] taken text).map (Occurrence.behind reversed.reverse) := by
        intro taken
        rw [ih (c :: reversed), ih [c], List.map_map]
        refine List.map_congr_left fun found _ => ?_
        simp [Occurrence.behind]
      cases taken with
      | succ taken => exact hnext taken
      | zero =>
          rw [occurrencesFrom, occurrencesFrom]
          split
          · rw [hnext, List.map_cons]
            simp [Occurrence.behind]
          · exact hnext 0

/-! ### The steps -/

section
variable {pattern : Recogniser}

/-- Where the pattern does not match, the search goes on behind the first character. -/
theorem occurrences_cons {c : Char} {text : Text} (h : pattern (c :: text) = none) :
    occurrences pattern (c :: text) = (occurrences pattern text).map (Occurrence.behind [c]) := by
  rw [occurrences, occurrencesFrom, h]
  exact occurrencesFrom_eq_map_behind pattern [c] text 0

/-- Where the pattern matches, the search goes on behind the match. -/
theorem occurrences_append {part rest : Text} (hne : part ≠ [])
    (h : pattern (part ++ rest) = some part.length) :
    occurrences pattern (part ++ rest) =
      ⟨[], part, rest⟩ :: (occurrences pattern rest).map (Occurrence.behind part) := by
  obtain ⟨c, part, rfl⟩ := List.exists_cons_of_ne_nil hne
  have hpart : (c :: (part ++ rest)).take (part.length + 1) = c :: part := by
    rw [List.take_succ_cons, List.take_left]
  have hrest : (c :: (part ++ rest)).drop (part.length + 1) = rest := by
    rw [List.drop_succ_cons, List.drop_left]
  rw [List.cons_append, List.length_cons] at h
  rw [List.cons_append, occurrences, occurrencesFrom, h]
  simp only [hpart, hrest, occurrencesFrom_append, occurrencesFrom_eq_map_behind pattern (_ ++ [c])]
  rw [List.reverse_append, List.reverse_reverse]
  rfl

/-- What the pattern takes is a part of the text, and not an empty one. -/
def Recogniser.Takes (pattern : Recogniser) : Prop :=
  ∀ text length, pattern text = some length → 0 < length ∧ length ≤ text.length

/-- **Induction over the steps of a search.** -/
theorem Recogniser.Takes.inductionOn (h : pattern.Takes) {motive : Text → Prop} (nil : motive [])
    (kept : ∀ c text, pattern (c :: text) = none → motive text → motive (c :: text))
    (taken : ∀ part rest, part ≠ [] → pattern (part ++ rest) = some part.length → motive rest →
      motive (part ++ rest)) (text : Text) : motive text := by
  induction hlength : text.length using Nat.strong_induction_on generalizing text with
  | _ length ih =>
      subst hlength
      cases text with
      | nil => exact nil
      | cons c text =>
          cases hmatch : pattern (c :: text) with
          | none => exact kept c text hmatch (ih text.length (Nat.lt_succ_self _) text rfl)
          | some length =>
              obtain ⟨hpos, hle⟩ := h _ _ hmatch
              have hpart : ((c :: text).take length).length = length := List.length_take_of_le hle
              have hrest : ((c :: text).drop length).length < (c :: text).length := by
                rw [List.length_drop]
                omega
              rw [← List.take_append_drop length (c :: text)] at hmatch ⊢
              refine taken _ _ ?_ (by rw [hmatch, hpart]) (ih _ hrest _ rfl)
              exact List.ne_nil_of_length_pos (by rwa [hpart])

end

section
variable {rule : Rule}

theorem Rule.Rewrites.takes {shape : Text → Text → Prop} (h : rule.Rewrites shape) :
    rule.recogniser.Takes := by
  intro text length hmatch
  obtain ⟨⟨length, image⟩, hfound, rfl⟩ := Option.map_eq_some_iff.1 hmatch
  obtain ⟨part, rest, rfl, hne, rfl, -⟩ := h _ _ _ hfound
  rw [List.length_append]
  exact ⟨List.length_pos_iff.2 hne, Nat.le_add_right _ _⟩

theorem Rule.recogniser_eq_none_iff {text : Text} :
    rule.recogniser text = none ↔ rule text = none := Option.map_eq_none_iff

theorem Rule.recogniser_eq_some_iff {text : Text} {length : Nat} :
    rule.recogniser text = some length ↔ ∃ image, rule text = some (length, image) := by
  rw [recogniser, Option.map_eq_some_iff]
  constructor
  · rintro ⟨⟨_, image⟩, hmatch, rfl⟩
    exact ⟨image, hmatch⟩
  · rintro ⟨image, hmatch⟩
    exact ⟨_, hmatch, rfl⟩

/-- **Induction over the steps of a replacement.** -/
theorem Rule.Rewrites.stepsOn {shape : Text → Text → Prop} (h : rule.Rewrites shape)
    {motive : Text → Prop} (nil : motive [])
    (kept : ∀ c text, rule (c :: text) = none → motive text → motive (c :: text))
    (replaced : ∀ part rest image, part ≠ [] → rule (part ++ rest) = some (part.length, image) →
      shape part image → motive rest → motive (part ++ rest)) (text : Text) : motive text := by
  induction text using h.takes.inductionOn with
  | nil => exact nil
  | kept c text hnone ih => exact kept c text (recogniser_eq_none_iff.1 hnone) ih
  | taken part rest hne hmatch ih =>
      obtain ⟨image, hmatch⟩ := recogniser_eq_some_iff.1 hmatch
      obtain ⟨found, behind, hsplit, -, hlength, hshape⟩ := h _ _ _ hmatch
      obtain ⟨rfl, rfl⟩ := List.append_inj hsplit hlength
      exact replaced part rest image hne hmatch hshape ih

theorem Rule.Unmatched.occurrences_eq {text : Text} (h : rule.Unmatched text) :
    occurrences rule.recogniser text = [] := List.map_eq_nil_iff.1 h.parts_eq

/-- The first match is the first occurrence, and the others are those of the rest. -/
theorem Rule.First.occurrences_eq {before part rest image : Text}
    (h : rule.First before part rest image) :
    occurrences rule.recogniser (before ++ part ++ rest) =
      ⟨before, part, rest⟩ ::
        (occurrences rule.recogniser rest).map (Occurrence.behind (before ++ part)) := by
  obtain ⟨hbefore, hmatch, hne⟩ := h
  induction before with
  | nil => exact occurrences_append hne (recogniser_eq_some_iff.2 ⟨image, hmatch⟩)
  | cons c before ih =>
      have hnone := hbefore (c :: before) (List.cons_ne_nil c before) (List.suffix_refl _)
      rw [List.cons_append, ← List.append_assoc] at hnone
      rw [List.cons_append, List.cons_append, occurrences_cons (recogniser_eq_none_iff.2 hnone),
        ih fun tail hne htail => hbefore tail hne (htail.trans (List.suffix_cons c before)),
        List.map_cons, List.map_map]
      rfl

/-- Where the rule does not match, the first character stays. -/
theorem replaceAll_cons {c : Char} {text : Text} (h : rule (c :: text) = none) :
    replaceAll rule (c :: text) = c :: replaceAll rule text := by
  rw [replaceAll, replaceFrom, h]
  rfl

end

end CatalogLint.Text
