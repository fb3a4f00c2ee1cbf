/-
Replacing the leftmost, non-overlapping matches of a pattern.

A rule looks at the text from one position on.  If the pattern matches there, the rule tells how
many characters the match takes and what stands in their place.  Replacing tries the rule at each
position from the left, skips what a match takes, and leaves everything else as it is.

* `CatalogLint.Text.Rule` — a pattern with the images of its matches;
* `CatalogLint.Text.replaceAll` — the text with every match replaced by its image;
* `CatalogLint.Text.upTo` — what stands before the nearest occurrence of a closing mark on the
  same line;
* `CatalogLint.Text.enclosed` — the rule for a span between an opening and a closing mark;
* `CatalogLint.Text.replacing` — the rule for a fixed text.
-/

import CatalogLint.Text.Basic

set_option autoImplicit false

namespace CatalogLint.Text

/-- A pattern with the images of its matches: the number of characters that a match at the
beginning of the text takes, and the text that replaces them. -/
abbrev Rule := Text → Option (Nat × Text)

/-- The replacement in a text of which as many characters as the number says are already taken by a
match. -/
def replaceFrom (rule : Rule) : Nat → Text → Text
  | _, [] => []
  | taken + 1, _ :: text => replaceFrom rule taken text
  | 0, c :: text =>
    match rule (c :: text) with
    | some (length, image) => image ++ replaceFrom rule (length - 1) text
    | none => c :: replaceFrom rule 0 text

/-- The text with the leftmost, non-overlapping matches of the rule replaced by their images. -/
def replaceAll (rule : Rule) (text : Text) : Text := replaceFrom rule 0 text

theorem replaceFrom_none {rule : Rule} {text : Text}
    (h : ∀ rest, rest <:+ text → rule rest = none) : replaceFrom rule 0 text = text := by
  induction text with
  | nil => simp [replaceFrom]
  | cons c text ih =>
    have hc := h (c :: text) (List.suffix_refl _)
    simp only [replaceFrom, hc]
    rw [ih fun rest hrest => h rest (hrest.trans (List.suffix_cons c text))]

/-- A text in which the rule matches nowhere stays as it is. -/
theorem replaceAll_eq_self {rule : Rule} {text : Text}
    (h : ∀ rest, rest <:+ text → rule rest = none) : replaceAll rule text = text :=
  replaceFrom_none h

/-- What stands before the nearest occurrence of `closing`, if there is one on the same line. -/
def upTo (closing : Text) : Text → Option Text
  | [] => if closing.isEmpty then some [] else none
  | c :: text =>
    if closing.isPrefixOf (c :: text) then some []
    else if c = '\n' then none
    else (upTo closing text).map (c :: ·)

/-- What is found stays on its line, and the closing mark follows it. -/
theorem upTo_eq_some {closing text inner : Text} (h : upTo closing text = some inner) :
    '\n' ∉ inner ∧ inner ++ closing <+: text := by
  induction text generalizing inner with
  | nil =>
    simp only [upTo, List.isEmpty_iff, Option.ite_none_right_eq_some, Option.some.injEq] at h
    obtain ⟨rfl, rfl⟩ := h
    simp
  | cons c text ih =>
    rw [upTo] at h
    split at h
    · next hc =>
      cases h
      simpa using List.isPrefixOf_iff_prefix.mp hc
    · split at h
      · cases h
      · next hc =>
        obtain ⟨rest, hrest, rfl⟩ := Option.map_eq_some_iff.mp h
        obtain ⟨hnew, hpre⟩ := ih hrest
        exact ⟨by simp [hnew, Ne.symm hc], by simpa [List.cons_prefix_cons] using hpre⟩

/-- The rule for a span from `opening` to the nearest `closing` on the same line, which is replaced
by the image of what stands between them. -/
def enclosed (opening closing : Text) (image : Text → Text) : Rule := fun text =>
  (dropStart? opening text).bind fun rest =>
    (upTo closing rest).map fun inner =>
      (opening.length + inner.length + closing.length, image inner)

/-- The rule for a fixed text. -/
def replacing (part image : Text) : Rule := fun text =>
  (dropStart? part text).map fun _ => (part.length, image)

end CatalogLint.Text
