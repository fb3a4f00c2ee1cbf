/-
The leftmost, non-overlapping occurrences of a pattern, each with the text around it.

* `CatalogLint.Text.Recogniser` — a pattern, as the number of characters it takes at the beginning
  of a text;
* `CatalogLint.Text.Occurrence` — a part of a text, with the text before and after it;
* `CatalogLint.Text.occurrences` — the leftmost, non-overlapping occurrences of a pattern.

Main statement: `append_of_mem_occurrences`, no occurrence loses a character of the text.
-/

import CatalogLint.Text.Basic

set_option autoImplicit false

namespace CatalogLint.Text

/-- A pattern: the number of characters it takes at the beginning of a text, if it matches there
and takes any. -/
abbrev Recogniser := Text → Option Nat

/-- A part of a text, with the text before and after it. -/
structure Occurrence where
  before : Text
  matched : Text
  after : Text
deriving DecidableEq, Repr

/-- The occurrences in the rest of a text.  What precedes the rest is given in reverse, and the
number says how many characters of the rest an occurrence has already taken. -/
def occurrencesFrom (pattern : Recogniser) (reversed : Text) : Nat → Text → List Occurrence
  | _, [] => []
  | taken + 1, c :: text => occurrencesFrom pattern (c :: reversed) taken text
  | 0, c :: text =>
    match pattern (c :: text) with
    | some (length + 1) =>
      ⟨reversed.reverse, (c :: text).take (length + 1), (c :: text).drop (length + 1)⟩ ::
        occurrencesFrom pattern (c :: reversed) length text
    | _ => occurrencesFrom pattern (c :: reversed) 0 text

/-- The leftmost, non-overlapping occurrences of a pattern, from the left. -/
def occurrences (pattern : Recogniser) (text : Text) : List Occurrence :=
  occurrencesFrom pattern [] 0 text

theorem append_of_mem_occurrencesFrom {pattern : Recogniser} {found : Occurrence} :
    ∀ {taken : Nat} {reversed text : Text}, found ∈ occurrencesFrom pattern reversed taken text →
      found.before ++ found.matched ++ found.after = reversed.reverse ++ text := by
  intro taken reversed text
  induction text generalizing taken reversed with
  | nil => cases taken <;> simp [occurrencesFrom]
  | cons c text ih =>
    intro h
    cases taken with
    | succ taken =>
      simpa using ih h
    | zero =>
      rw [occurrencesFrom] at h
      split at h
      · rcases List.mem_cons.mp h with rfl | h
        · simp
        · simpa using ih h
      · simpa using ih h

/-- Every occurrence, with the text before and after it, is the whole text. -/
theorem append_of_mem_occurrences {pattern : Recogniser} {text : Text} {found : Occurrence}
    (h : found ∈ occurrences pattern text) :
    found.before ++ found.matched ++ found.after = text :=
  append_of_mem_occurrencesFrom h

end CatalogLint.Text
