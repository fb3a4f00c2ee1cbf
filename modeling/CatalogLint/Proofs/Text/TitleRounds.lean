/-
**How many rounds of title case a word takes.**

A round of title case that is not the last one makes the word longer, and takes letters away from
which forms of several characters come.  So the number of these letters bounds the number of rounds
after which nothing changes any more.

Main definitions:

* `CatalogLint.Text.isWide` — the letters from which forms of several characters come;
* `CatalogLint.Text.WideTablesFit` — what the tables say on them;
* `CatalogLint.Text.Grows` — what becomes of a text in one round.

Main results:

* `CatalogLint.Text.grows_titleCaseFrom` — **what one round does** to the length of a word and to
  its wide letters;
* `CatalogLint.Text.Slip.length_lt` — a slip makes the word longer;
* `CatalogLint.Text.stands_iterate_titleCase` — **a word settles** after one round more than it has
  wide letters.
-/

import CatalogLint.Proofs.Text.TitleCase
import Mathlib.Logic.Function.Iterate

set_option autoImplicit false

namespace CatalogLint.Text

/-- Whether a form of several characters comes of the letter, in the first round or in a later one:
the small form of the capital sharp s has a capital form of two letters. -/
def isWide (c : Char) : Bool := c == '\u0130' || c == '\u1E9E' || isLong c

/-- The set of the letters from which forms of several characters come. -/
def wide : Nat := bitsOf (0x130 :: 0x1E9E :: longUppers.map Prod.fst)

/-- What the tables say on the letters from which forms of several characters come. -/
@[mk_iff]
structure WideTablesFit : Prop where
  /-- A form of several characters has none of them. -/
  spread : bitsOf spreadNumbers &&& wide = 0
  /-- No capital form of one character is one of them. -/
  capital : capitalForms &&& wide = 0
  /-- A small form is one of them only if the character is one. -/
  small : ∀ row ∈ lowerRows, (row.offsets &&& wide >>> row.image) &&& wide >>> row.first =
    row.offsets &&& wide >>> row.image

theorem wideTablesFit : WideTablesFit := wideTablesFit_iff.2 (by decide +kernel)

section
variable {afterLetter : Bool} {c d : Char} {word front rest : Text}

theorem isWide_iff : isWide c = true ↔ wide.testBit c.toNat = true := by
  have hdotted : c = '\u0130' ↔ c.toNat = 0x130 := Char.toNat_inj.symm
  have hsharp : c = '\u1E9E' ↔ c.toNat = 0x1E9E := Char.toNat_inj.symm
  simp only [isWide, Bool.or_eq_true, beq_iff_eq, isLong_iff, wide, testBit_bitsOf, List.mem_cons,
    hdotted, hsharp, or_assoc]

theorem isWide_of_spreads (h : spreads afterLetter c = true) : isWide c = true := by
  cases afterLetter with
  | true =>
      have hdotted : (c == '\u0130') = true := h
      rw [isWide, hdotted, Bool.true_or, Bool.true_or]
  | false =>
      have hlong : isLong c = true := h
      rw [isWide, hlong, Bool.or_true]

/-- A form of several characters has no wide letters. -/
theorem isWide_eq_false_of_spreads (h : spreads afterLetter c = true)
    (hd : d ∈ formAt afterLetter c) : isWide d = false := by
  rw [Bool.eq_false_iff, ne_eq, isWide_iff, Bool.not_eq_true]
  exact testBit_of_land_eq_zero wideTablesFit.spread
    (testBit_bitsOf.2 (toNat_mem_spreadNumbers h hd))

theorem testBit_wide_of_sends {n m : Nat} (h : CaseRow.Sends lowerRows n m)
    (hm : wide.testBit m = true) : wide.testBit n = true := by
  obtain ⟨hrow, hoffset, rfl, rfl⟩ := h
  rw [← Nat.testBit_shiftRight] at hm ⊢
  refine testBit_of_land_eq (wideTablesFit.small _ hrow) ?_
  rw [Nat.testBit_and, hoffset, hm, Bool.and_self]

/-- A form of one character is a wide letter only if the character is one. -/
theorem isWide_of_formAt (hform : formAt afterLetter c = [d]) (hd : isWide d = true) :
    isWide c = true := by
  have hspreads : spreads afterLetter c = false := spreads_eq_false_of_formAt hform
  rw [isWide_iff] at hd ⊢
  cases afterLetter with
  | true =>
      have hdotted : c ≠ '\u0130' := by simpa [spreads] using hspreads
      obtain ⟨e, hlower, hisForm⟩ := lowerChar_eq_singleton hdotted
      obtain rfl := List.singleton_inj.1 (hlower.symm.trans hform)
      rcases hisForm with ⟨rfl, -⟩ | ⟨hsends⟩
      · exact hd
      · exact testBit_wide_of_sends hsends hd
  | false =>
      obtain ⟨e, hupper, hisForm⟩ := upperChar_eq_singleton hspreads
      obtain rfl := List.singleton_inj.1 (hupper.symm.trans hform)
      rcases hisForm with ⟨rfl, -⟩ | ⟨hsends⟩
      · exact hd
      · have hnarrow := testBit_of_land_eq_zero wideTablesFit.capital (testBit_capitalForms hsends)
        exact absurd (hnarrow.symm.trans hd) Bool.false_ne_true

/-- A text keeps its length and has no more wide letters than before, or it becomes longer and has
fewer of them. -/
def Grows (before after : Text) : Prop :=
  (after.length = before.length ∧ after.countP isWide ≤ before.countP isWide) ∨
    (before.length < after.length ∧ after.countP isWide < before.countP isWide)

theorem Grows.append {before after before' after' : Text} (h : Grows before after)
    (h' : Grows before' after') : Grows (before ++ before') (after ++ after') := by
  simp only [Grows, List.length_append, List.countP_append] at h h' ⊢
  omega

theorem Grows.countP_lt {before after : Text} (h : Grows before after)
    (hlonger : before.length < after.length) : after.countP isWide < before.countP isWide := by
  rw [Grows] at h
  omega

theorem grows_formAt (afterLetter : Bool) (c : Char) : Grows [c] (formAt afterLetter c) := by
  cases hspreads : spreads afterLetter c with
  | true =>
      have hnarrow : (formAt afterLetter c).countP isWide = 0 :=
        List.countP_eq_zero.2 fun d hd =>
          Bool.eq_false_iff.1 (isWide_eq_false_of_spreads hspreads hd)
      refine .inr ⟨two_le_length_formAt hspreads, ?_⟩
      rw [hnarrow, List.countP_singleton, if_pos (isWide_of_spreads hspreads)]
      exact Nat.one_pos
  | false =>
      obtain ⟨d, hform, -⟩ := exists_formAt hspreads
      refine .inl ⟨by rw [hform]; rfl, ?_⟩
      rw [hform, List.countP_singleton, List.countP_singleton]
      split
      · next hd => exact Nat.le_of_eq (if_pos (isWide_of_formAt hform hd)).symm
      · exact Nat.zero_le _

/-- **What one round does** to the length of a word and to its wide letters. -/
theorem grows_titleCaseFrom (afterLetter : Bool) (word : Text) :
    Grows word (titleCaseFrom afterLetter word) := by
  induction word generalizing afterLetter with
  | nil => exact .inl ⟨rfl, Nat.le_refl _⟩
  | cons c word ih => exact (grows_formAt afterLetter c).append (ih _)

theorem length_lt_of_spreads (h : spreads (endsInLetter afterLetter front) c = true) :
    (front ++ c :: rest).length < (titleCaseFrom afterLetter (front ++ c :: rest)).length := by
  have hfront := length_le_length_titleCaseFrom afterLetter front
  have hform := two_le_length_formAt h
  have hrest := length_le_length_titleCaseFrom (isAlphabetic c) rest
  rw [titleCaseFrom_append, titleCaseFrom_cons]
  simp only [List.length_append, List.length_cons]
  omega

/-- A slip makes the word longer. -/
theorem Slip.length_lt (h : Slip afterLetter word) :
    word.length < (titleCaseFrom afterLetter word).length := by
  rcases h with ⟨rfl, begins, cluster⟩ | ⟨rfl, mark, -⟩
  · exact length_lt_of_spreads (begins ▸ spreads_of_isCluster cluster)
  · exact length_lt_of_spreads (spreads_of_endsInMark mark)

/-- A word without wide letters has no slip. -/
theorem not_slip_of_forall (h : ∀ c ∈ word, isWide c = false) : ¬Slip afterLetter word := by
  intro hslip
  have hnarrow : word.countP isWide = 0 :=
    List.countP_eq_zero.2 fun c hc => Bool.eq_false_iff.1 (h c hc)
  have hfewer := (grows_titleCaseFrom afterLetter word).countP_lt hslip.length_lt
  rw [hnarrow] at hfewer
  exact Nat.not_lt_zero _ hfewer

/-- **A word settles** after one round more than it has wide letters. -/
theorem stands_iterate_titleCase {rounds : Nat} (h : word.countP isWide < rounds) :
    Stands false (titleCase^[rounds] word) := by
  induction rounds generalizing word with
  | zero => exact absurd h (Nat.not_lt_zero _)
  | succ rounds ih =>
      rw [Function.iterate_succ_apply]
      by_cases hslip : Slip false word
      · -- the word becomes longer, and there is a wide letter less for the other rounds
        have hfewer := (grows_titleCaseFrom false word).countP_lt hslip.length_lt
        exact ih (Nat.lt_of_lt_of_le hfewer (Nat.le_of_lt_succ h))
      · have hsame : titleCase (titleCase word) = titleCase word := stands_titleCaseFrom_iff.2 hslip
        rw [Function.iterate_fixed hsame]
        exact hsame

end

end CatalogLint.Text
