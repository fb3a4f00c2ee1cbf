/-
**The small and the capital form of a character.**

The small form of a character is one character that has no other small form, but for the capital I
with a dot.  The capital form is one character that has no other capital form, or it has several
characters.  Only letters have other forms, and a form of one character is a letter if the character
is one.  All this is a matter of the tables, which are compared as sets of numbers.

Main definitions:

* `CatalogLint.Text.CaseRow.positions` — the set of the characters in rows, or of their images;
* `CatalogLint.Text.CaseRow.Sends` — rows send a character to its image;
* `CatalogLint.Text.lowered`, `CatalogLint.Text.raised` — the sets of the characters with another
  small form, and with another capital form;
* `CatalogLint.Text.FormTablesFit` — how the tables of letters and of forms lie to one another;
* `CatalogLint.Text.IsForm` — the form of a character: itself, or its image;
* `CatalogLint.Text.isLong` — whether the capital form of a character has several characters.

Main results:

* `CatalogLint.Text.lowerChar_eq_self_iff`, `CatalogLint.Text.upperChar_eq_self_iff` — which
  characters are their own forms;
* `CatalogLint.Text.exists_lowerChar`, `CatalogLint.Text.exists_upperChar` — **a form of one
  character is its own form**, and a letter if the character is one;
* `CatalogLint.Text.eq_of_lowerChar_of_upperChar` — a small form that is its own capital form is
  that of no other character.
-/

import CatalogLint.Proofs.Text.CharacterSet
import CatalogLint.Text.Case
import Mathlib.Tactic.MkIffOfInductiveProp

set_option autoImplicit false

namespace CatalogLint.Text

/-! ### The tables as sets of numbers -/

namespace CaseRow

/-- The set of the distances from the first character of a row to those in the row. -/
def offsets (row : CaseRow) : Nat :=
  if row.first ≤ row.last then
    multiplesBits row.step ((row.last - row.first) / row.step + 1)
  else 0

/-- The set of the numbers at these distances from a number that each row has. -/
def positions (start : CaseRow → Nat) : List CaseRow → Nat
  | [] => 0
  | row :: rows => row.offsets <<< start row ||| positions start rows

/-- One of the rows has the first number, and the second one is its image. -/
inductive Sends (rows : List CaseRow) (n m : Nat) : Prop where
  /-- Both numbers are at one distance. -/
  | intro {row : CaseRow} {offset : Nat} (mem : row ∈ rows)
      (member : row.offsets.testBit offset = true) (source : n = row.first + offset)
      (image : m = row.image + offset)

section
variable {row : CaseRow} {rows : List CaseRow} {start : CaseRow → Nat} {n m offset : Nat}
  {c d : Char}

theorem testBit_offsets : row.offsets.testBit offset = true ↔
    row.first + offset ≤ row.last ∧ offset % row.step = 0 := by
  rw [offsets]
  split
  · next hfirst =>
    rw [testBit_multiplesBits]
    constructor
    · rintro ⟨i, hi, rfl⟩
      have hbound : row.step * i ≤ row.last - row.first :=
        Nat.le_trans (Nat.mul_le_mul_left _ (Nat.le_of_lt_succ hi)) (Nat.mul_div_le _ _)
      exact ⟨by omega, Nat.mul_mod_right _ _⟩
    · rintro ⟨hlast, hstep⟩
      have hbound : offset ≤ row.last - row.first := by omega
      refine ⟨offset / row.step, Nat.lt_succ_of_le (Nat.div_le_div_right hbound), ?_⟩
      exact (Nat.mul_div_cancel' (Nat.dvd_of_mod_eq_zero hstep)).symm
  · rw [Nat.zero_testBit]
    exact iff_of_false Bool.false_ne_true (by omega)

theorem testBit_positions : (positions start rows).testBit n = true ↔
    ∃ row ∈ rows, ∃ offset, row.offsets.testBit offset = true ∧ n = start row + offset := by
  induction rows with
  | nil => simp [positions]
  | cons row rows ih =>
      rw [positions, Nat.testBit_or, Bool.or_eq_true, Nat.testBit_shiftLeft, Bool.and_eq_true,
        decide_eq_true_eq, ih]
      simp only [List.mem_cons, exists_eq_or_imp]
      refine or_congr_left ⟨?_, ?_⟩
      · rintro ⟨hstart, hoffset⟩
        exact ⟨n - start row, hoffset, (Nat.add_sub_cancel' hstart).symm⟩
      · rintro ⟨offset, hoffset, rfl⟩
        rw [Nat.add_sub_cancel_left]
        exact ⟨Nat.le_add_right _ _, hoffset⟩

theorem Sends.testBit_source (h : Sends rows n m) : (positions first rows).testBit n = true := by
  obtain ⟨hrow, hoffset, hn, -⟩ := h
  exact testBit_positions.2 ⟨_, hrow, _, hoffset, hn⟩

theorem Sends.testBit_image (h : Sends rows n m) : (positions image rows).testBit m = true := by
  obtain ⟨hrow, hoffset, -, hm⟩ := h
  exact testBit_positions.2 ⟨_, hrow, _, hoffset, hm⟩

theorem sends_of_lookup_eq_some (h : lookup rows c = some d) :
    ∃ m, Sends rows c.toNat m ∧ d = Char.ofNat m := by
  induction rows with
  | nil => cases h
  | cons row rows ih =>
      rw [lookup] at h
      split at h
      · next hrow =>
        obtain ⟨hfirst, hlast, hstep⟩ := hrow
        have hoffset : row.offsets.testBit (c.toNat - row.first) = true :=
          testBit_offsets.2 ⟨by rwa [Nat.add_sub_cancel' hfirst], hstep⟩
        cases h
        exact ⟨_, .intro List.mem_cons_self hoffset (Nat.add_sub_cancel' hfirst).symm rfl, rfl⟩
      · obtain ⟨m, ⟨hrow, hoffset, hn, hm⟩, rfl⟩ := ih h
        exact ⟨m, .intro (List.mem_cons_of_mem _ hrow) hoffset hn hm, rfl⟩

theorem lookup_eq_none_iff :
    lookup rows c = none ↔ (positions first rows).testBit c.toNat = false := by
  induction rows with
  | nil => simp [lookup, positions]
  | cons row rows ih =>
      have hrow : (row.offsets <<< row.first).testBit c.toNat = true ↔
          row.first ≤ c.toNat ∧ c.toNat ≤ row.last ∧ (c.toNat - row.first) % row.step = 0 := by
        rw [Nat.testBit_shiftLeft, Bool.and_eq_true, decide_eq_true_eq, testBit_offsets]
        refine and_congr_right fun hfirst => ?_
        rw [Nat.add_sub_cancel' hfirst]
      rw [positions, Nat.testBit_or, Bool.or_eq_false_iff, ← ih, ← Bool.not_eq_true, hrow, lookup]
      split
      · next h => exact iff_of_false nofun fun hnone => hnone.1 h
      · next h => exact (and_iff_right h).symm

end

end CaseRow

/-- The set of the characters that have another small form. -/
def lowered : Nat := bitsOf [0x130] ||| CaseRow.positions CaseRow.first lowerRows

/-- The set of the characters that have another capital form. -/
def raised : Nat :=
  bitsOf (longUppers.map Prod.fst) ||| CaseRow.positions CaseRow.first upperRows

/-- The set of the small forms of one character. -/
def smallForms : Nat := CaseRow.positions CaseRow.image lowerRows

/-- The set of the capital forms of one character. -/
def capitalForms : Nat := CaseRow.positions CaseRow.image upperRows

/-- The numbers of characters: all but the surrogates. -/
def scalarRanges : RangeTable := [(0, 0xD7FF), (0xE000, 0x10FFFF)]

/-- How the tables of letters and of forms lie to one another, as sets of numbers. -/
@[mk_iff]
structure FormTablesFit : Prop where
  /-- The characters with another small form are letters, -/
  lowered_letters : lowered &&& alphabeticRanges.bits = lowered
  /-- and so are those with another capital form, -/
  raised_letters : raised &&& alphabeticRanges.bits = raised
  /-- the small forms, -/
  small_letters : smallForms &&& alphabeticRanges.bits = smallForms
  /-- and the capital forms. -/
  capital_letters : capitalForms &&& alphabeticRanges.bits = capitalForms
  /-- A small form has no other small form, -/
  small_lowered : smallForms &&& lowered = 0
  /-- but it has a capital form. -/
  small_raised : smallForms &&& raised = smallForms
  /-- A capital form has no other capital form. -/
  capital_raised : capitalForms &&& raised = 0
  /-- A capital form in the table of long ones has two characters or more. -/
  long : ∀ entry ∈ longUppers, 2 ≤ entry.2.length
  /-- Letters are characters. -/
  letters_scalars : alphabeticRanges.bits &&& scalarRanges.bits = alphabeticRanges.bits

/-- One check for all the tables, so that each of them becomes a number only once. -/
theorem formTablesFit : FormTablesFit := formTablesFit_iff.2 (by decide +kernel)

section
variable {n m : Nat}

theorem testBit_smallForms (h : CaseRow.Sends lowerRows n m) : smallForms.testBit m = true := by
  rw [smallForms]
  exact h.testBit_image

theorem testBit_capitalForms (h : CaseRow.Sends upperRows n m) :
    capitalForms.testBit m = true := by
  rw [capitalForms]
  exact h.testBit_image

/-- The number of a letter is that of a character. -/
theorem toNat_ofNat_of_includesNat (h : alphabeticRanges.includesNat n = true) :
    (Char.ofNat n).toNat = n := by
  have hvalid : n.isValidChar := by
    have hscalar : scalarRanges.includesNat n = true :=
      includesNat_of_land_eq formTablesFit.letters_scalars ((RangeTable.testBit_bits _ n).trans h)
    simp [scalarRanges, RangeTable.includesNat] at hscalar
    simp only [Nat.isValidChar]
    omega
  rw [Char.ofNat, dif_pos hvalid]
  rfl

end

/-! ### The forms of a character -/

/-- A form of a character, given rows and the set of the characters that have another one. -/
inductive IsForm (rows : List CaseRow) (changed : Nat) (c d : Char) : Prop where
  /-- The character is its own form. -/
  | kept (same : d = c) (fixed : changed.testBit c.toNat = false)
  /-- The rows send the character to its form. -/
  | sent (sends : CaseRow.Sends rows c.toNat d.toNat)

section
variable {c d : Char}

theorem IsForm.of_imp {rows : List CaseRow} {changed other : Nat} (h : IsForm rows changed c d)
    (himp : other.testBit c.toNat = true → changed.testBit c.toNat = true) :
    IsForm rows other c d := by
  rcases h with ⟨same, fixed⟩ | ⟨sends⟩
  · exact .kept same (Bool.eq_false_iff.2 fun hc => Bool.eq_false_iff.1 fixed (himp hc))
  · exact .sent sends

/-- The image of a character under rows with letters as images: the character itself, if no row has
it. -/
theorem isForm_getD_lookup {rows : List CaseRow}
    (himages : ∀ n m, CaseRow.Sends rows n m → alphabeticRanges.includesNat m = true) :
    IsForm rows (CaseRow.positions CaseRow.first rows) c ((CaseRow.lookup rows c).getD c) := by
  cases hlookup : CaseRow.lookup rows c with
  | none => exact .kept rfl (CaseRow.lookup_eq_none_iff.1 hlookup)
  | some image =>
      obtain ⟨m, hsends, rfl⟩ := CaseRow.sends_of_lookup_eq_some hlookup
      refine .sent ?_
      rw [Option.getD_some, toNat_ofNat_of_includesNat (himages _ m hsends)]
      exact hsends

theorem lowerChar_dotted : lowerChar '\u0130' = ['i', '\u0307'] := if_pos rfl

theorem testBit_lowered : lowered.testBit c.toNat = true ↔
    c = '\u0130' ∨ (CaseRow.positions CaseRow.first lowerRows).testBit c.toNat = true := by
  have hdotted : c = '\u0130' ↔ c.toNat = 0x130 := Char.toNat_inj.symm
  rw [lowered, Nat.testBit_or, Bool.or_eq_true, testBit_bitsOf, List.mem_singleton, hdotted]

/-- The small form of a character, if it is no capital I with a dot. -/
theorem lowerChar_eq_singleton (h : c ≠ '\u0130') :
    ∃ d, lowerChar c = [d] ∧ IsForm lowerRows lowered c d := by
  have hform := isForm_getD_lookup (c := c) fun _ _ hsends =>
    includesNat_of_land_eq formTablesFit.small_letters (testBit_smallForms hsends)
  exact ⟨_, if_neg h, hform.of_imp fun hc => (testBit_lowered.1 hc).resolve_left h⟩

/-- Whether the capital form of the character has several characters. -/
def isLong (c : Char) : Bool := (longUppers.lookup c.toNat).isSome

theorem isLong_iff : isLong c = true ↔ c.toNat ∈ longUppers.map Prod.fst := by
  simp [isLong, List.lookup_isSome_iff]

theorem testBit_raised : raised.testBit c.toNat = true ↔
    isLong c = true ∨ (CaseRow.positions CaseRow.first upperRows).testBit c.toNat = true := by
  rw [raised, Nat.testBit_or, Bool.or_eq_true, testBit_bitsOf, isLong_iff]

/-- The capital form of a character, if it is one character. -/
theorem upperChar_eq_singleton (h : isLong c = false) :
    ∃ d, upperChar c = [d] ∧ IsForm upperRows raised c d := by
  have hnone : longUppers.lookup c.toNat = none := by simpa [isLong] using h
  have hform := isForm_getD_lookup (c := c) fun _ _ hsends =>
    includesNat_of_land_eq formTablesFit.capital_letters (testBit_capitalForms hsends)
  refine ⟨_, by rw [upperChar, hnone], hform.of_imp fun hc => ?_⟩
  exact (testBit_raised.1 hc).resolve_left (Bool.eq_false_iff.1 h)

/-- The capital form of a character, if it is several characters. -/
theorem exists_mem_longUppers (h : isLong c = true) :
    ∃ letters, (c.toNat, letters) ∈ longUppers ∧ upperChar c = letters.map Char.ofNat := by
  obtain ⟨letters, hletters⟩ := Option.isSome_iff_exists.1 h
  obtain ⟨before, after, htable, -⟩ := List.lookup_eq_some_iff.1 hletters
  refine ⟨letters, ?_, by rw [upperChar, hletters]⟩
  rw [htable]
  exact List.mem_append_right _ List.mem_cons_self

theorem two_le_length_upperChar (h : isLong c = true) : 2 ≤ (upperChar c).length := by
  obtain ⟨letters, hletters, hupper⟩ := exists_mem_longUppers h
  rw [hupper, List.length_map]
  exact formTablesFit.long _ hletters

theorem isLong_eq_false_of_upperChar (h : upperChar c = [d]) : isLong c = false := by
  refine Bool.eq_false_iff.2 fun hlong => ?_
  have hlength := two_le_length_upperChar hlong
  rw [h] at hlength
  exact Nat.not_succ_le_self 1 hlength

/-- A character that the rows send to a small form has another small form, which has none. -/
theorem testBit_lowered_of_sends (h : CaseRow.Sends lowerRows c.toNat d.toNat) :
    lowered.testBit c.toNat = true ∧ lowered.testBit d.toNat = false :=
  ⟨testBit_lowered.2 (.inr h.testBit_source),
    testBit_of_land_eq_zero formTablesFit.small_lowered (testBit_smallForms h)⟩

/-- A character that the rows send to a capital form has another capital form, which has none. -/
theorem testBit_raised_of_sends (h : CaseRow.Sends upperRows c.toNat d.toNat) :
    raised.testBit c.toNat = true ∧ raised.testBit d.toNat = false :=
  ⟨testBit_raised.2 (.inr h.testBit_source),
    testBit_of_land_eq_zero formTablesFit.capital_raised (testBit_capitalForms h)⟩

/-- A character is its own small form unless the table has another one. -/
theorem lowerChar_eq_self_iff : lowerChar c = [c] ↔ lowered.testBit c.toNat = false := by
  by_cases hdotted : c = '\u0130'
  · have hc : lowered.testBit c.toNat = true := testBit_lowered.2 (.inl hdotted)
    rw [hc, hdotted, lowerChar_dotted]
    exact iff_of_false nofun nofun
  · obtain ⟨d, hlower, ⟨rfl, hc⟩ | ⟨hsends⟩⟩ := lowerChar_eq_singleton hdotted
    · exact iff_of_true hlower hc
    · obtain ⟨hc, hd⟩ := testBit_lowered_of_sends hsends
      rw [hlower, List.singleton_inj]
      exact iff_of_false (fun hdc => by simp [hdc, hc] at hd) (by simp [hc])

/-- A character is its own capital form unless the tables have another one. -/
theorem upperChar_eq_self_iff : upperChar c = [c] ↔ raised.testBit c.toNat = false := by
  cases hlong : isLong c with
  | true =>
      have hc : raised.testBit c.toNat = true := testBit_raised.2 (.inl hlong)
      refine iff_of_false (fun hupper => ?_) (by simp [hc])
      exact Bool.false_ne_true ((isLong_eq_false_of_upperChar hupper).symm.trans hlong)
  | false =>
      obtain ⟨d, hupper, ⟨rfl, hc⟩ | ⟨hsends⟩⟩ := upperChar_eq_singleton hlong
      · exact iff_of_true hupper hc
      · obtain ⟨hc, hd⟩ := testBit_raised_of_sends hsends
        rw [hupper, List.singleton_inj]
        exact iff_of_false (fun hdc => by simp [hdc, hc] at hd) (by simp [hc])

/-- What is no letter has no other forms. -/
theorem forms_of_not_letter (h : isAlphabetic c = false) :
    lowerChar c = [c] ∧ upperChar c = [c] := by
  have hletter : ¬isAlphabetic c = true := Bool.eq_false_iff.1 h
  rw [lowerChar_eq_self_iff, upperChar_eq_self_iff, Bool.eq_false_iff, Bool.eq_false_iff]
  exact ⟨fun hc => hletter (includesNat_of_land_eq formTablesFit.lowered_letters hc),
    fun hc => hletter (includesNat_of_land_eq formTablesFit.raised_letters hc)⟩

/-- **A small form of one character is its own small form.** -/
theorem exists_lowerChar (h : c ≠ '\u0130') :
    ∃ d, lowerChar c = [d] ∧ lowerChar d = [d] ∧ isAlphabetic d = isAlphabetic c := by
  obtain ⟨d, hlower, ⟨rfl, hc⟩ | ⟨hsends⟩⟩ := lowerChar_eq_singleton h
  · exact ⟨d, hlower, hlower, rfl⟩
  · obtain ⟨hc, hd⟩ := testBit_lowered_of_sends hsends
    have hletter : isAlphabetic d = true :=
      includesNat_of_land_eq formTablesFit.small_letters (testBit_smallForms hsends)
    refine ⟨d, hlower, lowerChar_eq_self_iff.2 hd, hletter.trans ?_⟩
    exact (includesNat_of_land_eq formTablesFit.lowered_letters hc).symm

/-- **A capital form of one character is its own capital form.** -/
theorem exists_upperChar (h : isLong c = false) :
    ∃ d, upperChar c = [d] ∧ upperChar d = [d] ∧ isAlphabetic d = isAlphabetic c := by
  obtain ⟨d, hupper, ⟨rfl, hc⟩ | ⟨hsends⟩⟩ := upperChar_eq_singleton h
  · exact ⟨d, hupper, hupper, rfl⟩
  · obtain ⟨hc, hd⟩ := testBit_raised_of_sends hsends
    have hletter : isAlphabetic d = true :=
      includesNat_of_land_eq formTablesFit.capital_letters (testBit_capitalForms hsends)
    refine ⟨d, hupper, upperChar_eq_self_iff.2 hd, hletter.trans ?_⟩
    exact (includesNat_of_land_eq formTablesFit.raised_letters hc).symm

/-- A small form that is its own capital form is that of no other character. -/
theorem eq_of_lowerChar_of_upperChar (hlower : lowerChar c = [d]) (hupper : upperChar d = [d]) :
    c = d := by
  have hdotted : c ≠ '\u0130' := by
    rintro rfl
    cases lowerChar_dotted.symm.trans hlower
  obtain ⟨e, he, ⟨rfl, -⟩ | ⟨hsends⟩⟩ := lowerChar_eq_singleton hdotted
  · exact List.singleton_inj.1 (he.symm.trans hlower)
  · obtain rfl := List.singleton_inj.1 (he.symm.trans hlower)
    have hraised := testBit_of_land_eq formTablesFit.small_raised (testBit_smallForms hsends)
    exact absurd (upperChar_eq_self_iff.1 hupper) (by simp [hraised])

end

end CatalogLint.Text
