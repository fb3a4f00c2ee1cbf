/-
**Sets of characters as numbers.**

The tables of characters are long, and a law that holds for all characters compares whole tables.  A
set of character numbers is one number here, whose bits are the members: that a table is part of
another, or has nothing in common with it, is then one operation on two numbers.

Main definitions:

* `CatalogLint.Text.bitsOf` — the set of some numbers;
* `CatalogLint.Text.RangeTable.bits` — the set of the numbers in a table of ranges;
* `CatalogLint.Text.multiplesBits` — the set of the first multiples of a number.

Main results:

* `CatalogLint.Text.testBit_bitsOf`, `CatalogLint.Text.RangeTable.testBit_bits`,
  `CatalogLint.Text.testBit_multiplesBits` — the members;
* `CatalogLint.Text.testBit_of_land_eq`, `CatalogLint.Text.includesNat_of_land_eq` — the members of
  a part of a set;
* `CatalogLint.Text.testBit_of_land_eq_zero`,
  `CatalogLint.Text.includesNat_eq_false_of_land_eq_zero` — the members of a set apart from another.
-/

import CatalogLint.Text.Class

set_option autoImplicit false

namespace CatalogLint.Text

/-- The set of some numbers. -/
def bitsOf : List Nat → Nat
  | [] => 0
  | n :: numbers => 1 <<< n ||| bitsOf numbers

theorem testBit_bitsOf {numbers : List Nat} {n : Nat} :
    (bitsOf numbers).testBit n = true ↔ n ∈ numbers := by
  induction numbers with
  | nil => simp [bitsOf]
  | cons m numbers ih =>
      rw [bitsOf, Nat.testBit_or, Nat.one_shiftLeft, Nat.testBit_two_pow, Bool.or_eq_true, ih,
        List.mem_cons, decide_eq_true_eq, eq_comm]

/-- The set of the numbers in the ranges.  What the later ranges say on smaller numbers than those
of the first one does not count. -/
def RangeTable.bits : RangeTable → Nat
  | [] => 0
  | (first, last) :: table =>
    (((1 <<< (last + 1 - first)) - 1) ||| (bits table >>> first)) <<< first

theorem RangeTable.testBit_bits (table : RangeTable) (n : Nat) :
    table.bits.testBit n = table.includesNat n := by
  induction table with
  | nil => exact Nat.zero_testBit n
  | cons range table ih =>
      obtain ⟨first, last⟩ := range
      rw [bits, Nat.testBit_shiftLeft, includesNat]
      by_cases hfirst : first ≤ n
      · have hlast : n - first < last + 1 - first ↔ n ≤ last := by omega
        rw [Nat.testBit_or, Nat.one_shiftLeft, Nat.testBit_two_pow_sub_one, Nat.testBit_shiftRight,
          Nat.add_sub_cancel' hfirst, ih, decide_eq_decide.2 hlast]
      · simp [hfirst]

/-- The set of the first multiples of a number, as many of them as told. -/
def multiplesBits (step : Nat) : Nat → Nat
  | 0 => 0
  | count + 1 => multiplesBits step count <<< step ||| 1

theorem testBit_multiplesBits {step count n : Nat} :
    (multiplesBits step count).testBit n = true ↔ ∃ i < count, n = step * i := by
  induction count generalizing n with
  | zero => simp [multiplesBits]
  | succ count ih =>
      rw [multiplesBits, Nat.testBit_or, Bool.or_eq_true, Nat.testBit_shiftLeft, Bool.and_eq_true,
        decide_eq_true_eq, ih, Nat.testBit_one_eq_true_iff_self_eq_zero]
      constructor
      · rintro (⟨hstep, i, hi, hn⟩ | rfl)
        · exact ⟨i + 1, Nat.succ_lt_succ hi, by rw [Nat.mul_succ]; omega⟩
        · exact ⟨0, Nat.succ_pos count, rfl⟩
      · rintro ⟨i, hi, rfl⟩
        cases i with
        | zero => exact .inr rfl
        | succ i =>
            rw [Nat.mul_succ, Nat.add_sub_cancel]
            exact .inl ⟨Nat.le_add_left _ _, i, Nat.lt_of_succ_lt_succ hi, rfl⟩

/-! ### Parts of sets, and sets apart -/

section
variable {set other n : Nat} {table : RangeTable}

/-- The members of a part of a set are members of the set. -/
theorem testBit_of_land_eq (h : set &&& other = set) (hn : set.testBit n = true) :
    other.testBit n = true := by
  rw [← h, Nat.testBit_and, Bool.and_eq_true] at hn
  exact hn.2

/-- The members of a set are not in a set that has nothing in common with it. -/
theorem testBit_of_land_eq_zero (h : set &&& other = 0) (hn : set.testBit n = true) :
    other.testBit n = false := by
  have hboth := congrArg (Nat.testBit · n) h
  simpa [Nat.testBit_and, hn] using hboth

theorem includesNat_of_land_eq (h : set &&& table.bits = set) (hn : set.testBit n = true) :
    table.includesNat n = true := by
  rw [← RangeTable.testBit_bits]
  exact testBit_of_land_eq h hn

theorem includesNat_eq_false_of_land_eq_zero (h : set &&& table.bits = 0)
    (hn : set.testBit n = true) : table.includesNat n = false := by
  rw [← RangeTable.testBit_bits]
  exact testBit_of_land_eq_zero h hn

end

end CatalogLint.Text
