/-
**The order of texts is that of their bytes.**

Texts are compared by the numbers of their characters, and a map with texts for keys is sorted by
bytes.  Both orders are the same: UTF-8 writes a character with a greater number in a way that comes
later, and no character is written as the beginning of another one.

Main definition:

* `CatalogLint.Text.bytes` — a text in UTF-8.

Main results:

* `CatalogLint.Text.utf8EncodeChar_append_lt` — the order of two characters decides, whatever
  follows them;
* `CatalogLint.Text.compare_eq_lt_iff` — **one text comes before another one if and only if its
  bytes do**.
-/

import CatalogLint.Proofs.Selection.Order
import Mathlib.Tactic.SplitIfs

set_option autoImplicit false

namespace CatalogLint.Text

open Std (OrientedCmp)

/-- The text in UTF-8. -/
def bytes (text : Text) : List UInt8 := text.flatMap String.utf8EncodeChar

/-- A character with a greater number is written so that it comes later, whatever follows. -/
theorem utf8EncodeChar_append_lt {c d : Char} (h : c.toNat < d.toNat) (s t : List UInt8) :
    String.utf8EncodeChar c ++ s < String.utf8EncodeChar d ++ t := by
  have hbound : d.toNat < 0x110000 := by
    have hvalid := d.valid
    simp only [UInt32.isValidChar, Nat.isValidChar, Char.toNat_val] at hvalid
    omega
  simp only [String.utf8EncodeChar, Char.toNat_val]
  -- the first bytes of a longer form are greater; within a form the digits decide
  split_ifs <;>
    simp (disch := omega) only [List.cons_append, List.nil_append, List.cons_lt_cons_iff,
      UInt8.lt_iff_toNat_lt, ← UInt8.toNat_inj, UInt8.toNat_ofNat', Nat.mod_eq_of_lt] <;>
    omega

theorem bytes_lt_of_compare_eq_lt {s t : Text} (h : compare s t = .lt) : bytes s < bytes t := by
  induction s generalizing t with
  | nil =>
      cases t with
      | nil => exact absurd h (by decide)
      | cons d t =>
          rw [bytes, bytes, List.flatMap_nil, List.flatMap_cons]
          have hwritten : String.utf8EncodeChar d ≠ [] := String.utf8EncodeChar_ne_nil
          obtain ⟨first, rest, hfirst⟩ := List.exists_cons_of_ne_nil hwritten
          rw [hfirst]
          exact List.nil_lt_cons _ _
  | cons c s ih =>
      cases t with
      | nil => exact absurd h (by simp [compare])
      | cons d t =>
          rw [bytes, bytes, List.flatMap_cons, List.flatMap_cons]
          rcases Nat.lt_trichotomy c.toNat d.toNat with hlt | heq | hgt
          · exact utf8EncodeChar_append_lt hlt _ _
          · obtain rfl := Char.toNat_inj.1 heq
            have hrest : compare s t = .lt := by simpa [compare] using h
            exact List.append_left_lt (ih hrest)
          · rw [compare, Nat.compare_eq_gt.2 hgt] at h
            exact absurd h Ordering.noConfusion

/-- **One text comes before another one if and only if its bytes do.** -/
theorem compare_eq_lt_iff {s t : Text} : compare s t = .lt ↔ bytes s < bytes t := by
  refine ⟨bytes_lt_of_compare_eq_lt, fun h => ?_⟩
  cases hcompare : compare s t with
  | lt => rfl
  | eq =>
      rw [compare_eq_eq_iff.1 hcompare] at h
      exact absurd h (List.lt_irrefl _)
  | gt =>
      have hback := bytes_lt_of_compare_eq_lt (OrientedCmp.lt_of_gt hcompare)
      exact absurd hback (List.lt_asymm h)

end CatalogLint.Text
