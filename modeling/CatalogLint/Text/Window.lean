/-
Cutting windows out of a text.

Positions count characters.  A window that reaches past the end of the text is cut off there.
Where a position comes as a number of UTF-8 bytes, it first has to fall on the beginning of a
character.

* `CatalogLint.Text.slice` — the characters between two positions;
* `CatalogLint.Text.lastChars` — the last characters of a text;
* `CatalogLint.Text.splitAtByte` — the text before and after a byte position;
* `CatalogLint.Text.charOfByte`, `CatalogLint.Text.before`, `CatalogLint.Text.after` — the character
  position and the windows at a byte position.

Main statement: `splitAtByte_eq_some_iff`, the cut at a byte position is the one with that many
bytes before it.
-/

import CatalogLint.Text.Basic

set_option autoImplicit false

namespace CatalogLint.Text

/-- The characters from position `first` up to, but not including, position `last`. -/
def slice (text : Text) (first last : Nat) : Text := (text.drop first).take (last - first)

@[simp] theorem length_slice (text : Text) (first last : Nat) :
    (slice text first last).length = min (last - first) (text.length - first) := by
  simp [slice]

def lastChars (width : Nat) (text : Text) : Text := text.drop (text.length - width)

theorem lastChars_suffix (width : Nat) (text : Text) : lastChars width text <:+ text :=
  List.drop_suffix _ _

@[simp] theorem length_lastChars (width : Nat) (text : Text) :
    (lastChars width text).length = min width text.length := by
  simp [lastChars]
  omega

/-- The text before and after a position counted in UTF-8 bytes; `none` if the position is past the
end or inside a character. -/
def splitAtByte : Text → Nat → Option (Text × Text)
  | text, 0 => some ([], text)
  | [], _ + 1 => none
  | c :: text, byte + 1 =>
    if c.utf8Size ≤ byte + 1 then
      (splitAtByte text (byte + 1 - c.utf8Size)).map fun (head, tail) => (c :: head, tail)
    else none

def byteLength : Text → Nat
  | [] => 0
  | c :: text => c.utf8Size + byteLength text

/-- A byte position falls between two characters exactly if the bytes of the text before it are as
many as it says. -/
theorem splitAtByte_eq_some_iff {text head tail : Text} {byte : Nat} :
    splitAtByte text byte = some (head, tail) ↔ text = head ++ tail ∧ byteLength head = byte := by
  induction text generalizing byte head with
  | nil =>
    cases byte with
    | zero => cases head <;> cases tail <;> simp [splitAtByte, byteLength]
    | succ byte =>
      cases head <;> simp [splitAtByte, byteLength]
  | cons c text ih =>
    have hc := c.utf8Size_pos
    cases byte with
    | zero =>
      cases head with
      | nil => simp [splitAtByte, byteLength, eq_comm]
      | cons d head =>
        have hd := d.utf8Size_pos
        simp [splitAtByte, byteLength]
        omega
    | succ byte =>
      rw [splitAtByte]
      cases head with
      | nil => simp [byteLength]
      | cons d head =>
        by_cases h : c.utf8Size ≤ byte + 1
        · simp only [h, if_true, Option.map_eq_some_iff, Prod.exists, Prod.mk.injEq,
            List.cons.injEq, List.cons_append, byteLength]
          constructor
          · rintro ⟨a, b, hs, ⟨rfl, rfl⟩, rfl⟩
            obtain ⟨rfl, hb⟩ := ih.mp hs
            exact ⟨⟨rfl, rfl⟩, by omega⟩
          · rintro ⟨⟨rfl, rfl⟩, hb⟩
            exact ⟨head, tail, ih.mpr ⟨rfl, by omega⟩, ⟨rfl, rfl⟩, rfl⟩
        · simp only [h, if_false, byteLength, List.cons_append, List.cons.injEq]
          constructor
          · simp
          · rintro ⟨⟨rfl, rfl⟩, hb⟩
            omega

/-- The number of characters before a byte position. -/
def charOfByte (text : Text) (byte : Nat) : Option Nat :=
  (splitAtByte text byte).map fun (head, _) => head.length

/-- Up to `width` characters before a byte position. -/
def before (text : Text) (byte width : Nat) : Option Text :=
  (splitAtByte text byte).map fun (head, _) => lastChars width head

/-- Up to `width` characters from a byte position on. -/
def after (text : Text) (byte width : Nat) : Option Text :=
  (splitAtByte text byte).map fun (_, tail) => tail.take width

end CatalogLint.Text
