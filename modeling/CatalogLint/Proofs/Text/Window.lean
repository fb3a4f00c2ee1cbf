/-
**The windows of a text.**

A window is cut out of a text at positions that are given in characters or in bytes.  Positions in
characters are cut off at the end of the text and always give a window.  A position in bytes has to
fall between two characters of the text in UTF-8; then it has so many characters before it, the
window before it ends there, and the window after it begins there.

Main definitions:

* `CatalogLint.Text.IsBoundary` — a byte position falls between two characters;
* `CatalogLint.Text.byteOfChar`, `CatalogLint.Text.cutBytes` — the byte position of a character, and
  the text between two byte positions;
* `CatalogLint.Text.FramedAt`, `CatalogLint.Text.WindowsExact` — what there is to say about the
  windows at a byte position, and about all windows of a text.

Main results:

* `CatalogLint.Text.splitAtByte_eq_none_iff` — a text is cut at the byte positions between its
  characters, and nowhere else;
* `CatalogLint.Text.cutBytes_byteOfChar` — **a window between characters can be cut by bytes**;
* `CatalogLint.Text.framedAt` — **the windows at a byte position meet there**;
* `CatalogLint.Text.windowsExact` — all windows of a text.
-/

import CatalogLint.Text.Window
import Mathlib.Order.MinMax

set_option autoImplicit false

namespace CatalogLint.Text

variable {text head tail : Text} {byte : Nat}

/-! ### Bytes of a text -/

theorem byteLength_append (text more : Text) :
    byteLength (text ++ more) = byteLength text + byteLength more := by
  induction text with
  | nil => simp [byteLength]
  | cons c text ih => rw [List.cons_append, byteLength, byteLength, ih, Nat.add_assoc]

/-- The bytes of a text are those of the string in UTF-8. -/
theorem utf8ByteSize_toString (text : Text) : (toString text).utf8ByteSize = byteLength text := by
  induction text with
  | nil => rfl
  | cons c text ih =>
      have hsplit : toString (c :: text) = String.singleton c ++ toString text := by
        rw [toString, toString, String.singleton_eq_ofList, ← String.ofList_append,
          List.singleton_append]
      rw [hsplit, String.utf8ByteSize_append, String.utf8ByteSize_singleton, ih, byteLength]

/-- The position, counted in bytes, falls between two characters of the text in UTF-8, or at one of
its ends. -/
def IsBoundary (text : Text) (byte : Nat) : Prop :=
  String.Pos.Raw.IsValid (toString text) ⟨byte⟩

theorem isBoundary_iff :
    IsBoundary text byte ↔ ∃ head tail, text = head ++ tail ∧ byteLength head = byte := by
  rw [IsBoundary, toString, String.Pos.Raw.isValid_ofList]
  constructor
  · rintro ⟨position, hbyte⟩
    exact ⟨text.take position, text.drop position, (List.take_append_drop position text).symm,
      (utf8ByteSize_toString _).symm.trans hbyte.symm⟩
  · rintro ⟨head, tail, rfl, rfl⟩
    exact ⟨head.length, by rw [List.take_left]; exact (utf8ByteSize_toString head).symm⟩

/-- **A text is cut at the byte positions between its characters, and nowhere else.** -/
theorem splitAtByte_eq_none_iff : splitAtByte text byte = none ↔ ¬ IsBoundary text byte := by
  rw [isBoundary_iff, Option.eq_none_iff_forall_ne_some]
  constructor
  · rintro h ⟨head, tail, hcut⟩
    exact h (head, tail) (splitAtByte_eq_some_iff.2 hcut)
  · rintro h ⟨head, tail⟩ hcut
    exact h ⟨head, tail, splitAtByte_eq_some_iff.1 hcut⟩

theorem splitAtByte_append (head tail : Text) :
    splitAtByte (head ++ tail) (byteLength head) = some (head, tail) :=
  splitAtByte_eq_some_iff.2 ⟨rfl, rfl⟩

/-! ### Windows between characters -/

/-- The position in bytes at which a character begins, or the text ends if there are not so many. -/
def byteOfChar (text : Text) (position : Nat) : Nat := byteLength (text.take position)

/-- The text between two positions in bytes; `none` if one of them does not fall between two
characters, or if the first one comes after the last one. -/
def cutBytes (text : Text) (first last : Nat) : Option Text :=
  (splitAtByte text last).bind fun (head, _) =>
    (splitAtByte head first).map fun (_, window) => window

/-- The window is what is left of a beginning of the text. -/
theorem slice_eq_drop_take (text : Text) (first last : Nat) :
    slice text first last = (text.take (max first last)).drop first := by
  rw [slice, List.drop_take]
  congr 1
  omega

theorem monotone_byteOfChar (text : Text) : Monotone (byteOfChar text) := by
  intro first last h
  have hmore : text.take last = text.take first ++ (text.drop first).take (last - first) := by
    rw [← List.take_add, Nat.add_sub_cancel' h]
  rw [byteOfChar, byteOfChar, hmore, byteLength_append]
  exact Nat.le_add_right _ _

/-- **A window between characters can be cut by bytes**: both ends fall between characters, and the
last one is not before the first one when it is put there. -/
theorem cutBytes_byteOfChar (text : Text) (first last : Nat) :
    cutBytes text (byteOfChar text first) (max (byteOfChar text first) (byteOfChar text last)) =
      some (slice text first last) := by
  have hcut : splitAtByte text (byteOfChar text (max first last)) =
      some (text.take (max first last), text.drop (max first last)) :=
    splitAtByte_eq_some_iff.2 ⟨(List.take_append_drop _ text).symm, rfl⟩
  have hfirst : text.take first = (text.take (max first last)).take first := by
    rw [List.take_take, Nat.min_eq_left (Nat.le_max_left first last)]
  have hinner : splitAtByte (text.take (max first last)) (byteOfChar text first) =
      some (text.take first, (text.take (max first last)).drop first) :=
    splitAtByte_eq_some_iff.2 ⟨by rw [hfirst, List.take_append_drop], rfl⟩
  rw [← (monotone_byteOfChar text).map_max, cutBytes, hcut, Option.bind_some, slice_eq_drop_take]
  dsimp only
  rw [hinner, Option.map_some]

/-! ### Windows at a byte position -/

/-- What there is to say about a position, counted in bytes, with `head` before it and `tail` after
it. -/
structure FramedAt (text : Text) (byte : Nat) (head tail : Text) : Prop where
  /-- Both make up the text. -/
  whole : text = head ++ tail
  /-- The bytes before the position are those of `head`. -/
  bytes : (toString head).utf8ByteSize = byte
  /-- The characters before it are those of `head`. -/
  position : charOfByte text byte = some head.length
  /-- The window up to this character is `head`. -/
  upTo : slice text 0 head.length = head
  /-- The window before the position has the last characters of `head`, as many as it may have or
  as there are. -/
  before (width : Nat) : ∃ left, before text byte width = some left ∧ left <:+ head ∧
    left.length = min width head.length
  /-- The window after the position has the first characters of `tail`. -/
  after (width : Nat) : ∃ right, after text byte width = some right ∧ right <+: tail ∧
    right.length = min width tail.length
  /-- No character stands between the two windows. -/
  contiguous (width other : Nat) {left right : Text}
    (hleft : Text.before text byte width = some left)
    (hright : Text.after text byte other = some right) : left ++ right <:+: text

/-- **The windows at a byte position meet there.** -/
theorem framedAt (head tail : Text) : FramedAt (head ++ tail) (byteLength head) head tail := by
  have hcut := splitAtByte_append head tail
  have hbefore (width : Nat) :
      before (head ++ tail) (byteLength head) width = some (lastChars width head) := by
    rw [before, hcut, Option.map_some]
  have hafter (width : Nat) :
      after (head ++ tail) (byteLength head) width = some (tail.take width) := by
    rw [after, hcut, Option.map_some]
  refine ⟨rfl, utf8ByteSize_toString head, ?position, ?upTo, fun width => ?before,
    fun width => ?after, fun width other left right hleft hright => ?contiguous⟩
  case position => rw [charOfByte, hcut, Option.map_some]
  case upTo => rw [slice, List.drop_zero, Nat.sub_zero, List.take_left]
  case before =>
    exact ⟨_, hbefore width, lastChars_suffix width head, length_lastChars width head⟩
  case after => exact ⟨_, hafter width, List.take_prefix width tail, List.length_take⟩
  case contiguous =>
    obtain rfl := Option.some.inj ((hbefore width).symm.trans hleft)
    obtain rfl := Option.some.inj ((hafter other).symm.trans hright)
    obtain ⟨front, hfront⟩ := lastChars_suffix width head
    obtain ⟨back, hback⟩ := List.take_prefix other tail
    refine ⟨front, back, ?_⟩
    rw [← List.append_assoc, hfront, List.append_assoc, hback]

/-- All windows of the text are what they ought to be. -/
structure WindowsExact (text : Text) : Prop where
  /-- A window has the characters between two positions, both cut off at the end of the text. -/
  window (first last : Nat) : slice text first last =
    (text.take (min (max first last) text.length)).drop (min first text.length)
  /-- It can be cut by bytes. -/
  bytes (first last : Nat) :
    cutBytes text (byteOfChar text first) (max (byteOfChar text first) (byteOfChar text last)) =
      some (slice text first last)
  /-- There are no windows at a byte position inside a character or past the end. -/
  refused (byte : Nat) (h : ¬ IsBoundary text byte) :
    charOfByte text byte = none ∧
      ∀ width, before text byte width = none ∧ after text byte width = none
  /-- At any other byte position, there are the windows before and after it. -/
  framed (byte : Nat) (h : IsBoundary text byte) : ∃ head tail, FramedAt text byte head tail

/-- **All windows of a text are what they ought to be.** -/
theorem windowsExact (text : Text) : WindowsExact text := by
  refine ⟨fun first last => ?window, cutBytes_byteOfChar text, fun byte h => ?refused,
    fun byte h => ?framed⟩
  case window =>
    rw [slice_eq_drop_take]
    rcases Nat.le_total (max first last) text.length with hle | hle
    · rw [Nat.min_eq_left hle, Nat.min_eq_left (Nat.le_trans (Nat.le_max_left first last) hle)]
    · rw [Nat.min_eq_right hle, List.take_of_length_le hle, List.take_length]
      rcases Nat.le_total first text.length with hfirst | hfirst
      · rw [Nat.min_eq_left hfirst]
      · rw [Nat.min_eq_right hfirst, List.drop_of_length_le hfirst, List.drop_length]
  case refused =>
    have hnone := splitAtByte_eq_none_iff.2 h
    refine ⟨by rw [charOfByte, hnone, Option.map_none], fun width => ⟨?_, ?_⟩⟩
    · rw [before, hnone, Option.map_none]
    · rw [after, hnone, Option.map_none]
  case framed =>
    obtain ⟨head, tail, rfl, rfl⟩ := isBoundary_iff.1 h
    exact ⟨head, tail, framedAt head tail⟩

end CatalogLint.Text
