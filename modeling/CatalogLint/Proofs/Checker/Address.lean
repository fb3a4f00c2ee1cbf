/-
**Addresses of web pages keep their places when they are escaped.**

The colon of an address must not be taken for a sign, so it is exchanged for a dash before signs are
looked for.  This is done for one scheme after the other.  Neither scheme can overlap with the other
one or with itself, so that all colons of addresses are exchanged and nothing else is.

Main definitions:

* `CatalogLint.Checker.Spacing.address` — how an address with a scheme begins;
* `CatalogLint.Checker.Spacing.IsSchemeColon` — the place of the colon of an address.

Main results:

* `CatalogLint.Checker.Spacing.getElem?_escaped` — the addresses of one scheme;
* `CatalogLint.Checker.Spacing.getElem?_escapeAddresses_of_isSchemeColon`,
  `CatalogLint.Checker.Spacing.getElem?_escapeAddresses_of_not` — **the text with its addresses
  escaped, place by place**.
-/

import CatalogLint.Checker.Spacing
import CatalogLint.Proofs.Markup.Masked

set_option autoImplicit false

namespace CatalogLint.Checker.Spacing

open Markup (getElem?_of_prefix_drop)

/-- How an address with the scheme begins. -/
def address (scheme : Text) : Text := scheme ++ [':', '/', '/']

/-- An address with the scheme stands in the text, with its colon at the place. -/
def HasColonOf (scheme text : Text) (index : Nat) : Prop :=
  ∃ start, index = start + scheme.length ∧ address scheme <+: text.drop start

/-- The place is that of the colon of an address, after one of the two schemes. -/
def IsSchemeColon (text : Text) (index : Nat) : Prop :=
  HasColonOf "http" text index ∨ HasColonOf "https" text index

/-! ### One scheme -/

/-- The text with the colons after a scheme exchanged for dashes. -/
def escaped (scheme text : Text) : Text :=
  Text.replaceAll (Text.replacing (address scheme) (scheme ++ ['-', '/', '/'])) text

theorem escapeAddresses_eq (text : Text) :
    escapeAddresses text = escaped "https" (escaped "http" text) := rfl

/-- **The addresses of one scheme**: where its colon stands there is a dash, and every other place
has its character. -/
theorem getElem?_escaped {c : Char} {tail : Text} (htail : c ∉ tail ++ [':', '/', '/'])
    (text : Text) (index : Nat) :
    HasColonOf (c :: tail) text index ∧ (escaped (c :: tail) text)[index]? = some '-' ∨
      ¬ HasColonOf (c :: tail) text index ∧ (escaped (c :: tail) text)[index]? = text[index]? := by
  have hlength : (c :: tail ++ ['-', '/', '/']).length = (address (c :: tail)).length := by
    simp [address]
  by_cases hcolon : HasColonOf (c :: tail) text index
  · obtain ⟨start, rfl, hstart⟩ := hcolon
    refine .inl ⟨⟨start, rfl, hstart⟩, ?_⟩
    rw [escaped, address, List.cons_append,
      Text.getElem?_replaceAll_replacing (by simp) htail hstart (by simp)]
    simp
  · refine .inr ⟨hcolon, ?_⟩
    have hkeeps := Text.keepsLength_replacing (by simp [address]) hlength
    obtain hsame | ⟨start, length, image, hmatch, hle, hlt, hshown⟩ :=
      Text.shows_replaceAll hkeeps text index
    · exact hsame
    · -- the image of a match differs from it at the colon only
      obtain ⟨rest, hrest, heq⟩ := Option.map_eq_some_iff.1 hmatch
      cases heq
      have hstart : address (c :: tail) <+: text.drop start :=
        ⟨rest, (Text.dropStart?_eq_some_iff.1 hrest).symm⟩
      obtain ⟨offset, rfl⟩ := Nat.exists_eq_add_of_le hle
      have hne : offset ≠ (c :: tail).length := fun h => hcolon ⟨start, by rw [h], hstart⟩
      have hoffset : offset < (address (c :: tail)).length := by omega
      rw [escaped, hshown, Nat.add_sub_cancel_left, getElem?_of_prefix_drop hstart hoffset,
        ← List.getElem?_eq_getElem hoffset, address]
      rcases Nat.lt_or_ge offset (c :: tail).length with hscheme | hslashes
      · rw [List.getElem?_append_left hscheme, List.getElem?_append_left hscheme]
      · rw [List.getElem?_append_right hslashes, List.getElem?_append_right hslashes]
        obtain ⟨slash, hslash⟩ : ∃ k, offset - (c :: tail).length = k + 1 :=
          ⟨offset - (c :: tail).length - 1, by omega⟩
        rw [hslash, List.getElem?_cons_succ, List.getElem?_cons_succ]

/-! ### Both schemes -/

theorem getElem?_escaped_http (text : Text) (index : Nat) :
    HasColonOf "http" text index ∧ (escaped "http" text)[index]? = some '-' ∨
      ¬ HasColonOf "http" text index ∧ (escaped "http" text)[index]? = text[index]? :=
  getElem?_escaped (by decide) text index

theorem getElem?_escaped_https (text : Text) (index : Nat) :
    HasColonOf "https" text index ∧ (escaped "https" text)[index]? = some '-' ∨
      ¬ HasColonOf "https" text index ∧ (escaped "https" text)[index]? = text[index]? :=
  getElem?_escaped (by decide) text index

/-- No address of the first scheme has its colon in an address of the second one. -/
theorem not_hasColonOf_http {text : Text} {start offset : Nat}
    (hstart : address "https" <+: text.drop start) (hoffset : offset < (address "https").length) :
    ¬ HasColonOf "http" text (start + offset) := by
  rintro ⟨other, hplace, hother⟩
  have hcolons : ∀ (i : Nat) (h : i < (address "https").length),
      (address "https")[i] = ':' → i = 5 := by decide
  have hhere := getElem?_of_prefix_drop hstart hoffset
  have hcolon := getElem?_of_prefix_drop hother (show 4 < (address "http").length by decide)
  rw [hplace] at hhere
  obtain rfl := hcolons offset hoffset (Option.some.inj (hhere.symm.trans hcolon))
  -- so the first scheme would begin with the second character of the other one
  obtain rfl : other = start + 1 := by
    have hlength : ("http" : Text).length = 4 := rfl
    omega
  have hsecond := getElem?_of_prefix_drop hstart (show 1 < (address "https").length by decide)
  have hfirst := getElem?_of_prefix_drop hother (show 0 < (address "http").length by decide)
  exact absurd (Option.some.inj (hsecond.symm.trans hfirst)) (by decide)

/-- The second scheme finds its addresses where they were before the first one was looked for. -/
theorem hasColonOf_https_escaped_iff {text : Text} {index : Nat} :
    HasColonOf "https" (escaped "http" text) index ↔ HasColonOf "https" text index := by
  refine exists_congr fun start => and_congr_right' ?_
  constructor
  · intro hstart
    refine List.prefix_iff_getElem?.2 fun offset hoffset => ?_
    have hshown := getElem?_of_prefix_drop hstart hoffset
    rw [List.getElem?_drop]
    obtain ⟨-, hdash⟩ | ⟨-, hsame⟩ := getElem?_escaped_http text (start + offset)
    · have hnone : '-' ∉ address "https" := by decide
      rw [hdash] at hshown
      exact absurd (Option.some.inj hshown ▸ List.getElem_mem hoffset) hnone
    · rw [← hsame, hshown]
  · intro hstart
    refine List.prefix_iff_getElem?.2 fun offset hoffset => ?_
    rw [List.getElem?_drop]
    obtain ⟨hcolon, -⟩ | ⟨-, hsame⟩ := getElem?_escaped_http text (start + offset)
    · exact absurd hcolon (not_hasColonOf_http hstart hoffset)
    · rw [hsame, getElem?_of_prefix_drop hstart hoffset]

/-- **The colon of an address has a dash in its place.** -/
theorem getElem?_escapeAddresses_of_isSchemeColon {text : Text} {index : Nat}
    (h : IsSchemeColon text index) : (escapeAddresses text)[index]? = some '-' := by
  rw [escapeAddresses_eq]
  obtain ⟨-, hdash⟩ | ⟨hnot, hsame⟩ := getElem?_escaped_https (escaped "http" text) index
  · exact hdash
  · rw [hasColonOf_https_escaped_iff] at hnot
    obtain ⟨-, hdash⟩ | ⟨hnot', -⟩ := getElem?_escaped_http text index
    · rw [hsame, hdash]
    · exact absurd h (not_or.2 ⟨hnot', hnot⟩)

/-- **Every other place has its character.** -/
theorem getElem?_escapeAddresses_of_not {text : Text} {index : Nat}
    (h : ¬ IsSchemeColon text index) : (escapeAddresses text)[index]? = text[index]? := by
  obtain ⟨hhttp, hhttps⟩ := not_or.1 h
  rw [escapeAddresses_eq]
  obtain ⟨hcolon, -⟩ | ⟨-, hsame⟩ := getElem?_escaped_https (escaped "http" text) index
  · exact absurd (hasColonOf_https_escaped_iff.1 hcolon) hhttps
  · obtain ⟨hcolon, -⟩ | ⟨-, hsame'⟩ := getElem?_escaped_http text index
    · exact absurd hcolon hhttp
    · rw [hsame, hsame']

end CatalogLint.Checker.Spacing
