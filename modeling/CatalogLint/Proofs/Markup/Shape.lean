/-
**What the rules of markup rewrite.**

Each rule takes a part that begins and ends with marks, and what it writes instead holds none of
these marks.  So a replacement never adds a mark: where it changes a text at all, fewer marks are
left.

Main definition:

* `CatalogLint.Markup.isMark` — the characters that marks are made of.

Main results:

* `CatalogLint.Markup.rewrites_quotedRole`, `CatalogLint.Markup.rewrites_hyperlink`,
  `CatalogLint.Markup.rewrites_bareAddress` — what a role, a hyperlink and a bare address look like,
  and what they read as;
* `CatalogLint.Markup.lightens_of_mem_passes` — **every rule takes marks away**.
-/

import CatalogLint.Proofs.Markup.Piece
import CatalogLint.Proofs.Text.Rewriting

set_option autoImplicit false

namespace CatalogLint.Markup

open Text (Rule)

/-! ### Roles, hyperlinks and bare addresses -/

theorem rewrites_quotedRole : quotedRole.Rewrites fun part image =>
    ∃ role ∈ roles, ∃ inner,
      part = Enclosure.roleMark role ++ inner ++ ['\x60'] ∧ image = quoted inner := by
  intro text length image hmatch
  obtain ⟨role, hrole, hmatch⟩ := List.exists_of_findSome?_eq_some hmatch
  obtain ⟨part, rest, htext, hne, hlength, inner, hpart, himage⟩ :=
    Text.rewrites_enclosed quoted (List.cons_ne_nil _ _) text length image hmatch
  exact ⟨part, rest, htext, hne, hlength, role, hrole, inner, hpart, himage⟩

theorem rewrites_hyperlink : hyperlink.Rewrites fun part image =>
    ∃ label address finish, IsLink label address finish part image := by
  intro text length image hmatch
  obtain ⟨label, address, finish, part, rest, hlink, rfl, rfl⟩ := hyperlink_eq_some hmatch
  have hne : part ≠ [] := by
    rw [hlink.part_eq]
    exact List.cons_ne_nil _ _
  exact ⟨part, rest, rfl, hne, rfl, label, address, finish, hlink⟩

theorem rewrites_bareAddress : bareAddress.Rewrites fun part image =>
    ∃ scheme path, part = '<' :: (scheme ++ "://" ++ path) ++ ['>'] ∧ IsAddress scheme path ∧
      image = quoted (scheme ++ "://" ++ path) := by
  intro text length image hmatch
  obtain ⟨scheme, path, rest, rfl, haddress, rfl, rfl⟩ := bareAddress_eq_some_iff.1 hmatch
  refine ⟨'<' :: (scheme ++ "://" ++ path) ++ ['>'], rest, ?_, ?_, ?_, scheme, path, rfl, haddress,
    rfl⟩
  · simp only [List.append_assoc, List.cons_append, List.nil_append]
  · exact List.cons_ne_nil _ _
  · simp
    omega

/-! ### Marks -/

/-- The character is one that marks are made of. -/
def isMark (c : Char) : Bool := marks.contains c

theorem countP_quoted (inner : Text) : (quoted inner).countP isMark = inner.countP isMark := by
  have hspace : isMark Text.noBreakSpace = false := by decide
  have hguillemets : isMark '«' = false ∧ isMark '»' = false := by decide
  simp [quoted, hspace, hguillemets]

theorem lightens_enclosed {opening closing : Text} {image : Text → Text}
    (hopening : 0 < opening.countP isMark)
    (himage : ∀ inner, (image inner).countP isMark = inner.countP isMark) :
    (Text.enclosed opening closing image).Lightens isMark := by
  have hne : opening ≠ [] := by
    rintro rfl
    exact Nat.lt_irrefl 0 hopening
  refine (Text.rewrites_enclosed image hne).mono ?_
  rintro _ _ ⟨inner, rfl, rfl⟩
  rw [List.countP_append, List.countP_append, himage]
  omega

theorem lightens_quotedRole : quotedRole.Lightens isMark := by
  refine rewrites_quotedRole.mono ?_
  rintro _ _ ⟨role, -, inner, rfl, rfl⟩
  have hcolon : isMark ':' = true := by decide
  rw [countP_quoted, Enclosure.roleMark_eq, List.cons_append, List.cons_append,
    List.countP_cons_of_pos hcolon, List.countP_append, List.countP_append]
  omega

theorem lightens_hyperlink : hyperlink.Lightens isMark := by
  refine rewrites_hyperlink.mono ?_
  rintro _ _ ⟨label, address, finish, rfl, -, -, rfl⟩
  have hlabel : (Text.trimEnd label).countP isMark ≤ label.countP isMark :=
    (Text.trimEnd_prefix label).sublist.countP_le
  have hfixed : " (".toList.countP isMark = 0 ∧ ")".toList.countP isMark = 0 := by decide
  have hmarks : isMark '\x60' = true ∧ isMark '<' = true ∧ isMark '>' = true := by decide
  simp only [List.countP_append, List.countP_cons_of_pos hmarks.1,
    List.countP_cons_of_pos hmarks.2.1, List.countP_cons_of_pos hmarks.2.2, countP_quoted, hfixed]
  omega

theorem lightens_bareAddress : bareAddress.Lightens isMark := by
  refine rewrites_bareAddress.mono ?_
  rintro _ _ ⟨scheme, path, rfl, -, rfl⟩
  have hbracket : isMark '<' = true := by decide
  simp only [countP_quoted, List.cons_append, List.countP_cons_of_pos hbracket, List.countP_append]
  omega

/-- **Every rule takes marks away.** -/
theorem lightens_of_mem_passes : ∀ rule ∈ passes, Rule.Lightens rule isMark := by
  have hcolons : doubleColon.Lightens isMark := by
    refine (Text.rewrites_replacing (by decide)).mono ?_
    rintro _ _ ⟨rfl, rfl⟩
    decide
  have hproposal : ∀ inner : Text, ("PEP " ++ inner).countP isMark = inner.countP isMark := by
    intro inner
    have hfixed : "PEP ".toList.countP isMark = 0 := by decide
    rw [List.countP_append, hfixed, Nat.zero_add]
  simp only [passes, List.forall_mem_cons]
  exact ⟨hcolons, lightens_enclosed (by decide) countP_quoted,
    lightens_enclosed (by decide) hproposal, lightens_quotedRole,
    lightens_enclosed (by decide) countP_quoted, lightens_enclosed (by decide) countP_quoted,
    lightens_hyperlink, lightens_bareAddress, List.forall_mem_nil _⟩

end CatalogLint.Markup
