/-
**Replacing, match by match.**

A replacement leaves a text alone in which its rule matches nowhere.  Otherwise there is a first
match: what stands before it stays, the part that is matched gives way to its image, and the
replacement goes on with the rest.  This is an induction principle for everything that is said of a
replacement and of the parts that it replaces, and all it asks of a rule is to say what the parts
and their images look like.

Main definitions:

* `CatalogLint.Text.Rule.Unmatched` — a rule matches nowhere in a text;
* `CatalogLint.Text.Rule.Rewrites` — what the parts that a rule matches look like, with their
  images;
* `CatalogLint.Text.Rule.First` — the first match of a rule in a text;
* `CatalogLint.Text.Rule.parts` — the parts of a text that are replaced, from the left;
* `CatalogLint.Text.Rule.Lightens` — the images of a rule hold fewer of some characters than the
  parts.

Main results:

* `CatalogLint.Text.Rule.Rewrites.inductionOn` — **induction from match to match**;
* `CatalogLint.Text.Rule.First.replaceAll_eq`, `CatalogLint.Text.Rule.First.parts_eq` — what is done
  about the first match;
* `CatalogLint.Text.rewrites_enclosed`, `CatalogLint.Text.rewrites_replacing` — what the rules for
  spans and for fixed texts rewrite;
* `CatalogLint.Text.unmatched_or_countP_foldl_lt` — **rules that lighten a text** match nowhere, or
  they leave fewer of the characters.
-/

import CatalogLint.Proofs.Text.Parts
import CatalogLint.Proofs.Text.Place

set_option autoImplicit false

namespace CatalogLint.Text

/-! ### The first match -/

namespace Rule

/-- The rule matches nowhere in the text. -/
def Unmatched (rule : Rule) (text : Text) : Prop := ∀ rest, rest <:+ text → rule rest = none

/-- What the rule matches is a part at the beginning of the text, and not an empty one.  The parts
and their images are of the given shape. -/
def Rewrites (rule : Rule) (shape : Text → Text → Prop) : Prop :=
  ∀ text length image, rule text = some (length, image) →
    ∃ part rest, text = part ++ rest ∧ part ≠ [] ∧ length = part.length ∧ shape part image

/-- The part is the first one that the rule matches in the text. -/
structure First (rule : Rule) (before part rest image : Text) : Prop where
  /-- No match begins before the part. -/
  unmatched : ∀ tail, tail ≠ [] → tail <:+ before → rule (tail ++ (part ++ rest)) = none
  /-- The part is matched. -/
  matched : rule (part ++ rest) = some (part.length, image)
  /-- The part is not empty. -/
  part_ne_nil : part ≠ []

/-- The parts of the text that are replaced, from the left. -/
def parts (rule : Rule) (text : Text) : List Text :=
  (occurrences rule.recogniser text).map Occurrence.matched

variable {rule : Rule} {shape : Text → Text → Prop}

theorem Unmatched.replaceAll_eq {text : Text} (h : rule.Unmatched text) :
    replaceAll rule text = text := replaceAll_eq_self h

theorem unmatched_cons {c : Char} {text : Text} :
    rule.Unmatched (c :: text) ↔ rule (c :: text) = none ∧ rule.Unmatched text := by
  constructor
  · intro h
    exact ⟨h _ (List.suffix_refl _),
      fun rest hrest => h rest (hrest.trans (List.suffix_cons c text))⟩
  · rintro ⟨hhere, hlater⟩ rest hrest
    rcases List.suffix_cons_iff.1 hrest with rfl | hrest
    · exact hhere
    · exact hlater rest hrest

theorem Rewrites.mono {other : Text → Text → Prop} (h : rule.Rewrites shape)
    (hshape : ∀ part image, shape part image → other part image) : rule.Rewrites other := by
  intro text length image hmatch
  obtain ⟨part, rest, htext, hne, hlength, hpart⟩ := h text length image hmatch
  exact ⟨part, rest, htext, hne, hlength, hshape part image hpart⟩

/-- Nothing is matched in the empty text. -/
theorem Rewrites.nil (h : rule.Rewrites shape) : rule [] = none := by
  by_contra hmatch
  obtain ⟨⟨length, image⟩, hmatch⟩ := Option.ne_none_iff_exists'.1 hmatch
  obtain ⟨part, rest, hnil, hne, -⟩ := h [] length image hmatch
  exact hne (List.append_eq_nil_iff.1 hnil.symm).1

/-- **Nothing is matched, or something is matched first.** -/
theorem Rewrites.unmatched_or_exists_first (h : rule.Rewrites shape) (text : Text) :
    rule.Unmatched text ∨ ∃ before part rest image, text = before ++ part ++ rest ∧
      rule.First before part rest image ∧ shape part image := by
  induction text with
  | nil =>
      left
      intro rest hrest
      rw [List.suffix_nil.1 hrest, h.nil]
  | cons c text ih =>
      cases hmatch : rule (c :: text) with
      | some found =>
          obtain ⟨length, image⟩ := found
          obtain ⟨part, rest, htext, hne, rfl, hshape⟩ := h _ _ _ hmatch
          rw [htext] at hmatch
          exact .inr ⟨[], part, rest, image, htext,
            ⟨fun tail hne htail => absurd (List.suffix_nil.1 htail) hne, hmatch, hne⟩, hshape⟩
      | none =>
          obtain hnone | ⟨before, part, rest, image, rfl, hfirst, hshape⟩ := ih
          · exact .inl (unmatched_cons.2 ⟨hmatch, hnone⟩)
          · refine .inr ⟨c :: before, part, rest, image, rfl, ⟨fun tail hne htail => ?_,
              hfirst.matched, hfirst.part_ne_nil⟩, hshape⟩
            rcases List.suffix_cons_iff.1 htail with rfl | htail
            · rwa [List.append_assoc] at hmatch
            · exact hfirst.unmatched tail hne htail

/-- **Induction from match to match.** -/
theorem Rewrites.inductionOn (h : rule.Rewrites shape) {motive : Text → Prop}
    (unmatched : ∀ text, rule.Unmatched text → motive text)
    (matched : ∀ before part rest image, rule.First before part rest image → shape part image →
      motive rest → motive (before ++ part ++ rest)) (text : Text) : motive text := by
  -- the rest behind a match is shorter, for the part is not empty
  induction hlength : text.length using Nat.strong_induction_on generalizing text with
  | _ length ih =>
      obtain hnone | ⟨before, part, rest, image, rfl, hfirst, hshape⟩ :=
        h.unmatched_or_exists_first text
      · exact unmatched text hnone
      · have hpart := List.length_pos_iff.2 hfirst.part_ne_nil
        refine matched before part rest image hfirst hshape (ih rest.length ?_ rest rfl)
        rw [List.length_append, List.length_append] at hlength
        omega

/-- What stands before the first match stays, and the replacement goes on behind it. -/
theorem First.replaceAll_eq {before part rest image : Text}
    (h : rule.First before part rest image) :
    replaceAll rule (before ++ part ++ rest) = before ++ image ++ replaceAll rule rest := by
  obtain ⟨hbefore, hmatch, hne⟩ := h
  induction before with
  | nil => exact replaceAll_append_of_match hne hmatch
  | cons c before ih =>
      have hnone := hbefore (c :: before) (List.cons_ne_nil c before) (List.suffix_refl _)
      rw [List.append_assoc, List.cons_append, replaceAll, replaceFrom, ← List.cons_append, hnone]
      rw [← List.append_assoc]
      exact congrArg (c :: ·) (ih fun tail hne htail =>
        hbefore tail hne (htail.trans (List.suffix_cons c before)))

end Rule

/-! ### The parts that are replaced -/

/-- What occurrences take does not depend on what precedes the text. -/
theorem map_matched_occurrencesFrom (pattern : Recogniser) (reversed other text : Text)
    (taken : Nat) :
    (occurrencesFrom pattern reversed taken text).map Occurrence.matched =
      (occurrencesFrom pattern other taken text).map Occurrence.matched := by
  induction text generalizing reversed other taken with
  | nil => cases taken <;> rfl
  | cons c text ih =>
      cases taken with
      | succ taken => exact ih _ _ _
      | zero =>
          rw [occurrencesFrom, occurrencesFrom]
          split
          · exact congrArg (List.cons _) (ih _ _ _)
          · exact ih _ _ _

/-- The search goes on behind what a match has taken. -/
theorem occurrencesFrom_append (pattern : Recogniser) (reversed taken rest : Text) :
    occurrencesFrom pattern reversed taken.length (taken ++ rest) =
      occurrencesFrom pattern (taken.reverse ++ reversed) 0 rest := by
  induction taken generalizing reversed with
  | nil => rfl
  | cons c taken ih =>
      rw [List.length_cons, List.cons_append, occurrencesFrom, ih, List.reverse_cons,
        List.append_assoc]
      rfl

namespace Rule

variable {rule : Rule}

theorem parts_cons_of_eq_none {c : Char} {text : Text} (h : rule (c :: text) = none) :
    rule.parts (c :: text) = rule.parts text := by
  have hnone : rule.recogniser (c :: text) = none := by rw [recogniser, h]; rfl
  rw [parts, occurrences, occurrencesFrom, hnone]
  exact map_matched_occurrencesFrom _ _ _ _ _

theorem Unmatched.parts_eq {text : Text} (h : rule.Unmatched text) : rule.parts text = [] := by
  induction text with
  | nil => rfl
  | cons c text ih =>
      obtain ⟨hhere, hlater⟩ := unmatched_cons.1 h
      rw [parts_cons_of_eq_none hhere, ih hlater]

/-- The first match is the first part, and the others are those of the rest. -/
theorem First.parts_eq {before part rest image : Text} (h : rule.First before part rest image) :
    rule.parts (before ++ part ++ rest) = part :: rule.parts rest := by
  obtain ⟨hbefore, hmatch, hne⟩ := h
  induction before with
  | nil =>
      obtain ⟨c, part, rfl⟩ := List.exists_cons_of_ne_nil hne
      have hfound : rule.recogniser (c :: (part ++ rest)) = some (part.length + 1) := by
        rw [recogniser, ← List.cons_append, hmatch]
        rfl
      have hpart : (c :: (part ++ rest)).take (part.length + 1) = c :: part := by
        rw [List.take_succ_cons, List.take_left]
      rw [List.nil_append, List.cons_append, parts, occurrences, occurrencesFrom, hfound]
      simp only [List.map_cons, hpart, occurrencesFrom_append]
      exact congrArg _ (map_matched_occurrencesFrom _ _ _ _ _)
  | cons c before ih =>
      have hnone := hbefore (c :: before) (List.cons_ne_nil c before) (List.suffix_refl _)
      rw [List.cons_append, ← List.append_assoc] at hnone
      rw [List.cons_append, List.cons_append, parts_cons_of_eq_none hnone]
      exact ih fun tail hne htail => hbefore tail hne (htail.trans (List.suffix_cons c before))

end Rule

/-! ### What spans and fixed texts are rewritten to -/

theorem rewrites_enclosed {opening closing : Text} (image : Text → Text) (hopening : opening ≠ []) :
    (enclosed opening closing image).Rewrites fun part out =>
      ∃ inner, part = opening ++ inner ++ closing ∧ out = image inner := by
  intro text length out hmatch
  obtain ⟨rest, hrest, hspan⟩ := Option.bind_eq_some_iff.1 hmatch
  obtain ⟨inner, hinner, heq⟩ := Option.map_eq_some_iff.1 hspan
  cases heq
  obtain ⟨behind, rfl⟩ := (upTo_eq_some hinner).2
  refine ⟨opening ++ inner ++ closing, behind, ?_, ?_, ?_, inner, rfl, rfl⟩
  · rw [dropStart?_eq_some_iff.1 hrest, List.append_assoc, List.append_assoc, List.append_assoc]
  · rw [List.append_assoc]
    exact List.append_ne_nil_of_left_ne_nil hopening _
  · rw [List.length_append, List.length_append]

theorem rewrites_replacing {old new : Text} (hold : old ≠ []) :
    (replacing old new).Rewrites fun part out => part = old ∧ out = new := by
  intro text length out hmatch
  obtain ⟨rest, hrest, heq⟩ := Option.map_eq_some_iff.1 hmatch
  cases heq
  exact ⟨old, rest, dropStart?_eq_some_iff.1 hrest, hold, rfl, rfl, rfl⟩

/-! ### Rules that lighten a text -/

section
variable {p : Char → Bool} {rule : Rule} {rules : List Rule}

/-- The images of the rule hold fewer of the characters than the parts for which they stand. -/
def Rule.Lightens (rule : Rule) (p : Char → Bool) : Prop :=
  rule.Rewrites fun part image => image.countP p < part.countP p

/-- A rule that lightens a text matches nowhere, or it leaves fewer of the characters. -/
theorem Rule.Lightens.unmatched_or_countP_lt (h : rule.Lightens p) (text : Text) :
    rule.Unmatched text ∨ (replaceAll rule text).countP p < text.countP p := by
  induction text using Rule.Rewrites.inductionOn h with
  | unmatched text hnone => exact .inl hnone
  | matched before part rest image hfirst hless ih =>
      have hrest : (replaceAll rule rest).countP p ≤ rest.countP p := by
        rcases ih with hnone | hlt
        · rw [hnone.replaceAll_eq]
        · exact Nat.le_of_lt hlt
      right
      rw [hfirst.replaceAll_eq]
      simp only [List.countP_append]
      omega

theorem foldl_replaceAll_eq_self {text : Text} (h : ∀ rule ∈ rules, rule.Unmatched text) :
    rules.foldl (fun text rule => replaceAll rule text) text = text := by
  induction rules with
  | nil => rfl
  | cons rule rules ih =>
      obtain ⟨hrule, hrules⟩ := List.forall_mem_cons.1 h
      rw [List.foldl_cons, hrule.replaceAll_eq, ih hrules]

/-- **Rules that lighten a text** match nowhere, or they leave fewer of the characters. -/
theorem unmatched_or_countP_foldl_lt (h : ∀ rule ∈ rules, Rule.Lightens rule p) (text : Text) :
    (∀ rule ∈ rules, Rule.Unmatched rule text) ∨
      (rules.foldl (fun text rule => replaceAll rule text) text).countP p < text.countP p := by
  induction rules generalizing text with
  | nil => exact .inl (List.forall_mem_nil _)
  | cons rule rules ih =>
      obtain ⟨hrule, hrules⟩ := List.forall_mem_cons.1 h
      rw [List.foldl_cons]
      rcases hrule.unmatched_or_countP_lt text with hnone | hlt
      · rw [hnone.replaceAll_eq]
        exact (ih hrules text).imp (fun hall => List.forall_mem_cons.2 ⟨hnone, hall⟩) id
      · right
        rcases ih hrules (replaceAll rule text) with hall | hless
        · rwa [foldl_replaceAll_eq_self hall]
        · exact Nat.lt_trans hless hlt

/-- What rules that lighten a text leave alone, is a text in which they match nowhere. -/
theorem foldl_replaceAll_eq_self_iff (h : ∀ rule ∈ rules, Rule.Lightens rule p) {text : Text} :
    rules.foldl (fun text rule => replaceAll rule text) text = text ↔
      ∀ rule ∈ rules, Rule.Unmatched rule text := by
  refine ⟨fun hsame => (unmatched_or_countP_foldl_lt h text).resolve_right fun hlt => ?_,
    foldl_replaceAll_eq_self⟩
  rw [hsame] at hlt
  exact Nat.lt_irrefl _ hlt

end

end CatalogLint.Text
