/-
**A line stays a line when its markup is rewritten.**

The plain form of a text is made by replacing marked-up pieces, and the mask of a text by replacing
the contents of its quoted spans.  An image is put together from what was matched and from a few
fixed characters, none of which is a newline.  So neither rewriting can break a line in two, and the
mask of a text is as long as the text, so that a position in the one is a position in the other.

Main definitions:

* `CatalogLint.Text.Rule.AddsNo` — the images of a rule hold a character only if what they stand for
  does;
* `CatalogLint.Text.Rule.KeepsLength` — the images of a rule are as long as what they stand for;
* `CatalogLint.Markup.IsLink` — a hyperlink with what it reads as;
* `CatalogLint.Markup.IsAddress` — the two parts of a bare address;
* `CatalogLint.Markup.maskRule` — the rule that masks a quoted span.

Main results:

* `CatalogLint.Text.not_mem_replaceAll`, `CatalogLint.Text.length_replaceAll` — **what holds of the
  images holds of the whole replacement**;
* `CatalogLint.Markup.hyperlink_eq_some`, `CatalogLint.Markup.bareAddress_eq_some_iff`,
  `CatalogLint.Markup.Span.atStart_eq_some` — what a hyperlink, a bare address and a quoted span
  look like;
* `CatalogLint.Markup.newline_not_mem_normalize`, `CatalogLint.Markup.newline_not_mem_maskQuoted` —
  the plain form and the mask of a line are lines;
* `CatalogLint.Markup.length_maskQuoted` — **the mask of a text is as long as the text**.
-/

import CatalogLint.Markup.Normal
import CatalogLint.Markup.Span
import CatalogLint.Proofs.Text.Trim
import Mathlib.Tactic.Tauto

set_option autoImplicit false

namespace CatalogLint

/-! ### What replacing keeps -/

namespace Text

/-- The images of the rule hold the character only if the text that is matched does. -/
def Rule.AddsNo (rule : Rule) (c : Char) : Prop :=
  ∀ text length image, rule text = some (length, image) → c ∈ image → c ∈ text

/-- The images of the rule are as long as what they stand for. -/
def Rule.KeepsLength (rule : Rule) : Prop :=
  ∀ text length image, rule text = some (length, image) →
    0 < length ∧ length ≤ text.length ∧ image.length = length

theorem not_mem_replaceFrom {rule : Rule} {c : Char} (hrule : rule.AddsNo c) {text : Text}
    (h : c ∉ text) (taken : Nat) : c ∉ replaceFrom rule taken text := by
  induction text generalizing taken with
  | nil => cases taken <;> simp [replaceFrom]
  | cons d text ih =>
      obtain ⟨hd, htext⟩ := List.ne_and_not_mem_of_not_mem_cons h
      cases taken with
      | succ taken => exact ih htext taken
      | zero =>
          rw [replaceFrom]
          split
          · next length image hmatch =>
            have himage : c ∉ image := fun hc => h (hrule _ _ _ hmatch hc)
            rw [List.mem_append, not_or]
            exact ⟨himage, ih htext _⟩
          · exact List.not_mem_cons_of_ne_of_not_mem hd (ih htext 0)

/-- A character that the text does not hold is not brought in by replacing. -/
theorem not_mem_replaceAll {rule : Rule} {c : Char} (hrule : rule.AddsNo c) {text : Text}
    (h : c ∉ text) : c ∉ replaceAll rule text := not_mem_replaceFrom hrule h 0

/-- Nor by replacing with several rules, one after the other. -/
theorem not_mem_foldl_replaceAll {rules : List Rule} {c : Char}
    (hrules : ∀ rule ∈ rules, rule.AddsNo c) {text : Text} (h : c ∉ text) :
    c ∉ rules.foldl (fun text rule => replaceAll rule text) text := by
  induction rules generalizing text with
  | nil => exact h
  | cons rule rules ih =>
      obtain ⟨hrule, hothers⟩ := List.forall_mem_cons.1 hrules
      exact ih hothers (not_mem_replaceAll hrule h)

theorem length_replaceFrom {rule : Rule} (hrule : rule.KeepsLength) (text : Text) (taken : Nat) :
    (replaceFrom rule taken text).length = text.length - taken := by
  induction text generalizing taken with
  | nil => cases taken <;> simp [replaceFrom]
  | cons c text ih =>
      cases taken with
      | succ taken => rw [replaceFrom, ih, List.length_cons, Nat.add_sub_add_right]
      | zero =>
          rw [replaceFrom]
          split
          · next length image hmatch =>
            -- the image makes up for the characters that are skipped
            obtain ⟨hpos, hle, hlength⟩ := hrule _ _ _ hmatch
            rw [List.length_cons] at hle
            rw [List.length_append, ih, hlength, List.length_cons]
            omega
          · rw [List.length_cons, ih, List.length_cons, Nat.sub_zero, Nat.sub_zero]

/-- Replacing by images of the same lengths does not change the length. -/
theorem length_replaceAll {rule : Rule} (hrule : rule.KeepsLength) (text : Text) :
    (replaceAll rule text).length = text.length := length_replaceFrom hrule text 0

theorem addsNo_enclosed {opening closing : Text} {image : Text → Text} {c : Char}
    (h : ∀ inner, c ∈ image inner → c ∈ inner) : (enclosed opening closing image).AddsNo c := by
  intro text length found hmatch hc
  obtain ⟨rest, hrest, hspan⟩ := Option.bind_eq_some_iff.1 hmatch
  obtain ⟨inner, hinner, heq⟩ := Option.map_eq_some_iff.1 hspan
  cases heq
  have hprefix : inner ++ closing <+: rest := (upTo_eq_some hinner).2
  have hmem : c ∈ rest := hprefix.subset (List.mem_append_left _ (h inner hc))
  rw [dropStart?_eq_some_iff.1 hrest]
  exact List.mem_append_right _ hmem

theorem addsNo_replacing {part image : Text} {c : Char} (h : c ∉ image) :
    (replacing part image).AddsNo c := by
  intro text length found hmatch hc
  obtain ⟨rest, -, heq⟩ := Option.map_eq_some_iff.1 hmatch
  cases heq
  exact absurd hc h

end Text

namespace Markup

open Text (Rule)

/-! ### What the pieces look like -/

theorem takeWhile_append_drop (p : Char → Bool) (text : Text) :
    text.takeWhile p ++ text.drop (text.takeWhile p).length = text :=
  List.prefix_iff_eq_append.1 (List.takeWhile_prefix p)

theorem upToMark_append_drop (marks text : Text) :
    upToMark marks text ++ text.drop (upToMark marks text).length = text :=
  takeWhile_append_drop _ text

theorem not_mem_upToMark {marks text : Text} {c : Char} (hc : c ∈ marks) :
    c ∉ upToMark marks text := by
  intro hmem
  have hinside := List.all_eq_true.1 List.all_takeWhile c hmem
  rw [Bool.not_eq_true', ← Bool.not_eq_true, List.contains_iff_mem] at hinside
  exact hinside hc

/-- The part is a hyperlink, and the image is what it reads as. -/
structure IsLink (label address finish part image : Text) : Prop where
  /-- The label and the address stand between backquotes, and the address between brackets. -/
  part_eq : part = '\x60' :: (label ++ '<' :: (address ++ '>' :: '\x60' :: finish))
  /-- One underscore or two follow. -/
  finish_mem : finish ∈ [['_'], ['_', '_']]
  /-- The label ends at the first bracket. -/
  not_mem_label : '<' ∉ label
  /-- The label, without blanks at its end, is followed by the quoted address in parentheses. -/
  image_eq : image = Text.trimEnd label ++ " (" ++ quoted address ++ ")"

/-- What a hyperlink looks like, and what it reads as. -/
theorem hyperlink_eq_some {text image : Text} {length : Nat}
    (h : hyperlink text = some (length, image)) :
    ∃ label address finish part rest, IsLink label address finish part image ∧
      text = part ++ rest ∧ length = part.length := by
  unfold hyperlink at h
  split at h
  · next text =>
    simp only at h
    split at h
    · next tail htail =>
      have hlabel := upToMark_append_drop ['\x60', '<'] text
      have haddress := upToMark_append_drop ['<', '>', '\x60'] tail
      have hbracket : '<' ∉ upToMark ['\x60', '<'] text := not_mem_upToMark (by decide)
      rw [htail] at hlabel
      split at h
      · cases h
      · -- a second underscore is a part of the hyperlink, if there is one
        split at h
        · next rest hrest =>
          cases h
          refine ⟨_, _, ['_', '_'], _, rest, ⟨rfl, by decide, hbracket, rfl⟩, ?_, ?_⟩
          · conv => lhs; rw [← hlabel, ← haddress, hrest]
            simp
          · simp
            omega
        · next rest _ hrest =>
          cases h
          refine ⟨_, _, ['_'], _, rest, ⟨rfl, by decide, hbracket, rfl⟩, ?_, ?_⟩
          · conv => lhs; rw [← hlabel, ← haddress, hrest]
            simp
          · simp
            omega
        · cases h
    · cases h
  · cases h

/-- The texts are the scheme of a bare address and what follows its slashes. -/
structure IsAddress (scheme path : Text) : Prop where
  /-- The scheme begins with a small letter. -/
  letter : ∃ c ∈ scheme.head?, 'a' ≤ c ∧ c ≤ 'z'
  /-- It has the characters of a scheme. -/
  scheme : ∀ c ∈ scheme, isSchemeChar c = true
  /-- Something follows the slashes. -/
  path_ne_nil : path ≠ []
  /-- It has no brackets and no blanks. -/
  path : ∀ c ∈ path, c ≠ '<' ∧ c ≠ '>' ∧ Text.isBlank c = false

theorem bareAddress_eq_some {text image : Text} {length : Nat}
    (h : bareAddress text = some (length, image)) :
    ∃ scheme path rest, text = '<' :: (scheme ++ "://" ++ path) ++ '>' :: rest ∧
      IsAddress scheme path ∧ length = scheme.length + path.length + 5 ∧
      image = quoted (scheme ++ "://" ++ path) := by
  unfold bareAddress at h
  split at h
  · next text =>
    simp only at h
    split at h
    · next hletter =>
      split at h
      · next tail htail =>
        split at h
        · cases h
        · next hpath =>
          split at h
          · next hclosed =>
            cases h
            have hscheme := takeWhile_append_drop isSchemeChar text
            have hrest := takeWhile_append_drop
              (fun c => c != '<' && c != '>' && !Text.isBlank c) tail
            rw [htail] at hscheme
            rw [beq_iff_eq, List.head?_eq_some_iff] at hclosed
            obtain ⟨rest, hafter⟩ := hclosed
            rw [hafter] at hrest
            obtain ⟨c, hc, hsmall⟩ := (Option.any_eq_true _ _).1 hletter
            refine ⟨_, _, rest, ?_, ⟨⟨c, hc, by simpa using hsmall⟩,
              List.all_eq_true.1 List.all_takeWhile, by simpa using hpath, fun d hd => ?_⟩,
              rfl, rfl⟩
            · calc '<' :: text
                  = '<' :: (text.takeWhile isSchemeChar ++ ':' :: '/' :: '/' :: tail) := by
                    rw [hscheme]
                _ = _ := by
                    conv => lhs; rw [← hrest]
                    simp
            · have hinside := List.all_eq_true.1 List.all_takeWhile d hd
              simpa [and_assoc] using hinside
          · cases h
      · cases h
    · cases h
  · cases h

theorem IsAddress.bareAddress_append {scheme path : Text} (h : IsAddress scheme path)
    (rest : Text) :
    bareAddress ('<' :: (scheme ++ "://" ++ path) ++ '>' :: rest) =
      some (scheme.length + path.length + 5, quoted (scheme ++ "://" ++ path)) := by
  obtain ⟨c, hc, hletter⟩ := h.letter
  have hscheme : ∀ tail, (scheme ++ ':' :: tail).takeWhile isSchemeChar = scheme :=
    fun tail => Text.takeWhile_append_of_head h.scheme (by rintro _ ⟨⟩; decide)
  have hpath : (path ++ '>' :: rest).takeWhile
      (fun c => c != '<' && c != '>' && !Text.isBlank c) = path :=
    Text.takeWhile_append_of_head (fun c hc => by simpa [and_assoc] using h.path c hc)
      (by rintro _ ⟨⟩; decide)
  have htext : '<' :: (scheme ++ "://".toList ++ path) ++ '>' :: rest =
      '<' :: (scheme ++ ':' :: '/' :: '/' :: (path ++ '>' :: rest)) := by
    simp
  have hempty : path.isEmpty = false := by simpa using h.path_ne_nil
  have hfirst : (scheme.head?.any fun c => 'a' ≤ c && c ≤ 'z') = true := by
    rw [Option.mem_def.1 hc]
    simpa using hletter
  rw [htext, bareAddress]
  simp only [hscheme, hfirst, if_true, List.drop_left, hpath, hempty, Bool.false_eq_true,
    if_false, List.head?_cons, beq_self_eq_true]

/-- **A bare address is matched from one bracket to the other**, and nothing else is. -/
theorem bareAddress_eq_some_iff {text image : Text} {length : Nat} :
    bareAddress text = some (length, image) ↔
      ∃ scheme path rest, text = '<' :: (scheme ++ "://" ++ path) ++ '>' :: rest ∧
        IsAddress scheme path ∧ length = scheme.length + path.length + 5 ∧
        image = quoted (scheme ++ "://" ++ path) := by
  constructor
  · exact bareAddress_eq_some
  · rintro ⟨scheme, path, rest, rfl, haddress, rfl, rfl⟩
    exact haddress.bareAddress_append rest

theorem Span.close_eq_some {text inner : Text} {last : Char}
    (h : Span.close text = some (inner, last)) :
    '\n' ∉ inner ∧ Text.isBlank last = true ∧ ∃ rest, text = inner ++ last :: '»' :: rest := by
  induction text generalizing inner with
  | nil => simp [Span.close] at h
  | cons c text ih =>
      rw [Span.close] at h
      split at h
      · next hclosed =>
        cases h
        rw [Bool.and_eq_true, beq_iff_eq, List.head?_eq_some_iff] at hclosed
        obtain ⟨hblank, rest, rfl⟩ := hclosed
        exact ⟨List.not_mem_nil, hblank, rest, rfl⟩
      · split at h
        · cases h
        · next hc =>
          obtain ⟨⟨inner, last⟩, hinner, heq⟩ := Option.map_eq_some_iff.1 h
          cases heq
          obtain ⟨hnew, hblank, rest, rfl⟩ := ih hinner
          exact ⟨List.not_mem_cons_of_ne_of_not_mem (Ne.symm hc) hnew, hblank, rest, rfl⟩

/-- What a quoted span looks like. -/
theorem Span.atStart_eq_some {text : Text} {span : Span} (h : Span.atStart text = some span) :
    '\n' ∉ span.inner ∧ Text.isBlank span.first = true ∧ Text.isBlank span.last = true ∧
      ∃ rest, text = '«' :: span.first :: (span.inner ++ span.last :: '»' :: rest) := by
  unfold Span.atStart at h
  split at h
  · next first text =>
    split at h
    · next hfirst =>
      obtain ⟨⟨inner, last⟩, hclose, rfl⟩ := Option.map_eq_some_iff.1 h
      obtain ⟨hnew, hlast, rest, rfl⟩ := Span.close_eq_some hclose
      exact ⟨hnew, hfirst, hlast, rest, rfl⟩
    · cases h
  · cases h

/-! ### The plain form of a line -/

theorem newline_mem_of_mem_quoted {inner : Text} (h : '\n' ∈ quoted inner) : '\n' ∈ inner := by
  simpa [quoted, Text.noBreakSpace] using h

theorem addsNo_quotedRole : quotedRole.AddsNo '\n' := by
  intro text length image hmatch hc
  obtain ⟨role, -, hrole⟩ := List.exists_of_findSome?_eq_some hmatch
  exact Text.addsNo_enclosed (fun _ => newline_mem_of_mem_quoted) text length image hrole hc

theorem addsNo_hyperlink : hyperlink.AddsNo '\n' := by
  intro text length image hmatch hc
  obtain ⟨label, address, finish, _, rest, ⟨rfl, -, -, rfl⟩, rfl, -⟩ := hyperlink_eq_some hmatch
  have hlabel : '\n' ∈ Text.trimEnd label → '\n' ∈ label := fun h =>
    (Text.trimEnd_prefix label).subset h
  have haddress : '\n' ∈ quoted address → '\n' ∈ address := newline_mem_of_mem_quoted
  have hparts : '\n' ∈ Text.trimEnd label ∨ '\n' ∈ quoted address := by simpa using hc
  simp only [List.mem_cons, List.mem_append]
  tauto

theorem addsNo_bareAddress : bareAddress.AddsNo '\n' := by
  intro text length image hmatch hc
  obtain ⟨scheme, path, rest, rfl, -, -, rfl⟩ := bareAddress_eq_some_iff.1 hmatch
  have hparts : '\n' ∈ scheme ∨ '\n' ∈ path := by simpa using newline_mem_of_mem_quoted hc
  simp only [List.mem_cons, List.mem_append]
  tauto

/-- None of the rules for marked-up pieces writes a newline. -/
theorem addsNo_of_mem_passes : ∀ rule ∈ passes, Rule.AddsNo rule '\n' := by
  have hquoted : ∀ mark : Text, (Text.enclosed mark mark quoted).AddsNo '\n' := fun _ =>
    Text.addsNo_enclosed fun _ => newline_mem_of_mem_quoted
  have hproposal : proposalRole.AddsNo '\n' := Text.addsNo_enclosed fun inner h => by simpa using h
  simp only [passes, List.forall_mem_cons]
  exact ⟨Text.addsNo_replacing (by decide), hquoted _, hproposal, addsNo_quotedRole, hquoted _,
    hquoted _, addsNo_hyperlink, addsNo_bareAddress, List.forall_mem_nil _⟩

/-- The plain form of a line is a line. -/
theorem newline_not_mem_normalize {text : Text} (h : '\n' ∉ text) : '\n' ∉ normalize text :=
  Text.not_mem_foldl_replaceAll addsNo_of_mem_passes h

/-! ### The mask of a line -/

/-- The rule that blanks out the contents of a quoted span. -/
def maskRule : Rule := fun text =>
  (Span.atStart text).map fun span => (span.length, span.masked)

theorem maskQuoted_eq (text : Text) : maskQuoted text = Text.replaceAll maskRule text := rfl

theorem addsNo_maskRule : maskRule.AddsNo '\n' := by
  intro text length image hmatch hc
  obtain ⟨span, hspan, heq⟩ := Option.map_eq_some_iff.1 hmatch
  cases heq
  obtain ⟨-, -, -, rest, rfl⟩ := Span.atStart_eq_some hspan
  -- a newline can only be one of the two blanks, which stay
  have hblanks : '\n' = span.first ∨ '\n' = span.last := by
    simpa [Span.masked, placeholder, List.mem_replicate] using hc
  simp only [List.mem_cons, List.mem_append]
  tauto

theorem keepsLength_maskRule : maskRule.KeepsLength := by
  intro text length image hmatch
  obtain ⟨span, hspan, heq⟩ := Option.map_eq_some_iff.1 hmatch
  cases heq
  obtain ⟨-, -, -, rest, rfl⟩ := Span.atStart_eq_some hspan
  simp only [Span.length, Span.masked, List.length_append, List.length_cons, List.length_nil,
    List.length_replicate]
  omega

/-- The mask of a line is a line. -/
theorem newline_not_mem_maskQuoted {text : Text} (h : '\n' ∉ text) : '\n' ∉ maskQuoted text := by
  rw [maskQuoted_eq]
  exact Text.not_mem_replaceAll addsNo_maskRule h

/-- **The mask of a text is as long as the text.** -/
theorem length_maskQuoted (text : Text) : (maskQuoted text).length = text.length := by
  rw [maskQuoted_eq]
  exact Text.length_replaceAll keepsLength_maskRule text

end Markup

end CatalogLint
