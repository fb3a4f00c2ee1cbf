/-
**Every reported sign is a real one.**

Signs are looked for in a copy of the plain text in which the contents of quoted spans are blanked
out and addresses are escaped.  Where the copy shows a sign the text shows it too, for neither
rewriting makes one; and a character that is not a non-breakable space in the copy is none in the
text, because the last character of a content is followed by a blank and not by a sign.  So a match
in the copy is told by its place in the text, and no two matches have the same place.

Main definitions:

* `CatalogLint.Checker.Spacing.Genuine` — an error tells the truth about a place of the text;
* `CatalogLint.Checker.Spacing.placedErrors` — the errors with their places;
* `CatalogLint.Checker.Spacing.ReportsGenuine` — the errors of an entry tell the truth.

Main results:

* `CatalogLint.Checker.Spacing.shown_of_searched` — **a sign of the copy is one of the text**;
* `CatalogLint.Checker.Spacing.not_isNonBreaking_of_searched` — no non-breakable space is hidden
  before it;
* `CatalogLint.Checker.Spacing.reportsGenuine_findings` — **every error is about a place of its
  own**.
-/

import CatalogLint.Proofs.Checker.Address

set_option autoImplicit false

namespace CatalogLint.Checker.Spacing

open Markup (Masked)

/-! ### What an error says -/

/-- The error tells the truth about the character at the place and the sign after it. -/
structure Genuine (entry : Entry) (index : Nat) (found : UnspacedSign) : Prop where
  isSign : found.sign ∈ ['?', '!', ':', ';']
  sign : entry.normalizedTarget[index + 1]? = some found.sign
  /-- The sign is not in the content of a quoted span. -/
  visible : ¬ Masked entry.normalizedTarget (index + 1)
  /-- The sign is not the colon of an address. -/
  noAddress : ¬ IsSchemeColon entry.normalizedTarget (index + 1)
  /-- The text has the character that is shown before the sign. -/
  preceding : entry.normalizedTarget[index]? = some found.preceding
  /-- That character is no non-breakable space, and the sign does not continue others. -/
  unspaced : found.preceding ∉ ['\u00A0', '\u202F', ':', '?', '!', '.']
  /-- What is shown before it are the last characters of the text up to there. -/
  before : found.before <:+ entry.normalizedTarget.take index
  lengthBefore : found.before.length = min 30 index
  /-- What is shown behind the sign are the first characters of the text from there. -/
  after : found.after <+: entry.normalizedTarget.drop (index + 2)
  lengthAfter : found.after.length = min 30 (entry.normalizedTarget.length - (index + 2))
  /-- No exempted term occurs in what is shown. -/
  exempt : ∀ term ∈ entry.exemptTerms,
    ¬ term <:+: found.before ++ found.preceding :: found.sign :: found.after

def opening : Text := "There should be a non-breakable space before \""

/-- The errors of an entry about signs tell the truth, each about a place of its own. -/
structure ReportsGenuine (entry : Entry) : Prop where
  /-- The errors come from different places, and are genuine there. -/
  genuine : ∃ placed : List (Nat × UnspacedSign),
    ((findings entry).filter fun finding => Text.startsWith finding.message opening) =
        placed.map (fun place => ⟨name, .error, place.2.message⟩) ∧
      (placed.map Prod.fst).Nodup ∧ ∀ place ∈ placed, Genuine entry place.1 place.2
  /-- No match is left out because the text would have no character at its place. -/
  reached : ∀ sign ∈ signs,
    ∀ found ∈ Text.occurrences (badSign sign) (searched entry.normalizedTarget),
      (UnspacedSign.at? entry.normalizedTarget sign found.before.length).isSome = true

/-! ### The copy and the text -/

section
variable {text : Text} {index : Nat}

/-- An address that the mask does not hide stands in the mask. -/
theorem hasColonOf_maskQuoted {scheme : Text} (hblank : ∀ c ∈ scheme, Text.isBlank c = false)
    (h : HasColonOf scheme text index) (hshown : ¬ Masked text index) :
    HasColonOf scheme (Markup.maskQuoted text) index := by
  obtain ⟨start, rfl, hstart⟩ := h
  have hslashes : ∀ c ∈ [':', '/', '/'], Text.isBlank c = false := by decide
  have haddress : ∀ c ∈ address scheme, Text.isBlank c = false := fun c hc =>
    (List.mem_append.1 hc).elim (hblank c) (hslashes c)
  exact ⟨start, rfl, Markup.prefix_drop_maskQuoted hstart haddress (by simp [address]) hshown⟩

theorem isSchemeColon_maskQuoted (h : IsSchemeColon text index) (hshown : ¬ Masked text index) :
    IsSchemeColon (Markup.maskQuoted text) index :=
  h.imp (fun h => hasColonOf_maskQuoted (by decide) h hshown)
    (fun h => hasColonOf_maskQuoted (by decide) h hshown)

/-- **A sign of the copy is one of the text**, outside of quoted spans and of addresses. -/
theorem shown_of_searched {sign : Char} (hsign : sign ∈ signs)
    (h : (searched text)[index]? = some sign) :
    text[index]? = some sign ∧ ¬ Masked text index ∧ ¬ IsSchemeColon text index := by
  have hdash : sign ≠ '-' := fun heq => absurd (heq ▸ hsign) (by decide)
  have hplaceholder : sign ≠ Markup.placeholder := fun heq => absurd (heq ▸ hsign) (by decide)
  rw [searched] at h
  have hno : ¬ IsSchemeColon (Markup.maskQuoted text) index := by
    intro hcolon
    rw [getElem?_escapeAddresses_of_isSchemeColon hcolon, Option.some.injEq] at h
    exact hdash h.symm
  rw [getElem?_escapeAddresses_of_not hno] at h
  have hshown : ¬ Masked text index := by
    intro hmasked
    rw [Markup.getElem?_maskQuoted_of_masked hmasked, Option.some.injEq] at h
    exact hplaceholder h.symm
  rw [Markup.getElem?_maskQuoted_of_not_masked hshown] at h
  exact ⟨h, hshown, fun hcolon => hno (isSchemeColon_maskQuoted hcolon hshown)⟩

theorem eq_colon_of_hasColonOf {scheme : Text} (h : HasColonOf scheme text index) :
    text[index]? = some ':' := by
  obtain ⟨start, rfl, hstart⟩ := h
  rw [Markup.getElem?_of_prefix_drop hstart (by simp [address])]
  simp [address]

/-- **No non-breakable space is hidden before a sign.** -/
theorem not_isNonBreaking_of_searched {sign shown preceding : Char} (hsign : sign ∈ signs)
    (hnext : (searched text)[index + 1]? = some sign) (h : (searched text)[index]? = some shown)
    (hshown : Text.isNonBreaking shown = false) (hpreceding : text[index]? = some preceding) :
    Text.isNonBreaking preceding = false := by
  obtain ⟨hnextText, hnextShown, -⟩ := shown_of_searched hsign hnext
  have hsigns : ∀ c ∈ signs, Text.isBlank c = false := by decide
  -- a content that reached up to here would reach up to the sign
  have hmasked : ¬ Masked text index := fun hmasked =>
    hnextShown (Markup.masked_succ hmasked hnextText (hsigns sign hsign))
  have hmask : (Markup.maskQuoted text)[index]? = some preceding := by
    rw [Markup.getElem?_maskQuoted_of_not_masked hmasked, hpreceding]
  by_cases hcolon : IsSchemeColon (Markup.maskQuoted text) index
  · have hcolonText := hcolon.elim eq_colon_of_hasColonOf eq_colon_of_hasColonOf
    rw [hmask, Option.some.injEq] at hcolonText
    rw [hcolonText]
    decide
  · rw [searched, getElem?_escapeAddresses_of_not hcolon, hmask, Option.some.injEq] at h
    rw [h, hshown]

/-- What a match in the copy looks like. -/
theorem exists_shown_of_mem_occurrences {sign : Char} {found : Text.Occurrence}
    (h : found ∈ Text.occurrences (badSign sign) (searched text)) :
    ∃ shown, Text.isNonBreaking shown = false ∧
      (searched text)[found.before.length]? = some shown ∧
      (searched text)[found.before.length + 1]? = some sign := by
  obtain ⟨length, hmatch, -⟩ := Text.exists_match_of_mem_occurrences h
  rw [← Text.append_of_mem_occurrences h, List.append_assoc]
  rw [badSign.eq_def] at hmatch
  split at hmatch
  · next c s rest heq =>
    split at hmatch
    · next hbad =>
      rw [Bool.and_eq_true, decide_eq_true_eq, Bool.not_eq_true'] at hbad
      obtain ⟨rfl, hbreaking⟩ := hbad
      exact ⟨c, hbreaking, by simp [heq], by simp [heq]⟩
    · cases hmatch
  · cases hmatch

end

/-! ### What is shown around a sign -/

/-- A window that ends at a place has the last characters of the text up to there. -/
theorem slice_suffix_take (text : Text) (first last : Nat) :
    Text.slice text first last <:+ text.take last := by
  rw [Text.slice, ← List.drop_take]
  exact List.drop_suffix _ _

/-- A window that starts at a place has the first characters of the text from there. -/
theorem slice_prefix_drop (text : Text) (first last : Nat) :
    Text.slice text first last <+: text.drop first := List.take_prefix _ _

/-! ### Errors with their places -/

/-- The matches of one kind, each as the text has it, with their places. -/
def placedSigns (text : Text) (sign : Char) : List (Nat × UnspacedSign) :=
  (Text.occurrences (badSign sign) (searched text)).filterMap fun found =>
    (UnspacedSign.at? text sign found.before.length).map fun error => (found.before.length, error)

/-- The errors of one kind with their places. -/
def placedErrors (exempt : List Text) (text : Text) (sign : Char) : List (Nat × UnspacedSign) :=
  (placedSigns text sign).filter fun place => !isSuppressed exempt place.2

theorem map_snd_placedErrors (exempt : List Text) (text : Text) (sign : Char) :
    (placedErrors exempt text sign).map Prod.snd = signErrors exempt text sign := by
  have hplaced : (placedSigns text sign).map Prod.snd =
      (Text.occurrences (badSign sign) (searched text)).filterMap fun found =>
        UnspacedSign.at? text sign found.before.length := by
    simp only [placedSigns, List.map_filterMap, Option.map_map, Function.comp_def, Option.map_id']
  rw [signErrors, ← hplaced, List.filter_map]
  rfl

section
variable {exempt : List Text} {text : Text} {sign : Char} {place : Nat × UnspacedSign}

theorem mem_placedSigns_iff :
    place ∈ placedSigns text sign ↔
      ∃ found ∈ Text.occurrences (badSign sign) (searched text),
        place.1 = found.before.length ∧ UnspacedSign.at? text sign place.1 = some place.2 := by
  obtain ⟨index, error⟩ := place
  simp only [placedSigns, List.mem_filterMap, Option.map_eq_some_iff, Prod.mk.injEq]
  refine exists_congr fun found => and_congr_right' ?_
  constructor
  · rintro ⟨_, hat, rfl, rfl⟩
    exact ⟨rfl, hat⟩
  · rintro ⟨rfl, hat⟩
    exact ⟨error, hat, rfl, rfl⟩

/-- Matches of one kind have different places. -/
theorem pairwise_placedSigns (text : Text) (sign : Char) :
    (placedSigns text sign).Pairwise fun first second => first.1 ≠ second.1 := by
  refine List.pairwise_filterMap.2 (List.Pairwise.imp_of_mem ?_ (Text.pairwise_occurrences _ _))
  intro first second hfirst _ hbehind place hplace other hother
  obtain ⟨-, -, rfl⟩ := Option.map_eq_some_iff.1 hplace
  obtain ⟨-, -, rfl⟩ := Option.map_eq_some_iff.1 hother
  have hpos := Text.length_matched_pos hfirst
  dsimp only
  omega

theorem sign_of_mem_placedSigns (h : place ∈ placedSigns text sign) : place.2.sign = sign := by
  obtain ⟨-, -, -, hat⟩ := mem_placedSigns_iff.1 h
  obtain ⟨preceding, -, heq⟩ := Option.map_eq_some_iff.1 hat
  rw [← heq]

/-- A match is reached, because the text has a character at its place. -/
theorem isSome_at? {found : Text.Occurrence} (hsign : sign ∈ signs)
    (h : found ∈ Text.occurrences (badSign sign) (searched text)) :
    (UnspacedSign.at? text sign found.before.length).isSome = true := by
  obtain ⟨shown, -, -, hnext⟩ := exists_shown_of_mem_occurrences h
  obtain ⟨hlength, -⟩ := List.getElem?_eq_some_iff.1 (shown_of_searched hsign hnext).1
  rw [UnspacedSign.at?, List.getElem?_eq_getElem (by omega)]
  rfl

theorem isSuppressed_eq_false_iff {found : UnspacedSign} :
    isSuppressed exempt found = false ↔
      found.preceding ∉ [':', '?', '!', '.'] ∧ ∀ term ∈ exempt, ¬ term <:+: found.context := by
  rw [isSuppressed, Bool.or_eq_false_iff, ← Bool.not_eq_true, List.contains_iff_mem,
    List.any_eq_false]
  simp only [Text.includes_iff]

end

/-- **An error with its place is genuine.** -/
theorem genuine_of_mem_placedErrors {entry : Entry} {sign : Char} {place : Nat × UnspacedSign}
    (hsign : sign ∈ signs)
    (h : place ∈ placedErrors entry.exemptTerms entry.normalizedTarget sign) :
    Genuine entry place.1 place.2 := by
  obtain ⟨index, error⟩ := place
  obtain ⟨hplaced, hkept⟩ := List.mem_filter.1 h
  obtain ⟨found, hfound, hplace, hat⟩ := mem_placedSigns_iff.1 hplaced
  dsimp only at hplace hat hkept ⊢
  subst hplace
  obtain ⟨shown, hbreaking, hhere, hnext⟩ := exists_shown_of_mem_occurrences hfound
  obtain ⟨htext, hvisible, hno⟩ := shown_of_searched hsign hnext
  obtain ⟨preceding, hpreceding, rfl⟩ := Option.map_eq_some_iff.1 hat
  have hspace := not_isNonBreaking_of_searched hsign hnext hhere hbreaking hpreceding
  obtain ⟨hpunctuation, hexempt⟩ := isSuppressed_eq_false_iff.1 (Bool.not_eq_true' _ ▸ hkept)
  obtain ⟨hlength, -⟩ := List.getElem?_eq_some_iff.1 htext
  refine ⟨hsign, htext, hvisible, hno, hpreceding, ?unspaced, slice_suffix_take _ _ _,
    ?lengthBefore, slice_prefix_drop _ _ _, ?lengthAfter, hexempt⟩
  case unspaced =>
    rw [Text.isNonBreaking, Bool.or_eq_false_iff, beq_eq_false_iff_ne, beq_eq_false_iff_ne]
      at hspace
    exact List.not_mem_cons_of_ne_of_not_mem hspace.1
      (List.not_mem_cons_of_ne_of_not_mem hspace.2 hpunctuation)
  case lengthBefore =>
    rw [Text.length_slice, contextWidth]
    omega
  case lengthAfter =>
    rw [Text.length_slice, contextWidth]
    omega

/-! ### The errors of an entry -/

theorem startsWith_message (found : UnspacedSign) :
    Text.startsWith found.message opening = true := by
  rw [Text.startsWith, List.isPrefixOf_iff_prefix]
  unfold UnspacedSign.message opening
  simp only [List.append_assoc]
  exact List.prefix_append _ _

theorem head?_guillemetMessage (found : Text.Occurrence) :
    (guillemetMessage found).head? = some 'S' := by
  unfold guillemetMessage
  simp only [List.append_assoc]
  rw [List.head?_append]
  rfl

theorem startsWith_guillemetMessage (found : Text.Occurrence) :
    Text.startsWith (guillemetMessage found) opening = false := by
  rw [← Bool.not_eq_true, Text.startsWith, List.isPrefixOf_iff_prefix]
  rintro ⟨rest, hrest⟩
  have hhead := head?_guillemetMessage found
  have hopening : opening.head? = some 'T' := by decide
  rw [← hrest, List.head?_append, hopening, Option.some_or] at hhead
  exact absurd hhead (by decide)

/-- The errors about signs, among all the errors of an entry. -/
theorem filter_findings (entry : Entry) :
    ((findings entry).filter fun finding => Text.startsWith finding.message opening) =
      (signs.flatMap (signErrors entry.exemptTerms entry.normalizedTarget)).map
        fun found => ⟨name, .error, found.message⟩ := by
  have hguillemets (found : List Text.Occurrence) :
      (found.filter fun found => Text.startsWith (guillemetMessage found) opening) = [] :=
    List.filter_eq_nil_iff.2 fun found _ => by rw [startsWith_guillemetMessage]; decide
  have hsigns : ((signs.flatMap (signErrors entry.exemptTerms entry.normalizedTarget)).filter
      fun found => Text.startsWith found.message opening) =
        signs.flatMap (signErrors entry.exemptTerms entry.normalizedTarget) :=
    List.filter_eq_self.2 fun found _ => startsWith_message found
  simp only [findings, List.filter_map, List.filter_append, List.map_append, Function.comp_def,
    hguillemets, hsigns, List.map_nil, List.nil_append, List.map_map]

/-- **Every error is about a place of its own**, and tells the truth about it. -/
theorem reportsGenuine_findings (entry : Entry) : ReportsGenuine entry := by
  refine ⟨⟨signs.flatMap (placedErrors entry.exemptTerms entry.normalizedTarget), ?findings,
    ?different, ?genuine⟩, fun sign hsign found hfound => isSome_at? hsign hfound⟩
  case findings =>
    have hplaced : (signs.flatMap (placedErrors entry.exemptTerms entry.normalizedTarget)).map
        Prod.snd = signs.flatMap (signErrors entry.exemptTerms entry.normalizedTarget) := by
      rw [List.map_flatMap]
      exact congrArg (signs.flatMap ·) (funext fun sign => map_snd_placedErrors _ _ sign)
    rw [filter_findings, ← hplaced, List.map_map]
    rfl
  case different =>
    refine List.pairwise_map.2 (List.pairwise_flatMap.2 ⟨fun sign _ => ?_, ?_⟩)
    · exact (pairwise_placedSigns _ _).filter _
    · refine List.Pairwise.imp_of_mem ?_ (show signs.Pairwise (· ≠ ·) by decide)
      intro first second hfirst hsecond hne place hplace other hother heq
      have hsign := (genuine_of_mem_placedErrors hfirst hplace).sign
      have hother' := (genuine_of_mem_placedErrors hsecond hother).sign
      rw [heq, hother', sign_of_mem_placedSigns ((List.mem_filter.1 hplace).1),
        sign_of_mem_placedSigns ((List.mem_filter.1 hother).1), Option.some.injEq] at hsign
      exact hne hsign.symm
  case genuine =>
    intro place hplace
    obtain ⟨sign, hsign, hplaced⟩ := List.mem_flatMap.1 hplace
    exact genuine_of_mem_placedErrors hsign hplaced

end CatalogLint.Checker.Spacing
