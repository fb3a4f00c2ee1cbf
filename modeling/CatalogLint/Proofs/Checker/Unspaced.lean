/-
**Which badly spaced signs are reported.**

A sign is badly spaced if the character before it is neither a non-breakable space nor punctuation
that the sign continues.  The signs of one kind are looked for together with the characters before
them and without overlap, so that of several signs of one kind in a row every second one is passed
over.  Question marks, exclamation marks and colons continue themselves and are not badly spaced
then; but a semicolon does not continue a semicolon.  So what is passed over are semicolons behind
semicolons, and every other badly spaced sign is reported once.

Main definitions:

* `CatalogLint.Checker.Spacing.wantsSpace` — a sign is badly spaced behind a character;
* `CatalogLint.Checker.Spacing.isUnspaced` — a sign of one kind behind a character;
* `CatalogLint.Checker.Spacing.signFindings` — the errors about signs among those of an entry;
* `CatalogLint.Checker.Spacing.ReportsSigns` — the errors about signs come from the badly spaced
  signs.

Main results:

* `CatalogLint.Checker.Spacing.getElem?_searched_of_sign` — the copy shows the character before a
  sign;
* `CatalogLint.Checker.Spacing.mem_reportedPlaces_iff` — **a badly spaced sign is reported, unless
  it is a semicolon that is passed over**;
* `CatalogLint.Checker.Spacing.length_reportedPlaces_add` — the numbers of both;
* `CatalogLint.Checker.Spacing.reportsSigns_findings` — **the errors of an entry about signs**.
-/

import CatalogLint.Proofs.Checker.Sign
import CatalogLint.Proofs.Text.Pair
import Mathlib.Data.List.Perm.Basic

set_option autoImplicit false

namespace CatalogLint.Checker.Spacing

open Text (isPair isFound isPassedOver pairs foundPairs passedOver)

/-! ### Badly spaced signs -/

/-- The sign is badly spaced behind the character, which is neither a non-breakable space nor
punctuation that the sign continues. -/
def wantsSpace (preceding sign : Char) : Bool :=
  ['?', '!', ':', ';'].contains sign &&
    !(['\u00A0', '\u202F', ':', '?', '!', '.'].contains preceding)

/-- The second character is a sign of the kind, and the first one is no non-breakable space. -/
def isUnspaced (sign preceding found : Char) : Bool :=
  found = sign && !Text.isNonBreaking preceding

def signFindings (entry : Entry) : List Finding :=
  (findings entry).filter fun finding => Text.startsWith finding.message opening

theorem badSign_eq (sign : Char) : badSign sign = Text.pair (isUnspaced sign) := by
  funext text
  rcases text with _ | ⟨c, _ | ⟨d, text⟩⟩ <;> rfl

theorem isUnspaced_iff {sign preceding found : Char} :
    isUnspaced sign preceding found = true ↔
      found = sign ∧ Text.isNonBreaking preceding = false := by
  rw [isUnspaced, Bool.and_eq_true, decide_eq_true_iff, Bool.not_eq_true']

theorem wantsSpace_iff {preceding sign : Char} :
    wantsSpace preceding sign = true ↔
      isUnspaced sign preceding sign = true ∧ sign ∈ signs ∧ preceding ∉ [':', '?', '!', '.'] := by
  simp only [wantsSpace, isUnspaced, Text.isNonBreaking, Text.noBreakSpace,
    Text.narrowNoBreakSpace, signs, Bool.and_eq_true, Bool.not_eq_true', ← Bool.not_eq_true,
    List.contains_iff_mem, List.mem_cons, Bool.or_eq_true, beq_iff_eq, decide_eq_true_eq,
    true_and]
  tauto

section
variable {text : Text} {index : Nat} {sign : Char}

theorem isPair_isUnspaced_iff :
    isPair (isUnspaced sign) text index = true ↔
      ∃ preceding, text[index]? = some preceding ∧ text[index + 1]? = some sign ∧
        Text.isNonBreaking preceding = false := by
  rw [Text.isPair_iff]
  simp only [isUnspaced_iff]
  constructor
  · rintro ⟨c, _, hc, hsign, rfl, h⟩
    exact ⟨c, hc, hsign, h⟩
  · rintro ⟨c, hc, hsign, h⟩
    exact ⟨c, sign, hc, hsign, rfl, h⟩

/-- A sign that is passed over stands behind another one of its kind. -/
theorem behind_of_isPassedOver (h : isPassedOver (isUnspaced sign) text index = true) :
    ∃ start, index = start + 1 ∧ text[index]? = some sign ∧ text[index + 1]? = some sign := by
  obtain ⟨start, rfl, hbefore, hhere⟩ := Text.exists_pairs_of_isPassedOver h
  obtain ⟨-, -, hfirst, -⟩ := isPair_isUnspaced_iff.1 hbefore
  obtain ⟨-, -, hsecond, -⟩ := isPair_isUnspaced_iff.1 hhere
  exact ⟨start, rfl, hfirst, hsecond⟩

/-- Semicolons that are passed over are badly spaced. -/
theorem wantsSpace_of_isPassedOver (h : isPassedOver (isUnspaced ';') text index = true) :
    isPair wantsSpace text index = true := by
  obtain ⟨-, -, hfirst, hsecond⟩ := behind_of_isPassedOver h
  exact Text.isPair_iff.2 ⟨';', ';', hfirst, hsecond, by decide⟩

/-! ### The copy and the text -/

/-- Behind the colon of an address there is a slash. -/
theorem getElem?_succ_of_hasColonOf {scheme : Text} (h : HasColonOf scheme text index) :
    text[index + 1]? = some '/' := by
  obtain ⟨start, rfl, hstart⟩ := h
  rw [Nat.add_assoc, Markup.getElem?_of_prefix_drop hstart (by simp [address])]
  simp [address]

/-- The copy shows the character that the text has before a sign. -/
theorem getElem?_searched_of_sign (hsign : sign ∈ signs)
    (hnext : (searched text)[index + 1]? = some sign) : (searched text)[index]? = text[index]? := by
  obtain ⟨hnextText, hnextShown, -⟩ := shown_of_searched hsign hnext
  have hsigns : ∀ c ∈ signs, Text.isBlank c = false := by decide
  have hmasked : ¬Markup.Masked text index := fun hmasked =>
    hnextShown (Markup.masked_succ hmasked hnextText (hsigns sign hsign))
  have hcolon : ¬IsSchemeColon (Markup.maskQuoted text) index := by
    intro hcolon
    have hslash : (Markup.maskQuoted text)[index + 1]? = some '/' :=
      hcolon.elim getElem?_succ_of_hasColonOf getElem?_succ_of_hasColonOf
    have hmask := Markup.getElem?_maskQuoted_of_not_masked hnextShown
    rw [hslash, hnextText, Option.some.injEq] at hmask
    exact absurd (hmask ▸ hsign) (by decide)
  rw [searched, getElem?_escapeAddresses_of_not hcolon,
    Markup.getElem?_maskQuoted_of_not_masked hmasked]

end

/-! ### The signs that are reported -/

/-- The places of the errors of one kind are those of the matches that are not suppressed. -/
theorem fst_placedErrors (exempt : List Text) (text : Text) (sign : Char) :
    (placedErrors exempt text sign).map Prod.fst =
      (foundPairs (isUnspaced sign) (searched text)).filter fun index =>
        (UnspacedSign.at? text sign index).any fun found => !isSuppressed exempt found := by
  have hplace : ∀ index ∈ foundPairs (isUnspaced sign) (searched text),
      (Text.Occurrence.ofPair (searched text) index).before.length = index := by
    intro index h
    have hlt := Text.lt_length_of_isPair (Text.isFound_iff.1 (Text.mem_foundPairs_iff.1 h)).1
    rw [Text.Occurrence.ofPair, List.length_take, Nat.min_eq_left (Nat.le_of_lt hlt)]
  rw [placedErrors, placedSigns, badSign_eq, Text.occurrences_pair, List.filterMap_map,
    List.filter_filterMap, List.map_filterMap, ← List.filterMap_eq_filter]
  refine List.filterMap_congr fun index hindex => ?_
  rw [Function.comp_apply, hplace index hindex]
  cases hat : UnspacedSign.at? text sign index with
  | none => simp [Option.guard, hat]
  | some found => cases hkept : isSuppressed exempt found <;> simp [Option.guard, hat, hkept]

/-- The places of the errors about signs of a text in which no terms are exempted. -/
def reportedPlaces (text : Text) : List Nat :=
  signs.flatMap fun sign => (placedErrors [] text sign).map Prod.fst

section
variable {text : Text} {index : Nat} {sign : Char}

theorem mem_fst_placedErrors_iff (hsign : sign ∈ signs) :
    index ∈ (placedErrors [] text sign).map Prod.fst ↔
      (searched text)[index + 1]? = some sign ∧ isPair wantsSpace (searched text) index = true ∧
        isPassedOver (isUnspaced sign) (searched text) index = false := by
  rw [fst_placedErrors, List.mem_filter, Text.mem_foundPairs_iff, Text.isFound_iff,
    isPair_isUnspaced_iff, Text.isPair_iff, Option.any_eq_true]
  constructor
  · rintro ⟨⟨⟨preceding, hpreceding, hnext, hspace⟩, hfound⟩, error, hat, hkept⟩
    refine ⟨hnext, ⟨preceding, sign, hpreceding, hnext, ?_⟩, hfound⟩
    obtain ⟨shown, hshown, rfl⟩ := Option.map_eq_some_iff.1 hat
    rw [getElem?_searched_of_sign hsign hnext, hshown, Option.some.injEq] at hpreceding
    obtain rfl := hpreceding
    rw [wantsSpace_iff, isUnspaced, hspace]
    exact ⟨by simp, hsign, (isSuppressed_eq_false_iff.1 (Bool.not_eq_true' _ ▸ hkept)).1⟩
  · rintro ⟨hnext, ⟨preceding, found, hpreceding, hnext', hwants⟩, hfound⟩
    obtain rfl : sign = found := Option.some.inj (hnext.symm.trans hnext')
    obtain ⟨hunspaced, -, hcontinues⟩ := wantsSpace_iff.1 hwants
    refine ⟨⟨⟨preceding, hpreceding, hnext, ?_⟩, hfound⟩, ?_⟩
    · simpa [isUnspaced] using hunspaced
    · rw [getElem?_searched_of_sign hsign hnext] at hpreceding
      refine ⟨_, by rw [UnspacedSign.at?, hpreceding]; rfl, ?_⟩
      rw [Bool.not_eq_true', isSuppressed_eq_false_iff]
      exact ⟨hcontinues, fun _ hterm => absurd hterm List.not_mem_nil⟩

/-- **A badly spaced sign is reported, unless it is a semicolon that is passed over.** -/
theorem mem_reportedPlaces_iff :
    index ∈ reportedPlaces text ↔ isPair wantsSpace (searched text) index = true ∧
      isPassedOver (isUnspaced ';') (searched text) index = false := by
  rw [reportedPlaces, List.mem_flatMap]
  constructor
  · rintro ⟨sign, hsign, hmem⟩
    obtain ⟨hnext, hwants, hfound⟩ := (mem_fst_placedErrors_iff hsign).1 hmem
    refine ⟨hwants, Bool.eq_false_iff.2 fun hpassed => ?_⟩
    obtain ⟨-, -, -, hsemicolon⟩ := behind_of_isPassedOver hpassed
    obtain rfl : sign = ';' := Option.some.inj (hnext.symm.trans hsemicolon)
    rw [hpassed] at hfound
    cases hfound
  · rintro ⟨hwants, hpassed⟩
    obtain ⟨preceding, sign, hpreceding, hnext, h⟩ := Text.isPair_iff.1 hwants
    obtain ⟨-, hsign, hcontinues⟩ := wantsSpace_iff.1 h
    refine ⟨sign, hsign, (mem_fst_placedErrors_iff hsign).2 ⟨hnext, hwants, ?_⟩⟩
    refine Bool.eq_false_iff.2 fun hother => ?_
    -- behind a sign of its own kind only a semicolon is badly spaced
    obtain ⟨-, -, hbehind, -⟩ := behind_of_isPassedOver hother
    obtain rfl : preceding = sign := Option.some.inj (hpreceding.symm.trans hbehind)
    have hsemicolon : ∀ c ∈ signs, c ∉ [':', '?', '!', '.'] → c = ';' := by decide
    obtain rfl := hsemicolon preceding hsign hcontinues
    rw [hother] at hpassed
    cases hpassed

theorem nodup_reportedPlaces (text : Text) : (reportedPlaces text).Nodup := by
  refine List.pairwise_flatMap.2 ⟨fun sign _ => ?_, ?_⟩
  · rw [fst_placedErrors]
    exact (Text.nodup_foundPairs _ _).filter _
  · refine List.Pairwise.imp_of_mem ?_ (show signs.Pairwise (· ≠ ·) by decide)
    rintro first second hfirst hsecond hne index hindex _ hother rfl
    obtain ⟨hnext, -⟩ := (mem_fst_placedErrors_iff hfirst).1 hindex
    obtain ⟨hnext', -⟩ := (mem_fst_placedErrors_iff hsecond).1 hother
    exact hne (Option.some.inj (hnext.symm.trans hnext'))

/-- **Every badly spaced sign is reported once, or it is passed over.** -/
theorem length_reportedPlaces_add (text : Text) :
    (reportedPlaces text).length + (passedOver (isUnspaced ';') (searched text)).length =
      (pairs wantsSpace (searched text)).length := by
  have hpassed : passedOver (isUnspaced ';') (searched text) =
      (pairs wantsSpace (searched text)).filter
        (isPassedOver (isUnspaced ';') (searched text)) := by
    rw [passedOver, pairs, List.filter_filter]
    refine List.filter_congr fun index _ => ?_
    rw [Bool.eq_iff_iff, Bool.and_eq_true, iff_self_and]
    exact wantsSpace_of_isPassedOver
  have hreported : (reportedPlaces text).Perm ((pairs wantsSpace (searched text)).filter
      fun index => !isPassedOver (isUnspaced ';') (searched text) index) := by
    refine (List.perm_ext_iff_of_nodup (nodup_reportedPlaces text)
      ((Text.nodup_pairs _ _).filter _)).2 fun index => ?_
    rw [mem_reportedPlaces_iff, List.mem_filter, Text.mem_pairs_iff, Bool.not_eq_true']
  rw [hreported.length_eq, hpassed, Nat.add_comm, ← List.length_eq_length_filter_add]

end

/-! ### The errors of an entry -/

/-- The errors of an entry about signs come from the badly spaced signs of the copy, and a badly
spaced sign has none only if it is a semicolon that is passed over. -/
structure ReportsSigns (entry : Entry) : Prop where
  /-- Each error is about a place of its own, and tells what stands there.  The places are those of
  the badly spaced signs, without the semicolons that are passed over. -/
  errors : ∃ placed : List (Nat × UnspacedSign),
    signFindings entry = placed.map (fun place => ⟨name, .error, place.2.message⟩) ∧
      (placed.map Prod.fst).Nodup ∧
      (∀ place ∈ placed,
        UnspacedSign.at? entry.normalizedTarget place.2.sign place.1 = some place.2) ∧
      ∀ index, index ∈ placed.map Prod.fst ↔
        isPair wantsSpace (searched entry.normalizedTarget) index = true ∧
          isPassedOver (isUnspaced ';') (searched entry.normalizedTarget) index = false
  /-- As many errors are missing as semicolons are passed over. -/
  number : (signFindings entry).length +
      (passedOver (isUnspaced ';') (searched entry.normalizedTarget)).length =
    (pairs wantsSpace (searched entry.normalizedTarget)).length
  /-- Where no semicolon follows another one, no error is missing. -/
  apart : ¬[';', ';'] <:+: searched entry.normalizedTarget →
    (signFindings entry).length = (pairs wantsSpace (searched entry.normalizedTarget)).length

/-- Where no sign follows another one of its kind, none is passed over. -/
theorem passedOver_eq_nil {text : Text} {sign : Char} (h : ¬[sign, sign] <:+: text) :
    passedOver (isUnspaced sign) text = [] := by
  refine Text.passedOver_eq_nil_of_apart fun c d e hinfix hfirst => ?_
  refine Bool.eq_false_iff.2 fun hsecond => h ?_
  obtain ⟨rfl, -⟩ := isUnspaced_iff.1 hfirst
  obtain ⟨rfl, -⟩ := isUnspaced_iff.1 hsecond
  exact (List.suffix_cons c _).isInfix.trans hinfix

/-- **The errors of an entry about signs**, if it exempts no terms. -/
theorem reportsSigns_findings (entry : Entry) (h : entry.exemptTerms = []) :
    ReportsSigns entry := by
  have hplaced : (signs.flatMap (placedErrors [] entry.normalizedTarget)).map Prod.fst =
      reportedPlaces entry.normalizedTarget := List.map_flatMap
  have hfindings : signFindings entry =
      (signs.flatMap (placedErrors [] entry.normalizedTarget)).map
        fun place => ⟨name, .error, place.2.message⟩ := by
    rw [signFindings, filter_findings, h]
    simp only [← map_snd_placedErrors, List.map_flatMap, List.map_map, Function.comp_def]
  have hnumber : (signFindings entry).length +
      (passedOver (isUnspaced ';') (searched entry.normalizedTarget)).length =
        (pairs wantsSpace (searched entry.normalizedTarget)).length := by
    rw [← length_reportedPlaces_add, ← hplaced, hfindings, List.length_map, List.length_map]
  refine ⟨⟨_, hfindings, ?different, ?shown, ?places⟩, hnumber, fun hapart => ?_⟩
  case different => exact hplaced ▸ nodup_reportedPlaces _
  case shown =>
    intro place hplace
    obtain ⟨sign, -, hplace⟩ := List.mem_flatMap.1 hplace
    have hmem := (List.mem_filter.1 hplace).1
    obtain ⟨-, -, -, hat⟩ := mem_placedSigns_iff.1 hmem
    rwa [sign_of_mem_placedSigns hmem]
  case places =>
    intro index
    rw [hplaced]
    exact mem_reportedPlaces_iff
  rwa [passedOver_eq_nil hapart, List.length_nil, Nat.add_zero] at hnumber

/-- An entry with semicolons in a row, a question that is exclaimed, a quoted sign and an
address. -/
def manySigns : Entry where
  reference := []
  firstLine := 1
  lastLine := 1
  target := ["Oui;;; non?! \x60\x60a;b\x60\x60 http://e.org;; \u00A0; ;"]

theorem reportsSigns_manySigns :
    manySigns.exemptTerms = [] ∧ ReportsSigns manySigns ∧
      pairs wantsSpace (searched manySigns.normalizedTarget) = [2, 3, 4, 9, 32, 33, 38] ∧
      passedOver (isUnspaced ';') (searched manySigns.normalizedTarget) = [3, 33] := by
  have h : manySigns.exemptTerms = [] := by decide
  exact ⟨h, reportsSigns_findings manySigns h, by decide, by decide⟩

/-- Of two semicolons in a row the second one has no error. -/
theorem not_forall_length_signFindings : ¬∀ entry : Entry, entry.exemptTerms = [] →
    (signFindings entry).length = (pairs wantsSpace (searched entry.normalizedTarget)).length := by
  intro h
  have hnumber := h
    { reference := [], firstLine := 1, lastLine := 1, target := ["a;;"] } (by decide)
  exact absurd hnumber (by decide)

end CatalogLint.Checker.Spacing
