/-
**Which badly spaced guillemets are reported.**

An opening guillemet wants a non-breakable space behind it and a closing one wants one before it.
Each of them is looked for together with its neighbour and without overlap.  If the neighbour is a
guillemet of the same kind, the match takes it away: of several opening guillemets in a row, or of
several closing ones, every second one is passed over.  Every other badly spaced guillemet is
reported once.

Main definitions:

* `CatalogLint.Checker.Spacing.opensBadly`, `CatalogLint.Checker.Spacing.closesBadly` — a badly
  spaced guillemet and its neighbour;
* `CatalogLint.Checker.Spacing.guillemetFindings` — the errors about guillemets among those of an
  entry;
* `CatalogLint.Checker.Spacing.ReportsGuillemets` — the errors about guillemets come from the badly
  spaced ones.

Main results:

* `CatalogLint.Checker.Spacing.guillemetFindings_eq` — the errors about guillemets are those of the
  pairs that are found;
* `CatalogLint.Checker.Spacing.guillemetFindings_eq_nil_iff` — there are none only if no guillemet
  is badly spaced;
* `CatalogLint.Checker.Spacing.reportsGuillemets_findings` — **the errors of an entry about
  guillemets**.
-/

import CatalogLint.Proofs.Checker.Sign
import CatalogLint.Proofs.Text.Pair

set_option autoImplicit false

namespace CatalogLint.Checker.Spacing

open Text (isPair pairs foundPairs passedOver)

/-! ### Badly spaced guillemets -/

/-- The first character is an opening guillemet, and the second one is no non-breakable space. -/
def opensBadly (first second : Char) : Bool := first == '«' && !Text.isNonBreaking second

/-- The second character is a closing guillemet, and the first one is no non-breakable space. -/
def closesBadly (first second : Char) : Bool := second == '»' && !Text.isNonBreaking first

/-- How the message of an error about a guillemet begins. -/
def guillemetOpening : Text := "Space should be replaced with a non-breakable space in \""

/-- The errors about guillemets among those of the entry. -/
def guillemetFindings (entry : Entry) : List Finding :=
  (findings entry).filter fun finding => Text.startsWith finding.message guillemetOpening

/-- The error about the guillemet among the two characters at the place, with up to thirty
characters of the text on each side. -/
def guillemetError (text : Text) (index : Nat) : Finding :=
  ⟨name, .error, guillemetOpening ++ (text.drop index).take 2 ++ "\": between ###" ++
    Text.lastChars 30 (text.take index) ++ "### and ###" ++ (text.drop (index + 2)).take 30 ++
    "###"⟩

theorem opensBadly_iff {c d : Char} :
    opensBadly c d = true ↔ c = '«' ∧ Text.isNonBreaking d = false := by
  rw [opensBadly, Bool.and_eq_true, beq_iff_eq, Bool.not_eq_true']

theorem closesBadly_iff {c d : Char} :
    closesBadly c d = true ↔ d = '»' ∧ Text.isNonBreaking c = false := by
  rw [closesBadly, Bool.and_eq_true, beq_iff_eq, Bool.not_eq_true']

theorem badOpening_eq : badOpening = Text.pair opensBadly := by
  funext text
  rw [badOpening.eq_def]
  split
  · next c text => cases h : Text.isNonBreaking c <;> simp [Text.pair, opensBadly, h]
  · next hno =>
    rcases text with _ | ⟨c, _ | ⟨d, text⟩⟩
    · rfl
    · rfl
    · have hc : c ≠ '«' := fun heq => hno d text (by rw [heq])
      simp [Text.pair, opensBadly, hc]

theorem badClosing_eq : badClosing = Text.pair closesBadly := by
  funext text
  rw [badClosing.eq_def]
  split
  · next c text => cases h : Text.isNonBreaking c <;> simp [Text.pair, closesBadly, h]
  · next hno =>
    rcases text with _ | ⟨c, _ | ⟨d, text⟩⟩
    · rfl
    · rfl
    · have hd : d ≠ '»' := fun heq => hno c text (by rw [heq])
      simp [Text.pair, closesBadly, hd]

/-! ### The errors about guillemets -/

/-- A text does not begin as another one does whose first character is a different one. -/
theorem startsWith_eq_false {text start : Text} {c d : Char} (hc : text.head? = some c)
    (hd : start.head? = some d) (hne : d ≠ c) : Text.startsWith text start = false := by
  rw [← Bool.not_eq_true, Text.startsWith, List.isPrefixOf_iff_prefix]
  rintro ⟨rest, rfl⟩
  rw [List.head?_append, hd, Option.some_or, Option.some.injEq] at hc
  exact hne hc

theorem head?_message (found : UnspacedSign) : found.message.head? = some 'T' := by
  unfold UnspacedSign.message
  simp only [List.append_assoc]
  rw [List.head?_append]
  rfl

theorem startsWith_guillemetOpening (found : Text.Occurrence) :
    Text.startsWith (guillemetMessage found) guillemetOpening = true := by
  rw [Text.startsWith, List.isPrefixOf_iff_prefix]
  unfold guillemetMessage guillemetOpening
  simp only [List.append_assoc]
  exact List.prefix_append _ _

/-- The errors about guillemets, among all the errors of an entry. -/
theorem filter_findings_guillemet (entry : Entry) :
    guillemetFindings entry =
      (openingErrors entry.normalizedTarget ++ closingErrors entry.normalizedTarget).map
        fun found => ⟨name, .error, guillemetMessage found⟩ := by
  have hsigns (found : List UnspacedSign) :
      (found.filter fun found => Text.startsWith found.message guillemetOpening) = [] := by
    refine List.filter_eq_nil_iff.2 fun found _ => ?_
    rw [startsWith_eq_false (head?_message found) (d := 'S') rfl (by decide)]
    decide
  have hguillemets (found : List Text.Occurrence) :
      (found.filter fun found => Text.startsWith (guillemetMessage found) guillemetOpening) =
        found :=
    List.filter_eq_self.2 fun found _ => startsWith_guillemetOpening found
  simp only [guillemetFindings, findings, List.filter_map, List.filter_append, List.map_append,
    Function.comp_def, hguillemets, hsigns, List.map_nil, List.append_nil, List.map_map]

theorem guillemetError_eq (text : Text) (index : Nat) :
    guillemetError text index =
      ⟨name, .error, guillemetMessage (Text.Occurrence.ofPair text index)⟩ := rfl

/-- **The errors about guillemets are those of the pairs that are found**, the opening ones before
the closing ones. -/
theorem guillemetFindings_eq (entry : Entry) :
    guillemetFindings entry =
      (foundPairs opensBadly entry.normalizedTarget ++
        foundPairs closesBadly entry.normalizedTarget).map
          (guillemetError entry.normalizedTarget) := by
  rw [filter_findings_guillemet, openingErrors, closingErrors, badOpening_eq, badClosing_eq,
    Text.occurrences_pair, Text.occurrences_pair, ← List.map_append, List.map_map]
  exact List.map_congr_left fun index _ => (guillemetError_eq _ index).symm

/-- There are no errors about guillemets only if no guillemet is badly spaced. -/
theorem guillemetFindings_eq_nil_iff {entry : Entry} :
    guillemetFindings entry = [] ↔
      ∀ index, isPair opensBadly entry.normalizedTarget index = false ∧
        isPair closesBadly entry.normalizedTarget index = false := by
  rw [guillemetFindings_eq, List.map_eq_nil_iff, List.append_eq_nil_iff,
    Text.foundPairs_eq_nil_iff, Text.foundPairs_eq_nil_iff, forall_and]

/-! ### Guillemets that are passed over -/

section
variable {text : Text}

/-- Where no opening guillemet follows another one, none is passed over. -/
theorem passedOver_opensBadly_eq_nil (h : ¬['«', '«'] <:+: text) :
    passedOver opensBadly text = [] := by
  refine Text.passedOver_eq_nil_of_apart fun c d e hinfix hfirst => ?_
  refine Bool.eq_false_iff.2 fun hsecond => h ?_
  obtain ⟨rfl, -⟩ := opensBadly_iff.1 hfirst
  obtain ⟨rfl, -⟩ := opensBadly_iff.1 hsecond
  exact (List.prefix_append ['«', '«'] [e]).isInfix.trans hinfix

/-- Where no closing guillemet follows another one, none is passed over. -/
theorem passedOver_closesBadly_eq_nil (h : ¬['»', '»'] <:+: text) :
    passedOver closesBadly text = [] := by
  refine Text.passedOver_eq_nil_of_apart fun c d e hinfix hfirst => ?_
  refine Bool.eq_false_iff.2 fun hsecond => h ?_
  obtain ⟨rfl, -⟩ := closesBadly_iff.1 hfirst
  obtain ⟨rfl, -⟩ := closesBadly_iff.1 hsecond
  exact (List.suffix_cons c ['»', '»']).isInfix.trans hinfix

end

/-! ### The errors of an entry -/

/-- The errors of an entry about guillemets come from the badly spaced guillemets of the plain
text, and a badly spaced guillemet has none only if it is passed over. -/
structure ReportsGuillemets (entry : Entry) : Prop where
  /-- There is one error for each badly spaced guillemet that is not passed over, and it shows the
  two characters and the text around them. -/
  errors : guillemetFindings entry =
    (foundPairs opensBadly entry.normalizedTarget ++
      foundPairs closesBadly entry.normalizedTarget).map (guillemetError entry.normalizedTarget)
  /-- As many errors are missing as guillemets are passed over. -/
  number : (guillemetFindings entry).length +
      ((passedOver opensBadly entry.normalizedTarget).length +
        (passedOver closesBadly entry.normalizedTarget).length) =
    (pairs opensBadly entry.normalizedTarget).length +
      (pairs closesBadly entry.normalizedTarget).length
  /-- Where no guillemet follows another one of its kind, no error is missing. -/
  apart : ¬['«', '«'] <:+: entry.normalizedTarget → ¬['»', '»'] <:+: entry.normalizedTarget →
    (guillemetFindings entry).length = (pairs opensBadly entry.normalizedTarget).length +
      (pairs closesBadly entry.normalizedTarget).length

/-- **The errors of an entry about guillemets.** -/
theorem reportsGuillemets_findings (entry : Entry) : ReportsGuillemets entry := by
  have hnumber : (guillemetFindings entry).length +
      ((passedOver opensBadly entry.normalizedTarget).length +
        (passedOver closesBadly entry.normalizedTarget).length) =
      (pairs opensBadly entry.normalizedTarget).length +
        (pairs closesBadly entry.normalizedTarget).length := by
    rw [guillemetFindings_eq, List.length_map, List.length_append,
      ← Text.length_foundPairs_add opensBadly, ← Text.length_foundPairs_add closesBadly]
    omega
  refine ⟨guillemetFindings_eq entry, hnumber, fun hopening hclosing => ?_⟩
  rwa [passedOver_opensBadly_eq_nil hopening, passedOver_closesBadly_eq_nil hclosing,
    List.length_nil, Nat.add_zero] at hnumber

/-- Of two opening guillemets in a row that are badly spaced the second one has no error. -/
theorem not_forall_length_guillemetFindings : ¬∀ entry : Entry,
    (guillemetFindings entry).length = (pairs opensBadly entry.normalizedTarget).length +
      (pairs closesBadly entry.normalizedTarget).length := by
  intro h
  have hnumber := h { reference := [], firstLine := 1, lastLine := 1, target := ["««a"] }
  exact absurd hnumber (by decide)

end CatalogLint.Checker.Spacing
