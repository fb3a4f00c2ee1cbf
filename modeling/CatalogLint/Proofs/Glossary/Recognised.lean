/-
**Equivalents that stand in a text as they are written.**

A term counts as translated if the small form of one of its equivalents occurs in the small form of
the target text.  An equivalent that the target text holds word for word should be recognised, and
it is wherever its small form is there what it is alone.  This fails for a capital sigma only, at
one of the ends of the equivalent: alone it ends a word, or begins one, and in the target text it
stands in the middle of a word.  The built-in terms have no sigma, so that none of them is warned
about where an equivalent of it occurs.

Main definition:

* `CatalogLint.Glossary.RecognisesEquivalents` — the equivalents that are recognised, and what this
  means for the terms that are warned about.

Main results:

* `CatalogLint.Glossary.Term.translatedIn_append` — **an equivalent is recognised unless a sigma of
  it changes its form**;
* `CatalogLint.Glossary.sigmaShift_of_mem_warned` — so a term is warned about in spite of an
  equivalent only for a sigma;
* `CatalogLint.Glossary.recognisesEquivalents` — all of this, for every glossary and entry;
* `CatalogLint.Glossary.not_forall_translatedIn` — an equivalent that is not recognised.
-/

import CatalogLint.Proofs.Checker.GlossaryUse
import CatalogLint.Proofs.Text.SmallForm

set_option autoImplicit false

namespace CatalogLint.Glossary

open Text (SigmaShift)
open Checker.GlossaryUse (warned mem_warned_iff)

section
variable {glossary : Glossary} {entry : Entry} {term : Term} {equivalent : Text}

/-- **An equivalent is recognised where it stands as it is written, unless a sigma of it changes its
form.** -/
theorem Term.translatedIn_append (hequivalent : equivalent ∈ term.equivalents) {before after : Text}
    (hkeeps : ¬SigmaShift before equivalent after) :
    term.translatedIn (before ++ equivalent ++ after) = true := by
  have hsmall := Text.lower_append_append before equivalent after
  rw [Text.lowerBetween_eq_lower_iff.2 hkeeps] at hsmall
  refine List.any_eq_true.2 ⟨equivalent, hequivalent, Text.includes_iff.2 ?_⟩
  exact ⟨_, _, hsmall.symm⟩

/-- A term that is warned about has no equivalent in the target text but one whose sigma changes its
form there. -/
theorem sigmaShift_of_mem_warned (hterm : term ∈ warned glossary entry)
    (hequivalent : equivalent ∈ term.equivalents) {before after : Text}
    (htarget : entry.targetText = before ++ equivalent ++ after) :
    SigmaShift before equivalent after := by
  obtain ⟨-, -, huntranslated, -⟩ := mem_warned_iff.1 hterm
  by_contra hkeeps
  rw [htarget, Term.translatedIn_append hequivalent hkeeps] at huntranslated
  exact absurd huntranslated (by decide)

/-- No equivalent of a built-in term has a sigma. -/
theorem sigma_not_mem_builtin : ∀ term ∈ builtin.terms, ∀ equivalent ∈ term.equivalents,
    'Σ' ∉ equivalent := by
  simp only [builtin, builtinTerms, List.forall_mem_cons, List.not_mem_nil, false_imp_iff,
    implies_true, and_true]
  -- the literals are opened one by one, for their characters are slow to compute
  repeat' apply And.intro
  all_goals
    rw [String.toList_ofList]
    decide

end

/-- The equivalents that are recognised where a target text holds them as they are written. -/
structure RecognisesEquivalents (glossary : Glossary) (entry : Entry) : Prop where
  /-- The small form of a text is put together from those that its parts have where they stand. -/
  placed : ∀ before part after : Text, Text.lower (before ++ part ++ after) =
    Text.lowerBetween [] before (part ++ after) ++ Text.lowerBetween before.reverse part after ++
      Text.lowerBetween (before ++ part).reverse after []
  /-- A part has the small form there that it has alone, if and only if none of its sigmas changes
  its form. -/
  kept : ∀ before part after : Text,
    Text.lowerBetween before.reverse part after = Text.lower part ↔ ¬SigmaShift before part after
  /-- So an equivalent is recognised if none of its sigmas changes its form, -/
  recognised : ∀ term ∈ glossary.terms, ∀ equivalent ∈ term.equivalents, ∀ before after : Text,
    ¬SigmaShift before equivalent after → term.translatedIn (before ++ equivalent ++ after) = true
  /-- in particular if it has no sigma, -/
  plain : ∀ term ∈ glossary.terms, ∀ equivalent ∈ term.equivalents, 'Σ' ∉ equivalent →
    ∀ before after : Text, term.translatedIn (before ++ equivalent ++ after) = true
  /-- and if what stands before it and what stands behind it does not lead to a cased letter. -/
  alone : ∀ term ∈ glossary.terms, ∀ equivalent ∈ term.equivalents, ∀ before after : Text,
    Text.leadsToCased before.reverse = false → Text.leadsToCased after = false →
      term.translatedIn (before ++ equivalent ++ after) = true
  /-- There is one warning for each term that is warned about. -/
  warnings : Checker.GlossaryUse.findings glossary entry = (warned glossary entry).map fun term =>
    ⟨Checker.GlossaryUse.name, .warning, Checker.GlossaryUse.message term entry.targetText⟩
  /-- Wherever the target text holds an equivalent of such a term, a sigma changes its form. -/
  missed : ∀ term ∈ warned glossary entry, ∀ equivalent ∈ term.equivalents, ∀ before after : Text,
    entry.targetText = before ++ equivalent ++ after → SigmaShift before equivalent after
  /-- Of the built-in glossary no term is warned about if an equivalent of it occurs. -/
  builtin : ∀ term ∈ warned builtin entry, ∀ equivalent ∈ term.equivalents,
    ¬equivalent <:+: entry.targetText

/-- **Equivalents are recognised where they are written, but for a sigma at one of their ends.** -/
theorem recognisesEquivalents (glossary : Glossary) (entry : Entry) :
    RecognisesEquivalents glossary entry where
  placed := Text.lower_append_append
  kept _ _ _ := Text.lowerBetween_eq_lower_iff
  recognised _ _ _ hequivalent _ _ hkeeps := Term.translatedIn_append hequivalent hkeeps
  plain _ _ _ hequivalent hsigma before after :=
    Term.translatedIn_append hequivalent (Text.not_sigmaShift_of_not_mem hsigma before after)
  alone _ _ equivalent hequivalent _ _ hbefore hafter :=
    Term.translatedIn_append hequivalent (Text.not_sigmaShift_of_alone hbefore hafter equivalent)
  warnings := Checker.GlossaryUse.findings_eq_map_warned glossary entry
  missed _ hterm _ hequivalent _ _ htarget := sigmaShift_of_mem_warned hterm hequivalent htarget
  builtin := by
    rintro term hterm equivalent hequivalent ⟨before, after, htarget⟩
    have hsigma := sigma_not_mem_builtin term (mem_warned_iff.1 hterm).1 equivalent hequivalent
    exact Text.not_sigmaShift_of_not_mem hsigma before after
      (sigmaShift_of_mem_warned hterm hequivalent htarget.symm)

/-- Alone the sigma of this equivalent ends a word; before one more letter it does not, and the
equivalent is not recognised. -/
theorem not_forall_translatedIn : ¬∀ (term : Term), ∀ equivalent ∈ term.equivalents,
    ∀ before after : Text, term.translatedIn (before ++ equivalent ++ after) = true := by
  intro h
  exact absurd (h ⟨"bug", ["ΑΣ"]⟩ "ΑΣ" (List.mem_singleton.2 rfl) [] "Α") (by decide)

end CatalogLint.Glossary
