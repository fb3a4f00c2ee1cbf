/-
**A glossary with the terms of a project is a map.**

The terms of a project are added one after another, in the order of their names, and each is looked
up among those that are there already, the added ones included.  A term that is found gets new
equivalents, and otherwise the list grows.  What comes of it does not show this history: the
built-in terms are followed by the terms of the project that have no forerunner, and every term has
the equivalents of the last term of the project that has its name, but for the case of ASCII
letters.

Main definitions:

* `CatalogLint.Glossary.Term.Same` — two terms have the same name, but for the case;
* `CatalogLint.Glossary.Distinct` — no two terms of a list have;
* `CatalogLint.Glossary.IsNew`, `CatalogLint.Glossary.newTerms` — the terms of a project that have
  no forerunner;
* `CatalogLint.Glossary.overridden` — a term with the equivalents that a project gives it;
* `CatalogLint.Glossary.Extends` — a glossary is the built-in one with the terms of a project.

Main results:

* `CatalogLint.Glossary.addTerm_of_same`, `CatalogLint.Glossary.addTerm_of_new` — what one term does
  to a list of distinct terms;
* `CatalogLint.Glossary.foldl_addTerm_eq` — **what all terms of a project do to it**;
* `CatalogLint.Glossary.extends_extend` — **the built-in glossary with the terms of a project**.
-/

import CatalogLint.Proofs.Glossary.Extension
import CatalogLint.Proofs.Text.ByteOrder
import Mathlib.Data.List.Induction

set_option autoImplicit false

namespace CatalogLint.Glossary

/-! ### Terms of the same name -/

/-- The two terms have the same name, but for the case of ASCII letters. -/
def Term.Same (first second : Term) : Prop := Text.equalAscii first.name second.name = true

instance : DecidableRel Term.Same := fun first second =>
  inferInstanceAs (Decidable (Text.equalAscii first.name second.name = true))

theorem Term.same_iff {first second : Term} :
    first.Same second ↔ first.name.map Char.toLower = second.name.map Char.toLower :=
  beq_iff_eq

theorem Term.Same.refl (term : Term) : term.Same term := same_iff.2 rfl

theorem Term.Same.symm {first second : Term} (h : first.Same second) : second.Same first :=
  same_iff.2 (same_iff.1 h).symm

theorem Term.Same.trans {first second third : Term} (h : first.Same second)
    (hnext : second.Same third) : first.Same third :=
  same_iff.2 ((same_iff.1 h).trans (same_iff.1 hnext))

/-- No two of the terms have the same name. -/
def Distinct (terms : List Term) : Prop := terms.Pairwise fun first second => ¬first.Same second

/-- The term with the equivalents of another one, if that has the same name. -/
def Term.overriddenBy (other term : Term) : Term :=
  if term.Same other then { term with equivalents := other.equivalents } else term

@[simp] theorem Term.name_overriddenBy (other term : Term) :
    (other.overriddenBy term).name = term.name := by
  unfold overriddenBy
  split <;> rfl

theorem Term.overriddenBy_of_not_same {other term : Term} (h : ¬term.Same other) :
    other.overriddenBy term = term := if_neg h

/-! ### One more term -/

section
variable {first term : Term} {terms : List Term}

theorem addTerm_cons_of_same (h : first.Same term) :
    addTerm term (first :: terms) = term.overriddenBy first :: terms := by
  rw [Term.overriddenBy, if_pos h]
  exact if_pos h

theorem addTerm_cons_of_not_same (h : ¬first.Same term) :
    addTerm term (first :: terms) = first :: addTerm term terms :=
  if_neg h

/-- A term that is there already gives its equivalents to the one of its name. -/
theorem addTerm_of_same (hdistinct : Distinct terms) (h : ∃ other ∈ terms, other.Same term) :
    addTerm term terms = terms.map term.overriddenBy := by
  induction terms with
  | nil => simp at h
  | cons first terms ih =>
      obtain ⟨hfirst, hrest⟩ := List.pairwise_cons.1 hdistinct
      rw [List.map_cons]
      by_cases hsame : first.Same term
      · -- none of the others has the name of the first one
        have hothers : ∀ other ∈ terms, term.overriddenBy other = other := fun other hother =>
          Term.overriddenBy_of_not_same fun hother' =>
            hfirst other hother (hsame.trans hother'.symm)
        rw [addTerm_cons_of_same hsame, List.map_congr_left hothers, List.map_id']
      · obtain ⟨other, hother, hterm⟩ := h
        have hmem : other ∈ terms := (List.mem_cons.1 hother).resolve_left fun heq =>
          hsame (heq ▸ hterm)
        rw [addTerm_cons_of_not_same hsame, Term.overriddenBy_of_not_same hsame,
          ih hrest ⟨other, hmem, hterm⟩]

/-- A term that is not there yet comes last. -/
theorem addTerm_of_new (h : ∀ other ∈ terms, ¬other.Same term) :
    addTerm term terms = terms ++ [term] := by
  induction terms with
  | nil => rfl
  | cons first terms ih =>
      obtain ⟨hfirst, hrest⟩ := List.forall_mem_cons.1 h
      rw [addTerm_cons_of_not_same hfirst, ih hrest, List.cons_append]

end

/-! ### All terms of a project -/

/-- The term has no forerunner: neither a base term has its name, but for the case, nor one of the
given terms whose name comes before it in the order of the bytes. -/
def IsNew (base terms : List Term) (term : Term) : Prop :=
  (∀ other ∈ base, ¬other.Same term) ∧
    ∀ other ∈ terms, Text.bytes other.name < Text.bytes term.name → ¬other.Same term

instance (base terms : List Term) : DecidablePred (IsNew base terms) := fun term =>
  inferInstanceAs (Decidable ((∀ other ∈ base, ¬other.Same term) ∧
    ∀ other ∈ terms, Text.bytes other.name < Text.bytes term.name → ¬other.Same term))

/-- Those of the given terms that have no forerunner. -/
def newTerms (base terms : List Term) : List Term := terms.filter (IsNew base terms)

theorem mem_newTerms_iff {base terms : List Term} {term : Term} :
    term ∈ newTerms base terms ↔ term ∈ terms ∧ IsNew base terms term := by
  rw [newTerms, List.mem_filter, decide_eq_true_eq]

/-- The term with the equivalents that the given terms give it one after another. -/
def overridden (terms : List Term) (term : Term) : Term :=
  terms.foldl (fun term other => other.overriddenBy term) term

theorem overridden_append_singleton (terms : List Term) (last term : Term) :
    overridden (terms ++ [last]) term = last.overriddenBy (overridden terms term) := by
  rw [overridden, List.foldl_append, List.foldl_cons, List.foldl_nil, overridden]

@[simp] theorem name_overridden (terms : List Term) (term : Term) :
    (overridden terms term).name = term.name := by
  induction terms generalizing term with
  | nil => rfl
  | cons other terms ih =>
      rw [overridden, List.foldl_cons, ← overridden, ih, Term.name_overriddenBy]

/-- A term keeps its name, and so do the terms that are the same. -/
theorem same_overridden_left {terms : List Term} {first second : Term} :
    (overridden terms first).Same second ↔ first.Same second := by
  rw [Term.same_iff, name_overridden, Term.same_iff]

theorem same_overridden_right {terms : List Term} {first second : Term} :
    first.Same (overridden terms second) ↔ first.Same second := by
  rw [Term.same_iff, name_overridden, Term.same_iff]

theorem Distinct.map_overridden {base : List Term} (h : Distinct base) (terms : List Term) :
    Distinct (base.map (overridden terms)) := by
  rw [Distinct, List.pairwise_map]
  exact h.imp fun hne hsame => hne (same_overridden_left.1 (same_overridden_right.1 hsame))

theorem overridden_of_forall_not_same {terms : List Term} {term : Term}
    (h : ∀ other ∈ terms, ¬term.Same other) : overridden terms term = term := by
  induction terms with
  | nil => rfl
  | cons other terms ih =>
      obtain ⟨hother, hrest⟩ := List.forall_mem_cons.1 h
      rw [overridden, List.foldl_cons, Term.overriddenBy_of_not_same hother, ← overridden, ih hrest]

section
variable {base terms : List Term} {last term : Term}

theorem bytes_lt_of_ordered_append (h : Extension.Ordered ⟨terms ++ [last]⟩) :
    ∀ other ∈ terms, Text.bytes other.name < Text.bytes last.name := fun other hother =>
  Text.compare_eq_lt_iff.1
    ((List.pairwise_append.1 h).2.2 other hother last (List.mem_singleton.2 rfl))

/-- Of the terms that have a common name, but for the case, the first one has no forerunner, or a
base term is one for all of them. -/
theorem exists_same_of_mem (h : Extension.Ordered ⟨terms⟩) (hterm : term ∈ terms) :
    ∃ other ∈ base ++ newTerms base terms, other.Same term := by
  by_cases hbase : ∃ other ∈ base, other.Same term
  · obtain ⟨other, hother, hsame⟩ := hbase
    exact ⟨other, List.mem_append_left _ hother, hsame⟩
  · obtain ⟨first, hfirst⟩ : ∃ first, terms.find? (fun other => other.Same term) = some first :=
      Option.isSome_iff_exists.1 (List.find?_isSome.2
        ⟨term, hterm, decide_eq_true (Term.Same.refl term)⟩)
    obtain ⟨hsame, before, after, hterms, hbefore⟩ := List.find?_eq_some_iff_append.1 hfirst
    replace hsame : first.Same term := of_decide_eq_true hsame
    have hmem : first ∈ terms := List.mem_of_find?_eq_some hfirst
    refine ⟨first, List.mem_append_right _ (mem_newTerms_iff.2 ⟨hmem, ?_, ?_⟩), hsame⟩
    · exact fun other hother hother' => hbase ⟨other, hother, hother'.trans hsame⟩
    · intro other hother hlt hother'
      rw [hterms] at hother
      -- a term that comes before the first one in the order stands before it
      rcases List.mem_append.1 hother with hearly | hlate
      · have hnone := hbefore other hearly
        simp only [Bool.not_eq_true', decide_eq_false_iff_not] at hnone
        exact hnone (hother'.trans hsame)
      · rcases List.mem_cons.1 hlate with rfl | hlate
        · exact List.lt_irrefl _ hlt
        · have hordered : (before ++ first :: after).Pairwise _ := hterms ▸ h
          have hgt := (List.pairwise_cons.1 (List.pairwise_append.1 hordered).2.1).1 other hlate
          exact List.lt_asymm hlt (Text.compare_eq_lt_iff.1 hgt)

/-- The base terms and those without forerunner are distinct. -/
theorem distinct_append_newTerms (hbase : Distinct base) (h : Extension.Ordered ⟨terms⟩) :
    Distinct (base ++ newTerms base terms) := by
  refine List.pairwise_append.2 ⟨hbase, ?_, fun first hfirst second hsecond =>
    (mem_newTerms_iff.1 hsecond).2.1 first hfirst⟩
  refine (List.Pairwise.filter _ h).imp_of_mem fun {first second} hfirst hsecond hlt => ?_
  exact (mem_newTerms_iff.1 hsecond).2.2 first (mem_newTerms_iff.1 hfirst).1
    (Text.compare_eq_lt_iff.1 hlt)

/-- One more term, which comes after the others, is new unless its name is there already. -/
theorem newTerms_append_singleton (h : Extension.Ordered ⟨terms ++ [last]⟩) :
    newTerms base (terms ++ [last]) = newTerms base terms ++
      if ∃ other ∈ base ++ newTerms base terms, other.Same last then [] else [last] := by
  have hlast := bytes_lt_of_ordered_append h
  have hearly : ∀ other ∈ terms,
      decide (IsNew base (terms ++ [last]) other) = decide (IsNew base terms other) := by
    intro other hother
    refine decide_eq_decide.2 (and_congr_right fun _ => ?_)
    rw [List.forall_mem_append, List.forall_mem_singleton, and_iff_left_iff_imp]
    exact fun _ hlt => absurd hlt (List.lt_asymm (hlast other hother))
  have hnew : IsNew base (terms ++ [last]) last ↔
      ¬∃ other ∈ base ++ newTerms base terms, other.Same last := by
    constructor
    · rintro ⟨hbase, hterms⟩ ⟨other, hother, hsame⟩
      rcases List.mem_append.1 hother with hmem | hmem
      · exact hbase other hmem hsame
      · have hterm := (mem_newTerms_iff.1 hmem).1
        exact hterms other (List.mem_append_left _ hterm) (hlast other hterm) hsame
    · intro hnone
      refine ⟨fun other hother hsame => hnone ⟨other, List.mem_append_left _ hother, hsame⟩,
        fun other hother hlt hsame => ?_⟩
      rcases List.mem_append.1 hother with hmem | hmem
      · have hshown : ∃ shown ∈ base ++ newTerms base terms, shown.Same other :=
          exists_same_of_mem (List.pairwise_append.1 h).1 hmem
        obtain ⟨shown, hmem', hshown⟩ := hshown
        exact hnone ⟨shown, hmem', hshown.trans hsame⟩
      · exact List.lt_irrefl _ (List.mem_singleton.1 hmem ▸ hlt)
  rw [newTerms, List.filter_append, List.filter_congr hearly, ← newTerms]
  by_cases hsame : ∃ other ∈ base ++ newTerms base terms, other.Same last
  · rw [if_pos hsame, List.filter_singleton, decide_eq_false (fun hn => hnew.1 hn hsame)]
    rfl
  · rw [if_neg hsame, List.filter_singleton, decide_eq_true (hnew.2 hsame)]
    rfl

/-- **What all terms of a project do to a list of distinct terms.** -/
theorem foldl_addTerm_eq (hbase : Distinct base) (h : Extension.Ordered ⟨terms⟩) :
    terms.foldl (fun terms term => addTerm term terms) base =
      (base ++ newTerms base terms).map (overridden terms) := by
  induction terms using List.reverseRecOn with
  | nil =>
      have hid : overridden [] = id := rfl
      simp [newTerms, hid]
  | append_singleton terms last ih =>
      have hterms : Extension.Ordered ⟨terms⟩ := (List.pairwise_append.1 h).1
      have hdistinct := (distinct_append_newTerms hbase hterms).map_overridden terms
      have hthere : (∃ other ∈ (base ++ newTerms base terms).map (overridden terms),
            other.Same last) ↔ ∃ other ∈ base ++ newTerms base terms, other.Same last := by
        simp only [List.mem_map, exists_exists_and_eq_and, same_overridden_left]
      rw [List.foldl_append, List.foldl_cons, List.foldl_nil, ih hterms,
        newTerms_append_singleton h]
      by_cases hsame : ∃ other ∈ base ++ newTerms base terms, other.Same last
      · rw [addTerm_of_same hdistinct (hthere.2 hsame), if_pos hsame, List.append_nil, List.map_map]
        exact List.map_congr_left fun term _ => (overridden_append_singleton terms last term).symm
      · have hnew : ∀ other ∈ (base ++ newTerms base terms).map (overridden terms),
            ¬other.Same last := fun other hother hlast => hsame (hthere.1 ⟨other, hother, hlast⟩)
        have hkept : ∀ term ∈ base ++ newTerms base terms,
            overridden terms term = overridden (terms ++ [last]) term := by
          intro term hterm
          rw [overridden_append_singleton, Term.overriddenBy_of_not_same]
          exact hnew _ (List.mem_map_of_mem hterm)
        have hlast : overridden (terms ++ [last]) last = last := by
          rw [overridden_append_singleton, Term.overriddenBy,
            if_pos (same_overridden_left.2 (Term.Same.refl last)), name_overridden]
        calc addTerm last ((base ++ newTerms base terms).map (overridden terms))
            = (base ++ newTerms base terms).map (overridden terms) ++ [last] := addTerm_of_new hnew
          _ = (base ++ newTerms base terms).map (overridden (terms ++ [last])) ++
                [last].map (overridden (terms ++ [last])) := by
              rw [List.map_congr_left hkept, List.map_singleton, hlast]
          _ = _ := by rw [if_neg hsame, ← List.map_append, List.append_assoc]

/-- A term has the equivalents of the last of the given terms that has its name. -/
theorem exists_last_of_same (h : Extension.Ordered ⟨terms⟩)
    (hsame : ∃ other ∈ terms, other.Same term) :
    ∃ last ∈ terms, last.Same term ∧
      (∀ other ∈ terms, other.Same term → ¬Text.bytes last.name < Text.bytes other.name) ∧
      (overridden terms term).equivalents = last.equivalents := by
  induction terms using List.reverseRecOn with
  | nil => simp at hsame
  | append_singleton terms final ih =>
      rw [overridden_append_singleton]
      by_cases hfinal : final.Same term
      · refine ⟨final, List.mem_append_right _ (List.mem_singleton.2 rfl), hfinal, ?_, ?_⟩
        · intro other hother _ hlt
          rcases List.mem_append.1 hother with hmem | hmem
          · exact List.lt_asymm hlt (bytes_lt_of_ordered_append h other hmem)
          · exact List.lt_irrefl _ (List.mem_singleton.1 hmem ▸ hlt)
        · rw [Term.overriddenBy, if_pos (same_overridden_left.2 hfinal.symm)]
      · have hearly : ∃ other ∈ terms, other.Same term := by
          obtain ⟨other, hother, hother'⟩ := hsame
          refine ⟨other, (List.mem_append.1 hother).resolve_right fun hmem => ?_, hother'⟩
          exact hfinal (List.mem_singleton.1 hmem ▸ hother')
        obtain ⟨last, hlast, hlast', hgreatest, hequivalents⟩ :=
          ih (List.pairwise_append.1 h).1 hearly
        refine ⟨last, List.mem_append_left _ hlast, hlast', fun other hother hother' => ?_, ?_⟩
        · refine hgreatest other ((List.mem_append.1 hother).resolve_right fun hmem => ?_) hother'
          exact hfinal (List.mem_singleton.1 hmem ▸ hother')
        · rw [Term.overriddenBy_of_not_same fun hsame' =>
            hfinal (same_overridden_left.1 hsame').symm, hequivalents]

end

/-! ### The built-in glossary with the terms of a project -/

/-- A glossary is the built-in one with the terms of a project. -/
structure Extends (extension : Extension) (glossary : Glossary) : Prop where
  /-- The built-in terms come first, in their order and with their names. -/
  builtinFirst : builtin.terms.map Term.name <+: glossary.terms.map Term.name
  /-- The others follow in the order of the bytes of their names. -/
  increasing : ((glossary.terms.map Term.name).drop builtin.terms.length).Pairwise
    fun first second => Text.bytes first < Text.bytes second
  /-- They are the terms of the project whose name is, but for the case, neither that of a built-in
  term nor that of a term of the project that comes before them. -/
  added : ∀ name, name ∈ (glossary.terms.map Term.name).drop builtin.terms.length ↔
    ∃ term ∈ extension.terms, term.name = name ∧ (∀ other ∈ builtin.terms, ¬other.Same term) ∧
      ∀ other ∈ extension.terms, Text.bytes other.name < Text.bytes term.name → ¬other.Same term
  /-- No two terms have the same name, but for the case. -/
  distinct : glossary.terms.Pairwise fun first second => ¬first.Same second
  /-- A term that has the name of terms of the project, but for the case, has the equivalents of the
  last one of them in the order of the bytes. -/
  given : ∀ term ∈ glossary.terms, (∃ other ∈ extension.terms, other.Same term) →
    ∃ last ∈ extension.terms, last.Same term ∧
      (∀ other ∈ extension.terms, other.Same term →
        ¬Text.bytes last.name < Text.bytes other.name) ∧
      term.equivalents = last.equivalents
  /-- Every other term is a built-in one as it is. -/
  kept : ∀ (index : Nat) (term : Term), glossary.terms[index]? = some term →
    (∀ other ∈ extension.terms, ¬other.Same term) → builtin.terms[index]? = some term

/-- No two built-in terms have the same name, but for the case. -/
theorem distinct_builtin : Distinct builtin.terms := by
  have hnames : (builtin.terms.map fun term => term.name.map Char.toLower).Nodup := by
    decide +kernel
  exact (List.pairwise_map.1 hnames).imp fun hne hsame => hne (Term.same_iff.1 hsame)

/-- **The built-in glossary with the terms of a project.** -/
theorem extends_extend {extension : Extension} (h : extension.Ordered) :
    Extends extension (builtin.extend extension) := by
  have hterms : (builtin.extend extension).terms =
      (builtin.terms ++ newTerms builtin.terms extension.terms).map (overridden extension.terms) :=
    foldl_addTerm_eq distinct_builtin h
  have hnames : (builtin.extend extension).terms.map Term.name =
      builtin.terms.map Term.name ++ (newTerms builtin.terms extension.terms).map Term.name := by
    rw [hterms, List.map_map, ← List.map_append]
    exact List.map_congr_left fun term _ => name_overridden _ term
  have hdrop : ((builtin.extend extension).terms.map Term.name).drop builtin.terms.length =
      (newTerms builtin.terms extension.terms).map Term.name := by
    rw [hnames, List.drop_left' (List.length_map _)]
  refine ⟨⟨_, hnames.symm⟩, ?increasing, fun name => ?added, ?distinct,
    fun term hterm hsame => ?given, fun index term hterm hother => ?kept⟩
  case increasing =>
    rw [hdrop, List.pairwise_map]
    exact (List.Pairwise.filter _ h).imp Text.compare_eq_lt_iff.1
  case added =>
    rw [hdrop, List.mem_map]
    constructor
    · rintro ⟨term, hterm, hname⟩
      obtain ⟨hmem, hnew⟩ := mem_newTerms_iff.1 hterm
      exact ⟨term, hmem, hname, hnew⟩
    · rintro ⟨term, hmem, hname, hnew⟩
      exact ⟨term, mem_newTerms_iff.2 ⟨hmem, hnew⟩, hname⟩
  case distinct =>
    rw [hterms]
    exact (distinct_append_newTerms distinct_builtin h).map_overridden _
  case given =>
    rw [hterms] at hterm
    obtain ⟨original, -, rfl⟩ := List.mem_map.1 hterm
    simp only [same_overridden_right] at hsame ⊢
    exact exists_last_of_same h hsame
  case kept =>
    rw [hterms, List.getElem?_map, Option.map_eq_some_iff] at hterm
    obtain ⟨original, horiginal, rfl⟩ := hterm
    have hnone : ∀ other ∈ extension.terms, ¬original.Same other := fun other hmem hsame =>
      hother other hmem (same_overridden_left.2 hsame).symm
    rw [overridden_of_forall_not_same hnone]
    rcases Nat.lt_or_ge index builtin.terms.length with hlt | hge
    · rwa [List.getElem?_append_left hlt] at horiginal
    · -- a term that was added has its own name
      rw [List.getElem?_append_right hge] at horiginal
      have hmem := (mem_newTerms_iff.1 (List.mem_of_getElem? horiginal)).1
      exact absurd (Term.Same.refl original) (hnone original hmem)

/-- A project that gives a built-in term twice, and a term of its own in three cases. -/
def caseVariants : Extension where
  terms :=
    [⟨"BUG", ["anomalie"]⟩, ⟨"Bug", ["erreur"]⟩, ⟨"WIDGET", ["gadget"]⟩, ⟨"Widget", ["objet"]⟩,
     ⟨"widget", ["composant"]⟩]

/-- The last of the variants counts, and the first one gives its name to the new term. -/
theorem extends_caseVariants :
    caseVariants.Ordered ∧ Extends caseVariants (builtin.extend caseVariants) ∧
      (builtin.extend caseVariants).terms[7]? = some ⟨"bug", ["erreur"]⟩ ∧
      (builtin.extend caseVariants).terms.drop builtin.terms.length =
        [⟨"WIDGET", ["composant"]⟩] := by
  have hordered : caseVariants.Ordered := by decide
  exact ⟨hordered, extends_extend hordered, by decide +kernel, by decide +kernel⟩

end CatalogLint.Glossary
