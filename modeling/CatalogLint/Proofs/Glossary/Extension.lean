/-
**The terms of a project are kept in order.**

A project gives its terms as a map, which is kept as a list in the order of the names.  A new term
goes to its place, or takes the place of the term of its name, so that the list stays in order.
Terms that are in order already are kept as they are.

Main definition:

* `CatalogLint.Glossary.Extension.Ordered` — the terms are in order, each name once.

Main results:

* `CatalogLint.Glossary.Extension.ofList_terms` — terms in order are kept as they are;
* `CatalogLint.Glossary.Extension.ordered_ofList` — **terms that are put together are in order**.
-/

import CatalogLint.Glossary
import CatalogLint.Proofs.Selection.Order

set_option autoImplicit false

namespace CatalogLint.Glossary.Extension

open Std (TransCmp OrientedCmp)

/-- The terms are in the order of their names, each name once. -/
def Ordered (extension : Extension) : Prop :=
  extension.terms.Pairwise fun a b => Text.compare a.name b.name = .lt

instance : DecidablePred Ordered := fun extension =>
  inferInstanceAs (Decidable (extension.terms.Pairwise _))

/-- A term whose name comes after all the others goes to the end. -/
theorem insertTerm_append {term : Term} {terms : List Term}
    (h : ∀ other ∈ terms, Text.compare other.name term.name = .lt) :
    insertTerm term terms = terms ++ [term] := by
  induction terms with
  | nil => rfl
  | cons other terms ih =>
    obtain ⟨hother, hterms⟩ := List.forall_mem_cons.1 h
    rw [insertTerm, OrientedCmp.gt_of_lt hother]
    exact congrArg (other :: ·) (ih hterms)

/-- Terms in order are kept as they are. -/
theorem ofList_terms {extension : Extension} (h : extension.Ordered) :
    ofList extension.terms = extension := by
  obtain ⟨terms⟩ := extension
  -- every term comes after those that are kept already
  have hfold : ∀ before after : List Term,
      (before ++ after).Pairwise (fun a b => Text.compare a.name b.name = .lt) →
        after.foldl insert ⟨before⟩ = ⟨before ++ after⟩ := by
    intro before after
    induction after generalizing before with
    | nil => exact fun _ => by rw [List.append_nil, List.foldl_nil]
    | cons term after ih =>
      intro h
      have hbefore := fun other hother =>
        (List.pairwise_append.1 h).2.2 other hother term List.mem_cons_self
      rw [List.append_cons] at h ⊢
      rw [List.foldl_cons, insert, insertTerm_append hbefore, ih _ h]
  exact hfold [] terms h

theorem mem_of_mem_insertTerm {term other : Term} {terms : List Term}
    (h : other ∈ insertTerm term terms) : other = term ∨ other ∈ terms := by
  induction terms with
  | nil => exact .inl (List.mem_singleton.1 h)
  | cons first terms ih =>
    rw [insertTerm] at h
    split at h
    · exact List.mem_cons.1 h
    · exact (List.mem_cons.1 h).imp_right (List.mem_cons_of_mem _)
    · rcases List.mem_cons.1 h with rfl | hrest
      · exact .inr List.mem_cons_self
      · exact (ih hrest).imp_right (List.mem_cons_of_mem _)

theorem Ordered.insert {extension : Extension} (h : extension.Ordered) (term : Term) :
    (extension.insert term).Ordered := by
  obtain ⟨terms⟩ := extension
  show (insertTerm term terms).Pairwise _
  replace h : terms.Pairwise _ := h
  induction terms with
  | nil => exact List.pairwise_singleton _ _
  | cons first terms ih =>
    obtain ⟨hfirst, hterms⟩ := List.pairwise_cons.1 h
    rw [insertTerm]
    split
    · next hlt =>
      refine List.pairwise_cons.2 ⟨fun other hother => ?_, h⟩
      rcases List.mem_cons.1 hother with rfl | hrest
      · exact hlt
      · exact TransCmp.lt_trans hlt (hfirst other hrest)
    · next heq =>
      rw [Text.compare_eq_eq_iff] at heq
      exact List.pairwise_cons.2 ⟨fun other hother => heq ▸ hfirst other hother, hterms⟩
    · next hgt =>
      refine List.pairwise_cons.2 ⟨fun other hother => ?_, ih hterms⟩
      rcases mem_of_mem_insertTerm hother with rfl | hrest
      · exact OrientedCmp.lt_of_gt hgt
      · exact hfirst other hrest

/-- **Terms that are put together are in order.** -/
theorem ordered_ofList (terms : List Term) : (ofList terms).Ordered := by
  have hfold (extension : Extension) (h : extension.Ordered) :
      (terms.foldl insert extension).Ordered := by
    induction terms generalizing extension with
    | nil => exact h
    | cons term terms ih => exact ih _ (h.insert term)
  exact hfold {} List.Pairwise.nil

end CatalogLint.Glossary.Extension
