/-
**Which files are no catalogs, and which line is reported.**

A file is rejected for its first malformed line after its first reference comment.  The header is
never looked at, and nothing else can go wrong once the content of a file is known.

Main definitions:

* `CatalogLint.Catalog.IsRejected`, `CatalogLint.Catalog.IsFirstRejected` — a malformed line after
  the header, and the first one.

Main results:

* `CatalogLint.Catalog.isRejected_iff` — the malformed lines after the header, found where the
  blocks are read;
* `CatalogLint.Catalog.firstFaultOf_eq_some_iff` — the line that is reported is the first of them;
* `CatalogLint.Catalog.parse_error_iff_rejected` — **a file is rejected exactly when there is such a
  line**, and then for the first one.
-/

import CatalogLint.Proofs.Catalog.Blocks

set_option autoImplicit false

namespace CatalogLint.Catalog

/-- The line with this number makes the file no catalog: some line before it opens an entry, and it
is malformed. -/
def IsRejected (lines : List Text) (line : Text) (number : Nat) : Prop :=
  (line, number) ∈ numbered lines ∧ (∃ first ∈ referenceNumbers lines, first < number) ∧
    isMalformed (Text.trimEnd line) = true

/-- The line with this number is the first one that makes the file no catalog. -/
def IsFirstRejected (lines : List Text) (line : Text) (number : Nat) : Prop :=
  IsRejected lines line number ∧ ∀ other m, IsRejected lines other m → number ≤ m

variable {lines : List Text} {line : Text} {number : Nat}

/-! ### Malformed lines after the header -/

/-- A line that opens an entry is not malformed. -/
theorem opensEntry_of_isMalformed (h : isMalformed (Text.trimEnd line) = true) :
    opensEntry line = false := by
  rw [← Bool.not_eq_true]
  intro hopens
  obtain ⟨place, hplace⟩ := opensEntry_iff.1 hopens
  have hfault := fault?_ofText line
  rw [hplace, if_pos h] at hfault
  cases hfault

/-- **The lines that make a file no catalog are the malformed ones from the first reference comment
on.** -/
theorem isRejected_iff :
    IsRejected lines line number ↔
      (line, number) ∈ (entryLines lines).zipIdx (1 + (headerLines lines).length) ∧
        isMalformed (Text.trimEnd line) = true := by
  constructor
  · rintro ⟨hmem, ⟨first, hfirst, hlt⟩, hmalformed⟩
    refine ⟨?_, hmalformed⟩
    rw [numbered_eq] at hmem
    rcases List.mem_append.1 hmem with hheader | hentry
    · have := lt_of_mem_referenceNumbers hfirst
      have := List.snd_lt_of_mem_zipIdx hheader
      omega
    · exact hentry
  · rintro ⟨hentry, hmalformed⟩
    have hnumbered : ∀ pair, pair ∈ (entryLines lines).zipIdx (1 + (headerLines lines).length) →
        pair ∈ numbered lines := by
      intro pair hpair
      rw [numbered_eq]
      exact List.mem_append_right _ hpair
    cases hlines : entryLines lines with
    | nil => simp [hlines] at hentry
    | cons opener rest =>
        have hopener : opensEntry opener = true := opensEntry_of_entryLines hlines
        rw [hlines, List.zipIdx_cons] at hentry hnumbered
        refine ⟨hnumbered _ hentry, ⟨1 + (headerLines lines).length,
          mem_referenceNumbers.2 ⟨opener, hnumbered _ List.mem_cons_self, hopener⟩, ?_⟩, hmalformed⟩
        rcases List.mem_cons.1 hentry with heq | hlater
        · -- the line is not the one that opens the first entry
          cases heq
          rw [opensEntry_of_isMalformed hmalformed] at hopener
          cases hopener
        · exact List.le_snd_of_mem_zipIdx hlater

theorem mem_zipIdx_map_ofText {reading : Line} {n : Nat} :
    (reading, number) ∈ (lines.map Line.ofText).zipIdx n ↔
      ∃ line, (line, number) ∈ lines.zipIdx n ∧ Line.ofText line = reading := by
  simp [List.zipIdx_map]

/-- **The line that is reported is the first malformed one after the header.** -/
theorem firstFaultOf_eq_some_iff {content : Text} {fault : Fault} :
    firstFaultOf content = some (number, fault) ↔
      ∃ line, IsFirstRejected (contentLines content) line number ∧
        faultOf (Text.trimEnd line) = fault := by
  rw [firstFaultOf, firstFault_eq_some_iff]
  constructor
  · rintro ⟨⟨reading, hmem, hfault⟩, hleast⟩
    obtain ⟨line, hline, rfl⟩ := mem_zipIdx_map_ofText.1 hmem
    obtain ⟨hmalformed, hreason⟩ := fault?_ofText_eq_some_iff.1 hfault
    refine ⟨line, ⟨isRejected_iff.2 ⟨hline, hmalformed⟩, fun earlier m hearlier => ?_⟩, hreason⟩
    obtain ⟨hmem, hmalformed⟩ := isRejected_iff.1 hearlier
    by_contra hlt
    have hnone := hleast _ m (mem_zipIdx_map_ofText.2 ⟨earlier, hmem, rfl⟩) (by omega)
    rw [fault?_ofText_eq_none_iff, hmalformed] at hnone
    cases hnone
  · rintro ⟨line, ⟨hrejected, hleast⟩, hreason⟩
    obtain ⟨hmem, hmalformed⟩ := isRejected_iff.1 hrejected
    refine ⟨⟨_, mem_zipIdx_map_ofText.2 ⟨line, hmem, rfl⟩,
      fault?_ofText_eq_some_iff.2 ⟨hmalformed, hreason⟩⟩, fun reading m hearlier hlt => ?_⟩
    obtain ⟨earlier, hmem, rfl⟩ := mem_zipIdx_map_ofText.1 hearlier
    rw [fault?_ofText_eq_none_iff, ← Bool.not_eq_true]
    intro hmalformed
    have := hleast earlier m (isRejected_iff.2 ⟨hmem, hmalformed⟩)
    omega

/-- There is a line to report as soon as there is one that makes the file no catalog. -/
theorem firstFaultOf_eq_none_iff {content : Text} :
    firstFaultOf content = none ↔
      ∀ line number, ¬IsRejected (contentLines content) line number := by
  rw [firstFaultOf, firstFault_eq_none_iff]
  constructor
  · intro hnone line number hrejected
    obtain ⟨hmem, hmalformed⟩ := isRejected_iff.1 hrejected
    have hline := hnone _ (List.mem_map_of_mem (List.fst_mem_of_mem_zipIdx hmem))
    rw [fault?_ofText_eq_none_iff, hmalformed] at hline
    cases hline
  · intro hnone reading hreading
    obtain ⟨line, hline, rfl⟩ := List.mem_map.1 hreading
    rw [fault?_ofText_eq_none_iff, ← Bool.not_eq_true]
    intro hmalformed
    obtain ⟨i, hi⟩ := List.getElem?_of_mem hline
    exact hnone line (1 + (headerLines (contentLines content)).length + i)
      (isRejected_iff.2 ⟨List.mk_add_mem_zipIdx_iff_getElem?.2 hi, hmalformed⟩)

/-! ### The result of reading a file -/

/-- **A file is rejected exactly when a line after its header is malformed.**  The error then names
the file and the first such line; it is about the keyword if the string on that line is well quoted,
and about the quotes otherwise. -/
theorem parse_error_iff_rejected (path : Path) (content : Text) :
    ((∃ error, parse path content = .error error) ↔
      ∃ line number, IsRejected (contentLines content) line number) ∧
    (∀ error, parse path content = .error error ↔
      ∃ line number, IsFirstRejected (contentLines content) line number ∧
        error = .malformed path number (faultOf (Text.trimEnd line))) ∧
    ∀ line, (faultOf line).reason =
      if isQuoted (stringOf line) then "unknown keyword \x60" ++ keywordOf line ++ "\x60"
      else "expected a quoted string in \x60" ++ line ++ "\x60" := by
  refine ⟨?_, fun error => ?_, fun line => ?_⟩
  · cases hfault : firstFaultOf content with
    | none => simp [parse_of_no_fault path hfault, firstFaultOf_eq_none_iff.1 hfault]
    | some found =>
        obtain ⟨line, hfirst, -⟩ := firstFaultOf_eq_some_iff.1 hfault
        exact ⟨fun _ => ⟨line, _, hfirst.1⟩, fun _ => ⟨_, parse_of_fault path hfault⟩⟩
  · constructor
    · intro h
      cases hfault : firstFaultOf content with
      | none =>
          rw [parse_of_no_fault path hfault] at h
          cases h
      | some found =>
          obtain ⟨line, hfirst, hreason⟩ := firstFaultOf_eq_some_iff.1 hfault
          rw [parse_of_fault path hfault] at h
          cases h
          exact ⟨line, _, hfirst, by rw [hreason]⟩
    · rintro ⟨line, number, hfirst, rfl⟩
      exact parse_of_fault path (firstFaultOf_eq_some_iff.2 ⟨line, hfirst, rfl⟩)
  · unfold faultOf
    split_ifs <;> rfl

end CatalogLint.Catalog
