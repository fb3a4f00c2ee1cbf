/-
**What the check of grammar makes of an answer.**

An engine answers for a whole catalog at once, with remarks in an order of its own.  The check takes
the answer as a whole: either each remark that is not left out becomes one warning on the one entry
that it belongs to, or the catalog stays as it is.

Main definitions:

* `CatalogLint.Checker.Grammar.kept`, `CatalogLint.Checker.Grammar.remarksOn` — the remarks that are
  not left out, and those on one entry, as they are reported;
* `CatalogLint.Catalog.attach` — a catalog with the warning that a single remark becomes;
* `CatalogLint.Checker.Grammar.Attributed` — every remark has become a warning on its entry;
* `CatalogLint.Checker.Grammar.Step` — what may come of an answer.

Main results:

* `CatalogLint.Checker.Grammar.flatMap_remarksOn_perm` — **no remark is lost, and none belongs to
  two entries**;
* `CatalogLint.Catalog.findingsAt_foldl_attach` — attaching remarks one by one gives each entry the
  remarks on it;
* `CatalogLint.Checker.Grammar.step_run` — **the check attributes all remarks or changes nothing**.
-/

import CatalogLint.Proofs.Suite.Run
import Mathlib.Data.List.Perm.Basic

set_option autoImplicit false

namespace CatalogLint

open Engine (Remark)

/-! ### Remarks and entries -/

namespace Checker.Grammar

/-- The remarks that are not left out. -/
def kept (glossary : Glossary) (dictionary : Dictionary) (remarks : List Remark) : List Remark :=
  remarks.filter fun remark => !isIgnored glossary dictionary remark

/-- The remarks on the entry with the given index: those on grammar as the engine has them, and then
those on spelling. -/
def remarksOn (remarks : List Remark) (index : Nat) : List Remark :=
  (remarks.filter fun remark => !remark.subject.isSpelling && remark.paragraph / 2 == index) ++
    remarks.filter fun remark => remark.subject.isSpelling && remark.paragraph / 2 == index

/-- The remarks in the order of the report, restricted to an entry, are those on the entry in that
order. -/
theorem filter_ordered (remarks : List Remark) (index : Nat) :
    ((ordered remarks).filter fun remark => entryIndex remark.paragraph == index) =
      remarksOn remarks index := by
  rw [ordered, List.filter_append, List.filter_filter, List.filter_filter, remarksOn]
  simp only [entryIndex, Bool.and_comm]

theorem warningsOn_eq (remarks : List Remark) (target : Text) (index : Nat) :
    warningsOn remarks target index = (remarksOn remarks index).map (warning target) := by
  rw [warningsOn, filter_ordered]

/-- The order of the report is an order of the same remarks. -/
theorem ordered_perm (remarks : List Remark) : (ordered remarks).Perm remarks := by
  have h := List.filter_append_perm (fun remark : Remark => !remark.subject.isSpelling) remarks
  rw [ordered]
  simpa only [Bool.not_not] using h

theorem mem_remarksOn_iff {remarks : List Remark} {index : Nat} {remark : Remark} :
    remark ∈ remarksOn remarks index ↔ remark ∈ remarks ∧ remark.paragraph / 2 = index := by
  rw [← filter_ordered, List.mem_filter, (ordered_perm remarks).mem_iff, beq_iff_eq]
  rfl

/-- The remarks on the first entries, entry by entry, are the remarks with a small index. -/
theorem flatMap_range_filter_perm (remarks : List Remark) (n : Nat) :
    ((List.range n).flatMap fun index =>
      remarks.filter fun remark => remark.paragraph / 2 == index).Perm
      (remarks.filter fun remark => decide (remark.paragraph / 2 < n)) := by
  induction n with
  | zero => simp
  | succ n ih =>
      -- the remarks with an index up to `n` are those below it and those on it
      have hsplit := List.filter_append_perm
        (fun remark : Remark => decide (remark.paragraph / 2 < n))
        (remarks.filter fun remark => decide (remark.paragraph / 2 < n + 1))
      rw [List.filter_filter, List.filter_filter] at hsplit
      have hbelow : (remarks.filter fun remark => decide (remark.paragraph / 2 < n) &&
          decide (remark.paragraph / 2 < n + 1)) =
          remarks.filter fun remark => decide (remark.paragraph / 2 < n) :=
        List.filter_congr fun remark _ => by
          rw [Bool.eq_iff_iff, Bool.and_eq_true, decide_eq_true_eq, decide_eq_true_eq]
          omega
      have hlast : (remarks.filter fun remark => !decide (remark.paragraph / 2 < n) &&
          decide (remark.paragraph / 2 < n + 1)) =
          remarks.filter fun remark => remark.paragraph / 2 == n :=
        List.filter_congr fun remark _ => by
          rw [Bool.eq_iff_iff, Bool.and_eq_true, ← decide_not, decide_eq_true_eq,
            decide_eq_true_eq, beq_iff_eq]
          omega
      rw [hbelow, hlast] at hsplit
      rw [List.range_succ, List.flatMap_append, List.flatMap_singleton]
      exact (ih.append_right _).trans hsplit

/-- **No remark is lost, and none belongs to two entries**, if each has an entry at all. -/
theorem flatMap_remarksOn_perm {remarks : List Remark} {n : Nat}
    (h : ∀ remark ∈ remarks, remark.paragraph / 2 < n) :
    ((List.range n).flatMap (remarksOn remarks)).Perm remarks := by
  have hon : ∀ index ∈ List.range n, (remarksOn remarks index).Perm
      (remarks.filter fun remark => remark.paragraph / 2 == index) := by
    intro index _
    rw [← filter_ordered]
    exact (ordered_perm remarks).filter _
  have hall : (remarks.filter fun remark => decide (remark.paragraph / 2 < n)) = remarks :=
    List.filter_eq_self.2 fun remark hremark => decide_eq_true (h remark hremark)
  have hperm := (List.Perm.flatMap_left _ hon).trans (flatMap_range_filter_perm remarks n)
  rwa [hall] at hperm

end Checker.Grammar

/-! ### Remarks one by one -/

namespace Catalog

/-- The catalog with the warning that a remark becomes, on the entry that the remark belongs to. -/
def attach (catalog : Catalog) (remark : Remark) : Catalog :=
  { catalog with
    entries := catalog.entries.modify (remark.paragraph / 2) fun tracked =>
      tracked.add [Checker.Grammar.warning tracked.entry.normalizedTarget remark] }

theorem getElem?_entries_attach (catalog : Catalog) (remark : Remark) (index : Nat) :
    (catalog.attach remark).entries[index]? = catalog.entries[index]?.map fun tracked =>
      if remark.paragraph / 2 = index then
        tracked.add [Checker.Grammar.warning tracked.entry.normalizedTarget remark]
      else tracked := by
  rw [attach, List.getElem?_modify]
  rfl

/-- One remark changes the findings of one entry and nothing else. -/
theorem sameFile_attach (catalog : Catalog) (remark : Remark) :
    SameFile catalog (catalog.attach remark) := by
  refine SameFile.of_getElem? rfl fun index => ?_
  rw [getElem?_entries_attach, Option.map_map]
  congr 1
  funext tracked
  rw [Function.comp_apply]
  split <;> rfl

theorem sameFile_foldl_attach (remarks : List Remark) (catalog : Catalog) :
    SameFile catalog (remarks.foldl attach catalog) := by
  induction remarks generalizing catalog with
  | nil => exact .refl catalog
  | cons remark remarks ih => exact (sameFile_attach catalog remark).trans (ih _)

/-- **Attaching remarks one by one gives each entry the remarks on it**, in their order. -/
theorem findingsAt_foldl_attach (remarks : List Remark) {catalog : Catalog} {index : Nat}
    {tracked : TrackedEntry} (h : catalog.entries[index]? = some tracked) :
    (remarks.foldl attach catalog).findingsAt index = tracked.findings ++
      (remarks.filter fun remark => remark.paragraph / 2 == index).map
        (Checker.Grammar.warning tracked.entry.normalizedTarget) := by
  induction remarks generalizing catalog tracked with
  | nil => simp [findingsAt, h]
  | cons remark remarks ih =>
      have hnext := getElem?_entries_attach catalog remark index
      rw [h, Option.map_some] at hnext
      rw [List.foldl_cons]
      -- the entry is read off again after each remark, so its findings may have grown
      by_cases hindex : remark.paragraph / 2 = index
      · rw [if_pos hindex] at hnext
        rw [ih hnext]
        simp [TrackedEntry.add, hindex]
      · rw [if_neg hindex] at hnext
        rw [ih hnext]
        simp [hindex]

end Catalog

/-! ### The step of the check -/

namespace Checker.Grammar

/-- Every remark has become a warning on its entry. -/
structure Attributed (catalog : Catalog) (remarks : List Remark) (result : Catalog) : Prop where
  /-- Nothing but findings is added. -/
  sameFile : Catalog.SameFile catalog result
  /-- An entry gets one warning for each remark on it, after the findings that it has. -/
  findings : ∀ index tracked, catalog.entries[index]? = some tracked →
    result.findingsAt index = tracked.findings ++
      (remarksOn remarks index).map (warning tracked.entry.normalizedTarget)
  /-- The remarks on all entries together are the remarks, each once. -/
  whole : ((List.range catalog.entries.length).flatMap (remarksOn remarks)).Perm remarks
  /-- The result is the same as if the warnings were added one by one. -/
  oneByOne : result = (ordered remarks).foldl Catalog.attach catalog

/-- What may come of the answer of an engine: the resulting catalog, and the failures. -/
inductive Step (glossary : Glossary) (dictionary : Dictionary) (catalog : Catalog) :
    Except Engine.Error (List Remark) → Catalog → List Failure → Prop
  /-- An error is passed on. -/
  | refused (error : Engine.Error) :
      Step glossary dictionary catalog (.error error) catalog [⟨name, error⟩]
  /-- A remark that is not left out belongs to no entry. -/
  | stray {remarks : List Remark} {remark : Remark}
      (mem : remark ∈ kept glossary dictionary remarks)
      (beyond : catalog.entries.length ≤ remark.paragraph / 2) :
      Step glossary dictionary catalog (.ok remarks) catalog
        [⟨name, .unexpected (.stray remark.paragraph catalog.entries.length)⟩]
  /-- Every remark that is not left out belongs to an entry. -/
  | attributed {remarks : List Remark} {result : Catalog}
      (owned : ∀ remark ∈ kept glossary dictionary remarks,
        remark.paragraph / 2 < catalog.entries.length)
      (all : Attributed catalog (kept glossary dictionary remarks) result) :
      Step glossary dictionary catalog (.ok remarks) result []

/-- The assigned warnings are what the remarks become one by one. -/
theorem attributed_add {catalog : Catalog} {remarks : List Remark}
    (h : ∀ remark ∈ remarks, remark.paragraph / 2 < catalog.entries.length) :
    Attributed catalog remarks (catalog.add
      ((catalog.plainEntries.map Entry.normalizedTarget).zipIdx.map fun (target, index) =>
        warningsOn remarks target index)) := by
  let targets := catalog.plainEntries.map Entry.normalizedTarget
  let warnings := targets.zipIdx.map fun (target, index) => warningsOn remarks target index
  have hlength : warnings.length = catalog.entries.length := by
    simp [warnings, targets, Catalog.plainEntries]
  have hsame : Catalog.SameFile catalog (catalog.add warnings) := Catalog.sameFile_add hlength
  have hfindings : ∀ index tracked, catalog.entries[index]? = some tracked →
      (catalog.add warnings).findingsAt index = tracked.findings ++
        (remarksOn remarks index).map (warning tracked.entry.normalizedTarget) := by
    intro index tracked hindex
    have htarget : warnings[index]? =
        some (warningsOn remarks tracked.entry.normalizedTarget index) := by
      simp [warnings, targets, Catalog.plainEntries, hindex]
    rw [Catalog.findingsAt_add hlength, Catalog.findingsAt, hindex, htarget, warningsOn_eq]
    rfl
  have hloop := Catalog.sameFile_foldl_attach (ordered remarks) catalog
  refine ⟨hsame, hfindings, flatMap_remarksOn_perm h, ?_⟩
  refine (hloop.symm.trans hsame).eq_of_findingsAt fun index => ?_
  cases hindex : catalog.entries[index]? with
  | some tracked =>
      rw [hfindings index tracked hindex, Catalog.findingsAt_foldl_attach _ hindex]
      exact congrArg _ (congrArg _ (filter_ordered remarks index).symm)
  | none =>
      -- both catalogs have as many entries as the former one
      have hbeyond := List.getElem?_eq_none_iff.1 hindex
      rw [Catalog.findingsAt, Catalog.findingsAt,
        List.getElem?_eq_none (Nat.le_trans (Nat.le_of_eq hsame.length_eq) hbeyond),
        List.getElem?_eq_none (Nat.le_trans (Nat.le_of_eq hloop.length_eq) hbeyond)]

variable {σ : Type} (engine : Engine σ) (glossary : Glossary) (dictionary : Dictionary)

/-- What the check finds on some entries, of which there is one at least. -/
theorem fst_findings {entries : List Entry} (h : entries ≠ []) (session : Engine.Session σ) :
    ((Checker.grammar engine glossary dictionary).findings entries session).1 =
      match (session.analyze engine (request (entries.map Entry.normalizedTarget))).1 with
      | .error error => .error error
      | .ok remarks =>
        assign (entries.map Entry.normalizedTarget) (kept glossary dictionary remarks) := by
  have hempty : entries.isEmpty = false := by simpa using h
  simp only [Checker.findings, findings, hempty, Bool.false_eq_true, if_false]
  rcases session.analyze engine (request (entries.map Entry.normalizedTarget)) with
    ⟨error | remarks, after⟩
  · rfl
  · rfl

/-- The check does not fail if the engine answers, and every remark that is not left out belongs to
an entry. -/
theorem fst_findings_eq_ok_iff {entries : List Entry} (h : entries ≠ [])
    {session : Engine.Session σ} {found : List (List Finding)} :
    ((Checker.grammar engine glossary dictionary).findings entries session).1 = .ok found ↔
      ∃ remarks,
        (session.analyze engine (request (entries.map Entry.normalizedTarget))).1 = .ok remarks ∧
        (∀ remark ∈ kept glossary dictionary remarks, remark.paragraph / 2 < entries.length) ∧
        (entries.map Entry.normalizedTarget).zipIdx.map (fun (target, index) =>
          warningsOn (kept glossary dictionary remarks) target index) = found := by
  rw [fst_findings engine glossary dictionary h]
  cases (session.analyze engine (request (entries.map Entry.normalizedTarget))).1 with
  | error error => simp
  | ok remarks =>
      have hcases := assign_cases (entries.map Entry.normalizedTarget)
        (kept glossary dictionary remarks)
      rw [List.length_map] at hcases
      simp only [Except.ok.injEq, exists_eq_left']
      obtain ⟨stray, hstray, hbeyond, hassign⟩ | ⟨howned, hassign⟩ := hcases
      · rw [hassign]
        constructor
        · intro hfound
          cases hfound
        · rintro ⟨howned, -⟩
          exact absurd (howned stray hstray) (Nat.not_lt.2 hbeyond)
      · rw [hassign, Except.ok.injEq]
        exact ⟨fun hfound => ⟨howned, hfound⟩, And.right⟩

/-- **The check attributes all remarks or changes nothing.** -/
theorem step_run (catalog : Catalog) (session : Suite.Session σ) (h : catalog.entries ≠ []) :
    Step glossary dictionary catalog
      ((session.of 0).analyze engine
        (request (catalog.plainEntries.map Entry.normalizedTarget))).1
      (Suite.run ⟨[.grammar engine glossary dictionary]⟩ catalog session).catalog
      (Suite.run ⟨[.grammar engine glossary dictionary]⟩ catalog session).failures := by
  have hne : catalog.plainEntries ≠ [] := by simpa [Catalog.plainEntries] using h
  have hlength : (catalog.plainEntries.map Entry.normalizedTarget).length =
      catalog.entries.length := by rw [List.length_map, Catalog.length_plainEntries]
  have hfound := fst_findings engine glossary dictionary hne (session.of 0)
  -- the catalog is only touched once all remarks are known to belong to an entry
  rcases hanswer : ((session.of 0).analyze engine
    (request (catalog.plainEntries.map Entry.normalizedTarget))).1 with error | remarks
  · rw [hanswer] at hfound
    obtain ⟨hcatalog, hfailures⟩ := Suite.run_singleton_of_error hfound
    rw [hcatalog, hfailures]
    exact .refused error
  · rw [hanswer] at hfound
    obtain ⟨remark, hmem, hbeyond, hassign⟩ | ⟨howned, hassign⟩ :=
      assign_cases (catalog.plainEntries.map Entry.normalizedTarget)
        (kept glossary dictionary remarks)
    · rw [hlength] at hbeyond hassign
      obtain ⟨hcatalog, hfailures⟩ := Suite.run_singleton_of_error (hfound.trans hassign)
      rw [hcatalog, hfailures]
      exact .stray hmem hbeyond
    · rw [hlength] at howned
      obtain ⟨hcatalog, hfailures⟩ := Suite.run_singleton_of_ok (hfound.trans hassign)
      rw [hcatalog, hfailures]
      exact .attributed howned (attributed_add howned)

/-- Two entries, the first of which has a finding. -/
def twoEntries : Catalog where
  path := ⟨"a.po"⟩
  entries :=
    [{ entry := { reference := "a", firstLine := 1, lastLine := 3, target := ["un mot"] },
       findings := [⟨"Fuzzy", .error, "unsure"⟩] },
     { entry := { reference := "b", firstLine := 4, lastLine := 6, target := ["des mot"] } }]

/-- Remarks on both entries, in no order; the third one is left out, and its paragraph belongs to
no entry. -/
def mixedRemarks : List Remark :=
  [⟨2, 4, 7, .spelling "mot"⟩, ⟨0, 3, 6, .spelling "mot"⟩,
   ⟨9, 0, 1, .grammar "esp_milieu_ligne" ""⟩, ⟨2, 0, 3, .grammar "num" "Accord de nombre."⟩]

def mixedSession : Suite.Session Engine.Prepared where
  state := { answers := [.ok mixedRemarks], outcome := .ok () }

/-- The remarks that are not left out become warnings on their entries, and a finding from before
stays the first one. -/
theorem step_run_mixed :
    twoEntries.entries ≠ [] ∧
      Step ⟨[]⟩ {} twoEntries (.ok mixedRemarks)
        (Suite.run ⟨[.grammar Engine.prepared ⟨[]⟩ {}]⟩ twoEntries mixedSession).catalog
        (Suite.run ⟨[.grammar Engine.prepared ⟨[]⟩ {}]⟩ twoEntries mixedSession).failures ∧
      (Suite.run ⟨[.grammar Engine.prepared ⟨[]⟩ {}]⟩ twoEntries
          mixedSession).catalog.entries.map TrackedEntry.findings =
        [[⟨"Fuzzy", .error, "unsure"⟩, ⟨name, .warning, "Unknown word \"mot\" in ###un mot###"⟩],
         [⟨name, .warning, "Accord de nombre. => ###des mot###"⟩,
          ⟨name, .warning, "Unknown word \"mot\" in ###des mot###"⟩]] := by
  have hentries : twoEntries.entries ≠ [] := by simp [twoEntries]
  exact ⟨hentries, step_run Engine.prepared ⟨[]⟩ {} twoEntries mixedSession hentries, by rfl⟩

end Checker.Grammar

end CatalogLint
