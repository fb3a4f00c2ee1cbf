/-
**What a run of a suite does to a catalog.**

A checker is handed the entries as their file has them, and what it finds is put after the findings
that are there.  So a run is described by saying, for each checker and each entry, what the checker
has to say about the entry; the order of the checkers only decides the order of their findings.  The
one thing that checkers share is the state of the engines, and a suite has one checker at most that
works with an engine.

Main definitions:

* `CatalogLint.Catalog.findingsAt`, `CatalogLint.Catalog.SameFile` — the findings of an entry, and
  catalogs that differ in findings only;
* `CatalogLint.Checker.share`, `CatalogLint.Checker.failure?` — what a checker has to say about an
  entry, and its failure;
* `CatalogLint.Suite.SingleEngine` — one checker at most works with an engine.

Main results:

* `CatalogLint.Checker.Grammar.assign_cases` — the check of grammar refuses an answer with a remark
  on no entry, wherever the remark stands;
* `CatalogLint.Checker.length_findings` — a checker that does not fail answers for every entry;
* `CatalogLint.Suite.runAll_cons` — **what one checker does**: its share is added to the findings of
  each entry, or it fails and nothing is added;
* `CatalogLint.Suite.describes_runAll` — **what a whole run does**.
-/

import CatalogLint.Suite
import Mathlib.Data.List.Basic

set_option autoImplicit false

namespace CatalogLint

/-! ### Catalogs and their findings -/

namespace Catalog

/-- The findings of the entry with the given index; there are none if there is no such entry. -/
def findingsAt (catalog : Catalog) (index : Nat) : List Finding :=
  (catalog.entries[index]?.map TrackedEntry.findings).getD []

/-- The other catalog has the path, the entries and the scopes of this one. -/
structure SameFile (catalog other : Catalog) : Prop where
  path : other.path = catalog.path
  entries : other.plainEntries = catalog.plainEntries
  scopes : other.entries.map TrackedEntry.inScope = catalog.entries.map TrackedEntry.inScope

variable {catalog other : Catalog}

theorem SameFile.refl (catalog : Catalog) : SameFile catalog catalog := ⟨rfl, rfl, rfl⟩

theorem SameFile.trans {next : Catalog} (h : SameFile catalog other) (h' : SameFile other next) :
    SameFile catalog next :=
  ⟨h'.path.trans h.path, h'.entries.trans h.entries, h'.scopes.trans h.scopes⟩

theorem SameFile.symm (h : SameFile catalog other) : SameFile other catalog :=
  ⟨h.path.symm, h.entries.symm, h.scopes.symm⟩

theorem length_plainEntries (catalog : Catalog) :
    catalog.plainEntries.length = catalog.entries.length := List.length_map _

theorem SameFile.length_eq (h : SameFile catalog other) :
    other.entries.length = catalog.entries.length := by
  rw [← length_plainEntries, h.entries, length_plainEntries]

/-- Catalogs differ in findings only if their entries do, one by one. -/
theorem SameFile.of_getElem? (hpath : other.path = catalog.path)
    (h : ∀ index : Nat,
      other.entries[index]?.map (fun tracked => (tracked.entry, tracked.inScope)) =
        catalog.entries[index]?.map fun tracked => (tracked.entry, tracked.inScope)) :
    SameFile catalog other := by
  have hpairs : other.entries.map (fun tracked => (tracked.entry, tracked.inScope)) =
      catalog.entries.map fun tracked => (tracked.entry, tracked.inScope) := by
    refine List.ext_getElem? fun index => ?_
    rw [List.getElem?_map, List.getElem?_map, h]
  have hentries := congrArg (List.map Prod.fst) hpairs
  have hscopes := congrArg (List.map Prod.snd) hpairs
  rw [List.map_map, List.map_map] at hentries hscopes
  exact ⟨hpath, hentries, hscopes⟩

/-- A catalog is known by its file and the findings of its entries. -/
theorem SameFile.eq_of_findingsAt (h : SameFile catalog other)
    (hfindings : ∀ index, other.findingsAt index = catalog.findingsAt index) :
    other = catalog := by
  obtain ⟨path, entries⟩ := catalog
  obtain ⟨path', entries'⟩ := other
  obtain rfl : path' = path := h.path
  congr 1
  refine List.ext_getElem h.length_eq fun i hi' hi => ?_
  have hentry := congrArg (·[i]?) h.entries
  have hscope := congrArg (·[i]?) h.scopes
  have hfinding := hfindings i
  simp only [plainEntries, List.getElem?_map, List.getElem?_eq_getElem hi',
    List.getElem?_eq_getElem hi, Option.map_some, Option.some.injEq] at hentry hscope
  simp only [findingsAt, List.getElem?_eq_getElem hi', List.getElem?_eq_getElem hi,
    Option.map_some, Option.getD_some] at hfinding
  generalize entries'[i] = tracked' at *
  generalize entries[i] = tracked at *
  cases tracked'
  cases tracked
  simp_all

section
variable {findings : List (List Finding)} (h : findings.length = catalog.entries.length)
include h

/-- Findings that are added change nothing else. -/
theorem sameFile_add : SameFile catalog (catalog.add findings) := by
  refine SameFile.of_getElem? rfl fun index => ?_
  rw [add, List.getElem?_zipWith]
  rcases Nat.lt_or_ge index catalog.entries.length with hlt | hge
  · rw [List.getElem?_eq_getElem hlt, List.getElem?_eq_getElem (h ▸ hlt)]
    rfl
  · rw [List.getElem?_eq_none hge, List.getElem?_eq_none (h ▸ hge)]

/-- They come after those that the entries have. -/
theorem findingsAt_add (index : Nat) :
    (catalog.add findings).findingsAt index =
      catalog.findingsAt index ++ findings[index]?.getD [] := by
  rw [findingsAt, add, List.getElem?_zipWith, findingsAt]
  rcases Nat.lt_or_ge index catalog.entries.length with hlt | hge
  · rw [List.getElem?_eq_getElem hlt, List.getElem?_eq_getElem (h ▸ hlt)]
    rfl
  · rw [List.getElem?_eq_none hge, List.getElem?_eq_none (h ▸ hge)]
    rfl

end

end Catalog

/-! ### Checkers -/

namespace Checker.Grammar

/-- The warnings are assigned if every remark belongs to a text, wherever it stands among the
others. -/
theorem assign_cases (targets : List Text) (remarks : List Engine.Remark) :
    (∃ remark ∈ remarks, targets.length ≤ remark.paragraph / 2 ∧
      assign targets remarks = .error (.unexpected (.stray remark.paragraph targets.length))) ∨
    ((∀ remark ∈ remarks, remark.paragraph / 2 < targets.length) ∧
      assign targets remarks =
        .ok (targets.zipIdx.map fun (target, index) => warningsOn remarks target index)) := by
  unfold assign
  cases hstray : remarks.find? fun remark => targets.length ≤ entryIndex remark.paragraph with
  | some remark =>
      have hbeyond := List.find?_some hstray
      rw [decide_eq_true_eq] at hbeyond
      exact .inl ⟨remark, List.mem_of_find?_eq_some hstray, hbeyond, rfl⟩
  | none =>
      refine .inr ⟨fun remark hremark => ?_, rfl⟩
      have howned := List.find?_eq_none.1 hstray remark hremark
      rw [decide_eq_true_eq] at howned
      exact Nat.lt_of_not_le howned

/-- What the check of grammar finds are the warnings on some remarks, text by text. -/
theorem exists_eq_warningsOn {σ : Type} {engine : Engine σ} {glossary : Glossary}
    {dictionary : Dictionary} {entries : List Entry} {session : Engine.Session σ}
    {found : List (List Finding)}
    (h : (findings engine glossary dictionary entries session).1 = .ok found) :
    ∃ remarks, found = (entries.map Entry.normalizedTarget).zipIdx.map fun (target, index) =>
      warningsOn remarks target index := by
  simp only [findings] at h
  split at h
  · next hempty =>
    cases h
    rw [List.isEmpty_iff.1 hempty]
    exact ⟨[], rfl⟩
  · split at h
    · cases h
    · next remarks _ _ =>
      obtain ⟨_, _, _, hassign⟩ | ⟨_, hassign⟩ := assign_cases (entries.map Entry.normalizedTarget)
        (remarks.filter fun remark => !isIgnored glossary dictionary remark)
      · cases hassign.symm.trans h
      · cases hassign.symm.trans h
        exact ⟨_, rfl⟩

end Checker.Grammar

namespace Checker

variable {σ : Type} (checker : Checker σ) (entries : List Entry) (session : Engine.Session σ)

/-- Whether the checker works with an engine. -/
def usesEngine : Checker σ → Bool
  | grammar _ _ _ => true
  | _ => false

/-- What the checker has to say about the entry with the given index, which is nothing if it
fails. -/
def share (index : Nat) : List Finding :=
  match (checker.findings entries session).1 with
  | .ok findings => findings[index]?.getD []
  | .error _ => []

/-- The failure of the checker, if it fails. -/
def failure? : Option Failure :=
  match (checker.findings entries session).1 with
  | .ok _ => none
  | .error error => some ⟨checker.name, error⟩

variable {checker entries session}

/-- A checker that does not fail answers for every entry. -/
theorem length_findings {findings : List (List Finding)}
    (h : (checker.findings entries session).1 = .ok findings) :
    findings.length = entries.length := by
  cases checker with
  | grammar engine glossary dictionary =>
      obtain ⟨remarks, rfl⟩ := Grammar.exists_eq_warningsOn h
      rw [List.length_map, List.length_zipIdx, List.length_map]
  | _ =>
      cases h
      exact List.length_map _

/-- A checker that does not work with an engine leaves the session alone. -/
theorem snd_findings_of_not_usesEngine (h : checker.usesEngine = false) :
    (checker.findings entries session).2 = session := by
  cases checker with
  | grammar => cases h
  | _ => rfl

/-- It finds the same in any session. -/
theorem fst_findings_of_not_usesEngine (h : checker.usesEngine = false)
    (other : Engine.Session σ) :
    (checker.findings entries other).1 = (checker.findings entries session).1 := by
  cases checker with
  | grammar => cases h
  | _ => rfl

/-- A checker finds the same after another one, unless both work with an engine. -/
theorem fst_findings_after {first : Checker σ}
    (h : first.usesEngine = true → checker.usesEngine = false) (session : Suite.Session σ)
    (position other : Nat) :
    (checker.findings entries ((session.update position
        (first.findings entries (session.of position)).2).of other)).1 =
      (checker.findings entries (session.of other)).1 := by
  cases hfirst : first.usesEngine with
  | false => rw [snd_findings_of_not_usesEngine hfirst, Suite.Session.update_of]
  | true => exact fst_findings_of_not_usesEngine (h hfirst) _

/-- Only a checker that works with an engine fails. -/
theorem usesEngine_of_failure?_ne_none (h : checker.failure? entries session ≠ none) :
    checker.usesEngine = true := by
  cases checker with
  | grammar => rfl
  | _ => exact absurd rfl h

/-- A checker that fails has nothing to say about any entry. -/
theorem share_of_failure?_ne_none (h : checker.failure? entries session ≠ none) (index : Nat) :
    checker.share entries session index = [] := by
  cases hanswer : (checker.findings entries session).1 with
  | ok findings => simp [failure?, hanswer] at h
  | error error => rw [share, hanswer]

end Checker

/-! ### Runs -/

namespace Suite

variable {σ : Type}

/-- One checker at most works with an engine. -/
def SingleEngine (checkers : List (Checker σ)) : Prop :=
  checkers.Pairwise fun first second => first.usesEngine = true → second.usesEngine = false

/-- What the result of a run has to do with the shares of the checkers; `position` is that of the
first one. -/
structure Describes (checkers : List (Checker σ)) (position : Nat) (catalog : Catalog)
    (session : Session σ) (run : SuiteRun σ) : Prop where
  /-- Nothing but findings is added. -/
  sameFile : Catalog.SameFile catalog run.catalog
  /-- The findings of an entry are those it had and the shares of the checkers, in order. -/
  findings : ∀ index, run.catalog.findingsAt index = catalog.findingsAt index ++
    (checkers.zipIdx position).flatMap fun (checker, place) =>
      checker.share catalog.plainEntries (session.of place) index
  /-- The failures are those of the checkers, in order. -/
  failures : run.failures = (checkers.zipIdx position).filterMap fun (checker, place) =>
    checker.failure? catalog.plainEntries (session.of place)

/-- **What one checker does**: its share is added to the findings of each entry, or it fails and
nothing is added.  The other checkers go on from there. -/
theorem runAll_cons (checker : Checker σ) (checkers : List (Checker σ)) (position : Nat)
    (catalog : Catalog) (session : Session σ) :
    ∃ next : Catalog, Catalog.SameFile catalog next ∧
      (∀ index, next.findingsAt index = catalog.findingsAt index ++
        checker.share catalog.plainEntries (session.of position) index) ∧
      let after := session.update position
        (checker.findings catalog.plainEntries (session.of position)).2
      (runAll (checker :: checkers) position catalog session).catalog =
        (runAll checkers (position + 1) next after).catalog ∧
      (runAll (checker :: checkers) position catalog session).failures =
        (checker.failure? catalog.plainEntries (session.of position)).toList ++
          (runAll checkers (position + 1) next after).failures := by
  rw [runAll]
  unfold Checker.share Checker.failure?
  rcases hanswer : checker.findings catalog.plainEntries (session.of position) with
    ⟨error | findings, own⟩
  · exact ⟨catalog, .refl catalog, fun index => (List.append_nil _).symm, rfl, rfl⟩
  · have hlength : findings.length = catalog.entries.length := by
      rw [← Catalog.length_plainEntries]
      exact Checker.length_findings (congrArg Prod.fst hanswer)
    exact ⟨catalog.add findings, Catalog.sameFile_add hlength, Catalog.findingsAt_add hlength,
      rfl, rfl⟩

/-- Whatever the checkers share, a run adds nothing but findings. -/
theorem sameFile_runAll (checkers : List (Checker σ)) (position : Nat) (catalog : Catalog)
    (session : Session σ) :
    Catalog.SameFile catalog (runAll checkers position catalog session).catalog := by
  induction checkers generalizing position catalog session with
  | nil => exact .refl catalog
  | cons checker checkers ih =>
      obtain ⟨next, hsame, _, hcatalog, _⟩ := runAll_cons checker checkers position catalog session
      rw [hcatalog]
      exact hsame.trans (ih _ next _)

/-- **What a whole run does**, if one checker at most works with an engine. -/
theorem describes_runAll {checkers : List (Checker σ)} (h : SingleEngine checkers)
    (position : Nat) (catalog : Catalog) (session : Session σ) :
    Describes checkers position catalog session (runAll checkers position catalog session) := by
  induction checkers generalizing position catalog session with
  | nil => exact ⟨.refl catalog, fun index => (List.append_nil _).symm, rfl⟩
  | cons checker checkers ih =>
      obtain ⟨hfirst, hrest⟩ := List.pairwise_cons.1 h
      obtain ⟨next, hsame, hfindings, hcatalog, hfailures⟩ :=
        runAll_cons checker checkers position catalog session
      -- the rest of the run starts from another catalog, and in another session
      let after := session.update position
        (checker.findings catalog.plainEntries (session.of position)).2
      have hrun := ih hrest (position + 1) next after
      -- the later checkers find what they would find in the session as it was
      have hlater : ∀ other ∈ checkers.zipIdx (position + 1),
          (other.1.findings catalog.plainEntries (after.of other.2)).1 =
            (other.1.findings catalog.plainEntries (session.of other.2)).1 := by
        intro other hother
        have hengine := hfirst other.1 (List.fst_mem_of_mem_zipIdx hother)
        exact Checker.fst_findings_after hengine session position other.2
      refine ⟨?sameFile, fun index => ?findings, ?failures⟩
      case sameFile =>
        rw [hcatalog]
        exact hsame.trans hrun.sameFile
      case findings =>
        have hshares : ((checkers.zipIdx (position + 1)).flatMap fun (other, place) =>
            other.share catalog.plainEntries (after.of place) index) =
            (checkers.zipIdx (position + 1)).flatMap fun (other, place) =>
              other.share catalog.plainEntries (session.of place) index :=
          List.flatMap_congr fun (other, place) hother => by
            simp only [Checker.share, hlater (other, place) hother]
        rw [hcatalog, hrun.findings, hfindings, hsame.entries, hshares, List.zipIdx_cons,
          List.flatMap_cons, List.append_assoc]
      case failures =>
        have hfails : ((checkers.zipIdx (position + 1)).filterMap fun (other, place) =>
            other.failure? catalog.plainEntries (after.of place)) =
            (checkers.zipIdx (position + 1)).filterMap fun (other, place) =>
              other.failure? catalog.plainEntries (session.of place) :=
          List.filterMap_congr fun (other, place) hother => by
            simp only [Checker.failure?, hlater (other, place) hother]
        rw [hfailures, hrun.failures, hsame.entries, hfails, List.zipIdx_cons,
          List.filterMap_cons]
        cases hfailure : checker.failure? catalog.plainEntries (session.of position) <;>
          simp [hfailure]

theorem singleEngine_singleton (checker : Checker σ) : SingleEngine [checker] :=
  List.pairwise_singleton _ _

section
variable {checker : Checker σ} {catalog : Catalog} {session : Session σ}

/-- A checker that fails leaves the catalog as it is. -/
theorem run_singleton_of_error {error : Engine.Error}
    (h : (checker.findings catalog.plainEntries (session.of 0)).1 = .error error) :
    (run ⟨[checker]⟩ catalog session).catalog = catalog ∧
      (run ⟨[checker]⟩ catalog session).failures = [⟨checker.name, error⟩] := by
  have hanswer : checker.findings catalog.plainEntries (session.of 0) =
      (.error error, (checker.findings catalog.plainEntries (session.of 0)).2) := Prod.ext h rfl
  rw [run, runAll, hanswer]
  exact ⟨rfl, rfl⟩

/-- A checker that does not fail adds what it finds. -/
theorem run_singleton_of_ok {findings : List (List Finding)}
    (h : (checker.findings catalog.plainEntries (session.of 0)).1 = .ok findings) :
    (run ⟨[checker]⟩ catalog session).catalog = catalog.add findings ∧
      (run ⟨[checker]⟩ catalog session).failures = [] := by
  have hanswer : checker.findings catalog.plainEntries (session.of 0) =
      (.ok findings, (checker.findings catalog.plainEntries (session.of 0)).2) := Prod.ext h rfl
  rw [run, runAll, hanswer]
  exact ⟨rfl, rfl⟩

end

end Suite

end CatalogLint
