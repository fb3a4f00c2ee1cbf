/-
**Checkers are isolated from each other.**

The checkers of a suite run one after the other on one catalog, and the check of grammar may fail.
Still the catalog ends up with what each of them finds on its plain entries, put together
afterwards, and each of them finds what it would find alone, on a catalog without any findings.

Main definitions:

* `CatalogLint.Catalog.stripped` — a catalog without its findings;
* `CatalogLint.Checker.alone` — the run of one checker on such a catalog;
* `CatalogLint.Suite.Isolated` — a run of a suite is put together from what its checkers find.

Main results:

* `CatalogLint.Checker.findingsAt_alone`, `CatalogLint.Checker.failures_alone` — a run of one
  checker gives what the checker has to say, or its failure;
* `CatalogLint.Checker.checker_of_mem_share` — findings carry the name of their checker;
* `CatalogLint.Suite.catalog_run_without_failing` — a checker that fails could as well be left out;
* `CatalogLint.Suite.isolated_standard` — **the usual suites put together what their checkers
  find**, with an engine or without one.
-/

import CatalogLint.Proofs.Suite.Run

set_option autoImplicit false

namespace CatalogLint

variable {σ : Type}

/-! ### One checker alone -/

/-- The catalog without any findings. -/
def Catalog.stripped (catalog : Catalog) : Catalog :=
  { catalog with entries := catalog.entries.map fun tracked => { tracked with findings := [] } }

@[simp] theorem Catalog.plainEntries_stripped (catalog : Catalog) :
    catalog.stripped.plainEntries = catalog.plainEntries := by
  simp [plainEntries, stripped]

@[simp] theorem Catalog.findingsAt_stripped (catalog : Catalog) (index : Nat) :
    catalog.stripped.findingsAt index = [] := by
  rw [findingsAt, stripped, List.getElem?_map, Option.map_map]
  cases catalog.entries[index]? <;> rfl

namespace Checker

variable (checker : Checker σ) (catalog : Catalog) (session : Engine.Session σ)

/-- The run of the checker alone, on the catalog without any findings. -/
def alone : SuiteRun σ :=
  Suite.run ⟨[checker]⟩ catalog.stripped
    { state := session.state, installations := fun _ => session.installation }

/-- The run of one checker is that of a suite with no other one. -/
theorem describes_alone :
    Suite.Describes [checker] 0 catalog.stripped
      { state := session.state, installations := fun _ => session.installation }
      (checker.alone catalog session) :=
  Suite.describes_runAll (Suite.singleEngine_singleton checker) 0 catalog.stripped _

theorem findingsAt_alone (index : Nat) :
    (checker.alone catalog session).catalog.findingsAt index =
      checker.share catalog.plainEntries session index := by
  rw [(checker.describes_alone catalog session).findings, Catalog.findingsAt_stripped,
    Catalog.plainEntries_stripped, List.zipIdx_singleton, List.flatMap_singleton, List.nil_append]
  rfl

theorem failures_alone :
    (checker.alone catalog session).failures =
      (checker.failure? catalog.plainEntries session).toList := by
  rw [(checker.describes_alone catalog session).failures, Catalog.plainEntries_stripped,
    List.zipIdx_singleton, List.filterMap_eq_flatMap_toList, List.flatMap_singleton]
  rfl

/-! ### Names -/

variable {checker session}

/-- Findings that are listed entry by entry carry a name if those of each entry do. -/
theorem checker_of_mem_map {entries : List Entry} {found : Entry → List Finding} {name : Text}
    (h : ∀ entry, ∀ finding ∈ found entry, finding.checker = name) {list : List Finding}
    (hlist : list ∈ entries.map found) : ∀ finding ∈ list, finding.checker = name := by
  obtain ⟨entry, -, rfl⟩ := List.mem_map.1 hlist
  exact h entry

/-- Findings carry the name of their checker. -/
theorem checker_of_mem_findings {entries : List Entry} {findings : List (List Finding)}
    (h : (checker.findings entries session).1 = .ok findings) :
    ∀ list ∈ findings, ∀ finding ∈ list, finding.checker = checker.name := by
  intro list hlist
  cases checker with
  | doubleSpace =>
      cases h
      refine checker_of_mem_map (fun entry => ?_) hlist
      exact List.forall_mem_map.2 fun run _ => rfl
  | untranslated =>
      cases h
      refine checker_of_mem_map (fun entry => ?_) hlist
      rw [Untranslated.findings]
      split
      · exact List.forall_mem_singleton.2 rfl
      · exact List.forall_mem_nil _
  | fuzzy =>
      cases h
      refine checker_of_mem_map (fun entry => ?_) hlist
      rw [Fuzzy.findings]
      split
      · exact List.forall_mem_singleton.2 rfl
      · exact List.forall_mem_nil _
  | grammar engine glossary dictionary =>
      obtain ⟨remarks, rfl⟩ := Grammar.exists_eq_warningsOn h
      obtain ⟨⟨target, index⟩, -, rfl⟩ := List.mem_map.1 hlist
      exact List.forall_mem_map.2 fun remark _ => rfl
  | glossaryUse glossary =>
      cases h
      refine checker_of_mem_map (fun entry => ?_) hlist
      simp only [GlossaryUse.findings]
      split
      · exact List.forall_mem_nil _
      · exact List.forall_mem_map.2 fun term _ => rfl
  | lineLength limit =>
      cases h
      refine checker_of_mem_map (fun entry => ?_) hlist
      exact List.forall_mem_map.2 fun segment _ => rfl
  | spacing =>
      cases h
      refine checker_of_mem_map (fun entry => ?_) hlist
      exact List.forall_mem_map.2 fun message _ => rfl

theorem checker_of_mem_share {entries : List Entry} {index : Nat} {finding : Finding}
    (h : finding ∈ checker.share entries session index) : finding.checker = checker.name := by
  cases hanswer : (checker.findings entries session).1 with
  | error error => simp [share, hanswer] at h
  | ok findings =>
      cases hlist : findings[index]? with
      | none => simp [share, hanswer, hlist] at h
      | some list =>
          simp only [share, hanswer, hlist, Option.getD_some] at h
          exact checker_of_mem_findings hanswer list (List.mem_of_getElem? hlist) finding h

theorem checker_of_mem_failure? {entries : List Entry} {failure : Failure}
    (h : checker.failure? entries session = some failure) : failure.checker = checker.name := by
  cases hanswer : (checker.findings entries session).1 with
  | ok findings => simp [failure?, hanswer] at h
  | error error =>
      simp only [failure?, hanswer, Option.some.injEq] at h
      rw [← h]

end Checker

/-! ### Suites -/

namespace Suite

/-- One checker at most of a usual suite works with an engine. -/
theorem singleEngine_standard (maxLineLength : Nat) (glossary : Glossary)
    (grammar : Option (Engine σ × Dictionary)) :
    SingleEngine (standard maxLineLength glossary grammar).checkers := by
  cases grammar <;> simp [SingleEngine, standard, Checker.usesEngine]

/-- The shares of checkers that do not work with an engine are the same at any positions. -/
theorem flatMap_share_zipIdx {checkers : List (Checker σ)}
    (h : ∀ checker ∈ checkers, checker.usesEngine = false) (entries : List Entry)
    (session : Session σ) (position index : Nat) :
    ((checkers.zipIdx position).flatMap fun (checker, place) =>
        checker.share entries (session.of place) index) =
      checkers.flatMap fun checker => checker.share entries (session.of 0) index := by
  have hshares : ((checkers.zipIdx position).flatMap fun (checker, place) =>
      checker.share entries (session.of place) index) =
      (checkers.zipIdx position).flatMap fun placed =>
        placed.1.share entries (session.of 0) index :=
    List.flatMap_congr fun (checker, place) hmem => by
      have hplain := h checker (List.fst_mem_of_mem_zipIdx hmem)
      have hsame : (checker.findings entries (session.of place)).1 =
          (checker.findings entries (session.of 0)).1 :=
        Checker.fst_findings_of_not_usesEngine hplain _
      simp only [Checker.share, hsame]
  rw [hshares]
  conv_rhs => rw [← List.zipIdx_map_fst position checkers, List.flatMap_map]

/-- **A checker that fails could as well be left out**: the others find the same without it. -/
theorem catalog_run_without_failing {before after : List (Checker σ)} {checker : Checker σ}
    (hsingle : SingleEngine (before ++ checker :: after)) (catalog : Catalog)
    (session : Session σ)
    (h : checker.failure? catalog.plainEntries (session.of before.length) ≠ none) :
    (run ⟨before ++ after⟩ catalog session).catalog =
      (run ⟨before ++ checker :: after⟩ catalog session).catalog := by
  have hsub : (before ++ after).Sublist (before ++ checker :: after) :=
    (List.sublist_cons_self checker after).append_left before
  have hwhole := describes_runAll hsingle 0 catalog session
  have hothers := describes_runAll (List.Pairwise.sublist hsub hsingle) 0 catalog session
  -- the later checkers move up by one position, but they do not work with an engine
  have hafter : ∀ other ∈ after, other.usesEngine = false := by
    have htail := (List.pairwise_append.1 hsingle).2.1
    exact fun other hother =>
      (List.pairwise_cons.1 htail).1 other hother (Checker.usesEngine_of_failure?_ne_none h)
  -- the two runs may leave different sessions behind, but no finding tells them apart
  refine (hwhole.sameFile.symm.trans hothers.sameFile).eq_of_findingsAt fun index => ?_
  rw [hwhole.findings, hothers.findings, List.zipIdx_append, List.zipIdx_append, List.zipIdx_cons,
    List.flatMap_append, List.flatMap_append, List.flatMap_cons, flatMap_share_zipIdx hafter,
    flatMap_share_zipIdx hafter, Nat.zero_add]
  simp only [Checker.share_of_failure?_ne_none h, List.nil_append]

/-- What it means that a run of a suite is put together from what its checkers find.  Each of them
looks at the plain entries, in the session as it is before the run. -/
structure Isolated (suite : Suite σ) (catalog : Catalog) (session : Session σ) : Prop where
  /-- The path, the entries and their scopes stay as they are. -/
  sameFile : Catalog.SameFile catalog (suite.run catalog session).catalog
  /-- The findings of an entry are those it had, and then what each checker finds on it. -/
  findings : ∀ index, (suite.run catalog session).catalog.findingsAt index =
    catalog.findingsAt index ++ suite.checkers.zipIdx.flatMap fun (checker, place) =>
      checker.share catalog.plainEntries (session.of place) index
  /-- The failures are those of the checkers that fail, in the same order. -/
  failures : (suite.run catalog session).failures =
    suite.checkers.zipIdx.filterMap fun (checker, place) =>
      checker.failure? catalog.plainEntries (session.of place)
  /-- What a checker finds carries its name, and so does its failure. -/
  named : ∀ (checker : Checker σ) (place : Nat), suite.checkers[place]? = some checker →
    (∀ index, ∀ finding ∈ checker.share catalog.plainEntries (session.of place) index,
      finding.checker = checker.name) ∧
    ∀ failure ∈ checker.failure? catalog.plainEntries (session.of place),
      failure.checker = checker.name
  /-- A checker that runs alone, on the catalog without any findings, finds the same or fails
  alike. -/
  alone : ∀ (checker : Checker σ) (place : Nat), suite.checkers[place]? = some checker →
    (∀ index, (checker.alone catalog (session.of place)).catalog.findingsAt index =
      checker.share catalog.plainEntries (session.of place) index) ∧
    (checker.alone catalog (session.of place)).failures =
      (checker.failure? catalog.plainEntries (session.of place)).toList
  /-- A checker that fails makes no difference to the findings of the others. -/
  failing : ∀ before checker after, suite.checkers = before ++ checker :: after →
    checker.failure? catalog.plainEntries (session.of before.length) ≠ none →
    (Suite.run ⟨before ++ after⟩ catalog session).catalog = (suite.run catalog session).catalog

/-- **The usual suites put together what their checkers find**, whatever findings the catalog has
and whatever the engine answers, if there is one. -/
theorem isolated_standard (maxLineLength : Nat) (glossary : Glossary)
    (grammar : Option (Engine σ × Dictionary)) (catalog : Catalog) (session : Session σ) :
    Isolated (standard maxLineLength glossary grammar) catalog session := by
  have hsingle := singleEngine_standard maxLineLength glossary grammar
  have hrun := describes_runAll hsingle 0 catalog session
  refine ⟨hrun.sameFile, hrun.findings, hrun.failures, ?named, ?alone, ?failing⟩
  case named =>
    intro checker place _
    exact ⟨fun index finding => Checker.checker_of_mem_share,
      fun failure => Checker.checker_of_mem_failure?⟩
  case alone =>
    intro checker place _
    exact ⟨checker.findingsAt_alone catalog (session.of place),
      checker.failures_alone catalog (session.of place)⟩
  case failing =>
    intro before checker after hsplit hfailure
    rw [hsplit] at hsingle
    rw [catalog_run_without_failing hsingle catalog session hfailure, ← hsplit]

end Suite

end CatalogLint
