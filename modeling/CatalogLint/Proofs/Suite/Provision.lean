/-
**How often a missing engine is installed.**

One check of grammar visits many catalogs in one session.  An engine may be missing at one visit and
not at the next, and each visit may be the first to find it missing; so what a visit does depends on
what the visits before it came to.  All that it depends on is what came of the attempt to install
the engine, if there was one, and this can be read off the calls so far.

Main definitions:

* `CatalogLint.Checker.Grammar.conclusion` — what the check makes of an answer;
* `CatalogLint.Checker.Grammar.Visit`, `CatalogLint.Checker.Grammar.visits` — a catalog with the
  calls that its check makes and what comes of it, and the visits of many catalogs;
* `CatalogLint.Checker.Grammar.Visited`, `CatalogLint.Checker.Grammar.History` — what one visit may
  do, and what visits in a row may do;
* `CatalogLint.Checker.Grammar.InstalledOnce` — what visits in a row do to have the engine
  installed.

Main results:

* `CatalogLint.Checker.Grammar.visited_run`, `CatalogLint.Checker.Grammar.history_visits` — one
  visit, and visits in a row, do what they may do, and what they do without the record;
* `CatalogLint.Checker.Grammar.History.outcomes_eq` — the session remembers the one attempt;
* `CatalogLint.Checker.Grammar.Visited.twice_iff`,
  `CatalogLint.Checker.Grammar.Visited.of_not_installed` — **what a visit does about a missing
  engine**, which depends on the attempt alone;
* `CatalogLint.Checker.Grammar.installedOnce_visits` — **an engine is installed at most once**, and
  what the visits do before and after that.
-/

import CatalogLint.Proofs.Engine.Exchange
import CatalogLint.Proofs.Suite.Remark

set_option autoImplicit false

namespace CatalogLint

namespace Suite

variable {σ : Type}

/-- Runs the suite on some catalogs, one after another in one session. -/
def runEach (suite : Suite σ) : List Catalog → Session σ → List (Catalog × List Failure)
  | [], _ => []
  | catalog :: catalogs, session =>
    let run := suite.run catalog session
    (run.catalog, run.failures) :: runEach suite catalogs run.session

namespace Session

def unrecorded (session : Session (Engine.Recorded σ)) : Session σ :=
  ⟨session.state.state, session.installations⟩

theorem of_unrecorded (session : Session (Engine.Recorded σ)) (position : Nat) :
    session.unrecorded.of position = (session.of position).unrecorded := rfl

theorem unrecorded_update (session : Session (Engine.Recorded σ)) (position : Nat)
    (own : Engine.Session (Engine.Recorded σ)) :
    (session.update position own).unrecorded =
      session.unrecorded.update position own.unrecorded := rfl

end Session

end Suite

namespace Checker.Grammar

open Engine (Attempt Call Exchange Recorded Remark)
open Suite (Session)

variable {σ : Type}

/-! ### One check -/

/-- What the engine is sent for a catalog. -/
def requestFor (catalog : Catalog) : Text :=
  request (catalog.plainEntries.map Entry.normalizedTarget)

/-- What the check makes of an answer: the catalog with the warnings, and the failures. -/
def conclusion (glossary : Glossary) (dictionary : Dictionary) (catalog : Catalog)
    (answer : Except Engine.Error (List Remark)) : Catalog × List Failure :=
  match answer.bind fun remarks =>
      assign (catalog.plainEntries.map Entry.normalizedTarget)
        (kept glossary dictionary remarks) with
  | .error error => (catalog, [⟨name, error⟩])
  | .ok findings => (catalog.add findings, [])

section
variable (engine : Engine σ) (glossary : Glossary) (dictionary : Dictionary) {catalog : Catalog}
  (session : Session σ)

/-- A catalog without entries is left as it is, and nothing is asked. -/
theorem run_of_empty (h : catalog.entries = []) :
    Suite.run ⟨[.grammar engine glossary dictionary]⟩ catalog session = ⟨catalog, [], session⟩ := by
  obtain ⟨path, entries⟩ := catalog
  cases h
  simp [Suite.run, Suite.runAll, Checker.findings, findings, Catalog.plainEntries, Catalog.add]

/-- On any other catalog the check makes one request and concludes from its answer. -/
theorem run_of_ne_nil (h : catalog.entries ≠ []) :
    Suite.run ⟨[.grammar engine glossary dictionary]⟩ catalog session =
      let asked := (session.of 0).analyze engine (requestFor catalog)
      let concluded := conclusion glossary dictionary catalog asked.1
      ⟨concluded.1, concluded.2, session.update 0 asked.2⟩ := by
  have hempty : catalog.plainEntries.isEmpty = false := by simpa [Catalog.plainEntries] using h
  simp only [Suite.run, Suite.runAll, Checker.findings, findings, hempty, Bool.false_eq_true,
    if_false, requestFor, conclusion, kept]
  rcases (session.of 0).analyze engine
    (request (catalog.plainEntries.map Entry.normalizedTarget)) with ⟨error | remarks, after⟩
  · rfl
  · simp only [Except.bind]
    cases assign (catalog.plainEntries.map Entry.normalizedTarget)
      (remarks.filter fun remark => !isIgnored glossary dictionary remark) <;> rfl

end

/-! ### Visits -/

/-- A catalog, the calls that its check makes, and what comes of it. -/
structure Visit where
  catalog : Catalog
  calls : List Call
  result : Catalog
  failures : List Failure

namespace Visit

variable (visit : Visit)

def texts : List Text := visit.calls.filterMap Call.text?

def answers : List (Except Engine.Error (List Remark)) := visit.calls.filterMap Call.answer?

/-- The first answer is that the engine is missing. -/
def FindsMissing (program reason : Text) : Prop :=
  visit.answers.head? = some (.error (.unavailable program reason))

end Visit

/-- What comes of the attempts to install the engine, of which there may be any number. -/
def outcomes (visits : List Visit) : List (Except Engine.Error PUnit) :=
  visits.flatMap fun visit => visit.calls.filterMap Call.outcome?

theorem outcomes_append (front back : List Visit) :
    outcomes (front ++ back) = outcomes front ++ outcomes back := List.flatMap_append

/-- The visits of some catalogs, one after another in one session with a recorded engine. -/
def visits (engine : Engine σ) (glossary : Glossary) (dictionary : Dictionary) :
    List Catalog → Session (Recorded σ) → List Visit
  | [], _ => []
  | catalog :: catalogs, session =>
    let run := Suite.run ⟨[.grammar engine.recorded glossary dictionary]⟩ catalog session
    { catalog
      calls := run.session.state.calls.drop session.state.calls.length
      result := run.catalog
      failures := run.failures } :: visits engine glossary dictionary catalogs run.session

/-- What one visit may do; before and after it the session knows what came of the attempt to install
the engine. -/
inductive Visited (glossary : Glossary) (dictionary : Dictionary) :
    Attempt → Visit → Attempt → Prop
  /-- There is nothing to ask about. -/
  | empty {attempt : Attempt} {catalog : Catalog} (h : catalog.entries = []) :
      Visited glossary dictionary attempt ⟨catalog, [], catalog, []⟩ attempt
  /-- There is one request, and the visit ends with its answer. -/
  | asked {before after : Attempt} {catalog : Catalog} {calls : List Call}
      {answer : Except Engine.Error (List Remark)} (h : catalog.entries ≠ [])
      (exchange : Exchange (requestFor catalog) before calls answer after) :
      Visited glossary dictionary before
        ⟨catalog, calls, (conclusion glossary dictionary catalog answer).1,
          (conclusion glossary dictionary catalog answer).2⟩ after

/-- What visits in a row may do. -/
inductive History (glossary : Glossary) (dictionary : Dictionary) :
    Attempt → List Visit → Attempt → Prop
  | nil (attempt : Attempt) : History glossary dictionary attempt [] attempt
  | cons {before between after : Attempt} {visit : Visit} {visits : List Visit}
      (first : Visited glossary dictionary before visit between)
      (rest : History glossary dictionary between visits after) :
      History glossary dictionary before (visit :: visits) after

section
variable (engine : Engine σ) (glossary : Glossary) (dictionary : Dictionary)

/-- One visit does what a visit may do, and what it does without the record. -/
theorem visited_run (catalog : Catalog) (session : Session (Recorded σ)) :
    ∃ calls result failures next,
      Suite.run ⟨[.grammar engine.recorded glossary dictionary]⟩ catalog session =
          ⟨result, failures, next⟩ ∧
        Suite.run ⟨[.grammar engine glossary dictionary]⟩ catalog session.unrecorded =
          ⟨result, failures, next.unrecorded⟩ ∧
        next.state.calls = session.state.calls ++ calls ∧
        Visited glossary dictionary (session.of 0).attempt ⟨catalog, calls, result, failures⟩
          (next.of 0).attempt := by
  by_cases hempty : catalog.entries = []
  · exact ⟨[], catalog, [], session, run_of_empty _ _ _ _ hempty, run_of_empty _ _ _ _ hempty,
      (List.append_nil _).symm, .empty hempty⟩
  · obtain ⟨calls, answer, next, hrecorded, hplain, hcalls, hexchange⟩ :=
      (session.of 0).exchange_analyze engine (requestFor catalog)
    have hasked : Exchange (requestFor catalog) (session.of 0).attempt calls answer
        ((session.update 0 next).of 0).attempt := by rwa [Session.of_update_self]
    refine ⟨calls, _, _, session.update 0 next, ?_, ?_, hcalls, .asked hempty hasked⟩
    · rw [run_of_ne_nil _ _ _ _ hempty, hrecorded]
    · rw [run_of_ne_nil _ _ _ _ hempty, Session.of_unrecorded, hplain, Session.unrecorded_update]

/-- The visits of some catalogs do what visits may do, and what they do without the record. -/
theorem history_visits (catalogs : List Catalog) (session : Session (Recorded σ)) :
    (∃ after, History glossary dictionary (session.of 0).attempt
        (visits engine glossary dictionary catalogs session) after) ∧
      (visits engine glossary dictionary catalogs session).map Visit.catalog = catalogs ∧
      (visits engine glossary dictionary catalogs session).map
          (fun visit => (visit.result, visit.failures)) =
        Suite.runEach ⟨[.grammar engine glossary dictionary]⟩ catalogs session.unrecorded := by
  induction catalogs generalizing session with
  | nil => exact ⟨⟨_, .nil _⟩, rfl, rfl⟩
  | cons catalog catalogs ih =>
      obtain ⟨calls, result, failures, next, hrecorded, hplain, hcalls, hvisited⟩ :=
        visited_run engine glossary dictionary catalog session
      obtain ⟨⟨after, hhistory⟩, hcatalogs, hresults⟩ := ih next
      -- the record goes on, so the calls of the visit are those that were not there before
      have hvisits : visits engine glossary dictionary (catalog :: catalogs) session =
          ⟨catalog, calls, result, failures⟩ ::
            visits engine glossary dictionary catalogs next := by
        simp only [visits, hrecorded, hcalls, List.drop_left]
      rw [hvisits]
      refine ⟨⟨after, .cons hvisited hhistory⟩, ?_, ?_⟩
      · rw [List.map_cons, hcatalogs]
      · rw [List.map_cons, hresults, Suite.runEach, hplain]

end

/-! ### The attempt to install the engine -/

section
variable {glossary : Glossary} {dictionary : Dictionary} {before after : Attempt} {visit : Visit}

theorem Visited.outcomes_eq (h : Visited glossary dictionary before visit after) :
    after.toList = before.toList ++ outcomes [visit] := by
  rw [outcomes, List.flatMap_singleton]
  cases h with
  | empty => exact (List.append_nil _).symm
  | asked _ exchange => exact exchange.outcomes_eq

/-- The session remembers the attempts to install the engine, of which there is one at most. -/
theorem History.outcomes_eq {visits : List Visit}
    (h : History glossary dictionary before visits after) :
    after.toList = before.toList ++ outcomes visits := by
  induction h with
  | nil attempt => exact (List.append_nil _).symm
  | @cons before between after visit visits first rest ih =>
      calc after.toList = before.toList ++ outcomes [visit] ++ outcomes visits := by
            rw [ih, first.outcomes_eq]
        _ = before.toList ++ outcomes (visit :: visits) := by
            rw [List.append_assoc, ← outcomes_append, List.singleton_append]

/-- Each visit stands between those before it and those after it. -/
theorem History.exists_visited {front back : List Visit}
    (h : History glossary dictionary before (front ++ visit :: back) after) :
    ∃ known learnt, Visited glossary dictionary known visit learnt ∧
      known.toList = before.toList ++ outcomes front := by
  induction front generalizing before with
  | nil =>
      cases h with
      | cons first rest => exact ⟨_, _, first, (List.append_nil _).symm⟩
  | cons earlier front ih =>
      cases h with
      | cons first rest =>
          obtain ⟨known, learnt, hvisited, hknown⟩ := ih rest
          refine ⟨known, learnt, hvisited, ?_⟩
          rw [hknown, first.outcomes_eq, List.append_assoc, ← outcomes_append,
            List.singleton_append]

/-- What the session knows before and after one of the visits is what came of the attempts until
then, if there were none before the visits. -/
theorem History.visited {front back : List Visit}
    (h : History glossary dictionary none (front ++ visit :: back) after) :
    ∃ known learnt, Visited glossary dictionary known visit learnt ∧
      known.toList = outcomes front ∧ learnt.toList = outcomes (front ++ [visit]) := by
  obtain ⟨known, learnt, hvisited, hknown⟩ := h.exists_visited
  refine ⟨known, learnt, hvisited, hknown, ?_⟩
  rw [hvisited.outcomes_eq, hknown, Option.toList_none, List.nil_append, outcomes_append]

end

/-! ### What a visit does about a missing engine -/

section
variable {glossary : Glossary} {dictionary : Dictionary} {before after : Attempt} {visit : Visit}

/-- The visit of a catalog with entries is one request, and a conclusion from its answer. -/
theorem Visited.exchange (h : Visited glossary dictionary before visit after)
    (hne : visit.catalog.entries ≠ []) :
    ∃ answer, Exchange (requestFor visit.catalog) before visit.calls answer after ∧
      (visit.result, visit.failures) = conclusion glossary dictionary visit.catalog answer := by
  cases h with
  | empty hempty => exact absurd hempty hne
  | asked _ exchange => exact ⟨_, exchange, rfl⟩

/-- An engine only answers if it is asked, and it is asked about entries. -/
theorem Visited.entries_ne_nil {answer : Except Engine.Error (List Remark)}
    (h : Visited glossary dictionary before visit after)
    (hfirst : visit.answers.head? = some answer) : visit.catalog.entries ≠ [] := by
  cases h with
  | empty => cases hfirst
  | asked hne => exact hne

/-- An attempt is only made if the engine is missing. -/
theorem Visited.findsMissing (h : Visited glossary dictionary before visit after)
    (houtcomes : outcomes [visit] ≠ []) : ∃ program reason, visit.FindsMissing program reason := by
  rw [outcomes, List.flatMap_singleton] at houtcomes
  cases h with
  | empty => exact absurd rfl houtcomes
  | asked _ exchange =>
      obtain hmissing | rfl := exchange.missing_or_calls_eq
      · exact hmissing
      · exact absurd rfl houtcomes

/-- If it is missing, an attempt was made when the visit ends. -/
theorem Visited.after_ne_none {program reason : Text}
    (h : Visited glossary dictionary before visit after)
    (hmissing : visit.FindsMissing program reason) : after ≠ none := by
  obtain ⟨answer, hexchange, -⟩ := h.exchange (h.entries_ne_nil hmissing)
  obtain ⟨rfl, -⟩ | ⟨error, rfl, -⟩ := hexchange.of_missing hmissing
  · exact Option.some_ne_none _
  · exact Option.some_ne_none _

/-- The engine is asked twice if and only if it is missing at first and is installed by then. -/
theorem Visited.twice_iff (h : Visited glossary dictionary before visit after) :
    visit.texts = [requestFor visit.catalog, requestFor visit.catalog] ↔
      (∃ program reason, visit.FindsMissing program reason) ∧ after = some (.ok ⟨⟩) := by
  constructor
  · intro htwice
    cases h with
    | empty => cases htwice
    | asked hne exchange =>
        obtain ⟨program, reason, hmissing⟩ | rfl := exchange.missing_or_calls_eq
        · refine ⟨⟨program, reason, hmissing⟩, ?_⟩
          obtain ⟨hafter, -⟩ | ⟨error, -, honce, -⟩ := exchange.of_missing hmissing
          · exact hafter
          · cases honce.symm.trans htwice
        · cases htwice
  · rintro ⟨⟨program, reason, hmissing⟩, rfl⟩
    obtain ⟨answer, hexchange, -⟩ := h.exchange (h.entries_ne_nil hmissing)
    obtain ⟨-, htwice⟩ | ⟨error, hafter, -⟩ := hexchange.of_missing hmissing
    · exact htwice
    · cases hafter

/-- The second answer counts. -/
theorem Visited.conclusion_second {first second : Except Engine.Error (List Remark)}
    (h : Visited glossary dictionary before visit after)
    (hanswers : visit.answers = [first, second]) :
    (visit.result, visit.failures) = conclusion glossary dictionary visit.catalog second := by
  have hfirst : visit.answers.head? = some first := congrArg List.head? hanswers
  obtain ⟨answer, hexchange, hconclusion⟩ := h.exchange (h.entries_ne_nil hfirst)
  rw [hconclusion, hexchange.answer_eq_second hanswers]

/-- The answer of an engine that is not missing counts, and it is all that is asked for. -/
theorem Visited.of_available {first : Except Engine.Error (List Remark)}
    (h : Visited glossary dictionary before visit after)
    (hfirst : visit.answers.head? = some first)
    (havailable : ∀ program reason, first ≠ .error (.unavailable program reason)) :
    visit.calls = [.asked (requestFor visit.catalog) first] ∧
      (visit.result, visit.failures) = conclusion glossary dictionary visit.catalog first := by
  obtain ⟨answer, hexchange, hconclusion⟩ := h.exchange (h.entries_ne_nil hfirst)
  obtain ⟨hcalls, rfl⟩ := hexchange.of_available hfirst havailable
  exact ⟨hcalls, hconclusion⟩

/-- A visit that misses an engine which cannot be installed fails with the reason for that. -/
theorem Visited.of_not_installed {program reason : Text} {error : Engine.Error}
    (h : Visited glossary dictionary before visit (some (.error error)))
    (hmissing : visit.FindsMissing program reason) :
    visit.texts = [requestFor visit.catalog] ∧ visit.result = visit.catalog ∧
      visit.failures = [⟨name, .unavailable program error.message⟩] := by
  obtain ⟨answer, hexchange, hconclusion⟩ := h.exchange (h.entries_ne_nil hmissing)
  obtain ⟨hafter, -⟩ | ⟨_, hafter, honce, rfl⟩ := hexchange.of_missing hmissing
  · cases hafter
  · cases hafter
    exact ⟨honce, congrArg Prod.fst hconclusion, congrArg Prod.snd hconclusion⟩

end

/-! ### Installed at most once -/

/-- What visits in a row do to have the engine installed. -/
structure InstalledOnce (glossary : Glossary) (dictionary : Dictionary) (visits : List Visit) :
    Prop where
  /-- There is one attempt at most. -/
  once : (outcomes visits).length ≤ 1
  /-- There is one if and only if the first answer on some catalog is that the engine is missing. -/
  attempted_iff : outcomes visits ≠ [] ↔
    ∃ visit ∈ visits, visit.catalog.entries ≠ [] ∧
      ∃ program reason, visit.FindsMissing program reason
  /-- Nothing is asked about a catalog without entries. -/
  empty : ∀ visit ∈ visits, visit.catalog.entries = [] →
    visit.calls = [] ∧ visit.result = visit.catalog ∧ visit.failures = []
  /-- The engine is asked about any other catalog, once or twice. -/
  asked : ∀ visit ∈ visits, visit.catalog.entries ≠ [] →
    visit.texts = [requestFor visit.catalog] ∨
      visit.texts = [requestFor visit.catalog, requestFor visit.catalog]
  /-- It is asked twice if and only if it is missing at first and was installed, now or before. -/
  twice_iff : ∀ front visit back, visits = front ++ visit :: back →
    (visit.texts = [requestFor visit.catalog, requestFor visit.catalog] ↔
      (∃ program reason, visit.FindsMissing program reason) ∧
        outcomes (front ++ [visit]) = [.ok ⟨⟩])
  /-- The second answer counts, whatever it is. -/
  final : ∀ visit ∈ visits, ∀ first second, visit.answers = [first, second] →
    (visit.result, visit.failures) = conclusion glossary dictionary visit.catalog second
  /-- So does the first one if it is not that the engine is missing, and nothing is installed. -/
  available : ∀ visit ∈ visits, ∀ answer, visit.answers.head? = some answer →
    (∀ program reason, answer ≠ .error (.unavailable program reason)) →
    visit.calls = [.asked (requestFor visit.catalog) answer] ∧
      (visit.result, visit.failures) = conclusion glossary dictionary visit.catalog answer
  /-- If it is missing and could not be installed, now or before, the check fails with the reason of
  that one attempt. -/
  failed : ∀ front visit back error program reason, visits = front ++ visit :: back →
    outcomes (front ++ [visit]) = [.error error] → visit.FindsMissing program reason →
    visit.texts = [requestFor visit.catalog] ∧ visit.result = visit.catalog ∧
      visit.failures = [⟨name, .unavailable program error.message⟩]
  /-- No other attempt is made after that one. -/
  unrepeated : ∀ front visit back, visits = front ++ visit :: back →
    outcomes front ≠ [] → outcomes [visit] = []

section
variable {glossary : Glossary} {dictionary : Dictionary} {after : Attempt} {visits : List Visit}

theorem History.visited_of_mem {visit : Visit} (h : History glossary dictionary none visits after)
    (hvisit : visit ∈ visits) :
    ∃ known learnt, Visited glossary dictionary known visit learnt := by
  obtain ⟨front, back, rfl⟩ := List.append_of_mem hvisit
  obtain ⟨known, learnt, hvisited, _, _⟩ := h.visited
  exact ⟨known, learnt, hvisited⟩

/-- There is an attempt if and only if the engine is missing at some visit. -/
theorem History.attempted_iff (h : History glossary dictionary none visits after) :
    outcomes visits ≠ [] ↔
      ∃ visit ∈ visits, visit.catalog.entries ≠ [] ∧
        ∃ program reason, visit.FindsMissing program reason := by
  constructor
  · intro houtcomes
    obtain ⟨outcome, houtcome⟩ := List.exists_mem_of_ne_nil _ houtcomes
    obtain ⟨visit, hvisit, houtcome⟩ := List.mem_flatMap.1 houtcome
    obtain ⟨known, learnt, hvisited⟩ := h.visited_of_mem hvisit
    obtain ⟨program, reason, hmissing⟩ := hvisited.findsMissing
      (List.ne_nil_of_mem (List.mem_flatMap.2 ⟨visit, List.mem_singleton_self _, houtcome⟩))
    exact ⟨visit, hvisit, hvisited.entries_ne_nil hmissing, program, reason, hmissing⟩
  · rintro ⟨visit, hvisit, -, program, reason, hmissing⟩ hnone
    obtain ⟨front, back, rfl⟩ := List.append_of_mem hvisit
    obtain ⟨known, learnt, hvisited, -, hlearnt⟩ := h.visited
    -- what the session knows after the visit is among the outcomes of all visits
    have hsplit : outcomes (front ++ visit :: back) = learnt.toList ++ outcomes back := by
      rw [hlearnt, ← outcomes_append, List.append_assoc, List.singleton_append]
    rw [hsplit, List.append_eq_nil_iff, Option.toList_eq_nil_iff] at hnone
    exact hvisited.after_ne_none hmissing hnone.1

/-- Visits that start without an attempt have the engine installed at most once. -/
theorem History.installedOnce (h : History glossary dictionary none visits after) :
    InstalledOnce glossary dictionary visits := by
  refine ⟨?once, h.attempted_iff, ?empty, ?asked, ?twice_iff, ?final, ?available, ?failed,
    ?unrepeated⟩
  case once =>
    have hremembered : after.toList = outcomes visits := h.outcomes_eq
    rw [← hremembered]
    exact Option.length_toList_le
  case empty =>
    intro visit hvisit hempty
    obtain ⟨known, learnt, hvisited⟩ := h.visited_of_mem hvisit
    cases hvisited with
    | empty => exact ⟨rfl, rfl, rfl⟩
    | asked hne => exact absurd hempty hne
  case asked =>
    intro visit hvisit hne
    obtain ⟨known, learnt, hvisited⟩ := h.visited_of_mem hvisit
    obtain ⟨answer, hexchange, -⟩ := hvisited.exchange hne
    exact hexchange.texts_eq
  case twice_iff =>
    rintro front visit back rfl
    obtain ⟨known, learnt, hvisited, -, hlearnt⟩ := h.visited
    rw [← hlearnt, Option.toList_eq_singleton_iff]
    exact hvisited.twice_iff
  case final =>
    intro visit hvisit first second hanswers
    obtain ⟨known, learnt, hvisited⟩ := h.visited_of_mem hvisit
    exact hvisited.conclusion_second hanswers
  case available =>
    intro visit hvisit first hfirst havailable
    obtain ⟨known, learnt, hvisited⟩ := h.visited_of_mem hvisit
    exact hvisited.of_available hfirst havailable
  case failed =>
    rintro front visit back error program reason rfl houtcomes hmissing
    obtain ⟨known, learnt, hvisited, -, hlearnt⟩ := h.visited
    rw [← hlearnt, Option.toList_eq_singleton_iff] at houtcomes
    subst houtcomes
    exact hvisited.of_not_installed hmissing
  case unrepeated =>
    rintro front visit back rfl hbefore
    obtain ⟨known, learnt, -, -, hlearnt⟩ := h.visited
    have hlength : (outcomes front).length + (outcomes [visit]).length ≤ 1 := by
      rw [← List.length_append, ← outcomes_append, ← hlearnt]
      exact Option.length_toList_le
    have hpositive : 0 < (outcomes front).length := List.length_pos_iff.2 hbefore
    exact List.eq_nil_of_length_eq_zero (by omega)

end

/-- **One check of grammar has the engine installed at most once**, whatever the engine does and
whichever catalogs are visited.  What comes of the catalogs is what comes of them without the record
of the calls. -/
theorem installedOnce_visits (engine : Engine σ) (glossary : Glossary) (dictionary : Dictionary)
    (catalogs : List Catalog) (state : σ) :
    let all := visits engine glossary dictionary catalogs { state := { state } }
    InstalledOnce glossary dictionary all ∧ all.map Visit.catalog = catalogs ∧
      all.map (fun visit => (visit.result, visit.failures)) =
        Suite.runEach ⟨[.grammar engine glossary dictionary]⟩ catalogs { state } := by
  obtain ⟨⟨after, hhistory⟩, hcatalogs, hresults⟩ :=
    history_visits engine glossary dictionary catalogs { state := { state } }
  exact ⟨hhistory.installedOnce, hcatalogs, hresults⟩

example :
    let missing : Session (Recorded Engine.Prepared) := { state := { state := {
      answers := [.error (.unavailable "g" "gone"), .error (.unavailable "g" "still gone")]
      outcome := .error (.timeout 5) } } }
    let catalogs := [twoEntries, { path := ⟨"b.po"⟩, entries := [] }, twoEntries]
    (visits Engine.prepared ⟨[]⟩ {} catalogs missing).map
        (fun visit => visit.failures.map Failure.error) =
      [[.unavailable "g" "grammar engine did not answer within 5s"], [],
       [.unavailable "g" "grammar engine did not answer within 5s"]] := by rfl

end Checker.Grammar

end CatalogLint
