/-
**What a session says to an engine.**

Nothing is known about an engine: it may be there, be missing, come back and fail in other ways from
one call to the next.  What a session asks of it is known all the same, and can be seen by recording
the calls.  The recording does not show in the answers, so that what is seen of the recorded engine
is true of the engine itself.

Main definitions:

* `CatalogLint.Engine.Call` — a call of an engine, with what came of it;
* `CatalogLint.Engine.Recorded`, `CatalogLint.Engine.recorded` — an engine whose calls are recorded;
* `CatalogLint.Engine.Attempt`, `CatalogLint.Engine.Session.attempt` — what came of the attempt to
  install an engine, if there was one;
* `CatalogLint.Engine.Exchange` — the calls that one request for remarks makes, and its answer.

Main results:

* `CatalogLint.Engine.Exchange.outcomes_eq` — the session remembers the attempts to install the
  engine, of which there is one at most;
* `CatalogLint.Engine.Exchange.of_available`, `CatalogLint.Engine.Exchange.of_missing` — what is
  done if the first answer is that the engine is missing, and if it is not;
* `CatalogLint.Engine.Session.exchange_analyze` — **what one request may do**, for any engine; the
  recording changes nothing about it.
-/

import CatalogLint.Engine.Session

set_option autoImplicit false

namespace CatalogLint.Engine

/-! ### Recording the calls -/

/-- A call of an engine, with what came of it. -/
inductive Call where
  /-- It was asked for remarks on the paragraphs of a text. -/
  | asked (text : Text) (answer : Except Error (List Remark))
  /-- An attempt was made to install it. -/
  | installed (outcome : Except Error PUnit)

namespace Call

def text? : Call → Option Text
  | asked text _ => some text
  | installed _ => none

def answer? : Call → Option (Except Error (List Remark))
  | asked _ answer => some answer
  | installed _ => none

def outcome? : Call → Option (Except Error PUnit)
  | asked _ _ => none
  | installed outcome => some outcome

end Call

/-- The state of an engine, and the calls that were made so far. -/
structure Recorded (σ : Type) where
  state : σ
  calls : List Call := []

variable {σ : Type}

/-- The engine, with a record of its calls. -/
def recorded (engine : Engine σ) : Engine (Recorded σ) where
  analyze text record :=
    let (answer, state) := engine.analyze text record.state
    (answer, ⟨state, record.calls ++ [.asked text answer]⟩)
  provision record :=
    let (outcome, state) := engine.provision record.state
    (outcome, ⟨state, record.calls ++ [.installed outcome]⟩)

/-- What came of the attempt to install an engine, if there was one. -/
abbrev Attempt : Type := Option (Except Error PUnit)

namespace Session

/-- What came of the attempt that was made in the session, if there was one. -/
def attempt (session : Session σ) : Attempt := session.installation.map Installation.outcome

/-- The session without the record of calls. -/
def unrecorded (session : Session (Recorded σ)) : Session σ :=
  ⟨session.state.state, session.installation⟩

end Session

/-! ### One request -/

/-- The calls that a request for remarks on a text makes, and its answer; before and after it the
session knows what came of the attempt to install the engine. -/
inductive Exchange (text : Text) :
    Attempt → List Call → Except Error (List Remark) → Attempt → Prop
  /-- The engine is not missing. -/
  | answered {attempt : Attempt} {answer : Except Error (List Remark)}
      (available : ∀ program reason, answer ≠ .error (.unavailable program reason)) :
      Exchange text attempt [.asked text answer] answer attempt
  /-- It is missing, was installed before, and is asked once more. -/
  | again (program reason : Text) (answer : Except Error (List Remark)) :
      Exchange text (some (.ok ⟨⟩))
        [.asked text (.error (.unavailable program reason)), .asked text answer]
        answer (some (.ok ⟨⟩))
  /-- It is missing, and could not be installed before. -/
  | refused (program reason : Text) (error : Error) :
      Exchange text (some (.error error)) [.asked text (.error (.unavailable program reason))]
        (.error (.unavailable program error.message)) (some (.error error))
  /-- It is missing, is installed, and is asked once more. -/
  | installed (program reason : Text) (answer : Except Error (List Remark)) :
      Exchange text none
        [.asked text (.error (.unavailable program reason)), .installed (.ok ⟨⟩),
          .asked text answer]
        answer (some (.ok ⟨⟩))
  /-- It is missing, and cannot be installed. -/
  | failed (program reason : Text) (error : Error) :
      Exchange text none
        [.asked text (.error (.unavailable program reason)), .installed (.error error)]
        (.error (.unavailable program error.message)) (some (.error error))

namespace Exchange

variable {text : Text} {before after : Attempt} {calls : List Call}
  {answer : Except Error (List Remark)}

/-- The session remembers the attempts to install the engine, of which there is one at most. -/
theorem outcomes_eq (h : Exchange text before calls answer after) :
    after.toList = before.toList ++ calls.filterMap Call.outcome? := by
  cases h with
  | answered => exact (List.append_nil _).symm
  | again | refused | installed | failed => rfl

/-- The engine is asked about the text, once or twice. -/
theorem texts_eq (h : Exchange text before calls answer after) :
    calls.filterMap Call.text? = [text] ∨ calls.filterMap Call.text? = [text, text] := by
  cases h with
  | answered | refused | failed => exact .inl rfl
  | again | installed => exact .inr rfl

/-- A second answer is passed on as it is. -/
theorem answer_eq_second {first second : Except Error (List Remark)}
    (h : Exchange text before calls answer after)
    (hanswers : calls.filterMap Call.answer? = [first, second]) : answer = second := by
  cases h with
  | again | installed =>
      cases hanswers
      rfl
  | answered | refused | failed => cases hanswers

/-- An engine that is not missing is asked once, and its answer is passed on as it is. -/
theorem of_available {first : Except Error (List Remark)}
    (h : Exchange text before calls answer after)
    (hfirst : (calls.filterMap Call.answer?).head? = some first)
    (havailable : ∀ program reason, first ≠ .error (.unavailable program reason)) :
    calls = [.asked text first] ∧ answer = first := by
  cases h with
  | answered =>
      cases hfirst
      exact ⟨rfl, rfl⟩
  | again | refused | installed | failed =>
      cases hfirst
      exact absurd rfl (havailable _ _)

/-- An engine that is missing is asked once more if it is installed by then; else the reason is
that of the attempt to install it. -/
theorem of_missing {program reason : Text} (h : Exchange text before calls answer after)
    (hmissing : (calls.filterMap Call.answer?).head? =
      some (.error (.unavailable program reason))) :
    (after = some (.ok ⟨⟩) ∧ calls.filterMap Call.text? = [text, text]) ∨
      ∃ error, after = some (.error error) ∧ calls.filterMap Call.text? = [text] ∧
        answer = .error (.unavailable program error.message) := by
  cases h with
  | answered available =>
      cases hmissing
      exact absurd rfl (available _ _)
  | again | installed => exact .inl ⟨rfl, rfl⟩
  | refused _ _ error | failed _ _ error =>
      cases hmissing
      exact .inr ⟨error, rfl, rfl, rfl⟩

/-- Whatever is done beyond a single request is done because the engine is missing. -/
theorem missing_or_calls_eq (h : Exchange text before calls answer after) :
    (∃ program reason, (calls.filterMap Call.answer?).head? =
      some (.error (.unavailable program reason))) ∨ calls = [.asked text answer] := by
  cases h with
  | answered => exact .inr rfl
  | again | refused | installed | failed => exact .inl ⟨_, _, rfl⟩

end Exchange

namespace Session

/-- A request that does not find the engine missing is answered by the engine. -/
theorem analyze_of_available {engine : Engine σ} {text : Text} {session : Session σ}
    {answer : Except Error (List Remark)} {state : σ}
    (h : engine.analyze text session.state = (answer, state))
    (havailable : ∀ program reason, answer ≠ .error (.unavailable program reason)) :
    session.analyze engine text = (answer, { session with state }) := by
  rw [analyze, h]
  match answer with
  | .error (.unavailable program reason) => exact absurd rfl (havailable program reason)
  | .error (.unexpected _) | .error (.timeout _) | .error .unmeasurable | .error (.io _)
  | .ok _ => rfl

/-- **What one request may do**, for any engine; the recording changes nothing about it. -/
theorem exchange_analyze (engine : Engine σ) (text : Text) (session : Session (Recorded σ)) :
    ∃ calls answer next,
      session.analyze engine.recorded text = (answer, next) ∧
        session.unrecorded.analyze engine text = (answer, next.unrecorded) ∧
        next.state.calls = session.state.calls ++ calls ∧
        Exchange text session.attempt calls answer next.attempt := by
  obtain ⟨⟨state, before⟩, installation⟩ := session
  -- each case follows the calls one after the other, with a name for every state in between
  rcases hfirst : engine.analyze text state with ⟨answer, found⟩
  by_cases hmissing : ∃ program reason, answer = .error (.unavailable program reason)
  · obtain ⟨program, reason, rfl⟩ := hmissing
    match installation with
    | some ⟨missing, cause, .ok _⟩ =>
        rcases hsecond : engine.analyze text found with ⟨answer, after⟩
        refine ⟨_, answer, ⟨⟨after, before ++ [.asked text (.error (.unavailable program reason)),
          .asked text answer]⟩, some ⟨missing, cause, .ok ⟨⟩⟩⟩, ?_, ?_, rfl,
          .again program reason answer⟩
        · simp [analyze, install, recorded, hfirst, hsecond]
        · simp [analyze, install, unrecorded, hfirst, hsecond]
    | some ⟨missing, cause, .error error⟩ =>
        refine ⟨_, .error (.unavailable program error.message),
          ⟨⟨found, before ++ [.asked text (.error (.unavailable program reason))]⟩,
            some ⟨missing, cause, .error error⟩⟩, ?_, ?_, rfl, .refused program reason error⟩
        · simp [analyze, install, recorded, hfirst]
        · simp [analyze, install, unrecorded, hfirst]
    | none =>
        rcases hinstall : engine.provision found with ⟨_ | _, ready⟩
        · next error =>
          refine ⟨_, .error (.unavailable program error.message),
            ⟨⟨ready, before ++ [.asked text (.error (.unavailable program reason)),
              .installed (.error error)]⟩, some ⟨program, reason, .error error⟩⟩, ?_, ?_, rfl,
            .failed program reason error⟩
          · simp [analyze, install, recorded, hfirst, hinstall]
          · simp [analyze, install, unrecorded, hfirst, hinstall]
        · rcases hsecond : engine.analyze text ready with ⟨answer, after⟩
          refine ⟨_, answer, ⟨⟨after, before ++ [.asked text (.error (.unavailable program reason)),
            .installed (.ok ⟨⟩), .asked text answer]⟩, some ⟨program, reason, .ok ⟨⟩⟩⟩, ?_, ?_, rfl,
            .installed program reason answer⟩
          · simp [analyze, install, recorded, hfirst, hinstall, hsecond]
          · simp [analyze, install, unrecorded, hfirst, hinstall, hsecond]
  · have havailable : ∀ program reason, answer ≠ .error (.unavailable program reason) :=
      fun program reason heq => hmissing ⟨program, reason, heq⟩
    refine ⟨_, answer, ⟨⟨found, before ++ [.asked text answer]⟩, installation⟩, ?_, ?_, rfl,
      .answered havailable⟩
    · exact analyze_of_available (by simp [recorded, hfirst]) havailable
    · exact analyze_of_available hfirst havailable

end Session

end CatalogLint.Engine
