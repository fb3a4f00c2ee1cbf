/-
**Colours change nothing but colours.**

With colours, control sequences stand around some pieces of a text.  A sequence reaches from its
first character, which is an escape, to the next letter `m`; when all sequences are removed, what is
left is the text without colours, provided that no sequence stands in a piece to begin with.  The
pieces that are not fixed are the paths, the messages and the names of checkers, so that these three
decide for a listing; all other outputs never hold an escape.

Main definitions:

* `CatalogLint.Output.removeControls` — a text without its control sequences.

Main results:

* `CatalogLint.Output.removeControls_append`, `CatalogLint.Output.removeControls_sequence` — what
  stands outside of sequences is kept, and a sequence leaves nothing behind;
* `CatalogLint.Output.removeControls_render_iff` — **colours can be removed if and only if the text
  without colours has no escape**;
* `CatalogLint.Output.escape_not_mem_listing_iff` — when a listing has none;
* `CatalogLint.Output.removeControls_outputs` — **colours can be removed from all outputs**.
-/

import CatalogLint.Proofs.Output.Agreement

set_option autoImplicit false

namespace CatalogLint

theorem Text.mem_joinWith {c : Char} {separator : Text} {texts : List Text}
    (h : c ∈ joinWith separator texts) : c ∈ separator ∨ ∃ text ∈ texts, c ∈ text := by
  induction texts with
  | nil => cases h
  | cons first texts ih =>
      cases texts with
      | nil =>
          rw [joinWith, List.intercalate_singleton] at h
          exact .inr ⟨first, List.mem_cons_self, h⟩
      | cons second texts =>
          rw [joinWith_cons_cons, List.mem_append, List.mem_append] at h
          rcases h with (h | h) | h
          · exact .inr ⟨first, List.mem_cons_self, h⟩
          · exact .inl h
          · obtain h | ⟨text, htext, hc⟩ := ih h
            · exact .inl h
            · exact .inr ⟨text, List.mem_cons_of_mem _ htext, hc⟩

namespace Output

variable {text : Text} {pieces : List Piece}

/-! ### Texts without control sequences -/

/-- What is left of a text when control sequences are removed; `inside` tells whether the text
continues a sequence, which ends with the next letter `m`. -/
def removeControlsFrom : (inside : Bool) → Text → Text
  | _, [] => []
  | true, c :: text => removeControlsFrom (c != 'm') text
  | false, c :: text =>
    if c = '\x1b' then removeControlsFrom true text else c :: removeControlsFrom false text

/-- The text without its control sequences, each from an escape to the next letter `m`. -/
def removeControls (text : Text) : Text := removeControlsFrom false text

/-- What stands before the first sequence is kept. -/
theorem removeControls_append (h : '\x1b' ∉ text) (rest : Text) :
    removeControls (text ++ rest) = text ++ removeControls rest := by
  induction text with
  | nil => rfl
  | cons c text ih =>
      obtain ⟨hc, htext⟩ := List.ne_and_not_mem_of_not_mem_cons h
      rw [List.cons_append, removeControls, removeControlsFrom, if_neg (Ne.symm hc),
        ← removeControls, ih htext, List.cons_append]

theorem removeControlsFrom_true_append (h : 'm' ∉ text) (rest : Text) :
    removeControlsFrom true (text ++ 'm' :: rest) = removeControls rest := by
  induction text with
  | nil => rfl
  | cons c text ih =>
      obtain ⟨hc, htext⟩ := List.ne_and_not_mem_of_not_mem_cons h
      rw [List.cons_append, removeControlsFrom, bne_iff_ne.2 (Ne.symm hc), ih htext]

/-- A sequence leaves nothing behind. -/
theorem removeControls_sequence (h : 'm' ∉ text) (rest : Text) :
    removeControls ('\x1b' :: text ++ 'm' :: rest) = removeControls rest := by
  rw [List.cons_append, removeControls, removeControlsFrom, if_pos rfl,
    removeControlsFrom_true_append h]

/-- No escape is left, be it part of a sequence or not. -/
theorem escape_not_mem_removeControlsFrom (inside : Bool) (text : Text) :
    '\x1b' ∉ removeControlsFrom inside text := by
  induction text generalizing inside with
  | nil => simp [removeControlsFrom]
  | cons c text ih =>
      cases inside with
      | true => exact ih _
      | false =>
          rw [removeControlsFrom]
          split
          · exact ih _
          · next hc => exact List.not_mem_cons_of_ne_of_not_mem (Ne.symm hc) (ih _)

/-! ### Pieces without colours -/

theorem isDigit_of_mem_decimal {c : Char} {n : Nat} (h : c ∈ Text.decimal n) : c.isDigit = true :=
  (Json.isDigits_decimal n).all c h

theorem removeControls_turnOn (styles : List Style) (rest : Text) :
    removeControls (turnOn styles ++ rest) = removeControls rest := by
  have hparameters :
      'm' ∉ '[' :: Text.joinWith ";" (styles.map fun style => Text.decimal style.code) := by
    refine List.not_mem_cons_of_ne_of_not_mem (by decide) fun hmem => ?_
    obtain hmem | ⟨_, htext, hmem⟩ := Text.mem_joinWith hmem
    · exact absurd hmem (by decide)
    · obtain ⟨style, -, rfl⟩ := List.mem_map.1 htext
      exact absurd (isDigit_of_mem_decimal hmem) (by decide)
  have hsequence := removeControls_sequence hparameters rest
  rwa [List.append_cons _ 'm' rest] at hsequence

/-- The sequences around a piece leave nothing but its text. -/
theorem removeControls_styled (styles : List Style) (h : '\x1b' ∉ text) (rest : Text) :
    removeControls (styled true styles text ++ rest) = text ++ removeControls rest := by
  by_cases hne : styles = []
  · rw [hne, styled_nil, removeControls_append h]
  · have hparameters : 'm' ∉ ("[0" : Text) := by decide
    have hoff : removeControls (turnOff ++ rest) = removeControls rest :=
      removeControls_sequence hparameters rest
    rw [styled_true hne h, List.append_assoc, List.append_assoc, removeControls_turnOn,
      removeControls_append h, hoff]

theorem removeControls_render (h : ∀ piece ∈ pieces, '\x1b' ∉ piece.text) :
    removeControls (render true pieces) = render false pieces := by
  induction pieces with
  | nil => rfl
  | cons piece pieces ih =>
      obtain ⟨hpiece, hpieces⟩ := List.forall_mem_cons.1 h
      rw [render_cons, render_cons, removeControls_styled _ hpiece, styled_false, ih hpieces]

/-- **Colours can be removed if and only if the text without colours has no escape.** -/
theorem removeControls_render_iff :
    removeControls (render true pieces) = render false pieces ↔ '\x1b' ∉ render false pieces := by
  constructor
  · intro h
    rw [← h]
    exact escape_not_mem_removeControlsFrom false _
  · intro h
    refine removeControls_render fun piece hpiece hmem => h ?_
    exact List.mem_flatMap.2 ⟨piece, hpiece, hmem⟩

/-! ### The outputs without colours -/

theorem escape_not_mem_decimal (n : Nat) : '\x1b' ∉ Text.decimal n :=
  fun hmem => absurd (isDigit_of_mem_decimal hmem) (by decide)

theorem escape_not_mem_counted {noun : Text} (h : '\x1b' ∉ noun) (n : Nat) :
    '\x1b' ∉ counted n noun := by
  rw [counted]
  split
  · exact h
  · exact fun hmem => (List.mem_append.1 hmem).elim h (by decide)

/-- An issue is shown without an escape if and only if none of its three free texts has one. -/
theorem escape_not_mem_issueText_iff (issue : Issue) :
    '\x1b' ∉ issueText false issue ↔ '\x1b' ∉ issue.path.text ∧
      '\x1b' ∉ issue.finding.message ∧ '\x1b' ∉ issue.finding.checker := by
  have hseverity : '\x1b' ∉ issue.finding.severity.name := by
    cases issue.finding.severity <;> decide
  have hmarks : ∀ mark ∈ ([": ", "  ", "\n  --> ", ":", "\n\n"] : List Text), '\x1b' ∉ mark := by
    decide
  simp only [List.forall_mem_cons] at hmarks
  obtain ⟨hcolon, hspaces, harrow, hline, hlast, -⟩ := hmarks
  simp only [issueText_false, List.mem_append, not_or, hseverity, escape_not_mem_decimal, hcolon,
    hspaces, harrow, hline, hlast, not_false_eq_true, true_and, and_true]
  tauto

theorem escape_not_mem_countText (errors warnings : Nat) :
    '\x1b' ∉ countText false errors warnings := by
  have herrors : '\x1b' ∉ counted errors "error" := escape_not_mem_counted (by decide) errors
  have hwarnings : '\x1b' ∉ counted warnings "warning" :=
    escape_not_mem_counted (by decide) warnings
  simp only [countText, styled_false, List.mem_append, not_or, escape_not_mem_decimal, herrors,
    hwarnings, not_false_eq_true, and_true]
  decide

/-- A listing is written without an escape if and only if no path, message or checker has one. -/
theorem escape_not_mem_listing_iff (issues : List Issue) :
    '\x1b' ∉ render false (listing issues) ↔ ∀ issue ∈ issues, '\x1b' ∉ issue.path.text ∧
      '\x1b' ∉ issue.finding.message ∧ '\x1b' ∉ issue.finding.checker := by
  by_cases hne : issues = []
  · subst hne
    exact iff_of_true List.not_mem_nil (List.forall_mem_nil _)
  · have hcount (errors warnings : Nat) :
        '\x1b' ∉ Text.unlines [countText false errors warnings] := by
      rw [Text.unlines, List.flatMap_singleton, List.mem_append, not_or]
      exact ⟨escape_not_mem_countText errors warnings, by decide⟩
    rw [render_listing false hne, List.mem_append, not_or, and_iff_left (hcount _ _),
      List.mem_flatMap]
    simp only [not_exists, not_and, escape_not_mem_issueText_iff]

/-- The line of success never has an escape. -/
theorem escape_not_mem_allClear (filesChecked : Nat) (isScoped : Bool) :
    ∀ piece ∈ allClear filesChecked isScoped, '\x1b' ∉ piece.text := by
  have hnoun : '\x1b' ∉ counted filesChecked "catalog" :=
    escape_not_mem_counted (by decide) filesChecked
  have hscope : '\x1b' ∉ (if isScoped then " (changed entries only)" else "").toList := by
    cases isScoped <;> decide
  simp only [allClear, successLine, plain, List.forall_mem_cons, List.mem_append, not_or,
    escape_not_mem_decimal, hnoun, hscope, not_false_eq_true, and_true]
  decide

/-- A warning with a count has an escape only if its message does. -/
theorem escape_not_mem_countWarning {message : Text} (h : '\x1b' ∉ message) (n : Nat) :
    ∀ piece ∈ countWarning n message, '\x1b' ∉ piece.text := by
  rw [countWarning]
  split
  · exact List.forall_mem_nil _
  · simp only [plain, List.forall_mem_cons, List.mem_append, not_or, escape_not_mem_decimal, h,
      not_false_eq_true, and_true]
    decide

/-! ### The outputs with colours -/

/-- **Colours can be removed from all outputs**: from a listing exactly if no path, message or
checker has an escape, and from the other outputs always. -/
theorem removeControls_outputs :
    (∀ issues : List Issue,
      removeControls (render true (listing issues)) = render false (listing issues) ↔
        ∀ issue ∈ issues, '\x1b' ∉ issue.path.text ∧ '\x1b' ∉ issue.finding.message ∧
          '\x1b' ∉ issue.finding.checker) ∧
      (∀ filesChecked isScoped,
        removeControls (render true (allClear filesChecked isScoped)) =
          render false (allClear filesChecked isScoped)) ∧
      (∀ n, removeControls (render true (unparsedWarning n)) = render false (unparsedWarning n)) ∧
      ∀ n, removeControls (render true (failureWarning n)) = render false (failureWarning n) := by
  refine ⟨fun issues => ?listing, fun filesChecked isScoped => ?allClear, fun n => ?unparsed,
    fun n => ?failure⟩
  case listing => exact removeControls_render_iff.trans (escape_not_mem_listing_iff issues)
  case allClear => exact removeControls_render (escape_not_mem_allClear filesChecked isScoped)
  case unparsed => exact removeControls_render (escape_not_mem_countWarning (by decide) n)
  case failure => exact removeControls_render (escape_not_mem_countWarning (by decide) n)

/-- The name of a checker decides too: one that is itself a control sequence is lost when colours
are removed. -/
theorem not_forall_removeControls_listing :
    ¬ ∀ issues : List Issue,
      (∀ issue ∈ issues, '\x1b' ∉ issue.path.text ∧ '\x1b' ∉ issue.finding.message) →
        removeControls (render true (listing issues)) = render false (listing issues) := by
  intro h
  let issue : Issue :=
    { path := ⟨"a.po"⟩, line := 1, finding := ⟨"\x1b[1m", .warning, "x"⟩ }
  have hlost : removeControls (render true (listing [issue])) ≠ render false (listing [issue]) := by
    decide +kernel
  exact hlost (h [issue] (by decide))

end Output

end CatalogLint
