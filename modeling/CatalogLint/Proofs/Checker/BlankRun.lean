/-
**One warning for each maximal run of blanks.**

A run of two or more blanks is maximal if no blank stands beside it.  The search takes a run from
its first blank to its last one, so it never begins within a run, and what it has not taken begins
with a character that is not blank.  So it finds the maximal runs, all of them and from the left,
and the warning about a run shows the text on both sides of it.

Main definitions:

* `CatalogLint.Checker.DoubleSpace.IsRun` — a maximal run of two or more blanks;
* `CatalogLint.Checker.DoubleSpace.warning` — the warning about a run;
* `CatalogLint.Checker.DoubleSpace.ReportsRuns` — the warnings of an entry are about the maximal
  runs.

Main results:

* `CatalogLint.Checker.DoubleSpace.mem_runs_iff` — **the search finds the maximal runs**;
* `CatalogLint.Checker.DoubleSpace.reportsRuns_findings` — **the warnings of an entry**.
-/

import CatalogLint.Checker.Entry
import CatalogLint.Proofs.Text.Search
import CatalogLint.Proofs.Text.Trim

set_option autoImplicit false

namespace CatalogLint.Checker.DoubleSpace

/-! ### Maximal runs -/

/-- The part is a run of two or more blanks, and no blank stands beside it. -/
structure IsRun (text : Text) (found : Text.Occurrence) : Prop where
  /-- The part, with what stands before and behind it, is the whole text. -/
  whole : found.before ++ found.matched ++ found.after = text
  /-- It has two characters or more. -/
  several : 2 ≤ found.matched.length
  blank : ∀ c ∈ found.matched, Text.isBlank c = true
  /-- The character before the part is not blank. -/
  begins : ∀ c ∈ found.before.getLast?, Text.isBlank c = false
  /-- The character behind the part is not blank. -/
  ends : ∀ c ∈ found.after.head?, Text.isBlank c = false

section
variable {text part rest : Text} {found : Text.Occurrence}

theorem run_eq_none_iff : run text = none ↔ (text.takeWhile Text.isBlank).length < 2 := by
  rw [run]
  split <;> simp <;> omega

theorem run_eq_some_iff {length : Nat} :
    run text = some length ↔ 2 ≤ length ∧ (text.takeWhile Text.isBlank).length = length := by
  rw [run]
  split <;> simp <;> omega

theorem takes_run : Text.Recogniser.Takes run := by
  intro text length hrun
  obtain ⟨htwo, rfl⟩ := run_eq_some_iff.1 hrun
  exact ⟨by omega, (List.takeWhile_prefix Text.isBlank).length_le⟩

/-- What the pattern takes are all the blanks with which a text begins. -/
theorem run_append_eq_some_iff :
    run (part ++ rest) = some part.length ↔
      2 ≤ part.length ∧ (∀ c ∈ part, Text.isBlank c = true) ∧
        ∀ c ∈ rest.head?, Text.isBlank c = false := by
  rw [run_eq_some_iff, and_congr_right_iff]
  intro _
  constructor
  · intro hlength
    have htaken : (part ++ rest).takeWhile Text.isBlank = part :=
      (List.prefix_of_prefix_length_le (List.takeWhile_prefix _) (List.prefix_append part rest)
        (Nat.le_of_eq hlength)).eq_of_length hlength
    have hrest : (part ++ rest).dropWhile Text.isBlank = rest := by
      have hsplit := List.takeWhile_append_dropWhile (p := Text.isBlank) (l := part ++ rest)
      rwa [htaken, List.append_cancel_left_eq] at hsplit
    constructor
    · rw [← htaken]
      exact List.all_eq_true.1 List.all_takeWhile
    · intro c hc
      have hhead := List.head?_dropWhile_not Text.isBlank (part ++ rest)
      rwa [hrest, hc] at hhead
  · rintro ⟨hblank, hhead⟩
    rw [Text.takeWhile_append_of_head hblank hhead]

/-- A maximal run is what the pattern takes where the run begins. -/
theorem IsRun.run_eq (h : IsRun text found) :
    run (found.matched ++ found.after) = some found.matched.length :=
  run_append_eq_some_iff.2 ⟨h.several, h.blank, h.ends⟩

theorem IsRun.matched_ne_nil (h : IsRun text found) : found.matched ≠ [] :=
  List.ne_nil_of_length_pos (Nat.lt_of_lt_of_le Nat.zero_lt_two h.several)

/-- A maximal run stays one behind a further text, if no two blanks meet there. -/
theorem IsRun.behind (front : Text) (h : IsRun text found)
    (hborder : ∀ c ∈ front.getLast?, ∀ d ∈ text.head?,
      Text.isBlank c = true → Text.isBlank d = false) :
    IsRun (front ++ text) (found.behind front) where
  whole := by rw [Text.Occurrence.behind, List.append_assoc, List.append_assoc,
    ← List.append_assoc found.before, h.whole]
  several := h.several
  blank := h.blank
  begins := by
    intro c hc
    rw [Text.Occurrence.behind, List.getLast?_append, Option.mem_def, Option.or_eq_some_iff] at hc
    rcases hc with hc | ⟨hbefore, hc⟩
    · exact h.begins c hc
    · -- the run itself is what meets the further text
      obtain ⟨d, matched, hmatched⟩ := List.exists_cons_of_ne_nil h.matched_ne_nil
      have hd : text.head? = some d := by
        rw [← h.whole, List.getLast?_eq_none_iff.1 hbefore, hmatched]
        rfl
      have hblank : Text.isBlank d = true := h.blank d (by rw [hmatched]; exact List.mem_cons_self)
      by_contra hc'
      rw [Bool.not_eq_false] at hc'
      rw [hborder c hc d hd hc'] at hblank
      cases hblank
  ends := h.ends

/-- A maximal run that begins behind a part of the text is one of the rest. -/
theorem IsRun.of_append (front : Text) {before matched after : Text}
    (h : IsRun (front ++ text) ⟨front ++ before, matched, after⟩) :
    IsRun text ⟨before, matched, after⟩ where
  whole := by
    have hwhole := h.whole
    rwa [List.append_assoc, List.append_assoc, List.append_cancel_left_eq,
      ← List.append_assoc] at hwhole
  several := h.several
  blank := h.blank
  begins := fun c hc => h.begins c (by
    rw [Option.mem_def] at hc ⊢
    rw [List.getLast?_append, hc, Option.some_or])
  ends := h.ends

/-- A run does not begin within blanks with which the text begins, but with the first of them. -/
theorem IsRun.before_eq (h : IsRun (part ++ rest) found)
    (hpart : ∀ c ∈ part, Text.isBlank c = true) :
    found.before = [] ∨ ∃ behind, found.before = part ++ behind := by
  rcases List.eq_nil_or_concat' found.before with hnil | ⟨front, last, hlast⟩
  · exact .inl hnil
  · have hwhole := h.whole
    rw [List.append_assoc] at hwhole
    rcases List.append_eq_append_iff.1 hwhole with ⟨inner, hinner, -⟩ | ⟨behind, hbehind, -⟩
    · have hmem : last ∈ part := by
        rw [hinner, hlast]
        simp
      have hnot := h.begins last (by rw [hlast]; exact List.getLast?_concat)
      rw [hpart last hmem] at hnot
      cases hnot
    · exact .inr ⟨behind, hbehind⟩

/-- **The search finds the maximal runs.** -/
theorem mem_runs_iff : found ∈ runs text ↔ IsRun text found := by
  induction text using takes_run.inductionOn generalizing found with
  | nil =>
      refine iff_of_false List.not_mem_nil fun h => h.matched_ne_nil ?_
      exact (List.append_eq_nil_iff.1 (List.append_eq_nil_iff.1 h.whole).1).2
  | kept c text hnone ih =>
      rw [runs, Text.occurrences_cons hnone, List.mem_map]
      constructor
      · rintro ⟨found, hfound, rfl⟩
        refine IsRun.behind [c] (ih.1 hfound) fun d hd e he hblank => ?_
        obtain rfl : c = d := Option.some.inj hd
        obtain ⟨text, rfl⟩ := List.head?_eq_some_iff.1 he
        rw [run_eq_none_iff, List.takeWhile_cons_of_pos hblank, List.takeWhile_cons] at hnone
        cases hnext : Text.isBlank e with
        | false => rfl
        | true =>
            simp only [hnext, if_true, List.length_cons] at hnone
            omega
      · intro h
        obtain ⟨before, matched, after⟩ := found
        cases before with
        | nil =>
            have htaken := h.run_eq
            rw [show matched ++ after = c :: text from h.whole, hnone] at htaken
            cases htaken
        | cons d before =>
            obtain ⟨rfl, -⟩ := List.cons.inj h.whole
            exact ⟨⟨before, matched, after⟩, ih.2 (IsRun.of_append [d] h), rfl⟩
  | taken part rest hne hmatch ih =>
      obtain ⟨htwo, hblank, hrest⟩ := run_append_eq_some_iff.1 hmatch
      rw [runs, Text.occurrences_append hne hmatch, List.mem_cons, List.mem_map]
      constructor
      · rintro (rfl | ⟨found, hfound, rfl⟩)
        · exact ⟨rfl, htwo, hblank, nofun, hrest⟩
        · exact IsRun.behind part (ih.1 hfound) fun _ _ d hd _ => hrest d hd
      · intro h
        obtain ⟨before, matched, after⟩ := found
        obtain rfl | ⟨behind, rfl⟩ := h.before_eq hblank
        · -- two runs that begin alike are the same
          left
          have htaken := h.run_eq
          have hwhole : matched ++ after = part ++ rest := h.whole
          rw [hwhole, hmatch, Option.some.injEq] at htaken
          obtain ⟨rfl, rfl⟩ := List.append_inj hwhole htaken.symm
          rfl
        · exact .inr ⟨⟨behind, matched, after⟩, ih.2 (IsRun.of_append part h), rfl⟩

end

/-! ### The warnings of an entry -/

/-- The warning about a run: it shows up to thirty characters of the text before the run, and up to
thirty behind it. -/
def warning (text : Text) (found : Text.Occurrence) : Finding :=
  ⟨"Double space", .warning, "Double spaces detected between ###" ++
    Text.slice text (found.before.length - 30) found.before.length ++ "### and ###" ++
    Text.slice text (found.before.length + found.matched.length)
      (found.before.length + found.matched.length + 30) ++ "###"⟩

theorem slice_append_left (front text : Text) (first : Nat) :
    Text.slice (front ++ text) first front.length = front.drop first := by
  rw [Text.slice, ← List.drop_take, List.take_left]

theorem slice_append_right (front text : Text) (width : Nat) :
    Text.slice (front ++ text) front.length (front.length + width) = text.take width := by
  rw [Text.slice, List.drop_left, Nat.add_sub_cancel_left]

/-- What is said about a run are the characters on both sides of it. -/
theorem warning_eq (found : Text.Occurrence) :
    warning (found.before ++ found.matched ++ found.after) found =
      ⟨name, .warning, message found⟩ := by
  have hbefore := slice_append_left found.before (found.matched ++ found.after)
    (found.before.length - 30)
  have hafter := slice_append_right (found.before ++ found.matched) found.after 30
  rw [← List.append_assoc] at hbefore
  rw [List.length_append] at hafter
  unfold warning name message contextWidth Text.lastChars
  rw [hbefore, hafter]

/-- The warnings of an entry are about the maximal runs of blanks in the plain form of its target
text. -/
structure ReportsRuns (entry : Entry) : Prop where
  /-- Each run that is found has one warning, and there are no others. -/
  warnings : findings entry = (runs entry.normalizedTarget).map (warning entry.normalizedTarget)
  /-- The runs that are found are the maximal ones, and these only. -/
  isRun : ∀ found, found ∈ runs entry.normalizedTarget ↔ IsRun entry.normalizedTarget found
  /-- They come in the order of their places, each behind the end of the one before. -/
  inOrder : (runs entry.normalizedTarget).Pairwise fun first second =>
    first.before.length + first.matched.length ≤ second.before.length

/-- **The warnings of an entry.** -/
theorem reportsRuns_findings (entry : Entry) : ReportsRuns entry where
  warnings := by
    refine List.map_congr_left fun found hfound => ?_
    rw [← warning_eq, (mem_runs_iff.1 hfound).whole]
  isRun := fun _ => mem_runs_iff
  inOrder := Text.pairwise_occurrences run entry.normalizedTarget

end CatalogLint.Checker.DoubleSpace
