/-
**A dictionary that is told its own title-case forms.**

The title case of a word that a dictionary was told is one of its forms.  Told that form as a word,
the dictionary accepts nothing new if title case leaves the form as it is, and this is so unless
there is a slip in the word.  Otherwise there is one new form at most: the title case of the title
case.

Main definitions:

* `CatalogLint.Text.SettlesInTitle` — what becomes of a word in title case, and in the next rounds;
* `CatalogLint.Dictionary.RetellsTitles` — what comes of telling a dictionary its title-case forms.

Main results:

* `CatalogLint.Text.IsTrimmed.titleCase` — title case writes no blanks at the ends of a word;
* `CatalogLint.Dictionary.mem_forms_insert_titleCase` — **what a title-case form adds** when it is
  told as a word;
* `CatalogLint.Dictionary.titleCase_retold` — **title case is a normal form unless there is a
  slip**, and what this means for dictionaries;
* `CatalogLint.Text.not_forall_titleCase_titleCase` — a word with a slip.
-/

import CatalogLint.Proofs.Catalog.Composition
import CatalogLint.Proofs.Dictionary.Accepted
import CatalogLint.Proofs.Text.TitleRounds
import CatalogLint.Proofs.Text.Trim

set_option autoImplicit false

namespace CatalogLint

/-! ### Blanks at the ends of a word -/

namespace Text

section
variable {afterLetter : Bool} {c d : Char} {text : Text}

/-- A letter is no blank. -/
theorem isBlank_of_isAlphabetic (h : isAlphabetic c = true) : isBlank c = false := by
  have htable : alphabeticRanges.bits &&& blankRanges.bits = 0 := by decide +kernel
  exact includesNat_eq_false_of_land_eq_zero htable ((RangeTable.testBit_bits _ _).trans h)

/-- Only a blank has a form with blanks. -/
theorem isBlank_of_mem_formAt (h : isBlank c = false) (hd : d ∈ formAt afterLetter c) :
    isBlank d = false := by
  cases hspreads : spreads afterLetter c with
  | true =>
      have htable : bitsOf spreadNumbers &&& blankRanges.bits = 0 := by decide +kernel
      exact includesNat_eq_false_of_land_eq_zero htable
        (testBit_bitsOf.2 (toNat_mem_spreadNumbers hspreads hd))
  | false =>
      obtain ⟨e, hform, -, hletter⟩ := exists_formAt hspreads
      rw [hform, List.mem_singleton] at hd
      subst hd
      cases hc : isAlphabetic c with
      | true => exact isBlank_of_isAlphabetic (hletter.trans hc)
      | false =>
          rw [formAt_of_not_letter hc] at hform
          exact List.singleton_inj.1 hform ▸ h

/-- Title case writes no blanks at the ends of a word. -/
theorem IsTrimmed.titleCase (h : IsTrimmed text) : IsTrimmed (titleCase text) where
  head d hd := by
    cases text with
    | nil => cases hd
    | cons c text =>
        obtain ⟨e, form, hform⟩ := List.exists_cons_of_length_pos (length_formAt_pos false c)
        rw [Text.titleCase, titleCaseFrom_cons, hform] at hd
        obtain rfl : e = d := by simpa using hd
        exact isBlank_of_mem_formAt (h.head c rfl) (hform ▸ List.mem_cons_self)
  last d hd := by
    rcases List.eq_nil_or_concat text with rfl | ⟨front, c, rfl⟩
    · cases hd
    · rw [List.concat_eq_append] at h hd
      have hne : formAt (endsInLetter false front) c ≠ [] :=
        List.ne_nil_of_length_pos (length_formAt_pos _ c)
      rw [Text.titleCase, titleCaseFrom_append, titleCaseFrom_cons, titleCaseFrom, List.append_nil,
        List.getLast?_append_of_ne_nil _ hne] at hd
      exact isBlank_of_mem_formAt (h.last c (List.getLast?_concat ..)) (List.mem_of_getLast? hd)

end

end Text

/-! ### Telling a title-case form -/

namespace Dictionary

section
variable {dictionary : Dictionary} {word form : Text}

theorem insertForm_eq_self (h : form ∈ dictionary.forms) :
    dictionary.insertForm form = dictionary := by
  rw [insertForm, if_pos (List.contains_iff_mem.2 h)]

theorem trim_titleCase_trim (word : Text) :
    Text.trim (Text.titleCase (Text.trim word)) = Text.titleCase (Text.trim word) :=
  (Text.isTrimmed_trim word).titleCase.trim_eq

theorem titleCase_ne_nil (h : word ≠ []) : Text.titleCase word ≠ [] := by
  intro hnil
  have hlength : word.length ≤ (Text.titleCase word).length :=
    Text.length_le_length_titleCaseFrom false word
  rw [hnil] at hlength
  exact h (List.length_eq_zero_iff.1 (Nat.le_zero.1 hlength))

/-- **What a title-case form adds** when it is told as a word: its own title case. -/
theorem mem_forms_insert_titleCase (hword : Text.trim word ≠ [])
    (h : Text.titleCase (Text.trim word) ∈ dictionary.forms) :
    form ∈ (dictionary.insert (Text.titleCase (Text.trim word))).forms ↔
      form ∈ dictionary.forms ∨ form = Text.titleCase (Text.titleCase (Text.trim word)) := by
  rw [mem_forms_insert, trim_titleCase_trim]
  constructor
  · rintro (⟨-, rfl | htitle⟩ | hform)
    · exact .inl h
    · exact .inr htitle
    · exact .inl hform
  · rintro (hform | htitle)
    · exact .inr hform
    · exact .inl ⟨titleCase_ne_nil hword, .inr htitle⟩

/-- A title-case form without slip adds nothing. -/
theorem insert_titleCase_eq_self (h : Text.titleCase (Text.trim word) ∈ dictionary.forms)
    (hslip : ¬Text.Slip false (Text.trim word)) :
    dictionary.insert (Text.titleCase (Text.trim word)) = dictionary := by
  have hsame : Text.titleCase (Text.titleCase (Text.trim word)) = Text.titleCase (Text.trim word) :=
    Text.stands_titleCaseFrom_iff.2 hslip
  simp only [insert, trim_titleCase_trim, hsame, insertForm_eq_self h, ite_self]

theorem after_append_insert (calls : List Call) (word : Text) :
    after (calls ++ [.insert word]) = (after calls).insert word := by
  rw [after, List.foldl_append]
  rfl

theorem titleCase_mem_forms_after {calls : List Call} (hword : Text.trim word ≠ [])
    (h : word ∈ told calls) : Text.titleCase (Text.trim word) ∈ (after calls).forms :=
  ((knows_after calls).mem _).2 ⟨word, h, hword, .inr rfl⟩

/-- A dictionary that was told nothing but a word accepts something new with the title-case form of
the word if and only if there is a slip. -/
theorem contains_insert_insert_iff (hword : Text.trim word ≠ []) :
    (∀ other, (after [.insert word, .insert (Text.titleCase (Text.trim word))]).contains other =
      (after [.insert word]).contains other) ↔ ¬Text.Slip false (Text.trim word) := by
  have htitle : Text.titleCase (Text.trim word) ∈ (after [.insert word]).forms :=
    titleCase_mem_forms_after hword (List.mem_singleton.2 rfl)
  have hafter : after [.insert word, .insert (Text.titleCase (Text.trim word))] =
      (after [.insert word]).insert (Text.titleCase (Text.trim word)) := rfl
  rw [hafter]
  constructor
  · intro hsame hslip
    have hnew := hsame (Text.titleCase (Text.titleCase (Text.trim word)))
    rw [Bool.eq_iff_iff, contains_iff, contains_iff,
      (Text.isTrimmed_trim word).titleCase.titleCase.trim_eq] at hnew
    obtain ⟨other, hother, -, hform⟩ := ((knows_after [.insert word]).mem _).1
      (hnew.1 ((mem_forms_insert_titleCase hword htitle).2 (.inr rfl)))
    obtain rfl : other = word := by simpa [told, Call.words] using hother
    rcases hform with hform | hform
    · -- this form is longer than the word
      have hlonger : (Text.trim other).length < (Text.titleCase (Text.trim other)).length :=
        hslip.length_lt
      have hlength : (Text.titleCase (Text.trim other)).length ≤
          (Text.titleCase (Text.titleCase (Text.trim other))).length :=
        Text.length_le_length_titleCaseFrom false _
      rw [hform] at hlength
      exact absurd hlonger (Nat.not_lt.2 hlength)
    · exact Text.stands_titleCaseFrom_iff.1 hform hslip
  · intro hslip other
    rw [insert_titleCase_eq_self htitle hslip]

end

end Dictionary

/-! ### Title case as a normal form -/

/-- What becomes of a word in title case, and in the next rounds. -/
structure Text.SettlesInTitle (word : Text) : Prop where
  /-- Title case leaves a word as it is if every run of letters begins with a capital and goes on
  with small letters. -/
  fixed : Text.titleCase word = word ↔ Text.IsTitled word
  /-- The title case of a word is such a word unless there is a slip, -/
  titled : Text.IsTitled (Text.titleCase word) ↔ ¬Text.Slip false word
  /-- and then only does title case leave it as it is. -/
  again : Text.titleCase (Text.titleCase word) = Text.titleCase word ↔ ¬Text.Slip false word
  /-- There is no slip in a word without wide letters. -/
  narrow : (∀ c ∈ word, Text.isWide c = false) → ¬Text.Slip false word
  /-- A slip makes the word longer, and leaves fewer wide letters. -/
  longer : Text.Slip false word → word.length < (Text.titleCase word).length ∧
    (Text.titleCase word).countP Text.isWide < word.countP Text.isWide
  /-- After one round more than the word has wide letters nothing changes any more. -/
  eventually : ∀ rounds, word.countP Text.isWide < rounds →
    Text.titleCase (Text.titleCase^[rounds] word) = Text.titleCase^[rounds] word

theorem Text.settlesInTitle (word : Text) : Text.SettlesInTitle word where
  fixed := stands_iff_isTitled
  titled := stands_iff_isTitled.symm.trans stands_titleCaseFrom_iff
  again := stands_titleCaseFrom_iff
  narrow := not_slip_of_forall
  longer hslip := ⟨hslip.length_lt, (grows_titleCaseFrom false word).countP_lt hslip.length_lt⟩
  eventually _ hrounds := stands_iterate_titleCase hrounds

namespace Dictionary

/-- What comes of telling a dictionary the title-case forms of words that it was told. -/
structure RetellsTitles (calls : List Call) : Prop where
  /-- The forms are accepted. -/
  accepted : ∀ word ∈ told calls, Text.trim word ≠ [] →
    (after calls).contains (Text.titleCase (Text.trim word)) = true
  /-- One of them, told as a word, adds its own title case and nothing else. -/
  adds : ∀ word ∈ told calls, Text.trim word ≠ [] → ∀ other,
    (after (calls ++ [.insert (Text.titleCase (Text.trim word))])).contains other = true ↔
      (after calls).contains other = true ∨
        Text.trim other = Text.titleCase (Text.titleCase (Text.trim word))
  /-- It adds nothing if there is no slip in the word. -/
  kept : ∀ word ∈ told calls, Text.trim word ≠ [] → ¬Text.Slip false (Text.trim word) →
    after (calls ++ [.insert (Text.titleCase (Text.trim word))]) = after calls
  /-- A dictionary that was told nothing but the word accepts something new with its title-case form
  if and only if there is a slip. -/
  alone : ∀ word, Text.trim word ≠ [] →
    ((∀ other, (after [.insert word, .insert (Text.titleCase (Text.trim word))]).contains other =
      (after [.insert word]).contains other) ↔ ¬Text.Slip false (Text.trim word))

theorem retellsTitles (calls : List Call) : RetellsTitles calls where
  accepted word hmem hword := by
    rw [contains_iff, trim_titleCase_trim]
    exact titleCase_mem_forms_after hword hmem
  adds word hmem hword other := by
    rw [contains_iff, contains_iff, after_append_insert]
    exact mem_forms_insert_titleCase hword (titleCase_mem_forms_after hword hmem)
  kept word hmem hword hslip := by
    rw [after_append_insert]
    exact insert_titleCase_eq_self (titleCase_mem_forms_after hword hmem) hslip
  alone _ hword := contains_insert_insert_iff hword

/-- **Title case is a normal form unless there is a slip**, and a dictionary that is told a
title-case form as a word accepts something new only then. -/
theorem titleCase_retold (word : Text) (calls : List Call) :
    Text.SettlesInTitle word ∧ RetellsTitles calls :=
  ⟨Text.settlesInTitle word, retellsTitles calls⟩

end Dictionary

/-- The sharp s becomes two capitals, the second of which becomes small in the next round. -/
theorem Text.not_forall_titleCase_titleCase :
    ¬∀ word : Text, Text.titleCase (Text.titleCase word) = Text.titleCase word := by
  intro h
  exact absurd (h "ß") (by decide +kernel)

end CatalogLint
