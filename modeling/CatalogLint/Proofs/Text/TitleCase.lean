/-
**Title case of title case.**

A word in title case should stay as it is: every run of letters begins with a capital and goes on
with small letters.  It does, but for the letters with a form of several characters.  Where such a
capital form is several letters, they are capitals side by side.  And where a form ends in a
combining mark, the mark ends the run of the letter, so that the letter behind it, which has been
made small, begins a run.

Main definitions:

* `CatalogLint.Text.Stands` — title case changes nothing in a text;
* `CatalogLint.Text.IsTitled` — every run of letters begins with a capital and goes on with small
  letters;
* `CatalogLint.Text.LongTablesFit` — what the tables say on the forms of several characters;
* `CatalogLint.Text.Slip` — a place where title case leads to a text that is not so.

Main results:

* `CatalogLint.Text.stands_iff_isTitled` — the texts that title case leaves as they are;
* `CatalogLint.Text.stands_formAt_iff`, `CatalogLint.Text.endsInLetter_formAt` — whether the form of
  a character is as it should be, and whether it ends in a letter;
* `CatalogLint.Text.stands_titleCaseFrom_iff` — **title case of title case changes nothing, unless
  there is a slip**.
-/

import CatalogLint.Proofs.Text.CaseForm

set_option autoImplicit false

namespace CatalogLint.Text

/-! ### Title case, character by character -/

/-- The form that a character has in title case: the small one right behind a letter, and the
capital one elsewhere. -/
def formAt (afterLetter : Bool) (c : Char) : Text :=
  if afterLetter then lowerChar c else upperChar c

/-- Whether a letter stands right behind the text, given whether one stands right before it. -/
def endsInLetter (afterLetter : Bool) (text : Text) : Bool :=
  text.foldl (fun _ c => isAlphabetic c) afterLetter

/-- Title case changes nothing in the text, given whether a letter stands right before it. -/
def Stands (afterLetter : Bool) (text : Text) : Prop := titleCaseFrom afterLetter text = text

section
variable {afterLetter : Bool} {c d : Char} {front rest text word : Text}

theorem titleCaseFrom_cons : titleCaseFrom afterLetter (c :: text) =
    formAt afterLetter c ++ titleCaseFrom (isAlphabetic c) text := rfl

theorem titleCaseFrom_append : titleCaseFrom afterLetter (front ++ rest) =
    titleCaseFrom afterLetter front ++ titleCaseFrom (endsInLetter afterLetter front) rest := by
  induction front generalizing afterLetter with
  | nil => rfl
  | cons c front ih =>
      rw [List.cons_append, titleCaseFrom_cons, ih, titleCaseFrom_cons, List.append_assoc]
      rfl

/-- Whether the form that the character has in title case is several characters. -/
def spreads (afterLetter : Bool) (c : Char) : Bool :=
  if afterLetter then c == '\u0130' else isLong c

theorem exists_formAt (h : spreads afterLetter c = false) : ∃ d, formAt afterLetter c = [d] ∧
    formAt afterLetter d = [d] ∧ isAlphabetic d = isAlphabetic c := by
  cases afterLetter with
  | true => exact exists_lowerChar (by simpa [spreads] using h)
  | false => exact exists_upperChar h

theorem two_le_length_formAt (h : spreads afterLetter c = true) :
    2 ≤ (formAt afterLetter c).length := by
  cases afterLetter with
  | true =>
      obtain rfl : c = '\u0130' := by simpa [spreads] using h
      rw [formAt, if_pos rfl, lowerChar_dotted]
      exact Nat.le_refl 2
  | false => exact two_le_length_upperChar h

theorem spreads_eq_false_of_formAt (h : formAt afterLetter c = [d]) :
    spreads afterLetter c = false := by
  refine Bool.eq_false_iff.2 fun hspreads => ?_
  have hlength := two_le_length_formAt hspreads
  rw [h] at hlength
  exact Nat.not_succ_le_self 1 hlength

/-- What is no letter stays as it is. -/
theorem formAt_of_not_letter (h : isAlphabetic c = false) : formAt afterLetter c = [c] := by
  cases afterLetter with
  | true => exact (forms_of_not_letter h).1
  | false => exact (forms_of_not_letter h).2

theorem isAlphabetic_of_spreads (h : spreads afterLetter c = true) : isAlphabetic c = true := by
  refine eq_true_of_ne_false fun hletter => ?_
  have hsingle : spreads afterLetter c = false :=
    spreads_eq_false_of_formAt (formAt_of_not_letter hletter)
  exact Bool.false_ne_true (hsingle.symm.trans h)

/-- No character disappears. -/
theorem length_formAt_pos (afterLetter : Bool) (c : Char) : 0 < (formAt afterLetter c).length := by
  cases hspreads : spreads afterLetter c with
  | true => exact Nat.lt_of_lt_of_le Nat.two_pos (two_le_length_formAt hspreads)
  | false =>
      obtain ⟨d, hd, -⟩ := exists_formAt hspreads
      rw [hd]
      exact Nat.one_pos

theorem length_le_length_titleCaseFrom (afterLetter : Bool) (text : Text) :
    text.length ≤ (titleCaseFrom afterLetter text).length := by
  induction text generalizing afterLetter with
  | nil => exact Nat.le_refl 0
  | cons c text ih =>
      have hform := length_formAt_pos afterLetter c
      have hrest := ih (isAlphabetic c)
      rw [titleCaseFrom_cons, List.length_append, List.length_cons]
      omega

/-- A text stands if and only if its parts do. -/
theorem stands_append_iff : Stands afterLetter (front ++ rest) ↔
    Stands afterLetter front ∧ Stands (endsInLetter afterLetter front) rest := by
  rw [Stands, Stands, Stands, titleCaseFrom_append]
  constructor
  · intro h
    -- neither part can become shorter, so that neither becomes longer
    have hlength := congrArg List.length h
    have hfront := length_le_length_titleCaseFrom afterLetter front
    have hrest := length_le_length_titleCaseFrom (endsInLetter afterLetter front) rest
    rw [List.length_append, List.length_append] at hlength
    exact List.append_inj h (by omega)
  · rintro ⟨hfront, hrest⟩
    rw [hfront, hrest]

theorem stands_singleton_iff : Stands afterLetter [c] ↔ formAt afterLetter c = [c] := by
  rw [Stands, titleCaseFrom_cons, titleCaseFrom, List.append_nil]

theorem stands_cons_iff : Stands afterLetter (c :: text) ↔
    formAt afterLetter c = [c] ∧ Stands (isAlphabetic c) text := by
  rw [← List.singleton_append, stands_append_iff, stands_singleton_iff]
  rfl

/-- Every run of letters begins with a capital and goes on with small letters. -/
structure IsTitled (text : Text) : Prop where
  /-- A letter that begins a run is its own capital form. -/
  first : ∀ front c rest, text = front ++ c :: rest → isAlphabetic c = true →
    endsInLetter false front = false → upperChar c = [c]
  /-- A letter behind another one is its own small form. -/
  later : ∀ front c rest, text = front ++ c :: rest → isAlphabetic c = true →
    endsInLetter false front = true → lowerChar c = [c]

theorem stands_iff_forall : Stands afterLetter text ↔ ∀ front c rest, text = front ++ c :: rest →
    formAt (endsInLetter afterLetter front) c = [c] := by
  constructor
  · rintro h front c rest rfl
    exact (stands_cons_iff.1 (stands_append_iff.1 h).2).1
  · intro h
    induction text generalizing afterLetter with
    | nil => rfl
    | cons c text ih =>
        refine stands_cons_iff.2 ⟨h [] c text rfl, ih fun front d rest hparts => ?_⟩
        exact h (c :: front) d rest (by rw [hparts, List.cons_append])

/-- **The texts that title case leaves as they are.** -/
theorem stands_iff_isTitled : Stands false text ↔ IsTitled text := by
  rw [stands_iff_forall]
  constructor
  · intro h
    refine ⟨fun front c rest hparts _ hfront => ?_, fun front c rest hparts _ hfront => ?_⟩
    · simpa [formAt, hfront] using h front c rest hparts
    · simpa [formAt, hfront] using h front c rest hparts
  · intro h front c rest hparts
    cases hletter : isAlphabetic c with
    | false => exact formAt_of_not_letter hletter
    | true =>
        cases hfront : endsInLetter false front with
        | false => exact h.first front c rest hparts hletter hfront
        | true => exact h.later front c rest hparts hletter hfront

end

/-! ### The tables of long forms -/

/-- The letters whose capital form has a capital right behind a letter: among others the sharp s,
the Greek letters with an iota below, and the ligatures. -/
def clusterRanges : RangeTable :=
  [(0xDF, 0xDF), (0x149, 0x149), (0x587, 0x587), (0x1F80, 0x1FAF), (0x1FB2, 0x1FB4),
   (0x1FBC, 0x1FBC), (0x1FC2, 0x1FC4), (0x1FCC, 0x1FCC), (0x1FF2, 0x1FF4), (0x1FFC, 0x1FFC),
   (0xFB00, 0xFB06), (0xFB13, 0xFB17)]

/-- The letters whose capital form ends in a combining mark. -/
def accentedRanges : RangeTable :=
  [(0x1F0, 0x1F0), (0x390, 0x390), (0x3B0, 0x3B0), (0x1E96, 0x1E99), (0x1F50, 0x1F50),
   (0x1F52, 0x1F52), (0x1F54, 0x1F54), (0x1F56, 0x1F56), (0x1FB6, 0x1FB6), (0x1FC6, 0x1FC6),
   (0x1FD2, 0x1FD3), (0x1FD6, 0x1FD7), (0x1FE2, 0x1FE4), (0x1FE6, 0x1FE7), (0x1FF6, 0x1FF6)]

/-- Whether title case changes nothing in the text with these numbers. -/
def numbersStand : Bool → List Nat → Bool
  | _, [] => true
  | afterLetter, n :: numbers =>
    !(if afterLetter then lowered else raised).testBit n &&
      numbersStand (alphabeticRanges.bits.testBit n) numbers

/-- What the tables say on the forms of several characters. -/
@[mk_iff]
structure LongTablesFit : Prop where
  /-- The numbers in long capital forms are those of characters. -/
  scalars : ∀ entry ∈ longUppers, (entry.2.map Char.ofNat).map Char.toNat = entry.2
  /-- Title case leaves a long capital form as it is, unless it is a cluster. -/
  clusters : ∀ entry ∈ longUppers,
    numbersStand false entry.2 = !clusterRanges.includesNat entry.1
  /-- It ends in a letter, unless it ends in a mark. -/
  marks : ∀ entry ∈ longUppers,
    entry.2.foldl (fun _ n => alphabeticRanges.bits.testBit n) false =
      !accentedRanges.includesNat entry.1
  /-- The clusters are long capital forms, -/
  long_clusters :
    clusterRanges.bits &&& bitsOf (longUppers.map Prod.fst) = clusterRanges.bits
  /-- and so are those that end in a mark. -/
  long_accented :
    accentedRanges.bits &&& bitsOf (longUppers.map Prod.fst) = accentedRanges.bits
  /-- The small form of the capital I with a dot goes on with a run, but cannot begin one. -/
  dotted : numbersStand true [0x69, 0x307] = true ∧ numbersStand false [0x69, 0x307] = false
  /-- The mark at its end is no letter. -/
  dotted_mark : isAlphabetic '\u0307' = false
  /-- The capital I with a dot is its own capital form. -/
  dotted_capital : upperChar '\u0130' = ['\u0130']

theorem longTablesFit : LongTablesFit := longTablesFit_iff.2 (by decide +kernel)

/-! ### Where title case slips -/

/-- Whether the capital form of the letter has a capital right behind a letter. -/
def isCluster (c : Char) : Bool := clusterRanges.includes c

/-- Whether the capital form of the letter ends in a combining mark. -/
def isAccented (c : Char) : Bool := accentedRanges.includes c

/-- Whether the form that the letter has in title case ends in a combining mark.  Of the small forms
only that of the capital I with a dot does. -/
def endsInMark (afterLetter : Bool) (c : Char) : Bool :=
  if afterLetter then c == '\u0130' else isAccented c

/-- A place where the title case of a word is not as it should be, given whether a letter stands
right before the word. -/
inductive Slip (afterLetter : Bool) (word : Text) : Prop where
  /-- A letter that begins a run becomes several letters, and not all but the first are small. -/
  | cluster {front : Text} {c : Char} {rest : Text} (parts : word = front ++ c :: rest)
      (begins : endsInLetter afterLetter front = false) (cluster : isCluster c = true)
  /-- The form of a letter ends in a mark, and behind it stands a character that has two forms. -/
  | cut {front : Text} {c d : Char} {rest : Text} (parts : word = front ++ c :: d :: rest)
      (mark : endsInMark (endsInLetter afterLetter front) c = true)
      (changes : lowerChar d ≠ upperChar d)

/-! ### The forms of several characters -/

section
variable {afterLetter : Bool} {c d : Char} {text : Text}

theorem formAt_eq_self_iff : formAt afterLetter c = [c] ↔
    (if afterLetter then lowered else raised).testBit c.toNat = false := by
  cases afterLetter with
  | true =>
      rw [if_pos rfl]
      exact lowerChar_eq_self_iff
  | false =>
      rw [if_neg Bool.false_ne_true]
      exact upperChar_eq_self_iff

theorem stands_iff_numbersStand :
    Stands afterLetter text ↔ numbersStand afterLetter (text.map Char.toNat) = true := by
  induction text generalizing afterLetter with
  | nil => exact iff_of_true rfl rfl
  | cons c text ih =>
      rw [stands_cons_iff, formAt_eq_self_iff, ih, List.map_cons, numbersStand, Bool.and_eq_true,
        Bool.not_eq_true', RangeTable.testBit_bits]
      rfl

/-- The numbers of the characters in a capital form. -/
theorem map_toNat_upperChar (h : isLong c = true) :
    (c.toNat, (upperChar c).map Char.toNat) ∈ longUppers := by
  obtain ⟨letters, hletters, hupper⟩ := exists_mem_longUppers h
  rw [hupper, longTablesFit.scalars _ hletters]
  exact hletters

/-- The numbers of the characters in forms of several characters. -/
def spreadNumbers : List Nat := [0x69, 0x307] ++ longUppers.flatMap Prod.snd

theorem toNat_mem_spreadNumbers (h : spreads afterLetter c = true)
    (hd : d ∈ formAt afterLetter c) : d.toNat ∈ spreadNumbers := by
  cases afterLetter with
  | true =>
      obtain rfl : c = '\u0130' := by simpa [spreads] using h
      rw [formAt, if_pos rfl, lowerChar_dotted] at hd
      exact List.mem_append_left _ (List.mem_map_of_mem hd)
  | false =>
      refine List.mem_append_right _ (List.mem_flatMap.2 ⟨_, map_toNat_upperChar h, ?_⟩)
      exact List.mem_map_of_mem hd

/-- A table of letters with long capital forms has no others. -/
theorem includes_eq_false_of_isLong_eq_false {table : RangeTable}
    (htable : table.bits &&& bitsOf (longUppers.map Prod.fst) = table.bits)
    (h : isLong c = false) : table.includes c = false := by
  refine Bool.eq_false_iff.2 fun hc => ?_
  have hlong := testBit_of_land_eq htable ((RangeTable.testBit_bits table c.toNat).trans hc)
  rw [testBit_bitsOf, ← isLong_iff, h] at hlong
  exact Bool.false_ne_true hlong

theorem isCluster_eq_false (h : isLong c = false) : isCluster c = false :=
  includes_eq_false_of_isLong_eq_false longTablesFit.long_clusters h

theorem isAccented_eq_false (h : isLong c = false) : isAccented c = false :=
  includes_eq_false_of_isLong_eq_false longTablesFit.long_accented h

theorem spreads_of_isCluster (h : isCluster c = true) : spreads false c = true :=
  eq_true_of_ne_false fun hlong => Bool.false_ne_true ((isCluster_eq_false hlong).symm.trans h)

theorem spreads_of_endsInMark (h : endsInMark afterLetter c = true) :
    spreads afterLetter c = true := by
  cases afterLetter with
  | true => exact h
  | false =>
      exact eq_true_of_ne_false fun hlong =>
        Bool.false_ne_true ((isAccented_eq_false hlong).symm.trans h)

theorem stands_upperChar_iff : Stands false (upperChar c) ↔ isCluster c = false := by
  cases hlong : isLong c with
  | true =>
      rw [stands_iff_numbersStand, longTablesFit.clusters _ (map_toNat_upperChar hlong),
        Bool.not_eq_true']
      rfl
  | false =>
      obtain ⟨d, hupper, hd, -⟩ := exists_upperChar hlong
      rw [hupper]
      exact iff_of_true (stands_singleton_iff.2 hd) (isCluster_eq_false hlong)

theorem endsInLetter_upperChar :
    endsInLetter false (upperChar c) = (isAlphabetic c && !isAccented c) := by
  cases hlong : isLong c with
  | true =>
      have hends := longTablesFit.marks _ (map_toNat_upperChar hlong)
      have hletter : isAlphabetic c = true :=
        includesNat_of_land_eq formTablesFit.raised_letters (testBit_raised.2 (.inl hlong))
      simp only [List.foldl_map, RangeTable.testBit_bits] at hends
      rw [hletter, Bool.true_and]
      exact hends
  | false =>
      obtain ⟨d, hupper, -, hletter⟩ := exists_upperChar hlong
      rw [hupper, isAccented_eq_false hlong, Bool.not_false, Bool.and_true, ← hletter]
      rfl

theorem stands_lowerChar : Stands true (lowerChar c) := by
  by_cases hdotted : c = '\u0130'
  · rw [hdotted, lowerChar_dotted, stands_iff_numbersStand]
    exact longTablesFit.dotted.1
  · obtain ⟨d, hlower, hd, -⟩ := exists_lowerChar hdotted
    rw [hlower]
    exact stands_singleton_iff.2 hd

/-- A small form can begin a run if the character has no other form. -/
theorem stands_false_lowerChar_iff : Stands false (lowerChar c) ↔ lowerChar c = upperChar c := by
  by_cases hdotted : c = '\u0130'
  · rw [hdotted, lowerChar_dotted, stands_iff_numbersStand, longTablesFit.dotted_capital]
    exact iff_of_false (Bool.eq_false_iff.1 longTablesFit.dotted.2) (by decide)
  · obtain ⟨d, hlower, -⟩ := exists_lowerChar hdotted
    rw [hlower, stands_singleton_iff]
    constructor
    · intro hd
      rw [eq_of_lowerChar_of_upperChar hlower hd]
      exact hd.symm
    · intro hsame
      have hlong := isLong_eq_false_of_upperChar hsame.symm
      obtain ⟨e, hupper, he, -⟩ := exists_upperChar hlong
      obtain rfl := List.singleton_inj.1 (hsame.trans hupper)
      exact he

theorem endsInLetter_lowerChar :
    endsInLetter afterLetter (lowerChar c) = (isAlphabetic c && !(c == '\u0130')) := by
  by_cases hdotted : c = '\u0130'
  · rw [hdotted, lowerChar_dotted, beq_self_eq_true, Bool.not_true, Bool.and_false]
    exact longTablesFit.dotted_mark
  · obtain ⟨d, hlower, -, hletter⟩ := exists_lowerChar hdotted
    rw [hlower, beq_false_of_ne hdotted, Bool.not_false, Bool.and_true, ← hletter]
    rfl

theorem endsInLetter_formAt : endsInLetter afterLetter (formAt afterLetter c) =
    (isAlphabetic c && !endsInMark afterLetter c) := by
  cases afterLetter with
  | true => exact endsInLetter_lowerChar
  | false => exact endsInLetter_upperChar

theorem stands_formAt_iff : Stands afterLetter (formAt afterLetter c) ↔
    ¬(afterLetter = false ∧ isCluster c = true) := by
  cases afterLetter with
  | true => simp [formAt, stands_lowerChar]
  | false => simp [formAt, stands_upperChar_iff]

end

/-! ### Title case of title case -/

section
variable {afterLetter : Bool} {c : Char} {text word : Text}

theorem slip_cons_iff : Slip afterLetter (c :: word) ↔
    (afterLetter = false ∧ isCluster c = true) ∨
    (endsInMark afterLetter c = true ∧ ∃ d ∈ word.head?, lowerChar d ≠ upperChar d) ∨
    Slip (isAlphabetic c) word := by
  constructor
  · -- the slip is at the first character, or behind it
    rintro (⟨parts, begins, cluster⟩ | ⟨parts, mark, changes⟩)
    · rename_i front _ _
      cases front with
      | nil =>
          cases parts
          exact .inl ⟨begins, cluster⟩
      | cons _ front =>
          cases parts
          exact .inr (.inr (.cluster rfl begins cluster))
    · rename_i front _ _ _
      cases front with
      | nil =>
          cases parts
          exact .inr (.inl ⟨mark, _, rfl, changes⟩)
      | cons _ front =>
          cases parts
          exact .inr (.inr (.cut rfl mark changes))
  · rintro (⟨begins, cluster⟩ | ⟨mark, d, hd, changes⟩ | hrest)
    · exact .cluster (List.nil_append _).symm begins cluster
    · obtain ⟨rest, rfl⟩ := List.head?_eq_some_iff.1 hd
      exact .cut (List.nil_append _).symm mark changes
    · rcases hrest with ⟨rfl, begins, cluster⟩ | ⟨rfl, mark, changes⟩
      · exact .cluster (List.cons_append).symm begins cluster
      · exact .cut (List.cons_append).symm mark changes

/-- A run that a mark has ended goes on as it should if the next character has one form only. -/
theorem stands_false_titleCaseFrom_true_iff : Stands false (titleCaseFrom true word) ↔
    (∀ d ∈ word.head?, lowerChar d = upperChar d) ∧ Stands true (titleCaseFrom true word) := by
  cases word with
  | nil => simp [titleCaseFrom, Stands]
  | cons d word =>
      -- the form of `d` is the same in both cases, and so is what it leads to
      have hends : ∀ afterLetter, endsInLetter afterLetter (lowerChar d) =
          (isAlphabetic d && !(d == '\u0130')) := fun _ => endsInLetter_lowerChar
      have hform : formAt true d = lowerChar d := rfl
      rw [titleCaseFrom_cons, hform, stands_append_iff, stands_append_iff, hends, hends,
        stands_false_lowerChar_iff]
      simp [stands_lowerChar]

/-- What one character does to the title case of title case. -/
theorem stands_titleCaseFrom_cons_iff :
    Stands afterLetter (titleCaseFrom afterLetter (c :: word)) ↔
      ¬(afterLetter = false ∧ isCluster c = true) ∧
      ¬(endsInMark afterLetter c = true ∧ ∃ d ∈ word.head?, lowerChar d ≠ upperChar d) ∧
      Stands (isAlphabetic c) (titleCaseFrom (isAlphabetic c) word) := by
  rw [titleCaseFrom_cons, stands_append_iff, stands_formAt_iff, endsInLetter_formAt]
  cases hmark : endsInMark afterLetter c with
  | false => simp
  | true =>
      have hletter : isAlphabetic c = true := isAlphabetic_of_spreads (spreads_of_endsInMark hmark)
      rw [hletter, Bool.not_true, Bool.and_false, stands_false_titleCaseFrom_true_iff]
      simp

/-- **Title case of title case changes nothing, unless there is a slip.** -/
theorem stands_titleCaseFrom_iff :
    Stands afterLetter (titleCaseFrom afterLetter word) ↔ ¬Slip afterLetter word := by
  induction word generalizing afterLetter with
  | nil =>
      refine iff_of_true rfl ?_
      rintro (⟨parts, -⟩ | ⟨parts, -⟩)
      all_goals simp at parts
  | cons c word ih => rw [stands_titleCaseFrom_cons_iff, slip_cons_iff, ih, not_or, not_or]

end

end CatalogLint.Text
