/-
**Patterns of two characters.**

A pattern that asks for two characters in a row is found from the left and without overlap, so a
match takes its second character away from the pair that begins there.  Of several pairs in a row
the first one is found, the second one is passed over, the third one is found again, and so on.
Whether a pair is found depends on nothing but the number of pairs directly before it.

Main definitions:

* `CatalogLint.Text.pair` — the pattern of two characters in a row;
* `CatalogLint.Text.isPair`, `CatalogLint.Text.pairs` — the places where such a pair begins;
* `CatalogLint.Text.runBefore` — the number of pairs in a row that end where a place begins;
* `CatalogLint.Text.isPassedOver`, `CatalogLint.Text.passedOver` — the pairs that are not found.

Main results:

* `CatalogLint.Text.occurrences_pair` — **a pair is found if and only if an even number of pairs
  comes directly before it**;
* `CatalogLint.Text.length_foundPairs_add` — every pair is found or passed over;
* `CatalogLint.Text.exists_pairs_of_isPassedOver`, `CatalogLint.Text.passedOver_eq_nil_of_apart` — a
  pair that is passed over shares a character with the one before it;
* `CatalogLint.Text.foundPairs_eq_nil_iff` — no pair is found only where there is none.
-/

import CatalogLint.Text.Occurrence
import Mathlib.Data.List.Basic

set_option autoImplicit false

namespace CatalogLint.Text

/-! ### Pairs -/

/-- The pattern of two characters in a row. -/
def pair (p : Char → Char → Bool) : Recogniser
  | c :: d :: _ => if p c d then some 2 else none
  | _ => none

/-- A pair begins at the place. -/
def isPair (p : Char → Char → Bool) (text : Text) (index : Nat) : Bool :=
  text[index]?.any fun c => text[index + 1]?.any fun d => p c d

/-- The number of pairs in a row directly before the place: the last of them begins one character
before it, and each of the others one character before the next. -/
def runBefore (p : Char → Char → Bool) (text : Text) : Nat → Nat
  | 0 => 0
  | index + 1 => if isPair p text index then runBefore p text index + 1 else 0

/-- A pair begins at the place and is found, for an even number of pairs is directly before it. -/
def isFound (p : Char → Char → Bool) (text : Text) (index : Nat) : Bool :=
  isPair p text index && runBefore p text index % 2 == 0

/-- A pair begins at the place and is passed over, for an odd number of pairs is directly before
it. -/
def isPassedOver (p : Char → Char → Bool) (text : Text) (index : Nat) : Bool :=
  isPair p text index && runBefore p text index % 2 == 1

/-- The places where a pair begins. -/
def pairs (p : Char → Char → Bool) (text : Text) : List Nat :=
  (List.range text.length).filter (isPair p text)

def foundPairs (p : Char → Char → Bool) (text : Text) : List Nat :=
  (List.range text.length).filter (isFound p text)

def passedOver (p : Char → Char → Bool) (text : Text) : List Nat :=
  (List.range text.length).filter (isPassedOver p text)

/-- The two characters at the place, with the text around them. -/
def Occurrence.ofPair (text : Text) (index : Nat) : Occurrence :=
  ⟨text.take index, (text.drop index).take 2, text.drop (index + 2)⟩

section
variable {p : Char → Char → Bool} {text : Text} {index : Nat}

theorem isPair_iff :
    isPair p text index = true ↔
      ∃ c d, text[index]? = some c ∧ text[index + 1]? = some d ∧ p c d = true := by
  simp only [isPair, Option.any_eq_true]
  constructor
  · rintro ⟨c, hc, d, hd, h⟩
    exact ⟨c, d, hc, hd, h⟩
  · rintro ⟨c, d, hc, hd, h⟩
    exact ⟨c, hc, d, hd, h⟩

theorem lt_length_of_isPair (h : isPair p text index = true) : index < text.length := by
  obtain ⟨c, d, hc, -⟩ := isPair_iff.1 h
  exact (List.getElem?_eq_some_iff.1 hc).1

theorem isFound_iff :
    isFound p text index = true ↔
      isPair p text index = true ∧ isPassedOver p text index = false := by
  rw [isFound, isPassedOver]
  cases isPair p text index with
  | false => simp
  | true => rcases Nat.mod_two_eq_zero_or_one (runBefore p text index) with h | h <;> simp [h]

theorem mem_pairs_iff : index ∈ pairs p text ↔ isPair p text index = true := by
  rw [pairs, List.mem_filter, List.mem_range, and_iff_right_iff_imp]
  exact lt_length_of_isPair

theorem mem_foundPairs_iff : index ∈ foundPairs p text ↔ isFound p text index = true := by
  rw [foundPairs, List.mem_filter, List.mem_range, and_iff_right_iff_imp]
  exact fun h => lt_length_of_isPair (isFound_iff.1 h).1

theorem nodup_pairs (p : Char → Char → Bool) (text : Text) : (pairs p text).Nodup :=
  List.nodup_range.filter _

theorem nodup_foundPairs (p : Char → Char → Bool) (text : Text) : (foundPairs p text).Nodup :=
  List.nodup_range.filter _

/-- **Every pair is found or passed over.** -/
theorem length_foundPairs_add (p : Char → Char → Bool) (text : Text) :
    (foundPairs p text).length + (passedOver p text).length = (pairs p text).length := by
  have hfound : foundPairs p text =
      (pairs p text).filter fun index => runBefore p text index % 2 == 0 := by
    rw [pairs, List.filter_filter]
    exact List.filter_congr fun index _ => Bool.and_comm _ _
  have hpassed : passedOver p text =
      (pairs p text).filter fun index => !(runBefore p text index % 2 == 0) := by
    rw [pairs, List.filter_filter]
    refine List.filter_congr fun index _ => ?_
    rw [isPassedOver, Bool.and_comm]
    rcases Nat.mod_two_eq_zero_or_one (runBefore p text index) with h | h <;> rw [h] <;> rfl
  rw [hfound, hpassed, ← List.length_eq_length_filter_add]

/-- A pair that is passed over shares its first character with a pair before it. -/
theorem exists_pairs_of_isPassedOver (h : isPassedOver p text index = true) :
    ∃ start, index = start + 1 ∧ isPair p text start = true ∧ isPair p text (start + 1) = true := by
  rw [isPassedOver, Bool.and_eq_true, beq_iff_eq] at h
  obtain ⟨hpair, hrun⟩ := h
  cases index with
  | zero => cases hrun
  | succ start =>
      refine ⟨start, rfl, ?_, hpair⟩
      by_contra hnot
      rw [runBefore, if_neg hnot] at hrun
      cases hrun

/-- Three characters at places in a row stand in the text. -/
theorem infix_of_getElem? {c d e : Char} (hc : text[index]? = some c)
    (hd : text[index + 1]? = some d) (he : text[index + 2]? = some e) : [c, d, e] <:+: text := by
  obtain ⟨hlt, hfirst⟩ := List.getElem?_eq_some_iff.1 hc
  obtain ⟨hlt', hsecond⟩ := List.getElem?_eq_some_iff.1 hd
  obtain ⟨hlt'', hthird⟩ := List.getElem?_eq_some_iff.1 he
  have hprefix : [c, d, e] <+: text.drop index := by
    rw [List.drop_eq_getElem_cons hlt, List.drop_eq_getElem_cons hlt',
      List.drop_eq_getElem_cons hlt'', hfirst, hsecond, hthird]
    exact List.prefix_append [c, d, e] _
  exact hprefix.isInfix.trans (List.drop_suffix index text).isInfix

/-- Where no two pairs share a character, none is passed over. -/
theorem passedOver_eq_nil_of_apart
    (h : ∀ c d e, [c, d, e] <:+: text → p c d = true → p d e = false) :
    passedOver p text = [] := by
  refine List.filter_eq_nil_iff.2 fun index _ hpassed => ?_
  obtain ⟨start, rfl, hbefore, hhere⟩ := exists_pairs_of_isPassedOver hpassed
  obtain ⟨c, d, hc, hd, hfirst⟩ := isPair_iff.1 hbefore
  obtain ⟨d', e, hd', he, hsecond⟩ := isPair_iff.1 hhere
  obtain rfl : d = d' := Option.some.inj (hd.symm.trans hd')
  rw [h c d e (infix_of_getElem? hc hd he) hfirst] at hsecond
  cases hsecond

/-! ### The pairs that are found -/

theorem isPair_append_cons {reversed : Text} {c : Char} :
    isPair p (reversed.reverse ++ c :: text) reversed.length = (pair p (c :: text)).isSome := by
  have hhere : (reversed.reverse ++ c :: text)[reversed.length]? = some c := by
    rw [← List.length_reverse, List.getElem?_append_right (Nat.le_refl _), Nat.sub_self]
    rfl
  have hnext : (reversed.reverse ++ c :: text)[reversed.length + 1]? = text.head? := by
    rw [← List.length_reverse, List.getElem?_append_right (Nat.le_add_right _ _),
      Nat.add_sub_cancel_left, List.getElem?_cons_succ, List.head?_eq_getElem?]
  rw [isPair, hhere, hnext]
  cases text with
  | nil => rfl
  | cons d text => cases hp : p c d <;> simp [pair, hp]

theorem Occurrence.ofPair_append (reversed text : Text) :
    ofPair (reversed.reverse ++ text) reversed.length =
      ⟨reversed.reverse, text.take 2, text.drop 2⟩ := by
  have hdrop : (reversed.reverse ++ text).drop (reversed.length + 2) = text.drop 2 := by
    rw [← List.drop_drop, List.drop_left' List.length_reverse]
  rw [ofPair, hdrop, List.take_left' List.length_reverse, List.drop_left' List.length_reverse]

theorem pair_eq_some {length : Nat} (h : pair p text = some length) : length = 2 := by
  rw [pair.eq_def] at h
  split at h
  · split at h
    · exact (Option.some.inj h).symm
    · cases h
  · cases h

/-- The search is in the middle of a match if and only if an odd number of pairs is directly behind
it; from there on it finds the pairs with an even number of pairs before them. -/
theorem occurrencesFrom_pair (p : Char → Char → Bool) (reversed text : Text) :
    occurrencesFrom (pair p) reversed
        (runBefore p (reversed.reverse ++ text) reversed.length % 2) text =
      ((List.range' reversed.length text.length).filter
        (isFound p (reversed.reverse ++ text))).map
          (Occurrence.ofPair (reversed.reverse ++ text)) := by
  induction text generalizing reversed with
  | nil => cases runBefore p (reversed.reverse ++ []) reversed.length % 2 <;> rfl
  | cons c text ih =>
      have hsame : (c :: reversed).reverse ++ text = reversed.reverse ++ c :: text := by simp
      have hrest := ih (c :: reversed)
      rw [hsame, List.length_cons, runBefore, isPair_append_cons] at hrest
      rw [List.length_cons, List.range'_succ, List.filter_cons, isFound, isPair_append_cons]
      rcases Nat.mod_two_eq_zero_or_one
        (runBefore p (reversed.reverse ++ c :: text) reversed.length) with heven | hodd
      · rw [heven, occurrencesFrom]
        cases hmatch : pair p (c :: text) with
        | none =>
            rw [hmatch] at hrest
            exact hrest
        | some length =>
            obtain rfl := pair_eq_some hmatch
            have hnext :
                (runBefore p (reversed.reverse ++ c :: text) reversed.length + 1) % 2 = 1 := by
              omega
            rw [hmatch, Option.isSome_some, if_pos rfl, hnext] at hrest
            exact congrArg₂ List.cons (Occurrence.ofPair_append reversed (c :: text)).symm hrest
      · have hnext : (if (pair p (c :: text)).isSome = true then
            runBefore p (reversed.reverse ++ c :: text) reversed.length + 1 else 0) % 2 = 0 := by
          split
          · omega
          · rfl
        rw [hnext] at hrest
        rw [hodd, occurrencesFrom, hrest]
        simp

/-- **A pair is found if and only if an even number of pairs comes directly before it.** -/
theorem occurrences_pair (p : Char → Char → Bool) (text : Text) :
    occurrences (pair p) text = (foundPairs p text).map (Occurrence.ofPair text) := by
  have hstart := occurrencesFrom_pair p [] text
  rwa [List.length_nil, ← List.range_eq_range'] at hstart

/-- The first of several pairs in a row is found. -/
theorem exists_isFound_of_isPair (h : isPair p text index = true) :
    ∃ start, isFound p text start = true := by
  induction index with
  | zero => exact ⟨0, by rw [isFound, h]; rfl⟩
  | succ index ih =>
      by_cases hbefore : isPair p text index = true
      · exact ih hbefore
      · refine ⟨index + 1, ?_⟩
        rw [isFound, h, runBefore, if_neg hbefore]
        rfl

/-- **No pair is found only where there is none.** -/
theorem foundPairs_eq_nil_iff :
    foundPairs p text = [] ↔ ∀ index, isPair p text index = false := by
  rw [List.eq_nil_iff_forall_not_mem]
  simp only [mem_foundPairs_iff, Bool.not_eq_true]
  constructor
  · intro h index
    by_contra hpair
    obtain ⟨start, hstart⟩ := exists_isFound_of_isPair (Bool.not_eq_false _ ▸ hpair)
    rw [h start] at hstart
    cases hstart
  · intro h index
    rw [isFound, h index]
    rfl

end

end CatalogLint.Text
