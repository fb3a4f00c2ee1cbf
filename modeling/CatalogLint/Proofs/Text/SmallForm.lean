/-
**The small form of a part of a text.**

The small form of a text is put together from those of its characters, and all but one of them have
the same small form everywhere.  The exception is the capital sigma, which looks at the nearest
characters on both sides that are not skipped.  So a part of a text need not have the small form
there that it has alone.  What stands around the part can reach two of its sigmas only: the first
one, if everything before it in the part is skipped, and the last one, if everything behind it is.

Main definitions:

* `CatalogLint.Text.isFinalSigma` — a capital sigma that stands here ends a word;
* `CatalogLint.Text.lowerBetween` — the small form of a part between what stands around it;
* `CatalogLint.Text.SigmaShift` — what stands around a part changes the form of one of its sigmas.

Main results:

* `CatalogLint.Text.lower_append_append` — **the small form of a text, part by part**;
* `CatalogLint.Text.lowerBetween_eq_lower_iff` — **a part keeps the small form that it has alone if
  and only if no sigma of it changes its form**;
* `CatalogLint.Text.not_sigmaShift_of_not_mem`, `CatalogLint.Text.not_sigmaShift_of_alone` — this is
  so for a part without sigma, and for a part that no cased letter touches.
-/

import CatalogLint.Text.Case

set_option autoImplicit false

namespace CatalogLint.Text

/-! ### One character -/

/-- A capital sigma between the two texts ends a word: the nearest character before it that is not
skipped is a cased letter, and the nearest one behind it is none.  What precedes it is given in
reverse. -/
def isFinalSigma (reversed after : Text) : Bool := leadsToCased reversed && !leadsToCased after

/-- The small form that a character has between two texts, the first of which is given in
reverse. -/
def lowerAt (reversed : Text) (c : Char) (after : Text) : Text :=
  if c = 'Σ' then if isFinalSigma reversed after then ['ς'] else ['σ'] else lowerChar c

theorem lowerFrom_cons (reversed : Text) (c : Char) (text : Text) :
    lowerFrom reversed (c :: text) = lowerAt reversed c text ++ lowerFrom (c :: reversed) text :=
  rfl

/-- The small forms of a character have the same length everywhere. -/
theorem length_lowerAt (c : Char) (reversed₁ after₁ reversed₂ after₂ : Text) :
    (lowerAt reversed₁ c after₁).length = (lowerAt reversed₂ c after₂).length := by
  unfold lowerAt
  split
  · split <;> split <;> rfl
  · rfl

/-- Only a sigma can have two small forms. -/
theorem lowerAt_eq_iff {c : Char} {reversed₁ after₁ reversed₂ after₂ : Text} :
    lowerAt reversed₁ c after₁ = lowerAt reversed₂ c after₂ ↔
      (c = 'Σ' → isFinalSigma reversed₁ after₁ = isFinalSigma reversed₂ after₂) := by
  by_cases h : c = 'Σ'
  · rw [lowerAt, lowerAt, if_pos h, if_pos h]
    cases isFinalSigma reversed₁ after₁ <;> cases isFinalSigma reversed₂ after₂ <;> simp [h]
  · simp [lowerAt, h]

/-! ### A part of a text -/

/-- The small form of a part of a text between what stands before it, in reverse, and what stands
after it. -/
def lowerBetween (reversed : Text) : (part after : Text) → Text
  | [], _ => []
  | c :: part, after =>
    lowerAt reversed c (part ++ after) ++ lowerBetween (c :: reversed) part after

theorem lowerFrom_append (reversed part after : Text) :
    lowerFrom reversed (part ++ after) =
      lowerBetween reversed part after ++ lowerFrom (part.reverse ++ reversed) after := by
  induction part generalizing reversed with
  | nil => rfl
  | cons c part ih =>
      rw [List.cons_append, lowerFrom_cons, ih, lowerBetween, List.append_assoc, List.reverse_cons,
        List.append_assoc, List.singleton_append]

/-- Alone, a part has its small form between nothing and nothing. -/
theorem lower_eq_lowerBetween (part : Text) : lower part = lowerBetween [] part [] := by
  have h := lowerFrom_append [] part []
  rwa [List.append_nil, lowerFrom, List.append_nil] at h

/-- **The small form of a text, part by part.** -/
theorem lower_append_append (before part after : Text) :
    lower (before ++ part ++ after) = lowerBetween [] before (part ++ after) ++
      lowerBetween before.reverse part after ++ lowerBetween (before ++ part).reverse after [] := by
  have hlast := lowerFrom_append (before ++ part).reverse after []
  rw [List.append_nil, lowerFrom, List.append_nil] at hlast
  rw [lower, List.append_assoc, lowerFrom_append, List.append_nil, lowerFrom_append, ← hlast,
    List.reverse_append, List.append_assoc]

/-- A part has the same small form in two places if and only if each of its sigmas ends a word in
both of them or in neither. -/
theorem lowerBetween_eq_iff {part reversed₁ after₁ reversed₂ after₂ : Text} :
    lowerBetween reversed₁ part after₁ = lowerBetween reversed₂ part after₂ ↔
      ∀ front rest, part = front ++ 'Σ' :: rest →
        isFinalSigma (front.reverse ++ reversed₁) (rest ++ after₁) =
          isFinalSigma (front.reverse ++ reversed₂) (rest ++ after₂) := by
  induction part generalizing reversed₁ reversed₂ with
  | nil => simp [lowerBetween]
  | cons c part ih =>
      have hstep : lowerBetween reversed₁ (c :: part) after₁ =
            lowerBetween reversed₂ (c :: part) after₂ ↔
          lowerAt reversed₁ c (part ++ after₁) = lowerAt reversed₂ c (part ++ after₂) ∧
            lowerBetween (c :: reversed₁) part after₁ = lowerBetween (c :: reversed₂) part after₂ :=
        List.append_eq_append_iff_of_size_eq_left (length_lowerAt c _ _ _ _)
      rw [hstep, lowerAt_eq_iff, ih]
      constructor
      · rintro ⟨hfirst, hlater⟩ front rest hparts
        -- the sigma is the first character, or it is one of the others
        cases front with
        | nil =>
            obtain ⟨rfl, rfl⟩ := List.cons.inj hparts
            exact hfirst rfl
        | cons d front =>
            obtain ⟨rfl, htail⟩ := List.cons.inj hparts
            simpa using hlater front rest htail
      · intro hall
        refine ⟨fun hc => hall [] part (by rw [hc, List.nil_append]), fun front rest hparts => ?_⟩
        simpa using hall (c :: front) rest (by rw [hparts, List.cons_append])

/-! ### What stands around a part -/

/-- What stands around a part of a text changes the form of one of its sigmas. -/
inductive SigmaShift (before part after : Text) : Prop where
  /-- A sigma comes to end a word: all that precedes it in the part is skipped, but what stands
  before the part leads to a cased letter. -/
  | gained {front rest : Text} (parts : part = front ++ 'Σ' :: rest)
      (skipped : ∀ c ∈ front, isCaseIgnorable c = true)
      (precedes : leadsToCased before.reverse = true)
      (ends : leadsToCased (rest ++ after) = false)
  /-- A sigma that ends a word in the part does so no longer: all that follows it in the part is
  skipped, but what stands behind the part leads to a cased letter. -/
  | lost {front rest : Text} (parts : part = front ++ 'Σ' :: rest)
      (skipped : ∀ c ∈ rest, isCaseIgnorable c = true)
      (precedes : leadsToCased front.reverse = true)
      (follows : leadsToCased after = true)

theorem leadsToCased_append_of_skipped {text : Text} (h : ∀ c ∈ text, isCaseIgnorable c = true)
    (after : Text) : leadsToCased (text ++ after) = leadsToCased after := by
  have hnone : text.find? (!isCaseIgnorable ·) = none := by simpa using h
  rw [leadsToCased, List.find?_append, hnone, Option.none_or, leadsToCased]

theorem leadsToCased_of_skipped {text : Text} (h : ∀ c ∈ text, isCaseIgnorable c = true) :
    leadsToCased text = false := by
  have hnil := leadsToCased_append_of_skipped h []
  rwa [List.append_nil] at hnil

theorem leadsToCased_append_of_not_skipped {text : Text}
    (h : ¬∀ c ∈ text, isCaseIgnorable c = true) (after : Text) :
    leadsToCased (text ++ after) = leadsToCased text := by
  cases hfound : text.find? (!isCaseIgnorable ·) with
  | none => exact absurd (by simpa using hfound) h
  | some c => rw [leadsToCased, List.find?_append, hfound, Option.some_or, leadsToCased, hfound]

/-- More text on both sides changes a sigma only if nothing but skipped characters lies between. -/
theorem isFinalSigma_append_eq_iff {reversed rest before after : Text} :
    isFinalSigma (reversed ++ before) (rest ++ after) = isFinalSigma reversed rest ↔
      ((∀ c ∈ reversed, isCaseIgnorable c = true) → leadsToCased before = true →
        leadsToCased (rest ++ after) = true) ∧
      ((∀ c ∈ rest, isCaseIgnorable c = true) → leadsToCased reversed = true →
        leadsToCased after = false) := by
  rw [isFinalSigma, isFinalSigma]
  by_cases hbefore : ∀ c ∈ reversed, isCaseIgnorable c = true
  · rw [leadsToCased_append_of_skipped hbefore, leadsToCased_of_skipped hbefore]
    cases leadsToCased before <;> cases leadsToCased (rest ++ after) <;> simp [eq_true hbefore]
  · rw [leadsToCased_append_of_not_skipped hbefore]
    by_cases hrest : ∀ c ∈ rest, isCaseIgnorable c = true
    · rw [leadsToCased_append_of_skipped hrest, leadsToCased_of_skipped hrest]
      cases leadsToCased reversed <;> cases leadsToCased after <;>
        simp [hbefore, eq_true hrest]
    · rw [leadsToCased_append_of_not_skipped hrest]
      simp only [hbefore, hrest, false_imp_iff, and_self]

/-- **A part keeps the small form that it has alone if and only if no sigma changes its form.** -/
theorem lowerBetween_eq_lower_iff {before part after : Text} :
    lowerBetween before.reverse part after = lower part ↔ ¬SigmaShift before part after := by
  rw [lower_eq_lowerBetween, lowerBetween_eq_iff]
  simp only [List.append_nil, isFinalSigma_append_eq_iff, List.mem_reverse]
  constructor
  · rintro hall (⟨parts, skipped, precedes, ends⟩ | ⟨parts, skipped, precedes, follows⟩)
    · exact Bool.false_ne_true (ends.symm.trans ((hall _ _ parts).1 skipped precedes))
    · exact Bool.false_ne_true (((hall _ _ parts).2 skipped precedes).symm.trans follows)
  · intro hnone front rest parts
    refine ⟨fun skipped precedes => ?_, fun skipped precedes => ?_⟩
    · exact eq_true_of_ne_false fun ends => hnone (.gained parts skipped precedes ends)
    · exact eq_false_of_ne_true fun follows => hnone (.lost parts skipped precedes follows)

/-- A part without sigma has the same small form everywhere. -/
theorem not_sigmaShift_of_not_mem {part : Text} (h : 'Σ' ∉ part) (before after : Text) :
    ¬SigmaShift before part after := by
  rintro (⟨parts, -⟩ | ⟨parts, -⟩)
  all_goals exact h (parts ▸ List.mem_append_right _ List.mem_cons_self)

/-- A part that stands by itself has the small form that it has alone: neither before it nor behind
it is there a cased letter with nothing but skipped characters between. -/
theorem not_sigmaShift_of_alone {before after : Text}
    (hbefore : leadsToCased before.reverse = false) (hafter : leadsToCased after = false)
    (part : Text) : ¬SigmaShift before part after := by
  rintro (⟨-, -, precedes, -⟩ | ⟨-, -, -, follows⟩)
  · exact Bool.false_ne_true (hbefore.symm.trans precedes)
  · exact Bool.false_ne_true (hafter.symm.trans follows)

end CatalogLint.Text
