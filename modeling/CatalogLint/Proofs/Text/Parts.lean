/-
**Replacing in a text that is put together from parts.**

A rule for a kind of markup can match only where its opening mark stands.  If no opening mark begins
in a part of a text, whatever follows the part, then the part comes through a replacement as it is;
if the rule matches a part as a whole, then the part gives way to its image.  In both cases the
replacement goes on behind the part as if nothing had been before it, so that a text can be walked
through part by part.

The other way round, the texts around a part make no difference to what is replaced in it, if they
have none of the characters that the marks of the rule are made of.

Main definitions:

* `CatalogLint.Text.Misses` — no occurrence of a mark begins in a part, whatever follows;
* `CatalogLint.Text.Rule.OpensWith` — a rule matches only where one of some marks stands;
* `CatalogLint.Text.Rule.Within` — a rule that texts without its marks do not disturb.

Main results:

* `CatalogLint.Text.misses_append`, `CatalogLint.Text.misses_of_head_not_mem`,
  `CatalogLint.Text.misses_of_not_infix`, `CatalogLint.Text.misses_of_count_lt` — how to see that a
  mark is missed;
* `CatalogLint.Text.replaceAll_append_of_misses` — **a part without an opening mark stays**;
* `CatalogLint.Text.replaceAll_append_of_match` — **a part that is a match is replaced**;
* `CatalogLint.Text.upTo_append`, `CatalogLint.Text.enclosed_append` — what stands between two marks
  is found;
* `CatalogLint.Text.Rule.Within.replaceAll_append` — **a replacement within a part**;
* `CatalogLint.Text.within_enclosed`, `CatalogLint.Text.within_replacing` — the rules for which it
  is one.
-/

import CatalogLint.Text.Replacement
import Mathlib.Data.List.Infix

set_option autoImplicit false

namespace CatalogLint.Text

/-! ### Marks that are missed -/

/-- No occurrence of the mark begins in the part, although the text goes on with the rest. -/
def Misses (mark part rest : Text) : Prop :=
  ∀ tail, tail ≠ [] → tail <:+ part → ¬mark <+: tail ++ rest

variable {mark part rest : Text}

theorem misses_nil (mark rest : Text) : Misses mark [] rest :=
  fun _ hne hsuffix => absurd (List.suffix_nil.1 hsuffix) hne

theorem misses_cons {c : Char} :
    Misses mark (c :: part) rest ↔ ¬mark <+: c :: (part ++ rest) ∧ Misses mark part rest := by
  constructor
  · intro h
    exact ⟨h (c :: part) (List.cons_ne_nil _ _) (List.suffix_refl _),
      fun tail hne hsuffix => h tail hne (hsuffix.trans (List.suffix_cons c part))⟩
  · rintro ⟨hfirst, hpart⟩ tail hne hsuffix
    rcases List.suffix_cons_iff.1 hsuffix with rfl | hsuffix
    · exact hfirst
    · exact hpart tail hne hsuffix

/-- A mark is missed in two parts if it is missed in each of them. -/
theorem misses_append {first second : Text} :
    Misses mark (first ++ second) rest ↔
      Misses mark first (second ++ rest) ∧ Misses mark second rest := by
  induction first with
  | nil => exact ⟨fun h => ⟨misses_nil _ _, h⟩, fun h => h.2⟩
  | cons c first ih =>
      rw [List.cons_append, misses_cons, misses_cons, ih, List.append_assoc, and_assoc]

/-- A mark is missed where its first character is. -/
theorem misses_of_head_not_mem {c : Char} (hmark : mark.head? = some c) (h : c ∉ part) :
    Misses mark part rest := by
  intro tail hne hsuffix hstart
  obtain ⟨d, tail, rfl⟩ := List.exists_cons_of_ne_nil hne
  obtain ⟨mark, rfl⟩ := List.head?_eq_some_iff.1 hmark
  obtain ⟨rfl, -⟩ := List.cons_prefix_cons.1 hstart
  exact h (hsuffix.subset List.mem_cons_self)

/-- What begins in a part does not reach over a character that the mark does not have. -/
theorem prefix_of_prefix_append (hrest : ∀ c ∈ rest.head?, c ∉ mark) (h : mark <+: part ++ rest) :
    mark <+: part := by
  rcases List.prefix_or_prefix_of_prefix h (List.prefix_append part rest) with h | ⟨reached, rfl⟩
  · exact h
  · cases reached with
    | nil => rw [List.append_nil]
    | cons c reached =>
        obtain ⟨behind, rfl⟩ := (List.prefix_append_right_inj part).1 h
        exact absurd (List.mem_append_right _ List.mem_cons_self) (hrest c rfl)

/-- A mark is missed in a part where it does not occur, if it cannot reach over the next
character. -/
theorem misses_of_not_infix (h : ¬mark <:+: part) (hrest : ∀ c ∈ rest.head?, c ∉ mark) :
    Misses mark part rest := by
  intro tail _ hsuffix hstart
  exact h ((prefix_of_prefix_append hrest hstart).isInfix.trans hsuffix.isInfix)

/-- A mark does not occur where there are too few of one of its characters. -/
theorem misses_of_count_lt (c : Char) (h : part.count c < mark.count c)
    (hrest : ∀ d ∈ rest.head?, d ∉ mark) : Misses mark part rest :=
  misses_of_not_infix
    (fun hoccurs => absurd (List.Sublist.count_le c hoccurs.sublist) (Nat.not_le.2 h)) hrest

/-! ### Replacing part by part -/

/-- The rule matches only where one of the marks stands. -/
def Rule.OpensWith (rule : Rule) (marks : List Text) : Prop :=
  ∀ text, rule text ≠ none → ∃ mark ∈ marks, mark <+: text

theorem opensWith_enclosed (opening closing : Text) (image : Text → Text) :
    (enclosed opening closing image).OpensWith [opening] := by
  intro text h
  obtain ⟨found, hmatch⟩ := Option.ne_none_iff_exists'.1 h
  obtain ⟨rest, hrest, -⟩ := Option.bind_eq_some_iff.1 hmatch
  exact ⟨opening, List.mem_singleton_self _, rest, (dropStart?_eq_some_iff.1 hrest).symm⟩

theorem opensWith_replacing (old image : Text) : (replacing old image).OpensWith [old] := by
  intro text h
  obtain ⟨found, hmatch⟩ := Option.ne_none_iff_exists'.1 h
  obtain ⟨rest, hrest, -⟩ := Option.map_eq_some_iff.1 hmatch
  exact ⟨old, List.mem_singleton_self _, rest, (dropStart?_eq_some_iff.1 hrest).symm⟩

variable {rule : Rule}

/-- A rule does not match where the first character is none of its mark. -/
theorem Rule.OpensWith.eq_none (h : rule.OpensWith [mark]) (hne : mark ≠ []) {text : Text}
    (htext : ∀ c ∈ text.head?, c ∉ mark) : rule text = none := by
  by_contra hmatch
  obtain ⟨_, hmem, hstart⟩ := h text hmatch
  obtain rfl := List.mem_singleton.1 hmem
  obtain ⟨c, mark, rfl⟩ := List.exists_cons_of_ne_nil hne
  obtain ⟨behind, rfl⟩ := hstart
  exact htext c rfl List.mem_cons_self

/-- **A part without an opening mark stays.** -/
theorem replaceAll_append_of_misses {marks : List Text} (hrule : rule.OpensWith marks)
    (h : ∀ mark ∈ marks, Misses mark part rest) :
    replaceAll rule (part ++ rest) = part ++ replaceAll rule rest := by
  induction part with
  | nil => rfl
  | cons c part ih =>
      have hnone : rule (c :: (part ++ rest)) = none := by
        by_contra hmatch
        obtain ⟨mark, hmark, hstart⟩ := hrule _ hmatch
        exact (misses_cons.1 (h mark hmark)).1 hstart
      rw [List.cons_append, List.cons_append, replaceAll, replaceFrom, hnone]
      exact congrArg (c :: ·) (ih fun mark hmark => (misses_cons.1 (h mark hmark)).2)

/-- A part that has none of the characters with which the marks begin stays. -/
theorem replaceAll_append_of_head_not_mem {marks : List Text} (hrule : rule.OpensWith marks)
    (h : ∀ mark ∈ marks, ∃ c, mark.head? = some c ∧ c ∉ part) :
    replaceAll rule (part ++ rest) = part ++ replaceAll rule rest := by
  refine replaceAll_append_of_misses hrule fun mark hmark => ?_
  obtain ⟨c, hhead, hc⟩ := h mark hmark
  exact misses_of_head_not_mem hhead hc

/-- The replacement begins with the image of what the rule matches at the beginning. -/
theorem image_prefix_replaceAll {text image : Text} {length : Nat} (hne : text ≠ [])
    (h : rule text = some (length, image)) : image <+: replaceAll rule text := by
  obtain ⟨c, text, rfl⟩ := List.exists_cons_of_ne_nil hne
  rw [replaceAll, replaceFrom, h]
  exact List.prefix_append _ _

/-- A rule whose marks all hold a character that the text does not hold leaves the text alone. -/
theorem replaceAll_eq_self_of_not_mem {openings : List Text}
    (hrule : rule.OpensWith openings) {c : Char} (hopenings : ∀ opening ∈ openings, c ∈ opening)
    {text : Text} (h : c ∉ text) : replaceAll rule text = text := by
  refine replaceAll_eq_self fun rest hrest => ?_
  by_contra hmatch
  obtain ⟨opening, hopening, hstart⟩ := hrule rest hmatch
  exact h (hrest.subset (hstart.subset (hopenings opening hopening)))

theorem replaceFrom_append (taken rest : Text) :
    replaceFrom rule taken.length (taken ++ rest) = replaceFrom rule 0 rest := by
  induction taken with
  | nil => rfl
  | cons c taken ih => exact ih

/-- **A part that is a match is replaced.** -/
theorem replaceAll_append_of_match {image : Text} (hne : part ≠ [])
    (h : rule (part ++ rest) = some (part.length, image)) :
    replaceAll rule (part ++ rest) = image ++ replaceAll rule rest := by
  obtain ⟨c, part, rfl⟩ := List.exists_cons_of_ne_nil hne
  rw [List.cons_append] at h ⊢
  rw [replaceAll, replaceFrom, h]
  exact congrArg (image ++ ·) (replaceFrom_append part rest)

/-! ### Between two marks -/

/-- The nearest closing mark is found behind a text that does not have its first character. -/
theorem upTo_append {closing inner : Text} {c : Char} (hclosing : closing.head? = some c)
    (hinner : c ∉ inner) (hline : '\n' ∉ inner) (rest : Text) :
    upTo closing (inner ++ closing ++ rest) = some inner := by
  obtain ⟨marks, rfl⟩ := List.head?_eq_some_iff.1 hclosing
  induction inner with
  | nil =>
      have hstart : (c :: marks).isPrefixOf (c :: (marks ++ rest)) = true :=
        List.isPrefixOf_iff_prefix.2 (List.prefix_append (c :: marks) rest)
      rw [List.nil_append, List.cons_append, upTo, if_pos hstart]
  | cons d inner ih =>
      obtain ⟨hd, hinner⟩ := List.ne_and_not_mem_of_not_mem_cons hinner
      obtain ⟨hnewline, hline⟩ := List.ne_and_not_mem_of_not_mem_cons hline
      have hstart : ¬(c :: marks).isPrefixOf (d :: (inner ++ c :: marks ++ rest)) = true := by
        rw [List.isPrefixOf_iff_prefix, List.cons_prefix_cons]
        exact fun h => hd h.1
      rw [List.cons_append, List.cons_append, upTo, if_neg hstart, if_neg (Ne.symm hnewline),
        ih hinner hline]
      rfl

/-- What stands between the marks of a rule is found, and replaced by its image. -/
theorem enclosed_append {opening closing inner : Text} {image : Text → Text} {c : Char}
    (hclosing : closing.head? = some c) (hinner : c ∉ inner) (hline : '\n' ∉ inner)
    (rest : Text) :
    enclosed opening closing image (opening ++ inner ++ closing ++ rest) =
      some ((opening ++ inner ++ closing).length, image inner) := by
  have hopening : dropStart? opening (opening ++ inner ++ closing ++ rest) =
      some (inner ++ closing ++ rest) := by
    rw [dropStart?_eq_some_iff, List.append_assoc, List.append_assoc, List.append_assoc]
  rw [enclosed, hopening, Option.bind_some, upTo_append hclosing hinner hline, Option.map_some,
    List.length_append, List.length_append]

/-! ### Replacing within a part -/

/-- What the rule does in a part does not depend on the texts around it, if these have none of the
marks. -/
structure Rule.Within (rule : Rule) (marks : Text) : Prop where
  /-- A match begins with a mark. -/
  begins : ∀ text, (∀ c ∈ text.head?, c ∉ marks) → rule text = none
  /-- A match does not go on behind the text. -/
  bounded : ∀ text length image, rule text = some (length, image) → length ≤ text.length
  /-- A text without marks that follows makes no difference. -/
  append : ∀ text rest, (∀ c ∈ rest, c ∉ marks) → rule (text ++ rest) = rule text

namespace Rule.Within

variable {marks before text after : Text}

theorem mono {others : Text} (h : rule.Within marks) (hsub : marks ⊆ others) :
    rule.Within others where
  begins := fun text htext => h.begins text fun c hc hmem => htext c hc (hsub hmem)
  bounded := h.bounded
  append := fun text rest hrest => h.append text rest fun c hc hmem => hrest c hc (hsub hmem)

/-- A text without marks stays. -/
theorem replaceAll_eq_self (h : rule.Within marks) (htext : ∀ c ∈ text, c ∉ marks) :
    replaceAll rule text = text :=
  Text.replaceAll_eq_self fun rest hrest =>
    h.begins rest fun c hc => htext c (hrest.subset (List.mem_of_mem_head? hc))

theorem replaceFrom_append (h : rule.Within marks) (hafter : ∀ c ∈ after, c ∉ marks)
    {taken : Nat} (htaken : taken ≤ text.length) :
    replaceFrom rule taken (text ++ after) = replaceFrom rule taken text ++ after := by
  induction text generalizing taken with
  | nil =>
      obtain rfl : taken = 0 := Nat.eq_zero_of_le_zero htaken
      exact h.replaceAll_eq_self hafter
  | cons c text ih =>
      cases taken with
      | succ taken => exact ih (Nat.le_of_succ_le_succ htaken)
      | zero =>
          have hsame : rule (c :: (text ++ after)) = rule (c :: text) :=
            h.append (c :: text) after hafter
          rw [List.cons_append, replaceFrom, replaceFrom, hsame]
          cases hmatch : rule (c :: text) with
          | none => exact congrArg (c :: ·) (ih (Nat.zero_le _))
          | some found =>
              obtain ⟨length, image⟩ := found
              have hlength : length - 1 ≤ text.length :=
                Nat.sub_le_of_le_add (h.bounded _ _ _ hmatch)
              simp only [ih hlength, List.append_assoc]

/-- **A replacement within a part** leaves the texts around it alone. -/
theorem replaceAll_append (h : rule.Within marks) (hbefore : ∀ c ∈ before, c ∉ marks)
    (hafter : ∀ c ∈ after, c ∉ marks) :
    replaceAll rule (before ++ text ++ after) = before ++ replaceAll rule text ++ after := by
  induction before with
  | nil => exact h.replaceFrom_append hafter (Nat.zero_le _)
  | cons c before ih =>
      obtain ⟨hc, hbefore⟩ := List.forall_mem_cons.1 hbefore
      have hnone : rule (c :: (before ++ text ++ after)) = none :=
        h.begins _ fun d hd => Option.some.inj hd ▸ hc
      rw [List.cons_append, List.cons_append, replaceAll, replaceFrom, hnone]
      exact congrArg (c :: ·) (ih hbefore)

end Rule.Within

theorem dropStart?_append {mark text rest : Text} (hrest : ∀ c ∈ rest, c ∉ mark) :
    dropStart? mark (text ++ rest) = (dropStart? mark text).map (· ++ rest) := by
  cases hdrop : dropStart? mark text with
  | some tail =>
      rw [dropStart?_eq_some_iff] at hdrop
      rw [Option.map_some, dropStart?_eq_some_iff, hdrop, List.append_assoc]
  | none =>
      by_contra hfound
      obtain ⟨tail, htail⟩ := Option.ne_none_iff_exists'.1 hfound
      rw [dropStart?_eq_some_iff] at htail
      obtain ⟨tail, rfl⟩ := prefix_of_prefix_append
        (fun c hc => hrest c (List.mem_of_mem_head? hc)) (htail ▸ List.prefix_append mark tail)
      rw [dropStart?_eq_some_iff.2 rfl] at hdrop
      cases hdrop

theorem upTo_append_of_forall_not_mem {closing text rest : Text} (hne : closing ≠ [])
    (hrest : ∀ c ∈ rest, c ∉ closing) : upTo closing (text ++ rest) = upTo closing text := by
  induction text with
  | nil =>
      have hempty : closing.isEmpty = false := by simpa using hne
      rw [List.nil_append, upTo, hempty]
      by_contra hfound
      obtain ⟨inner, hinner⟩ := Option.ne_none_iff_exists'.1 hfound
      obtain ⟨c, hc⟩ := List.exists_mem_of_ne_nil closing hne
      exact hrest c ((upTo_eq_some hinner).2.subset (List.mem_append_right _ hc)) hc
  | cons c text ih =>
      have hhead : ∀ d ∈ rest.head?, d ∉ closing := fun d hd =>
        hrest d (List.mem_of_mem_head? hd)
      have hstart : closing.isPrefixOf (c :: text ++ rest) = closing.isPrefixOf (c :: text) := by
        rw [Bool.eq_iff_iff, List.isPrefixOf_iff_prefix, List.isPrefixOf_iff_prefix]
        exact ⟨prefix_of_prefix_append hhead, fun h => h.trans (List.prefix_append _ rest)⟩
      rw [List.cons_append] at hstart ⊢
      rw [upTo, upTo, hstart, ih]

theorem within_enclosed {opening closing : Text} (image : Text → Text) (hopening : opening ≠ [])
    (hclosing : closing ≠ []) : (enclosed opening closing image).Within (opening ++ closing) where
  begins := fun _ htext => (opensWith_enclosed opening closing image).eq_none hopening
    fun c hc hmem => htext c hc (List.mem_append_left _ hmem)
  bounded := by
    intro text length found hmatch
    obtain ⟨rest, hrest, hspan⟩ := Option.bind_eq_some_iff.1 hmatch
    obtain ⟨inner, hinner, heq⟩ := Option.map_eq_some_iff.1 hspan
    cases heq
    have hle := (upTo_eq_some hinner).2.length_le
    rw [dropStart?_eq_some_iff.1 hrest, List.length_append]
    rw [List.length_append] at hle
    omega
  append := by
    intro text rest hrest
    have hopens : ∀ c ∈ rest, c ∉ opening := fun c hc hmem =>
      hrest c hc (List.mem_append_left _ hmem)
    have hcloses : ∀ c ∈ rest, c ∉ closing := fun c hc hmem =>
      hrest c hc (List.mem_append_right _ hmem)
    rw [enclosed, enclosed, dropStart?_append hopens]
    cases dropStart? opening text with
    | none => rfl
    | some tail =>
        simp only [Option.map_some, Option.bind_some,
          upTo_append_of_forall_not_mem hclosing hcloses]

theorem within_replacing {old : Text} (image : Text) (hold : old ≠ []) :
    (replacing old image).Within old where
  begins := fun _ htext => (opensWith_replacing old image).eq_none hold htext
  bounded := by
    intro text length found hmatch
    obtain ⟨rest, hrest, heq⟩ := Option.map_eq_some_iff.1 hmatch
    cases heq
    rw [dropStart?_eq_some_iff.1 hrest, List.length_append]
    exact Nat.le_add_right _ _
  append := by
    intro text rest hrest
    rw [replacing, replacing, dropStart?_append hrest, Option.map_map]
    rfl

end CatalogLint.Text
