/-
**The places of matches.**

The occurrences of a pattern come from the left and do not overlap, so that each of them has a place
of its own, and the pattern matches there.  A replacement by images of the same lengths shows the
image at the places that an occurrence takes, and the text everywhere else.

A fixed text whose first character comes only once in it cannot overlap with itself.  So each place
where it stands is that of an occurrence, and none is passed over.

Main definitions:

* `CatalogLint.Text.Occurrence.Covers` — an occurrence takes a position of the text;
* `CatalogLint.Text.Rule.recogniser` — the pattern of a rule.

Main results:

* `CatalogLint.Text.pairwise_occurrences` — **occurrences do not overlap**;
* `CatalogLint.Text.exists_match_of_mem_occurrences` — the pattern matches where an occurrence is;
* `CatalogLint.Text.getElem?_replaceAll_of_covers`,
  `CatalogLint.Text.getElem?_replaceAll_of_not_covers` — **a replacement, position by position**;
* `CatalogLint.Text.getElem?_replaceAll_replacing` — a fixed text is replaced wherever it stands.
-/

import CatalogLint.Proofs.Markup.OneLine
import CatalogLint.Text.Occurrence

set_option autoImplicit false

namespace CatalogLint.Text

/-! ### Occurrences -/

/-- The occurrence takes the position of the text. -/
def Occurrence.Covers (found : Occurrence) (index : Nat) : Prop :=
  found.before.length ≤ index ∧ index < found.before.length + found.matched.length

section
variable {pattern : Recogniser} {found : Occurrence}

/-- Occurrences stand where no earlier one has taken anything. -/
theorem le_length_before {reversed text : Text} {taken : Nat}
    (h : found ∈ occurrencesFrom pattern reversed taken text) :
    reversed.length + taken ≤ found.before.length := by
  induction text generalizing reversed taken with
  | nil => cases taken <;> cases h
  | cons c text ih =>
      cases taken with
      | succ taken =>
          have hlater := ih h
          rw [List.length_cons] at hlater
          omega
      | zero =>
          rw [occurrencesFrom] at h
          split at h
          · rcases List.mem_cons.1 h with rfl | h
            · simp
            · have hlater := ih h
              rw [List.length_cons] at hlater
              omega
          · have hlater := ih h
            rw [List.length_cons] at hlater
            omega

theorem pairwise_occurrencesFrom (pattern : Recogniser) (reversed text : Text) (taken : Nat) :
    (occurrencesFrom pattern reversed taken text).Pairwise fun first second =>
      first.before.length + first.matched.length ≤ second.before.length := by
  induction text generalizing reversed taken with
  | nil => cases taken <;> exact List.Pairwise.nil
  | cons c text ih =>
      cases taken with
      | succ taken => exact ih _ _
      | zero =>
          rw [occurrencesFrom]
          split
          · next length hmatch =>
            refine List.pairwise_cons.2 ⟨fun second hsecond => ?_, ih _ _⟩
            have hlater := le_length_before hsecond
            have hmatched := List.length_take_le (length + 1) (c :: text)
            simp only [List.length_cons, List.length_reverse] at hlater ⊢
            omega
          · exact ih _ _

/-- **Occurrences do not overlap**: each one starts where the former ends, or later. -/
theorem pairwise_occurrences (pattern : Recogniser) (text : Text) :
    (occurrences pattern text).Pairwise fun first second =>
      first.before.length + first.matched.length ≤ second.before.length :=
  pairwise_occurrencesFrom pattern [] text 0

theorem exists_match_of_mem_occurrencesFrom {reversed text : Text} {taken : Nat}
    (h : found ∈ occurrencesFrom pattern reversed taken text) :
    ∃ length, pattern (found.matched ++ found.after) = some (length + 1) ∧
      found.matched = (found.matched ++ found.after).take (length + 1) := by
  induction text generalizing reversed taken with
  | nil => cases taken <;> cases h
  | cons c text ih =>
      cases taken with
      | succ taken => exact ih h
      | zero =>
          rw [occurrencesFrom] at h
          split at h
          · next length hmatch =>
            rcases List.mem_cons.1 h with rfl | h
            · exact ⟨length, by rw [List.take_append_drop, hmatch], by rw [List.take_append_drop]⟩
            · exact ih h
          · exact ih h

/-- The pattern matches where an occurrence is. -/
theorem exists_match_of_mem_occurrences {text : Text} (h : found ∈ occurrences pattern text) :
    ∃ length, pattern (found.matched ++ found.after) = some (length + 1) ∧
      found.matched = (found.matched ++ found.after).take (length + 1) :=
  exists_match_of_mem_occurrencesFrom h

theorem length_matched_pos_of_mem_occurrencesFrom {reversed text : Text} {taken : Nat}
    (h : found ∈ occurrencesFrom pattern reversed taken text) : 0 < found.matched.length := by
  induction text generalizing reversed taken with
  | nil => cases taken <;> cases h
  | cons c text ih =>
      cases taken with
      | succ taken => exact ih h
      | zero =>
          rw [occurrencesFrom] at h
          split at h
          · rcases List.mem_cons.1 h with rfl | h
            · simp
            · exact ih h
          · exact ih h

/-- An occurrence takes something. -/
theorem length_matched_pos {text : Text} (h : found ∈ occurrences pattern text) :
    0 < found.matched.length :=
  length_matched_pos_of_mem_occurrencesFrom h

end

/-! ### Replacing, occurrence by occurrence -/

/-- The pattern of a rule. -/
def Rule.recogniser (rule : Rule) : Recogniser := fun text => (rule text).map Prod.fst

section
variable {rule : Rule}

/-- What one step of a replacement does, and what it finds: a rule that keeps lengths matches at the
beginning of the text, or the first character stays. -/
theorem Rule.KeepsLength.step (hrule : rule.KeepsLength) (reversed : Text) (c : Char)
    (text : Text) :
    (∃ length image, rule (c :: text) = some (length + 1, image) ∧ image.length = length + 1 ∧
        length + 1 ≤ (c :: text).length ∧
        replaceFrom rule 0 (c :: text) = image ++ replaceFrom rule length text ∧
        occurrencesFrom rule.recogniser reversed 0 (c :: text) =
          ⟨reversed.reverse, (c :: text).take (length + 1), (c :: text).drop (length + 1)⟩ ::
            occurrencesFrom rule.recogniser (c :: reversed) length text) ∨
      rule (c :: text) = none ∧ replaceFrom rule 0 (c :: text) = c :: replaceFrom rule 0 text ∧
        occurrencesFrom rule.recogniser reversed 0 (c :: text) =
          occurrencesFrom rule.recogniser (c :: reversed) 0 text := by
  rw [occurrencesFrom, replaceFrom, recogniser]
  cases hmatch : rule (c :: text) with
  | none => exact .inr ⟨rfl, rfl, rfl⟩
  | some found =>
      obtain ⟨length, image⟩ := found
      obtain ⟨hpos, hle, hlength⟩ := hrule _ _ _ hmatch
      obtain ⟨length, rfl⟩ : ∃ k, length = k + 1 := ⟨length - 1, by omega⟩
      exact .inl ⟨length, image, rfl, hlength, hle, rfl, rfl⟩

theorem exists_replaceFrom_eq (hrule : rule.KeepsLength) {reversed text : Text} {taken : Nat}
    {found : Occurrence} (h : found ∈ occurrencesFrom rule.recogniser reversed taken text) :
    ∃ head image tail, rule (found.matched ++ found.after) = some (found.matched.length, image) ∧
      replaceFrom rule taken text = head ++ (image ++ tail) ∧
      reversed.length + taken + head.length = found.before.length := by
  induction text generalizing reversed taken with
  | nil => cases taken <;> cases h
  | cons c text ih =>
      cases taken with
      | succ taken =>
          obtain ⟨head, image, tail, hmatch, hreplaced, hlength⟩ := ih h
          rw [List.length_cons] at hlength
          exact ⟨head, image, tail, hmatch, hreplaced, by omega⟩
      | zero =>
          obtain ⟨length, first, hfirst, hfirstLength, hle, hreplace, hfinds⟩ |
            ⟨-, hreplace, hfinds⟩ :=
            hrule.step reversed c text
          · rw [hfinds] at h
            rw [hreplace]
            rcases List.mem_cons.1 h with rfl | h
            · refine ⟨[], first, replaceFrom rule length text, ?_, rfl, by simp⟩
              rw [List.take_append_drop, List.length_take_of_le hle, hfirst]
            · obtain ⟨head, image, tail, hmatch, hreplaced, hlength⟩ := ih h
              rw [List.length_cons] at hlength
              refine ⟨first ++ head, image, tail, hmatch, ?_, ?_⟩
              · rw [hreplaced, List.append_assoc]
              · rw [List.length_append]
                omega
          · rw [hfinds] at h
            rw [hreplace]
            obtain ⟨head, image, tail, hmatch, hreplaced, hlength⟩ := ih h
            rw [List.length_cons] at hlength
            refine ⟨c :: head, image, tail, hmatch, ?_, ?_⟩
            · rw [hreplaced, List.cons_append]
            · rw [List.length_cons]
              omega

/-- **An occurrence gives way to its image**, character by character. -/
theorem getElem?_replaceAll_of_covers (hrule : rule.KeepsLength) {text : Text} {index : Nat}
    {found : Occurrence} (hfound : found ∈ occurrences rule.recogniser text)
    (hcovers : found.Covers index) :
    ∃ image, rule (found.matched ++ found.after) = some (found.matched.length, image) ∧
      (replaceAll rule text)[index]? = image[index - found.before.length]? := by
  obtain ⟨head, image, tail, hmatch, hreplaced, hlength⟩ := exists_replaceFrom_eq hrule hfound
  obtain ⟨-, -, himage⟩ := hrule _ _ _ hmatch
  obtain ⟨hle, hlt⟩ := hcovers
  rw [List.length_nil] at hlength
  refine ⟨image, hmatch, ?_⟩
  rw [replaceAll, hreplaced, List.getElem?_append_right (by omega),
    List.getElem?_append_left (by omega)]
  congr 1
  omega

theorem getElem?_replaceFrom_of_not_covers (hrule : rule.KeepsLength) (reversed text : Text)
    (taken index : Nat)
    (h : ∀ found ∈ occurrencesFrom rule.recogniser reversed taken text,
      ¬ found.Covers (reversed.length + (taken + index))) :
    (replaceFrom rule taken text)[index]? = text[taken + index]? := by
  induction text generalizing reversed taken index with
  | nil => cases taken <;> simp [replaceFrom]
  | cons c text ih =>
      -- the same position, counted from behind the first character
      have hposition : ∀ offset, (c :: reversed).length + offset = reversed.length + (offset + 1) :=
        fun offset => by rw [List.length_cons]; omega
      cases taken with
      | succ taken =>
          rw [replaceFrom, Nat.add_right_comm, List.getElem?_cons_succ]
          refine ih (c :: reversed) taken index fun found hfound => ?_
          rw [hposition, Nat.add_right_comm]
          exact h found hfound
      | zero =>
          rw [Nat.zero_add] at h ⊢
          obtain ⟨length, image, -, hlength, hle, hreplace, hfinds⟩ |
            ⟨-, hreplace, hfinds⟩ :=
            hrule.step reversed c text
          · rw [hfinds] at h
            rw [hreplace]
            obtain ⟨hfirst, hlater⟩ := List.forall_mem_cons.1 h
            have hge : length + 1 ≤ index := by
              simp only [Occurrence.Covers, List.length_reverse,
                List.length_take_of_le hle] at hfirst
              omega
            obtain ⟨offset, rfl⟩ := Nat.exists_eq_add_of_le hge
            rw [List.getElem?_append_right (by omega), hlength, Nat.add_sub_cancel_left,
              Nat.add_right_comm, List.getElem?_cons_succ]
            refine ih (c :: reversed) length offset fun found hfound => ?_
            rw [hposition, Nat.add_right_comm]
            exact hlater found hfound
          · rw [hfinds] at h
            rw [hreplace]
            cases index with
            | zero => rfl
            | succ index =>
                rw [List.getElem?_cons_succ, List.getElem?_cons_succ]
                have hstays := ih (c :: reversed) 0 index fun found hfound => ?_
                · rwa [Nat.zero_add] at hstays
                · rw [hposition, Nat.zero_add]
                  exact h found hfound

/-- **Where no occurrence is, the text stays**, character by character. -/
theorem getElem?_replaceAll_of_not_covers (hrule : rule.KeepsLength) {text : Text} {index : Nat}
    (h : ∀ found ∈ occurrences rule.recogniser text, ¬ found.Covers index) :
    (replaceAll rule text)[index]? = text[index]? := by
  have hstays := getElem?_replaceFrom_of_not_covers hrule [] text 0 index fun found hfound => ?_
  · rwa [Nat.zero_add] at hstays
  · rw [List.length_nil, Nat.zero_add, Nat.zero_add]
    exact h found hfound

end

/-! ### Replacing a fixed text -/

theorem keepsLength_replacing {part image : Text} (hpart : part ≠ [])
    (hlength : image.length = part.length) : (replacing part image).KeepsLength := by
  intro text length found hmatch
  obtain ⟨rest, hrest, heq⟩ := Option.map_eq_some_iff.1 hmatch
  cases heq
  rw [dropStart?_eq_some_iff.1 hrest, List.length_append]
  exact ⟨List.length_pos_iff.2 hpart, Nat.le_add_right _ _, hlength⟩

theorem replacing_eq_none_iff {part image text : Text} :
    replacing part image text = none ↔ ¬ part <+: text := by
  rw [replacing, Option.map_eq_none_iff, Option.eq_none_iff_forall_not_mem]
  simp only [Option.mem_def, dropStart?_eq_some_iff]
  exact ⟨fun h ⟨rest, hrest⟩ => h rest hrest.symm, fun h rest hrest => h ⟨rest, hrest.symm⟩⟩

/-- A text whose first character comes only once in it does not overlap with itself. -/
theorem length_le_of_prefix_drop {c : Char} {tail text : Text} {offset : Nat} (hc : c ∉ tail)
    (hstart : c :: tail <+: text) (hlater : c :: tail <+: text.drop offset) (hpos : 0 < offset) :
    tail.length < offset := by
  obtain ⟨rest, rfl⟩ := hstart
  refine Nat.lt_of_not_le fun hle => hc ?_
  obtain ⟨offset, rfl⟩ : ∃ k, offset = k + 1 := ⟨offset - 1, by omega⟩
  rw [List.cons_append, List.drop_succ_cons, List.drop_append_of_le_length (by omega)] at hlater
  have hhead : (tail.drop offset).head? = some c := by
    have hnonempty : 0 < (tail.drop offset).length := by rw [List.length_drop]; omega
    obtain ⟨d, after, hdrop⟩ := List.exists_cons_of_ne_nil (List.ne_nil_of_length_pos hnonempty)
    rw [hdrop, List.cons_append, List.cons_prefix_cons] at hlater
    rw [hdrop, List.head?_cons, hlater.1]
  exact List.mem_of_mem_drop (List.mem_of_mem_head? hhead)

theorem getElem?_replaceFrom_replacing {c : Char} {tail image text : Text}
    {taken offset index : Nat} (hlength : image.length = tail.length + 1) (hc : c ∉ tail)
    (hstart : c :: tail <+: text.drop (taken + offset)) (hindex : index < tail.length + 1) :
    (replaceFrom (replacing (c :: tail) image) taken text)[offset + index]? = image[index]? := by
  induction text generalizing taken offset with
  | nil =>
      rw [List.drop_nil] at hstart
      cases List.eq_nil_of_prefix_nil hstart
  | cons d text ih =>
      cases taken with
      | succ taken =>
          rw [Nat.add_right_comm, List.drop_succ_cons] at hstart
          exact ih hstart
      | zero =>
          rw [Nat.zero_add] at hstart
          obtain ⟨length, first, hmatch, hfirst, -, hreplace, -⟩ | ⟨hmatch, hreplace, -⟩ :=
            (keepsLength_replacing (List.cons_ne_nil c tail) hlength).step [] d text
          · obtain ⟨rest, hrest, heq⟩ := Option.map_eq_some_iff.1 hmatch
            cases heq
            rw [hreplace]
            rcases Nat.eq_zero_or_pos offset with rfl | hpos
            · rw [Nat.zero_add, List.getElem?_append_left (by omega)]
            · have hgt := length_le_of_prefix_drop hc ⟨rest, (dropStart?_eq_some_iff.1 hrest).symm⟩
                hstart hpos
              obtain ⟨later, rfl⟩ : ∃ k, offset = tail.length + k + 1 :=
                ⟨offset - (tail.length + 1), by omega⟩
              rw [List.drop_succ_cons] at hstart
              rw [List.getElem?_append_right (by omega), ← ih hstart]
              congr 1
              omega
          · rw [replacing_eq_none_iff] at hmatch
            rw [hreplace]
            cases offset with
            | zero => exact absurd hstart hmatch
            | succ offset =>
                rw [List.drop_succ_cons, ← Nat.zero_add offset] at hstart
                rw [Nat.add_right_comm, List.getElem?_cons_succ]
                exact ih hstart

/-- **A fixed text is replaced wherever it stands**, if its first character does not come again. -/
theorem getElem?_replaceAll_replacing {c : Char} {tail image text : Text} {start index : Nat}
    (hlength : image.length = tail.length + 1) (hc : c ∉ tail)
    (hstart : c :: tail <+: text.drop start) (hindex : index < tail.length + 1) :
    (replaceAll (replacing (c :: tail) image) text)[start + index]? = image[index]? :=
  getElem?_replaceFrom_replacing hlength hc (by rwa [Nat.zero_add]) hindex

end CatalogLint.Text
