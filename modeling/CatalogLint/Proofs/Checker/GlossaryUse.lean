/-
**Where the terms of the glossary are looked for.**

Terms are looked for in the plain form of the source text without its quoted spans.  What stands on
the two sides of a span touches there.  So a term is also found if its first characters stand before
a span and the others behind it, and so is one behind a span if there is a boundary only between its
first character and the one before the span.  An occurrence is one in the plain form if its
characters follow each other there and if the boundary is there, too: that is so where a word
begins, for a span ends with a guillemet, and where no span ends right before it.

Main definitions:

* `CatalogLint.Glossary.Occurs` — a name occurs in a text of which some places are shown;
* `CatalogLint.Glossary.OccursOutside` — it occurs in the text itself, outside quoted spans;
* `CatalogLint.Glossary.Unsplit` — no span has two characters of a name on its sides that follow
  each other in the name;
* `CatalogLint.Checker.GlossaryUse.LooksOutside` — where the terms that are warned about occur.

Main results:

* `CatalogLint.Glossary.Term.foundIn_iff` — **what it means that a term is found**;
* `CatalogLint.Glossary.occursOutside_iff` — **which occurrences are in the source text**;
* `CatalogLint.Checker.GlossaryUse.looksOutside_findings` — **the terms that are warned about**.
-/

import CatalogLint.Checker.Entry
import CatalogLint.Proofs.Markup.Stripped
import Mathlib.Data.List.Chain

set_option autoImplicit false

namespace CatalogLint

/-! ### Texts that begin alike -/

namespace Text

theorem startsWithFolded_iff {text start : Text} :
    startsWithFolded text start = true ↔
      ∃ part rest, text = part ++ rest ∧ part.map fold = start.map fold := by
  induction text generalizing start with
  | nil =>
      cases start with
      | nil => exact iff_of_true rfl ⟨[], [], rfl, rfl⟩
      | cons s start =>
          refine iff_of_false Bool.false_ne_true ?_
          rintro ⟨part, rest, hnil, hfold⟩
          obtain ⟨rfl, -⟩ := List.append_eq_nil_iff.1 hnil.symm
          cases hfold
  | cons c text ih =>
      cases start with
      | nil => exact iff_of_true rfl ⟨[], c :: text, rfl, rfl⟩
      | cons s start =>
          rw [startsWithFolded, Bool.and_eq_true, beq_iff_eq, ih]
          constructor
          · rintro ⟨hc, part, rest, rfl, hfold⟩
            exact ⟨c :: part, rest, rfl, List.cons_eq_cons.2 ⟨hc, hfold⟩⟩
          · rintro ⟨part, rest, htext, hfold⟩
            cases part with
            | nil => cases hfold
            | cons d part =>
                obtain ⟨rfl, rfl⟩ := List.cons.inj htext
                obtain ⟨hc, hfold⟩ := List.cons.inj hfold
                exact ⟨hc, part, rest, rfl, hfold⟩

end Text

namespace Glossary

open Text (fold isBoundary isWordChar)

/-! ### Where a name is found -/

theorem getLast?_cons_or {c : Char} {front : Text} {before : Option Char} :
    (c :: front).getLast?.or before = front.getLast?.or (some c) := by
  rw [List.getLast?_cons]
  cases front.getLast? <;> rfl

theorem foundFrom_iff {name text : Text} {before : Option Char} :
    Term.foundFrom name before text = true ↔ ∃ front part rest, text = front ++ part ++ rest ∧
      part.map fold = name.map fold ∧
        isBoundary (front.getLast?.or before) (part ++ rest).head? = true := by
  induction text generalizing before with
  | nil =>
      rw [Term.foundFrom, Bool.and_eq_true, List.isEmpty_iff]
      constructor
      · rintro ⟨hboundary, rfl⟩
        exact ⟨[], [], [], rfl, rfl, hboundary⟩
      · rintro ⟨front, part, rest, hnil, hfold, hboundary⟩
        obtain ⟨hfront, rfl⟩ := List.append_eq_nil_iff.1 hnil.symm
        obtain ⟨rfl, rfl⟩ := List.append_eq_nil_iff.1 hfront
        exact ⟨hboundary, List.map_eq_nil_iff.1 hfold.symm⟩
  | cons c text ih =>
      rw [Term.foundFrom, Bool.or_eq_true, Bool.and_eq_true, Text.startsWithFolded_iff, ih]
      constructor
      · rintro (⟨hboundary, part, rest, htext, hfold⟩ | ⟨front, part, rest, rfl, hfold, hboundary⟩)
        · refine ⟨[], part, rest, htext, hfold, ?_⟩
          rw [← htext]
          exact hboundary
        · refine ⟨c :: front, part, rest, rfl, hfold, ?_⟩
          rw [getLast?_cons_or]
          exact hboundary
      · rintro ⟨front, part, rest, htext, hfold, hboundary⟩
        cases front with
        | nil =>
            refine .inl ⟨?_, part, rest, htext, hfold⟩
            rw [List.nil_append] at htext
            rw [← htext] at hboundary
            exact hboundary
        | cons d front =>
            obtain ⟨rfl, rfl⟩ := List.cons.inj htext
            rw [getLast?_cons_or] at hboundary
            exact .inr ⟨front, part, rest, rfl, hfold, hboundary⟩

/-- The character at a place of the text, if there is such a place. -/
def charAt (text : Text) (place : Option Nat) : Option Char := place.bind (text[·]?)

/-- Where only some places of the text are shown, the name occurs at the given ones: they follow
each other there. -/
structure Occurs (name text : Text) (shown places : List Nat) : Prop where
  /-- The characters at the places are those of the name, but for the case. -/
  written : ∃ part : Text, places.map (text[·]?) = part.map some ∧ part.map fold = name.map fold
  /-- The places follow each other among those shown, and before them there is a boundary. -/
  boundary : ∃ before after, shown = before ++ places ++ after ∧
    isBoundary (charAt text before.getLast?) (charAt text (places ++ after).head?) = true

/-- The name occurs in the text at the given places, which follow each other in the text and are in
no quoted span. -/
structure OccursOutside (name text : Text) (places : List Nat) : Prop where
  /-- The name occurs in the text of which all places are shown. -/
  occurs : Occurs name text (List.range text.length) places
  /-- No place is in a quoted span. -/
  outside : ∀ place ∈ places, place ∈ Markup.outside text

section
variable {name text shownText : Text} {shown places : List Nat}

theorem charAt_eq {place : Option Nat} {c : Option Char}
    (h : place.map (text[·]?) = c.map some) : charAt text place = c := by
  cases place with
  | none => exact (Option.map_eq_none_iff.1 h.symm).symm
  | some place =>
      cases c with
      | none => cases h
      | some c => exact Option.some.inj h

/-- The characters on both sides of a border are shown if the places are. -/
theorem isBoundary_charAt {front behind : Text} {before after : List Nat}
    (hfront : before.map (text[·]?) = front.map some)
    (hbehind : after.map (text[·]?) = behind.map some) :
    isBoundary (charAt text before.getLast?) (charAt text after.head?) =
      isBoundary front.getLast? behind.head? := by
  have hlast : charAt text before.getLast? = front.getLast? :=
    charAt_eq (by rw [← List.getLast?_map, hfront, List.getLast?_map])
  have hhead : charAt text after.head? = behind.head? :=
    charAt_eq (by rw [← List.head?_map, hbehind, List.head?_map])
  rw [hlast, hhead]

/-- **What it means that a term is found** in a text that shows the characters of another one at
some of its places. -/
theorem Term.foundIn_iff {term : Term} (h : shown.map (text[·]?) = shownText.map some) :
    term.foundIn shownText = true ↔ ∃ places, Occurs term.name text shown places := by
  rw [Term.foundIn, foundFrom_iff]
  simp only [Option.or_none]
  constructor
  · rintro ⟨front, part, rest, rfl, hfold, hboundary⟩
    rw [List.map_append, List.map_append] at h
    obtain ⟨early, after, rfl, hearly, hafter⟩ := List.map_eq_append_iff.1 h
    obtain ⟨before, places, rfl, hbefore, hplaces⟩ := List.map_eq_append_iff.1 hearly
    have hbehind : (places ++ after).map (text[·]?) = (part ++ rest).map some := by
      rw [List.map_append, hplaces, hafter, List.map_append]
    refine ⟨places, ⟨part, hplaces, hfold⟩, before, after, rfl, ?_⟩
    rw [isBoundary_charAt hbefore hbehind]
    exact hboundary
  · rintro ⟨places, ⟨part, hplaces, hfold⟩, before, after, rfl, hboundary⟩
    rw [List.map_append, List.map_append] at h
    obtain ⟨early, rest, rfl, hearly, hrest⟩ := List.map_eq_append_iff.1 h.symm
    obtain ⟨front, same, rfl, hfront, hsame⟩ := List.map_eq_append_iff.1 hearly
    obtain rfl : same = part :=
      (List.map_inj_right fun _ _ => Option.some.inj).1 (hsame.trans hplaces)
    have hbehind : (places ++ after).map (text[·]?) = (same ++ rest).map some := by
      rw [List.map_append, hplaces, ← hrest, List.map_append]
    rw [isBoundary_charAt hfront.symm hbehind] at hboundary
    exact ⟨front, same, rest, rfl, hfold, hboundary⟩

end

/-! ### Occurrences in the text -/

section
variable {name text : Text} {place index : Nat} {shown places before after : List Nat}

/-- The places follow each other in the text. -/
def Consecutive (places : List Nat) : Prop := places.IsChain fun first second => second = first + 1

theorem Consecutive.eq_range (h : Consecutive (place :: places)) :
    place :: places = List.range' place (places.length + 1) := by
  induction places generalizing place with
  | nil => rfl
  | cons second places ih =>
      obtain ⟨rfl, hrest⟩ := List.isChain_cons_cons.1 h
      rw [List.length_cons, List.range'_succ, ← ih hrest]

theorem consecutive_range (count : Nat) : Consecutive (List.range count) := by
  rw [List.range_eq_range']
  exact List.isChain_range' 0 count 1

/-- Where all places of a text are shown, those before a place are all that are smaller. -/
theorem eq_range_of_range_eq {count : Nat} (h : List.range count = before ++ place :: after) :
    before = List.range place := by
  rw [List.range_eq_range', List.range'_eq_append_iff] at h
  obtain ⟨count, -, rfl, hbehind⟩ := h
  obtain ⟨rfl, -, -⟩ := List.range'_eq_cons_iff.1 hbehind.symm
  rw [List.range_eq_range', Nat.mul_one, Nat.zero_add]

theorem lt_length_of_written {part : Text} (h : places.map (text[·]?) = part.map some) :
    ∀ place ∈ places, place < text.length := by
  intro place hplace
  have hmem : text[place]? ∈ part.map some := h ▸ List.mem_map_of_mem hplace
  obtain ⟨c, -, hc⟩ := List.mem_map.1 hmem
  exact (List.getElem?_eq_some_iff.1 hc.symm).1

/-- A name occurs in the text if it is written at places that follow each other, behind a
boundary. -/
theorem occurs_range_iff : Occurs name text (List.range text.length) (place :: places) ↔
    (∃ part : Text, (place :: places).map (text[·]?) = part.map some ∧
      part.map fold = name.map fold) ∧ Consecutive (place :: places) ∧
        isBoundary (charAt text (List.range place).getLast?) text[place]? = true := by
  constructor
  · rintro ⟨hwritten, before, after, hshown, hboundary⟩
    refine ⟨hwritten, ?_, ?_⟩
    · have hall := consecutive_range text.length
      rw [Consecutive, hshown] at hall
      exact List.IsChain.infix hall ⟨before, after, rfl⟩
    · rw [List.append_assoc, List.cons_append] at hshown
      rw [← eq_range_of_range_eq hshown]
      exact hboundary
  · rintro ⟨hwritten, hconsecutive, hboundary⟩
    refine ⟨hwritten, List.range place,
      List.range' (place + (places.length + 1)) (text.length - (place + (places.length + 1))), ?_,
      hboundary⟩
    obtain ⟨part, hpart, -⟩ := hwritten
    have hlast : place + places.length < text.length := by
      refine lt_length_of_written hpart _ ?_
      rw [hconsecutive.eq_range, List.mem_range'_1]
      omega
    have hsplit : ∀ count, List.range' 0 place ++ List.range' place count =
        List.range' 0 (place + count) := by
      intro count
      have happend := @List.range'_append_1 0 place count
      rwa [Nat.zero_add] at happend
    rw [hconsecutive.eq_range, List.range_eq_range', List.range_eq_range', List.append_assoc,
      List.range'_append_1, hsplit]
    congr 1
    omega

/-- Right behind a span a word can begin, but none can end. -/
theorem isBoundary_iff_of_not_mem_outside (hplace : index + 1 ∈ Markup.outside text)
    (hindex : index ∉ Markup.outside text) :
    isBoundary (charAt text (List.range (index + 1)).getLast?) text[index + 1]? = true ↔
      ∃ c ∈ text[index + 1]?, isWordChar c = true := by
  have hclosing := (Markup.mem_outside_or_getElem?_eq_closing hplace).resolve_left hindex
  have hword : isWordChar '»' = false := by decide
  rw [List.getLast?_range, if_neg (Nat.succ_ne_zero index), charAt, Option.bind_some,
    Nat.add_sub_cancel, hclosing, isBoundary, Option.any_some, hword, bne_iff_ne, ne_comm,
    Bool.ne_false_iff, Option.any_eq_true]
  rfl

/-- Where no span ends right before a place, the places before it end alike, whether all are shown
or those outside the spans. -/
theorem getLast?_eq_of_outside_eq (h : Markup.outside text = before ++ place :: after)
    (hbefore : ∀ index, place = index + 1 → index ∈ Markup.outside text) :
    before.getLast? = (List.range place).getLast? := by
  have hordered := h ▸ Markup.pairwise_outside text
  obtain ⟨hearly, hbehind, hborder⟩ := List.pairwise_append.1 hordered
  cases place with
  | zero =>
      have hnil : before = [] := by
        refine List.eq_nil_iff_forall_not_mem.2 fun index hindex => ?_
        exact Nat.not_lt_zero index (hborder index hindex 0 List.mem_cons_self)
      rw [hnil]
      rfl
  | succ index =>
      have hmem : index ∈ before := by
        have hindex := hbefore index rfl
        rw [h, List.mem_append, List.mem_cons] at hindex
        refine hindex.resolve_right ?_
        rintro (heq | hlate)
        · omega
        · have hlt := (List.pairwise_cons.1 hbehind).1 index hlate
          omega
      obtain ⟨front, rest, rfl⟩ := List.append_of_mem hmem
      have hnil : rest = [] := by
        -- what is between the two places would be between two numbers that follow each other
        refine List.eq_nil_iff_forall_not_mem.2 fun between hbetween => ?_
        have hlow := (List.pairwise_cons.1 (List.pairwise_append.1 hearly).2.1).1 between hbetween
        have hhigh := hborder between
          (List.mem_append_right _ (List.mem_cons_of_mem _ hbetween)) _ List.mem_cons_self
        omega
      rw [hnil, List.getLast?_concat, List.getLast?_range, if_neg (Nat.succ_ne_zero index),
        Nat.add_sub_cancel]

/-- **Which occurrences are in the text.**  The places must follow each other there, and unless a
word begins at the first one, no span may end right before it. -/
theorem occursOutside_iff (h : Occurs name text (Markup.outside text) (place :: places)) :
    OccursOutside name text (place :: places) ↔ Consecutive (place :: places) ∧
      ((∃ c ∈ text[place]?, isWordChar c = true) ∨
        ∀ index, place = index + 1 → index ∈ Markup.outside text) := by
  obtain ⟨hwritten, before, after, hshown, hboundary⟩ := h
  have houtside : ∀ index ∈ place :: places, index ∈ Markup.outside text := by
    intro index hindex
    rw [hshown]
    exact List.mem_append_left _ (List.mem_append_right _ hindex)
  have hoccurs : OccursOutside name text (place :: places) ↔ Consecutive (place :: places) ∧
      isBoundary (charAt text (List.range place).getLast?) text[place]? = true := by
    constructor
    · intro hgenuine
      exact (occurs_range_iff.1 hgenuine.occurs).2
    · intro hgenuine
      exact ⟨occurs_range_iff.2 ⟨hwritten, hgenuine⟩, houtside⟩
  rw [List.append_assoc, List.cons_append] at hshown
  rw [hoccurs]
  refine and_congr_right fun _ => ?_
  by_cases hbefore : ∀ index, place = index + 1 → index ∈ Markup.outside text
  · rw [← getLast?_eq_of_outside_eq hshown hbefore]
    exact iff_of_true hboundary (.inr hbefore)
  · rw [or_iff_left hbefore]
    obtain ⟨index, rfl, hindex⟩ : ∃ index, place = index + 1 ∧ index ∉ Markup.outside text := by
      simpa using hbefore
    exact isBoundary_iff_of_not_mem_outside (houtside _ List.mem_cons_self) hindex

/-- No quoted span splits the name: the characters on its two sides are not side by side in the
name, whatever the case. -/
def Unsplit (name text : Text) : Prop :=
  (Markup.outside text).IsChain fun first second => second = first + 1 ∨
    ∀ c ∈ text[first]?, ∀ d ∈ text[second]?, ¬[fold c, fold d] <:+: name.map fold

/-- Wherever the text has the first character of the name, but for the case, it is a word
character. -/
def BeginsWord (name text : Text) : Prop :=
  ∃ d ∈ name.head?, ∀ c ∈ text, fold c = fold d → isWordChar c = true

/-- A name that no span splits occurs at places that follow each other. -/
theorem Occurs.consecutive (h : Occurs name text (Markup.outside text) places)
    (hunsplit : Unsplit name text) : Consecutive places := by
  obtain ⟨⟨part, hpart, hfold⟩, before, after, hshown, -⟩ := h
  rw [Unsplit, hshown] at hunsplit
  have hplaces := List.IsChain.infix hunsplit ⟨before, after, rfl⟩
  rw [Consecutive, List.isChain_iff_forall_rel_of_append_cons_cons]
  rintro first second front rest rfl
  refine (List.isChain_iff_forall_rel_of_append_cons_cons.1 hplaces rfl).resolve_right ?_
  rw [List.map_append, List.map_cons, List.map_cons] at hpart
  obtain ⟨early, late, rfl, -, hlate⟩ := List.map_eq_append_iff.1 hpart.symm
  obtain ⟨c, late, rfl, hc, hlate⟩ := List.map_eq_cons_iff.1 hlate
  obtain ⟨d, late, rfl, hd, -⟩ := List.map_eq_cons_iff.1 hlate
  intro hnone
  refine hnone c hc.symm d hd.symm ⟨early.map fold, late.map fold, ?_⟩
  rw [← hfold]
  simp

/-- An occurrence begins with the first character of the name, but for the case. -/
theorem Occurs.exists_head (h : Occurs name text shown places) (hword : BeginsWord name text) :
    ∃ place rest, places = place :: rest ∧ ∃ c ∈ text[place]?, isWordChar c = true := by
  obtain ⟨⟨part, hpart, hfold⟩, -⟩ := h
  obtain ⟨d, hd, hall⟩ := hword
  obtain ⟨name, rfl⟩ := List.head?_eq_some_iff.1 hd
  obtain ⟨c, part, rfl, hc, -⟩ := List.map_eq_cons_iff.1 hfold
  obtain ⟨place, rest, rfl, hplace, -⟩ := List.map_eq_cons_iff.1 hpart
  exact ⟨place, rest, rfl, c, hplace, hall c (List.mem_of_getElem? hplace) hc⟩

/-- A name that occurs outside the quoted spans occurs in the text. -/
theorem OccursOutside.foundIn {term : Term} (h : OccursOutside term.name text places) :
    term.foundIn text = true := by
  have hshown : (List.range text.length).map (text[·]?) = text.map some := by
    refine List.ext_getElem (by simp) fun index hindex _ => ?_
    rw [List.length_map, List.length_range] at hindex
    rw [List.getElem_map, List.getElem_map, List.getElem_range, List.getElem?_eq_getElem hindex]
  exact (Term.foundIn_iff hshown).2 ⟨places, h.occurs⟩

end

end Glossary

/-! ### The terms that are warned about -/

namespace Checker.GlossaryUse

open Glossary

/-- The terms of the glossary that are warned about, in order. -/
def warned (glossary : Glossary) (entry : Entry) : List Term :=
  glossary.terms.filter fun term => !entry.targetText.isEmpty &&
    (term.foundIn (Markup.stripQuoted entry.normalizedSource) &&
      !term.translatedIn entry.targetText)

section
variable {glossary : Glossary} {entry : Entry} {term : Term}

theorem findings_eq_map_warned (glossary : Glossary) (entry : Entry) :
    findings glossary entry = (warned glossary entry).map fun term =>
      ⟨name, .warning, message term entry.targetText⟩ := by
  rw [findings, warned]
  cases entry.targetText.isEmpty with
  | true => simp
  | false => rfl

theorem mem_warned_iff : term ∈ warned glossary entry ↔ term ∈ glossary.terms ∧
    entry.targetText ≠ [] ∧ term.translatedIn entry.targetText = false ∧
      ∃ places, Occurs term.name entry.normalizedSource
        (Markup.outside entry.normalizedSource) places := by
  rw [warned, List.mem_filter, ← Term.foundIn_iff (Markup.map_getElem?_outside _)]
  simp only [Bool.and_eq_true, Bool.not_eq_true', List.isEmpty_eq_false_iff]
  tauto

end

/-- Where the terms occur that are warned about. -/
structure LooksOutside (glossary : Glossary) (entry : Entry) : Prop where
  /-- There is one warning for each term that is warned about. -/
  warnings : findings glossary entry = (warned glossary entry).map fun term =>
    ⟨name, .warning, message term entry.targetText⟩
  /-- These are the terms without translation that occur in the plain form of the source text where
  only its places outside quoted spans are shown. -/
  found : ∀ term, term ∈ warned glossary entry ↔ term ∈ glossary.terms ∧
    entry.targetText ≠ [] ∧ term.translatedIn entry.targetText = false ∧
      ∃ places, Occurs term.name entry.normalizedSource
        (Markup.outside entry.normalizedSource) places
  /-- Such an occurrence is one in the plain form if and only if its places follow each other there,
  and a word begins at the first one or no span ends right before it. -/
  genuine : ∀ name place places,
    Occurs name entry.normalizedSource (Markup.outside entry.normalizedSource) (place :: places) →
      (OccursOutside name entry.normalizedSource (place :: places) ↔
        Consecutive (place :: places) ∧
          ((∃ c ∈ entry.normalizedSource[place]?, Text.isWordChar c = true) ∨
            ∀ index, place = index + 1 → index ∈ Markup.outside entry.normalizedSource))
  /-- So a term that begins with a word character and is split by no span is warned about only if it
  occurs outside quoted spans. -/
  sound : ∀ term ∈ warned glossary entry, BeginsWord term.name entry.normalizedSource →
    Unsplit term.name entry.normalizedSource →
      ∃ places, OccursOutside term.name entry.normalizedSource places

/-- **The terms that are warned about.** -/
theorem looksOutside_findings (glossary : Glossary) (entry : Entry) :
    LooksOutside glossary entry := by
  refine ⟨findings_eq_map_warned glossary entry, fun _ => mem_warned_iff,
    fun _ _ _ => occursOutside_iff, fun term hterm hword hunsplit => ?_⟩
  obtain ⟨-, -, -, places, hoccurs⟩ := mem_warned_iff.1 hterm
  obtain ⟨place, rest, rfl, hbegins⟩ := hoccurs.exists_head hword
  exact ⟨place :: rest, (occursOutside_iff hoccurs).2
    ⟨hoccurs.consecutive hunsplit, .inl hbegins⟩⟩

/-- The two sides of a literal in the middle of a word touch when the literal is gone, and a term is
found that does not occur. -/
theorem not_forall_occursOutside : ¬∀ (glossary : Glossary) (entry : Entry),
    entry.targetText ≠ [] → ∀ term ∈ glossary.terms,
      ⟨name, .warning, message term entry.targetText⟩ ∈ findings glossary entry →
        ∃ places, OccursOutside term.name entry.normalizedSource places := by
  intro h
  obtain ⟨places, hplaces⟩ := h .builtin
    { reference := [], firstLine := 1, lastLine := 1, source := ["b\x60\x60x\x60\x60ug"],
      target := ["rien"] }
    (by decide) ⟨"bug", ["bogue", "*bug*", "*bugs*"]⟩ (by decide) (by decide)
  exact absurd hplaces.foundIn (by decide)

end Checker.GlossaryUse

end CatalogLint
