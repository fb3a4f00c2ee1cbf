/-
**What the mask hides of an inline literal.**

An inline literal becomes a quoted span, and the mask blanks out the contents of quoted spans.  But
the rules for emphasis and for bare addresses come after the one for literals, and they look into
the span: a call with two starred arguments is taken for emphasis.  Whatever they rewrite there is
a quoted span itself, and the blank and the guillemet at its end close the outer span too early.
So the mask hides a literal if and only if nothing in its content is rewritten and the content
itself holds no blank before a closing guillemet.

Main definitions:

* `CatalogLint.Markup.HoldsEnd` — a text holds what ends a quoted span;
* `CatalogLint.Markup.emphasized` — a text with emphasis and bare addresses rewritten;
* `CatalogLint.Markup.IsAside` — what stands beside a literal: plain text without guillemets;
* `CatalogLint.Markup.IsHidden` — the mask of the plain form shows nothing of a literal;
* `CatalogLint.Markup.IsSealed` — a content in which nothing is rewritten and no span ends.

Main results:

* `CatalogLint.Markup.close_append_of_holdsEnd`,
  `CatalogLint.Markup.close_append_of_not_holdsEnd` — where a quoted span ends;
* `CatalogLint.Markup.within_bareAddress` — a bare address is not disturbed by plain text around it;
* `CatalogLint.Markup.not_holdsEnd_replaceAll` — a rule that writes quoted spans leaves an end of a
  span wherever it rewrites anything;
* `CatalogLint.Markup.normalize_literal` — **the content of a literal is rewritten in its place**;
* `CatalogLint.Markup.isSealed_iff` — the contents that hold no end of a span when they have been
  rewritten;
* `CatalogLint.Markup.isHidden_iff_isSealed` — **the literals of which nothing shows**.
-/

import CatalogLint.Proofs.Markup.Piece

set_option autoImplicit false

namespace CatalogLint.Markup

open Text (Rule replaceAll)

/-! ### Ends of quoted spans -/

/-- The text holds what ends a quoted span: a blank directly before a closing guillemet. -/
def HoldsEnd (text : Text) : Prop :=
  ∃ blank, Text.isBlank blank = true ∧ [blank, '»'] <:+: text

theorem HoldsEnd.mono {part text : Text} (h : HoldsEnd part) (hpart : part <:+: text) :
    HoldsEnd text := by
  obtain ⟨blank, hblank, hoccurs⟩ := h
  exact ⟨blank, hblank, hoccurs.trans hpart⟩

theorem holdsEnd_cons {c : Char} {text : Text} :
    HoldsEnd (c :: text) ↔ (Text.isBlank c = true ∧ text.head? = some '»') ∨ HoldsEnd text := by
  constructor
  · rintro ⟨blank, hblank, hoccurs⟩
    rcases List.infix_cons_iff.1 hoccurs with hstart | hoccurs
    · obtain ⟨rest, hrest⟩ := hstart
      cases hrest
      exact .inl ⟨hblank, rfl⟩
    · exact .inr ⟨blank, hblank, hoccurs⟩
  · rintro (⟨hblank, hhead⟩ | hrest)
    · obtain ⟨rest, rfl⟩ := List.head?_eq_some_iff.1 hhead
      exact ⟨c, hblank, (List.prefix_append [c, '»'] rest).isInfix⟩
    · exact hrest.mono (List.suffix_cons c text).isInfix

theorem holdsEnd_quoted (inner : Text) : HoldsEnd (quoted inner) :=
  ⟨Text.noBreakSpace, by decide, (List.suffix_append _ _).isInfix⟩

/-- Up to the end of the span that is in the text, nothing depends on what follows the text. -/
theorem close_append_of_holdsEnd {text : Text} (hline : '\n' ∉ text) (h : HoldsEnd text)
    (rest : Text) :
    ∃ inner last, Span.close (text ++ rest) = some (inner, last) ∧ inner.length < text.length := by
  induction text with
  | nil =>
      obtain ⟨blank, -, hoccurs⟩ := h
      cases List.infix_nil.1 hoccurs
  | cons c text ih =>
      obtain ⟨hc, hline⟩ := List.ne_and_not_mem_of_not_mem_cons hline
      rw [List.cons_append, Span.close]
      split
      · exact ⟨[], c, rfl, Nat.succ_pos _⟩
      · next hopen =>
        have hrest : HoldsEnd text := by
          refine (holdsEnd_cons.1 h).resolve_left ?_
          rintro ⟨hblank, hhead⟩
          obtain ⟨tail, rfl⟩ := List.head?_eq_some_iff.1 hhead
          exact hopen (by rw [hblank]; rfl)
        obtain ⟨inner, last, hclose, hlt⟩ := ih hline hrest
        rw [if_neg (Ne.symm hc), hclose]
        exact ⟨c :: inner, last, rfl, Nat.succ_lt_succ hlt⟩

/-- A text that holds no end of a span is the whole content of the span that ends behind it. -/
theorem close_append_of_not_holdsEnd {text : Text} (hline : '\n' ∉ text) (h : ¬HoldsEnd text)
    (rest : Text) :
    Span.close (text ++ Text.noBreakSpace :: '»' :: rest) = some (text, Text.noBreakSpace) := by
  induction text with
  | nil => rfl
  | cons c text ih =>
      obtain ⟨hc, hline⟩ := List.ne_and_not_mem_of_not_mem_cons hline
      obtain ⟨hfirst, hrest⟩ := not_or.1 (mt holdsEnd_cons.2 h)
      have hopen : ¬(Text.isBlank c &&
          (text ++ Text.noBreakSpace :: '»' :: rest).head? == some '»') = true := by
        rw [Bool.and_eq_true, beq_iff_eq]
        rintro ⟨hblank, hhead⟩
        cases text with
        | nil => exact absurd (Option.some.inj hhead) (by decide)
        | cons d text => exact hfirst ⟨hblank, hhead⟩
      rw [List.cons_append, Span.close, if_neg hopen, if_neg (Ne.symm hc), ih hline hrest]
      rfl

/-! ### The mask of a quoted text -/

theorem opensWith_maskRule : maskRule.OpensWith ["«"] := by
  intro text h
  obtain ⟨found, hmatch⟩ := Option.ne_none_iff_exists'.1 h
  obtain ⟨span, hspan, -⟩ := Option.map_eq_some_iff.1 hmatch
  obtain ⟨-, -, -, rest, rfl⟩ := Span.atStart_eq_some hspan
  exact ⟨_, List.mem_singleton_self _, List.prefix_append ['«'] _⟩

/-- Beside a span the mask shows the text. -/
theorem replaceAll_maskRule_append {beside : Text} (h : '«' ∉ beside) (rest : Text) :
    replaceAll maskRule (beside ++ rest) = beside ++ replaceAll maskRule rest :=
  Text.replaceAll_append_of_head_not_mem opensWith_maskRule
    (List.forall_mem_singleton.2 ⟨'«', rfl, h⟩)

section
variable {before inner after : Text}

theorem maskRule_quoted_append {rest content : Text} {last : Char}
    (h : Span.close (inner ++ Text.noBreakSpace :: '»' :: rest) = some (content, last)) :
    maskRule (quoted inner ++ rest) = some (content.length + 4,
      ['«', Text.noBreakSpace] ++ List.replicate content.length placeholder ++ [last, '»']) := by
  have hshape : quoted inner ++ rest =
      '«' :: Text.noBreakSpace :: (inner ++ Text.noBreakSpace :: '»' :: rest) := by
    simp [quoted]
  have hblank : Text.isBlank Text.noBreakSpace = true := by decide
  rw [hshape, maskRule, Span.atStart, if_pos hblank, h]
  rfl

/-- The mask hides a quoted text that holds no end of a span. -/
theorem maskQuoted_of_not_holdsEnd (hbefore : '«' ∉ before) (hafter : '«' ∉ after)
    (hline : '\n' ∉ inner) (h : ¬HoldsEnd inner) :
    maskQuoted (before ++ quoted inner ++ after) =
      before ++ quoted (List.replicate inner.length placeholder) ++ after := by
  have hmatch : maskRule (quoted inner ++ after) = some ((quoted inner).length,
      quoted (List.replicate inner.length placeholder)) := by
    rw [maskRule_quoted_append (close_append_of_not_holdsEnd hline h after)]
    simp [quoted]
  have hend : replaceAll maskRule after = after :=
    Text.replaceAll_eq_self_of_not_mem opensWith_maskRule (by decide) hafter
  rw [maskQuoted_eq, List.append_assoc, replaceAll_maskRule_append hbefore,
    Text.replaceAll_append_of_match (by simp [quoted]) hmatch, hend, List.append_assoc]

/-- The mask of a quoted text that holds an end of a span shows what is behind it. -/
theorem maskQuoted_ne_of_holdsEnd (hbefore : '«' ∉ before) (hline : '\n' ∉ inner)
    (h : HoldsEnd inner) (n : Nat) :
    maskQuoted (before ++ quoted inner ++ after) ≠
      before ++ quoted (List.replicate n placeholder) ++ after := by
  intro hmask
  obtain ⟨content, last, hclose, hlt⟩ :=
    close_append_of_holdsEnd hline h (Text.noBreakSpace :: '»' :: after)
  obtain rfl : n = inner.length := by
    have hlength := congrArg List.length hmask
    rw [length_maskQuoted] at hlength
    simp [quoted] at hlength
    omega
  have hlast : Text.isBlank last = true := (Span.close_eq_some hclose).2.1
  have hblank : last ≠ placeholder := by
    rintro rfl
    exact absurd hlast (by decide)
  obtain ⟨rest, hrest⟩ :=
    Text.image_prefix_replaceAll (by simp [quoted]) (maskRule_quoted_append hclose)
  rw [maskQuoted_eq, List.append_assoc, replaceAll_maskRule_append hbefore, List.append_assoc,
    List.append_cancel_left_eq, ← hrest] at hmask
  -- where the mask has the last blank of the shorter span, a hidden text has a placeholder
  obtain ⟨more, hmore⟩ := Nat.exists_eq_add_of_lt hlt
  rw [hmore, Nat.add_assoc, List.replicate_add, List.replicate_succ] at hmask
  have hlasts : last :: '»' :: rest = placeholder ::
      (List.replicate more placeholder ++ Text.noBreakSpace :: '»' :: after) := by
    simpa [quoted] using hmask
  exact hblank (List.cons.inj hlasts).1

end

/-! ### Rules that plain text does not disturb -/

theorem within_strong : strong.Within marks :=
  (Text.within_enclosed _ (by decide) (by decide)).mono (by decide)

theorem within_emphasis : emphasis.Within marks :=
  (Text.within_enclosed _ (by decide) (by decide)).mono (by decide)

theorem within_brackets : bareAddress.Within ['<', '>'] where
  begins := fun _ htext => opensWith_bareAddress.eq_none (by decide)
    fun c hc hmem => htext c hc (List.mem_append_left ['>'] hmem)
  bounded := by
    intro text length image hmatch
    obtain ⟨scheme, path, rest, rfl, -, rfl, -⟩ := bareAddress_eq_some_iff.1 hmatch
    have hslashes : "://".toList.length = 3 := rfl
    simp only [List.length_append, List.length_cons, hslashes]
    omega
  append := by
    intro text rest hrest
    ext ⟨length, image⟩
    simp only [bareAddress_eq_some_iff]
    constructor
    · rintro ⟨scheme, path, behind, hsplit, h⟩
      have hsplit : text ++ rest = ('<' :: (scheme ++ "://" ++ path) ++ ['>']) ++ behind := by
        simpa using hsplit
      -- the closing bracket is in the text, and so is all before it
      rcases List.append_eq_append_iff.1 hsplit with ⟨tail, hspan, rfl⟩ | ⟨tail, rfl, -⟩
      · cases tail with
        | nil => exact ⟨scheme, path, [], by simpa using hspan.symm, h⟩
        | cons c tail =>
            have hlast : (c :: tail).getLast? = some '>' := by
              rw [← List.getLast?_append_of_ne_nil text (List.cons_ne_nil c tail), ← hspan,
                List.getLast?_concat]
            exact absurd (by decide)
              (hrest '>' (List.mem_append_left _ (List.mem_of_getLast? hlast)))
      · exact ⟨scheme, path, tail, by simp, h⟩
    · rintro ⟨scheme, path, behind, rfl, h⟩
      exact ⟨scheme, path, behind ++ rest, by simp, h⟩

theorem within_bareAddress : bareAddress.Within marks := within_brackets.mono (by decide)

/-! ### Rules that write quoted spans -/

/-- A rule that writes quoted spans leaves an end of a span wherever it rewrites anything. -/
theorem not_holdsEnd_replaceAll {rule : Rule} (hnil : rule [] = none)
    (hrule : ∀ text length image, rule text = some (length, image) → HoldsEnd image) {text : Text} :
    ¬HoldsEnd (replaceAll rule text) ↔
      ¬HoldsEnd text ∧ ∀ rest, rest <:+ text → rule rest = none := by
  constructor
  · intro h
    have hnone : ∀ rest, rest <:+ text → rule rest = none := by
      induction text with
      | nil =>
          intro rest hrest
          rw [List.suffix_nil.1 hrest, hnil]
      | cons c text ih =>
          cases hmatch : rule (c :: text) with
          | some found =>
              have hstart := Text.image_prefix_replaceAll (List.cons_ne_nil c text) hmatch
              exact absurd ((hrule _ _ _ hmatch).mono hstart.isInfix) h
          | none =>
              rw [replaceAll, Text.replaceFrom, hmatch] at h
              intro rest hrest
              rcases List.suffix_cons_iff.1 hrest with rfl | hrest
              · exact hmatch
              · exact ih (mt (HoldsEnd.mono · (List.suffix_cons c _).isInfix) h) rest hrest
    exact ⟨Text.replaceAll_eq_self hnone ▸ h, hnone⟩
  · rintro ⟨h, hnone⟩
    rwa [Text.replaceAll_eq_self hnone]

theorem holdsEnd_of_enclosed {mark : Text} (text : Text) (length : Nat) (image : Text)
    (h : Text.enclosed mark mark quoted text = some (length, image)) : HoldsEnd image := by
  obtain ⟨rest, -, hspan⟩ := Option.bind_eq_some_iff.1 h
  obtain ⟨inner, -, heq⟩ := Option.map_eq_some_iff.1 hspan
  cases heq
  exact holdsEnd_quoted inner

theorem holdsEnd_of_bareAddress (text : Text) (length : Nat) (image : Text)
    (h : bareAddress text = some (length, image)) : HoldsEnd image := by
  obtain ⟨scheme, path, rest, -, -, -, rfl⟩ := bareAddress_eq_some_iff.1 h
  exact holdsEnd_quoted _

/-! ### The plain form of a literal -/

/-- The text with emphasis and bare addresses rewritten, the markup that needs no backquotes. -/
def emphasized (text : Text) : Text :=
  replaceAll bareAddress (replaceAll emphasis (replaceAll strong text))

theorem emphasized_append {before text after : Text} (hbefore : IsPlain before)
    (hafter : IsPlain after) :
    emphasized (before ++ text ++ after) = before ++ emphasized text ++ after := by
  rw [emphasized, within_strong.replaceAll_append hbefore hafter,
    within_emphasis.replaceAll_append hbefore hafter,
    within_bareAddress.replaceAll_append hbefore hafter, emphasized]

/-- When the literals are gone and no backquote is left, only emphasis and bare addresses remain to
be rewritten. -/
theorem normalize_eq_emphasized {text plain : Text}
    (hplain : replaceAll inlineLiteral (replaceAll doubleColon text) = plain)
    (h : '\x60' ∉ plain) : normalize text = emphasized plain := by
  have hquoted : ∀ mark : Text, (Text.enclosed mark mark quoted).AddsNo '\x60' := fun _ =>
    Text.addsNo_enclosed fun inner hmem => by simpa [quoted, Text.noBreakSpace] using hmem
  have hproposal : replaceAll proposalRole plain = plain :=
    Text.replaceAll_eq_self_of_not_mem (Text.opensWith_enclosed _ _ _) (by decide) h
  have hrole : replaceAll quotedRole plain = plain :=
    Text.replaceAll_eq_self_of_not_mem opensWith_quotedRole (by decide) h
  have hlink : '\x60' ∉ replaceAll emphasis (replaceAll strong plain) :=
    Text.not_mem_replaceAll (hquoted _) (Text.not_mem_replaceAll (hquoted _) h)
  simp only [normalize, passes, List.foldl_cons, List.foldl_nil, hplain, hproposal, hrole,
    Text.replaceAll_eq_self_of_not_mem opensWith_hyperlink (by decide) hlink, emphasized]

section
variable {before content after : Text}

/-- A literal in plain text is the only one, whatever its content. -/
theorem replaceAll_inlineLiteral (hbefore : IsPlain before) (hafter : IsPlain after)
    (hbackquote : '\x60' ∉ content) (hline : '\n' ∉ content) :
    replaceAll inlineLiteral (before ++ (Piece.enclosed .literal content).written ++ after) =
      before ++ quoted content ++ after := by
  have hstart : ∀ mark ∈ ["\x60\x60".toList], ∃ c, mark.head? = some c ∧ c ∉ before :=
    List.forall_mem_singleton.2 ⟨'\x60', rfl, hbefore.not_mem (by decide)⟩
  have hmatch : inlineLiteral ((Piece.enclosed .literal content).written ++ after) =
      some ((Piece.enclosed .literal content).written.length, quoted content) :=
    Text.enclosed_append (c := '\x60') rfl hbackquote hline after
  have hend : replaceAll inlineLiteral after = after :=
    Text.replaceAll_eq_self_of_not_mem opensWith_inlineLiteral (by decide)
      (hafter.not_mem (c := '\x60') (by decide))
  rw [List.append_assoc, Text.replaceAll_append_of_head_not_mem opensWith_inlineLiteral hstart,
    Text.replaceAll_append_of_match (Piece.written_ne_nil _) hmatch, hend, List.append_assoc]

/-- Between plain texts a quoted text keeps its guillemets while its content is rewritten. -/
theorem emphasized_quoted (hbefore : IsPlain before) (hafter : IsPlain after) :
    emphasized (before ++ quoted content ++ after) =
      before ++ quoted (emphasized content) ++ after := by
  have hsplit : ∀ inner, before ++ quoted inner ++ after =
      (before ++ ['«', Text.noBreakSpace]) ++ inner ++ ([Text.noBreakSpace, '»'] ++ after) := by
    intro inner
    simp [quoted]
  have hopening : IsPlain (before ++ ['«', Text.noBreakSpace]) :=
    List.forall_mem_append.2 ⟨hbefore, by decide⟩
  have hclosing : IsPlain ([Text.noBreakSpace, '»'] ++ after) :=
    List.forall_mem_append.2 ⟨by decide, hafter⟩
  rw [hsplit, emphasized_append hopening hclosing, ← hsplit]

/-- The double colons of a literal are replaced before it becomes a quoted text. -/
theorem replaceAll_doubleColon_literal (hbefore : IsPlain before) (hafter : IsPlain after) :
    replaceAll doubleColon (before ++ (Piece.enclosed .literal content).written ++ after) =
      before ++ (Piece.enclosed .literal (replaceAll doubleColon content)).written ++ after := by
  have hsplit : ∀ inner, before ++ (Piece.enclosed .literal inner).written ++ after =
      (before ++ "\x60\x60") ++ inner ++ ("\x60\x60" ++ after) := by
    intro inner
    simp [Piece.written, Enclosure.opening, Enclosure.closing]
  have hcolons : "::".toList ⊆ marks := by decide
  have hopening : ∀ c ∈ before ++ "\x60\x60", c ∉ "::".toList :=
    List.forall_mem_append.2 ⟨fun c hc hmem => hbefore c hc (hcolons hmem), by decide⟩
  have hclosing : ∀ c ∈ "\x60\x60" ++ after, c ∉ "::".toList :=
    List.forall_mem_append.2 ⟨by decide, fun c hc hmem => hafter c hc (hcolons hmem)⟩
  have hwithin : doubleColon.Within "::" := Text.within_replacing _ (by decide)
  rw [hsplit, hwithin.replaceAll_append hopening hclosing, ← hsplit]

/-- **The content of a literal is rewritten in its place**, and stays between guillemets. -/
theorem normalize_literal (hbefore : IsPlain before) (hafter : IsPlain after)
    (hbackquote : '\x60' ∉ content) (hline : '\n' ∉ content) :
    normalize (before ++ (Piece.enclosed .literal content).written ++ after) =
      before ++ quoted (normalize content) ++ after := by
  obtain ⟨inner, hinner⟩ : ∃ inner, replaceAll doubleColon content = inner := ⟨_, rfl⟩
  have hbackquote : '\x60' ∉ inner :=
    hinner ▸ Text.not_mem_replaceAll (Text.addsNo_replacing (by decide)) hbackquote
  have hline : '\n' ∉ inner :=
    hinner ▸ Text.not_mem_replaceAll (Text.addsNo_replacing (by decide)) hline
  have hliteral : replaceAll inlineLiteral (replaceAll doubleColon
      (before ++ (Piece.enclosed .literal content).written ++ after)) =
        before ++ quoted inner ++ after := by
    rw [replaceAll_doubleColon_literal hbefore hafter, hinner,
      replaceAll_inlineLiteral hbefore hafter hbackquote hline]
  have hcontent : replaceAll inlineLiteral (replaceAll doubleColon content) = inner := by
    rw [hinner, Text.replaceAll_eq_self_of_not_mem opensWith_inlineLiteral (by decide) hbackquote]
  have hfree : '\x60' ∉ before ++ quoted inner ++ after := by
    simpa [quoted, Text.noBreakSpace, hbackquote] using
      ⟨hbefore.not_mem (by decide), hafter.not_mem (by decide)⟩
  rw [normalize_eq_emphasized hliteral hfree, normalize_eq_emphasized hcontent hbackquote,
    emphasized_quoted hbefore hafter]

end

/-! ### Contents of which nothing shows -/

/-- A content in which nothing is rewritten and no quoted span ends. -/
structure IsSealed (content : Text) : Prop where
  /-- There are no two asterisks, between which there would be emphasis. -/
  asterisk : content.count '*' ≤ 1
  /-- There is no bare address. -/
  address : ∀ rest, rest <:+ content → bareAddress rest = none
  /-- There is no blank before a closing guillemet. -/
  closing : ¬HoldsEnd content

/-- Between two marks there are at least the characters of the marks. -/
theorem enclosed_eq_none_of_count_lt {opening closing text : Text} {image : Text → Text} {c : Char}
    (h : text.count c < opening.count c + closing.count c) :
    Text.enclosed opening closing image text = none := by
  by_contra hmatch
  obtain ⟨found, hfound⟩ := Option.ne_none_iff_exists'.1 hmatch
  obtain ⟨rest, hrest, hspan⟩ := Option.bind_eq_some_iff.1 hfound
  obtain ⟨inner, hinner, -⟩ := Option.map_eq_some_iff.1 hspan
  have hcount := (Text.upTo_eq_some hinner).2.sublist.count_le c
  rw [List.count_append] at hcount
  rw [Text.dropStart?_eq_some_iff.1 hrest, List.count_append] at h
  omega

/-- Two asterisks on a line are marks of emphasis. -/
theorem count_asterisk_le_one {text : Text} (hline : '\n' ∉ text)
    (h : ∀ rest, rest <:+ text → emphasis rest = none) : text.count '*' ≤ 1 := by
  induction text with
  | nil => exact Nat.zero_le 1
  | cons c text ih =>
      have hbehind : '\n' ∉ text := (List.ne_and_not_mem_of_not_mem_cons hline).2
      rcases eq_or_ne c '*' with rfl | hc
      · have hnone : '*' ∉ text := by
          intro hmem
          obtain ⟨inner, rest, rfl, hinner⟩ := List.eq_append_cons_of_mem hmem
          have hmatch : emphasis ("*" ++ inner ++ "*" ++ rest) = some (_, quoted inner) :=
            Text.enclosed_append (c := '*') rfl hinner
              (fun hmem => hbehind (List.mem_append_left _ hmem)) rest
          have hsame : "*".toList ++ inner ++ "*".toList ++ rest =
              '*' :: (inner ++ '*' :: rest) := by
            simp
          rw [hsame, h _ (List.suffix_refl _)] at hmatch
          cases hmatch
        rw [List.count_cons_self, List.count_eq_zero.2 hnone]
      · rw [List.count_cons_of_ne hc]
        exact ih hbehind fun rest hrest => h rest (hrest.trans (List.suffix_cons c text))

namespace IsSealed

variable {content rest : Text}

/-- A mark of emphasis opens nothing, since there is none to close it. -/
theorem enclosed_eq_none (h : IsSealed content) {mark : Text} (hmark : '*' ∈ mark)
    (hrest : rest <:+ content) : Text.enclosed mark mark quoted rest = none := by
  have hcount : rest.count '*' ≤ 1 := (hrest.sublist.count_le '*').trans h.asterisk
  have hpos : 0 < mark.count '*' := List.count_pos_iff.2 hmark
  refine enclosed_eq_none_of_count_lt (c := '*') ?_
  omega

theorem emphasized_eq_self (h : IsSealed content) : emphasized content = content := by
  have hstrong : replaceAll strong content = content :=
    Text.replaceAll_eq_self fun _ => h.enclosed_eq_none (by decide)
  have hemphasis : replaceAll emphasis content = content :=
    Text.replaceAll_eq_self fun _ => h.enclosed_eq_none (by decide)
  rw [emphasized, hstrong, hemphasis, Text.replaceAll_eq_self h.address]

end IsSealed

/-- A content holds no end of a span when it has been rewritten, if and only if it held none and
nothing is rewritten in it. -/
theorem isSealed_iff {content : Text} (hline : '\n' ∉ content) :
    IsSealed content ↔ ¬HoldsEnd (emphasized content) := by
  have hstrong : ∀ text length image, strong text = some (length, image) → HoldsEnd image :=
    holdsEnd_of_enclosed
  have hemphasis : ∀ text length image, emphasis text = some (length, image) → HoldsEnd image :=
    holdsEnd_of_enclosed
  constructor
  · intro h
    rw [h.emphasized_eq_self]
    exact h.closing
  · intro h
    rw [emphasized, not_holdsEnd_replaceAll rfl holdsEnd_of_bareAddress,
      not_holdsEnd_replaceAll rfl hemphasis, not_holdsEnd_replaceAll rfl hstrong] at h
    obtain ⟨⟨⟨hclosing, hnoStrong⟩, hnoEmphasis⟩, hnoAddress⟩ := h
    rw [Text.replaceAll_eq_self hnoStrong] at hnoEmphasis hnoAddress
    rw [Text.replaceAll_eq_self hnoEmphasis] at hnoAddress
    exact ⟨count_asterisk_le_one hline hnoEmphasis, hnoAddress, hclosing⟩

/-! ### Literals of which nothing shows -/

/-- What stands beside a literal: plain text without guillemets. -/
structure IsAside (text : Text) : Prop where
  plain : IsPlain text
  guillemets : '«' ∉ text ∧ '»' ∉ text

/-- In the mask of the plain form of the text, the literal is a quoted span with placeholders, and
what stands beside it is unchanged. -/
def IsHidden (before content after : Text) : Prop :=
  ∃ n, 0 < n ∧
    maskQuoted (normalize (before ++ (Piece.enclosed .literal content).written ++ after)) =
      before ++ quoted (List.replicate n placeholder) ++ after

theorem replaceAll_doubleColon_ne_nil {content : Text} (h : content ≠ []) :
    replaceAll doubleColon content ≠ [] := by
  obtain ⟨c, content, rfl⟩ := List.exists_cons_of_ne_nil h
  rw [replaceAll, Text.replaceFrom]
  split
  · next length image hmatch =>
    obtain ⟨rest, -, heq⟩ := Option.map_eq_some_iff.1 hmatch
    cases heq
    exact List.cons_ne_nil _ _
  · exact List.cons_ne_nil _ _

/-- **Nothing of a literal shows** if and only if its content, with the double colons replaced, has
no two asterisks, no bare address and no blank before a closing guillemet. -/
theorem isHidden_iff_isSealed {before content after : Text} (hbefore : IsAside before)
    (hafter : IsAside after) (hne : content ≠ []) (hbackquote : '\x60' ∉ content)
    (hline : '\n' ∉ content) :
    IsHidden before content after ↔ IsSealed (replaceAll doubleColon content) := by
  have hcolons : '\n' ∉ replaceAll doubleColon content ∧ '\x60' ∉ replaceAll doubleColon content :=
    ⟨Text.not_mem_replaceAll (Text.addsNo_replacing (by decide)) hline,
      Text.not_mem_replaceAll (Text.addsNo_replacing (by decide)) hbackquote⟩
  have hplain : normalize content = emphasized (replaceAll doubleColon content) :=
    normalize_eq_emphasized
      (Text.replaceAll_eq_self_of_not_mem opensWith_inlineLiteral (by decide) hcolons.2) hcolons.2
  have hnormal : '\n' ∉ normalize content := newline_not_mem_normalize hline
  rw [isSealed_iff hcolons.1, ← hplain, IsHidden,
    normalize_literal hbefore.plain hafter.plain hbackquote hline]
  constructor
  · rintro ⟨n, -, hmask⟩ hends
    exact maskQuoted_ne_of_holdsEnd hbefore.guillemets.1 hnormal hends n hmask
  · intro hends
    refine ⟨(normalize content).length, ?_, maskQuoted_of_not_holdsEnd hbefore.guillemets.1
      hafter.guillemets.1 hnormal hends⟩
    -- nothing is rewritten in the content, so it does not become empty
    have hsealed := (isSealed_iff hcolons.1).2 (hplain ▸ hends)
    rw [hplain, hsealed.emphasized_eq_self, List.length_pos_iff]
    exact replaceAll_doubleColon_ne_nil hne

theorem isHidden_unpacking : IsHidden "avec " "std::print(*args)" ", puis" := by
  have hcontent : replaceAll doubleColon "std::print(*args)" = "std:print(*args)".toList := by rfl
  have haddress : ∀ rest ∈ "std:print(*args)".toList.tails, bareAddress rest = none := by decide
  refine (isHidden_iff_isSealed ⟨by decide, by decide⟩ ⟨by decide, by decide⟩ (by decide)
    (by decide) (by decide)).2 ?_
  rw [hcontent]
  refine ⟨by decide, fun rest hrest => haddress rest ((List.mem_tails _ _).2 hrest), ?_⟩
  rintro ⟨blank, -, hoccurs⟩
  exact absurd (hoccurs.subset (List.mem_cons_of_mem _ List.mem_cons_self)) (by decide)

/-- A call with two starred arguments shows: what is between the asterisks is taken for emphasis. -/
theorem not_forall_isHidden : ¬∀ before content after : Text, IsAside before → IsAside after →
    content ≠ [] → '\x60' ∉ content → '\n' ∉ content → IsHidden before content after := by
  intro h
  obtain ⟨n, -, hmask⟩ := h [] "f(*args, **kwargs)" [] ⟨by decide, by decide⟩
    ⟨by decide, by decide⟩ (by decide) (by decide) (by decide)
  have hshown : maskQuoted (normalize
      ([] ++ (Piece.enclosed .literal "f(*args, **kwargs)").written ++ [])) =
        "«\u00A0xxxxxxxxxx\u00A0»*kwargs)\u00A0»".toList := by cbv
  have hmem : '*' ∈ quoted (List.replicate n placeholder) := by
    rw [← List.append_nil (quoted _), ← List.nil_append (quoted _), ← hmask, hshown]
    decide
  simp [quoted, Text.noBreakSpace, placeholder] at hmem

end CatalogLint.Markup
