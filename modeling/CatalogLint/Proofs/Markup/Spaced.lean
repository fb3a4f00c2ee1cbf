/-
**How the plain form of a text spaces its guillemets.**

Every rule but one leaves guillemets well spaced: it takes a part that begins and ends with marks,
and if it quotes a content, it writes non-breakable spaces inside the guillemets.  The exception is
the rule for hyperlinks.  It drops the blanks at the end of the label, and these may be the
non-breakable space that an earlier rule has written behind an opening guillemet.  Then the plain
space before the parenthesis stands behind the guillemet.

So the plain form of a text without guillemets has a non-breakable space before every closing one,
and behind every opening one, unless a hyperlink has a label that ends with it.

Main definitions:

* `CatalogLint.Markup.WellSpaced` — the guillemets of a text are spaced on their inside;
* `CatalogLint.Markup.Narrow` — no plain space stands behind an opening guillemet;
* `CatalogLint.Markup.KeepsSpacing` — a rule that keeps guillemets well spaced;
* `CatalogLint.Markup.EndsOpen` — a hyperlink whose label ends with an opening guillemet;
* `CatalogLint.Markup.SpacesGuillemets` — how the plain form of a text spaces its guillemets.

Main results:

* `CatalogLint.Markup.KeepsSpacing.wellSpaced_replaceAll` — a replacement keeps the spacing if each
  single part keeps it;
* `CatalogLint.Markup.narrow_replaceAll_hyperlink_iff` — the hyperlinks that spoil the spacing;
* `CatalogLint.Markup.spacesGuillemets_normalize` — **the guillemets in the plain form of a text
  that has none**.
-/

import CatalogLint.Proofs.Checker.Guillemet
import CatalogLint.Proofs.Markup.Composed
import CatalogLint.Proofs.Markup.Shape
import Mathlib.Data.List.Chain

set_option autoImplicit false

namespace CatalogLint.Markup

open Text (Rule)

/-! ### Well-spaced texts -/

/-- A space stands behind an opening guillemet, and before a closing one.  It is a non-breakable
one, but if the spacing is loose, a plain one may stand behind an opening guillemet. -/
def Spaced (loose : Bool) (c d : Char) : Prop :=
  (c = '«' → d = Text.noBreakSpace ∨ loose = true ∧ d = ' ') ∧ (d = '»' → c = Text.noBreakSpace)

/-- Every guillemet of the text is spaced on its inside. -/
structure WellSpaced (loose : Bool) (text : Text) : Prop where
  /-- The text does not begin with a closing guillemet. -/
  head : text.head? ≠ some '»'
  /-- The text does not end with an opening guillemet. -/
  last : text.getLast? ≠ some '«'
  /-- Each two characters in a row are spaced. -/
  chain : List.IsChain (Spaced loose) text

/-- No plain space stands behind an opening guillemet. -/
def Narrow (text : Text) : Prop := List.IsChain (fun c d => ¬(c = '«' ∧ d = ' ')) text

/-- The character is neither a guillemet nor one of the spaces that belong to guillemets. -/
def IsInert (c : Char) : Prop := c ∉ ['«', '»', Text.noBreakSpace, ' ']

instance : DecidablePred IsInert := fun c => inferInstanceAs (Decidable (c ∉ _))

section
variable {loose : Bool} {text first second : Text}

theorem wellSpaced_of_not_mem (hopening : '«' ∉ text) (hclosing : '»' ∉ text) :
    WellSpaced loose text := by
  refine ⟨fun h => hclosing (List.mem_of_mem_head? h), fun h => hopening (List.mem_of_getLast? h),
    List.isChain_iff_getElem.2 fun index hlt => ⟨fun h => ?_, fun h => ?_⟩⟩
  · exact absurd (h ▸ List.getElem_mem _) hopening
  · exact absurd (h ▸ List.getElem_mem _) hclosing

theorem WellSpaced.append (hfirst : WellSpaced loose first) (hsecond : WellSpaced loose second) :
    WellSpaced loose (first ++ second) := by
  refine ⟨fun h => ?_, fun h => ?_, hfirst.chain.append hsecond.chain fun c hc d hd =>
    ⟨?_, ?_⟩⟩
  · rw [List.head?_append, Option.or_eq_some_iff] at h
    exact h.elim hfirst.head fun h => hsecond.head h.2
  · rw [List.getLast?_append, Option.or_eq_some_iff] at h
    exact h.elim hsecond.last fun h => hfirst.last h.2
  · rintro rfl
    exact absurd hc hfirst.last
  · rintro rfl
    exact absurd hd hsecond.head

/-- An inert character is at the border of two texts. -/
def IsCut (first second : Text) : Prop :=
  (∃ c ∈ first.getLast?, IsInert c) ∨ ∃ c ∈ second.head?, IsInert c

/-- Where a text is cut at an inert character, both parts are as well spaced as the whole. -/
theorem WellSpaced.of_append (h : WellSpaced loose (first ++ second)) (hcut : IsCut first second) :
    WellSpaced loose first ∧ WellSpaced loose second := by
  obtain ⟨hfirst, hsecond, hborder⟩ := List.isChain_append.1 h.chain
  have hhead : first.head? ≠ some '»' := by
    intro hhead
    exact h.head (by rw [List.head?_append, hhead, Option.some_or])
  have hlast : second.getLast? ≠ some '«' := by
    intro hlast
    exact h.last (by rw [List.getLast?_append, hlast, Option.some_or])
  -- beside an inert character there is neither an open guillemet nor one that must be closed
  obtain ⟨c, hc, hinert⟩ | ⟨d, hd, hinert⟩ := hcut
  · refine ⟨⟨hhead, fun hopening => ?_, hfirst⟩, fun hclosing => ?_, hlast, hsecond⟩
    · obtain rfl : c = '«' := Option.some.inj (hc.symm.trans hopening)
      exact hinert (by decide)
    · obtain rfl := (hborder c hc '»' hclosing).2 rfl
      exact hinert (by decide)
  · refine ⟨⟨hhead, fun hopening => ?_, hfirst⟩, fun hclosing => ?_, hlast, hsecond⟩
    · obtain rfl | ⟨-, rfl⟩ := (hborder '«' hopening d hd).1 rfl
      · exact hinert (by decide)
      · exact hinert (by decide)
    · obtain rfl : d = '»' := Option.some.inj (hd.symm.trans hclosing)
      exact hinert (by decide)

/-- What stands between two texts without guillemets and spaces is as well spaced as the whole. -/
theorem WellSpaced.of_enclosed {opening closing : Text}
    (h : WellSpaced loose (opening ++ text ++ closing))
    (hopening : ∃ c ∈ opening.getLast?, IsInert c) (hclosing : ∃ c ∈ closing.head?, IsInert c) :
    WellSpaced loose text :=
  ((h.of_append (.inr hclosing)).1.of_append (.inl hopening)).2

theorem WellSpaced.quoted (h : WellSpaced loose text) : WellSpaced loose (quoted text) := by
  have hopening : WellSpaced loose ['«', Text.noBreakSpace] :=
    ⟨by decide, by decide,
      .cons_cons ⟨fun _ => .inl rfl, fun h => absurd h (by decide)⟩ (.singleton _)⟩
  have hclosing : WellSpaced loose [Text.noBreakSpace, '»'] :=
    ⟨by decide, by decide,
      .cons_cons ⟨fun h => absurd h (by decide), fun _ => rfl⟩ (.singleton _)⟩
  exact (hopening.append h).append hclosing

/-- The strict spacing is the loose one without plain spaces. -/
theorem wellSpaced_false_iff : WellSpaced false text ↔ WellSpaced true text ∧ Narrow text := by
  constructor
  · rintro ⟨hhead, hlast, hchain⟩
    refine ⟨⟨hhead, hlast, hchain.imp fun c d h => ⟨fun hopening => ?_, h.2⟩⟩,
      hchain.imp fun c d h hplain => ?_⟩
    · exact .inl ((h.1 hopening).resolve_right (by simp))
    · obtain ⟨rfl, rfl⟩ := hplain
      exact absurd (h.1 rfl) (by decide)
  · rintro ⟨⟨hhead, hlast, hchain⟩, hnarrow⟩
    refine ⟨hhead, hlast, List.isChain_iff_getElem.2 fun index hlt => ?_⟩
    obtain ⟨hbehind, hbefore⟩ := hchain.getElem index hlt
    refine ⟨fun hopening => .inl ((hbehind hopening).resolve_right fun hplain => ?_), hbefore⟩
    exact hnarrow.getElem index hlt ⟨hopening, hplain.2⟩

theorem WellSpaced.narrow (h : WellSpaced false text) : Narrow text := (wellSpaced_false_iff.1 h).2

/-! ### The spacing, place by place -/

/-- A non-breakable space stands before every closing guillemet. -/
theorem WellSpaced.before_closing (h : WellSpaced loose text) {index : Nat}
    (hindex : text[index]? = some '»') :
    ∃ before, index = before + 1 ∧ text[before]? = some Text.noBreakSpace := by
  cases index with
  | zero => exact absurd (List.head?_eq_getElem?.trans hindex) h.head
  | succ before =>
      obtain ⟨hlt, hclosing⟩ := List.getElem?_eq_some_iff.1 hindex
      have hspace := (h.chain.getElem before hlt).2 hclosing
      exact ⟨before, rfl, List.getElem?_eq_some_iff.2 ⟨Nat.lt_of_succ_lt hlt, hspace⟩⟩

/-- A space stands behind every opening guillemet. -/
theorem WellSpaced.behind_opening (h : WellSpaced loose text) {index : Nat}
    (hindex : text[index]? = some '«') :
    text[index + 1]? = some Text.noBreakSpace ∨ loose = true ∧ text[index + 1]? = some ' ' := by
  obtain ⟨hlt, hopening⟩ := List.getElem?_eq_some_iff.1 hindex
  have hnext : index + 1 < text.length := by
    by_contra hend
    have hindexlast : index = text.length - 1 := by omega
    rw [hindexlast, ← List.getLast?_eq_getElem?] at hindex
    exact h.last hindex
  rw [List.getElem?_eq_getElem hnext, Option.some.injEq, Option.some.injEq]
  exact (h.chain.getElem index hnext).1 hopening

theorem WellSpaced.narrow_iff (h : WellSpaced true text) :
    Narrow text ↔
      ∀ index, text[index]? = some '«' → text[index + 1]? = some Text.noBreakSpace := by
  constructor
  · intro hnarrow index hindex
    refine (h.behind_opening hindex).resolve_right fun ⟨_, hplain⟩ => ?_
    obtain ⟨_, hopening⟩ := List.getElem?_eq_some_iff.1 hindex
    obtain ⟨hnext, hplain⟩ := List.getElem?_eq_some_iff.1 hplain
    exact hnarrow.getElem index hnext ⟨hopening, hplain⟩
  · intro hall
    refine List.isChain_iff_getElem.2 fun index hnext ⟨hopening, hplain⟩ => ?_
    have hspace := hall index (List.getElem?_eq_some_iff.2 ⟨Nat.lt_of_succ_lt hnext, hopening⟩)
    rw [List.getElem?_eq_getElem hnext, hplain] at hspace
    exact absurd hspace (by decide)

end

/-! ### Rules that keep the spacing -/

/-- The text begins and ends with inert characters. -/
def InertEnds (text : Text) : Prop :=
  (∃ c ∈ text.head?, IsInert c) ∧ ∃ c ∈ text.getLast?, IsInert c

instance : DecidablePred InertEnds := fun _ => inferInstanceAs (Decidable (_ ∧ _))

/-- The rule replaces parts that begin and end with inert characters, and the image of a well-spaced
part is well spaced. -/
def KeepsSpacing (loose : Bool) (rule : Rule) : Prop :=
  rule.Rewrites fun part image => InertEnds part ∧ (WellSpaced loose part → WellSpaced loose image)

section
variable {loose : Bool} {rule : Rule} {opening closing : Text}

theorem InertEnds.ne_nil {text : Text} (h : InertEnds text) : text ≠ [] := by
  rintro rfl
  obtain ⟨⟨c, hc, -⟩, -⟩ := h
  cases hc

theorem InertEnds.append (hopening : InertEnds opening) (hclosing : InertEnds closing)
    (inner : Text) : InertEnds (opening ++ inner ++ closing) := by
  obtain ⟨⟨c, hc, hfirst⟩, -⟩ := hopening
  obtain ⟨-, d, hd, hlast⟩ := hclosing
  refine ⟨⟨c, ?_, hfirst⟩, ⟨d, ?_, hlast⟩⟩
  · rw [List.append_assoc, List.head?_append, hc]
    rfl
  · rw [List.getLast?_append, hd]
    rfl

/-- What stands before a part, the part and what stands behind it are as well spaced as the
whole. -/
theorem WellSpaced.of_parts {before part rest : Text}
    (h : WellSpaced loose (before ++ part ++ rest)) (hends : InertEnds part) :
    WellSpaced loose before ∧ WellSpaced loose part ∧ WellSpaced loose rest := by
  obtain ⟨hhead, c, hc, hinert⟩ := hends
  have hborder : ∃ d ∈ (before ++ part).getLast?, IsInert d :=
    ⟨c, by rw [List.getLast?_append, hc, Option.some_or]; rfl, hinert⟩
  obtain ⟨hfront, hrest⟩ := h.of_append (.inl hborder)
  obtain ⟨hbefore, hpart⟩ := hfront.of_append (.inr hhead)
  exact ⟨hbefore, hpart, hrest⟩

/-- **A replacement keeps the spacing if each single part keeps it.** -/
theorem KeepsSpacing.wellSpaced_replaceAll (h : KeepsSpacing loose rule) {text : Text}
    (htext : WellSpaced loose text) : WellSpaced loose (Text.replaceAll rule text) := by
  induction text using Rule.Rewrites.inductionOn h with
  | unmatched text hnone => rwa [hnone.replaceAll_eq]
  | matched before part rest image hfirst hshape ih =>
      obtain ⟨hends, himage⟩ := hshape
      obtain ⟨hbefore, hpart, hrest⟩ := htext.of_parts hends
      rw [hfirst.replaceAll_eq]
      exact (hbefore.append (himage hpart)).append (ih hrest)

theorem KeepsSpacing.wellSpaced_foldl {rules : List Rule}
    (hrules : ∀ rule ∈ rules, KeepsSpacing loose rule) {text : Text}
    (htext : WellSpaced loose text) :
    WellSpaced loose (rules.foldl (fun text rule => Text.replaceAll rule text) text) :=
  List.foldlRecOn rules _ htext fun _ hspaced rule hrule =>
    (hrules rule hrule).wellSpaced_replaceAll hspaced

theorem keepsSpacing_enclosed {image : Text → Text} (hopening : InertEnds opening)
    (hclosing : InertEnds closing)
    (himage : ∀ inner, WellSpaced loose inner → WellSpaced loose (image inner)) :
    KeepsSpacing loose (Text.enclosed opening closing image) := by
  refine (Text.rewrites_enclosed image hopening.ne_nil).mono ?_
  rintro _ _ ⟨inner, rfl, rfl⟩
  exact ⟨hopening.append hclosing inner,
    fun hpart => himage inner (hpart.of_enclosed hopening.2 hclosing.1)⟩

theorem keepsSpacing_quotedRole : KeepsSpacing loose quotedRole := by
  have hmarks : ∀ role ∈ roles, InertEnds (Enclosure.roleMark role) := by decide
  have hclosing : InertEnds ['\x60'] := by decide
  refine rewrites_quotedRole.mono ?_
  rintro _ _ ⟨role, hrole, inner, rfl, rfl⟩
  exact ⟨(hmarks role hrole).append hclosing inner,
    fun hpart => (hpart.of_enclosed (hmarks role hrole).2 hclosing.1).quoted⟩

theorem keepsSpacing_bareAddress : KeepsSpacing loose bareAddress := by
  have hopening : InertEnds ['<'] := by decide
  have hclosing : InertEnds ['>'] := by decide
  refine rewrites_bareAddress.mono ?_
  rintro _ _ ⟨scheme, path, rfl, -, rfl⟩
  exact ⟨hopening.append hclosing _,
    fun hpart => WellSpaced.quoted (hpart.of_enclosed hopening.2 hclosing.1)⟩

/-- The rules before the one for hyperlinks keep the spacing. -/
theorem keepsSpacing_of_mem_take : ∀ rule ∈ passes.take 6, KeepsSpacing loose rule := by
  have hcolons : KeepsSpacing loose doubleColon := by
    refine (Text.rewrites_replacing (by decide)).mono ?_
    rintro _ _ ⟨rfl, rfl⟩
    exact ⟨by decide, fun _ => wellSpaced_of_not_mem (by decide) (by decide)⟩
  have hproposal : ∀ inner, WellSpaced loose inner → WellSpaced loose ("PEP " ++ inner) :=
    fun _ => (wellSpaced_of_not_mem (by decide) (by decide)).append
  have hquoted : ∀ inner, WellSpaced loose inner → WellSpaced loose (quoted inner) :=
    fun _ => WellSpaced.quoted
  simp only [passes, List.take_succ_cons, List.take_zero, List.forall_mem_cons]
  exact ⟨hcolons, keepsSpacing_enclosed (by decide) (by decide) hquoted,
    keepsSpacing_enclosed (by decide) (by decide) hproposal, keepsSpacing_quotedRole,
    keepsSpacing_enclosed (by decide) (by decide) hquoted,
    keepsSpacing_enclosed (by decide) (by decide) hquoted, List.forall_mem_nil _⟩

end

/-! ### Hyperlinks -/

/-- The label of the hyperlink ends with an opening guillemet, but for blanks. -/
def EndsOpen (link : Text) : Prop :=
  (Text.trimEnd (upToMark ['<'] link.tail)).getLast? = some '«'

instance : DecidablePred EndsOpen := fun _ => inferInstanceAs (Decidable (_ = _))

section
variable {loose : Bool} {label address finish part image : Text}

theorem IsLink.label_eq (h : IsLink label address finish part image) :
    upToMark ['<'] part.tail = label := by
  have hbracket : ∀ c ∈ label, c ∉ ['<'] := by
    intro c hc hmem
    obtain rfl := List.mem_singleton.1 hmem
    exact h.not_mem_label hc
  rw [h.part_eq, List.tail_cons, upToMark_append hbracket (List.mem_singleton_self _)]

theorem IsLink.endsOpen_iff (h : IsLink label address finish part image) :
    EndsOpen part ↔ (Text.trimEnd label).getLast? = some '«' := by
  rw [EndsOpen, h.label_eq]

theorem IsLink.inertEnds (h : IsLink label address finish part image) : InertEnds part := by
  have hopening : InertEnds ['\x60'] := by decide
  have hfinish : ∀ finish ∈ [['_'], ['_', '_']], InertEnds finish := by decide
  have hends := hopening.append (hfinish finish h.finish_mem)
    (label ++ '<' :: (address ++ ['>', '\x60']))
  rw [h.part_eq]
  simpa using hends

/-- Where a label has lost the blanks at its end, the parenthesis behind it is well spaced, unless
the label ends with an opening guillemet. -/
theorem WellSpaced.trimEnd_append (hlabel : WellSpaced loose label)
    (hend : loose = true ∨ ¬(Text.trimEnd label).getLast? = some '«') :
    WellSpaced loose (Text.trimEnd label ++ " (") := by
  obtain ⟨blanks, hblanks⟩ := Text.trimEnd_prefix label
  have hparenthesis : WellSpaced loose " (" := wellSpaced_of_not_mem (by decide) (by decide)
  rw [← hblanks] at hlabel
  refine ⟨fun hhead => ?_, fun hlast => ?_,
    hlabel.chain.left_of_append.append hparenthesis.chain fun c hc d hd => ?_⟩
  · rw [List.head?_append, Option.or_eq_some_iff] at hhead
    refine hhead.elim (fun hhead => hlabel.head ?_) fun hhead => hparenthesis.head hhead.2
    rw [List.head?_append, hhead, Option.some_or]
  · rw [List.getLast?_append, Option.or_eq_some_iff] at hlast
    exact hlast.elim hparenthesis.last fun hlast => absurd hlast.1 (by decide)
  · obtain rfl : ' ' = d := Option.some.inj hd
    refine ⟨?_, fun h => absurd h (by decide)⟩
    rintro rfl
    exact .inr ⟨hend.resolve_right fun h => h hc, rfl⟩

/-- A hyperlink is spaced as its label and its address are, but for the end of the label. -/
theorem IsLink.wellSpaced_image (h : IsLink label address finish part image)
    (hpart : WellSpaced loose part) (hend : loose = true ∨ ¬EndsOpen part) :
    WellSpaced loose image := by
  rw [h.endsOpen_iff] at hend
  have haroundLabel : part = ['\x60'] ++ label ++ '<' :: (address ++ '>' :: '\x60' :: finish) :=
    h.part_eq
  have haroundAddress :
      part = '\x60' :: label ++ ['<'] ++ address ++ '>' :: '\x60' :: finish := by
    simpa using h.part_eq
  have hlabel : WellSpaced loose label :=
    (haroundLabel ▸ hpart).of_enclosed (by decide) ⟨'<', rfl, by decide⟩
  have haddress : WellSpaced loose address :=
    (haroundAddress ▸ hpart).of_enclosed ⟨'<', List.getLast?_concat, by decide⟩
      ⟨'>', rfl, by decide⟩
  have hparenthesis : WellSpaced loose ")" := wellSpaced_of_not_mem (by decide) (by decide)
  rw [h.image_eq]
  exact ((hlabel.trimEnd_append hend).append haddress.quoted).append hparenthesis

/-- If the spacing is loose, hyperlinks keep it. -/
theorem keepsSpacing_hyperlink : KeepsSpacing true hyperlink := by
  refine rewrites_hyperlink.mono ?_
  rintro part image ⟨label, address, finish, hlink⟩
  exact ⟨hlink.inertEnds, fun hpart => hlink.wellSpaced_image hpart (.inl rfl)⟩

/-- The plain space before the parenthesis stands behind the guillemet with which a label ends. -/
theorem IsLink.not_narrow (h : IsLink label address finish part image) (hend : EndsOpen part) :
    ¬Narrow image := by
  intro hnarrow
  rw [h.image_eq] at hnarrow
  obtain ⟨-, -, hborder⟩ := List.isChain_append.1 hnarrow.left_of_append.left_of_append
  exact hborder '«' (h.endsOpen_iff.1 hend) ' ' rfl ⟨rfl, rfl⟩

end

/-- **The hyperlinks that spoil the spacing** are those whose label ends with an opening
guillemet. -/
theorem narrow_replaceAll_hyperlink_iff {text : Text} (htext : WellSpaced false text) :
    Narrow (Text.replaceAll hyperlink text) ↔ ∀ link ∈ hyperlink.parts text, ¬EndsOpen link := by
  induction text using Rule.Rewrites.inductionOn rewrites_hyperlink with
  | unmatched text hnone =>
      rw [hnone.replaceAll_eq, hnone.parts_eq]
      exact iff_of_true htext.narrow (List.forall_mem_nil _)
  | matched before part rest image hfirst hshape ih =>
      -- what stands before the hyperlink does not end open, so only its label can spoil the spacing
      obtain ⟨label, address, finish, hlink⟩ := hshape
      obtain ⟨hbefore, hpart, hrest⟩ := htext.of_parts hlink.inertEnds
      rw [hfirst.replaceAll_eq, hfirst.parts_eq, List.forall_mem_cons, ← ih hrest]
      constructor
      · intro hnarrow
        exact ⟨fun hend => hlink.not_narrow hend hnarrow.left_of_append.right_of_append,
          hnarrow.right_of_append⟩
      · rintro ⟨hend, hnarrow⟩
        have hfront := hbefore.append (hlink.wellSpaced_image hpart (.inr hend))
        refine hfront.narrow.append hnarrow fun c hc d _ ⟨hopening, _⟩ => ?_
        exact hfront.last (hopening ▸ hc)

theorem IsAddress.not_mem {scheme path : Text} (h : IsAddress scheme path) :
    ' ' ∉ scheme ++ "://" ++ path := by
  have hslashes : ' ' ∉ "://".toList := by decide
  rw [List.mem_append, List.mem_append, not_or, not_or]
  refine ⟨⟨fun hmem => ?_, hslashes⟩, fun hmem => ?_⟩
  · exact absurd (h.scheme _ hmem) (by decide)
  · exact absurd (h.path _ hmem).2.2 (by decide)

/-- A bare address holds no plain space and is no guillemet, so where no plain space stands behind a
guillemet when it has been rewritten, none stood there before. -/
theorem narrow_of_narrow_replaceAll_bareAddress {text : Text}
    (hnarrow : Narrow (Text.replaceAll bareAddress text)) : Narrow text := by
  induction text using Rule.Rewrites.inductionOn rewrites_bareAddress with
  | unmatched text hnone => rwa [hnone.replaceAll_eq] at hnarrow
  | matched before part rest image hfirst hshape ih =>
      obtain ⟨scheme, path, rfl, haddress, rfl⟩ := hshape
      rw [hfirst.replaceAll_eq] at hnarrow
      have hspace : ' ' ∉ '<' :: (scheme ++ "://" ++ path) ++ ['>'] := by
        simpa using haddress.not_mem
      have hpart : Narrow ('<' :: (scheme ++ "://" ++ path) ++ ['>']) :=
        List.isChain_iff_getElem.2 fun index hlt h => hspace (h.2 ▸ List.getElem_mem _)
      refine (hnarrow.left_of_append.left_of_append.append hpart ?_).append
        (ih hnarrow.right_of_append) ?_
      · rintro c - d hd ⟨-, rfl⟩
        exact absurd hd (by simp)
      · rintro c hc d - ⟨rfl, -⟩
        rw [← List.append_assoc, List.getLast?_concat] at hc
        exact absurd hc (by simp)

/-! ### The plain form of a text -/

/-- The text when the rules before the one for hyperlinks have been applied. -/
def beforeLinks (text : Text) : Text :=
  (passes.take 6).foldl (fun text rule => Text.replaceAll rule text) text

/-- The plain form is found from there with the rules for hyperlinks and bare addresses. -/
theorem normalize_eq (text : Text) :
    normalize text =
      Text.replaceAll bareAddress (Text.replaceAll hyperlink (beforeLinks text)) := rfl

theorem wellSpaced_normalize {text : Text} (hopening : '«' ∉ text) (hclosing : '»' ∉ text) :
    WellSpaced true (normalize text) := by
  have hbefore : WellSpaced true (beforeLinks text) :=
    KeepsSpacing.wellSpaced_foldl keepsSpacing_of_mem_take (wellSpaced_of_not_mem hopening hclosing)
  rw [normalize_eq]
  exact keepsSpacing_bareAddress.wellSpaced_replaceAll
    (keepsSpacing_hyperlink.wellSpaced_replaceAll hbefore)

/-- No plain space stands behind a guillemet of the plain form, unless a hyperlink ends open. -/
theorem narrow_normalize_iff {text : Text} (hopening : '«' ∉ text) (hclosing : '»' ∉ text) :
    Narrow (normalize text) ↔ ∀ link ∈ hyperlink.parts (beforeLinks text), ¬EndsOpen link := by
  have hbefore : WellSpaced false (beforeLinks text) :=
    KeepsSpacing.wellSpaced_foldl keepsSpacing_of_mem_take (wellSpaced_of_not_mem hopening hclosing)
  rw [← narrow_replaceAll_hyperlink_iff hbefore, normalize_eq]
  refine ⟨narrow_of_narrow_replaceAll_bareAddress, fun hnarrow => ?_⟩
  have hlinks : WellSpaced true (Text.replaceAll hyperlink (beforeLinks text)) :=
    keepsSpacing_hyperlink.wellSpaced_replaceAll (wellSpaced_false_iff.1 hbefore).1
  exact (keepsSpacing_bareAddress.wellSpaced_replaceAll
    (wellSpaced_false_iff.2 ⟨hlinks, hnarrow⟩)).narrow

/-- The errors about guillemets of an entry whose plain form is well spaced, but loosely, are about
plain spaces. -/
theorem guillemetFindings_eq_nil_iff_narrow {entry : Entry}
    (h : WellSpaced true entry.normalizedTarget) :
    Checker.Spacing.guillemetFindings entry = [] ↔ Narrow entry.normalizedTarget := by
  rw [Checker.Spacing.guillemetFindings_eq_nil_iff, h.narrow_iff]
  constructor
  · intro hnone index hopening
    refine (h.behind_opening hopening).resolve_right fun ⟨_, hplain⟩ => ?_
    have hbad : Text.isPair Checker.Spacing.opensBadly entry.normalizedTarget index = true :=
      Text.isPair_iff.2 ⟨'«', ' ', hopening, hplain, by decide⟩
    rw [(hnone index).1] at hbad
    cases hbad
  · intro hall index
    constructor
    · refine Bool.eq_false_iff.2 fun hpair => ?_
      obtain ⟨c, d, hc, hd, hbad⟩ := Text.isPair_iff.1 hpair
      obtain ⟨rfl, hspace⟩ := Checker.Spacing.opensBadly_iff.1 hbad
      obtain rfl := Option.some.inj (hd.symm.trans (hall index hc))
      exact absurd hspace (by decide)
    · refine Bool.eq_false_iff.2 fun hpair => ?_
      obtain ⟨c, d, hc, hd, hbad⟩ := Text.isPair_iff.1 hpair
      obtain ⟨rfl, hspace⟩ := Checker.Spacing.closesBadly_iff.1 hbad
      obtain ⟨before, hindex, hbefore⟩ := h.before_closing hd
      obtain rfl := Nat.succ.inj hindex
      obtain rfl := Option.some.inj (hc.symm.trans hbefore)
      exact absurd hspace (by decide)

/-- How the plain form of a text spaces its guillemets. -/
structure SpacesGuillemets (text : Text) : Prop where
  /-- A non-breakable space stands before every closing guillemet. -/
  closing : ∀ index, (normalize text)[index]? = some '»' →
    ∃ before, index = before + 1 ∧ (normalize text)[before]? = some Text.noBreakSpace
  /-- A non-breakable space or a plain one stands behind every opening guillemet. -/
  opening : ∀ index, (normalize text)[index]? = some '«' →
    (normalize text)[index + 1]? = some Text.noBreakSpace ∨ (normalize text)[index + 1]? = some ' '
  /-- They all are non-breakable if and only if no hyperlink ends open. -/
  nonBreaking :
    (∀ index, (normalize text)[index]? = some '«' →
      (normalize text)[index + 1]? = some Text.noBreakSpace) ↔
        ∀ link ∈ hyperlink.parts (beforeLinks text), ¬EndsOpen link
  /-- And only then there is no error about the guillemets of an entry with this translation. -/
  silent : ∀ entry : Entry, entry.targetText = text →
    (Checker.Spacing.guillemetFindings entry = [] ↔
      ∀ link ∈ hyperlink.parts (beforeLinks text), ¬EndsOpen link)

/-- **The guillemets in the plain form of a text that has none.** -/
theorem spacesGuillemets_normalize {text : Text} (hopening : '«' ∉ text) (hclosing : '»' ∉ text) :
    SpacesGuillemets text := by
  have hspaced := wellSpaced_normalize hopening hclosing
  have hnarrow := narrow_normalize_iff hopening hclosing
  refine ⟨fun _ => hspaced.before_closing,
    fun _ hindex => (hspaced.behind_opening hindex).imp_right And.right,
    hspaced.narrow_iff.symm.trans hnarrow, ?_⟩
  rintro entry rfl
  exact (guillemetFindings_eq_nil_iff_narrow hspaced).trans hnarrow

/-- Emphasis in the label of a hyperlink ends before the label does, and its guillemets are well
spaced. -/
theorem spacesGuillemets_emphasizedLabel :
    ('«' ∉ "\x60*a* b <u>\x60_".toList ∧ '»' ∉ "\x60*a* b <u>\x60_".toList) ∧
      SpacesGuillemets "\x60*a* b <u>\x60_" :=
  ⟨by decide, spacesGuillemets_normalize (by decide) (by decide)⟩

/-- Emphasis that begins in a label and ends behind the hyperlink leaves a plain space behind its
opening guillemet. -/
theorem not_forall_space_behind_opening : ¬∀ text : Text, '«' ∉ text → '»' ∉ text →
    ((∀ index, (normalize text)[index]? = some '«' →
      (normalize text)[index + 1]? = some Text.noBreakSpace) ∧
    ∀ entry : Entry, entry.targetText = text → Checker.Spacing.guillemetFindings entry = []) := by
  intro h
  have hspace := (h "\x60*<u>\x60_*" (by decide) (by decide)).1 0 (by decide)
  exact absurd hspace (by decide)

end CatalogLint.Markup
