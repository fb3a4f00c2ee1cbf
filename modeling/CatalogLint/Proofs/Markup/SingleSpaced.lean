/-
**Where markup puts blanks next to each other.**

Every rule takes a part that begins and ends with marks, and marks are no blanks.  So a rule cannot
bring together two blanks that stood apart: where two are next to each other afterwards, the rule
has written one of them.  It writes non-breakable spaces around a content, and they meet a blank if
the content begins or ends with one, and each other if the content is empty.  For a hyperlink it
writes a plain space behind the label.  The blanks at the end of the label are dropped before that,
but those in front of a hyperlink without label are not.

Main definitions:

* `CatalogLint.Markup.Enclosure.Fits` — the contents that are rewritten without two blanks in a row;
* `CatalogLint.Markup.afterRules`, `CatalogLint.Markup.replaced` — the text when some of the rules
  have been applied, and what the next one replaces in it;
* `CatalogLint.Markup.ContentsFit`, `CatalogLint.Markup.LinkFits` — what this asks of the contents
  of a text, and of its hyperlinks;
* `CatalogLint.Markup.withoutLabelBlanks` — a text whose hyperlinks have no blanks at the end of
  their labels;
* `CatalogLint.Markup.SpacesBlanks` — when the plain form of a text has no two blanks in a row.

Main results:

* `CatalogLint.Markup.singleSpaced_afterRules_iff` — **the contents that put blanks next to each
  other**;
* `CatalogLint.Markup.singleSpaced_replaceAll_hyperlink_iff` — the hyperlinks that do so;
* `CatalogLint.Markup.spacesBlanks_normalize` — **the blanks in the plain form of a text**.
-/

import CatalogLint.Proofs.Catalog.Composition
import CatalogLint.Proofs.Markup.Composed
import CatalogLint.Proofs.Markup.Shape
import CatalogLint.Proofs.Markup.Spaced
import CatalogLint.Proofs.Text.SingleSpaced
import Mathlib.Data.List.TakeWhile

set_option autoImplicit false

namespace CatalogLint.Markup

open Text (Rule SingleSpaced Solid BeginsBlank EndsBlank FitsIn singleSpaced_append)

/-! ### Quoted contents -/

section
variable {inner : Text}

theorem solid_quoted (inner : Text) : Solid (quoted inner) := by
  have hopening : Solid ['«'] := by decide
  have hclosing : Solid ['»'] := by decide
  have heq : quoted inner =
      ['«'] ++ (Text.noBreakSpace :: (inner ++ [Text.noBreakSpace])) ++ ['»'] := by
    simp [quoted]
  rw [heq]
  exact hopening.append hclosing _

/-- Between guillemets stands no blank but their own if the content is solid. -/
theorem singleSpaced_quoted : SingleSpaced (quoted inner) ↔ SingleSpaced inner ∧ Solid inner := by
  have hopening : SingleSpaced ['«', Text.noBreakSpace] := by decide
  have hclosing : SingleSpaced [Text.noBreakSpace, '»'] := by decide
  have hbehind : EndsBlank ['«', Text.noBreakSpace] := by decide
  have hbefore : BeginsBlank [Text.noBreakSpace, '»'] := by decide
  by_cases hne : inner = []
  · subst hne
    exact iff_of_false (by decide) fun h => h.2.ne_nil rfl
  · rw [quoted, singleSpaced_append, singleSpaced_append, Text.endsBlank_append hne]
    constructor
    · rintro ⟨⟨-, hinner, hbegins⟩, -, hends⟩
      exact ⟨hinner, hne, fun h => hbegins ⟨hbehind, h⟩, fun h => hends ⟨h, hbefore⟩⟩
    · rintro ⟨hinner, hsolid⟩
      exact ⟨⟨hopening, hinner, fun h => hsolid.begins h.2⟩, hclosing, fun h => hsolid.ends h.1⟩

end

/-! ### Contents between marks -/

namespace Enclosure

/-- The content puts no two blanks next to each other when a piece of this kind is rewritten and
has the given text behind it.  The name of a proposal stands at the end of what it reads as, and so
does the blank before it if the name is empty. -/
def Fits : Enclosure → Text → Text → Prop
  | proposal, content, rest =>
    ¬BeginsBlank content ∧ ¬((content = [] ∨ EndsBlank content) ∧ BeginsBlank rest)
  | _, content, _ => Solid content

variable {kind : Enclosure}

theorem IsKnown.solid_opening (h : kind.IsKnown) :
    Solid kind.opening ∧ SingleSpaced kind.opening := by
  cases kind with
  | role name =>
      have hroles : ∀ name ∈ roles, Solid (roleMark name) ∧ SingleSpaced (roleMark name) := by
        decide
      exact hroles name h
  | literal | proposal | strong | emphasis => decide

theorem solid_closing (kind : Enclosure) : Solid kind.closing ∧ SingleSpaced kind.closing := by
  have hclosings : ∀ mark ∈ [['\x60'], ['\x60', '\x60'], ['*'], ['*', '*']],
      Solid mark ∧ SingleSpaced mark := by decide
  refine hclosings _ ?_
  cases kind <;> simp [closing]

theorem IsKnown.solid_written (h : kind.IsKnown) (content : Text) :
    Solid (Piece.enclosed kind content).written :=
  h.solid_opening.1.append kind.solid_closing.1 content

theorem IsKnown.singleSpaced_written (h : kind.IsKnown) {content : Text} :
    SingleSpaced (Piece.enclosed kind content).written ↔ SingleSpaced content := by
  rw [Piece.written, h.solid_opening.1.singleSpaced_enclosed kind.solid_closing.1,
    and_iff_right h.solid_opening.2, and_iff_left kind.solid_closing.2]

theorem image_eq_quoted (h : kind ≠ proposal) (content : Text) :
    kind.image content = quoted content := by
  cases kind with
  | proposal => exact absurd rfl h
  | literal | role name | strong | emphasis => rfl

theorem fits_iff_solid (h : kind ≠ proposal) {content rest : Text} :
    kind.Fits content rest ↔ Solid content := by
  cases kind with
  | proposal => exact absurd rfl h
  | literal | role name | strong | emphasis => rfl

theorem endsBlank_proposal {content : Text} :
    EndsBlank ("PEP " ++ content) ↔ content = [] ∨ EndsBlank content := by
  by_cases hne : content = []
  · subst hne
    exact iff_of_true (by decide) (.inl rfl)
  · rw [Text.endsBlank_append hne, or_iff_right hne]

/-- What is written for a content puts blanks next to each other unless it fits. -/
theorem singleSpaced_image_iff (kind : Enclosure) (content rest : Text) :
    SingleSpaced (kind.image content) ∧ ¬(EndsBlank (kind.image content) ∧ BeginsBlank rest) ↔
      SingleSpaced content ∧ kind.Fits content rest := by
  by_cases hkind : kind = proposal
  · subst hkind
    have hname : SingleSpaced "PEP " := by decide
    have hspace : EndsBlank "PEP " := by decide
    rw [image, singleSpaced_append, endsBlank_proposal, and_iff_right hname,
      and_iff_right hspace, and_assoc]
    rfl
  · rw [image_eq_quoted hkind, fits_iff_solid hkind, singleSpaced_quoted]
    exact and_iff_left fun hborder => (solid_quoted content).ends hborder.1

/-- What a piece is written as, and which rule is for it, tell its kind and its content. -/
theorem written_inj {other : Enclosure} {content inner : Text} (hkind : kind.IsKnown)
    (hother : other.IsKnown)
    (hturn : (Piece.enclosed other inner).turn = (Piece.enclosed kind content).turn)
    (h : (Piece.enclosed kind content).written = (Piece.enclosed other inner).written) :
    other = kind ∧ inner = content := by
  have hsame : other = kind := by
    cases kind with
    | literal =>
        cases other with
        | literal => rfl
        | proposal | role otherName | strong | emphasis => cases hturn
    | proposal =>
        cases other with
        | proposal => rfl
        | literal | role otherName | strong | emphasis => cases hturn
    | role name =>
        cases other with
        | role otherName =>
            have hcolon : ∀ name ∈ roles, ':' ∉ name := fun name hname =>
              (forall_mem_roles name (List.mem_cons_of_mem _ hname)).2.not_mem (by decide)
            have hstart : roleMark otherName <+: roleMark name ++ (content ++ "\x60") := by
              refine ⟨inner ++ "\x60", ?_⟩
              rw [← List.append_assoc, ← List.append_assoc]
              exact h.symm
            obtain rfl := eq_of_roleMark_prefix (hcolon otherName hother) (hcolon name hkind) hstart
            rfl
        | literal | proposal | strong | emphasis => cases hturn
    | strong =>
        cases other with
        | strong => rfl
        | literal | proposal | role otherName | emphasis => cases hturn
    | emphasis =>
        cases other with
        | emphasis => rfl
        | literal | proposal | role otherName | strong => cases hturn
  subst hsame
  exact ⟨rfl, (List.append_cancel_left (List.append_cancel_right h)).symm⟩

end Enclosure

/-- The part is no content between marks that has this turn, or it is one that fits before the
rest. -/
def EnclosedFits (turn : Nat) (part rest : Text) : Prop :=
  ∀ (kind : Enclosure) (content : Text), kind.IsKnown →
    (Piece.enclosed kind content).turn = turn → part = (Piece.enclosed kind content).written →
      kind.Fits content rest

section
variable {kind : Enclosure} {content rest : Text}

theorem enclosedFits_iff (h : kind.IsKnown) :
    EnclosedFits (Piece.enclosed kind content).turn (Piece.enclosed kind content).written rest ↔
      kind.Fits content rest := by
  constructor
  · intro hfits
    exact hfits kind content h rfl rfl
  · intro hfits other inner hother hturn hwritten
    obtain ⟨rfl, rfl⟩ := Enclosure.written_inj h hother hturn hwritten
    exact hfits

/-- **A content between marks is rewritten as it fits.** -/
theorem fitsIn_enclosed (kind : Enclosure) (h : kind.IsKnown) (content : Text) :
    FitsIn (EnclosedFits (Piece.enclosed kind content).turn)
      (Piece.enclosed kind content).written (kind.image content) := by
  have himage : kind.image content ≠ [] ∧ ¬BeginsBlank (kind.image content) := by
    by_cases hkind : kind = .proposal
    · subst hkind
      have hname : "PEP ".toList ≠ [] ∧ ¬BeginsBlank "PEP " := by decide
      exact ⟨List.append_ne_nil_of_left_ne_nil hname.1 content,
        fun h => hname.2 ((Text.beginsBlank_append hname.1).1 h)⟩
    · rw [Enclosure.image_eq_quoted hkind]
      exact ⟨(solid_quoted content).ne_nil, (solid_quoted content).begins⟩
  refine ⟨h.solid_written content, himage.1, himage.2, fun rest => ?_⟩
  rw [h.singleSpaced_written, enclosedFits_iff h]
  exact kind.singleSpaced_image_iff content rest

end

/-- A double colon has nothing to do with blanks. -/
theorem fitsIn_doubleColon : FitsIn (EnclosedFits 0) "::" ":" := by
  have hturn : ∀ kind content, (Piece.enclosed kind content).turn ≠ 0 := by
    intro kind content
    cases kind <;> exact nofun
  have hpart : Solid "::" := by decide
  have himage : Solid ":" := by decide
  refine ⟨hpart, himage.ne_nil, himage.begins, fun rest => iff_of_true ?_ ?_⟩
  · exact ⟨by decide, fun hborder => himage.ends hborder.1⟩
  · exact ⟨by decide, fun kind content _ h => absurd h (hturn kind content)⟩

/-- Each rule before the one for hyperlinks rewrites contents as they fit. -/
theorem exists_fitting_rule {turn : Nat} (h : turn < 6) :
    ∃ rule, passes[turn]? = some rule ∧ rule.Rewrites (FitsIn (EnclosedFits turn)) := by
  -- all but double colons and roles are one kind of enclosure each
  have henclosed : ∀ (kind : Enclosure) (turn : Nat), kind.IsKnown →
      (∀ content, (Piece.enclosed kind content).turn = turn) →
        (Text.enclosed kind.opening kind.closing kind.image).Rewrites
          (FitsIn (EnclosedFits turn)) := by
    intro kind turn hkind hturn
    refine (Text.rewrites_enclosed _ hkind.solid_opening.1.ne_nil).mono ?_
    rintro _ _ ⟨content, rfl, rfl⟩
    exact hturn content ▸ fitsIn_enclosed kind hkind content
  match turn, h with
  | 0, _ =>
      refine ⟨doubleColon, rfl, (Text.rewrites_replacing (by decide)).mono ?_⟩
      rintro _ _ ⟨rfl, rfl⟩
      exact fitsIn_doubleColon
  | 1, _ => exact ⟨inlineLiteral, rfl, henclosed .literal 1 trivial fun _ => rfl⟩
  | 2, _ => exact ⟨proposalRole, rfl, henclosed .proposal 2 trivial fun _ => rfl⟩
  | 3, _ =>
      refine ⟨quotedRole, rfl, rewrites_quotedRole.mono ?_⟩
      rintro _ _ ⟨role, hrole, content, rfl, rfl⟩
      exact fitsIn_enclosed (.role role) hrole content
  | 4, _ => exact ⟨strong, rfl, henclosed .strong 4 trivial fun _ => rfl⟩
  | 5, _ => exact ⟨emphasis, rfl, henclosed .emphasis 5 trivial fun _ => rfl⟩

/-! ### The rules before the one for hyperlinks -/

/-- The text when as many rules have been applied as the number says. -/
def afterRules (count : Nat) (text : Text) : Text :=
  (passes.take count).foldl (fun text rule => Text.replaceAll rule text) text

/-- What the rule with this turn replaces, in the text as it is then. -/
def replaced (turn : Nat) (text : Text) : List Text.Occurrence :=
  passes[turn]?.elim [] fun rule => Text.occurrences rule.recogniser (afterRules turn text)

/-- The contents between marks put no blanks next to each other, whichever rule replaces them. -/
def ContentsFit (text : Text) : Prop :=
  ∀ turn < 6, ∀ found ∈ replaced turn text, EnclosedFits turn found.matched found.after

theorem afterRules_succ {turn : Nat} {rule : Rule} (h : passes[turn]? = some rule) (text : Text) :
    afterRules (turn + 1) text = Text.replaceAll rule (afterRules turn text) := by
  rw [afterRules, List.take_add_one, h, List.foldl_append]
  rfl

/-- **The contents that put blanks next to each other.** -/
theorem singleSpaced_afterRules_iff {count : Nat} (h : count ≤ 6) (text : Text) :
    SingleSpaced (afterRules count text) ↔ SingleSpaced text ∧ ∀ turn < count,
      ∀ found ∈ replaced turn text, EnclosedFits turn found.matched found.after := by
  induction count with
  | zero => exact (and_iff_left nofun).symm
  | succ count ih =>
      obtain ⟨rule, hrule, hfits⟩ := exists_fitting_rule h
      have hreplaced : replaced count text =
          Text.occurrences rule.recogniser (afterRules count text) := by
        rw [replaced, hrule]
        rfl
      rw [afterRules_succ hrule, Text.singleSpaced_replaceAll_iff hfits, ih (Nat.le_of_succ_le h),
        ← hreplaced, and_assoc, Nat.forall_lt_succ_right]

theorem singleSpaced_beforeLinks_iff (text : Text) :
    SingleSpaced (beforeLinks text) ↔ SingleSpaced text ∧ ContentsFit text :=
  singleSpaced_afterRules_iff (Nat.le_refl 6) text

/-! ### Hyperlinks -/

/-- The hyperlink without the blanks at the end of its label. -/
def trimLabel (link : Text) : Text :=
  let label := upToMark ['<'] link.tail
  '\x60' :: (Text.trimEnd label ++ link.tail.drop label.length)

/-- The rule that takes the blanks at the end of its label from a hyperlink. -/
def trimmedLink : Rule := fun text =>
  (hyperlink text).map fun (length, _) => (length, trimLabel (text.take length))

/-- The text without the blanks at the end of the labels of its hyperlinks. -/
def withoutLabelBlanks (text : Text) : Text := Text.replaceAll trimmedLink text

/-- The hyperlink puts no two blanks next to each other, but for the end of its label: the address
is quoted as any content, and where there is no label, or it begins with a blank, what the
hyperlink reads as begins with a blank. -/
def LinkFits (found : Text.Occurrence) : Prop :=
  ∀ label address finish image, IsLink label address finish found.matched image →
    Solid address ∧ ¬(EndsBlank found.before ∧ (label = [] ∨ BeginsBlank label))

section
variable {label address finish part image before rest : Text}

theorem not_endsBlank_trimEnd (text : Text) : ¬EndsBlank (Text.trimEnd text) := by
  rintro ⟨c, hc, hblank⟩
  exact Text.getLast?_trimEnd_ne text hblank hc

/-- A label without its last blanks begins with the plain space behind it if there is nothing else
to begin with. -/
theorem beginsBlank_trimEnd_append (label rest : Text) :
    BeginsBlank (Text.trimEnd label ++ ' ' :: rest) ↔ label = [] ∨ BeginsBlank label := by
  obtain ⟨blanks, hlabel⟩ := Text.trimEnd_prefix label
  have hspace : Text.isBlank ' ' = true := by decide
  by_cases htrimmed : Text.trimEnd label = []
  · rw [htrimmed, List.nil_append, Text.beginsBlank_cons]
    refine iff_of_true hspace ?_
    cases label with
    | nil => exact .inl rfl
    | cons c label =>
        rw [Text.trimEnd, List.reverse_eq_nil_iff, List.dropWhile_eq_nil_iff] at htrimmed
        exact .inr ⟨c, rfl, htrimmed c (List.mem_reverse.2 List.mem_cons_self)⟩
  · have hne : label ≠ [] := by
      rintro rfl
      exact htrimmed rfl
    rw [Text.beginsBlank_append htrimmed, or_iff_right hne]
    conv => rhs; rw [← hlabel, Text.beginsBlank_append htrimmed]

theorem IsLink.trimLabel_eq (h : IsLink label address finish part image) :
    trimLabel part =
      '\x60' :: (Text.trimEnd label ++ '<' :: (address ++ '>' :: '\x60' :: finish)) := by
  rw [trimLabel, h.label_eq, h.part_eq, List.tail_cons, List.drop_left]

theorem IsLink.suffix (h : IsLink label address finish part image) :
    '>' :: '\x60' :: finish <:+ part :=
  ⟨'\x60' :: (label ++ '<' :: address), by simpa using h.part_eq.symm⟩

/-- A hyperlink tells its label and its address. -/
theorem IsLink.inj {otherLabel otherAddress otherFinish otherImage : Text}
    (h : IsLink label address finish part image)
    (hother : IsLink otherLabel otherAddress otherFinish part otherImage) :
    otherLabel = label ∧ otherAddress = address := by
  obtain rfl : otherLabel = label := hother.label_eq.symm.trans h.label_eq
  refine ⟨rfl, ?_⟩
  -- with another number of underscores, a backquote would stand where an underscore stands
  have hsame : ∀ first ∈ [['_'], ['_', '_']], ∀ second ∈ [['_'], ['_', '_']],
      '>' :: '\x60' :: first <:+ '>' :: '\x60' :: second → first = second := by decide
  have hfinish : otherFinish = finish := by
    rcases List.suffix_or_suffix_of_suffix hother.suffix h.suffix with hle | hle
    · exact hsame otherFinish hother.finish_mem finish h.finish_mem hle
    · exact (hsame finish h.finish_mem otherFinish hother.finish_mem hle).symm
  subst hfinish
  simpa using hother.part_eq.symm.trans h.part_eq

/-- The marks of a hyperlink have no blanks. -/
theorem singleSpaced_link (h : finish ∈ [['_'], ['_', '_']]) :
    SingleSpaced ('\x60' :: (label ++ '<' :: (address ++ '>' :: '\x60' :: finish))) ↔
      SingleSpaced label ∧ SingleSpaced address := by
  have hopening : Solid ['\x60'] ∧ SingleSpaced ['\x60'] := by decide
  have hbracket : Solid ['<'] ∧ SingleSpaced ['<'] := by decide
  have hclosing : ∀ finish ∈ [['_'], ['_', '_']],
      Solid ('>' :: '\x60' :: finish) ∧ SingleSpaced ('>' :: '\x60' :: finish) := by decide
  have heq : '\x60' :: (label ++ '<' :: (address ++ '>' :: '\x60' :: finish)) =
      ['\x60'] ++ label ++ ['<'] ++ (address ++ '>' :: '\x60' :: finish) := by
    simp
  rw [heq, hbracket.1.singleSpaced_between, hopening.1.singleSpaced_append, singleSpaced_append,
    and_iff_right hopening.2, and_iff_right hbracket.2,
    and_iff_left fun hborder => (hclosing finish h).1.begins hborder.2,
    and_iff_left (hclosing finish h).2]

theorem solid_link (h : finish ∈ [['_'], ['_', '_']]) :
    Solid ('\x60' :: (label ++ '<' :: (address ++ '>' :: '\x60' :: finish))) := by
  have hopening : Solid ['\x60'] := by decide
  have hclosing : ∀ finish ∈ [['_'], ['_', '_']], Solid finish := by decide
  have heq : '\x60' :: (label ++ '<' :: (address ++ '>' :: '\x60' :: finish)) =
      ['\x60'] ++ (label ++ '<' :: (address ++ ['>', '\x60'])) ++ finish := by
    simp
  rw [heq]
  exact hopening.append (hclosing finish h) _

theorem IsLink.solid (h : IsLink label address finish part image) : Solid part := by
  rw [h.part_eq]
  exact solid_link h.finish_mem

theorem IsLink.solid_trimLabel (h : IsLink label address finish part image) :
    Solid (trimLabel part) := by
  rw [h.trimLabel_eq]
  exact solid_link h.finish_mem

theorem IsLink.singleSpaced_part (h : IsLink label address finish part image) :
    SingleSpaced part ↔ SingleSpaced label ∧ SingleSpaced address := by
  rw [h.part_eq, singleSpaced_link h.finish_mem]

theorem IsLink.singleSpaced_trimLabel (h : IsLink label address finish part image) :
    SingleSpaced (trimLabel part) ↔ SingleSpaced (Text.trimEnd label) ∧ SingleSpaced address := by
  rw [h.trimLabel_eq, singleSpaced_link h.finish_mem]

/-- A hyperlink reads as its label without the last blanks, and its address, which is quoted. -/
theorem IsLink.singleSpaced_image (h : IsLink label address finish part image) :
    SingleSpaced image ↔
      SingleSpaced (Text.trimEnd label) ∧ SingleSpaced address ∧ Solid address := by
  have hfixed : SingleSpaced " (" ∧ SingleSpaced ")" := by decide
  rw [h.image_eq, (solid_quoted address).singleSpaced_between, singleSpaced_append,
    singleSpaced_quoted, and_iff_right hfixed.1, and_iff_left hfixed.2,
    and_iff_left fun hborder => not_endsBlank_trimEnd label hborder.1]

theorem IsLink.not_endsBlank_append (h : IsLink label address finish part image) (before : Text) :
    ¬EndsBlank (before ++ image) := by
  have hclosing : Solid ")" := by decide
  rw [h.image_eq, ← List.append_assoc, Text.endsBlank_append hclosing.ne_nil]
  exact hclosing.ends

theorem IsLink.beginsBlank_image (h : IsLink label address finish part image) :
    BeginsBlank image ↔ label = [] ∨ BeginsBlank label := by
  have heq : image = Text.trimEnd label ++ ' ' :: ('(' :: (quoted address ++ ")")) := by
    simpa using h.image_eq
  rw [heq]
  exact beginsBlank_trimEnd_append label _

theorem IsLink.linkFits_iff (h : IsLink label address finish part image) :
    LinkFits ⟨before, part, rest⟩ ↔
      Solid address ∧ ¬(EndsBlank before ∧ (label = [] ∨ BeginsBlank label)) := by
  constructor
  · intro hfits
    exact hfits label address finish image h
  · intro hfits otherLabel otherAddress otherFinish otherImage hother
    obtain ⟨rfl, rfl⟩ := h.inj hother
    exact hfits

/-- Whether a hyperlink fits depends on the end of the text before it only. -/
theorem linkFits_behind {found : Text.Occurrence} {front : Text} (h : ¬EndsBlank front) :
    LinkFits (found.behind front) ↔ LinkFits found := by
  rw [LinkFits, LinkFits, Text.Occurrence.behind, Text.endsBlank_append_of_not h]

/-- The first hyperlink is also the first one that loses the blanks of its label. -/
theorem first_trimmedLink (h : hyperlink.First before part rest image) :
    trimmedLink.First before part rest (trimLabel part) := by
  refine ⟨fun tail hne htail => ?_, ?_, h.part_ne_nil⟩
  · rw [trimmedLink, h.unmatched tail hne htail]
    rfl
  · rw [trimmedLink, h.matched]
    exact congrArg (fun link => some (part.length, trimLabel link)) List.take_left

theorem unmatched_trimmedLink {text : Text} (h : hyperlink.Unmatched text) :
    trimmedLink.Unmatched text := by
  intro rest hrest
  rw [trimmedLink, h rest hrest]
  rfl

end

/-- **The hyperlinks that put blanks next to each other.** -/
theorem singleSpaced_replaceAll_hyperlink_iff (text : Text) :
    SingleSpaced (Text.replaceAll hyperlink text) ↔ SingleSpaced (withoutLabelBlanks text) ∧
      ∀ found ∈ Text.occurrences hyperlink.recogniser text, LinkFits found := by
  induction text using Rule.Rewrites.inductionOn rewrites_hyperlink with
  | unmatched text hnone =>
      rw [withoutLabelBlanks, (unmatched_trimmedLink hnone).replaceAll_eq, hnone.replaceAll_eq,
        hnone.occurrences_eq]
      exact (and_iff_left (List.forall_mem_nil _)).symm
  | matched before part rest image hfirst hshape ih =>
      obtain ⟨label, address, finish, hlink⟩ := hshape
      have hbehind := hlink.not_endsBlank_append before
      have hfront : ¬EndsBlank (before ++ part) := by
        rw [Text.endsBlank_append hfirst.part_ne_nil]
        exact hlink.solid.ends
      rw [withoutLabelBlanks, (first_trimmedLink hfirst).replaceAll_eq, hfirst.replaceAll_eq,
        hfirst.occurrences_eq, List.forall_mem_cons, List.forall_mem_map, hlink.linkFits_iff,
        hlink.solid_trimLabel.singleSpaced_between, hlink.singleSpaced_trimLabel,
        singleSpaced_append, singleSpaced_append, hlink.singleSpaced_image,
        hlink.beginsBlank_image, ih]
      -- each side asks the same of the label, the address and the text before, in another order
      simp only [linkFits_behind hfront, withoutLabelBlanks]
      tauto

/-- Without the blanks at the end of its labels a text has no two blanks in a row if it has none
with them. -/
theorem singleSpaced_withoutLabelBlanks {text : Text} (h : SingleSpaced text) :
    SingleSpaced (withoutLabelBlanks text) := by
  induction text using Rule.Rewrites.inductionOn rewrites_hyperlink with
  | unmatched text hnone =>
      rwa [withoutLabelBlanks, (unmatched_trimmedLink hnone).replaceAll_eq]
  | matched before part rest image hfirst hshape ih =>
      obtain ⟨label, address, finish, hlink⟩ := hshape
      rw [hlink.solid.singleSpaced_between, hlink.singleSpaced_part] at h
      obtain ⟨hbefore, ⟨hlabel, haddress⟩, hrest⟩ := h
      rw [withoutLabelBlanks, (first_trimmedLink hfirst).replaceAll_eq,
        hlink.solid_trimLabel.singleSpaced_between, hlink.singleSpaced_trimLabel]
      exact ⟨hbefore, ⟨hlabel.of_infix (Text.trimEnd_prefix label).isInfix, haddress⟩, ih hrest⟩

/-! ### Bare addresses -/

theorem not_isBlank_of_isSchemeChar {c : Char} (h : isSchemeChar c = true) :
    Text.isBlank c = false := by
  have hbounds : 43 ≤ c.toNat ∧ c.toNat ≤ 122 := by
    simp only [isSchemeChar, Char.isDigit, Bool.or_eq_true, Bool.and_eq_true, decide_eq_true_eq,
      beq_iff_eq, Char.le_def, UInt32.le_iff_toNat_le] at h
    rcases h with (((hletter | hdigit) | rfl) | rfl) | rfl
    · have hlow : 97 ≤ c.toNat := hletter.1
      exact ⟨by omega, hletter.2⟩
    · have hlow : 48 ≤ c.toNat := hdigit.1
      have hhigh : c.toNat ≤ 57 := hdigit.2
      omega
    · decide
    · decide
    · decide
  have hrange : ∀ n, 43 ≤ n → n ≤ 122 → Text.blankRanges.includesNat n = false := by
    intro n hlow hhigh
    simp [Text.blankRanges, Text.RangeTable.includesNat]
    omega
  exact hrange c.toNat hbounds.1 hbounds.2

theorem IsAddress.not_isBlank {scheme path : Text} (h : IsAddress scheme path) :
    ∀ c ∈ scheme ++ "://" ++ path, Text.isBlank c = false := by
  have hslashes : ∀ c ∈ "://".toList, Text.isBlank c = false := by decide
  intro c hc
  rcases List.mem_append.1 hc with hc | hc
  · rcases List.mem_append.1 hc with hc | hc
    · exact not_isBlank_of_isSchemeChar (h.scheme c hc)
    · exact hslashes c hc
  · exact (h.path c hc).2.2

/-- A bare address has no blanks, so it always fits. -/
theorem IsAddress.fitsIn {scheme path : Text} (h : IsAddress scheme path) :
    FitsIn (fun _ _ => True) (Piece.address scheme path).written
      (Piece.address scheme path).image := by
  have hopening : Solid ['<'] ∧ SingleSpaced ['<'] := by decide
  have hclosing : Solid ['>'] ∧ SingleSpaced ['>'] := by decide
  have hcontent := Text.singleSpaced_of_forall_not_isBlank h.not_isBlank
  have hsolid : Solid (scheme ++ "://" ++ path) :=
    .of_forall_not_isBlank (List.append_ne_nil_of_right_ne_nil _ h.path_ne_nil) h.not_isBlank
  have hquoted := solid_quoted (scheme ++ "://" ++ path)
  refine ⟨hopening.1.append hclosing.1 _, hquoted.ne_nil, hquoted.begins, fun rest =>
    iff_of_true ⟨singleSpaced_quoted.2 ⟨hcontent, hsolid⟩, fun hborder => hquoted.ends hborder.1⟩
      ⟨?_, trivial⟩⟩
  exact (hopening.1.singleSpaced_enclosed hclosing.1 _).2 ⟨hopening.2, hcontent, hclosing.2⟩

theorem fitting_bareAddress : bareAddress.Rewrites (FitsIn fun _ _ => True) := by
  refine rewrites_bareAddress.mono ?_
  rintro _ _ ⟨scheme, path, rfl, haddress, rfl⟩
  exact haddress.fitsIn

theorem singleSpaced_replaceAll_bareAddress_iff (text : Text) :
    SingleSpaced (Text.replaceAll bareAddress text) ↔ SingleSpaced text := by
  rw [Text.singleSpaced_replaceAll_iff fitting_bareAddress]
  exact and_iff_left fun _ _ => trivial

/-! ### Composed texts -/

/-- The parts of the piece that will be quoted are solid, and what is not quoted does not begin with
a blank. -/
def Piece.IsSolid : Piece → Prop
  | enclosed _ content => Solid content
  | hyperlink label _ url _ => label ≠ [] ∧ ¬BeginsBlank label ∧ Solid url
  | address _ _ => True

theorem Enclosure.fits_of_solid (kind : Enclosure) {content : Text} (h : Solid content)
    (rest : Text) : kind.Fits content rest := by
  by_cases hkind : kind = proposal
  · subst hkind
    exact ⟨h.begins, fun hborder => hborder.1.elim h.ne_nil h.ends⟩
  · exact (fits_iff_solid hkind).2 h

theorem Piece.WellFormed.isLink {label blanks url : Text} {anonymous : Bool}
    (h : (Piece.hyperlink label blanks url anonymous).WellFormed) :
    IsLink (label ++ blanks) url (Piece.underscores anonymous)
      (Piece.hyperlink label blanks url anonymous).written
      (Piece.hyperlink label blanks url anonymous).image := by
  obtain ⟨hlabel, hblanks, -⟩ := h
  refine ⟨?_, ?_, ?_, ?_⟩
  · simp [Piece.written]
  · cases anonymous <;> decide
  · rw [List.mem_append, not_or]
    exact ⟨hlabel.not_mem (by decide), not_mem_of_forall_isBlank hblanks (by decide)⟩
  · rw [Piece.image, Text.trimEnd_append_of_forall_isBlank hblanks]

section
variable {piece : Piece} (h : piece.WellFormed) (hsolid : piece.IsSolid)
  (hwritten : SingleSpaced piece.written)
include h hsolid hwritten

/-- A piece whose parts are solid reads as a text without two blanks in a row. -/
theorem Piece.singleSpaced_image : SingleSpaced piece.image := by
  cases piece with
  | enclosed kind content =>
      have hfits := kind.fits_of_solid hsolid []
      exact ((kind.singleSpaced_image_iff content []).2
        ⟨h.1.singleSpaced_written.1 hwritten, hfits⟩).1
  | hyperlink label blanks url anonymous =>
      obtain ⟨hlabel, hurl⟩ := h.isLink.singleSpaced_part.1 hwritten
      exact h.isLink.singleSpaced_image.2
        ⟨hlabel.of_infix (Text.trimEnd_prefix _).isInfix, hurl, hsolid.2.2⟩
  | address scheme path => exact ((h.isAddress.fitsIn.singleSpaced_iff []).2 ⟨hwritten, trivial⟩).1

/-- And this text neither begins nor ends with a blank. -/
theorem Piece.solid_image : Solid piece.image := by
  cases piece with
  | enclosed kind content =>
      have hfits := fitsIn_enclosed kind h.1 content
      have hblank : BeginsBlank " " := by decide
      have hspaced := (kind.singleSpaced_image_iff content " ").2
        ⟨h.1.singleSpaced_written.1 hwritten, kind.fits_of_solid hsolid " "⟩
      exact ⟨hfits.image_ne_nil, hfits.begins, fun hends => hspaced.2 ⟨hends, hblank⟩⟩
  | hyperlink label blanks url anonymous =>
      obtain ⟨hne, hbegins, -⟩ := hsolid
      refine ⟨?_, ?_, h.isLink.not_endsBlank_append []⟩
      · simp [image]
      · rw [h.isLink.beginsBlank_image, Text.beginsBlank_append hne]
        exact not_or.2 ⟨List.append_ne_nil_of_left_ne_nil hne _, hbegins⟩
  | address scheme path => exact solid_quoted _

end

/-- The plain text between pieces whose parts are solid keeps its blanks apart. -/
theorem singleSpaced_flatMap_image {items : List (Piece × Text)}
    (h : ∀ item ∈ items, item.1.WellFormed ∧ item.1.IsSolid)
    (hwritten : SingleSpaced (items.flatMap fun (piece, plain) => piece.written ++ plain)) :
    SingleSpaced (items.flatMap fun (piece, plain) => piece.image ++ plain) ∧
      ¬BeginsBlank (items.flatMap fun (piece, plain) => piece.image ++ plain) := by
  induction items with
  | nil => exact ⟨.nil, Text.not_beginsBlank_nil⟩
  | cons item items ih =>
      obtain ⟨piece, plain⟩ := item
      obtain ⟨⟨hpiece, hsolid⟩, hitems⟩ := List.forall_mem_cons.1 h
      rw [List.flatMap_cons, List.append_assoc, singleSpaced_append] at hwritten
      obtain ⟨hwritten, hrest, -⟩ := hwritten
      obtain ⟨hplain, hrest, -⟩ := singleSpaced_append.1 hrest
      obtain ⟨hspaced, hbegins⟩ := ih hitems hrest
      have himage := Piece.solid_image hpiece hsolid hwritten
      rw [List.flatMap_cons, List.append_assoc, himage.singleSpaced_append,
        singleSpaced_append, Text.beginsBlank_append himage.ne_nil]
      exact ⟨⟨Piece.singleSpaced_image hpiece hsolid hwritten, hplain, hspaced,
        fun hborder => hbegins hborder.2⟩, himage.begins⟩

/-- **A composed text whose contents are solid keeps its blanks apart.** -/
theorem singleSpaced_normalize_composed {text : Composed} (h : text.WellFormed)
    (hsolid : ∀ item ∈ text.items, item.1.IsSolid) (hwritten : SingleSpaced text.written) :
    SingleSpaced (normalize text.written) := by
  obtain ⟨hlead, hitems, -⟩ := singleSpaced_append.1 hwritten
  obtain ⟨hspaced, hbegins⟩ := singleSpaced_flatMap_image
    (fun item hitem => ⟨h.pieces item hitem, hsolid item hitem⟩) hitems
  rw [normalize_composed text h]
  exact singleSpaced_append.2 ⟨hlead, hspaced, fun hborder => hbegins hborder.2⟩

/-! ### The plain form of a text -/

/-- The plain form has two blanks in a row only if the text before the hyperlinks are rewritten has
them, but for the ends of their labels, or a hyperlink does not fit. -/
theorem singleSpaced_normalize_iff (text : Text) :
    SingleSpaced (normalize text) ↔ SingleSpaced (withoutLabelBlanks (beforeLinks text)) ∧
      ∀ found ∈ replaced 6 text, LinkFits found := by
  rw [normalize_eq, singleSpaced_replaceAll_bareAddress_iff,
    singleSpaced_replaceAll_hyperlink_iff]
  rfl

/-- When the plain form of a text has no two blanks in a row. -/
structure SpacesBlanks (text : Text) : Prop where
  /-- Only then an entry with this translation has no warning. -/
  silent : ∀ entry : Entry, entry.targetText = text →
    (Checker.DoubleSpace.findings entry = [] ↔ SingleSpaced (normalize text))
  /-- Before the hyperlinks are rewritten, the text has none if it had none and the contents between
  marks fit. -/
  contents : SingleSpaced (beforeLinks text) ↔ SingleSpaced text ∧ ContentsFit text
  /-- The plain form has none if the text had none then, but for the ends of labels, and the
  hyperlinks fit. -/
  links : SingleSpaced (normalize text) ↔ SingleSpaced (withoutLabelBlanks (beforeLinks text)) ∧
    ∀ found ∈ replaced 6 text, LinkFits found
  /-- So markup puts no blanks next to each other where all contents and hyperlinks fit. -/
  fitting : SingleSpaced text → ContentsFit text → (∀ found ∈ replaced 6 text, LinkFits found) →
    SingleSpaced (normalize text)
  /-- This is so in a text that is composed of plain text and pieces whose contents are solid. -/
  composed : ∀ composed : Composed, composed.WellFormed →
    (∀ item ∈ composed.items, item.1.IsSolid) → composed.written = text → SingleSpaced text →
      SingleSpaced (normalize text)

/-- **The blanks in the plain form of a text.** -/
theorem spacesBlanks_normalize (text : Text) : SpacesBlanks text := by
  have hplain := singleSpaced_normalize_iff text
  have hbefore := singleSpaced_beforeLinks_iff text
  refine ⟨?_, hbefore, hplain, fun htext hcontents hlinks => ?_, ?_⟩
  · rintro entry rfl
    exact Checker.DoubleSpace.findings_eq_nil_iff
  · exact hplain.2 ⟨singleSpaced_withoutLabelBlanks (hbefore.2 ⟨htext, hcontents⟩), hlinks⟩
  · rintro composed h hsolid rfl hwritten
    exact singleSpaced_normalize_composed h hsolid hwritten

/-- A hyperlink without label leaves the blank before it next to that of its parenthesis. -/
theorem not_forall_findings_eq_nil : ¬∀ entry : Entry, SingleSpaced entry.targetText →
    Checker.DoubleSpace.findings entry = [] := by
  intro h
  have hnone := h { reference := [], firstLine := 1, lastLine := 1, target := ["a \x60<u>\x60_"] }
    (by decide)
  exact absurd hnone (by decide)

end CatalogLint.Markup
