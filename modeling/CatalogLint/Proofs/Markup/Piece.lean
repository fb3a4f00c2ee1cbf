/-
**The grammar of markup.**

A text with markup is plain text with marked-up pieces in it.  A piece is a content between an
opening and a closing mark, a hyperlink or a bare address; plain text holds none of the characters
that marks are made of.  What a piece is written as and what it reads as are both said here without
the rules that lead from the one to the other.

The rules are applied to the whole text one after the other, so each of them meets pieces of other
kinds.  That it leaves them alone is a fact about the marks that their written forms hold: no
opening mark of a rule begins in a piece whose turn comes later.

Main definitions:

* `CatalogLint.Markup.decidableForallMem`, `CatalogLint.Markup.decidableExistsMem` — what is said of
  the characters of a text is decided by going through it;
* `CatalogLint.Markup.marks`, `CatalogLint.Markup.IsPlain` — the characters of marks, and texts
  without them;
* `CatalogLint.Markup.Enclosure`, `CatalogLint.Markup.Piece` — the pieces of markup;
* `CatalogLint.Markup.Piece.written`, `CatalogLint.Markup.Piece.image`,
  `CatalogLint.Markup.Piece.WellFormed` — what a piece is written as, what it reads as, and what its
  parts may hold;
* `CatalogLint.Markup.Piece.turn` — the rule that is for the piece;
* `CatalogLint.Markup.Piece.Precedes` — what may follow a piece.

Main results:

* `CatalogLint.Markup.opensWith_inlineLiteral`, `CatalogLint.Markup.opensWith_quotedRole`,
  `CatalogLint.Markup.opensWith_hyperlink`, `CatalogLint.Markup.opensWith_bareAddress` — where the
  rules match;
* `CatalogLint.Markup.Piece.misses_doubleColon`, `CatalogLint.Markup.Piece.misses_backquotes`,
  `CatalogLint.Markup.Piece.misses_role`, `CatalogLint.Markup.Piece.misses_asterisks` — **the
  opening marks that do not begin in a piece**;
* `CatalogLint.Markup.Piece.not_mem_image_of_turn_le` — the marks that are gone when a piece has
  been rewritten.
-/

import CatalogLint.Proofs.Markup.OneLine
import CatalogLint.Proofs.Text.Parts

set_option autoImplicit false

namespace CatalogLint.Markup

open Text (Misses misses_append misses_of_head_not_mem misses_of_count_lt misses_of_not_infix)

/-! ### Deciding what is said of the characters of a text -/

section
variable (p : Char → Prop) [DecidablePred p]

/-- What is said of all characters of a text is decided by going through the text, and not through
all characters that there are. -/
instance (priority := high) decidableForallMem (text : Text) : Decidable (∀ c ∈ text, p c) :=
  List.decidableBAll p text

instance (priority := high) decidableExistsMem (text : Text) : Decidable (∃ c ∈ text, p c) :=
  List.decidableBEx p text

instance (priority := high) decidableExistsHead : (head : Option Char) →
    Decidable (∃ c ∈ head, p c)
  | none => isFalse nofun
  | some c =>
    decidable_of_iff (p c) ⟨fun h => ⟨c, rfl, h⟩, fun ⟨_, hd, h⟩ => Option.some.inj hd ▸ h⟩

end

/-! ### Plain text -/

/-- The characters that marks are made of, and the newline, which no mark reaches over. -/
def marks : Text := [':', '\x60', '*', '<', '>', '\n']

/-- The text holds no marks. -/
def IsPlain (text : Text) : Prop := ∀ c ∈ text, c ∉ marks

instance (text : Text) : Decidable (IsPlain text) :=
  inferInstanceAs (Decidable (∀ c ∈ text, c ∉ marks))

theorem IsPlain.not_mem {text : Text} (h : IsPlain text) {c : Char} (hc : c ∈ marks) : c ∉ text :=
  fun hmem => h c hmem hc

theorem IsPlain.head {text : Text} (h : IsPlain text) : ∀ c ∈ text.head?, c ∉ marks :=
  fun c hc => h c (List.mem_of_mem_head? hc)

/-- A blank is no mark, unless it is the newline. -/
theorem not_mem_of_forall_isBlank {text : Text} (h : ∀ c ∈ text, Text.isBlank c = true) {c : Char}
    (hc : Text.isBlank c = false) : c ∉ text := by
  intro hmem
  rw [h c hmem] at hc
  cases hc

/-! ### Pieces -/

/-- A kind of piece in which a content stands between an opening and a closing mark. -/
inductive Enclosure where
  | literal
  | proposal
  | role (name : Text)
  | strong
  | emphasis

namespace Enclosure

/-- The mark before the content of a role. -/
def roleMark (name : Text) : Text := ":" ++ name ++ ":\x60"

def opening : Enclosure → Text
  | literal => "\x60\x60"
  | proposal => roleMark "pep"
  | role name => roleMark name
  | strong => "**"
  | emphasis => "*"

def closing : Enclosure → Text
  | literal => "\x60\x60"
  | proposal => "\x60"
  | role _ => "\x60"
  | strong => "**"
  | emphasis => "*"

def image : Enclosure → Text → Text
  | proposal, content => "PEP " ++ content
  | _, content => quoted content

/-- The kind is one of the kinds that are rewritten. -/
def IsKnown : Enclosure → Prop
  | role name => name ∈ roles
  | _ => True

instance : DecidablePred IsKnown
  | role name => inferInstanceAs (Decidable (name ∈ roles))
  | literal | proposal | strong | emphasis => inferInstanceAs (Decidable True)

end Enclosure

/-- A marked-up piece of a text. -/
inductive Piece where
  /-- A content between two marks. -/
  | enclosed (kind : Enclosure) (content : Text)
  /-- A hyperlink with a label, blanks and an address; it may have a second underscore. -/
  | hyperlink (label blanks url : Text) (anonymous : Bool)
  /-- A bare address with its scheme and what follows the slashes. -/
  | address (scheme path : Text)

namespace Piece

/-- The underscores after a hyperlink. -/
def underscores (anonymous : Bool) : Text := if anonymous then "__" else "_"

def written : Piece → Text
  | enclosed kind content => kind.opening ++ content ++ kind.closing
  | hyperlink label blanks url anonymous =>
    '\x60' :: (label ++ blanks) ++ '<' :: url ++ '>' :: '\x60' :: underscores anonymous
  | address scheme path => '<' :: (scheme ++ "://" ++ path) ++ ['>']

/-- What the piece reads as.  The blanks at the end of a label belong to those between the label and
the address. -/
def image : Piece → Text
  | enclosed kind content => kind.image content
  | hyperlink label _ url _ => Text.trimEnd label ++ " (" ++ quoted url ++ ")"
  | address scheme path => quoted (scheme ++ "://" ++ path)

/-- What the parts of a piece may hold. -/
def WellFormed : Piece → Prop
  | enclosed kind content => kind.IsKnown ∧ content ≠ [] ∧ IsPlain content
  | hyperlink label blanks url _ =>
    IsPlain label ∧ (∀ c ∈ blanks, Text.isBlank c = true) ∧ url ≠ [] ∧
      (∀ c ∈ url, c ∉ ['\x60', '*', '<', '>', '\n']) ∧ ¬"::".toList <:+: url
  | address scheme path =>
    (∃ c ∈ scheme.head?, 'a' ≤ c ∧ c ≤ 'z') ∧ (∀ c ∈ scheme, isSchemeChar c = true) ∧ path ≠ [] ∧
      (∀ c ∈ scheme ++ "://" ++ path, Text.isBlank c = false ∧ c ∉ ['\x60', '*', '<', '>']) ∧
      ¬"::".toList <:+: scheme ++ "://" ++ path

instance : DecidablePred WellFormed
  | enclosed _ _ => inferInstanceAs (Decidable (_ ∧ _))
  | hyperlink _ _ _ _ => inferInstanceAs (Decidable (_ ∧ _))
  | address _ _ => inferInstanceAs (Decidable (_ ∧ _))

/-- The rule that is for the piece, by its place among the rules. -/
def turn : Piece → Nat
  | enclosed .literal _ => 1
  | enclosed .proposal _ => 2
  | enclosed (.role _) _ => 3
  | enclosed .strong _ => 4
  | enclosed .emphasis _ => 5
  | hyperlink _ _ _ _ => 6
  | address _ _ => 7

def isHyperlink : Piece → Bool
  | hyperlink _ _ _ _ => true
  | _ => false

/-- What may follow a piece: nothing, or a text that begins with no mark and, after a hyperlink,
with no underscore. -/
structure Precedes (piece : Piece) (rest : Text) : Prop where
  /-- The text begins with no mark. -/
  plain : ∀ c ∈ rest.head?, c ∉ marks
  /-- After a hyperlink it begins with no underscore. -/
  underscore : piece.isHyperlink = true → rest.head? ≠ some '_'

theorem written_ne_nil (piece : Piece) : piece.written ≠ [] := by
  cases piece with
  | enclosed kind content => cases kind <;> simp [written, Enclosure.opening, Enclosure.roleMark]
  | hyperlink label blanks url anonymous => simp [written]
  | address scheme path => simp [written]

end Piece

/-! ### Marks of roles -/

namespace Enclosure

/-- The names of the roles, that of a proposal among them, hold no marks. -/
theorem forall_mem_roles : ∀ name ∈ "pep".toList :: roles, name ≠ [] ∧ IsPlain name := by
  decide

theorem roleMark_eq (name : Text) : roleMark name = ':' :: (name ++ ":\x60".toList) := rfl

/-- Only the mark of the same role can begin where the mark of a role stands. -/
theorem eq_of_roleMark_prefix {name other rest : Text} (hname : ':' ∉ name) (hother : ':' ∉ other)
    (h : roleMark name <+: roleMark other ++ rest) : name = other := by
  obtain ⟨behind, h⟩ := h
  have htail : name ++ ':' :: ('\x60' :: behind) = other ++ ':' :: ('\x60' :: rest) := by
    simpa [roleMark_eq] using h
  have htake := congrArg (List.takeWhile (· ≠ ':')) htail
  have hwhile : ∀ {text : Text}, ':' ∉ text → ∀ tail,
      (text ++ ':' :: tail).takeWhile (· ≠ ':') = text := by
    intro text htext tail
    have hall : ∀ c ∈ text, decide (c ≠ ':') = true := by
      intro c hc
      exact decide_eq_true fun heq => htext (heq ▸ hc)
    exact Text.takeWhile_append_of_head hall (by simp)
  rwa [hwhile hname, hwhile hother] at htake

end Enclosure

/-! ### Where the rules match -/

theorem opensWith_inlineLiteral : inlineLiteral.OpensWith ["\x60\x60"] :=
  Text.opensWith_enclosed _ _ _

theorem opensWith_quotedRole : quotedRole.OpensWith (roles.map Enclosure.roleMark) := by
  intro text h
  obtain ⟨found, hfound⟩ := Option.ne_none_iff_exists'.1 h
  obtain ⟨role, hrole, hmatch⟩ := List.exists_of_findSome?_eq_some hfound
  obtain ⟨mark, hmark, hstart⟩ := Text.opensWith_enclosed _ _ _ text
    (Option.ne_none_iff_exists'.2 ⟨found, hmatch⟩)
  obtain rfl := List.mem_singleton.1 hmark
  exact ⟨_, List.mem_map_of_mem hrole, hstart⟩

theorem opensWith_hyperlink : hyperlink.OpensWith ["\x60"] := by
  intro text h
  obtain ⟨⟨length, image⟩, hmatch⟩ := Option.ne_none_iff_exists'.1 h
  obtain ⟨label, url, finish, _, rest, ⟨rfl, -, -, -⟩, rfl, -⟩ := hyperlink_eq_some hmatch
  exact ⟨_, List.mem_singleton_self _, List.prefix_append _ _⟩

theorem opensWith_bareAddress : bareAddress.OpensWith ["<"] := by
  intro text h
  obtain ⟨⟨length, image⟩, hmatch⟩ := Option.ne_none_iff_exists'.1 h
  obtain ⟨scheme, path, rest, rfl, -⟩ := bareAddress_eq_some_iff.1 hmatch
  exact ⟨_, List.mem_singleton_self _, List.prefix_append _ _⟩

/-! ### Opening marks that do not begin in a piece -/

/-- A mark does not reach over what is no part of a mark. -/
theorem head_not_mem {mark rest : Text} (hmark : mark ⊆ marks)
    (hrest : ∀ c ∈ rest.head?, c ∉ marks) : ∀ c ∈ rest.head?, c ∉ mark :=
  fun c hc hmem => hrest c hc (hmark hmem)

theorem IsPlain.append_head {content : Text} (h : IsPlain content) (hne : content ≠ [])
    (rest : Text) : ∀ c ∈ (content ++ rest).head?, c ∉ marks := by
  rw [List.head?_append_of_ne_nil _ hne]
  exact h.head

namespace Piece

open Enclosure (roleMark)

variable {rest : Text}

section
variable {mark : Text} {c : Char} (hmark : mark ⊆ marks) (hc : c ∈ marks)
include hmark hc

/-- A mark with more of a character than each of the two marks of a piece does not begin in it: it
would have to reach over the content. -/
theorem misses_enclosed {kind : Enclosure} {content : Text}
    (hopening : kind.opening.count c < mark.count c)
    (hclosing : kind.closing.count c < mark.count c)
    (h : (enclosed kind content).WellFormed) (hrest : ∀ c ∈ rest.head?, c ∉ marks) :
    Misses mark (enclosed kind content).written rest := by
  obtain ⟨-, hne, hplain⟩ := h
  have hcontent : content.count c = 0 := List.count_eq_zero.2 (hplain.not_mem hc)
  rw [written, List.append_assoc, misses_append, List.append_assoc]
  constructor
  · exact misses_of_count_lt c hopening (head_not_mem hmark (hplain.append_head hne _))
  · refine misses_of_count_lt c ?_ (head_not_mem hmark hrest)
    rwa [List.count_append, hcontent, Nat.zero_add]

end

/-- In the address of a piece there is no double colon and no mark of a role, and neither reaches
over the bracket after it. -/
theorem misses_url {mark url : Text} (hmark : '<' ∉ mark ∧ '>' ∉ mark) (hne : mark ≠ [])
    (hurl : ¬mark <:+: url) (tail : Text) : Misses mark ('<' :: url) ('>' :: tail) := by
  refine misses_of_not_infix ?_ ?_
  · rw [List.infix_cons_iff]
    rintro (hstart | hoccurs)
    · obtain ⟨d, mark, rfl⟩ := List.exists_cons_of_ne_nil hne
      exact hmark.1 (List.mem_cons.2 (.inl (List.cons_prefix_cons.1 hstart).1.symm))
    · exact hurl hoccurs
  · intro d hd
    obtain rfl : '>' = d := by simpa using hd
    exact hmark.2

/-- The mark of a role does not occur where there is no backquote. -/
theorem not_roleMark_in_url {name url : Text} (h : '\x60' ∉ url) : ¬roleMark name <:+: url := by
  intro hoccurs
  exact h (hoccurs.subset (by simp [Enclosure.roleMark_eq]))

theorem turn_enclosed_le (kind : Enclosure) (content : Text) :
    (enclosed kind content).turn ≤ 5 := by
  cases kind <;> simp [turn]

/-- A hyperlink and a bare address hold no asterisk. -/
theorem asterisk_not_mem_written {piece : Piece} (h : piece.WellFormed) (hturn : 5 < piece.turn) :
    '*' ∉ piece.written := by
  cases piece with
  | enclosed kind content =>
      have hle := turn_enclosed_le kind content
      omega
  | hyperlink label blanks url anonymous =>
      obtain ⟨hlabel, hblanks, -, hurl, -⟩ := h
      have hlabel : '*' ∉ label := hlabel.not_mem (by decide)
      have hblanks : '*' ∉ blanks := not_mem_of_forall_isBlank hblanks (by decide)
      have hurl : '*' ∉ url := fun hmem => hurl _ hmem (by decide)
      cases anonymous <;> simp [written, underscores, hlabel, hblanks, hurl]
  | address scheme path =>
      obtain ⟨-, -, -, hurl, -⟩ := h
      have hurl : '*' ∉ scheme ++ "://" ++ path := fun hmem => (hurl _ hmem).2 (by decide)
      simpa [written] using hurl

/-- A bare address holds no backquote. -/
theorem backquote_not_mem_written {piece : Piece} (h : piece.WellFormed) (hturn : 6 < piece.turn) :
    '\x60' ∉ piece.written := by
  cases piece with
  | enclosed kind content =>
      have hle := turn_enclosed_le kind content
      omega
  | hyperlink label blanks url anonymous => exact absurd hturn (Nat.lt_irrefl 6)
  | address scheme path =>
      obtain ⟨-, -, -, hurl, -⟩ := h
      have hurl : '\x60' ∉ scheme ++ "://" ++ path := fun hmem => (hurl _ hmem).2 (by decide)
      simpa [written] using hurl

/-- No double colon begins in a piece. -/
theorem misses_doubleColon {piece : Piece} (h : piece.WellFormed)
    (hrest : ∀ c ∈ rest.head?, c ∉ marks) : Misses "::" piece.written rest := by
  have hmarks : "::".toList ⊆ marks := by decide
  have hrole : ∀ {name content : Text}, name ∈ "pep".toList :: roles → content ≠ [] →
      IsPlain content → Misses "::" (roleMark name ++ content ++ ['\x60']) rest := by
    intro name content hname hne hplain
    obtain ⟨hname, hletters⟩ := Enclosure.forall_mem_roles name hname
    have hcolon : ':' ∉ name := hletters.not_mem (by decide)
    obtain ⟨d, name, rfl⟩ := List.exists_cons_of_ne_nil hname
    obtain ⟨hd, -⟩ := List.ne_and_not_mem_of_not_mem_cons hcolon
    rw [Enclosure.roleMark_eq, List.append_assoc, misses_append, Text.misses_cons]
    -- the two colons of a role are apart
    refine ⟨⟨?_, ?_⟩, ?_⟩
    · intro hstart
      obtain ⟨-, hstart⟩ := List.cons_prefix_cons.1 hstart
      exact hd (List.cons_prefix_cons.1 hstart).1
    · rw [List.append_assoc]
      refine misses_of_count_lt ':' ?_ (head_not_mem hmarks (hplain.append_head hne _))
      rw [List.count_append, List.count_eq_zero.2 hcolon]
      decide
    · refine misses_of_head_not_mem (c := ':') rfl ?_
      rw [List.mem_append, not_or]
      exact ⟨hplain.not_mem (by decide), by decide⟩
  cases piece with
  | enclosed kind content =>
      cases kind with
      | proposal => exact hrole List.mem_cons_self h.2.1 h.2.2
      | role name => exact hrole (List.mem_cons_of_mem _ h.1) h.2.1 h.2.2
      | _ => exact misses_enclosed (c := ':') hmarks (by decide) (by decide) (by decide) h hrest
  | hyperlink label blanks url anonymous =>
      obtain ⟨hlabel, hblanks, -, -, hurl⟩ := h
      rw [written, misses_append, misses_append]
      refine ⟨⟨misses_of_head_not_mem (c := ':') rfl ?_, ?_⟩,
        misses_of_head_not_mem (c := ':') rfl ?_⟩
      · have hlabel : ':' ∉ label := hlabel.not_mem (by decide)
        have hblanks : ':' ∉ blanks := not_mem_of_forall_isBlank hblanks (by decide)
        simp [hlabel, hblanks]
      · exact misses_url (by decide) (by decide) hurl _
      · cases anonymous <;> decide
  | address scheme path =>
      obtain ⟨-, -, -, -, hurl⟩ := h
      rw [written, misses_append]
      exact ⟨misses_url (by decide) (by decide) hurl _, misses_of_head_not_mem rfl (by decide)⟩

/-- Two backquotes begin in no piece but a literal. -/
theorem misses_backquotes {piece : Piece} (h : piece.WellFormed) (hturn : 1 < piece.turn)
    (hrest : ∀ c ∈ rest.head?, c ∉ marks) : Misses "\x60\x60" piece.written rest := by
  have hmarks : "\x60\x60".toList ⊆ marks := by decide
  cases piece with
  | enclosed kind content =>
      cases kind with
      | literal => exact absurd hturn (Nat.lt_irrefl 1)
      | role name =>
          have hname : '\x60' ∉ name :=
            (Enclosure.forall_mem_roles name (List.mem_cons_of_mem _ h.1)).2.not_mem (by decide)
          have hopening : (roleMark name).count '\x60' = 1 := by
            rw [Enclosure.roleMark_eq, List.count_cons_of_ne (by decide), List.count_append,
              List.count_eq_zero.2 hname]
            decide
          exact misses_enclosed (c := '\x60') hmarks (by decide)
            (Nat.lt_of_le_of_lt (Nat.le_of_eq hopening) (by decide)) (Nat.lt_succ_self 1) h hrest
      | _ => exact misses_enclosed (c := '\x60') hmarks (by decide) (by decide) (by decide) h hrest
  | hyperlink label blanks url anonymous =>
      obtain ⟨hlabel, hblanks, -, hurl, -⟩ := h
      have hlabel : '\x60' ∉ label := hlabel.not_mem (by decide)
      have hblanks : '\x60' ∉ blanks := not_mem_of_forall_isBlank hblanks (by decide)
      have hurl : '\x60' ∉ url := fun hmem => hurl _ hmem (by decide)
      -- the two backquotes of a hyperlink are apart
      rw [written, misses_append, misses_append]
      refine ⟨⟨misses_of_count_lt '\x60' ?_ ?_, misses_of_head_not_mem (c := '\x60') rfl ?_⟩,
        misses_of_count_lt '\x60' ?_ (head_not_mem hmarks hrest)⟩
      · rw [List.count_cons_self, List.count_append, List.count_eq_zero.2 hlabel,
          List.count_eq_zero.2 hblanks]
        decide
      · rintro d ⟨⟩
        decide
      · exact List.not_mem_cons_of_ne_of_not_mem (by decide) hurl
      · cases anonymous <;> decide
  | address scheme path =>
      exact misses_of_head_not_mem (c := '\x60') rfl
        (backquote_not_mem_written h (Nat.lt_succ_self 6))

/-- The mark of a role does not begin in a role of another name. -/
theorem misses_otherRole {name other content : Text} (hname : name ∈ "pep".toList :: roles)
    (hmem : other ∈ "pep".toList :: roles) (hdiffer : roleMark other ≠ roleMark name)
    (hplain : IsPlain content) :
    Misses (roleMark name) (roleMark other ++ content ++ ['\x60']) rest := by
  obtain ⟨hne, hletters⟩ := Enclosure.forall_mem_roles name hname
  have hcolon : ':' ∉ other := (Enclosure.forall_mem_roles other hmem).2.not_mem (by decide)
  have hcontent : ':' ∉ '\x60' :: (content ++ ['\x60']) := by
    simpa using hplain.not_mem (by decide)
  have hsplit : roleMark other ++ content ++ ['\x60'] =
      ':' :: (other ++ ':' :: '\x60' :: (content ++ ['\x60'])) := by
    simp [Enclosure.roleMark_eq]
  rw [hsplit, Text.misses_cons, misses_append, Text.misses_cons]
  refine ⟨?_, misses_of_head_not_mem (c := ':') rfl hcolon, ?_,
    misses_of_head_not_mem (c := ':') rfl hcontent⟩
  · intro hstart
    have hstart : roleMark name <+: roleMark other ++ (content ++ ['\x60'] ++ rest) := by
      simpa [Enclosure.roleMark_eq] using hstart
    exact hdiffer (congrArg roleMark
      (Enclosure.eq_of_roleMark_prefix (hletters.not_mem (by decide)) hcolon hstart).symm)
  · -- the second colon of a role is followed by a backquote
    intro hstart
    obtain ⟨d, name, rfl⟩ := List.exists_cons_of_ne_nil hne
    obtain ⟨-, hstart⟩ := List.cons_prefix_cons.1 hstart
    exact hletters d List.mem_cons_self ((List.cons_prefix_cons.1 hstart).1 ▸ by decide)

theorem brackets_not_mem_roleMark {name : Text} (hname : name ∈ "pep".toList :: roles) :
    '<' ∉ roleMark name ∧ '>' ∉ roleMark name := by
  obtain ⟨-, hletters⟩ := Enclosure.forall_mem_roles name hname
  have hopening : '<' ∉ name := hletters.not_mem (by decide)
  have hclosing : '>' ∉ name := hletters.not_mem (by decide)
  simp [Enclosure.roleMark_eq, hopening, hclosing]

/-- The mark of a role begins in no piece but the role of this name. -/
theorem misses_role {piece : Piece} {name : Text} (hname : name ∈ "pep".toList :: roles)
    (h : piece.WellFormed)
    (hother : ∀ kind content, piece = enclosed kind content → kind.opening ≠ roleMark name) :
    Misses (roleMark name) piece.written rest := by
  have hbrackets := brackets_not_mem_roleMark hname
  cases piece with
  | enclosed kind content =>
      obtain ⟨hknown, -, hplain⟩ := h
      have hdiffer := hother kind content rfl
      cases kind with
      | proposal => exact misses_otherRole hname List.mem_cons_self hdiffer hplain
      | role other => exact misses_otherRole hname (List.mem_cons_of_mem _ hknown) hdiffer hplain
      | _ =>
          have hcolon : ':' ∉ content := hplain.not_mem (by decide)
          refine misses_of_head_not_mem (c := ':') rfl ?_
          simp [written, Enclosure.opening, Enclosure.closing, hcolon]
  | hyperlink label blanks url anonymous =>
      obtain ⟨hlabel, hblanks, -, hurl, -⟩ := h
      have hurl : '\x60' ∉ url := fun hmem => hurl _ hmem (by decide)
      rw [written, misses_append, misses_append]
      refine ⟨⟨misses_of_head_not_mem (c := ':') rfl ?_, ?_⟩,
        misses_of_head_not_mem (c := ':') rfl ?_⟩
      · have hlabel : ':' ∉ label := hlabel.not_mem (by decide)
        have hblanks : ':' ∉ blanks := not_mem_of_forall_isBlank hblanks (by decide)
        simp [hlabel, hblanks]
      · exact misses_url hbrackets (List.cons_ne_nil _ _) (not_roleMark_in_url hurl) _
      · cases anonymous <;> decide
  | address scheme path =>
      obtain ⟨-, -, -, hurl, -⟩ := h
      have hurl : '\x60' ∉ scheme ++ "://" ++ path := fun hmem => (hurl _ hmem).2 (by decide)
      rw [written, misses_append]
      exact ⟨misses_url hbrackets (List.cons_ne_nil _ _) (not_roleMark_in_url hurl) _,
        misses_of_head_not_mem (c := ':') rfl (by decide)⟩

/-- Two asterisks begin in no piece that comes after strong emphasis. -/
theorem misses_asterisks {piece : Piece} (h : piece.WellFormed) (hturn : 4 < piece.turn)
    (hrest : ∀ c ∈ rest.head?, c ∉ marks) : Misses "**" piece.written rest := by
  have hmarks : "**".toList ⊆ marks := by decide
  cases piece with
  | enclosed kind content =>
      cases kind with
      | emphasis =>
          exact misses_enclosed (c := '*') hmarks (by decide) (by decide) (by decide) h hrest
      | _ => exact absurd hturn (by simp [turn])
  | hyperlink label blanks url anonymous =>
      exact misses_of_head_not_mem (c := '*') rfl (asterisk_not_mem_written h (by simp [turn]))
  | address scheme path =>
      exact misses_of_head_not_mem (c := '*') rfl (asterisk_not_mem_written h (by simp [turn]))

/-! ### Marks that no image holds -/

/-- The image of a piece with a content between marks holds no marks any more. -/
theorem not_mem_image_of_turn_le {piece : Piece} (h : piece.WellFormed) (hturn : piece.turn ≤ 5)
    {c : Char} (hc : c ∈ marks) : c ∉ piece.image := by
  have hfixed : ∀ c ∈ marks, c ∉ ['«', Text.noBreakSpace, '»'] ++ "PEP ".toList := by decide
  have hc' := hfixed c hc
  cases piece with
  | enclosed kind content =>
      have hcontent : c ∉ content := h.2.2.not_mem hc
      cases kind <;> simp_all [image, Enclosure.image, quoted]
  | hyperlink label blanks url anonymous => exact absurd hturn (by simp [turn])
  | address scheme path => exact absurd hturn (by simp [turn])

/-- The image of a hyperlink holds no opening bracket any more. -/
theorem bracket_not_mem_image {piece : Piece} (h : piece.WellFormed) (hturn : piece.turn < 7) :
    '<' ∉ piece.image := by
  cases piece with
  | enclosed kind content =>
      exact not_mem_image_of_turn_le h (turn_enclosed_le kind content) (by decide)
  | hyperlink label blanks url anonymous =>
      obtain ⟨hlabel, -, -, hurl, -⟩ := h
      have hlabel : '<' ∉ Text.trimEnd label := fun hmem =>
        hlabel.not_mem (by decide) ((Text.trimEnd_prefix label).subset hmem)
      have hurl : '<' ∉ url := fun hmem => hurl _ hmem (by decide)
      simp [image, quoted, Text.noBreakSpace, hlabel, hurl]
  | address scheme path => exact absurd hturn (Nat.lt_irrefl 7)

end Piece

end CatalogLint.Markup
