/-
**When nothing is left to rewrite.**

A text is settled if no rule of markup matches anywhere in it, and these are the texts that are
their own plain forms.  A plain form need not be settled: what a rule writes may stand together with
what was there before as markup that a second round rewrites.  But every round that changes the text
takes marks away, so after as many rounds as there are marks in the text nothing changes any more.
A composed text is settled after the first round.

Main definitions:

* `CatalogLint.Markup.IsSettled` — no rule matches anywhere in the text;
* `CatalogLint.Markup.Settles` — which rounds change a text.

Main results:

* `CatalogLint.Markup.normalize_eq_self_iff` — the settled texts are their own plain forms;
* `CatalogLint.Markup.isSettled_iterate_normalize` — **a text settles** after as many rounds as it
  has marks;
* `CatalogLint.Markup.Composed.foldl_replaceAll_render` — several rules take a composed text several
  stages further;
* `CatalogLint.Markup.isSettled_normalize_written` — a composed text is settled after one round;
* `CatalogLint.Markup.settles_normalize` — **which rounds change a text**.
-/

import CatalogLint.Proofs.Markup.Composed
import CatalogLint.Proofs.Markup.Shape
import Mathlib.Logic.Function.Iterate

set_option autoImplicit false

namespace CatalogLint.Markup

open Text (Rule Misses misses_append misses_of_head_not_mem misses_of_not_infix)

/-! ### Settled texts -/

/-- No rule matches anywhere in the text. -/
def IsSettled (text : Text) : Prop := ∀ rule ∈ passes, Rule.Unmatched rule text

/-- **The settled texts are their own plain forms.** -/
theorem normalize_eq_self_iff {text : Text} : normalize text = text ↔ IsSettled text :=
  Text.foldl_replaceAll_eq_self_iff lightens_of_mem_passes

/-- A text that is not settled has fewer marks in its plain form. -/
theorem isSettled_or_countP_normalize_lt (text : Text) :
    IsSettled text ∨ (normalize text).countP isMark < text.countP isMark :=
  Text.unmatched_or_countP_foldl_lt lightens_of_mem_passes text

/-- **A text settles after as many rounds as it has marks.** -/
theorem isSettled_iterate_normalize {text : Text} {rounds : Nat}
    (h : text.countP isMark ≤ rounds) : IsSettled (normalize^[rounds] text) := by
  induction rounds generalizing text with
  | zero =>
      refine (isSettled_or_countP_normalize_lt text).resolve_right fun hlt => ?_
      rw [Nat.le_zero.1 h] at hlt
      exact Nat.not_lt_zero _ hlt
  | succ rounds ih =>
      rw [Function.iterate_succ_apply]
      -- a settled text stays as it is, and any other one has a mark less for the other rounds
      rcases isSettled_or_countP_normalize_lt text with hsettled | hlt
      · have hsame := normalize_eq_self_iff.2 hsettled
        rw [hsame, Function.iterate_fixed hsame]
        exact hsettled
      · exact ih (by omega)

/-! ### Composed texts -/

/-- Where there are no opening marks but single colons, nothing is left to rewrite. -/
theorem isSettled_of_not_mem {text : Text} (hmarks : ∀ c ∈ ['\x60', '*', '<'], c ∉ text)
    (hcolons : Misses "::" text []) : IsSettled text := by
  have hcharacter : ∀ {rule : Rule} {openings : List Text}, rule.OpensWith openings →
      ∀ c ∈ ['\x60', '*', '<'], (∀ opening ∈ openings, c ∈ opening) → rule.Unmatched text := by
    intro rule openings hopens c hc hopenings rest hrest
    by_contra hmatch
    obtain ⟨opening, hopening, hstart⟩ := hopens rest hmatch
    exact hmarks c hc (hrest.subset (hstart.subset (hopenings opening hopening)))
  have hdouble : doubleColon.Unmatched text := by
    intro rest hrest
    by_contra hmatch
    obtain ⟨_, hopening, hstart⟩ := Text.opensWith_replacing _ _ rest hmatch
    obtain rfl := List.mem_singleton.1 hopening
    refine hcolons rest ?_ hrest (by rwa [List.append_nil])
    rintro rfl
    exact absurd hstart (by decide)
  have hroles : ∀ opening ∈ roles.map Enclosure.roleMark, '\x60' ∈ opening := by decide
  simp only [IsSettled, passes, List.forall_mem_cons]
  exact ⟨hdouble, hcharacter opensWith_inlineLiteral '\x60' (by decide) (by decide),
    hcharacter (Text.opensWith_enclosed _ _ _) '\x60' (by decide) (by decide),
    hcharacter opensWith_quotedRole '\x60' (by decide) hroles,
    hcharacter (Text.opensWith_enclosed _ _ _) '*' (by decide) (by decide),
    hcharacter (Text.opensWith_enclosed _ _ _) '*' (by decide) (by decide),
    hcharacter opensWith_hyperlink '\x60' (by decide) (by decide),
    hcharacter opensWith_bareAddress '<' (by decide) (by decide), List.forall_mem_nil _⟩

/-- Each of the rules takes the step that has its place. -/
theorem exists_step : ∀ item ∈ passes.zipIdx, ∃ openings, Step item.2 item.1 openings := by
  simp only [passes, List.zipIdx_cons, List.zipIdx_nil, List.forall_mem_cons]
  exact ⟨⟨_, step_doubleColon⟩, ⟨_, step_inlineLiteral⟩, ⟨_, step_proposalRole⟩,
    ⟨_, step_quotedRole⟩, ⟨_, step_strong⟩, ⟨_, step_emphasis⟩, ⟨_, step_hyperlink⟩,
    ⟨_, step_bareAddress⟩, List.forall_mem_nil _⟩

/-- Several rules take a composed text several stages further. -/
theorem Composed.foldl_replaceAll_render {text : Composed} (h : text.WellFormed)
    {rules : List Rule} {start : Nat}
    (hsteps : ∀ item ∈ rules.zipIdx start, ∃ openings, Step item.2 item.1 openings) :
    rules.foldl (fun text rule => Text.replaceAll rule text) (text.render (Piece.stage start)) =
      text.render (Piece.stage (start + rules.length)) := by
  induction rules generalizing start with
  | nil => rfl
  | cons rule rules ih =>
      rw [List.zipIdx_cons, List.forall_mem_cons] at hsteps
      obtain ⟨⟨openings, hstep⟩, hothers⟩ := hsteps
      rw [List.foldl_cons, Composed.replaceAll_render hstep h, ih hothers, List.length_cons,
        Nat.add_assoc, Nat.add_comm 1]

namespace Piece

/-- Every piece has its turn. -/
theorem turn_lt_length_passes (piece : Piece) : piece.turn < passes.length := by
  cases piece with
  | enclosed kind content => exact Nat.lt_of_le_of_lt (turn_enclosed_le kind content) (by decide)
  | hyperlink label blanks url anonymous => exact Nat.lt_of_succ_lt (Nat.lt_succ_self 7)
  | address scheme path => exact Nat.lt_succ_self 7

/-- What a piece reads as holds no opening marks but colons. -/
theorem not_mem_image {piece : Piece} (h : piece.WellFormed) {c : Char}
    (hc : c ∈ ['\x60', '*', '<']) : c ∉ piece.image := by
  have hmarks : c ∈ marks ∧ c ∈ ['\x60', '*', '<', '>', '\n'] := by
    revert c
    decide
  have hfixed : ∀ c ∈ ['\x60', '*', '<'], c ∉ ['«', Text.noBreakSpace, '»', ' ', '(', ')'] := by
    decide
  have hc' := hfixed c hc
  cases piece with
  | enclosed kind content =>
      exact not_mem_image_of_turn_le h (turn_enclosed_le kind content) hmarks.1
  | hyperlink label blanks url anonymous =>
      obtain ⟨hlabel, -, -, hurl, -⟩ := h
      have hlabel : c ∉ Text.trimEnd label := fun hmem =>
        hlabel.not_mem hmarks.1 ((Text.trimEnd_prefix label).subset hmem)
      have hurl : c ∉ url := fun hmem => hurl c hmem hmarks.2
      simp_all [image, quoted]
  | address scheme path =>
      obtain ⟨-, -, -, hurl, -⟩ := h
      have hurl : c ∉ scheme ++ "://" ++ path := fun hmem =>
        (hurl c hmem).2 (by simp_all)
      simp_all [image, quoted]

/-- No double colon begins in a quoted text that holds none. -/
theorem misses_quoted {inner : Text} (h : ¬"::".toList <:+: inner) (rest : Text) :
    Misses "::" (quoted inner) rest := by
  rw [quoted, misses_append, misses_append]
  refine ⟨⟨misses_of_head_not_mem (c := ':') rfl (by decide), misses_of_not_infix h ?_⟩,
    misses_of_head_not_mem (c := ':') rfl (by decide)⟩
  rintro c ⟨⟩
  decide

/-- No double colon begins in what a piece reads as. -/
theorem misses_doubleColon_image {piece : Piece} (h : piece.WellFormed) (rest : Text) :
    Misses "::" piece.image rest := by
  cases piece with
  | enclosed kind content =>
      exact misses_of_head_not_mem (c := ':') rfl
        (not_mem_image_of_turn_le h (turn_enclosed_le kind content) (by decide))
  | hyperlink label blanks url anonymous =>
      obtain ⟨hlabel, -, -, -, hurl⟩ := h
      have hlabel : ':' ∉ Text.trimEnd label := fun hmem =>
        hlabel.not_mem (by decide) ((Text.trimEnd_prefix label).subset hmem)
      -- the only colons are those of the address
      rw [image, misses_append, misses_append, misses_append]
      exact ⟨⟨⟨misses_of_head_not_mem (c := ':') rfl hlabel,
        misses_of_head_not_mem (c := ':') rfl (by decide)⟩, misses_quoted hurl _⟩,
        misses_of_head_not_mem (c := ':') rfl (by decide)⟩
  | address scheme path => exact misses_quoted h.2.2.2.2 rest

end Piece

/-- A mark is missed in a sequence of parts if it is missed in each of them, whatever follows. -/
theorem misses_flatMap {item : Type} {items : List item} {form : item → Text} {mark : Text}
    (h : ∀ item ∈ items, ∀ rest, Misses mark (form item) rest) (rest : Text) :
    Misses mark (items.flatMap form) rest := by
  induction items with
  | nil => exact Text.misses_nil mark rest
  | cons item items ih =>
      obtain ⟨hitem, hothers⟩ := List.forall_mem_cons.1 h
      rw [List.flatMap_cons, misses_append]
      exact ⟨hitem _, ih hothers⟩

/-- What a composed text reads as is settled. -/
theorem Composed.isSettled_image {text : Composed} (h : text.WellFormed) :
    IsSettled text.image := by
  have hplain : ∀ {plain : Text}, IsPlain plain → ∀ rest, Misses "::" plain rest :=
    fun hplain _ => misses_of_head_not_mem (c := ':') rfl (hplain.not_mem (by decide))
  rw [image, render]
  refine isSettled_of_not_mem (fun c hc => ?_) (misses_append.2 ⟨hplain h.lead _, ?_⟩)
  · have hmark : c ∈ marks := by
      revert c
      decide
    rw [List.mem_append, List.mem_flatMap]
    rintro (hmem | ⟨item, hitem, hmem⟩)
    · exact h.lead.not_mem hmark hmem
    · rcases List.mem_append.1 hmem with hmem | hmem
      · exact Piece.not_mem_image (h.pieces item hitem) hc hmem
      · exact (h.plain item hitem).not_mem hmark hmem
  · exact misses_flatMap (fun item hitem rest => misses_append.2
      ⟨Piece.misses_doubleColon_image (h.pieces item hitem) _,
        hplain (h.plain item hitem) rest⟩) _

/-- **A composed text is settled after one round.** -/
theorem isSettled_normalize_written {text : Composed} (h : text.WellFormed) :
    IsSettled (normalize text.written) := by
  have hlast : text.render (Piece.stage passes.length) = text.image :=
    congrArg (Composed.render · text) (funext fun piece => if_pos piece.turn_lt_length_passes)
  have hrounds : normalize text.written = text.render (Piece.stage (0 + passes.length)) :=
    Composed.foldl_replaceAll_render h exists_step
  rw [hrounds, Nat.zero_add, hlast]
  exact Composed.isSettled_image h

/-! ### Which rounds change a text -/

/-- Which rounds change a text. -/
structure Settles (text : Text) : Prop where
  /-- The second round changes nothing if and only if no rule matches in the plain form. -/
  again : normalize (normalize text) = normalize text ↔ IsSettled (normalize text)
  /-- A round that changes a text takes marks away. -/
  fewer : normalize text = text ∨ (normalize text).countP isMark < text.countP isMark
  /-- After as many rounds as the text has marks nothing changes any more. -/
  eventually : ∀ rounds, text.countP isMark ≤ rounds →
    normalize (normalize^[rounds] text) = normalize^[rounds] text
  /-- If the text is composed of plain text and pieces of markup, the second round changes
  nothing. -/
  composed : ∀ composed : Composed, composed.WellFormed → composed.written = text →
    normalize (normalize text) = normalize text

/-- **Which rounds change a text.** -/
theorem settles_normalize (text : Text) : Settles text := by
  refine ⟨normalize_eq_self_iff, ?_, fun rounds hrounds => ?_, ?_⟩
  · exact (isSettled_or_countP_normalize_lt text).imp_left normalize_eq_self_iff.2
  · exact normalize_eq_self_iff.2 (isSettled_iterate_normalize hrounds)
  · rintro composed h rfl
    exact normalize_eq_self_iff.2 (isSettled_normalize_written h)

/-- Of three colons the first round leaves two, and the second round leaves one. -/
theorem not_forall_normalize_normalize :
    ¬∀ text : Text, normalize (normalize text) = normalize text := by
  intro h
  exact absurd (h ":::") (by decide)

end CatalogLint.Markup
