/-
**Markup is rewritten piece by piece.**

A composed text is plain text with pieces of markup in it, in any order and number, no two of which
touch.  Its plain form is the same text with every piece replaced by what it reads as.  The rules
are applied one after the other, each to the whole text; so the proof goes from stage to stage,
where a stage is the composed text with the pieces whose turn is over in their new form and the
others as they are written.  A rule takes one stage to the next, because it matches each piece of
its kind as a whole and begins to match in no other.

Main definitions:

* `CatalogLint.Markup.Composed` — plain text with pieces in it, its written form and what it reads
  as;
* `CatalogLint.Markup.Piece.stage` — a piece when some of the rules have been applied;
* `CatalogLint.Markup.Step` — what a rule has to do with the pieces.

Main results:

* `CatalogLint.Markup.hyperlink_append`, `CatalogLint.Markup.quotedRole_append` — what the rules
  match;
* `CatalogLint.Markup.Composed.replaceAll_render` — **a replacement goes from piece to piece**;
* `CatalogLint.Markup.normalize_composed` — **the plain form of a composed text**.
-/

import CatalogLint.Proofs.Markup.OneLine
import CatalogLint.Proofs.Markup.Piece

set_option autoImplicit false

namespace CatalogLint.Markup

open Text (Rule Misses misses_of_head_not_mem replaceAll)

/-! ### What the rules match -/

/-- A role is matched by its own mark. -/
theorem quotedRole_append {name content : Text} (hname : name ∈ roles) (hcontent : IsPlain content)
    (rest : Text) :
    quotedRole (Enclosure.roleMark name ++ content ++ ['\x60'] ++ rest) =
      some ((Enclosure.roleMark name ++ content ++ ['\x60']).length, quoted content) := by
  have hcolon : ∀ role ∈ roles, ':' ∉ role := fun role hrole =>
    (Enclosure.forall_mem_roles role (List.mem_cons_of_mem _ hrole)).2.not_mem (by decide)
  obtain ⟨before, after, hsplit, hfirst⟩ := List.eq_append_cons_of_mem hname
  refine List.findSome?_eq_some_iff.2 ⟨before, name, after, hsplit, ?_, ?_⟩
  · exact Text.enclosed_append (c := '\x60') rfl (hcontent.not_mem (by decide))
      (hcontent.not_mem (by decide)) rest
  · intro role hrole
    by_contra hmatch
    obtain ⟨mark, hmark, hstart⟩ := Text.opensWith_enclosed _ _ _ _ hmatch
    obtain rfl := List.mem_singleton.1 hmark
    have hmem : role ∈ roles := hsplit ▸ List.mem_append_left _ hrole
    have hstart : Enclosure.roleMark role <+:
        Enclosure.roleMark name ++ (content ++ ['\x60'] ++ rest) := by
      simpa [Enclosure.roleMark] using hstart
    obtain rfl := Enclosure.eq_of_roleMark_prefix (hcolon role hmem) (hcolon name hname) hstart
    exact hfirst hrole

theorem upToMark_append {stops text : Text} {c : Char} (h : ∀ d ∈ text, d ∉ stops) (hc : c ∈ stops)
    (rest : Text) : upToMark stops (text ++ c :: rest) = text := by
  have hall : ∀ d ∈ text, (!stops.contains d) = true := by
    intro d hd
    simpa using h d hd
  exact Text.takeWhile_append_of_head hall (by simpa using hc)

/-- A hyperlink is matched as a whole, with the second underscore if there is one. -/
theorem hyperlink_append {label blanks url : Text} {anonymous : Bool} {rest : Text}
    (h : (Piece.hyperlink label blanks url anonymous).WellFormed) (hrest : rest.head? ≠ some '_') :
    hyperlink ((Piece.hyperlink label blanks url anonymous).written ++ rest) =
      some ((Piece.hyperlink label blanks url anonymous).written.length,
        (Piece.hyperlink label blanks url anonymous).image) := by
  obtain ⟨hlabel, hblanks, hne, hurl, -⟩ := h
  have hwritten : (Piece.hyperlink label blanks url anonymous).written ++ rest =
      '\x60' :: (label ++ blanks ++ '<' :: (url ++ '>' :: '\x60' ::
        (Piece.underscores anonymous ++ rest))) := by
    simp [Piece.written]
  have hlabelStops : ∀ d ∈ ['\x60', '<'], d ∈ marks ∧ Text.isBlank d = false := by decide
  have hurlStops : ['<', '>', '\x60'] ⊆ ['\x60', '*', '<', '>', '\n'] := by decide
  have hlabelRead : ∀ tail, upToMark ['\x60', '<'] (label ++ blanks ++ '<' :: tail) =
      label ++ blanks := by
    refine upToMark_append (fun d hd hmem => ?_) (by decide)
    obtain ⟨hmark, hnoBlank⟩ := hlabelStops d hmem
    rcases List.mem_append.1 hd with hd | hd
    · exact hlabel d hd hmark
    · exact not_mem_of_forall_isBlank hblanks hnoBlank hd
  have hurlRead : ∀ tail, upToMark ['<', '>', '\x60'] (url ++ '>' :: tail) = url :=
    upToMark_append (fun d hd hmem => hurl d hd (hurlStops hmem)) (by decide)
  have hempty : url.isEmpty = false := by simpa using hne
  rw [hwritten, hyperlink]
  simp only [hlabelRead, hurlRead, List.drop_left, hempty, Bool.false_eq_true, if_false,
    Text.trimEnd_append_of_forall_isBlank hblanks]
  cases anonymous with
  | true =>
      simp [Piece.underscores, Piece.written, Piece.image]
      omega
  | false =>
      have hunderscore : ∀ tail, rest ≠ '_' :: tail := by
        rintro tail rfl
        exact hrest rfl
      simp [Piece.underscores, Piece.written, Piece.image]
      omega

theorem Piece.WellFormed.isAddress {scheme path : Text}
    (h : (Piece.address scheme path).WellFormed) : IsAddress scheme path := by
  obtain ⟨hletter, hscheme, hne, hurl, -⟩ := h
  refine ⟨hletter, hscheme, hne, fun c hc => ?_⟩
  obtain ⟨hblank, hmarks⟩ := hurl c (List.mem_append_right _ hc)
  refine ⟨?_, ?_, hblank⟩
  · rintro rfl
    exact hmarks (by decide)
  · rintro rfl
    exact hmarks (by decide)

/-! ### Composed texts -/

/-- Plain text, and pieces of markup each with the plain text after it. -/
structure Composed where
  lead : Text
  items : List (Piece × Text)

namespace Composed

/-- The text with its pieces in the given form. -/
def render (form : Piece → Text) (text : Composed) : Text :=
  text.lead ++ text.items.flatMap fun (piece, plain) => form piece ++ plain

def written (text : Composed) : Text := text.render Piece.written

def image (text : Composed) : Text := text.render Piece.image

/-- What the parts of a composed text may hold. -/
structure WellFormed (text : Composed) : Prop where
  /-- The text before the first piece is plain. -/
  lead : IsPlain text.lead
  /-- The pieces are well-formed. -/
  pieces : ∀ item ∈ text.items, item.1.WellFormed
  /-- The text after each piece is plain. -/
  plain : ∀ item ∈ text.items, IsPlain item.2
  /-- The text between two pieces is not empty. -/
  apart : text.items.IsChain fun item _ => item.2 ≠ []
  /-- The text after a hyperlink does not begin with an underscore. -/
  underscore : ∀ item ∈ text.items, item.1.isHyperlink = true → item.2.head? ≠ some '_'

end Composed

/-- What a rule has to do with the pieces, if it is for those whose turn has the given place and
matches only where one of the given marks stands. -/
structure Step (place : Nat) (rule : Rule) (openings : List Text) : Prop where
  /-- The rule matches only where one of the marks stands. -/
  opens : rule.OpensWith openings
  /-- The marks do not begin in plain text. -/
  heads : ∀ opening ∈ openings, ∃ c ∈ marks, opening.head? = some c
  /-- A piece whose turn it is, is matched as a whole. -/
  rewrites : ∀ piece : Piece, piece.WellFormed → piece.turn = place → ∀ rest, piece.Precedes rest →
    rule (piece.written ++ rest) = some (piece.written.length, piece.image)
  /-- The marks do not begin in a piece whose turn is over. -/
  done : ∀ piece : Piece, piece.WellFormed → piece.turn < place →
    ∀ opening ∈ openings, ∀ c ∈ opening.head?, c ∉ piece.image
  /-- They do not begin in a piece whose turn is to come. -/
  waiting : ∀ piece : Piece, piece.WellFormed → place < piece.turn → ∀ rest, piece.Precedes rest →
    ∀ opening ∈ openings, Misses opening piece.written rest

namespace Piece

/-- The piece when as many rules have been applied as the number says. -/
def stage (count : Nat) (piece : Piece) : Text :=
  if piece.turn < count then piece.image else piece.written

end Piece

section
variable {place : Nat} {rule : Rule} {openings : List Text}

/-- A rule takes each piece from one stage to the next. -/
theorem Step.replaceAll_stage (hstep : Step place rule openings) {piece : Piece}
    (h : piece.WellFormed) {rest : Text} (hrest : piece.Precedes rest) :
    replaceAll rule (piece.stage place ++ rest) =
      piece.stage (place + 1) ++ replaceAll rule rest := by
  rcases Nat.lt_trichotomy piece.turn place with hlt | heq | hgt
  · rw [Piece.stage, Piece.stage, if_pos hlt, if_pos (Nat.lt_succ_of_lt hlt)]
    refine Text.replaceAll_append_of_head_not_mem hstep.opens fun opening hopening => ?_
    obtain ⟨c, -, hc⟩ := hstep.heads opening hopening
    exact ⟨c, hc, hstep.done piece h hlt opening hopening c hc⟩
  · rw [Piece.stage, Piece.stage, if_neg (Nat.not_lt.2 (Nat.le_of_eq heq.symm)),
      if_pos (Nat.lt_succ_of_le (Nat.le_of_eq heq))]
    exact Text.replaceAll_append_of_match piece.written_ne_nil
      (hstep.rewrites piece h heq rest hrest)
  · rw [Piece.stage, Piece.stage, if_neg (Nat.lt_asymm hgt), if_neg (Nat.not_lt.2 hgt)]
    exact Text.replaceAll_append_of_misses hstep.opens (hstep.waiting piece h hgt rest hrest)

/-- Plain text comes through every step. -/
theorem Step.replaceAll_plain (hstep : Step place rule openings) {text : Text} (h : IsPlain text)
    (rest : Text) : replaceAll rule (text ++ rest) = text ++ replaceAll rule rest := by
  refine Text.replaceAll_append_of_head_not_mem hstep.opens fun opening hopening => ?_
  obtain ⟨c, hmark, hc⟩ := hstep.heads opening hopening
  exact ⟨c, hc, h.not_mem hmark⟩

end

/-- The plain text after a piece keeps it apart from what follows. -/
theorem Piece.precedes_append {piece : Piece} {plain rest : Text} (hplain : IsPlain plain)
    (hunderscore : piece.isHyperlink = true → plain.head? ≠ some '_')
    (hne : plain = [] → rest = []) : piece.Precedes (plain ++ rest) := by
  cases plain with
  | nil =>
      rw [hne rfl]
      exact ⟨fun c hc => (Option.not_mem_none c hc).elim, fun _ => nofun⟩
  | cons c plain => exact ⟨hplain.head, hunderscore⟩

/-- **A replacement goes from piece to piece.** -/
theorem Composed.replaceAll_render {place : Nat} {rule : Rule} {openings : List Text}
    (hstep : Step place rule openings) {text : Composed} (h : text.WellFormed) :
    replaceAll rule (text.render (Piece.stage place)) = text.render (Piece.stage (place + 1)) := by
  obtain ⟨lead, items⟩ := text
  obtain ⟨hlead, hpieces, hplain, hapart, hunderscore⟩ := h
  simp only at hlead hpieces hplain hapart hunderscore
  rw [render, hstep.replaceAll_plain hlead, render]
  refine congrArg (lead ++ ·) ?_
  simp only
  clear hlead lead
  induction items with
  | nil => rfl
  | cons item items ih =>
      obtain ⟨piece, plain⟩ := item
      obtain ⟨hpiece, hpieces⟩ := List.forall_mem_cons.1 hpieces
      obtain ⟨hfirst, hplain⟩ := List.forall_mem_cons.1 hplain
      obtain ⟨hunder, hunderscore⟩ := List.forall_mem_cons.1 hunderscore
      -- an empty plain text is the last one
      have hlast : plain = [] →
          items.flatMap (fun item => item.1.stage place ++ item.2) = [] := by
        rintro rfl
        cases items with
        | nil => rfl
        | cons next items => exact absurd rfl (List.isChain_cons_cons.1 hapart).1
      rw [List.flatMap_cons, List.flatMap_cons, List.append_assoc,
        hstep.replaceAll_stage hpiece (Piece.precedes_append hfirst hunder hlast),
        hstep.replaceAll_plain hfirst, ih hpieces hplain hapart.of_cons hunderscore,
        List.append_assoc]

/-! ### The steps -/

theorem Step.done_of_turn_le {place : Nat} {openings : List Text} (hplace : place ≤ 6)
    (hheads : ∀ opening ∈ openings, ∃ c ∈ marks, opening.head? = some c) (piece : Piece)
    (h : piece.WellFormed) (hturn : piece.turn < place) :
    ∀ opening ∈ openings, ∀ c ∈ opening.head?, c ∉ piece.image := by
  intro opening hopening c hc
  obtain ⟨d, hd, hhead⟩ := hheads opening hopening
  obtain rfl : d = c := Option.some.inj (hhead.symm.trans hc)
  exact Piece.not_mem_image_of_turn_le h (by omega) hd

/-- The rule for a content between two marks matches the written form of the piece. -/
theorem enclosed_written_append {kind : Enclosure} {content : Text}
    (h : (Piece.enclosed kind content).WellFormed) (rest : Text) :
    Text.enclosed kind.opening kind.closing kind.image
        ((Piece.enclosed kind content).written ++ rest) =
      some ((Piece.enclosed kind content).written.length, (Piece.enclosed kind content).image) := by
  have hplain : IsPlain content := h.2.2
  have hclosing : ∃ c ∈ marks, kind.closing.head? = some c := by
    cases kind <;> exact ⟨_, by decide, rfl⟩
  obtain ⟨c, hc, hhead⟩ := hclosing
  exact Text.enclosed_append hhead (hplain.not_mem hc) (hplain.not_mem (by decide)) rest

/-- A piece whose turn is that of a kind is of this kind, roles apart, of which there are many. -/
theorem enclosed_append_of_turn_eq (kind : Enclosure) (hrole : ∀ name, kind ≠ .role name)
    {piece : Piece} (h : piece.WellFormed) (hturn : piece.turn = (Piece.enclosed kind []).turn)
    (rest : Text) :
    Text.enclosed kind.opening kind.closing kind.image (piece.written ++ rest) =
      some (piece.written.length, piece.image) := by
  cases piece with
  | enclosed other content =>
      obtain rfl : other = kind := by
        cases kind with
        | role name => exact absurd rfl (hrole name)
        | _ => cases other <;> simp_all [Piece.turn]
      exact enclosed_written_append h rest
  | _ => cases kind <;> cases hturn

theorem step_doubleColon : Step 0 doubleColon ["::"] where
  opens := Text.opensWith_replacing _ _
  heads := by decide
  rewrites := by
    intro piece h hturn
    cases piece with
    | enclosed kind content => cases kind <;> cases hturn
    | _ => cases hturn
  done := fun _ _ hturn => absurd hturn (Nat.not_lt_zero _)
  waiting := by
    intro piece h _ rest hrest opening hopening
    obtain rfl := List.mem_singleton.1 hopening
    exact Piece.misses_doubleColon h hrest.plain

theorem step_inlineLiteral : Step 1 inlineLiteral ["\x60\x60"] where
  opens := opensWith_inlineLiteral
  heads := by decide
  rewrites := fun _ h hturn rest _ => enclosed_append_of_turn_eq .literal nofun h hturn rest
  done := Step.done_of_turn_le (by decide) (by decide)
  waiting := by
    intro piece h hturn rest hrest opening hopening
    obtain rfl := List.mem_singleton.1 hopening
    exact Piece.misses_backquotes h hturn hrest.plain

theorem step_proposalRole : Step 2 proposalRole [Enclosure.roleMark "pep"] where
  opens := Text.opensWith_enclosed _ _ _
  heads := by decide
  rewrites := fun _ h hturn rest _ => enclosed_append_of_turn_eq .proposal nofun h hturn rest
  done := Step.done_of_turn_le (by decide) (by decide)
  waiting := by
    intro piece h hturn rest hrest opening hopening
    obtain rfl := List.mem_singleton.1 hopening
    refine Piece.misses_role List.mem_cons_self h ?_
    rintro kind content rfl hmark
    cases kind with
    | role name =>
        -- the name of a proposal is not among those of the other roles
        have hname : name ∈ roles := h.1
        have hcolon : ':' ∉ name :=
          (Enclosure.forall_mem_roles name (List.mem_cons_of_mem _ hname)).2.not_mem (by decide)
        have hsame : Enclosure.roleMark name <+: Enclosure.roleMark "pep" ++ [] :=
          ⟨[], congrArg (· ++ []) hmark⟩
        obtain rfl := Enclosure.eq_of_roleMark_prefix hcolon (by decide) hsame
        exact absurd hname (by decide)
    | literal => exact absurd hturn (by simp [Piece.turn])
    | proposal => exact absurd hturn (by simp [Piece.turn])
    | _ => simp [Enclosure.opening, Enclosure.roleMark_eq] at hmark

theorem step_quotedRole : Step 3 quotedRole (roles.map Enclosure.roleMark) where
  opens := opensWith_quotedRole
  heads := by decide
  rewrites := by
    intro piece h hturn rest _
    cases piece with
    | enclosed kind content =>
        cases kind with
        | role name => exact quotedRole_append h.1 h.2.2 rest
        | _ => cases hturn
    | _ => cases hturn
  done := Step.done_of_turn_le (by decide) (by decide)
  waiting := by
    intro piece h hturn rest hrest opening hopening
    obtain ⟨name, hname, rfl⟩ := List.mem_map.1 hopening
    refine Piece.misses_role (List.mem_cons_of_mem _ hname) h ?_
    rintro kind content rfl hmark
    cases kind with
    | strong => simp [Enclosure.opening, Enclosure.roleMark_eq] at hmark
    | emphasis => simp [Enclosure.opening, Enclosure.roleMark_eq] at hmark
    | _ => exact absurd hturn (by simp [Piece.turn])

theorem step_strong : Step 4 strong ["**"] where
  opens := Text.opensWith_enclosed _ _ _
  heads := by decide
  rewrites := fun _ h hturn rest _ => enclosed_append_of_turn_eq .strong nofun h hturn rest
  done := Step.done_of_turn_le (by decide) (by decide)
  waiting := by
    intro piece h hturn rest hrest opening hopening
    obtain rfl := List.mem_singleton.1 hopening
    exact Piece.misses_asterisks h hturn hrest.plain

theorem step_emphasis : Step 5 emphasis ["*"] where
  opens := Text.opensWith_enclosed _ _ _
  heads := by decide
  rewrites := fun _ h hturn rest _ => enclosed_append_of_turn_eq .emphasis nofun h hturn rest
  done := Step.done_of_turn_le (by decide) (by decide)
  waiting := by
    intro piece h hturn rest _ opening hopening
    obtain rfl := List.mem_singleton.1 hopening
    exact misses_of_head_not_mem (c := '*') rfl (Piece.asterisk_not_mem_written h hturn)

theorem step_hyperlink : Step 6 hyperlink ["\x60"] where
  opens := opensWith_hyperlink
  heads := by decide
  rewrites := by
    intro piece h hturn rest hrest
    cases piece with
    | enclosed kind content => cases kind <;> cases hturn
    | hyperlink label blanks url anonymous => exact hyperlink_append h (hrest.underscore rfl)
    | address scheme path => cases hturn
  done := Step.done_of_turn_le (by decide) (by decide)
  waiting := by
    intro piece h hturn rest _ opening hopening
    obtain rfl := List.mem_singleton.1 hopening
    exact misses_of_head_not_mem (c := '\x60') rfl (Piece.backquote_not_mem_written h hturn)

theorem step_bareAddress : Step 7 bareAddress ["<"] where
  opens := opensWith_bareAddress
  heads := by decide
  rewrites := by
    intro piece h hturn rest _
    cases piece with
    | enclosed kind content => cases kind <;> cases hturn
    | hyperlink label blanks url anonymous => cases hturn
    | address scheme path =>
        refine bareAddress_eq_some_iff.2 ⟨scheme, path, rest, ?_, h.isAddress, ?_, rfl⟩
        · simp [Piece.written]
        · simp [Piece.written]
          omega
  done := by
    intro piece h hturn opening hopening c hc
    obtain rfl := List.mem_singleton.1 hopening
    obtain rfl := Option.some.inj hc
    exact Piece.bracket_not_mem_image h hturn
  waiting := by
    intro piece h hturn
    cases piece with
    | enclosed kind content => cases kind <;> exact absurd hturn (by simp [Piece.turn])
    | _ => exact absurd hturn (by simp [Piece.turn])

/-! ### All steps together -/

/-- **The plain form of a composed text** is its plain text, unchanged, with what its pieces read
as. -/
theorem normalize_composed (text : Composed) (h : text.WellFormed) :
    normalize text.written = text.image := by
  have hwritten : text.written = text.render (Piece.stage 0) := rfl
  have himage : text.render (Piece.stage 8) = text.image := by
    refine congrArg (Composed.render · text) (funext fun piece => if_pos ?_)
    cases piece with
    | enclosed kind content =>
        exact Nat.lt_of_le_of_lt (Piece.turn_enclosed_le kind content) (by decide)
    | _ => simp [Piece.turn]
  calc normalize text.written
      = normalize (text.render (Piece.stage 0)) := by rw [hwritten]
    _ = text.render (Piece.stage 8) := by
        simp only [normalize, passes, List.foldl_cons, List.foldl_nil,
          Composed.replaceAll_render step_doubleColon h,
          Composed.replaceAll_render step_inlineLiteral h,
          Composed.replaceAll_render step_proposalRole h,
          Composed.replaceAll_render step_quotedRole h, Composed.replaceAll_render step_strong h,
          Composed.replaceAll_render step_emphasis h, Composed.replaceAll_render step_hyperlink h,
          Composed.replaceAll_render step_bareAddress h]
    _ = text.image := himage

/-- A text with a piece of each kind; the label of the hyperlink is followed by blanks, and the
addresses hold colons and guillemets that are no marks. -/
def mixed : Composed where
  lead := "voir "
  items :=
    [(.enclosed .literal "x", ", "), (.enclosed .proposal "8", " et "),
      (.enclosed (.role "func") "len", "_-"), (.enclosed .strong "a b", "-"),
      (.enclosed .emphasis "c", " ("), (.hyperlink "la page" "  " "http://e:80" true, ") "),
      (.address "git+1" "«1»", [])]

theorem normalize_composed_mixed :
    mixed.written = ("voir \x60\x60x\x60\x60, :pep:\x608\x60 et :func:\x60len\x60_-**a b**-*c* " ++
        "(\x60la page  <http://e:80>\x60__) <git+1://«1»>").toList ∧
      mixed.WellFormed ∧
      normalize mixed.written =
        ("voir «\u00A0x\u00A0», PEP 8 et «\u00A0len\u00A0»_-«\u00A0a b\u00A0»-«\u00A0c\u00A0» " ++
          "(la page («\u00A0http://e:80\u00A0»)) «\u00A0git+1://«1»\u00A0»").toList := by
  have h : mixed.WellFormed := ⟨by decide, by decide, by decide, by decide, by decide⟩
  exact ⟨by cbv, h, (normalize_composed mixed h).trans (by cbv)⟩

end CatalogLint.Markup
