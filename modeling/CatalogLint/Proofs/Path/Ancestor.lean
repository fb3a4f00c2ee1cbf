/-
**The directories above a path.**

A path has a path above it as long as it has a component that can be taken away.  What is taken away
is the last component together with the slashes and dots around it, so the path above is a beginning
of the text, and its components are all but the last one.  Going on in this way, one comes upon one
path for every beginning of the components; only the root of an absolute path is never taken away.

Main definitions:

* `CatalogLint.Path.leading` — the component that a path begins with before any of its names;
* `CatalogLint.Path.IsAtOrAbove`, `CatalogLint.Path.IsAbove` — a directory is the path itself or
  lies above it.

Main results:

* `CatalogLint.Path.components_join` — a name below a path is one more component;
* `CatalogLint.Path.parent?_cases` — **the path above has all components but the last one**;
* `CatalogLint.Path.inductionOn` — induction from the path above to the path;
* `CatalogLint.Path.ancestors_eq` — the ancestors of a path are those of the path above it, after
  the path itself;
* `CatalogLint.Path.exists_isAtOrAbove_iff` — **every beginning of the components is a directory**;
* `CatalogLint.Path.IsAtOrAbove.eq_of_components_eq` — and only one of those at or above the path.
-/

import CatalogLint.Proofs.Selection.Spelling
import CatalogLint.Settings.Load
import Mathlib.Data.List.TakeWhile
import Mathlib.Logic.Relation
import Mathlib.Tactic.ByContra
import Mathlib.Tactic.SplitIfs

set_option autoImplicit false

namespace CatalogLint.Path

variable {path parent directory : Path} {pieces front back : List Text} {last : Text}

/-! ### The pieces of a path -/

/-- The component that a path of these pieces begins with before any of its names. -/
def leading (pieces : List Text) : List Component :=
  if pieces.head? = some [] ∧ 2 ≤ pieces.length then [.root]
  else if pieces.head? = some "." then [.current]
  else []

/-- The first piece tells how the path begins, unless it is empty and nothing follows it. -/
theorem leading_append (hne : front ≠ []) (hroot : front.head? = some [] → 2 ≤ front.length) :
    leading (front ++ back) = leading front := by
  obtain ⟨first, rest, rfl⟩ := List.exists_cons_of_ne_nil hne
  rw [leading, leading, List.cons_append, List.head?_cons, List.head?_cons]
  by_cases hfirst : first = []
  · subst hfirst
    have hlength : 2 ≤ ([] :: (rest ++ back)).length := Nat.le_trans (hroot rfl) (by simp)
    rw [if_pos ⟨rfl, hlength⟩, if_pos ⟨rfl, hroot rfl⟩]
  · simp [hfirst]

theorem leading_cons_of_not_void (h : isVoid last = false) : leading (last :: back) = [] := by
  have hname : last ≠ [] ∧ last ≠ "." := by simpa [isVoid] using h
  rw [leading, if_neg (by simp [hname.1]), if_neg (by simpa using hname.2)]

/-- An absolute path has an empty piece before its first slash. -/
theorem isAbsolute_iff (h : Text.splitOn '/' path.text = pieces) :
    path.isAbsolute = true ↔ pieces.head? = some [] ∧ 2 ≤ pieces.length := by
  rw [isAbsolute, beq_iff_eq, ← h]
  cases path.text with
  | nil => simp [Text.splitOn]
  | cons c text =>
      obtain ⟨part, parts, hparts⟩ := List.exists_cons_of_ne_nil (Text.splitOn_ne_nil '/' text)
      rw [Text.splitOn, hparts]
      by_cases hc : c = '/' <;> simp [hc]

theorem components_of_splitOn (h : Text.splitOn '/' path.text = pieces) :
    path.components = leading pieces ++ pieces.filterMap innerComponent? := by
  rw [components, leading, h]
  simp only [isAbsolute_iff h]

theorem filterMap_innerComponent?_of_void (h : ∀ piece ∈ back, isVoid piece = true) :
    back.filterMap innerComponent? = [] :=
  List.filterMap_eq_nil_iff.2 fun piece hpiece => if_pos (h piece hpiece)

/-- A piece that is not void stands for a name or for the directory above. -/
theorem exists_innerComponent?_eq (h : isVoid last = false) :
    ∃ component, innerComponent? last = some component ∧
      component ≠ .root ∧ component ≠ .current := by
  rw [innerComponent?, h, if_neg Bool.false_ne_true]
  split_ifs <;> simp

/-- A text that begins with a separator has a part before it and one after it. -/
theorem two_le_length_splitOn {text : Text} (hne : text ≠ [])
    (h : (Text.splitOn '/' text).head? = some []) : 2 ≤ (Text.splitOn '/' text).length := by
  obtain ⟨c, rest, rfl⟩ := List.exists_cons_of_ne_nil hne
  obtain ⟨part, parts, hparts⟩ := List.exists_cons_of_ne_nil (Text.splitOn_ne_nil '/' rest)
  rw [Text.splitOn, hparts] at h ⊢
  by_cases hc : c = '/' <;> simp [hc] at h ⊢

/-- **A name below a path is one more component.** -/
theorem components_join {base : Path} {name : Text} {component : Component}
    (hname : innerComponent? name = some component) (hslash : '/' ∉ name) :
    (base.join ⟨name⟩).components = base.components ++ [component] := by
  have hsplit : Text.splitOn '/' name = [name] := Text.splitOn_of_not_mem hslash
  have hfilter : [name].filterMap innerComponent? = [component] := List.filterMap_cons_some hname
  have hnamed : isVoid name = false := by
    rw [innerComponent?] at hname
    split_ifs at hname with hvoid
    all_goals simpa using hvoid
  by_cases hbase : base.text = []
  · have hjoin : base.join ⟨name⟩ = ⟨name⟩ := by simp [join, hbase]
    have hempty : base.components = [] := by
      rw [components_of_splitOn (congrArg (Text.splitOn '/') hbase)]
      rfl
    rw [hjoin, hempty, components_of_splitOn hsplit, hfilter,
      leading_cons_of_not_void hnamed]
  · obtain ⟨above, habove, hjoin⟩ := join_text hbase hslash
    have hpieces : Text.splitOn '/' (base.join ⟨name⟩).text = Text.splitOn '/' above ++ [name] := by
      rw [hjoin, Text.splitOn_append_cons, hsplit]
    rw [components_of_splitOn hpieces, List.filterMap_append, hfilter, ← List.append_assoc]
    congr 1
    rcases habove with habove | habove
    · -- The directory ends in a slash, and has an empty piece after it.
      have hsame : leading (Text.splitOn '/' above ++ [name]) =
          leading (Text.splitOn '/' above ++ [[]]) := by
        obtain ⟨first, rest, hparts⟩ := List.exists_cons_of_ne_nil (Text.splitOn_ne_nil '/' above)
        simp [leading, hparts]
      rw [components_of_splitOn (habove ▸ Text.splitOn_append_cons '/' above []), hsame]
      simp [Text.splitOn, innerComponent?, isVoid]
    · subst habove
      rw [components_of_splitOn rfl, leading_append (Text.splitOn_ne_nil '/' _)
        (two_le_length_splitOn hbase)]

/-- Items that do not all satisfy `p` have a last one that does not. -/
theorem exists_last_not {α : Type} {p : α → Bool} {items : List α}
    (h : ∃ item ∈ items, p item = false) :
    ∃ front last back, items = front ++ last :: back ∧ p last = false ∧
      ∀ item ∈ back, p item = true := by
  induction items with
  | nil => simp at h
  | cons first items ih =>
      by_cases hlater : ∃ item ∈ items, p item = false
      · obtain ⟨front, last, back, rfl, hlast, hback⟩ := ih hlater
        exact ⟨first :: front, last, back, rfl, hlast, hback⟩
      · obtain ⟨item, hitem, hp⟩ := h
        simp only [not_exists, not_and, Bool.not_eq_false] at hlater
        rcases List.mem_cons.1 hitem with rfl | hitem
        · exact ⟨[], item, items, rfl, hp, hlater⟩
        · rw [hlater item hitem] at hp
          cases hp

theorem dropWhile_reverse_append {α : Type} {p : α → Bool} {front back : List α} {last : α}
    (hlast : p last = false) (hback : ∀ item ∈ back, p item = true) :
    (front ++ last :: back).reverse.dropWhile p = last :: front.reverse := by
  rw [List.reverse_append, List.reverse_cons, List.append_assoc,
    List.dropWhile_append_of_pos (by simpa using hback)]
  simp [hlast]

/-! ### The path above -/

section
variable (hlast : isVoid last = false) (hback : ∀ piece ∈ back, isVoid piece = true)
include hlast hback

/-- Of void pieces before the last component, only the first one is kept. -/
theorem reverse_dropLastPiece_of_void (hfront : ∀ piece ∈ front, isVoid piece = true) :
    (dropLastPiece (front ++ last :: back).reverse).reverse = front.take 1 := by
  have hnone : front.reverse.dropWhile isVoid = [] :=
    List.dropWhile_eq_nil_iff.2 fun piece hpiece => hfront piece (List.mem_reverse.1 hpiece)
  rw [dropLastPiece, dropWhile_reverse_append hlast hback]
  dsimp only
  rw [hnone]
  cases front <;> simp

/-- Otherwise, the pieces up to the last component but one are kept. -/
theorem reverse_dropLastPiece_of_not_void {before voids : List Text} {piece : Text}
    (hpiece : isVoid piece = false) (hvoids : ∀ void ∈ voids, isVoid void = true) :
    (dropLastPiece ((before ++ piece :: voids) ++ last :: back).reverse).reverse =
      before ++ [piece] := by
  rw [dropLastPiece, dropWhile_reverse_append hlast hback]
  dsimp only
  rw [dropWhile_reverse_append hpiece hvoids]
  simp

theorem parent?_of_splitOn (h : Text.splitOn '/' path.text = front ++ last :: back) :
    path.parent? =
      match (dropLastPiece (front ++ last :: back).reverse).reverse with
      | [[]] => some ⟨"/"⟩
      | pieces => some ⟨Text.joinWith "/" pieces⟩ := by
  obtain ⟨component, hcomponent, hroot, hcurrent⟩ := exists_innerComponent?_eq hlast
  have hend : path.components.getLast? = some component := by
    rw [components_of_splitOn h, List.filterMap_append, List.filterMap_cons_some hcomponent,
      filterMap_innerComponent?_of_void hback, ← List.append_assoc, List.getLast?_concat]
  rw [parent?, hend, h]
  cases component <;> first | rfl | contradiction

end

/-- Some pieces of a path, from the first one on, are a path that begins as this one does. -/
theorem components_joinWith (h : Text.splitOn '/' path.text = front ++ back) (hne : front ≠ [])
    (hroot : front.head? = some [] → 2 ≤ front.length) :
    (Path.mk (Text.joinWith "/" front)).components =
      leading (front ++ back) ++ front.filterMap innerComponent? := by
  have hslash : ∀ piece ∈ front, '/' ∉ piece := fun piece hpiece =>
    Text.not_mem_of_mem_splitOn (h ▸ List.mem_append_left back hpiece)
  have hsplit : Text.splitOn '/' (Path.mk (Text.joinWith "/" front)).text = front :=
    Text.splitOn_joinWith hslash hne
  rw [components_of_splitOn hsplit, leading_append hne hroot]

theorem joinWith_prefix_text (h : Text.splitOn '/' path.text = front ++ back) :
    Text.joinWith "/" front <+: path.text := by
  rw [← Text.joinWith_splitOn '/' path.text, h]
  exact Text.joinWith_prefix_append _ front back

section
variable (h : Text.splitOn '/' path.text = front ++ last :: back) (hlast : isVoid last = false)
  (hback : ∀ piece ∈ back, isVoid piece = true)
include h hlast hback

/-- A path whose only component is no dot, but for a root or a dot at its beginning, lies below the
root, the dot or the empty path. -/
theorem exists_parent?_eq_of_void (hfront : ∀ piece ∈ front, isVoid piece = true) :
    ∃ parent, path.parent? = some parent ∧
      parent.components = leading (front ++ last :: back) ∧ parent.text <+: path.text := by
  have hparent := parent?_of_splitOn hlast hback h
  rw [reverse_dropLastPiece_of_void hlast hback hfront] at hparent
  cases front with
  | nil => exact ⟨⟨[]⟩, hparent, (leading_cons_of_not_void hlast).symm, List.nil_prefix⟩
  | cons first front =>
      have hfirst : first = [] ∨ first = "." := by
        simpa [isVoid] using hfront first List.mem_cons_self
      rcases hfirst with rfl | rfl
      · have hroot : ([] :: front ++ last :: back).head? = some [] ∧
            2 ≤ ([] :: front ++ last :: back).length := ⟨rfl, by simp; omega⟩
        refine ⟨⟨"/"⟩, hparent, (if_pos hroot).symm, ?_⟩
        rw [← isAbsolute_iff h, isAbsolute, beq_iff_eq, List.head?_eq_some_iff] at hroot
        obtain ⟨rest, hrest⟩ := hroot
        exact ⟨rest, hrest.symm⟩
      · have hdot : Text.joinWith "/" ["."] <+: path.text := joinWith_prefix_text h
        exact ⟨⟨"."⟩, hparent, rfl, hdot⟩

/-- A path whose last component is no dot lies below the path of the pieces before it. -/
theorem exists_parent?_eq : ∃ parent, path.parent? = some parent ∧
    parent.components = leading (front ++ last :: back) ++ front.filterMap innerComponent? ∧
    parent.text <+: path.text := by
  by_cases hnamed : ∃ piece ∈ front, isVoid piece = false
  · have hparent := parent?_of_splitOn hlast hback h
    obtain ⟨before, piece, voids, rfl, hpiece, hvoids⟩ := exists_last_not hnamed
    rw [reverse_dropLastPiece_of_not_void hlast hback hpiece hvoids] at hparent
    have hkept : before ++ piece :: voids = (before ++ [piece]) ++ voids := List.append_cons ..
    rw [hkept, List.append_assoc] at h ⊢
    have hname : piece ≠ [] := by
      rintro rfl
      cases hpiece
    have hroot : (before ++ [piece]).head? = some [] → 2 ≤ (before ++ [piece]).length := by
      cases before <;> simp [hname]
    refine ⟨⟨Text.joinWith "/" (before ++ [piece])⟩, ?_, ?_, joinWith_prefix_text h⟩
    · rw [hparent]
      split
      · next heq => simp [heq] at hroot
      · rfl
    · rw [components_joinWith h (by simp) hroot, List.filterMap_append (l := before ++ [piece]),
        filterMap_innerComponent?_of_void hvoids, List.append_nil]
  · simp only [not_exists, not_and, Bool.not_eq_false] at hnamed
    rw [filterMap_innerComponent?_of_void hnamed, List.append_nil]
    exact exists_parent?_eq_of_void h hlast hback hnamed

end

/-- **The path above has all components but the last one**; there is none above the root and above
the empty path. -/
theorem parent?_cases (path : Path) :
    (path.parent? = none ∧ (path.components = [] ∨ path.components = [.root])) ∨
      ∃ parent component, path.parent? = some parent ∧ component ≠ .root ∧
        path.components = parent.components ++ [component] ∧ parent.text <+: path.text := by
  by_cases hnamed : ∃ piece ∈ Text.splitOn '/' path.text, isVoid piece = false
  · obtain ⟨front, last, back, h, hlast, hback⟩ := exists_last_not hnamed
    obtain ⟨parent, hparent, hcomponents, hbegin⟩ := exists_parent?_eq h hlast hback
    obtain ⟨component, hcomponent, hroot, -⟩ := exists_innerComponent?_eq hlast
    refine .inr ⟨parent, component, hparent, hroot, ?_, hbegin⟩
    rw [hcomponents, components_of_splitOn h, List.filterMap_append,
      List.filterMap_cons_some hcomponent, filterMap_innerComponent?_of_void hback,
      List.append_assoc]
  · simp only [not_exists, not_and, Bool.not_eq_false] at hnamed
    have hcomponents := components_of_splitOn (Eq.refl (Text.splitOn '/' path.text))
    rw [filterMap_innerComponent?_of_void hnamed, List.append_nil, leading] at hcomponents
    rw [parent?]
    split_ifs at hcomponents <;> rw [hcomponents]
    · exact .inl ⟨rfl, .inr rfl⟩
    · exact .inr ⟨⟨[]⟩, .current, rfl, by decide, rfl, List.nil_prefix⟩
    · exact .inl ⟨rfl, .inl rfl⟩

theorem exists_components_of_parent? (h : path.parent? = some parent) :
    ∃ component, component ≠ .root ∧ path.components = parent.components ++ [component] ∧
      parent.text <+: path.text := by
  rcases parent?_cases path with ⟨hnone, -⟩ | ⟨above, component, habove, hcomponent⟩
  · cases h.symm.trans hnone
  · cases h.symm.trans habove
    exact ⟨component, hcomponent⟩

theorem length_components_of_parent? (h : path.parent? = some parent) :
    path.components.length = parent.components.length + 1 := by
  obtain ⟨component, -, hcomponents, -⟩ := exists_components_of_parent? h
  rw [hcomponents, List.length_append, List.length_singleton]

/-- What holds of a path if it holds of the path above it holds of all paths. -/
@[elab_as_elim]
theorem inductionOn {motive : Path → Prop} (path : Path)
    (step : ∀ path, (∀ parent, path.parent? = some parent → motive parent) → motive path) :
    motive path := by
  induction h : path.components.length generalizing path with
  | zero =>
      refine step path fun parent hparent => ?_
      rw [length_components_of_parent? hparent] at h
      cases h
  | succ length ih =>
      refine step path fun parent hparent => ih parent ?_
      rw [length_components_of_parent? hparent] at h
      exact Nat.succ.inj h

/-- **The ancestors of a path are those of the path above it, after the path itself**, so that as
many steps are made as there are paths above. -/
theorem ancestors_eq (path : Path) :
    path.ancestors = path :: path.parent?.elim [] ancestors := by
  rw [ancestors]
  cases hparent : path.parent? with
  | none => cases path.components.length <;> simp [ancestorsUpTo, hparent]
  | some parent => simp [length_components_of_parent? hparent, ancestorsUpTo, hparent, ancestors]

/-! ### Directories at or above a path -/

/-- The directory is the path, or lies above it: it is what remains of the path when some components
are taken away from its end, one after the other. -/
def IsAtOrAbove (directory path : Path) : Prop :=
  Relation.ReflTransGen (fun below above => below.parent? = some above) path directory

/-- The directory lies above the path, and is not the path itself. -/
def IsAbove (directory path : Path) : Prop :=
  Relation.TransGen (fun below above => below.parent? = some above) path directory

theorem IsAtOrAbove.refl (path : Path) : path.IsAtOrAbove path := Relation.ReflTransGen.refl

theorem IsAtOrAbove.below (hparent : path.parent? = some parent)
    (h : directory.IsAtOrAbove parent) : directory.IsAtOrAbove path :=
  Relation.ReflTransGen.head hparent h

theorem isAtOrAbove_iff :
    directory.IsAtOrAbove path ↔
      directory = path ∨ ∃ parent, path.parent? = some parent ∧ directory.IsAtOrAbove parent :=
  Relation.ReflTransGen.cases_head_iff.trans (or_congr_left eq_comm)

theorem isAbove_iff :
    directory.IsAbove path ↔
      ∃ parent, path.parent? = some parent ∧ directory.IsAtOrAbove parent :=
  Relation.TransGen.head'_iff

/-- A directory at or above a path is a beginning of it. -/
theorem IsAtOrAbove.isBeginning (h : directory.IsAtOrAbove path) :
    directory.components <+: path.components ∧ directory.text <+: path.text := by
  induction path using inductionOn with
  | step path ih =>
      rcases isAtOrAbove_iff.1 h with rfl | ⟨parent, hparent, habove⟩
      · exact ⟨List.prefix_rfl, List.prefix_rfl⟩
      · obtain ⟨hcomponents, htext⟩ := ih parent hparent habove
        obtain ⟨component, -, heq, hbegin⟩ := exists_components_of_parent? hparent
        exact ⟨hcomponents.trans (heq ▸ List.prefix_append _ _), htext.trans hbegin⟩

theorem IsAbove.length_lt (h : directory.IsAbove path) :
    directory.components.length < path.components.length := by
  obtain ⟨parent, hparent, habove⟩ := isAbove_iff.1 h
  rw [length_components_of_parent? hparent]
  exact Nat.lt_succ_of_le habove.isBeginning.1.length_le

/-- Of two directories at or above a path, one lies at or above the other. -/
theorem IsAtOrAbove.total {other : Path} (h : directory.IsAtOrAbove path)
    (hother : other.IsAtOrAbove path) :
    other.IsAtOrAbove directory ∨ directory.IsAtOrAbove other := by
  have hunique : Relator.RightUnique fun below above : Path => below.parent? = some above :=
    fun _ _ _ habove hupper => Option.some.inj (habove.symm.trans hupper)
  exact Relation.ReflTransGen.total_of_right_unique hunique h hother

theorem IsAtOrAbove.eq_of_length_eq (h : directory.IsAtOrAbove path)
    (hlength : directory.components.length = path.components.length) : directory = path := by
  rcases isAtOrAbove_iff.1 h with heq | habove
  · exact heq
  · have hlt := (isAbove_iff.2 habove).length_lt
    omega

/-- Only one directory at or above a path has the same components as it. -/
theorem IsAtOrAbove.eq_of_components_eq {other : Path} (h : directory.IsAtOrAbove path)
    (hother : other.IsAtOrAbove path) (heq : directory.components = other.components) :
    directory = other := by
  have hlength := congrArg List.length heq
  rcases h.total hother with hle | hle
  · exact (hle.eq_of_length_eq hlength.symm).symm
  · exact hle.eq_of_length_eq hlength

theorem isAbsolute_iff_mem_components : path.isAbsolute = true ↔ .root ∈ path.components := by
  constructor
  · intro h
    simp [components, h]
  · intro h
    by_contra habsolute
    rw [components, if_neg habsolute] at h
    rcases List.mem_append.1 h with h | h
    · split_ifs at h <;> simp at h
    · obtain ⟨piece, -, hpiece⟩ := List.mem_filterMap.1 h
      rw [innerComponent?] at hpiece
      split_ifs at hpiece
      all_goals cases hpiece

/-- **There is a directory at or above a path for every beginning of its components**, the root of
an absolute path being part of all of them. -/
theorem exists_isAtOrAbove_iff {components : List Component} :
    (∃ directory : Path, directory.IsAtOrAbove path ∧ directory.components = components) ↔
      components <+: path.components ∧ (path.isAbsolute = true → components ≠ []) := by
  induction path using inductionOn with
  | step path ih =>
      rcases parent?_cases path with ⟨hnone, hshort⟩ | ⟨parent, component, hparent, hroot, hmore, -⟩
      · have honly (directory : Path) : directory.IsAtOrAbove path ↔ directory = path := by
          rw [isAtOrAbove_iff, hnone]
          simp
        simp only [honly, exists_eq_left]
        rcases hshort with hempty | hroot
        · rw [isAbsolute_iff_mem_components, hempty, List.prefix_nil]
          exact ⟨fun h => ⟨h.symm, fun hmem => absurd hmem List.not_mem_nil⟩, fun h => h.1.symm⟩
        · simp only [isAbsolute_iff_mem_components, hroot, List.mem_singleton, forall_const]
          constructor
          · rintro rfl
            exact ⟨List.prefix_rfl, List.cons_ne_nil _ _⟩
          · rintro ⟨hbegin, hne⟩
            exact (hbegin.eq_of_length_le (List.length_pos_iff.2 hne)).symm
      · have habsolute : path.isAbsolute = true ↔ parent.isAbsolute = true := by
          simp [isAbsolute_iff_mem_components, hmore, hroot.symm]
        have hne : path.components ≠ [] := by simp [hmore]
        rw [hmore, List.prefix_concat_iff, habsolute, or_and_right, ← ih parent hparent, ← hmore]
        constructor
        · rintro ⟨directory, habove, rfl⟩
          rcases isAtOrAbove_iff.1 habove with rfl | ⟨above, habove, hle⟩
          · exact .inl ⟨rfl, fun _ => hne⟩
          · cases hparent.symm.trans habove
            exact .inr ⟨directory, hle, rfl⟩
        · rintro (⟨rfl, -⟩ | ⟨directory, hle, rfl⟩)
          · exact ⟨path, .refl path, rfl⟩
          · exact ⟨directory, hle.below hparent, rfl⟩

end CatalogLint.Path
