/-
**Records, lists and maps come back.**

A record is written as an object whose members have the names of its fields, and read by looking for
these names.  So each field comes back as itself, wherever it stands among the members, as long as
no name is given twice.  Lists and maps come back item by item.

Main results:

* `CatalogLint.Json.list_array`, `CatalogLint.Json.entries_ofMembers` — lists and maps come back if
  their items do;
* `CatalogLint.Json.member_eq_some` — a name that is given once is found;
* `CatalogLint.Json.fields_ofMembers` — **the fields of a record are found by their names**;
* `CatalogLint.Json.of_defaulting` — what holds of the default value and of everything that is read
  holds of a field.
-/

import CatalogLint.Json.Decode
import CatalogLint.Proofs.Json.Pretty

set_option autoImplicit false

namespace CatalogLint.Json

/-! ### Lists and maps -/

theorem mapM_eq_some_map {α β : Type} {f : α → Option β} {g : α → β} {list : List α}
    (h : ∀ a ∈ list, f a = some (g a)) : list.mapM f = some (list.map g) := by
  induction list with
  | nil => rfl
  | cons a list ih =>
    obtain ⟨ha, hlist⟩ := List.forall_mem_cons.1 h
    rw [List.mapM_cons, ha, ih hlist]
    rfl

section
variable {α : Type} {item : Decoder α} {encode : α → Value}

/-- A list comes back if its items do. -/
theorem list_array (h : ∀ a, item (encode a) = some a) (items : List α) :
    list item (.array (items.map encode)) = some items := by
  have hitems : items.mapM (item ∘ encode) = some (items.map id) :=
    mapM_eq_some_map fun a _ => h a
  rw [list, List.mapM_map, hitems, List.map_id]

theorem list_ofTexts (texts : List Text) : list text (.ofTexts texts) = some texts :=
  have htext (given : Text) : text (.ofText given) = some given := rfl
  list_array htext texts

/-- A map comes back if its values do. -/
theorem entries_ofMembers (h : ∀ a, item (encode a) = some a) (members : List (Text × α)) :
    entries item (.ofMembers (members.map fun member => (member.1, encode member.2))) =
      some members := by
  rw [Value.ofMembers, entries, List.map_map, List.mapM_map,
    mapM_eq_some_map (g := id) fun member _ => by simp [h], List.map_id]

end

/-! ### Records -/

/-- A name that is given once is found. -/
theorem member_eq_some {members : List (Text × Value)} (hnodup : (members.map Prod.fst).Nodup)
    {given : Text × Value} (h : given ∈ members) :
    member given.1 (members.map fun other => (some other.1, other.2)) = some (some given.2) := by
  have hfilter : members.filter (fun other => other.1 = given.1) = [given] := by
    induction members with
    | nil => cases h
    | cons first members ih =>
      rw [List.map_cons, List.nodup_cons] at hnodup
      rcases List.mem_cons.1 h with rfl | h
      · rw [List.filter_cons_of_pos (by simp), List.filter_eq_nil_iff.2]
        intro other hother heq
        exact hnodup.1 (List.mem_map.2 ⟨other, hother, of_decide_eq_true heq⟩)
      · have hne : first.1 ≠ given.1 := fun heq =>
          hnodup.1 (List.mem_map.2 ⟨given, h, heq.symm⟩)
        rw [List.filter_cons_of_neg (by simpa using hne), ih hnodup.2 h]
  have hfound : (members.map fun other => (some other.1, other.2)).filter
      (fun other => other.1 = some given.1) = [(some given.1, given.2)] := by
    simp only [List.filter_map, Function.comp_def, Option.some.injEq, hfilter, List.map_singleton]
  rw [member, hfound]

/-- **The fields of a record are found by their names.** -/
theorem fields_ofMembers {names : List Text} {values : List Value} (hnodup : names.Nodup)
    (hlength : names.length = values.length) :
    fields names (.ofMembers (names.zip values)) = some (values.map some) := by
  have hfst : (names.zip values).map Prod.fst = names := List.map_fst_zip (Nat.le_of_eq hlength)
  have hsnd : (names.zip values).map Prod.snd = values :=
    List.map_snd_zip (Nat.le_of_eq hlength.symm)
  have hall : ((names.zip values).map fun given => (some given.1, given.2)).all
      (fun given => given.1.isSome) = true := by
    simp
  have hfind : ((names.zip values).map Prod.fst).mapM (fun name =>
      member name ((names.zip values).map fun given => (some given.1, given.2))) =
        some (((names.zip values).map Prod.snd).map some) := by
    rw [List.mapM_map, List.map_map]
    exact mapM_eq_some_map fun _ hgiven => member_eq_some (hfst.symm ▸ hnodup) hgiven
  rw [hfst, hsnd] at hfind
  exact (if_pos hall).trans hfind

/-- What holds of the default value and of everything that is read holds of the field. -/
theorem of_defaulting {α : Type} (P : α → Prop) {item : Decoder α} {default a : α}
    {field : Option Value} (h : defaulting item default field = some a) (hdefault : P default)
    (hitem : ∀ value a, item value = some a → P a) : P a := by
  cases field with
  | none =>
    cases h
    exact hdefault
  | some value => exact hitem value a h

theorem lt_wordBound_of_word {value : Value} {n : Nat} (h : word value = some n) :
    n < wordBound := by
  cases value with
  | natural m =>
    rw [word] at h
    split at h
    · cases h
      assumption
    · cases h
  | _ => cases h

/-! ### Values that are written -/

theorem proper_ofText (text : Text) : (Value.ofText text).Proper := .string _

theorem proper_ofTexts (texts : List Text) : (Value.ofTexts texts).Proper := by
  refine .array fun item hitem => ?_
  obtain ⟨text, -, rfl⟩ := List.mem_map.1 hitem
  exact proper_ofText text

theorem proper_ofMembers {members : List (Text × Value)} (h : ∀ member ∈ members, member.2.Proper) :
    (Value.ofMembers members).Proper := by
  refine .object fun member hmember => ?_
  obtain ⟨given, hgiven, rfl⟩ := List.mem_map.1 hmember
  exact h given hgiven

/-- The value of a record is proper if those of its fields are. -/
theorem proper_record {names : List Text} {values : List Value}
    (h : ∀ value ∈ values, value.Proper) : (Value.ofMembers (names.zip values)).Proper :=
  proper_ofMembers fun _ hmember => h _ (List.of_mem_zip hmember).2

end CatalogLint.Json
