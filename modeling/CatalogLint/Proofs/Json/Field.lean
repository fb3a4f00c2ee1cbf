/-
**Records in every notation.**

A record is written as an object with a member for each field, or as an array of its fields.  The
members of an object may stand in any order and among others, of names that are no fields; such a
name may even come twice.  A field may be left out: its member is missing then, or the array ends
before it.  In all these notations the fields are found.

Main definitions:

* `CatalogLint.Json.given` — the members for the fields that are not left out;
* `CatalogLint.Json.Gives` — a value gives some values to the fields of a record.

Main results:

* `CatalogLint.Json.forall₂_filter_given` — the members of a name, whatever others there are;
* `CatalogLint.Json.Gives.fields_eq` — **the fields are found, in every notation**;
* `CatalogLint.Json.Gives.exists_mem_not_isBlank` — a text that spells a record is not blank.
-/

import CatalogLint.Proofs.Json.Record
import Mathlib.Data.List.Forall2

set_option autoImplicit false

namespace CatalogLint

namespace Json

/-- The members for the fields of a record that are not left out. -/
def given (names : List Text) (values : List (Option Value)) : List (Text × Value) :=
  (names.zip values).filterMap fun (name, value) => value.map (name, ·)

/-- A value gives some values to the fields of a record; `none` stands for a field that is left
out. -/
inductive Gives (names : List Text) (values : List (Option Value)) : Value → Prop
  /-- An object has a member for each field, in any order, and members of other names. -/
  | object {members others : List (Text × Value)} (h : members.Perm (others ++ given names values))
      (hothers : ∀ other ∈ others, other.1 ∉ names) : Gives names values (.ofMembers members)
  /-- An array has the fields in their order; only the last ones can be left out. -/
  | array {items : List Value} {omitted : Nat}
      (h : values = items.map some ++ List.replicate omitted none) :
      Gives names values (.array items)

/-- A 64-bit number as a JSON value. -/
def Value.ofWord (n : UInt64) : Value := .natural n.toNat

theorem word_ofWord (n : UInt64) : word (.ofWord n) = some n.toNat := by
  rw [Value.ofWord, word, if_pos]
  exact Nat.lt_of_lt_of_eq n.toNat_lt rfl

theorem mapM_eq_some_of_forall₂ {α β : Type} {f : α → Option β} {as : List α} {bs : List β}
    (h : List.Forall₂ (fun a b => f a = some b) as bs) : as.mapM f = some bs := by
  induction h with
  | nil => rfl
  | cons h _ ih =>
    rw [List.mapM_cons, h, ih]
    rfl

section
variable {names : List Text} {values : List (Option Value)} {value : Value}

theorem fst_mem_of_mem_given {member : Text × Value} (h : member ∈ given names values) :
    member.1 ∈ names := by
  obtain ⟨⟨name, value⟩, hmem, hmember⟩ := List.mem_filterMap.1 h
  obtain ⟨value, -, rfl⟩ := Option.map_eq_some_iff.1 hmember
  exact (List.of_mem_zip hmem).1

/-- No member has a name that none of the given members has. -/
theorem filter_eq_nil_of_forall_ne {name : Text} {members : List (Text × Value)}
    (h : ∀ member ∈ members, member.1 ≠ name) :
    members.filter (fun member => member.1 = name) = [] :=
  List.filter_eq_nil_iff.2 fun member hmember => by simpa using h member hmember

/-- The members of a name are the one for its field, if there is one. -/
theorem forall₂_filter_given (hlength : names.length = values.length) (hnodup : names.Nodup)
    {others : List (Text × Value)} (hothers : ∀ other ∈ others, other.1 ∉ names) :
    List.Forall₂
      (fun name value => (others ++ given names values).filter (fun member => member.1 = name) =
        value.toList.map (name, ·))
      names values := by
  induction names generalizing values others with
  | nil =>
    rw [List.length_nil, eq_comm, List.length_eq_zero_iff] at hlength
    rw [hlength]
    exact .nil
  | cons name names ih =>
    obtain ⟨value, values, rfl⟩ : ∃ value rest, values = value :: rest :=
      List.exists_cons_of_length_eq_add_one hlength.symm
    obtain ⟨hname, hnodup⟩ := List.nodup_cons.1 hnodup
    have hgiven : given (name :: names) (value :: values) =
        value.toList.map (name, ·) ++ given names values := by
      cases value <;> rfl
    rw [hgiven, ← List.append_assoc]
    refine .cons ?head (ih (Nat.succ.inj hlength) hnodup ?others)
    case head =>
      have hbefore := filter_eq_nil_of_forall_ne fun other hother heq =>
        hothers other hother (heq ▸ List.mem_cons_self)
      have hbehind : (given names values).filter (fun member => member.1 = name) = [] :=
        filter_eq_nil_of_forall_ne fun member hmember heq =>
          hname (heq ▸ fst_mem_of_mem_given hmember)
      have hself : (value.toList.map (name, ·)).filter (fun member => member.1 = name) =
          value.toList.map (name, ·) := by
        cases value <;> simp
      rw [List.filter_append, List.filter_append, hbefore, hself, hbehind, List.append_nil,
        List.nil_append]
    case others =>
      intro other hother
      rcases List.mem_append.1 hother with hother | hother
      · exact fun hmem => hothers other hother (List.mem_cons_of_mem name hmem)
      · obtain ⟨_, -, rfl⟩ := List.mem_map.1 hother
        exact hname

/-- A name is found if it has one member or none. -/
theorem member_eq_of_filter_perm {name : Text} {value : Option Value}
    {members : List (Text × Value)}
    (h : (members.filter fun member => member.1 = name).Perm (value.toList.map (name, ·))) :
    member name (members.map fun member => (some member.1, member.2)) = some value := by
  have hfound : (members.map fun member => (some member.1, member.2)).filter
      (fun member => member.1 = some name) =
        (members.filter fun member => member.1 = name).map fun member =>
          (some member.1, member.2) := by
    simp only [List.filter_map, Function.comp_def, Option.some.injEq]
  rw [member, hfound]
  cases value with
  | none => rw [List.perm_nil.1 h, List.map_nil]
  | some value => rw [List.perm_singleton.1 h, List.map_singleton]

/-- **The fields are found, in every notation.** -/
theorem Gives.fields_eq (h : Gives names values value) (hnodup : names.Nodup)
    (hlength : names.length = values.length) : fields names value = some values := by
  cases h with
  | @object members others hperm hothers =>
    have hall : (members.map fun member => (some member.1, member.2)).all
        (fun member => member.1.isSome) = true := by
      simp
    refine (if_pos hall).trans (mapM_eq_some_of_forall₂ ?_)
    refine (forall₂_filter_given hlength hnodup hothers).imp fun name value heq => ?_
    exact member_eq_of_filter_perm (heq ▸ hperm.filter _)
  | @array items omitted h =>
    have hsum : names.length = items.length + omitted := by simp [hlength, h]
    rw [fields, if_pos (by omega), h, hsum, Nat.add_sub_cancel_left]

/-- Arrays and objects begin with a bracket or a brace. -/
theorem SpellsBare.exists_bracket {text : Text} (h : SpellsBare value text)
    (hvalue : (∃ items, value = .array items) ∨ ∃ members, value = .object members) :
    ∃ c inner, text = c :: inner ∧ Text.isBlank c = false := by
  cases h with
  | emptyArray | array => exact ⟨'[', _, rfl, by decide⟩
  | emptyObject | object => exact ⟨'\x7b', _, rfl, by decide⟩
  | number h => cases h <;> simp at hvalue
  | _ => simp at hvalue

/-- A text that spells a record is not blank. -/
theorem Gives.exists_mem_not_isBlank (h : Gives names values value) {text : Text}
    (htext : Spells value text) : ∃ c ∈ text, Text.isBlank c = false := by
  have hvalue : (∃ items, value = .array items) ∨ ∃ members, value = .object members := by
    cases h with
    | object => exact .inr ⟨_, rfl⟩
    | array => exact .inl ⟨_, rfl⟩
  obtain ⟨-, hbare, -⟩ := htext
  obtain ⟨c, inner, rfl, hc⟩ := hbare.exists_bracket hvalue
  exact ⟨c, by simp, hc⟩

end

end Json

end CatalogLint
