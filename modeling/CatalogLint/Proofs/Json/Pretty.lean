/-
**What is written is read back.**

The writer puts every item and every member on a line of its own, escapes what a string may not hold
and writes numbers in decimal digits.  All of it is JSON: what is written for a value is a spelling
of the value, so that the reader gives the value back, with its texts character for character and
its members in order.

Only a number that is kept as it is written has to be one that JSON may write so.

Main definitions:

* `CatalogLint.Json.Value.Proper` — the numbers of a value are numbers of JSON.

Main results:

* `CatalogLint.Json.spellsString_quote` — a text is spelled by its quotation;
* `CatalogLint.Json.natural?_decimal` — a number is told by its decimal digits;
* `CatalogLint.Json.Value.Proper.spellsBare_prettyAt` — a value is spelled by what is written for
  it;
* `CatalogLint.Json.parse_pretty` — **what is written for a value is read as the value**.
-/

import CatalogLint.Proofs.Json.Grammar

set_option autoImplicit false

namespace CatalogLint.Json

/-! ### Strings -/

/-- A number that is no half of a surrogate pair stands for its character. -/
theorem textOfUnits_escaped {code : Nat} (hhigh : isHighSurrogate code = false)
    (hlow : isLowSurrogate code = false) (units : List Unit) :
    textOfUnits (.escaped code :: units) = (textOfUnits units).map (Char.ofNat code :: ·) := by
  cases units with
  | nil => simp [textOfUnits, hhigh, hlow]
  | cons unit units => cases unit <;> simp [textOfUnits, hhigh, hlow]

/-- The digits of a control. -/
theorem hexadecimal_control : ∀ code < 0x20,
    List.replicate (4 - (Text.hexadecimal code).length) '0' ++ Text.hexadecimal code =
        ['0', '0', Nat.digitChar (code / 16), Nat.digitChar (code % 16)] ∧
      fourDigits? '0' '0' (Nat.digitChar (code / 16)) (Nat.digitChar (code % 16)) = some code ∧
      isHighSurrogate code = false ∧ isLowSurrogate code = false := by
  decide

/-- A character is spelled by its escape. -/
theorem exists_spellsUnit_escape (c : Char) :
    ∃ unit, SpellsUnit unit (escape c) ∧
      ∀ units, textOfUnits (unit :: units) = (textOfUnits units).map (c :: ·) := by
  rw [escape.eq_def]
  split
  case h_8 hquote hslash _ _ _ _ _ =>
    split
    · next hcontrol =>
      obtain ⟨hdigits, hcode, hhigh, hlow⟩ := hexadecimal_control c.toNat hcontrol
      refine ⟨.escaped c.toNat, ?_, fun units => ?_⟩
      · rw [List.append_assoc, hdigits]
        exact .escaped hcode
      · rw [textOfUnits_escaped hhigh hlow, Char.ofNat_toNat]
    · next hcontrol =>
      exact ⟨.char c, .plain (Nat.le_of_not_lt hcontrol) hquote hslash, fun _ => rfl⟩
  all_goals exact ⟨.char _, .short rfl, fun _ => rfl⟩

/-- A text is spelled by its quotation. -/
theorem spellsString_quote (text : Text) : SpellsString (some text) (quote text) := by
  have hunits : ∃ units, SpellsUnits units (text.flatMap escape) ∧
      textOfUnits units = some text := by
    induction text with
    | nil => exact ⟨[], .nil, rfl⟩
    | cons c text ih =>
      obtain ⟨units, hspells, htext⟩ := ih
      obtain ⟨unit, hunit, hstands⟩ := exists_spellsUnit_escape c
      exact ⟨unit :: units, .cons hunit hspells, by rw [hstands, htext, Option.map_some]⟩
  obtain ⟨units, hspells, htext⟩ := hunits
  exact .quoted hspells htext

theorem spellsString_quote? (string : Option Text) : SpellsString string (quote? string) := by
  cases string with
  | some text => exact spellsString_quote text
  | none =>
    have hhalf : SpellsUnit (.escaped 0xD800) ['\\', 'u', 'd', '8', '0', '0'] := .escaped rfl
    exact .quoted (.cons hhalf .nil) rfl

/-! ### Numbers -/

/-- Digits stand for the number that they make. -/
theorem natural?_of_isDigits {text : Text} (h : IsDigits text) :
    Text.natural? text = some (Nat.ofDigitChars 10 text 0) := by
  have hfold (text : Text) (h : ∀ c ∈ text, c.isDigit = true) (n : Nat) :
      text.foldlM (fun n c => if c.isDigit then some (10 * n + (c.toNat - 48)) else none) n =
        some (Nat.ofDigitChars 10 text n) := by
    induction text generalizing n with
    | nil => rfl
    | cons c text ih =>
      rw [List.foldlM_cons, if_pos (h c List.mem_cons_self)]
      exact ih (fun d hd => h d (List.mem_cons_of_mem c hd)) _
  rw [Text.natural?, if_neg (by simpa using h.ne_nil), hfold text h.all]

theorem isDigits_decimal (n : Nat) : IsDigits (Text.decimal n) :=
  ⟨Nat.toDigits_ne_nil, fun _ hc => Nat.isDigit_of_mem_toDigits (by decide) (by decide) hc⟩

/-- A number is told by its decimal digits. -/
theorem natural?_decimal (n : Nat) : Text.natural? (Text.decimal n) = some n := by
  rw [natural?_of_isDigits (isDigits_decimal n), Text.decimal, Nat.ofDigitChars_ten_toDigits]

/-- Only the digits of zero begin with a zero. -/
theorem eq_zero_of_head?_decimal (n : Nat) (h : (Text.decimal n).head? = some '0') : n = 0 := by
  have hdigit : ∀ n < 10, Nat.digitChar n = '0' → n = 0 := by decide
  rw [Text.decimal] at h
  induction n using Nat.strongRecOn with
  | ind n ih =>
    rcases Nat.lt_or_ge n 10 with hlt | hge
    · rw [Nat.toDigits_of_lt_base hlt] at h
      exact hdigit n hlt (Option.some.inj h)
    · rw [Nat.toDigits_of_base_le (by decide) hge,
        List.head?_append_of_ne_nil _ Nat.toDigits_ne_nil] at h
      have hzero := ih (n / 10) (by omega) h
      omega

theorem spellsNumber_decimal (n : Nat) : SpellsNumber (.natural n) (Text.decimal n) := by
  refine .natural ⟨isDigits_decimal n, fun hzero => ?_⟩ (natural?_decimal n)
  rw [eq_zero_of_head?_decimal n hzero]
  rfl

/-! ### Values -/

/-- The numbers of a value are numbers of JSON. -/
inductive Value.Proper : Value → Prop
  | null : Proper .null
  | bool (value : Bool) : Proper (.bool value)
  | natural (n : Nat) : Proper (.natural n)
  | number {spelling : Text} (h : SpellsNumber (.number spelling) spelling) :
      Proper (.number spelling)
  | string (string : Option Text) : Proper (.string string)
  | array {items : List Value} (h : ∀ item ∈ items, Proper item) : Proper (.array items)
  | object {members : List (Option Text × Value)} (h : ∀ member ∈ members, Proper member.2) :
      Proper (.object members)

theorem isBlank_nil : IsBlank [] := fun _ hc => nomatch hc

theorem isBlank_newline (level : Nat) : IsBlank (newline level) := by
  intro c hc
  rcases List.mem_cons.1 hc with rfl | hc
  · decide
  · rw [List.eq_of_mem_replicate hc]
    decide

section
variable {level : Nat} {after : Text}

/-- Items are spelled line by line. -/
theorem spellsItems_prettyItems {items : List Value} (hne : items ≠ []) (hafter : IsBlank after)
    (h : ∀ item ∈ items, SpellsBare item (item.prettyAt level)) :
    SpellsItems items (Value.prettyItems level items ++ after) := by
  induction items with
  | nil => exact absurd rfl hne
  | cons item items ih =>
    obtain ⟨hitem, hitems⟩ := List.forall_mem_cons.1 h
    cases items with
    | nil =>
      rw [Value.prettyItems]
      exact .last (.spaced (isBlank_newline level) hitem hafter)
    | cons next items =>
      have hmore := ih (List.cons_ne_nil next items) hitems
      have hfirst : Spells item (newline level ++ item.prettyAt level ++ []) :=
        .spaced (isBlank_newline level) hitem isBlank_nil
      rw [List.append_nil] at hfirst
      rw [Value.prettyItems, List.append_assoc, List.append_assoc]
      · exact .more hfirst hmore
      · exact List.cons_ne_nil next items

theorem spellsMember_pretty (name : Option Text) {value : Value} (hafter : IsBlank after)
    (h : SpellsBare value (value.prettyAt level)) :
    SpellsMember (name, value)
      (newline level ++ quote? name ++ ": " ++ value.prettyAt level ++ after) := by
  have hspace : IsBlank [' '] := List.forall_mem_singleton.2 (by decide)
  have hmember := SpellsMember.named (isBlank_newline level) (spellsString_quote? name) isBlank_nil
    (.spaced hspace h hafter)
  rw [List.append_nil] at hmember
  rw [List.append_assoc, List.append_assoc]
  exact hmember

/-- Members are spelled line by line. -/
theorem spellsMembers_prettyMembers {members : List (Option Text × Value)} (hne : members ≠ [])
    (hafter : IsBlank after)
    (h : ∀ member ∈ members, SpellsBare member.2 (member.2.prettyAt level)) :
    SpellsMembers members (Value.prettyMembers level members ++ after) := by
  induction members with
  | nil => exact absurd rfl hne
  | cons member members ih =>
    obtain ⟨name, value⟩ := member
    obtain ⟨hvalue, hvalues⟩ := List.forall_mem_cons.1 h
    cases members with
    | nil =>
      rw [Value.prettyMembers]
      exact .last (spellsMember_pretty name hafter hvalue)
    | cons next members =>
      have hmore := ih (List.cons_ne_nil next members) hvalues
      have hfirst := spellsMember_pretty name isBlank_nil hvalue
      rw [List.append_nil] at hfirst
      rw [Value.prettyMembers, List.append_assoc, List.append_assoc]
      · exact .more hfirst hmore
      · exact List.cons_ne_nil next members

end

/-- A value is spelled by what is written for it. -/
theorem Value.Proper.spellsBare_prettyAt {value : Value} (h : value.Proper) (level : Nat) :
    SpellsBare value (value.prettyAt level) := by
  induction h generalizing level with
  | null => rw [prettyAt]; exact .null
  | bool value => cases value <;> rw [prettyAt] <;> constructor
  | natural n => rw [prettyAt]; exact .number (spellsNumber_decimal n)
  | number h => rw [prettyAt]; exact .number h
  | string string => rw [prettyAt]; exact .string (spellsString_quote? string)
  | @array items _ ih =>
    cases items with
    | nil => rw [prettyAt]; exact .emptyArray isBlank_nil
    | cons item items =>
      have hitems := spellsItems_prettyItems (List.cons_ne_nil item items) (isBlank_newline level)
        fun item hitem => ih item hitem (level + 1)
      rw [prettyAt]
      · exact .array hitems
      · exact List.cons_ne_nil item items
  | @object members _ ih =>
    cases members with
    | nil => rw [prettyAt]; exact .emptyObject isBlank_nil
    | cons member members =>
      have hmembers := spellsMembers_prettyMembers (List.cons_ne_nil member members)
        (isBlank_newline level) fun member hmember => ih member hmember (level + 1)
      rw [prettyAt]
      · exact .object hmembers
      · exact List.cons_ne_nil member members

theorem Value.Proper.spells_pretty {value : Value} (h : value.Proper) :
    Spells value value.pretty := by
  have hspells : Spells value ([] ++ value.prettyAt 0 ++ []) :=
    .spaced isBlank_nil (h.spellsBare_prettyAt 0) isBlank_nil
  rwa [List.nil_append, List.append_nil] at hspells

/-- **What is written for a value is read as the value.** -/
theorem parse_pretty {value : Value} (h : value.Proper) : parse value.pretty = some value :=
  parse_of_spells h.spells_pretty

end CatalogLint.Json
