/-
**What JSON texts spell.**

The grammar says which texts spell a value, and takes nothing from the reader but what its escapes
and digits stand for: numbers are put together from their parts, strings from their units, arrays
and objects from the texts of what is in them, and blanks may stand around every token.  The reader
takes exactly a spelling, whatever comes behind it, and gives the value that is spelled.  A number
has no mark of its end, so that what comes behind it must not continue it.

Main definitions:

* `CatalogLint.Json.SpellsUnits`, `CatalogLint.Json.SpellsString` — the spellings of strings;
* `CatalogLint.Json.SpellsNumber` — the spellings of numbers;
* `CatalogLint.Json.SpellsBare`, `CatalogLint.Json.Spells` — the spellings of values, without and
  with blanks around them.

Main results:

* `CatalogLint.Json.readUnits_of_spellsUnits`, `CatalogLint.Json.readNumber_of_spellsNumber` —
  strings and numbers are read as they are spelled;
* `CatalogLint.Json.parse_of_spells` — **every spelling is read as its value**.
-/

import CatalogLint.Json.Read
import CatalogLint.Proofs.Text.Trim

set_option autoImplicit false

namespace CatalogLint.Json

/-! ### The grammar -/

/-- A text of blanks. -/
def IsBlank (text : Text) : Prop := ∀ c ∈ text, isSpace c = true

/-- The spellings of a unit of a string. -/
inductive SpellsUnit : Unit → Text → Prop
  /-- Any character but controls, quotes and backslashes stands for itself. -/
  | plain {c : Char} (hcontrol : 0x20 ≤ c.toNat) (hquote : c ≠ '"') (hslash : c ≠ '\\') :
      SpellsUnit (.char c) [c]
  /-- Some letters stand for a character behind a backslash. -/
  | short {letter c : Char} (h : shortEscape? letter = some c) :
      SpellsUnit (.char c) ['\\', letter]
  /-- Four digits stand for a number. -/
  | escaped {a b c d : Char} {code : Nat} (h : fourDigits? a b c d = some code) :
      SpellsUnit (.escaped code) ['\\', 'u', a, b, c, d]

/-- The spellings of units, one after the other. -/
inductive SpellsUnits : List Unit → Text → Prop
  | nil : SpellsUnits [] []
  | cons {unit : Unit} {units : List Unit} {text more : Text} (h : SpellsUnit unit text)
      (hmore : SpellsUnits units more) : SpellsUnits (unit :: units) (text ++ more)

/-- The spellings of a string: the units that make it, between quotes. -/
inductive SpellsString : Option Text → Text → Prop
  | quoted {units : List Unit} {string : Option Text} {text : Text} (h : SpellsUnits units text)
      (hunits : textOfUnits units = string) : SpellsString string ('"' :: text ++ ['"'])

/-- One digit or more. -/
structure IsDigits (text : Text) : Prop where
  ne_nil : text ≠ []
  all : ∀ c ∈ text, c.isDigit = true

/-- Digits that begin with a zero only if there is no other. -/
structure IsWhole (text : Text) : Prop extends IsDigits text where
  noLeadingZero : text.head? = some '0' → text.length = 1

/-- A point with digits, or nothing. -/
inductive IsFraction : Text → Prop
  | none : IsFraction []
  | digits {text : Text} (h : IsDigits text) : IsFraction ('.' :: text)

/-- An exponent, or nothing. -/
inductive IsExponent : Text → Prop
  | none : IsExponent []
  | digits {mark : Char} {sign text : Text} (hmark : mark = 'e' ∨ mark = 'E')
      (hsign : sign = [] ∨ sign = ['+'] ∨ sign = ['-']) (h : IsDigits text) :
      IsExponent (mark :: sign ++ text)

/-- The spellings of a number.  A plain run of digits is told by what it stands for. -/
inductive SpellsNumber : Value → Text → Prop
  | natural {whole : Text} {n : Nat} (hwhole : IsWhole whole) (h : Text.natural? whole = some n) :
      SpellsNumber (.natural n) whole
  | other {sign whole fraction exponent : Text} (hsign : sign = [] ∨ sign = ['-'])
      (hwhole : IsWhole whole) (hfraction : IsFraction fraction) (hexponent : IsExponent exponent)
      (h : sign ≠ [] ∨ fraction ≠ [] ∨ exponent ≠ []) :
      SpellsNumber (.number (sign ++ whole ++ fraction ++ exponent))
        (sign ++ whole ++ fraction ++ exponent)

mutual

/-- The spellings of a value without blanks around them. -/
inductive SpellsBare : Value → Text → Prop
  | null : SpellsBare .null "null"
  | yes : SpellsBare (.bool true) "true"
  | no : SpellsBare (.bool false) "false"
  | number {value : Value} {text : Text} (h : SpellsNumber value text) : SpellsBare value text
  | string {string : Option Text} {text : Text} (h : SpellsString string text) :
      SpellsBare (.string string) text
  | emptyArray {blank : Text} (h : IsBlank blank) : SpellsBare (.array []) ('[' :: blank ++ [']'])
  | array {items : List Value} {text : Text} (h : SpellsItems items text) :
      SpellsBare (.array items) ('[' :: text ++ [']'])
  | emptyObject {blank : Text} (h : IsBlank blank) :
      SpellsBare (.object []) ('\x7b' :: blank ++ ['\x7d'])
  | object {members : List (Option Text × Value)} {text : Text} (h : SpellsMembers members text) :
      SpellsBare (.object members) ('\x7b' :: text ++ ['\x7d'])

/-- The spellings of a value. -/
inductive Spells : Value → Text → Prop
  | spaced {value : Value} {before text after : Text} (hbefore : IsBlank before)
      (h : SpellsBare value text) (hafter : IsBlank after) : Spells value (before ++ text ++ after)

/-- The spellings of the items of an array, with commas between them. -/
inductive SpellsItems : List Value → Text → Prop
  | last {item : Value} {text : Text} (h : Spells item text) : SpellsItems [item] text
  | more {item : Value} {items : List Value} {text more : Text} (h : Spells item text)
      (hmore : SpellsItems items more) : SpellsItems (item :: items) (text ++ ',' :: more)

/-- The spellings of the members of an object, with commas between them. -/
inductive SpellsMembers : List (Option Text × Value) → Text → Prop
  | last {member : Option Text × Value} {text : Text} (h : SpellsMember member text) :
      SpellsMembers [member] text
  | more {member : Option Text × Value} {members : List (Option Text × Value)} {text more : Text}
      (h : SpellsMember member text) (hmore : SpellsMembers members more) :
      SpellsMembers (member :: members) (text ++ ',' :: more)

/-- The spellings of a member of an object: its name, a colon and its value. -/
inductive SpellsMember : Option Text × Value → Text → Prop
  | named {name : Option Text} {value : Value} {before nameText after text : Text}
      (hbefore : IsBlank before) (hname : SpellsString name nameText) (hafter : IsBlank after)
      (h : Spells value text) :
      SpellsMember (name, value) (before ++ nameText ++ after ++ ':' :: text)

end

/-! ### Blanks -/

section
variable {blank text : Text} {c : Char}

theorem skipSpace_append (h : IsBlank blank) (text : Text) :
    skipSpace (blank ++ text) = skipSpace text :=
  List.dropWhile_append_of_pos h

theorem skipSpace_cons (h : isSpace c = false) : skipSpace (c :: text) = c :: text := by
  rw [skipSpace, List.dropWhile_cons_of_neg (by rw [h]; decide)]

theorem skipSpace_skipSpace (text : Text) : skipSpace (skipSpace text) = skipSpace text :=
  List.dropWhile_idempotent _ _

/-- Blanks are passed over up to the first other character. -/
theorem skipSpace_blank_cons (h : IsBlank blank) (hc : isSpace c = false) :
    skipSpace (blank ++ c :: text) = c :: text := by
  rw [skipSpace_append h, skipSpace_cons hc]

end

/-! ### Strings -/

theorem readUnits_of_spellsUnit {unit : Unit} {text : Text} (h : SpellsUnit unit text)
    (rest : Text) :
    readUnits (text ++ rest) = (readUnits rest).map fun (units, rest) => (unit :: units, rest) := by
  cases h with
  | plain hcontrol hquote hslash =>
    rw [List.singleton_append, readUnits, if_neg (by simp [hslash]; omega)]
    · exact fun heq => hquote heq
    · exact fun _ _ _ _ _ heq _ => hslash heq
    · exact fun _ _ heq _ => hslash heq
  | short h =>
    rw [List.cons_append, List.cons_append, List.nil_append, readUnits, h]
    · cases readUnits rest <;> rfl
    · -- the mark of a number is no letter that stands for a character
      rintro _ _ _ _ _ rfl _
      cases h
  | escaped h =>
    simp only [List.cons_append, List.nil_append]
    rw [readUnits, h]
    cases readUnits rest <;> rfl

/-- Units are read up to the quote behind them. -/
theorem readUnits_of_spellsUnits {units : List Unit} {text : Text} (h : SpellsUnits units text)
    (rest : Text) : readUnits (text ++ '"' :: rest) = some (units, rest) := by
  induction h with
  | nil => rw [List.nil_append, readUnits]
  | cons h _ ih => rw [List.append_assoc, readUnits_of_spellsUnit h, ih, Option.map_some]

theorem readString_of_spellsUnits {units : List Unit} {text : Text} (h : SpellsUnits units text)
    (rest : Text) : readString (text ++ '"' :: rest) = some (textOfUnits units, rest) := by
  rw [readString, readUnits_of_spellsUnits h, Option.map_some]

/-! ### Numbers -/

/-- What comes behind does not continue some digits. -/
def EndsDigits (text : Text) : Prop := ∀ c ∈ text.head?, c.isDigit = false

/-- What comes behind does not continue a number before its exponent. -/
def EndsFraction (text : Text) : Prop := ∀ c ∈ text.head?, c.isDigit = false ∧ c ≠ '.'

/-- What comes behind does not continue a number. -/
def EndsNumber (text : Text) : Prop :=
  ∀ c ∈ text.head?, c.isDigit = false ∧ c ≠ '.' ∧ c ≠ 'e' ∧ c ≠ 'E'

section
variable {text rest : Text}

theorem endsNumber_cons {c : Char} (h : c.isDigit = false ∧ c ≠ '.' ∧ c ≠ 'e' ∧ c ≠ 'E') :
    EndsNumber (c :: rest) := by
  rintro _ hc
  cases hc
  exact h

/-- A blank does not continue a number. -/
theorem ends_of_isSpace {c : Char} (h : isSpace c = true) :
    c.isDigit = false ∧ c ≠ '.' ∧ c ≠ 'e' ∧ c ≠ 'E' := by
  simp only [isSpace, Bool.or_eq_true, beq_iff_eq] at h
  rcases h with ((rfl | rfl) | rfl) | rfl <;> decide

theorem EndsNumber.blank (hrest : EndsNumber rest) (h : IsBlank text) :
    EndsNumber (text ++ rest) := by
  cases text with
  | nil => exact hrest
  | cons c text => exact endsNumber_cons (ends_of_isSpace (h c List.mem_cons_self))

theorem digits_append (h : IsDigits text) (hrest : EndsDigits rest) :
    digits (text ++ rest) = (text, rest) := by
  rw [digits, Text.takeWhile_append_of_head h.all hrest, Text.dropWhile_append_of_head h.all hrest]

/-- Digits begin with no other character. -/
theorem IsDigits.append_ne_cons (h : IsDigits text) {c : Char} (hc : c.isDigit = false)
    (rest other : Text) : text ++ rest ≠ c :: other := by
  obtain ⟨d, tail, rfl⟩ := List.exists_cons_of_ne_nil h.ne_nil
  intro heq
  cases heq
  exact Bool.false_ne_true (hc ▸ h.all c List.mem_cons_self)

theorem readFraction_append (h : IsFraction text) (hrest : EndsFraction rest) :
    readFraction (text ++ rest) = some (text, rest) := by
  cases h with
  | none =>
    rw [List.nil_append, readFraction]
    rintro more rfl
    exact (hrest '.' rfl).2 rfl
  | digits h =>
    rw [List.cons_append, readFraction, digits_append h fun c hc => (hrest c hc).1]
    split
    · next heq => exact absurd (congrArg Prod.fst heq) h.ne_nil
    · next heq => cases heq; rfl

theorem readExponent_append (h : IsExponent text) (hrest : EndsNumber rest) :
    readExponent (text ++ rest) = some (text, rest) := by
  cases h with
  | none =>
    cases rest with
    | nil => rfl
    | cons c rest =>
      obtain ⟨-, -, he, hE⟩ := hrest c rfl
      have hmark : ¬ (decide (c = 'e') || decide (c = 'E')) = true := by simp [he, hE]
      simp only [List.nil_append, readExponent, hmark]
      rfl
  | @digits mark sign text hmark hsign h =>
    have hmark : (decide (mark = 'e') || decide (mark = 'E')) = true := by simpa using hmark
    have hdigits := digits_append h fun c hc => (hrest c hc).1
    obtain ⟨d, tail, rfl⟩ := List.exists_cons_of_ne_nil h.ne_nil
    rw [List.append_assoc, List.cons_append]
    rcases hsign with rfl | rfl | rfl
    · rw [List.nil_append, readExponent, if_pos hmark, hdigits]
      · exact h.append_ne_cons (by decide) _
      · exact h.append_ne_cons (by decide) _
    · rw [List.singleton_append, readExponent, if_pos hmark, hdigits]
    · rw [List.singleton_append, readExponent, if_pos hmark, hdigits]

theorem EndsNumber.fraction (hrest : EndsNumber rest) (h : IsExponent text) :
    EndsFraction (text ++ rest) := by
  cases h with
  | none => exact fun c hc => ⟨(hrest c hc).1, (hrest c hc).2.1⟩
  | digits hmark _ _ =>
    rintro c hc
    cases hc
    rcases hmark with rfl | rfl <;> decide

theorem EndsFraction.digits (hrest : EndsFraction rest) (h : IsFraction text) :
    EndsDigits (text ++ rest) := by
  cases h with
  | none => exact fun c hc => (hrest c hc).1
  | digits h =>
    rintro c hc
    cases hc
    decide

end

/-- A number is read part by part. -/
theorem readNumber_append {sign whole fraction exponent rest : Text}
    (hsign : sign = [] ∨ sign = ['-']) (hwhole : IsWhole whole) (hfraction : IsFraction fraction)
    (hexponent : IsExponent exponent) (hrest : EndsNumber rest) :
    readNumber (sign ++ whole ++ fraction ++ exponent ++ rest) =
      if sign.isEmpty && fraction.isEmpty && exponent.isEmpty then
        (Text.natural? whole).map fun n => (.natural n, rest)
      else some (.number (sign ++ whole ++ fraction ++ exponent), rest) := by
  have hbehind := hrest.fraction hexponent
  have hdigits := digits_append hwhole.toIsDigits (hbehind.digits hfraction)
  have hzero : ¬ (whole.isEmpty || whole.head? = some '0' && whole.length ≠ 1) = true := by
    simpa [hwhole.ne_nil] using hwhole.noLeadingZero
  have hparts := readFraction_append hfraction hbehind
  have hlast := readExponent_append hexponent hrest
  simp only [List.append_assoc]
  rcases hsign with rfl | rfl
  · rw [List.nil_append, readNumber, hdigits]
    · simp only [hzero, hparts, hlast, Option.bind_eq_bind, Option.bind_some, List.append_assoc]
      rfl
    · exact hwhole.append_ne_cons (by decide) _
  · rw [List.singleton_append, readNumber, hdigits]
    simp only [hzero, hparts, hlast, Option.bind_eq_bind, Option.bind_some, List.append_assoc]
    rfl

/-- Numbers are read as they are spelled. -/
theorem readNumber_of_spellsNumber {value : Value} {text rest : Text} (h : SpellsNumber value text)
    (hrest : EndsNumber rest) : readNumber (text ++ rest) = some (value, rest) := by
  cases h with
  | natural hwhole h =>
    have hread := readNumber_append (.inl rfl) hwhole .none .none hrest
    simpa [h] using hread
  | other hsign hwhole hfraction hexponent h =>
    rw [readNumber_append hsign hwhole hfraction hexponent hrest, if_neg]
    simp only [Bool.and_eq_true, List.isEmpty_iff]
    rintro ⟨⟨rfl, rfl⟩, rfl⟩
    simp at h

/-! ### Values -/

section
variable {value : Value} {text rest : Text} {bound : Nat}

/-- A number begins with a digit or with a minus. -/
theorem SpellsNumber.exists_head (h : SpellsNumber value text) :
    ∃ c tail, text = c :: tail ∧ (c.isDigit = true ∨ c = '-') := by
  have hwhole {whole : Text} (h : IsWhole whole) (more : Text) :
      ∃ c tail, whole ++ more = c :: tail ∧ (c.isDigit = true ∨ c = '-') := by
    obtain ⟨c, tail, rfl⟩ := List.exists_cons_of_ne_nil h.ne_nil
    exact ⟨c, tail ++ more, rfl, .inl (h.all c List.mem_cons_self)⟩
  cases h with
  | natural h _ => simpa using hwhole h []
  | other hsign h _ _ _ =>
    rcases hsign with rfl | rfl
    · simpa using hwhole h _
    · exact ⟨'-', _, rfl, .inr rfl⟩

/-- A value without parts is no array and no object, and is read as it is spelled. -/
theorem readValue_of_readScalar {c : Char} (hspace : isSpace c = false) (hbracket : c ≠ '[')
    (hbrace : c ≠ '\x7b') (h : readScalar (c :: text) = some (value, rest)) :
    readValue (bound + 1) (c :: text) = some (value, rest) := by
  rw [readValue, skipSpace_cons hspace]
  split
  · next heq => cases heq; exact absurd rfl hbracket
  · next heq => cases heq; exact absurd rfl hbrace
  · exact h

theorem isSpace_eq_false_of_isDigit {c : Char} (h : c.isDigit = true) : isSpace c = false := by
  rw [← Bool.not_eq_true]
  intro hspace
  exact Bool.false_ne_true ((ends_of_isSpace hspace).1 ▸ h)

theorem readScalar_of_spellsNumber (h : SpellsNumber value text) (hrest : EndsNumber rest) :
    readScalar (text ++ rest) = some (value, rest) := by
  have hread := readNumber_of_spellsNumber h hrest
  obtain ⟨c, tail, rfl, hc⟩ := h.exists_head
  have hne (d : Char) (hd : d.isDigit = false) (hminus : d ≠ '-') : d ≠ c := by
    rintro rfl
    exact hc.elim (fun hc => Bool.false_ne_true (hd ▸ hc)) hminus
  have hnull : Text.dropStart? "null" (c :: tail ++ rest) = none :=
    if_neg (hne 'n' (by decide) (by decide))
  have htrue : Text.dropStart? "true" (c :: tail ++ rest) = none :=
    if_neg (hne 't' (by decide) (by decide))
  have hfalse : Text.dropStart? "false" (c :: tail ++ rest) = none :=
    if_neg (hne 'f' (by decide) (by decide))
  rw [readScalar, hnull, htrue, hfalse, hread]
  rintro _ heq
  cases heq
  exact hne '"' (by decide) (by decide) rfl

theorem readScalar_of_spellsString {string : Option Text} (h : SpellsString string text)
    (rest : Text) : readScalar (text ++ rest) = some (.string string, rest) := by
  obtain ⟨h, rfl⟩ := h
  rw [List.cons_append, List.cons_append, List.append_assoc, List.singleton_append, readScalar,
    readString_of_spellsUnits h, Option.map_some]

/-- The first character of a value is no blank and does not close an array. -/
theorem SpellsBare.exists_head (h : SpellsBare value text) :
    ∃ c tail, text = c :: tail ∧ isSpace c = false ∧ c ≠ ']' := by
  cases h with
  | null => exact ⟨'n', "ull", rfl, by decide, by decide⟩
  | yes => exact ⟨'t', "rue", rfl, by decide, by decide⟩
  | no => exact ⟨'f', "alse", rfl, by decide, by decide⟩
  | number h =>
    obtain ⟨c, tail, rfl, hc⟩ := h.exists_head
    rcases hc with hc | rfl
    · refine ⟨c, tail, rfl, isSpace_eq_false_of_isDigit hc, ?_⟩
      rintro rfl
      exact absurd hc (by decide)
    · exact ⟨'-', tail, rfl, by decide, by decide⟩
  | string h =>
    obtain ⟨h, rfl⟩ := h
    exact ⟨'"', _, rfl, by decide, by decide⟩
  | emptyArray | array => exact ⟨'[', _, rfl, by decide, by decide⟩
  | emptyObject | object => exact ⟨'\x7b', _, rfl, by decide, by decide⟩

theorem readValue_skipSpace (bound : Nat) (text : Text) :
    readValue bound (skipSpace text) = readValue bound text := by
  cases bound with
  | zero => rfl
  | succ bound => rw [readValue, readValue, skipSpace_skipSpace]

theorem readItems_skipSpace (bound : Nat) (text : Text) :
    readItems bound (skipSpace text) = readItems bound text := by
  cases bound with
  | zero => rfl
  | succ bound => rw [readItems, readItems, readValue_skipSpace]

theorem readMembers_skipSpace (bound : Nat) (text : Text) :
    readMembers bound (skipSpace text) = readMembers bound text := by
  cases bound with
  | zero => rfl
  | succ bound => rw [readMembers, readMembers, skipSpace_skipSpace]

theorem readValue_emptyArray {blank : Text} (h : IsBlank blank) (bound : Nat) (rest : Text) :
    readValue (bound + 1) ('[' :: (blank ++ ']' :: rest)) = some (.array [], rest) := by
  simp only [readValue, skipSpace_cons (show isSpace '[' = false by decide)]
  rw [skipSpace_blank_cons h (by decide)]
  rfl

/-- An array with items is read item by item. -/
theorem readValue_array (h : ∀ more, skipSpace text ≠ ']' :: more) :
    readValue (bound + 1) ('[' :: text) =
      (readItems bound text).map fun (items, rest) => (.array items, rest) := by
  simp only [readValue, skipSpace_cons (show isSpace '[' = false by decide)]
  rw [readItems_skipSpace]

theorem readValue_emptyObject {blank : Text} (h : IsBlank blank) (bound : Nat) (rest : Text) :
    readValue (bound + 1) ('\x7b' :: (blank ++ '\x7d' :: rest)) = some (.object [], rest) := by
  simp only [readValue, skipSpace_cons (show isSpace '\x7b' = false by decide)]
  rw [skipSpace_blank_cons h (by decide)]
  rfl

/-- An object with members is read member by member. -/
theorem readValue_object (h : ∀ more, skipSpace text ≠ '\x7d' :: more) :
    readValue (bound + 1) ('\x7b' :: text) =
      (readMembers bound text).map fun (members, rest) => (.object members, rest) := by
  simp only [readValue, skipSpace_cons (show isSpace '\x7b' = false by decide)]
  rw [readMembers_skipSpace]

/-- The items of an array do not begin with its closing bracket. -/
theorem Spells.skipSpace_append_ne (h : Spells value text) (rest more : Text) :
    skipSpace (text ++ rest) ≠ ']' :: more := by
  obtain ⟨hbefore, h, -⟩ := h
  obtain ⟨c, tail, rfl, hspace, hbracket⟩ := h.exists_head
  rw [List.append_assoc, List.append_assoc, List.cons_append, skipSpace_blank_cons hbefore hspace]
  exact fun heq => hbracket (List.cons.inj heq).1

theorem SpellsItems.skipSpace_append_ne {items : List Value} (h : SpellsItems items text)
    (rest more : Text) : skipSpace (text ++ rest) ≠ ']' :: more := by
  cases h with
  | last h => exact h.skipSpace_append_ne rest more
  | more h hmore =>
    rw [List.append_assoc]
    exact h.skipSpace_append_ne _ more

/-- The members of an object begin with the quote of a name. -/
theorem SpellsMember.skipSpace_append_ne {member : Option Text × Value}
    (h : SpellsMember member text) (rest more : Text) :
    skipSpace (text ++ rest) ≠ '\x7d' :: more := by
  obtain ⟨hbefore, ⟨hname, -⟩, hafter, h⟩ := h
  simp only [List.append_assoc, List.cons_append]
  rw [skipSpace_blank_cons hbefore (by decide)]
  exact fun heq => absurd (List.cons.inj heq).1 (by decide)

theorem SpellsMembers.skipSpace_append_ne {members : List (Option Text × Value)}
    (h : SpellsMembers members text) (rest more : Text) :
    skipSpace (text ++ rest) ≠ '\x7d' :: more := by
  cases h with
  | last h => exact h.skipSpace_append_ne rest more
  | more h hmore =>
    rw [List.append_assoc]
    exact h.skipSpace_append_ne _ more

section
variable {before nameText after blank more : Text} {name : Option Text}

/-- A member before a brace is the last one. -/
theorem readMembers_last (hbefore : IsBlank before) (hname : SpellsString name nameText)
    (hafter : IsBlank after) (hblank : IsBlank blank)
    (hread : readValue bound text = some (value, blank ++ '\x7d' :: rest)) :
    readMembers (bound + 1) (before ++ nameText ++ after ++ ':' :: text) =
      some ([(name, value)], rest) := by
  obtain ⟨hname, rfl⟩ := hname
  have hcolon : skipSpace (after ++ ':' :: text) = ':' :: text :=
    skipSpace_blank_cons hafter (by decide)
  have hbrace : skipSpace (blank ++ '\x7d' :: rest) = '\x7d' :: rest :=
    skipSpace_blank_cons hblank (by decide)
  simp only [List.append_assoc, List.cons_append, List.nil_append]
  rw [readMembers, skipSpace_blank_cons hbefore (by decide)]
  simp only [readString_of_spellsUnits hname, hcolon, hread, hbrace, Option.bind_eq_bind,
    Option.bind_some]

/-- After a member and a comma there are others. -/
theorem readMembers_more (hbefore : IsBlank before) (hname : SpellsString name nameText)
    (hafter : IsBlank after) (hblank : IsBlank blank)
    (hread : readValue bound text = some (value, blank ++ ',' :: more)) :
    readMembers (bound + 1) (before ++ nameText ++ after ++ ':' :: text) =
      (readMembers bound more).map fun (members, rest) => ((name, value) :: members, rest) := by
  obtain ⟨hname, rfl⟩ := hname
  have hcolon : skipSpace (after ++ ':' :: text) = ':' :: text :=
    skipSpace_blank_cons hafter (by decide)
  have hcomma : skipSpace (blank ++ ',' :: more) = ',' :: more :=
    skipSpace_blank_cons hblank (by decide)
  simp only [List.append_assoc, List.cons_append, List.nil_append]
  rw [readMembers, skipSpace_blank_cons hbefore (by decide)]
  simp only [readString_of_spellsUnits hname, hcolon, hread, hcomma, Option.bind_eq_bind,
    Option.bind_some]

end

end

-- The induction is on the spelling, and the bound goes down with the length of what is read: the
-- two brackets of an array leave room for one part more than its items have characters.
mutual

/-- A value is read as it is spelled, whatever comes behind it. -/
theorem SpellsBare.readValue_append {value : Value} {text : Text} (h : SpellsBare value text)
    {bound : Nat} (hbound : text.length < bound) {rest : Text} (hrest : EndsNumber rest) :
    readValue bound (text ++ rest) = some (value, rest) := by
  obtain ⟨bound, rfl⟩ : ∃ k, bound = k + 1 := ⟨bound - 1, by omega⟩
  cases h with
  | null => rfl
  | yes => rfl
  | no => rfl
  | number h =>
    have hread := readScalar_of_spellsNumber h hrest
    obtain ⟨c, tail, rfl, hc⟩ := h.exists_head
    refine readValue_of_readScalar ?_ ?_ ?_ hread
    · exact hc.elim isSpace_eq_false_of_isDigit fun hc => hc ▸ by decide
    · rintro rfl
      exact absurd hc (by decide)
    · rintro rfl
      exact absurd hc (by decide)
  | string h =>
    have hread := readScalar_of_spellsString h rest
    obtain ⟨h, rfl⟩ := h
    exact readValue_of_readScalar (by decide) (by decide) (by decide) hread
  | emptyArray h =>
    rw [List.cons_append, List.cons_append, List.append_assoc, List.singleton_append,
      readValue_emptyArray h]
  | array h =>
    simp only [List.length_cons, List.length_append] at hbound
    rw [List.cons_append, List.cons_append, List.append_assoc, List.singleton_append,
      readValue_array (h.skipSpace_append_ne _), h.readItems_append (by omega), Option.map_some]
  | emptyObject h =>
    rw [List.cons_append, List.cons_append, List.append_assoc, List.singleton_append,
      readValue_emptyObject h]
  | object h =>
    simp only [List.length_cons, List.length_append] at hbound
    rw [List.cons_append, List.cons_append, List.append_assoc, List.singleton_append,
      readValue_object (h.skipSpace_append_ne _), h.readMembers_append (by omega), Option.map_some]

/-- The blanks behind a value are not read with it. -/
theorem Spells.readValue_append {value : Value} {text : Text} (h : Spells value text)
    {bound : Nat} (hbound : text.length < bound) {rest : Text} (hrest : EndsNumber rest) :
    ∃ blank, IsBlank blank ∧ readValue bound (text ++ rest) = some (value, blank ++ rest) := by
  cases h with
  | spaced hbefore h hafter =>
    refine ⟨_, hafter, ?_⟩
    simp only [List.length_append] at hbound
    rw [← readValue_skipSpace, List.append_assoc, List.append_assoc, skipSpace_append hbefore,
      readValue_skipSpace, h.readValue_append (by omega) (hrest.blank hafter)]

/-- Items are read up to the bracket behind them. -/
theorem SpellsItems.readItems_append {items : List Value} {text : Text} (h : SpellsItems items text)
    {bound : Nat} (hbound : text.length + 1 < bound) (rest : Text) :
    readItems bound (text ++ ']' :: rest) = some (items, rest) := by
  obtain ⟨bound, rfl⟩ : ∃ k, bound = k + 1 := ⟨bound - 1, by omega⟩
  cases h with
  | last h =>
    have hbracket : EndsNumber (']' :: rest) := endsNumber_cons (by decide)
    obtain ⟨blank, hblank, hread⟩ := h.readValue_append (Nat.lt_of_succ_lt_succ hbound) hbracket
    simp only [readItems, hread, Option.bind_eq_bind, Option.bind_some]
    rw [skipSpace_blank_cons hblank (by decide)]
    rfl
  | @more item items text more h hmore =>
    simp only [List.length_append, List.length_cons] at hbound
    have hcomma : EndsNumber (',' :: (more ++ ']' :: rest)) := endsNumber_cons (by decide)
    have hshorter : text.length < bound := by omega
    obtain ⟨blank, hblank, hread⟩ := h.readValue_append hshorter hcomma
    rw [List.append_assoc, List.cons_append]
    simp only [readItems, hread, Option.bind_eq_bind, Option.bind_some]
    rw [skipSpace_blank_cons hblank (by decide)]
    change (readItems bound (more ++ ']' :: rest)).map _ = _
    rw [hmore.readItems_append (by omega), Option.map_some]

/-- Members are read up to the brace behind them. -/
theorem SpellsMembers.readMembers_append {members : List (Option Text × Value)} {text : Text}
    (h : SpellsMembers members text) {bound : Nat} (hbound : text.length + 1 < bound)
    (rest : Text) : readMembers bound (text ++ '\x7d' :: rest) = some (members, rest) := by
  obtain ⟨bound, rfl⟩ : ∃ k, bound = k + 1 := ⟨bound - 1, by omega⟩
  cases h with
  | last h =>
    cases h with
    | @named _ _ _ _ _ valueText hbefore hname hafter h =>
      simp only [List.length_append, List.length_cons] at hbound
      have hbrace : EndsNumber ('\x7d' :: rest) := endsNumber_cons (by decide)
      have hshorter : valueText.length < bound := by omega
      obtain ⟨blank, hblank, hread⟩ := h.readValue_append hshorter hbrace
      rw [List.append_assoc, List.cons_append, readMembers_last hbefore hname hafter hblank hread]
  | @more member members text more h hmore =>
    cases h with
    | @named _ _ _ _ _ valueText hbefore hname hafter h =>
      simp only [List.length_append, List.length_cons] at hbound
      have hcomma : EndsNumber (',' :: (more ++ '\x7d' :: rest)) := endsNumber_cons (by decide)
      have hshorter : valueText.length < bound := by omega
      obtain ⟨blank, hblank, hread⟩ := h.readValue_append hshorter hcomma
      rw [List.append_assoc, List.cons_append, List.append_assoc, List.cons_append,
        readMembers_more hbefore hname hafter hblank hread, hmore.readMembers_append (by omega),
        Option.map_some]

end

/-- **Every spelling is read as its value.** -/
theorem parse_of_spells {value : Value} {text : Text} (h : Spells value text) :
    parse text = some value := by
  have hend : EndsNumber [] := fun _ hc => nomatch hc
  obtain ⟨blank, hblank, hread⟩ := h.readValue_append (Nat.lt_succ_self _) hend
  rw [List.append_nil] at hread
  have hspace : skipSpace (blank ++ []) = [] := skipSpace_append hblank []
  simp only [parse, hread, Option.bind_eq_bind, Option.bind_some, hspace]
  rfl

end CatalogLint.Json
