/-
Texts and the few operations on them that everything else is made of.

A text is the list of its characters (Unicode scalar values), so that reading, cutting and
changing a text is recursion on a list and every law about it is a law about lists.  String
literals stand for texts through a coercion.

* `CatalogLint.Text` — a text;
* `CatalogLint.Text.decimal` — a number in decimal digits;
* `CatalogLint.Text.includes` — one text occurs in another, as a contiguous part;
* `CatalogLint.Text.splitOn`, `CatalogLint.Text.splitFirst` — the parts of a text between
  separators;
* `CatalogLint.Text.joinWith` — texts put together with a separator between them;
* `CatalogLint.Text.compare` — texts in the order of their characters, which is also the order of
  their UTF-8 bytes;
* `CatalogLint.Text.alternatives` — quoted alternatives, the last one after the word "or";
* `CatalogLint.wordBound`, `CatalogLint.wordSum` — numbers of 64 bits, and their sums.

Main statements: `joinWith_splitOn` and `not_mem_of_mem_splitOn` say that the parts of a text are
what stands between its separators, and `includes_iff` and `dropStart?_eq_some_iff` tie the
operations to the relations of lists.
-/

set_option autoImplicit false

namespace CatalogLint

/-- A text is the list of its characters. -/
abbrev Text := List Char

instance : Coe String Text := ⟨String.toList⟩

namespace Text

def toString (text : Text) : String := String.ofList text

/-- The decimal digits of a number, without leading zeros. -/
def decimal (n : Nat) : Text := Nat.toDigits 10 n

def startsWith (text start : Text) : Bool := start.isPrefixOf text

def endsWith (text finish : Text) : Bool := finish.isSuffixOf text

/-- What follows `start` in `text`, if `text` begins with it. -/
def dropStart? : (start text : Text) → Option Text
  | [], text => some text
  | _ :: _, [] => none
  | s :: start, c :: text => if s = c then dropStart? start text else none

/-- Dropping a beginning takes it away from the text, and nothing else. -/
theorem dropStart?_eq_some_iff {start text rest : Text} :
    dropStart? start text = some rest ↔ text = start ++ rest := by
  induction start generalizing text with
  | nil => simp [dropStart?]
  | cons s start ih =>
    cases text with
    | nil => simp [dropStart?]
    | cons c text =>
      by_cases h : s = c
      · simp [dropStart?, h, ih]
      · simp [dropStart?, h, Ne.symm h]

/-- What precedes `finish` in `text`, if `text` ends with it. -/
def dropEnd? (finish text : Text) : Option Text :=
  (dropStart? finish.reverse text.reverse).map List.reverse

/-- Dropping an end takes it away from the text, and nothing else. -/
theorem dropEnd?_eq_some_iff {finish text rest : Text} :
    dropEnd? finish text = some rest ↔ text = rest ++ finish := by
  rw [dropEnd?, Option.map_eq_some_iff]
  constructor
  · rintro ⟨reversed, h, rfl⟩
    rw [dropStart?_eq_some_iff] at h
    simpa using congrArg List.reverse h
  · rintro rfl
    exact ⟨rest.reverse, by simp [dropStart?_eq_some_iff], by simp⟩

/-- Whether `part` occurs in the text, as a contiguous part. -/
def includes : (text part : Text) → Bool
  | [], part => part.isEmpty
  | c :: text, part => part.isPrefixOf (c :: text) || includes text part

/-- A part that occurs is an infix of the list of characters. -/
theorem includes_iff {text part : Text} : includes text part = true ↔ part <:+: text := by
  induction text with
  | nil => simp [includes]
  | cons c text ih => simp [includes, ih, List.infix_cons_iff]

/-- The parts of the text before and after its first character that satisfies `isSeparator`. -/
def splitFirst (isSeparator : Char → Bool) : Text → Option (Text × Text)
  | [] => none
  | c :: text =>
    if isSeparator c then some ([], text)
    else (splitFirst isSeparator text).map fun (head, tail) => (c :: head, tail)

/-- The cut is at a separator, and no separator stands before it. -/
theorem splitFirst_eq_some {isSeparator : Char → Bool} {text head tail : Text}
    (h : splitFirst isSeparator text = some (head, tail)) :
    ∃ c, isSeparator c = true ∧ (∀ d ∈ head, isSeparator d = false) ∧ text = head ++ c :: tail := by
  induction text generalizing head with
  | nil => simp [splitFirst] at h
  | cons c text ih =>
    rw [splitFirst] at h
    split at h
    · next hc =>
      cases h
      exact ⟨c, hc, by simp, rfl⟩
    · next hc =>
      obtain ⟨⟨inner, rest⟩, hinner, heq⟩ := Option.map_eq_some_iff.mp h
      cases heq
      obtain ⟨d, hd, hnot, rfl⟩ := ih hinner
      exact ⟨d, hd, by simpa [hc] using hnot, rfl⟩

/-- The parts of the text between the occurrences of a separator; there is one more part than
there are separators. -/
def splitOn (separator : Char) : Text → List Text
  | [] => [[]]
  | c :: text =>
    if c = separator then [] :: splitOn separator text
    else
      match splitOn separator text with
      | [] => [[c]]
      | part :: parts => (c :: part) :: parts

/-- The texts in order, with `separator` between them. -/
def joinWith (separator : Text) (texts : List Text) : Text := separator.intercalate texts

/-- There is always a part, if only an empty one. -/
theorem splitOn_ne_nil (separator : Char) (text : Text) : splitOn separator text ≠ [] := by
  cases text with
  | nil => simp [splitOn]
  | cons c text =>
    rw [splitOn]
    split
    · simp
    · split <;> simp

/-- The parts, put together with the separator between them, are the text again. -/
theorem joinWith_splitOn (separator : Char) (text : Text) :
    joinWith [separator] (splitOn separator text) = text := by
  induction text with
  | nil => simp [splitOn, joinWith, List.intercalate]
  | cons c text ih =>
    rw [splitOn]
    have hne := splitOn_ne_nil separator text
    cases h : splitOn separator text with
    | nil => exact absurd h hne
    | cons part parts =>
      rw [h] at ih
      split
      · next hc =>
        subst hc
        rw [← ih]
        cases parts <;> simp [joinWith, List.intercalate, List.intersperse]
      · cases parts <;> simp_all [joinWith, List.intercalate, List.intersperse]

/-- A separator divides the parts before it from those after it. -/
theorem splitOn_append_cons (separator : Char) (head tail : Text) :
    splitOn separator (head ++ separator :: tail) =
      splitOn separator head ++ splitOn separator tail := by
  induction head with
  | nil => simp [splitOn]
  | cons c head ih =>
    by_cases h : c = separator
    · simp [splitOn, h, ih]
    · cases hs : splitOn separator head with
      | nil => exact absurd hs (splitOn_ne_nil separator head)
      | cons part parts => simp [splitOn, h, ih, hs]

/-- A text without separators is its only part. -/
theorem splitOn_of_not_mem {separator : Char} {text : Text} (h : separator ∉ text) :
    splitOn separator text = [text] := by
  induction text with
  | nil => rfl
  | cons c text ih =>
    simp only [List.mem_cons, not_or] at h
    rw [splitOn, if_neg (Ne.symm h.1), ih h.2]

theorem joinWith_cons_cons (separator first second : Text) (texts : List Text) :
    joinWith separator (first :: second :: texts) =
      first ++ separator ++ joinWith separator (second :: texts) := List.intercalate_cons_cons

/-- Texts without separators are the parts of what they make with separators between them. -/
theorem splitOn_joinWith {separator : Char} {texts : List Text}
    (h : ∀ text ∈ texts, separator ∉ text) (hne : texts ≠ []) :
    splitOn separator (joinWith [separator] texts) = texts := by
  induction texts with
  | nil => exact absurd rfl hne
  | cons first texts ih =>
    obtain ⟨hfirst, hothers⟩ := List.forall_mem_cons.1 h
    cases texts with
    | nil => rw [joinWith, List.intercalate_singleton, splitOn_of_not_mem hfirst]
    | cons second texts =>
      rw [joinWith_cons_cons, List.append_assoc, List.singleton_append, splitOn_append_cons,
        splitOn_of_not_mem hfirst, ih hothers (List.cons_ne_nil _ _), List.singleton_append]

theorem joinWith_prefix_append (separator : Text) (texts more : List Text) :
    joinWith separator texts <+: joinWith separator (texts ++ more) := by
  induction texts with
  | nil => exact List.nil_prefix
  | cons first texts ih =>
    cases texts with
    | nil => cases more <;> simp [joinWith, List.intercalate]
    | cons second texts =>
      rw [List.cons_append, List.cons_append, joinWith_cons_cons, joinWith_cons_cons]
      exact (List.prefix_append_right_inj _).2 ih

/-- No part holds a separator. -/
theorem not_mem_of_mem_splitOn {separator : Char} {text part : Text}
    (h : part ∈ splitOn separator text) : separator ∉ part := by
  induction text generalizing part with
  | nil => simp_all [splitOn]
  | cons c text ih =>
    rw [splitOn] at h
    split at h
    · rcases List.mem_cons.mp h with rfl | h
      · simp
      · exact ih h
    · next hc =>
      cases hs : splitOn separator text with
      | nil => exact absurd hs (splitOn_ne_nil separator text)
      | cons first parts =>
        rw [hs] at h
        rcases List.mem_cons.mp h with rfl | h
        · have : separator ∉ first := ih (by simp [hs])
          simp [this, Ne.symm hc]
        · exact ih (by simp [hs, h])

/-- The order of texts by their characters, the first difference deciding. -/
def compare : Text → Text → Ordering
  | [], [] => .eq
  | [], _ :: _ => .lt
  | _ :: _, [] => .gt
  | c :: s, d :: t => (Ord.compare c.toNat d.toNat).then (compare s t)

/-- Only equal texts are in the same place of the order. -/
theorem compare_eq_eq_iff {s t : Text} : compare s t = .eq ↔ s = t := by
  induction s generalizing t with
  | nil => cases t <;> simp [compare]
  | cons c s ih =>
    cases t with
    | nil => simp [compare]
    | cons d t =>
      simp [compare, Ordering.then_eq_eq, ih, Char.toNat_inj]

/-- The number a run of ASCII digits stands for; `none` for an empty text or any other character. -/
def natural? (digits : Text) : Option Nat :=
  if digits.isEmpty then none
  else digits.foldlM (fun n c => if c.isDigit then some (10 * n + (c.toNat - 48)) else none) 0

/-! ### Alternatives -/

def doubleQuoted (text : Text) : Text := '"' :: text ++ ['"']

/-- The alternatives in double quotes, with commas between them and "or" before the last. -/
def alternatives : List Text → Text
  | [] => []
  | [only] => doubleQuoted only
  | [first, last] => doubleQuoted first ++ " or " ++ doubleQuoted last
  | first :: second :: others => doubleQuoted first ++ ", " ++ alternatives (second :: others)

end Text

/-! ### Numbers -/

/-- Numbers have to fit into 64 bits. -/
def wordBound : Nat := 18446744073709551616

/-- The sum of two numbers in 64 bits.  A sum that does not fit starts again from zero. -/
def wordSum (m n : Nat) : Nat := (m + n) % wordBound

theorem wordSum_of_lt {m n : Nat} (h : m + n < wordBound) : wordSum m n = m + n :=
  Nat.mod_eq_of_lt h

end CatalogLint
