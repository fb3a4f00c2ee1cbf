/-
Reading JSON.

The reader takes strict JSON and nothing else: no comments, no trailing commas, no raw control
characters in strings, nothing but blanks after the value.  Nesting is not limited.

* `CatalogLint.Json.readString` — a string, as the units it is spelled with and the text they make;
* `CatalogLint.Json.readNumber` — a number;
* `CatalogLint.Json.readValue` — a value, with a bound on the number of its parts;
* `CatalogLint.Json.parse` — the value that a text spells.
-/

import CatalogLint.Json.Value

set_option autoImplicit false

namespace CatalogLint.Json

/-- Whether the character may stand between the tokens of JSON. -/
def isSpace (c : Char) : Bool := c == ' ' || c == '\t' || c == '\n' || c == '\r'

/-- The text without the blanks it begins with. -/
def skipSpace (text : Text) : Text := text.dropWhile isSpace

/-! ### Strings -/

def hexDigit? (c : Char) : Option Nat :=
  if c.isDigit then some (c.toNat - 48)
  else if 'a' ≤ c && c ≤ 'f' then some (c.toNat - 87)
  else if 'A' ≤ c && c ≤ 'F' then some (c.toNat - 55)
  else none

/-- The number that four hexadecimal digits make. -/
def fourDigits? (a b c d : Char) : Option Nat := do
  some (4096 * (← hexDigit? a) + 256 * (← hexDigit? b) + 16 * (← hexDigit? c) + (← hexDigit? d))

/-- The character that a backslash and a letter stand for. -/
def shortEscape? : Char → Option Char
  | '"' => some '"'
  | '\\' => some '\\'
  | '/' => some '/'
  | 'b' => some '\x08'
  | 'f' => some '\x0c'
  | 'n' => some '\n'
  | 'r' => some '\r'
  | 't' => some '\t'
  | _ => none

/-- A unit of a string: a character, or a number given by an escape. -/
inductive Unit where
  | char (c : Char)
  | escaped (code : Nat)
deriving DecidableEq, Repr

/-- Whether the number is the first half of a surrogate pair. -/
def isHighSurrogate (code : Nat) : Bool := 0xD800 ≤ code && code < 0xDC00

/-- Whether the number is the second half of a surrogate pair. -/
def isLowSurrogate (code : Nat) : Bool := 0xDC00 ≤ code && code < 0xE000

/-- The character of a surrogate pair. -/
def pairChar (high low : Nat) : Char :=
  Char.ofNat (0x10000 + 0x400 * (high - 0xD800) + (low - 0xDC00))

/-- The text that some units make; `none` if half of a surrogate pair stands alone. -/
def textOfUnits : List Unit → Option Text
  | [] => some []
  | .char c :: units => (textOfUnits units).map (c :: ·)
  | .escaped high :: .escaped low :: units =>
    if isHighSurrogate high then
      if isLowSurrogate low then (textOfUnits units).map (pairChar high low :: ·) else none
    else if isLowSurrogate high then none
    else (textOfUnits (.escaped low :: units)).map (Char.ofNat high :: ·)
  | .escaped code :: units =>
    if isHighSurrogate code || isLowSurrogate code then none
    else (textOfUnits units).map (Char.ofNat code :: ·)

/-- The units of a string up to its closing quote, with the rest. -/
def readUnits : Text → Option (List Unit × Text)
  | [] => none
  | '"' :: rest => some ([], rest)
  | '\\' :: 'u' :: a :: b :: c :: d :: rest => do
    let code ← fourDigits? a b c d
    let (units, rest) ← readUnits rest
    some (.escaped code :: units, rest)
  | '\\' :: letter :: rest => do
    let c ← shortEscape? letter
    let (units, rest) ← readUnits rest
    some (.char c :: units, rest)
  | c :: rest =>
    if c.toNat < 0x20 || c = '\\' then none
    else (readUnits rest).map fun (units, rest) => (.char c :: units, rest)

/-- A string without its opening quote, with the rest. -/
def readString (text : Text) : Option (Option Text × Text) :=
  (readUnits text).map fun (units, rest) => (textOfUnits units, rest)

/-! ### Numbers -/

def digits (text : Text) : Text × Text := (text.takeWhile Char.isDigit, text.dropWhile Char.isDigit)

/-- The part of a number after its point, if it has one: the point and its digits, with the rest. -/
def readFraction : Text → Option (Text × Text)
  | '.' :: text =>
    match digits text with
    | ([], _) => none
    | (fraction, rest) => some ('.' :: fraction, rest)
  | text => some ([], text)

/-- The exponent of a number, if it has one, with the rest. -/
def readExponent : Text → Option (Text × Text)
  | [] => some ([], [])
  | mark :: text =>
    if mark = 'e' || mark = 'E' then
      let (sign, text) :=
        match text with
        | '+' :: text => (['+'], text)
        | '-' :: text => (['-'], text)
        | text => ([], text)
      match digits text with
      | ([], _) => none
      | (exponent, rest) => some (mark :: sign ++ exponent, rest)
    else some ([], mark :: text)

/-- A number, with the rest.  Only the number zero begins with the digit zero. -/
def readNumber (text : Text) : Option (Value × Text) := do
  let (sign, text) : Text × Text :=
    match text with
    | '-' :: text => (['-'], text)
    | text => ([], text)
  let (whole, text) := digits text
  if whole.isEmpty || (whole.head? = some '0' && whole.length ≠ 1) then none
  else
    let (fraction, text) ← readFraction text
    let (exponent, text) ← readExponent text
    if sign.isEmpty && fraction.isEmpty && exponent.isEmpty then
      (Text.natural? whole).map fun n => (.natural n, text)
    else some (.number (sign ++ whole ++ fraction ++ exponent), text)

/-! ### Values -/

/-- A value without any parts, with the rest. -/
def readScalar (text : Text) : Option (Value × Text) :=
  match text with
  | '"' :: text => (readString text).map fun (string, rest) => (.string string, rest)
  | text =>
    match Text.dropStart? "null" text with
    | some rest => some (.null, rest)
    | none =>
      match Text.dropStart? "true" text with
      | some rest => some (.bool true, rest)
      | none =>
        match Text.dropStart? "false" text with
        | some rest => some (.bool false, rest)
        | none => readNumber text

mutual

/-- A value, with the rest.  The bound is on the number of parts the value may have. -/
def readValue : (bound : Nat) → Text → Option (Value × Text)
  | 0, _ => none
  | bound + 1, text =>
    match skipSpace text with
    | '[' :: text =>
      match skipSpace text with
      | ']' :: rest => some (.array [], rest)
      | text => (readItems bound text).map fun (items, rest) => (.array items, rest)
    | '\x7b' :: text =>
      match skipSpace text with
      | '\x7d' :: rest => some (.object [], rest)
      | text => (readMembers bound text).map fun (members, rest) => (.object members, rest)
    | text => readScalar text

/-- The items of an array up to its closing bracket, with the rest. -/
def readItems : (bound : Nat) → Text → Option (List Value × Text)
  | 0, _ => none
  | bound + 1, text => do
    let (item, text) ← readValue bound text
    match skipSpace text with
    | ']' :: rest => some ([item], rest)
    | ',' :: text => (readItems bound text).map fun (items, rest) => (item :: items, rest)
    | _ => none

/-- The members of an object up to its closing brace, with the rest. -/
def readMembers : (bound : Nat) → Text → Option (List (Option Text × Value) × Text)
  | 0, _ => none
  | bound + 1, text =>
    match skipSpace text with
    | '"' :: text => do
      let (name, text) ← readString text
      match skipSpace text with
      | ':' :: text => do
        let (value, text) ← readValue bound text
        match skipSpace text with
        | '\x7d' :: rest => some ([(name, value)], rest)
        | ',' :: text =>
          (readMembers bound text).map fun (members, rest) => ((name, value) :: members, rest)
        | _ => none
      | _ => none
    | _ => none

end

def parse (text : Text) : Option Value := do
  let (value, rest) ← readValue (text.length + 1) text
  if (skipSpace rest).isEmpty then some value else none

end CatalogLint.Json
