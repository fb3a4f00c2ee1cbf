/-
JSON values, and how they are written.

A value keeps what its readers may ask for: the members of an object in order, repetitions
included, and the spelling of every number that is not a plain run of digits.  A string whose
escapes leave half of a surrogate pair alone is valid JSON but stands for no text.

* `CatalogLint.Json.Value` — a JSON value;
* `CatalogLint.Json.escape`, `CatalogLint.Json.quote` — a character and a text as they stand in a
  JSON string;
* `CatalogLint.Json.Value.pretty` — a value over several lines, two spaces to a level.
-/

import CatalogLint.Text.Printable

set_option autoImplicit false

namespace CatalogLint.Json

/-- A JSON value. -/
inductive Value where
  | null
  | bool (value : Bool)
  /-- A number written as a plain run of digits. -/
  | natural (value : Nat)
  /-- Any other number, as it is written. -/
  | number (spelling : Text)
  /-- A string; `none` if it stands for no text. -/
  | string (text : Option Text)
  | array (items : List Value)
  /-- An object; a name is `none` if it stands for no text. -/
  | object (members : List (Option Text × Value))
deriving Inhabited

def Value.ofText (text : Text) : Value := .string (some text)

def Value.ofTexts (texts : List Text) : Value := .array (texts.map .ofText)

def Value.ofMembers (members : List (Text × Value)) : Value :=
  .object (members.map fun (name, value) => (some name, value))

/-- A character as it stands in a JSON string: quotes, backslashes and controls are escaped. -/
def escape (c : Char) : Text :=
  match c with
  | '"' => ['\\', '"']
  | '\\' => ['\\', '\\']
  | '\x08' => ['\\', 'b']
  | '\t' => ['\\', 't']
  | '\n' => ['\\', 'n']
  | '\x0c' => ['\\', 'f']
  | '\r' => ['\\', 'r']
  | c =>
    if c.toNat < 0x20 then
      let digits := Text.hexadecimal c.toNat
      ['\\', 'u'] ++ List.replicate (4 - digits.length) '0' ++ digits
    else [c]

def quote (text : Text) : Text := '"' :: text.flatMap escape ++ ['"']

/-- A string of JSON: that of its text, or half of a surrogate pair if it stands for none. -/
def quote? : Option Text → Text
  | some text => quote text
  | none => "\"\\ud800\""

/-- A line end and the spaces of a level. -/
def newline (level : Nat) : Text := '\n' :: List.replicate (2 * level) ' '

mutual

/-- The value over several lines, at a level. -/
def Value.prettyAt (level : Nat) : Value → Text
  | .null => "null"
  | .bool true => "true"
  | .bool false => "false"
  | .natural n => Text.decimal n
  | .number spelling => spelling
  | .string text => quote? text
  | .array [] => "[]"
  | .array items => "[" ++ prettyItems (level + 1) items ++ newline level ++ "]"
  | .object [] => "\x7b\x7d"
  | .object members => "\x7b" ++ prettyMembers (level + 1) members ++ newline level ++ "\x7d"

/-- The items of an array, each on lines of its own. -/
def Value.prettyItems (level : Nat) : List Value → Text
  | [] => []
  | [item] => newline level ++ item.prettyAt level
  | item :: items => newline level ++ item.prettyAt level ++ "," ++ prettyItems level items

/-- The members of an object, each on lines of its own. -/
def Value.prettyMembers (level : Nat) : List (Option Text × Value) → Text
  | [] => []
  | [(name, value)] => newline level ++ quote? name ++ ": " ++ value.prettyAt level
  | (name, value) :: members =>
    newline level ++ quote? name ++ ": " ++ value.prettyAt level ++ "," ++
      prettyMembers level members

end

def Value.pretty (value : Value) : Text := value.prettyAt 0

end CatalogLint.Json
