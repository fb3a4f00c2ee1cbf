/-
From JSON values to the data they describe.

A record is an object whose members are named for its fields; members of other names are ignored,
but a field must not be given twice.  A record may also be an array of its fields in their declared
order, the last of which may be left out.  A field that is left out has its default value, if it has
one.

* `CatalogLint.Json.Decoder` — what a kind of data is read with;
* `CatalogLint.Json.flag`, `CatalogLint.Json.word`, `CatalogLint.Json.text`, `CatalogLint.Json.list`
  — flags, 64-bit numbers, texts and lists;
* `CatalogLint.Json.fields` — the fields of a record;
* `CatalogLint.Json.required`, `CatalogLint.Json.defaulting` — a field without and with a default
  value.
-/

import CatalogLint.Json.Read

set_option autoImplicit false

namespace CatalogLint.Json

/-- What a kind of data is read with. -/
abbrev Decoder (α : Type) := Value → Option α

def flag : Decoder Bool
  | .bool value => some value
  | _ => none

/-- A number that is written as a plain run of digits and fits into 64 bits. -/
def word : Decoder Nat
  | .natural n => if n < wordBound then some n else none
  | _ => none

def text : Decoder Text
  | .string text => text
  | _ => none

def list {α : Type} (item : Decoder α) : Decoder (List α)
  | .array items => items.mapM item
  | _ => none

/-- A map, as the list of its members in order. -/
def entries {α : Type} (item : Decoder α) : Decoder (List (Text × α))
  | .object members =>
    members.mapM fun (name, value) => do some (← name, ← item value)
  | _ => none

/-- The value of a field among the members of an object; `none` if it is given twice. -/
def member (name : Text) (members : List (Option Text × Value)) : Option (Option Value) :=
  match members.filter fun (other, _) => other = some name with
  | [] => some none
  | [(_, value)] => some (some value)
  | _ => none

/-- The fields of a record, in their declared order; a field that is left out is `none`. -/
def fields (names : List Text) : Decoder (List (Option Value))
  | .object members =>
    if members.all fun (name, _) => name.isSome then
      names.mapM fun name => member name members
    else none
  | .array items =>
    if items.length ≤ names.length then
      some (items.map some ++ List.replicate (names.length - items.length) none)
    else none
  | _ => none

/-- A field that has to be given. -/
def required {α : Type} (item : Decoder α) (field : Option Value) : Option α := field.bind item

/-- A field that has a default value. -/
def defaulting {α : Type} (item : Decoder α) (default : α) : Option Value → Option α
  | none => some default
  | some value => item value

end CatalogLint.Json
