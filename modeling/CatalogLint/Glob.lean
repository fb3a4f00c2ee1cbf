/-
Patterns of file names.

In a pattern `?` stands for any character and `*` for any run of characters, slashes included; a
list in brackets stands for one character that is in the list or, after `!`, is not.  The wildcard
`**` has to be a whole component of the pattern and stands for any number of directories.

* `CatalogLint.Glob.Token`, `CatalogLint.Glob` — the parts of a pattern, and a pattern;
* `CatalogLint.Glob.Fault`, `CatalogLint.Glob.Error` — why a text is no pattern;
* `CatalogLint.Glob.parse` — the pattern that a text spells;
* `CatalogLint.Glob.matchTokens` — what it means that the parts of a pattern match a text;
* `CatalogLint.Glob.isMatch` — whether a pattern matches a text.

Main statement: `isMatch_eq`, the answer is the meant one, though it is found in another way.
-/

import CatalogLint.Text.Basic

set_option autoImplicit false

namespace CatalogLint

namespace Glob

/-- The characters between two bounds, these included. -/
structure CharRange where
  first : Char
  last : Char
deriving DecidableEq, Repr

def CharRange.includes (range : CharRange) (c : Char) : Bool := range.first ≤ c && c ≤ range.last

/-- A part of a pattern. -/
inductive Token where
  | char (c : Char)
  | anyChar
  | within (ranges : List CharRange)
  | except (ranges : List CharRange)
  | anything
  /-- Any number of directories, each with the slash after it; at the end of a text also its last
  name. -/
  | directories
deriving DecidableEq, Repr

/-- Why a text is no pattern. -/
inductive Fault where
  /-- There are more than two stars in a row. -/
  | wildcards
  /-- Two stars are not a whole component. -/
  | recursiveWildcards
  /-- A bracket is not closed, or its list is empty. -/
  | range
deriving DecidableEq, Repr

def Fault.message : Fault → Text
  | wildcards => "wildcards are either regular \x60*\x60 or recursive \x60**\x60"
  | recursiveWildcards => "recursive wildcards must form a single path component"
  | range => "invalid range pattern"

/-- Where a text stops being a pattern, and why. -/
structure Error where
  /-- The number of characters before the fault. -/
  position : Nat
  fault : Fault
deriving DecidableEq, Repr

def Error.message (error : Error) : Text :=
  "Pattern syntax error near position " ++ Text.decimal error.position ++ ": " ++
    error.fault.message

/-! ### Reading a pattern -/

/-- The ranges that a list of characters spells: two characters with a dash between them are the
bounds of a range. -/
def ranges : Text → List CharRange
  | first :: '-' :: last :: list => ⟨first, last⟩ :: ranges list
  | c :: list => ⟨c, c⟩ :: ranges list
  | [] => []

/-- The characters of a list in brackets, up to the closing bracket.  A bracket right at the
beginning is part of the list. -/
def list? : Text → Option Text
  | [] => none
  | c :: text => (Text.splitFirst (· == ']') text).map fun (list, _) => c :: list

/-- The part that a pattern begins with, and the number of its characters; `position` is where it
stands and `before` is the character before it. -/
def tokenAt (position : Nat) (before : Option Char) : Char → Text → Except Error (Token × Nat)
  | '?', _ => .ok (.anyChar, 1)
  | '*', '*' :: '*' :: _ => .error ⟨position + 2, .wildcards⟩
  | '*', '*' :: text =>
    if before.isSome && before ≠ some '/' then .error ⟨position - 1, .recursiveWildcards⟩
    else
      match text with
      | [] => .ok (.directories, 2)
      | '/' :: _ => .ok (.directories, 3)
      | _ :: _ => .error ⟨position + 2, .recursiveWildcards⟩
  | '*', _ => .ok (.anything, 1)
  | '[', '!' :: text =>
    match list? text with
    | some list => .ok (.except (ranges list), list.length + 3)
    | none => .error ⟨position, .range⟩
  | '[', text =>
    match list? text with
    | some list => .ok (.within (ranges list), list.length + 2)
    | none => .error ⟨position, .range⟩
  | c, _ => .ok (.char c, 1)

/-- The parts of a pattern whose first characters, as many as `taken` says, are already read. -/
def tokensFrom (position : Nat) (before : Option Char) (taken : Nat) :
    Text → Except Error (List Token)
  | [] => .ok []
  | c :: text =>
    match taken with
    | taken + 1 => tokensFrom (position + 1) (some c) taken text
    | 0 => do
      let (token, length) ← tokenAt position before c text
      let tokens ← tokensFrom (position + 1) (some c) (length - 1) text
      .ok (token :: tokens)

end Glob

/-- A pattern of file names. -/
structure Glob where
  tokens : List Glob.Token
deriving DecidableEq, Repr

namespace Glob

def parse (text : Text) : Except Error Glob := (tokensFrom 0 none 0 text).map Glob.mk

/-! ### Matching -/

/-- Whether a part that stands for one character stands for `c`. -/
def Token.accepts (c : Char) : Token → Bool
  | char d => c == d
  | anyChar => true
  | within ranges => ranges.any (·.includes c)
  | except ranges => !ranges.any (·.includes c)
  | anything | directories => false

/-- The ends of a text, from the whole text to the empty one. -/
def ends : Text → List Text
  | [] => [[]]
  | c :: text => (c :: text) :: ends text

/-- The ends of a text that begin after a slash, and the empty one. -/
def endsAfterSlash : Text → List Text
  | [] => [[]]
  | '/' :: text => text :: endsAfterSlash text
  | _ :: text => endsAfterSlash text

/-- Whether some parts match a text. -/
def matchTokens : List Token → Text → Bool
  | [], text => text.isEmpty
  | .anything :: tokens, text => (ends text).any (matchTokens tokens)
  | .directories :: tokens, text => (text :: endsAfterSlash text).any (matchTokens tokens)
  | _ :: _, [] => false
  | token :: tokens, c :: text => token.accepts c && matchTokens tokens text

/-! ### Matching all ends of a text at once

Trying every end of the text for every star anew would take a time that grows with a power of the
text's length.  Instead a row of answers, one for every end, is made for the last part of a pattern
and then changed for one part after another, from the back. -/

/-- For every answer in a row whether it or one of those after it is positive. -/
def anyFrom : List Bool → List Bool
  | [] => []
  | answer :: row =>
    let rest := anyFrom row
    (answer || rest.headD false) :: rest

/-- For every end of a text whether the answer for an end after one of its slashes, or for the empty
one, is positive; `row` holds the answers for the ends of the text. -/
def anyAfterSlash : Text → List Bool → List Bool
  | [], row => [row.headD false]
  | c :: text, row =>
    let rest := anyAfterSlash text row.tail
    ((c == '/' && row.tail.headD false) || rest.headD false) :: rest

/-- For every end of a text whether a part stands for its first character and the answer for the end
after that is positive; `row` holds the answers for the ends of the text. -/
def anyAccepted (token : Token) : Text → List Bool → List Bool
  | [], _ => [false]
  | c :: text, row => (token.accepts c && row.tail.headD false) :: anyAccepted token text row.tail

/-- For every end of a text, from the whole text to the empty one, whether some parts match it. -/
def matchEnds : List Token → Text → List Bool
  | [], text => text.map (fun _ => false) ++ [true]
  | .anything :: tokens, text => anyFrom (matchEnds tokens text)
  | .directories :: tokens, text =>
    let row := matchEnds tokens text
    List.zipWith (· || ·) row (anyAfterSlash text row)
  | token :: tokens, text => anyAccepted token text (matchEnds tokens text)

def isMatch (glob : Glob) (text : Text) : Bool := (matchEnds glob.tokens text).headD false

/-- The first end of a text is the text itself. -/
@[simp] theorem head?_ends (text : Text) : (ends text).head? = some text := by
  cases text <;> rfl

theorem anyFrom_map_ends (f : Text → Bool) (text : Text) :
    anyFrom ((ends text).map f) = (ends text).map fun text => (ends text).any f := by
  induction text with
  | nil => simp [ends, anyFrom]
  | cons c text ih => simp [ends, anyFrom, ih]

theorem anyAfterSlash_map_ends (f : Text → Bool) (text : Text) :
    anyAfterSlash text ((ends text).map f) =
      (ends text).map fun text => (endsAfterSlash text).any f := by
  induction text with
  | nil => simp [ends, anyAfterSlash, endsAfterSlash]
  | cons c text ih =>
    by_cases h : c = '/'
    · simp [ends, anyAfterSlash, ih, h, endsAfterSlash]
    · simp [ends, anyAfterSlash, ih, h, endsAfterSlash]

theorem anyAccepted_map_ends (token : Token) (f : Text → Bool) (text : Text) :
    anyAccepted token text ((ends text).map f) =
      (ends text).map fun text =>
        match text with
        | [] => false
        | c :: text => token.accepts c && f text := by
  induction text with
  | nil => simp [ends, anyAccepted]
  | cons c text ih => simp [ends, anyAccepted, ih]

/-- The row holds what matching every end by itself would give. -/
theorem matchEnds_eq (tokens : List Token) (text : Text) :
    matchEnds tokens text = (ends text).map (matchTokens tokens) := by
  induction tokens with
  | nil =>
    induction text with
    | nil => simp [matchEnds, ends, matchTokens]
    | cons c text ih =>
      simp only [matchEnds, List.map_cons, List.cons_append, ends] at ih ⊢
      rw [ih]
      simp [matchTokens]
  | cons token tokens ih =>
    cases token with
    | anything => simp [matchEnds, ih, anyFrom_map_ends, matchTokens]
    | directories =>
      simp [matchEnds, ih, anyAfterSlash_map_ends, matchTokens, List.zipWith_map,
        List.zipWith_self]
    | char _ | anyChar | within _ | except _ =>
      rw [matchEnds, ih, anyAccepted_map_ends]
      · congr 1
        funext text
        cases text <;> simp [matchTokens]
      all_goals simp

/-- A pattern matches a text if its parts do. -/
theorem isMatch_eq (glob : Glob) (text : Text) :
    glob.isMatch text = matchTokens glob.tokens text := by
  simp [isMatch, matchEnds_eq]

end Glob

end CatalogLint
