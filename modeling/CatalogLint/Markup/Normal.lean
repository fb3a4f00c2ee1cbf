/-
The plain form of a text with reStructuredText markup.

The checks compare text, not markup.  So every marked-up piece (inline literals, roles, emphasis,
hyperlinks, bare addresses) is replaced by a span between guillemets with non-breakable spaces on
their inside, which the later checks treat as one opaque token.  The replacing goes through the
whole text once for each kind of piece, in a fixed order.

* `CatalogLint.Markup.quoted` — a text between guillemets and non-breakable spaces;
* `CatalogLint.Markup.roles` — the roles whose content is quoted;
* `CatalogLint.Markup.passes` — one rule for each kind of piece, in the order in which they are
  applied;
* `CatalogLint.Markup.normalize` — the plain form of a text.
-/

import CatalogLint.Text.Class
import CatalogLint.Text.Replacement

set_option autoImplicit false

namespace CatalogLint.Markup

/-- The text between guillemets, with a non-breakable space on the inside of each. -/
def quoted (inner : Text) : Text :=
  ['«', Text.noBreakSpace] ++ inner ++ [Text.noBreakSpace, '»']

/-- The roles whose content is quoted. -/
def roles : List Text :=
  ["attr", "class", "const", "data", "dfn", "exc", "file", "func", "keyword", "meth", "mod", "ref",
   "source", "term"]

/-- A double colon, which announces a literal block, is a colon. -/
def doubleColon : Text.Rule := Text.replacing "::" ":"

/-- An inline literal, between double backquotes. -/
def inlineLiteral : Text.Rule := Text.enclosed "\x60\x60" "\x60\x60" quoted

/-- A reference to an enhancement proposal reads as its name. -/
def proposalRole : Text.Rule := Text.enclosed ":pep:\x60" "\x60" ("PEP " ++ ·)

/-- One of the roles whose content is quoted. -/
def quotedRole : Text.Rule := fun text =>
  roles.findSome? fun role => Text.enclosed (":" ++ role ++ ":\x60") "\x60" quoted text

/-- Strong emphasis, between double asterisks. -/
def strong : Text.Rule := Text.enclosed "**" "**" quoted

/-- Emphasis, between asterisks. -/
def emphasis : Text.Rule := Text.enclosed "*" "*" quoted

/-- The characters up to one of the given marks. -/
def upToMark (marks : Text) (text : Text) : Text := text.takeWhile fun c => !marks.contains c

/-- A hyperlink: a label, blanks and an address between angle brackets, all between backquotes and
followed by one underscore or two.  It reads as the label with the quoted address in parentheses. -/
def hyperlink : Text.Rule
  | '\x60' :: text =>
    let label := upToMark ['\x60', '<'] text
    match text.drop label.length with
    | '<' :: text =>
      let address := upToMark ['<', '>', '\x60'] text
      let link := Text.trimEnd label ++ " (" ++ quoted address ++ ")"
      if address.isEmpty then none
      else
        match text.drop address.length with
        | '>' :: '\x60' :: '_' :: '_' :: _ => some (label.length + address.length + 6, link)
        | '>' :: '\x60' :: '_' :: _ => some (label.length + address.length + 5, link)
        | _ => none
    | _ => none
  | _ => none

/-- Whether the character can stand in the scheme of an address, after its first letter. -/
def isSchemeChar (c : Char) : Bool :=
  ('a' ≤ c && c ≤ 'z') || c.isDigit || c == '+' || c == '.' || c == '-'

/-- A bare address between angle brackets: a scheme in small letters, a colon, two slashes and no
blank anywhere. -/
def bareAddress : Text.Rule
  | '<' :: text =>
    let scheme := text.takeWhile isSchemeChar
    if scheme.head?.any (fun c => 'a' ≤ c && c ≤ 'z') then
      match text.drop scheme.length with
      | ':' :: '/' :: '/' :: text =>
        let path := text.takeWhile fun c => c != '<' && c != '>' && !Text.isBlank c
        if path.isEmpty then none
        else if (text.drop path.length).head? == some '>' then
          some (scheme.length + path.length + 5, quoted (scheme ++ "://" ++ path))
        else none
      | _ => none
    else none
  | _ => none

/-- The rules in the order in which they are applied. -/
def passes : List Text.Rule :=
  [doubleColon, inlineLiteral, proposalRole, quotedRole, strong, emphasis, hyperlink, bareAddress]

/-- The plain form of a text: every kind of marked-up piece is replaced in its turn. -/
def normalize (text : Text) : Text := passes.foldl (fun text rule => Text.replaceAll rule text) text

end CatalogLint.Markup
