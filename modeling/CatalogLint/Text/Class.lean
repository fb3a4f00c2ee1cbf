/-
Classes of characters, and trimming.

A property of characters that a standard lists is kept as a table of ranges in increasing order.
Looking a character up stops at the first range that ends at or after it.

Letters and their capital and small forms follow the seventeenth edition of Unicode.  Words, decimal
digits and the comparison of words but for the case follow the sixteenth, in which the characters
that are new in the seventeenth had no properties yet.  The two editions agree on all the others.

* `CatalogLint.Text.RangeTable`, `CatalogLint.Text.RangeTable.includes` — a table of ranges, both
  ends included, and whether a character is in one of them;
* `CatalogLint.Text.isRecent` — whether a character is new in the seventeenth edition;
* `CatalogLint.Text.isDecimalDigit` — whether a character is a decimal digit of some script: the
  category Nd;
* `CatalogLint.Text.isBlank` — whether a character has the property White_Space: the plain space,
  the tabulator and the line ends, but also the non-breakable spaces;
* `CatalogLint.Text.isNonBreaking` — the two non-breakable spaces that French typography uses;
* `CatalogLint.Text.trimStart`, `CatalogLint.Text.trimEnd`, `CatalogLint.Text.trim` — a text
  without the blanks at its ends.
-/

import CatalogLint.Text.Basic

set_option autoImplicit false

namespace CatalogLint.Text

/-! ### Tables of ranges -/

/-- Ranges of character numbers in increasing order, both ends included. -/
abbrev RangeTable := List (Nat × Nat)

/-- Whether the number is in one of the ranges. -/
def RangeTable.includesNat : RangeTable → Nat → Bool
  | [], _ => false
  | (first, last) :: table, n => first ≤ n && (n ≤ last || includesNat table n)

/-- Whether the character is in one of the ranges. -/
def RangeTable.includes (table : RangeTable) (c : Char) : Bool := table.includesNat c.toNat

/-! ### Two editions of the tables -/

/-- The characters that the seventeenth edition added. -/
def recentRanges : RangeTable :=
  [(0x88F, 0x88F), (0xC5C, 0xC5C), (0xCDC, 0xCDC), (0x1ACF, 0x1ADD), (0x1AE0, 0x1AEB),
   (0x20C1, 0x20C1), (0x2B96, 0x2B96), (0xA7CE, 0xA7CF), (0xA7D2, 0xA7D2), (0xA7D4, 0xA7D4),
   (0xA7F1, 0xA7F1), (0xFBC3, 0xFBD2), (0xFD90, 0xFD91), (0xFDC8, 0xFDCE), (0x10940, 0x10959),
   (0x10EC5, 0x10EC7), (0x10ED0, 0x10ED8), (0x10EFA, 0x10EFB), (0x11B60, 0x11B67),
   (0x11DB0, 0x11DDB), (0x11DE0, 0x11DE9), (0x16EA0, 0x16EB8), (0x16EBB, 0x16ED3),
   (0x16FF2, 0x16FF6), (0x187F8, 0x187FF), (0x18D09, 0x18D1E), (0x18D80, 0x18DF2),
   (0x1CCFA, 0x1CCFC), (0x1CEBA, 0x1CED0), (0x1CEE0, 0x1CEF0), (0x1E6C0, 0x1E6DE),
   (0x1E6E0, 0x1E6F5), (0x1E6FE, 0x1E6FF), (0x1F6D8, 0x1F6D8), (0x1F777, 0x1F77A),
   (0x1F8D0, 0x1F8D8), (0x1FA54, 0x1FA57), (0x1FA8A, 0x1FA8A), (0x1FA8E, 0x1FA8E),
   (0x1FAC8, 0x1FAC8), (0x1FACD, 0x1FACD), (0x1FAEA, 0x1FAEA), (0x1FAEF, 0x1FAEF),
   (0x1FBFA, 0x1FBFA), (0x2B73A, 0x2B73F), (0x2CEA2, 0x2CEAD), (0x323B0, 0x33479)]

/-- Whether the character is new in the seventeenth edition. -/
def isRecent (c : Char) : Bool := recentRanges.includes c

/-! ### Digits -/

/-- The decimal digits, ten of them to a script. -/
def digitRanges : RangeTable :=
  [(0x30, 0x39), (0x660, 0x669), (0x6F0, 0x6F9), (0x7C0, 0x7C9), (0x966, 0x96F), (0x9E6, 0x9EF),
   (0xA66, 0xA6F), (0xAE6, 0xAEF), (0xB66, 0xB6F), (0xBE6, 0xBEF), (0xC66, 0xC6F), (0xCE6, 0xCEF),
   (0xD66, 0xD6F), (0xDE6, 0xDEF), (0xE50, 0xE59), (0xED0, 0xED9), (0xF20, 0xF29),
   (0x1040, 0x1049), (0x1090, 0x1099), (0x17E0, 0x17E9), (0x1810, 0x1819), (0x1946, 0x194F),
   (0x19D0, 0x19D9), (0x1A80, 0x1A89), (0x1A90, 0x1A99), (0x1B50, 0x1B59), (0x1BB0, 0x1BB9),
   (0x1C40, 0x1C49), (0x1C50, 0x1C59), (0xA620, 0xA629), (0xA8D0, 0xA8D9), (0xA900, 0xA909),
   (0xA9D0, 0xA9D9), (0xA9F0, 0xA9F9), (0xAA50, 0xAA59), (0xABF0, 0xABF9), (0xFF10, 0xFF19),
   (0x104A0, 0x104A9), (0x10D30, 0x10D39), (0x10D40, 0x10D49), (0x11066, 0x1106F),
   (0x110F0, 0x110F9), (0x11136, 0x1113F), (0x111D0, 0x111D9), (0x112F0, 0x112F9),
   (0x11450, 0x11459), (0x114D0, 0x114D9), (0x11650, 0x11659), (0x116C0, 0x116C9),
   (0x116D0, 0x116E3), (0x11730, 0x11739), (0x118E0, 0x118E9), (0x11950, 0x11959),
   (0x11BF0, 0x11BF9), (0x11C50, 0x11C59), (0x11D50, 0x11D59), (0x11DA0, 0x11DA9),
   (0x11DE0, 0x11DE9), (0x11F50, 0x11F59), (0x16130, 0x16139), (0x16A60, 0x16A69),
   (0x16AC0, 0x16AC9), (0x16B50, 0x16B59), (0x16D70, 0x16D79), (0x1CCF0, 0x1CCF9),
   (0x1D7CE, 0x1D7FF), (0x1E140, 0x1E149), (0x1E2F0, 0x1E2F9), (0x1E4F0, 0x1E4F9),
   (0x1E5F1, 0x1E5FA), (0x1E950, 0x1E959), (0x1FBF0, 0x1FBF9)]

/-- Whether the character is a decimal digit of some script. -/
def isDecimalDigit (c : Char) : Bool := digitRanges.includes c && !isRecent c

/-! ### Blanks -/

/-- The blank characters. -/
def blankRanges : RangeTable :=
  [(0x9, 0xD), (0x20, 0x20), (0x85, 0x85), (0xA0, 0xA0), (0x1680, 0x1680), (0x2000, 0x200A),
   (0x2028, 0x2029), (0x202F, 0x202F), (0x205F, 0x205F), (0x3000, 0x3000)]

def isBlank (c : Char) : Bool := blankRanges.includes c

def noBreakSpace : Char := '\u00A0'

def narrowNoBreakSpace : Char := '\u202F'

/-- Whether the character is one of the two non-breakable spaces of French typography. -/
def isNonBreaking (c : Char) : Bool := c == noBreakSpace || c == narrowNoBreakSpace

def trimStart (text : Text) : Text := text.dropWhile isBlank

def trimEnd (text : Text) : Text := (text.reverse.dropWhile isBlank).reverse

def trim (text : Text) : Text := trimEnd (trimStart text)

end CatalogLint.Text
