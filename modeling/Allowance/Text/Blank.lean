/-!
# Blank characters

A text is a sequence of Unicode scalar values, so that no text holds a lone surrogate. The blanks
among its characters are what is ignored around names, notes, amounts and dates: the Unicode
`White_Space` characters together with the four information separators U+001C to U+001F.
-/

namespace Allowance.Text

/-- The ranges of code points that count as blank. -/
def blankRanges : List (Nat × Nat) :=
  [(0x9, 0xd), (0x1c, 0x20), (0x85, 0x85), (0xa0, 0xa0), (0x1680, 0x1680), (0x2000, 0x200a),
    (0x2028, 0x2029), (0x202f, 0x202f), (0x205f, 0x205f), (0x3000, 0x3000)]

/-- Whether a code point lies in one of the ranges. -/
def inRanges (ranges : List (Nat × Nat)) (code : Nat) : Bool :=
  ranges.any fun range => range.1 ≤ code && code ≤ range.2

def isBlank (c : Char) : Bool :=
  inRanges blankRanges c.toNat

/-- Whether a character is one of the information separators, the blanks that are no white space. -/
def isInformationSeparator (c : Char) : Bool :=
  inRanges [(0x1c, 0x1f)] c.toNat

def isWhiteSpace (c : Char) : Bool :=
  isBlank c && !isInformationSeparator c

/-- The characters without those of a kind at both ends. -/
def trimBy (isDropped : Char → Bool) (cs : List Char) : List Char :=
  ((cs.dropWhile isDropped).reverse.dropWhile isDropped).reverse

/-- The characters without the blanks at both ends. -/
def trimChars (cs : List Char) : List Char :=
  trimBy isBlank cs

def trim (s : String) : String :=
  String.ofList (trimChars s.toList)

/-- Whether nothing is left of the text once it is trimmed. -/
def isBlankText (s : String) : Bool :=
  s.toList.all isBlank

end Allowance.Text
