import Allowance.Text.Digit

/-!
# The pieces of a typed date

A date that somebody typed falls into numbers, words, blanks and single marks. A point or comma
between digits makes a number with a fraction, unless there are further points, letters or nothing
after it: `3.2.2025` and `Feb.2025` fall into their parts, `3.25` is one number.
-/

namespace Allowance.Terminal

inductive Token where
  | blank
  /-- A whole number, by its digits. -/
  | digits (whole : List Char)
  /-- A number with a fraction. -/
  | fraction (whole part : List Char)
  /-- A word in lower case. -/
  | word (name : String)
  | mark (c : Char)
  | other
  deriving Repr, DecidableEq

namespace Token

def isDigit (c : Char) : Bool :=
  (Text.digitValue? c).isSome

/-- Whether a character parts the numbers and words of a piece. -/
def isPoint (c : Char) : Bool :=
  c = '.' || c = ','

/-- What a piece consists of so far. -/
inductive Stage where
  | letters
  | digits
  /-- It has a point, and letters come last. -/
  | dottedLetters
  /-- It has a point, and digits come last. -/
  | dottedDigits
  deriving Repr, DecidableEq

/-- A piece that may go on: its characters, the last one first, and whether it is known to have
letters in it. -/
structure Piece where
  stage : Stage
  seen : List Char
  lettered : Bool

namespace Piece

/-- The piece that a character starts; blanks and marks start none. -/
def start? (c : Char) : Option Piece :=
  if c.isAlpha then some ⟨.letters, [c], false⟩
  else if isDigit c then some ⟨.digits, [c], false⟩
  else none

/-- The stage of a piece that a character continues. -/
def next? (piece : Piece) (c : Char) : Option Stage :=
  let afterPoint := piece.seen.head? = some '.'
  match piece.stage with
  | .letters =>
    if c.isAlpha then some .letters else if c = '.' then some .dottedLetters else none
  | .digits =>
    if isDigit c then some .digits
    else if c = '.' ∨ (c = ',' ∧ 2 ≤ piece.seen.length) then some .dottedDigits
    else none
  | .dottedLetters =>
    if c.isAlpha ∨ c = '.' then some .dottedLetters
    else if isDigit c ∧ afterPoint then some .dottedDigits
    else none
  | .dottedDigits =>
    if isDigit c ∨ c = '.' then some .dottedDigits
    else if c.isAlpha ∧ afterPoint then some .dottedLetters
    else none

/-- The piece once it is known that some character follows its last one. -/
def followed (piece : Piece) : Piece :=
  { piece with
    lettered := piece.lettered || piece.stage = .letters || piece.stage = .dottedLetters }

/-- The piece with one more character. -/
def extend? (piece : Piece) (c : Char) : Option Piece :=
  (piece.next? c).map fun stage => { piece.followed with stage, seen := c :: piece.seen }

/-- The token of letters or of digits. -/
def plain (cs : List Char) : Token :=
  if cs.all isDigit then .digits cs
  else if cs.all Char.isAlpha then .word (String.ofList (cs.map Char.toLower))
  else .other

/-- The tokens of characters that fall into parts, given the part that is being read. -/
def split (part : List Char) : List Char → List Token
  | [] => if part.isEmpty then [] else [plain part]
  | c :: rest =>
    if isPoint c then
      (if part.isEmpty then [] else [plain part]) ++ .mark c :: split [] rest
    else
      split (part ++ [c]) rest

/-- The token of characters that stay together. -/
def whole (cs : List Char) : Token :=
  let part := (cs.dropWhile (!isPoint ·)).drop 1
  let start := cs.takeWhile (!isPoint ·)
  if start.all isDigit && part.all isDigit then .fraction start part else .other

/-- The tokens of a piece that is complete. -/
def tokens (piece : Piece) : List Token :=
  let cs := piece.seen.reverse
  if piece.stage = .letters ∨ piece.stage = .digits then
    [plain cs]
  else if piece.lettered ∨ 1 < cs.count '.' ∨ piece.seen.head?.any isPoint then
    split [] cs
  else
    [whole cs]

end Piece

/-- The token of a character that belongs to no piece. -/
def single (c : Char) : Token :=
  if Text.isBlank c then .blank else .mark c

/-- The tokens of a text that follows a piece. -/
def scan : Option Piece → List Char → List Token
  | none, [] => []
  | some piece, [] => piece.tokens
  | piece, c :: rest =>
    match piece.bind (·.extend? c) with
    | some piece => scan (some piece) rest
    | none =>
      let tokens := match Piece.start? c with
        | some piece => scan (some piece) rest
        | none => single c :: scan none rest
      (piece.map (·.followed.tokens)).getD [] ++ tokens

/-- The tokens of a text; NULs in it do not count. -/
def ofChars (cs : List Char) : List Token :=
  scan none (cs.filter (· != '\x00'))

/-- The words that may stand anywhere in a date. -/
def fillers : List String :=
  ["at", "on", "and", "ad", "t", "of", "st", "nd", "rd", "th"]

def isFiller : Token → Bool
  | blank => true
  | word name => fillers.contains name
  | mark c => ['.', ',', ';', '-', '/', '\''].contains c
  | _ => false

end Token

end Allowance.Terminal
