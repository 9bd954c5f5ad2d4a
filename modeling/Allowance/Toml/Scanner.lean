import Allowance.Data.Value
import Allowance.Text.Digit

/-!
# Scanning TOML

The lexical forms of TOML: keys, texts, numbers, days and times. A scanner takes the characters at
hand and gives what it has read and the characters after it, or nothing where the form is broken.
-/

namespace Allowance.Toml

open Data

def isGap (c : Char) : Bool :=
  c = ' ' || c = '\t'

def isGapOrNewline (c : Char) : Bool :=
  isGap c || c = '\n'

def skipGap (cs : List Char) : List Char :=
  cs.dropWhile isGap

/-- A control character that no text or comment may hold, the tab excepted. -/
def isControl (c : Char) : Bool :=
  (c.toNat < 0x20 && c != '\t') || c.toNat = 0x7f

def isControlInLines (c : Char) : Bool :=
  isControl c && c != '\n'

/-- Passes over a comment up to the end of its line. -/
def skipComment? : List Char → Option (List Char)
  | '#' :: rest =>
    let comment := rest.takeWhile (· != '\n')
    if comment.any isControl then none else some (rest.dropWhile (· != '\n'))
  | cs => some cs

def isBareKey (c : Char) : Bool :=
  c.isAlphanum || c = '-' || c = '_'

def hexDigit? (c : Char) : Option Nat :=
  if '0' ≤ c ∧ c ≤ '9' then some (c.toNat - '0'.toNat)
  else if 'a' ≤ c ∧ c ≤ 'f' then some (c.toNat - 'a'.toNat + 10)
  else if 'A' ≤ c ∧ c ≤ 'F' then some (c.toNat - 'A'.toNat + 10)
  else none

/-- The character of a hexadecimal code point, surrogates excluded. -/
def codePoint? (digits : List Char) : Option Char := do
  let values ← digits.mapM hexDigit?
  let code := values.foldl (fun n d => 16 * n + d) 0
  if code < 0xd800 ∨ (0xdfff < code ∧ code < 0x110000) then some (Char.ofNat code) else none

/-- The character that a one-letter escape stands for. -/
def escaped? : Char → Option Char
  | 'b' => some '\x08'
  | 't' => some '\t'
  | 'n' => some '\n'
  | 'f' => some '\x0c'
  | 'r' => some '\r'
  | '"' => some '"'
  | '\\' => some '\\'
  | _ => none

/-- A character in front of what else was read. -/
def prepend (c : Char) (read : Option (List Char × List Char)) :
    Option (List Char × List Char) :=
  read.map fun (text, rest) => (c :: text, rest)

/-- A text in double quotes on one line, its opening quote already passed. -/
def basicText? : List Char → Option (List Char × List Char)
  | [] => none
  | '"' :: rest => some ([], rest)
  | '\\' :: 'u' :: a :: b :: c :: d :: rest => do
    prepend (← codePoint? [a, b, c, d]) (basicText? rest)
  | '\\' :: 'U' :: a :: b :: c :: d :: e :: f :: g :: h :: rest => do
    prepend (← codePoint? [a, b, c, d, e, f, g, h]) (basicText? rest)
  | '\\' :: c :: rest => do prepend (← escaped? c) (basicText? rest)
  | c :: rest => if isControl c then none else prepend c (basicText? rest)

/-- A text in single quotes on one line, its opening quote already passed. -/
def literalText? (cs : List Char) : Option (List Char × List Char) :=
  let text := cs.takeWhile (· != '\'')
  match cs.dropWhile (· != '\'') with
  | _ :: rest => if text.any isControl then none else some (text, rest)
  | [] => none

/-- Up to two quotes that stand directly before the end of a text of several lines. -/
def trailingQuotes (quote : Char) : List Char → List Char × List Char
  | a :: b :: rest =>
    if a = quote then (if b = quote then ([a, b], rest) else ([a], b :: rest))
    else ([], a :: b :: rest)
  | [a] => if a = quote then ([a], []) else ([], [a])
  | [] => ([], [])

/-- Whether the scanner of a text of several lines is inside the text, awaits the line end after a
backslash, or passes over the blanks after that. -/
inductive LineFold where
  | text
  | awaitNewline
  | skip

/-- A text in three double quotes, its opening quotes already passed. -/
def basicLines? : LineFold → List Char → Option (List Char × List Char)
  | _, [] => none
  | .awaitNewline, c :: rest =>
    if c = '\n' then basicLines? .skip rest
    else if isGap c then basicLines? .awaitNewline rest
    else none
  | .skip, '\\' :: '\n' :: rest => basicLines? .skip rest
  | .text, '\\' :: '\n' :: rest => basicLines? .skip rest
  | _, '"' :: '"' :: '"' :: rest => some (trailingQuotes '"' rest)
  | _, '\\' :: 'u' :: a :: b :: c :: d :: rest => do
    prepend (← codePoint? [a, b, c, d]) (basicLines? .text rest)
  | _, '\\' :: 'U' :: a :: b :: c :: d :: e :: f :: g :: h :: rest => do
    prepend (← codePoint? [a, b, c, d, e, f, g, h]) (basicLines? .text rest)
  | _, '\\' :: c :: rest =>
    if isGap c then basicLines? .awaitNewline rest
    else do prepend (← escaped? c) (basicLines? .text rest)
  | .skip, c :: rest =>
    if isGapOrNewline c then basicLines? .skip rest
    else if isControlInLines c then none
    else prepend c (basicLines? .text rest)
  | .text, c :: rest =>
    if isControlInLines c then none else prepend c (basicLines? .text rest)

/-- The text before three single quotes and what follows them. -/
def untilQuotes? : List Char → Option (List Char × List Char)
  | [] => none
  | '\'' :: '\'' :: '\'' :: rest => some ([], rest)
  | c :: rest => prepend c (untilQuotes? rest)

/-- A text in three single quotes, its opening quotes already passed. -/
def literalLines? (cs : List Char) : Option (List Char × List Char) := do
  let (text, rest) ← untilQuotes? cs
  if text.any isControlInLines then
    none
  else
    let (quotes, rest) := trailingQuotes '\'' rest
    return (text ++ quotes, rest)

/-- The characters without a newline in front. -/
def dropNewline : List Char → List Char
  | '\n' :: rest => rest
  | cs => cs

/-- A text in any of the four forms. -/
def text? : List Char → Option (String × List Char)
  | '"' :: '"' :: '"' :: rest => ofChars (basicLines? .text (dropNewline rest))
  | '"' :: rest => ofChars (basicText? rest)
  | '\'' :: '\'' :: '\'' :: rest => ofChars (literalLines? (dropNewline rest))
  | '\'' :: rest => ofChars (literalText? rest)
  | _ => none
where
  ofChars (read : Option (List Char × List Char)) : Option (String × List Char) :=
    read.map fun (text, rest) => (String.ofList text, rest)

/-- One part of a key: bare, or a quoted text on one line. -/
def keyPart? : List Char → Option (String × List Char)
  | '"' :: rest => (basicText? rest).map fun (text, rest) => (String.ofList text, rest)
  | '\'' :: rest => (literalText? rest).map fun (text, rest) => (String.ofList text, rest)
  | cs =>
    let key := cs.takeWhile isBareKey
    if key.isEmpty then none else some (String.ofList key, cs.dropWhile isBareKey)

/-- A key of parts joined by dots; at most the given number of parts are read. -/
def keyParts? : Nat → List Char → Option (List String × List Char)
  | 0, _ => none
  | count + 1, cs => do
    let (key, rest) ← keyPart? cs
    match skipGap rest with
    | '.' :: rest =>
      let (path, rest) ← keyParts? count (skipGap rest)
      return (key :: path, rest)
    | rest => return ([key], rest)

/-- A dotted key and the characters after the gap behind it. -/
def key? (cs : List Char) : Option (List String × List Char) :=
  keyParts? (cs.length + 1) cs

/-! ## Numbers -/

/-- Digits of a kind that may have single underscores between them, and what follows. -/
def moreDigits (isDigit : Char → Bool) : List Char → List Char × List Char
  | '_' :: c :: rest =>
    if isDigit c then
      let (digits, rest) := moreDigits isDigit rest
      (c :: digits, rest)
    else ([], '_' :: c :: rest)
  | c :: rest =>
    if isDigit c then
      let (digits, rest) := moreDigits isDigit rest
      (c :: digits, rest)
    else ([], c :: rest)
  | [] => ([], [])

/-- At least one digit of a kind, with single underscores between the digits. -/
def digits? (isDigit : Char → Bool) : List Char → Option (List Char × List Char)
  | c :: rest =>
    if isDigit c then
      let (digits, rest) := moreDigits isDigit rest
      some (c :: digits, rest)
    else none
  | [] => none

/-- A whole number in another base, after its mark. -/
def basedNumber? (base : Nat) (cs : List Char) : Option (Value × List Char) := do
  let isDigit (c : Char) : Bool := (hexDigit? c).any (· < base)
  let (digits, rest) ← digits? isDigit cs
  let n := (digits.filterMap hexDigit?).foldl (fun n d => base * n + d) 0
  return (.integer n, rest)

/-- The whole part of a decimal number: a zero, or digits that do not start with one. -/
def wholePart? : List Char → Option (List Char × List Char)
  | '0' :: rest => some (['0'], rest)
  | cs => digits? Text.isAsciiDigit cs

/-- The digits of a fraction, if there is one. -/
def fraction (cs : List Char) : List Char × List Char :=
  match cs with
  | '.' :: rest => (digits? Text.isAsciiDigit rest).getD ([], cs)
  | _ => ([], cs)

/-- The value of an exponent, if there is one. -/
def exponentPart (cs : List Char) : Option Int × List Char :=
  match cs with
  | mark :: rest =>
    if mark = 'e' ∨ mark = 'E' then
      let (negative, after) := match rest with
        | '-' :: after => (true, after)
        | '+' :: after => (false, after)
        | after => (false, after)
      match digits? Text.isAsciiDigit after with
      | some (digits, rest) =>
        let n : Int := (Text.digitsValue? digits).getD 0
        (some (if negative then -n else n), rest)
      | none => (none, cs)
    else (none, cs)
  | [] => (none, cs)

/-- A decimal number after its sign: whole unless it has a fraction or an exponent. -/
def decimalNumber? (negative : Bool) (cs : List Char) : Option (Value × List Char) := do
  let (whole, rest) ← wholePart? cs
  let (fraction, rest) := fraction rest
  let (exponent, rest) := exponentPart rest
  let digits := (Text.digitsValue? (whole ++ fraction)).getD 0
  if fraction.isEmpty && exponent.isNone then
    return (.integer (if negative then -digits else digits), rest)
  else
    let x := Number.Binary64.ofScientific negative digits (exponent.getD 0 - fraction.length)
    return (.real x, rest)

/-- A number that is not finite. -/
def specialNumber? (negative : Bool) : List Char → Option (Value × List Char)
  | 'i' :: 'n' :: 'f' :: rest => some (.real (.infinity negative), rest)
  | 'n' :: 'a' :: 'n' :: rest => some (.real .nan, rest)
  | _ => none

/-- A number of any form. -/
def number? : List Char → Option (Value × List Char)
  | '0' :: 'x' :: rest => (basedNumber? 16 rest).or (decimalNumber? false ('0' :: 'x' :: rest))
  | '0' :: 'o' :: rest => (basedNumber? 8 rest).or (decimalNumber? false ('0' :: 'o' :: rest))
  | '0' :: 'b' :: rest => (basedNumber? 2 rest).or (decimalNumber? false ('0' :: 'b' :: rest))
  | '-' :: rest => (decimalNumber? true rest).or (specialNumber? true rest)
  | '+' :: rest => (decimalNumber? false rest).or (specialNumber? false rest)
  | cs => (decimalNumber? false cs).or (specialNumber? false cs)

/-- Whether the number that a text starts with is written in a base whose digits are groups of
bits. -/
def isBased : List Char → Bool
  | '0' :: mark :: _ => mark = 'x' ∨ mark = 'o' ∨ mark = 'b'
  | _ => false

/-- Whether a number is read. A decimal whole number must not have too many digits. -/
def isReadable (cs : List Char) : Value → Bool
  | .integer i => isBased cs || Text.hasNumeral i
  | _ => true

/-! ## Days and times -/

/-- A number of two digits within bounds. -/
def twoDigits? (low high : Nat) (a b : Char) : Option Nat :=
  if Text.isAsciiDigit a && Text.isAsciiDigit b then
    let n := Text.ofDigits [a.toNat - '0'.toNat, b.toNat - '0'.toNat]
    if low ≤ n ∧ n ≤ high then some n else none
  else none

/-- A day as four, two and two digits. -/
def day? : List Char → Option (DayStamp × List Char)
  | y₁ :: y₂ :: y₃ :: y₄ :: '-' :: m₁ :: m₂ :: '-' :: d₁ :: d₂ :: rest => do
    let century ← twoDigits? 0 99 y₁ y₂
    let year ← twoDigits? 0 99 y₃ y₄
    return (⟨century * 100 + year, ← twoDigits? 1 12 m₁ m₂, ← twoDigits? 1 31 d₁ d₂⟩, rest)
  | _ => none

/-- The microseconds of a fraction of a second, of which six digits count. -/
def microseconds (cs : List Char) : Nat × List Char :=
  match cs with
  | '.' :: rest =>
    let digits := rest.takeWhile Text.isAsciiDigit
    if digits.isEmpty then (0, cs)
    else
      let six := digits.take 6 ++ List.replicate (6 - digits.length) '0'
      ((Text.digitsValue? six).getD 0, rest.dropWhile Text.isAsciiDigit)
  | _ => (0, cs)

/-- A time of day with seconds. -/
def time? : List Char → Option (TimeStamp × List Char)
  | h₁ :: h₂ :: ':' :: m₁ :: m₂ :: ':' :: s₁ :: s₂ :: rest => do
    let hour ← twoDigits? 0 23 h₁ h₂
    let minute ← twoDigits? 0 59 m₁ m₂
    let second ← twoDigits? 0 59 s₁ s₂
    let (microsecond, rest) := microseconds rest
    return (⟨hour, minute, second, microsecond⟩, rest)
  | _ => none

/-- An offset from universal time in minutes, if there is one. -/
def offset (cs : List Char) : Option Int × List Char :=
  match cs with
  | 'Z' :: rest | 'z' :: rest => (some 0, rest)
  | sign :: h₁ :: h₂ :: ':' :: m₁ :: m₂ :: rest =>
    match twoDigits? 0 23 h₁ h₂, twoDigits? 0 59 m₁ m₂ with
    | some hours, some minutes =>
      let total : Int := hours * 60 + minutes
      if sign = '+' then (some total, rest)
      else if sign = '-' then (some (-total), rest)
      else (none, cs)
    | _, _ => (none, cs)
  | _ => (none, cs)

/-- A day with or without a time of day. -/
def moment? (cs : List Char) : Option (Value × List Char) := do
  let (day, rest) ← day? cs
  match rest with
  | mark :: after =>
    if mark = 'T' ∨ mark = 't' ∨ mark = ' ' then
      match time? after with
      | some (time, after) =>
        let (offset, after) := offset after
        return (.moment day time offset, after)
      | none => return (.day day, rest)
    else
      return (.day day, rest)
  | [] => return (.day day, rest)

end Allowance.Toml
