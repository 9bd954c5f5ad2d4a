import Allowance.Calendar.Month
import Allowance.Terminal.Parts
import Allowance.Terminal.Token

/-!
# Dates in customary forms

Numbers, the names of months and weekdays, and separators between them make a date: `3/2/2025`,
`3-Feb-25`, `February 3, 2025`. The pieces are read from the left. A number is taken on its own or
together with the separator after it and the number or name behind that. Times of day are no part of
a date.
-/

namespace Allowance.Terminal

open Calendar

/-- The month that a word names, in full or by its first letters. -/
def monthOfName? (name : String) : Option Nat :=
  if name = "sept" then
    some 9
  else
    (monthNames.findIdx? fun month =>
      let month := month.map Char.toLower
      name == month || name == (month.take 3).toString).map (· + 1)

def weekdayNames : List String :=
  ["monday", "tuesday", "wednesday", "thursday", "friday", "saturday", "sunday"]

/-- The weekday that a word names, in full or by its first three letters, from 0 for Monday. -/
def weekdayOfName? (name : String) : Option Nat :=
  weekdayNames.findIdx? fun day => name == day || name == (day.take 3).toString

/-- What has been read of a date: its parts and a weekday. -/
structure Draft where
  parts : Parts
  weekday : Option Nat

namespace Parts

/-- The parts with a number as it is written: more than two digits are a year. -/
def addDigits? (p : Parts) (whole : List Char) : Option Parts := do
  let n ← Text.digitsValue? whole
  if 2 < whole.length then p.addYear? n else return p.add n

/-- The parts with a number by its value: one above a hundred is a year, and a fraction is cut
off. -/
def addValue? (p : Parts) (n : Nat) (hasFraction : Bool) : Option Parts :=
  if 100 < n ∨ (n = 100 ∧ hasFraction) then p.addYear? n else some (p.add n)

/-- The parts with the number or the name of a month behind a separator. -/
def addJoined? (p : Parts) : Token → Option Parts
  | .digits whole => p.addDigits? whole
  | .word name => (monthOfName? name).bind p.addMonth?
  | _ => none

def addJoinedNumber? (p : Parts) : Token → Option Parts
  | .digits whole => p.addDigits? whole
  | _ => none

/-- The parts with one more number if the same separator follows, and the tokens behind it. -/
def addThird? (add : Parts → Token → Option Parts) (p : Parts) (separator : Char) :
    List Token → Option (Parts × List Token)
  | .mark c :: rest =>
    if c = separator then
      match rest with
      | token :: rest => (add p token).map (·, rest)
      | [] => none
    else
      some (p, .mark c :: rest)
  | rest => some (p, rest)

def addAfterNumber? (p : Parts) (separator : Char) : List Token → Option (Parts × List Token)
  | [] => some (p, [])
  | token :: rest =>
    if token.isFiller then
      some (p, token :: rest)
    else do
      (← p.addJoined? token).addThird? addJoined? separator rest

/-- The parts with what belongs to the name of a month, and the tokens behind it: numbers joined to
it, or a year introduced by a word. -/
def addAfterMonth? (p : Parts) (present : Nat) : List Token → Option (Parts × List Token)
  | .blank :: .word "of" :: .blank :: token :: rest =>
    match token with
    | .digits whole => do return (← p.addYear? (fullYear present (← Text.digitsValue? whole)), rest)
    | _ => some (p, rest)
  | .mark c :: rest =>
    if c = '-' ∨ c = '/' then
      match rest with
      | token :: rest => do (← p.addJoinedNumber? token).addThird? addJoinedNumber? c rest
      | [] => none
    else
      some (p, .mark c :: rest)
  | rest => some (p, rest)

def addAlone? (p : Parts) (n : Nat) (hasFraction : Bool) :
    List Token → Option (Parts × List Token)
  | [] => (p.addValue? n hasFraction).map (·, [])
  | token :: rest =>
    if token.isFiller then
      (p.addValue? n hasFraction).map (·, rest)
    else if p.fitsDay n hasFraction then
      (p.addValue? n hasFraction).map (·, token :: rest)
    else
      none

/-- The parts with two digits for each of year, month and day. -/
def addPairs? (p : Parts) (whole : List Char) : Option Parts := do
  ((← p.addDigits? (whole.take 2)).addDigits? ((whole.drop 2).take 2)) >>=
    (·.addDigits? (whole.drop 4))

/-- The parts with four digits for the year and two each for month and day. -/
def addCompact? (p : Parts) (whole : List Char) : Option Parts := do
  let p ← p.addYear? (← Text.digitsValue? (whole.take 4))
  (← p.addDigits? ((whole.drop 4).take 2)).addDigits? (whole.drop 6)

/-- Whether a number of some length is a time of day: it follows a complete date, or is too long for
one. -/
def isTime (p : Parts) (length : Nat) (rest : List Token) : Bool :=
  (p.numbers.length == 3 && (length == 2 || length == 4) &&
    (rest.isEmpty || rest.head? == some .blank)) ||
    (length == 6 && !p.numbers.isEmpty) || length == 12 || length == 14

/-- The parts with a whole number, and the tokens behind it and what it is joined to. -/
def addWhole? (p : Parts) (whole : List Char) (rest : List Token) :
    Option (Parts × List Token) := do
  if p.isTime whole.length rest then
    none
  else if whole.length = 6 then
    return (← p.addPairs? whole, rest)
  else if whole.length = 8 then
    return (← p.addCompact? whole, rest)
  else
    match rest with
    | .mark '-' :: rest => (← p.addDigits? whole).addAfterNumber? '-' rest
    | .mark '/' :: rest => (← p.addDigits? whole).addAfterNumber? '/' rest
    | .mark '.' :: rest => (← p.addDigits? whole).addAfterNumber? '.' rest
    | rest => p.addAlone? (← Text.digitsValue? whole) false rest

/-- The parts with a number that has a fraction, and the tokens behind it. Nothing can be joined to
it. -/
def addFraction? (p : Parts) (whole part : List Char) (rest : List Token) :
    Option (Parts × List Token) := do
  let length := whole.length + 1 + part.length
  if p.isTime length rest || length == 6 || length == 8 || whole.length == 6 then
    none
  else
    match rest with
    | .mark '-' :: _ => none
    | .mark '/' :: _ => none
    | .mark '.' :: _ => none
    | rest =>
      p.addAlone? (← Text.digitsValue? whole) ((← Text.digitsValue? part) != 0) rest

end Parts

namespace Draft

def empty : Draft :=
  ⟨Parts.empty, none⟩

def withParts (draft : Draft) (found : Option (Parts × List Token)) :
    Option (Draft × List Token) :=
  found.map fun (parts, rest) => ({ draft with parts }, rest)

def addWord? (draft : Draft) (present : Nat) (name : String) (rest : List Token) :
    Option (Draft × List Token) :=
  match weekdayOfName? name, monthOfName? name with
  | some day, _ => some ({ draft with weekday := some day }, rest)
  | none, some month =>
    draft.withParts ((draft.parts.addMonth? month).bind (·.addAfterMonth? present rest))
  | none, none => if (Token.word name).isFiller then some (draft, rest) else none

/-- The draft with a token and what belongs to it, and the tokens behind that. -/
def add? (draft : Draft) (present : Nat) (token : Token) (rest : List Token) :
    Option (Draft × List Token) :=
  match token with
  | .digits whole => draft.withParts (draft.parts.addWhole? whole rest)
  | .fraction whole part => draft.withParts (draft.parts.addFraction? whole part rest)
  | .word name => draft.addWord? present name rest
  | token => if token.isFiller then some (draft, rest) else none

/-- The draft with at most the given number of tokens and what belongs to them. -/
def addAll? (present : Nat) : Nat → Draft → List Token → Option Draft
  | _, draft, [] => some draft
  | 0, _, _ :: _ => none
  | count + 1, draft, token :: rest => do
    let (draft, rest) ← draft.add? present token rest
    addAll? present count draft rest

end Draft

/-- The date that a text writes with the pieces of a customary date in the present year. -/
def customary? (present : Nat) (cs : List Char) : Option Date := do
  let tokens := Token.ofChars cs
  let draft ← Draft.empty.addAll? present tokens.length tokens
  draft.parts.date? present draft.weekday

end Allowance.Terminal
