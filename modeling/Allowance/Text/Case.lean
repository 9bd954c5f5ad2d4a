import Allowance.Text.Blank
import Allowance.Text.Case.Tables

/-!
# Lower and upper case

Full Unicode case mapping of a text. Only the capital sigma looks at its neighbours: it becomes a
final sigma at the end of a word.
-/

namespace Allowance.Text.Case

def mapBy (shifts : List Shift) (code : Nat) : Nat :=
  (shifts.findSome? (·.target? code)).getD code

def isCased (c : Char) : Bool :=
  inRanges casedRanges c.toNat

def isIgnorable (c : Char) : Bool :=
  inRanges ignorableRanges c.toNat

/-- Whether the nearest character that is not passed over has case. -/
def meetsCased (cs : List Char) : Bool :=
  match cs.dropWhile isIgnorable with
  | c :: _ => isCased c
  | [] => false

/-- Whether a capital sigma ends a word, given what precedes it, nearest first, and what follows. -/
def endsWord (before after : List Char) : Bool :=
  meetsCased before && !meetsCased after

def lowerChar (before : List Char) (c : Char) (after : List Char) : List Char :=
  if c.toNat < 0x80 then
    [c.toLower]
  else if c = 'Σ' then
    [if endsWord before after then 'ς' else 'σ']
  else if c = 'İ' then
    ['i', '\u0307']
  else
    [Char.ofNat (mapBy lowerShifts c.toNat)]

/-- Lowers the characters of a text, given the characters before them, nearest first. -/
def lowerFrom (before : List Char) : List Char → List Char
  | [] => []
  | c :: rest => lowerChar before c rest ++ lowerFrom (c :: before) rest

def upperChar (c : Char) : List Char :=
  if c.toNat < 0x80 then
    [c.toUpper]
  else
    match upperExpansions.lookup c.toNat with
    | some codes => codes.map Char.ofNat
    | none => [Char.ofNat (mapBy upperShifts c.toNat)]

end Case

def lower (s : String) : String :=
  String.ofList (Case.lowerFrom [] s.toList)

def upper (s : String) : String :=
  String.ofList (s.toList.flatMap Case.upperChar)

end Allowance.Text
