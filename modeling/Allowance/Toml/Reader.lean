import Allowance.Calendar.Date
import Allowance.Toml.Document
import Allowance.Toml.Scanner

/-!
# Reading TOML

A document is read statement by statement: a key with its value, the header of a table or of an
item of an array of tables, a comment or an empty line. Anything else makes the whole document
malformed. Reading ends at the first fault.
-/

namespace Allowance.Toml

open Data

/-- Why a document cannot be read. -/
inductive Fault where
  | malformed
  /-- A decimal whole number has too many digits. -/
  | longNumeral
  /-- Arrays and inline tables are nested too deeply. -/
  | tooDeep
  deriving Repr, DecidableEq

/-- What is found, or else a document that is malformed. -/
def require {α : Type} : Option α → Except Fault α
  | some a => .ok a
  | none => .error .malformed

/-- Passes over gaps, line ends and comments inside an array. The bound is on the number of
comments. -/
def skipLines? : Nat → List Char → Option (List Char)
  | 0, _ => none
  | count + 1, cs =>
    match cs.dropWhile isGapOrNewline with
    | '#' :: rest => do skipLines? count (← skipComment? ('#' :: rest))
    | rest => some rest

def skipLines (cs : List Char) : Option (List Char) :=
  skipLines? (cs.length + 1) cs

/-- Whether the day of a value is in the calendar. -/
def isCalendarValue : Value → Bool
  | .day d => (Date.ofFields? d.year d.month d.day).isSome
  | .moment d _ _ => (Date.ofFields? d.year d.month d.day).isSome
  | _ => true

/-- A number, which must not be too long. -/
def number (cs : List Char) : Except Fault (Value × List Char) := do
  let (value, rest) ← require (number? cs)
  if isReadable cs value then return (value, rest) else throw .longNumeral

/-- A value that is not made of other values. -/
def scalar (cs : List Char) : Except Fault (Value × List Char) :=
  match cs with
  | '"' :: _ | '\'' :: _ => require ((text? cs).map fun (s, rest) => (.text s, rest))
  | 't' :: 'r' :: 'u' :: 'e' :: rest => .ok (.boolean true, rest)
  | 'f' :: 'a' :: 'l' :: 's' :: 'e' :: rest => .ok (.boolean false, rest)
  | _ =>
    match moment? cs with
    | some (value, rest) => if isCalendarValue value then .ok (value, rest) else .error .malformed
    | none =>
      match time? cs with
      | some (time, rest) => .ok (.time time, rest)
      | none => number cs

/-- How deeply values may be nested. -/
def nestingLimit : Nat := 980

/-- What an array takes of the depth. -/
def arrayDepth : Nat := 2

/-- What an inline table takes of the depth. -/
def tableDepth : Nat := 3

/-- What is left of a depth. -/
def deeper (taken depth : Nat) : Except Fault Nat :=
  if taken ≤ depth then .ok (depth - taken) else .error .tooDeep

mutual

/-- A value that may be nested by a depth; the bound is on the number of the values inside it. -/
def value : Nat → Nat → List Char → Except Fault (Value × List Char)
  | 0, _, _ => .error .malformed
  | bound + 1, depth, cs =>
    match cs with
    | '[' :: rest => do
      let depth ← deeper arrayDepth depth
      let (items, rest) ← items bound depth (← require (skipLines rest))
      return (.list items, rest)
    | '\x7b' :: rest => do
      let depth ← deeper tableDepth depth
      match skipGap rest with
      | '\x7d' :: rest => return (.table [], rest)
      | rest =>
        let (nodes, rest) ← entries bound depth [] rest
        return (.table (toTable nodes), rest)
    | cs => scalar cs

/-- The items of an array up to its end. -/
def items : Nat → Nat → List Char → Except Fault (List Value × List Char)
  | 0, _, _ => .error .malformed
  | bound + 1, depth, cs =>
    match cs with
    | ']' :: rest => .ok ([], rest)
    | cs => do
      let (first, rest) ← value bound depth cs
      match ← require (skipLines rest) with
      | ']' :: rest => return ([first], rest)
      | ',' :: rest =>
        let (others, rest) ← items bound depth (← require (skipLines rest))
        return (first :: others, rest)
      | _ => throw .malformed

def entries : Nat → Nat → Nodes → List Char → Except Fault (Nodes × List Char)
  | 0, _, _, _ => .error .malformed
  | bound + 1, depth, nodes, cs => do
    let (path, rest) ← require (key? cs)
    match rest with
    | '=' :: rest =>
      let (value, rest) ← value bound depth (skipGap rest)
      let nodes ← require (nodes.insert 0 value path)
      match skipGap rest with
      | '\x7d' :: rest => return (nodes, rest)
      | ',' :: rest => entries bound depth nodes (skipGap rest)
      | _ => throw .malformed
    | _ => throw .malformed

end

def assignment (d : Document) (cs : List Char) : Except Fault (Document × List Char) := do
  let (path, rest) ← require (key? cs)
  match rest with
  | '=' :: rest =>
    let rest := skipGap rest
    let (value, rest) ← value (rest.length + 1) nestingLimit rest
    return (← require (d.insert path value), rest)
  | _ => throw .malformed

/-- One statement without the line end after it. -/
def statement (d : Document) (cs : List Char) : Except Fault (Document × List Char) :=
  match cs with
  | '[' :: '[' :: rest => do
    match ← require (key? (skipGap rest)) with
    | (path, ']' :: ']' :: rest) => return (← require (d.openItem path), rest)
    | _ => throw .malformed
  | '[' :: rest => do
    match ← require (key? (skipGap rest)) with
    | (path, ']' :: rest) => return (← require (d.openTable path), rest)
    | _ => throw .malformed
  | '#' :: _ => .ok (d, cs)
  | _ => assignment d cs

/-- The document after at most the given number of lines. -/
def lines : Nat → Document → List Char → Except Fault Document
  | 0, _, _ => .error .malformed
  | count + 1, d, cs =>
    match skipGap cs with
    | [] => .ok d
    | '\n' :: rest => lines count d rest
    | cs => do
      let (d, rest) ← statement d cs
      match ← require (skipComment? (skipGap rest)) with
      | [] => return d
      | '\n' :: rest => lines count d rest
      | _ => throw .malformed

/-- The characters with the line ends of two characters replaced by single ones. -/
def joinLineEnds : List Char → List Char
  | '\r' :: '\n' :: rest => '\n' :: joinLineEnds rest
  | c :: rest => c :: joinLineEnds rest
  | [] => []

/-- The table that a document writes, if it is well-formed. -/
def read (document : String) : Except Fault Table := do
  let cs := joinLineEnds document.toList
  return toTable (← lines (cs.length + 1) Document.empty cs).nodes

end Allowance.Toml
