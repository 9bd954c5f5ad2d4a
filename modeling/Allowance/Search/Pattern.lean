import Allowance.Text.Pieces

/-!
# Search patterns

In a pattern the percent sign stands for any run of characters and every other character for
itself. A pattern is matched from the left: each part between percent signs is looked for after the
one before it, once the parts at both ends are seen to fit.
-/

namespace Allowance.Search

/-- The sign for any run of characters. -/
def wildcard : Char := '%'

/-- Whether the parts occur in the text in their order and without overlap. -/
def occurInOrder : List (List Char) → List Char → Bool
  | [], _ => true
  | part :: parts, text =>
    match Text.afterFirst? part text with
    | some rest => occurInOrder parts rest
    | none => false

/-- Whether a text starts and ends with two parts that do not overlap and has the others between
them. -/
def matchesParts (head : List Char) (others : List (List Char)) (text : List Char) : Bool :=
  match others.getLast? with
  | none => text == head
  | some tail =>
    let body := text.drop head.length
    head.isPrefixOf text && tail.isSuffixOf body &&
      occurInOrder others.dropLast (body.take (body.length - tail.length))

def matchesPattern (pattern text : String) : Bool :=
  match Text.pieces (· == wildcard) pattern.toList with
  | head :: others => matchesParts head others text.toList
  | [] => false

/-- The pattern of a searched text: the whole text, or any text that contains it. -/
def patternOf (exactly : Bool) (text : String) : String :=
  if exactly then text else wildcard.toString ++ text ++ wildcard.toString

end Allowance.Search
