/-!
# Cutting texts into pieces
-/

namespace Allowance.Text

/-- The pieces of a text between the separators; empty pieces are kept, so that there is one more
piece than there are separators. -/
def pieces (isSeparator : Char → Bool) : List Char → List (List Char)
  | [] => [[]]
  | c :: rest =>
    match pieces isSeparator rest with
    | piece :: others => if isSeparator c then [] :: piece :: others else (c :: piece) :: others
    | [] => [[c]]

/-- What follows the first occurrence of a part in a text, if the part occurs. -/
def afterFirst? (part : List Char) : List Char → Option (List Char)
  | [] => if part.isEmpty then some [] else none
  | c :: rest =>
    if part.isPrefixOf (c :: rest) then some ((c :: rest).drop part.length)
    else afterFirst? part rest

end Allowance.Text
