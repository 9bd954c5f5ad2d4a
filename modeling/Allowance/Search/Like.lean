/-!
# Patterns of the database

In a pattern of the database the percent sign stands for any run of characters, the underscore for
one character, and a backslash takes the next character literally. A text and a pattern end at their
first NUL, and the case of ASCII letters is ignored.
-/

namespace Allowance.Search

inductive LikeToken where
  | anyRun
  | anyOne
  | literal (c : Char)
  /-- An escape with nothing after it, which nothing matches. -/
  | nothing
  deriving Repr, DecidableEq

/-- The elements of a pattern in which a backslash takes the next character literally. -/
def likeTokens : List Char → List LikeToken
  | [] => []
  | ['\\'] => [.nothing]
  | '\\' :: c :: rest => .literal c :: likeTokens rest
  | '%' :: rest => .anyRun :: likeTokens rest
  | '_' :: rest => .anyOne :: likeTokens rest
  | c :: rest => .literal c :: likeTokens rest

inductive LikeOutcome where
  | matched
  | mismatched
  /-- No end of the text matches what follows a run, so a longer run before it is of no use
  either. -/
  | exhausted
  deriving Repr, DecidableEq

/-- How the ends of a text fare, the longest first, until one does not just fail to match. -/
def firstOutcome (outcome : List Char → LikeOutcome) : List Char → LikeOutcome
  | [] => if outcome [] = .matched then .matched else .exhausted
  | c :: rest =>
    match outcome (c :: rest) with
    | .mismatched => firstOutcome outcome rest
    | found => found

/-- How a text fares against a pattern. -/
def likeOutcome : List LikeToken → List Char → LikeOutcome
  | [], text => if text.isEmpty then .matched else .mismatched
  | .anyRun :: tokens, text => firstOutcome (likeOutcome tokens) text
  | .anyOne :: tokens, _ :: rest => likeOutcome tokens rest
  | .literal c :: tokens, d :: rest =>
    if c.toLower = d.toLower then likeOutcome tokens rest else .mismatched
  | _, _ => .mismatched

/-- The character as which a character is compared: the last two of the basic plane are none. -/
def comparedChar (c : Char) : Char :=
  if c.toNat = 0xfffe ∨ c.toNat = 0xffff then '\ufffd' else c

/-- The characters of a text that are compared: those up to the first NUL. -/
def comparedChars (s : String) : List Char :=
  (s.toList.takeWhile (· != '\x00')).map comparedChar

def matchesLike (pattern text : String) : Bool :=
  likeOutcome (likeTokens (comparedChars pattern)) (comparedChars text) = .matched

/-- The longest pattern that a text is matched against, in bytes. -/
def patternLimit : Nat := 50000

def isLongPattern (pattern : String) : Bool :=
  patternLimit < pattern.utf8ByteSize

end Allowance.Search
