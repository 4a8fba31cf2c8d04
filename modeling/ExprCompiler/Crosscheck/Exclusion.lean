import ExprCompiler.Text.Blank
import ExprCompiler.Text.Digit

/-!
# Texts that are not compared

Some texts mean something to the reference evaluator that they do not mean here: a doubled star or
slash is an operator of its own, a number may start with a point, and a minus may be a sign. A text
in which one of these patterns occurs is not compared.
-/

namespace ExprCompiler.Crosscheck

/-- Whether a text starts with a character, after blanks. -/
def startsWithSign (sign : Char) (text : List Char) : Bool :=
  (text.dropWhile isBlank).head? = some sign

/-- Whether two signs stand in a text with nothing but blanks between them. -/
def hasDoubledSign (sign : Char) : List Char → Bool
  | [] => false
  | c :: rest => (c = sign && startsWithSign sign rest) || hasDoubledSign sign rest

/-- Whether a point stands in a text at the start or after something that is neither a digit of any
script nor a point. -/
def hasLeadingPoint (text : List Char) : Bool :=
  go true text
where
  /-- The same, where `leading` says whether a point here would be one. -/
  go (leading : Bool) : List Char → Bool
    | [] => false
    | c :: rest => (leading && c = '.') || go (!(isDecimalDigit c || c = '.')) rest

/-- The characters after which a minus is a sign. -/
def precedesSign (c : Char) : Bool :=
  c = '(' || c = '+' || c = '-' || c = '*' || c = '/'

/-- Whether a minus stands in a text, up to blanks, at the start or after an opening bracket or a
sign. -/
def hasMinusSign (text : List Char) : Bool :=
  startsWithSign '-' text || go text
where
  /-- The same, but not at the start. -/
  go : List Char → Bool
    | [] => false
    | c :: rest => (precedesSign c && startsWithSign '-' rest) || go rest

/-- For each of the four patterns, whether it occurs in a text. -/
def excludedPatterns (code : String) : List Bool :=
  let text := code.toList
  [hasDoubledSign '*' text, hasDoubledSign '/' text, hasLeadingPoint text, hasMinusSign text]

/-- Whether a text is not compared. -/
def isExcluded (code : String) : Bool :=
  (excludedPatterns code).any id

end ExprCompiler.Crosscheck
