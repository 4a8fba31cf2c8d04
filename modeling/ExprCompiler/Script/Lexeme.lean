import ExprCompiler.Script.Literal
import ExprCompiler.Text.Identifier
import ExprCompiler.Text.Normalization

/-!
# Lexemes of the script language

A script is cut into lexemes by its own rules, which are not those of expressions: numbers may have
underscores and exponents, words are identifiers, and lines matter, except within brackets.
-/

namespace ExprCompiler.Script

/-- A lexeme of a script. -/
inductive Lexeme where
  /-- A number or a word that stands for a value. -/
  | value (value : Value)
  /-- A word that may name something, in its normal form. -/
  | name (text : String)
  /-- A word with a fixed meaning. -/
  | reserved (text : String)
  /-- The sign of an operation. -/
  | sign (op : BinaryOp)
  /-- An opening round bracket. -/
  | bracketOpen
  /-- A closing round bracket. -/
  | bracketClose
  /-- The sign `=`. -/
  | assign
  /-- The end of a line outside brackets. -/
  | newline
  /-- Blanks at the start of a line that holds something else too. -/
  | indent
  deriving Repr

/-- The words with a fixed meaning that stand for no value. -/
def reservedWords : List String :=
  ["and", "as", "assert", "async", "await", "break", "class", "continue", "def", "del", "elif",
   "else", "except", "finally", "for", "from", "global", "if", "import", "in", "is", "lambda",
   "nonlocal", "not", "or", "pass", "raise", "return", "try", "while", "with", "yield"]

/-- The lexeme of a word. A word with a fixed meaning has to be spelled as it is; two spellings of a
name are the same if their normal forms are. -/
def Lexeme.ofWord (word : String) : Lexeme :=
  if word = "None" then value .absent
  else if word = "True" then value (.bool true)
  else if word = "False" then value (.bool false)
  else if reservedWords.contains word then reserved word
  else name (normalForm word)

/-- The most brackets that may be open at once. -/
def maxNesting : Nat := 200

/-- Characters that separate the lexemes of one line. -/
def isSeparator (c : Char) : Bool :=
  c = ' ' || c = '\t' || c = '\x0c'

/-- The lexemes at the start of a line: one for its blanks, if something else follows them. A form
feed takes back the blanks before it. -/
def lineStart (chars : List Char) : List Lexeme :=
  match (chars.takeWhile isSeparator).getLast?, (chars.dropWhile isSeparator).head? with
  | some c, some d => if c != '\x0c' && d != '\n' then [.indent] else []
  | _, _ => []

/-- The lexemes of a text, where `nesting` brackets are open before it. -/
def lexemes? (nesting : Nat) : List Char → Option (List Lexeme)
  | [] => some []
  | c :: rest =>
    if isSeparator c then lexemes? nesting rest
    else if c = '\n' then
      if nesting = 0 then (lexemes? 0 rest).map (.newline :: lineStart rest ++ ·)
      else lexemes? nesting rest
    else if c = '(' then
      if nesting < maxNesting then (lexemes? (nesting + 1) rest).map (.bracketOpen :: ·) else none
    else if c = ')' then
      if 0 < nesting then (lexemes? (nesting - 1) rest).map (.bracketClose :: ·) else none
    else if c = '+' then (lexemes? nesting rest).map (.sign .add :: ·)
    else if c = '-' then (lexemes? nesting rest).map (.sign .sub :: ·)
    else if c = '*' then (lexemes? nesting rest).map (.sign .mul :: ·)
    else if c = '/' then (lexemes? nesting rest).map (.sign .div :: ·)
    else if c = '=' then (lexemes? nesting rest).map (.assign :: ·)
    else if _hnumber : c.isDigit = true ∨ c = '.' then do
      let value ← readNumber? (spanLiteral (c :: rest)).1
      let others ← lexemes? nesting (spanLiteral (c :: rest)).2
      return .value value :: others
    else if identifierStart.has c then do
      let word := String.ofList (c :: rest.takeWhile identifierContinue.has)
      let others ← lexemes? nesting (rest.dropWhile identifierContinue.has)
      return .ofWord word :: others
    else none
termination_by chars => chars.length
decreasing_by
  all_goals simp only [List.length_cons]
  all_goals first
    | exact length_spanLiteral_lt _hnumber
    | exact Nat.lt_succ_of_le (List.dropWhile_suffix _).length_le
    | omega

end ExprCompiler.Script
