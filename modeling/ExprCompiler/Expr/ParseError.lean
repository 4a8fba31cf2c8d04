import ExprCompiler.Token.Scanner

/-!
# What can be wrong with a sequence of tokens

An error names the rule that was broken (a `ParseFault`) and the token where it was noticed. What
the report says, which class of error it is and which kinds of token would have fitted all follow
from these two.
-/

namespace ExprCompiler

/-- How deep brackets may nest. -/
def maxBracketDepth : Nat := 100

/-- How deep operations may nest. The text of a compiled expression has a pair of brackets for each
operation, and its reader refuses more than 200 nested ones. -/
def maxOperationDepth : Nat := 180

/-- A rule that a sequence of tokens can break. -/
inductive ParseFault where
  /-- A token of one certain kind was due. -/
  | mismatch (wanted : TokenKind)
  /-- The expression was complete, and something follows it. -/
  | trailingToken
  /-- A number or an opening bracket was due. -/
  | missingOperand
  /-- A number literal has more than one point. -/
  | malformedNumber
  /-- The expression ended inside brackets. -/
  | unclosedBracket
  /-- One more bracket would exceed `maxBracketDepth`. -/
  | tooManyBrackets
  /-- One more operation would exceed `maxOperationDepth`. -/
  | tooManyOperations
  deriving DecidableEq, Repr

/-- The classes of errors. -/
inductive ParseErrorKind where
  /-- A token that cannot stand at its place. -/
  | unexpectedToken
  /-- A bracket that is never closed. -/
  | unclosedParenthesis
  /-- No operand where one is due. -/
  | emptyFactor
  /-- A literal that is no number. -/
  | malformedNumber
  /-- Nesting beyond a limit. -/
  | tooDeep
  deriving DecidableEq, Repr

/-- A broken rule and the token where it was noticed. -/
structure ParseError where
  /-- The broken rule. -/
  fault : ParseFault
  /-- The token that broke it. -/
  found : Token
  /-- The text of the expression, if it is known. -/
  source : Option String
  deriving DecidableEq, Repr

namespace ParseError

/-- The class of an error. A missing operand counts as such only at the end of the expression or of
a bracket; elsewhere there is a token, and it is unexpected. -/
def kind (error : ParseError) : ParseErrorKind :=
  match error.fault with
  | .mismatch _ | .trailingToken => .unexpectedToken
  | .missingOperand =>
    match error.found.kind with
    | .exprEnd | .bracketClose => .emptyFactor
    | _ => .unexpectedToken
  | .malformedNumber => .malformedNumber
  | .unclosedBracket => .unclosedParenthesis
  | .tooManyBrackets | .tooManyOperations => .tooDeep

/-- The kinds of token that the broken rule asks for. -/
def expected (error : ParseError) : List TokenKind :=
  match error.fault with
  | .mismatch wanted => [wanted]
  | .trailingToken => [.exprEnd, .plus, .minus, .star, .slash]
  | .missingOperand => [.number, .bracketOpen]
  | .malformedNumber => [.number]
  | .unclosedBracket => [.bracketClose]
  | .tooManyBrackets => [.number]
  | .tooManyOperations => []

/-- What is wrong, in one line. -/
def headline (error : ParseError) : String :=
  let found := error.found.kind.name
  match error.fault with
  | .mismatch wanted => "Expected " ++ wanted.name ++ ", found " ++ found
  | .trailingToken => "Binary operator or end of expression expected, found " ++ found
  | .missingOperand => "Number or bracketed expression expected, found " ++ found
  | .malformedNumber => "Malformed number literal: " ++ quoted error.found.lexeme
  | .unclosedBracket => "Unclosed bracket"
  | .tooManyBrackets => "Brackets nest deeper than " ++ toString maxBracketDepth
  | .tooManyOperations =>
    "Expression nests more than " ++ toString maxOperationDepth ++ " operations"

/-- The report of the error: the headline and, if the text is known, an excerpt that points at the
token. -/
def message (error : ParseError) : String :=
  let excerpt := match error.source with
    | some source => (Excerpt.around source error.found.position).lines
    | none => []
  "\n".intercalate (("[Parser error] " ++ error.headline) :: excerpt)

end ParseError

end ExprCompiler
