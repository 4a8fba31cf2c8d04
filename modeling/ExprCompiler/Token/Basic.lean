/-!
# Tokens

A token is one lexeme of an expression together with its kind and the place it stands at. The end of
an expression is a token too, so that every place where a reader can stand has a token to show.
-/

namespace ExprCompiler

/-- What a token is. -/
inductive TokenKind where
  /-- A number literal. -/
  | number
  /-- The sign `+`. -/
  | plus
  /-- The sign `-`. -/
  | minus
  /-- The sign `*`. -/
  | star
  /-- The sign `/`. -/
  | slash
  /-- An opening round bracket. -/
  | bracketOpen
  /-- A closing round bracket. -/
  | bracketClose
  /-- The end of the expression. -/
  | exprEnd
  deriving DecidableEq, Repr

namespace TokenKind

/-- The name of a kind in messages. -/
def name : TokenKind → String
  | number => "NUMBER"
  | plus => "PLUS"
  | minus => "MINUS"
  | star => "STAR"
  | slash => "SLASH"
  | bracketOpen => "BRACKET_OPEN"
  | bracketClose => "BRACKET_CLOSE"
  | exprEnd => "EXPR_END"

/-- All kinds, in the order in which they are declared. -/
def all : List TokenKind :=
  [number, plus, minus, star, slash, bracketOpen, bracketClose, exprEnd]

/-- The kind with a given name. -/
def ofName? (name : String) : Option TokenKind :=
  all.find? (·.name == name)

/-- The kind of a lexeme that is one sign. -/
def ofSign? : Char → Option TokenKind
  | '+' => some plus
  | '-' => some minus
  | '*' => some star
  | '/' => some slash
  | '(' => some bracketOpen
  | ')' => some bracketClose
  | _ => none

end TokenKind

/-- A lexeme with its kind and place. -/
structure Token where
  /-- What the token is. -/
  kind : TokenKind
  /-- The characters it was read from; empty at the end of an expression. -/
  lexeme : String
  /-- The index of its first character in the source. -/
  position : Int
  deriving DecidableEq, Repr

namespace Token

/-- The token that ends an expression, at a given place. -/
def endAt (position : Int) : Token :=
  { kind := .exprEnd, lexeme := "", position }

/-- Whether the token ends the expression. -/
def isEnd (token : Token) : Bool :=
  token.kind == .exprEnd

/-- A token as it is listed: its kind in angle brackets, then its lexeme. -/
def text (token : Token) : String :=
  "<" ++ token.kind.name ++ ">" ++ token.lexeme

end Token

end ExprCompiler
