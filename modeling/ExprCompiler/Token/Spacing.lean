import ExprCompiler.Text.Blank
import ExprCompiler.Token.Basic

/-!
# From tokens to text

Tokens are written with one space between neighbours. Then every run of blank characters right after
an opening bracket goes, and after that every run right before a closing one, wherever in the text
they come from.
-/

namespace ExprCompiler

/-- A text without the blank characters that follow an opening bracket. -/
def tightenOpening (chars : List Char) : List Char :=
  go false chars
where
  /-- The same, where `afterOpening` says that only blanks stand between here and the bracket. -/
  go (afterOpening : Bool) : List Char → List Char
    | [] => []
    | c :: rest => if afterOpening && isBlank c then go true rest else c :: go (c = '(') rest

/-- A text without the blank characters that precede a closing bracket. -/
def tightenClosing : List Char → List Char
  | [] => []
  | c :: rest =>
    let tail := tightenClosing rest
    if isBlank c && tail.head? = some ')' then tail else c :: tail

/-- The text of a list of tokens, in which end tokens do not show. -/
def spacedText (tokens : List Token) : String :=
  let lexemes := (tokens.filter fun token => !token.isEnd).map Token.lexeme
  .ofList (tightenClosing (tightenOpening (" ".intercalate lexemes).toList))

end ExprCompiler
