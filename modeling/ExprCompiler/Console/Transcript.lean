import ExprCompiler.Compilation.Pipeline
import ExprCompiler.Decimal.Layout
import ExprCompiler.Text.Blank
import ExprCompiler.Units.NameSupply

/-!
# The interactive calculator

The calculator prompts for a line, runs it as an expression and shows the value or the error, until
the input ends. Blank lines are passed over and use up no name.
-/

namespace ExprCompiler.Console

/-- The lines of an input; what follows the last line feed is a line unless it is empty. -/
def inputLines : List Char → List (List Char)
  | [] => []
  | c :: rest =>
    if c = '\n' then [] :: inputLines rest
    else
      match inputLines rest with
      | line :: lines => (c :: line) :: lines
      | [] => [[c]]

/-- What is shown before a line is read. -/
def prompt : String := "> "

/-- The value of an expression or its error, on lines of its own. -/
def shownResult : Except RunError Float → String
  | .ok value => floatText value ++ "\n"
  | .error error => error.message ++ "\n"

/-- What is shown for a line. -/
def respondTo (supply : NameSupply) (line : String) : String × NameSupply :=
  if isBlankText line then ("", supply)
  else
    let (unitName, supply) := supply.next
    let (result, ()) := (run .inMemory line unitName).run ()
    (shownResult result, supply)

/-- What is shown for lines and the end of the input. -/
def transcriptOf (supply : NameSupply) : List String → String
  | [] => prompt
  | line :: lines =>
    let (shown, supply) := respondTo supply line
    prompt ++ shown ++ transcriptOf supply lines

/-- What is shown for an input. -/
def transcript (input : String) : String :=
  transcriptOf {} ((inputLines input.toList).map .ofList)

end ExprCompiler.Console
