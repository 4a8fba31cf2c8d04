import ExprCompiler.Compilation.Pipeline
import ExprCompiler.Decimal.Layout
import ExprCompiler.Expr.Evaluation
import ExprCompiler.Token.Spacing
import ExprCompiler.Units.NameSupply

/-!
# A tour of the stages

The tour takes some expressions through all stages and shows what each stage makes of them, up to
the first one that fails.
-/

namespace ExprCompiler.Console

/-- The expressions of the tour. -/
def tourExpressions : List String :=
  ["5", "3.5", "1 + 1", "4 + 6 * 3", "(4 + 6)", "(4+6) * 3", "(1+2)*3 - 4/2", "7/6/2000",
   "10 - 3 - 2", "1 / 0", "(1+2", "1 + @", "1.2.3 + 1", "()"]

/-- What is shown of the values of an expression, walked and compiled. A name is used up only if the
walk has a value. -/
def tourValues (supply : NameSupply) (expr : Expr) (artifact : String) : List String × NameSupply :=
  match expr.evaluate with
  | .error error => ([error.message], supply)
  | .ok walked =>
    let (unitName, supply) := supply.next
    let (result, ()) := (Runner.inMemory.evaluate artifact unitName).run ()
    let compiled := match result with
      | .ok value => "compiled result: " ++ floatText value
      | .error error => error.message
    (["tree walk result: " ++ floatText walked, compiled], supply)

/-- What is shown of one expression. -/
def tourStop (supply : NameSupply) (code : String) : List String × NameSupply :=
  let heading := ["==========", "code: " ++ quoted code]
  match tokensOf code with
  | .error error => (heading ++ [error.message], supply)
  | .ok tokens =>
    let heading := heading ++
      ["tokens: " ++ " ".intercalate (tokens.map Token.text), "normalized: " ++ spacedText tokens]
    match Expr.ofTokens tokens (some code) with
    | .error failure => (heading ++ [failure.message], supply)
    | .ok expr =>
      let heading := heading ++ ["ast: " ++ expr.describe]
      match expr.artifact with
      | .error error => (heading ++ [error.message], supply)
      | .ok artifact =>
        let (values, supply) := tourValues supply expr artifact
        (heading ++ ["artifact: " ++ artifact] ++ values, supply)

/-- What is shown of some expressions. -/
def tourOf (supply : NameSupply) : List String → List String
  | [] => []
  | code :: codes =>
    let (lines, supply) := tourStop supply code
    lines ++ tourOf supply codes

/-- The whole tour. -/
def tour : String :=
  .join ((tourOf {} tourExpressions).map (· ++ "\n"))

end ExprCompiler.Console
