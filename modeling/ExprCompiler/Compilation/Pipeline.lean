import ExprCompiler.Expr.Reading
import ExprCompiler.Units.Runner

/-!
# Compiling and running expressions

A text is cut into tokens, these are read as an expression, the expression becomes an artifact, and
the artifact a unit. Each stage starts only when the one before it has succeeded with the whole
text, and the first failure is the failure of all.
-/

namespace ExprCompiler

/-- Why an expression could not be compiled or run. -/
inductive RunError where
  /-- It could not be read. -/
  | reading (failure : ParseFailure)
  /-- No unit could be made of it. -/
  | emitting (error : ArtifactError)
  /-- Its unit could not be executed. -/
  | executing (error : UnitError)
  deriving DecidableEq, Repr

/-- The report of a failed reading. -/
def ParseFailure.message : ParseFailure → String
  | lexical error => error.message
  | grammatical error => error.message

/-- The report of the error. -/
def RunError.message : RunError → String
  | reading failure => failure.message
  | emitting error => error.message
  | executing error => error.message

/-- An expression with everything that is made of it. -/
structure CompiledUnit where
  /-- The text. -/
  code : String
  /-- The expression that the text describes. -/
  expr : Expr
  /-- The expression's artifact. -/
  artifact : String
  /-- The name of the unit. -/
  unitName : String
  /-- The source of the unit. -/
  source : String
  deriving DecidableEq, Repr

/-- Makes a unit of the text of an expression. -/
def compile (code unitName : String) : Except RunError CompiledUnit := do
  let expr ← (Expr.ofText code).mapError .reading
  let artifact ← expr.artifact.mapError .emitting
  let source ← (unitSource unitName artifact).mapError .emitting
  return { code, expr, artifact, unitName, source }

/-- A computation that may fail and changes the state of a runner. -/
abbrev Run (σ : Type) := ExceptT RunError (StateM σ)

/-- Runs a compiled expression. -/
def CompiledUnit.run {σ : Type} (compiled : CompiledUnit) (runner : Runner σ) : Run σ Float :=
  ExceptT.adapt .executing (runner.evaluate compiled.artifact compiled.unitName)

/-- Compiles the text of an expression and runs it. -/
def run {σ : Type} (runner : Runner σ) (code unitName : String) : Run σ Float := do
  let compiled ← (compile code unitName : Except RunError CompiledUnit)
  compiled.run runner

/-- Runs the texts of expressions under names, one after the other, whether or not they fail. -/
def runEach {σ : Type} (runner : Runner σ) (runs : List (String × String)) :
    StateM σ (List (Except RunError Float)) :=
  runs.mapM fun (code, unitName) => (run runner code unitName).run

end ExprCompiler
