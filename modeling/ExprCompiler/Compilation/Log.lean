import ExprCompiler.Compilation.Pipeline
import ExprCompiler.Decimal.Layout

/-!
# The log of a run

Every stage that succeeds leaves a record. The log follows from what goes into the stages, so it is
a function of its own and the stages know nothing of it.
-/

namespace ExprCompiler

/-- A record of a stage. -/
inductive LogRecord where
  /-- A text was cut into a number of tokens. -/
  | tokenized (code : String) (count : Nat)
  /-- A text was read as an expression. -/
  | parsed (code : String) (expr : Expr)
  /-- A unit was made of an artifact. -/
  | emitted (unitName artifact : String)
  /-- A unit is about to be loaded from memory. -/
  | loading (unitName : String)
  /-- A unit was written to a file. -/
  | written (unitName : String) (path : Path)
  /-- A unit returned a double. -/
  | evaluated (unitName : String) (value : Float)

/-- The line of a record. -/
def LogRecord.line : LogRecord → String
  | tokenized code count =>
    "DEBUG tinycompiler.compiler: Tokenized " ++ quoted code ++ " into " ++ toString count ++
      " tokens"
  | parsed code expr =>
    "DEBUG tinycompiler.compiler: Parsed " ++ quoted code ++ ": " ++ expr.describe
  | emitted unitName artifact =>
    "DEBUG tinycompiler.compiler: Emitted unit " ++ unitName ++ ": " ++ artifact
  | loading unitName => "DEBUG tinycompiler.executor: Compiling unit " ++ unitName ++ " in memory"
  | written unitName path =>
    "DEBUG tinycompiler.executor: Wrote unit " ++ unitName ++ " to " ++ path.text
  | evaluated unitName value =>
    "DEBUG tinycompiler.executor: Unit " ++ unitName ++ " evaluated to " ++ floatText value

/-- The records of compiling a text under a name. -/
def compileLog (code unitName : String) : List LogRecord :=
  match tokensOf code with
  | .error _ => []
  | .ok tokens =>
    .tokenized code tokens.length ::
      match Expr.ofTokens tokens (some code) with
      | .error _ => []
      | .ok expr =>
        .parsed code expr ::
          match compile code unitName with
          | .error _ => []
          | .ok compiled => [.emitted unitName compiled.artifact]

/-- The records of running a compiled expression, in memory or in a directory. -/
def runLog {ε : Type} (directory : Option String) (compiled : CompiledUnit)
    (result : Except ε Float) : List LogRecord :=
  let placed := match directory with
    | some directory => .written compiled.unitName (unitPath directory compiled.unitName)
    | none => .loading compiled.unitName
  match result with
  | .ok value => [placed, .evaluated compiled.unitName value]
  | .error _ => [placed]

end ExprCompiler
