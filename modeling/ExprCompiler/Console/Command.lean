import ExprCompiler.Compilation.Log
import ExprCompiler.Console.Options
import ExprCompiler.Text.Styling
import ExprCompiler.Units.NameSupply

/-!
# The command

The command compiles one expression, shows the source of its unit, runs it and shows the value.
Errors go to the standard error, after the log if it is wanted.
-/

namespace ExprCompiler.Console

/-- What the command leaves behind. -/
structure Report where
  /-- The exit code: zero for success, one for an error in the expression, two for a misuse. -/
  exitCode : Nat := 0
  /-- The text on the standard output. -/
  stdout : String := ""
  /-- The text on the standard error. -/
  stderr : String := ""
  /-- The files that were written. -/
  files : FileStore := {}

/-- A text as it is echoed, on lines of its own. -/
def echo (text : String) : String :=
  withoutStyling text ++ "\n"

/-- The lines of a log, if it is wanted. -/
def shownLog (options : Options) (log : List LogRecord) : String :=
  if options.verbose then .join (log.map fun record => record.line ++ "\n") else ""

/-- What is shown of a compiled expression. -/
def shownSource (options : Options) (compiled : CompiledUnit) : String :=
  if options.showSource then echo ("Generated source:\n" ++ compiled.source) else ""

/-- Compiles and runs an expression. -/
def execute (options : Options) (code : String) : Report :=
  let unitName := ({} : NameSupply).next.1
  let log := compileLog code unitName
  match compile code unitName with
  | .error error =>
    { exitCode := 1, stderr := shownLog options log ++ echo error.message }
  | .ok compiled =>
    let (result, files) := (compiled.run (.inPlace options.directory)).run {}
    let log := log ++ runLog options.directory compiled result
    let source := shownSource options compiled
    match result with
    | .error error =>
      { exitCode := 1, stdout := source, stderr := shownLog options log ++ echo error.message,
        files }
    | .ok value =>
      { stdout := source ++ echo ("Result = " ++ floatText value),
        stderr := shownLog options log, files }

/-- What is shown when there is no expression. -/
def usage : String :=
  echo "Usage: tinycompiler \"expression\"" ++ echo "Example: tinycompiler \"(1+2)*3 - 4/2\""

/-- The explanation of the command. -/
def help : String :=
  echo "Usage: tinycompiler [OPTIONS] [EXPRESSION]" ++
    echo "Compile an arithmetic expression into a unit and run it" ++
    echo "  --show-source / --no-show-source  Print the source of the unit" ++
    echo "  -o, --output-dir PATH             Write the unit to this directory" ++
    echo "  -v, --verbose                     Log every stage" ++
    echo "  --help                            Show this message and exit"

/-- Does what a command line asks for. -/
def respond (line : List String) (environment : Option String) : Report :=
  match Request.ofWords line environment with
  | .misuse => { exitCode := 2, stderr := usage }
  | .help => { stdout := help }
  | .execute options =>
    match options.expression with
    | none => { stdout := usage }
    | some code => execute options code

end ExprCompiler.Console
