import ExprCompiler.Console.Command

/-!
# The program

The outermost layer: takes the command line and the environment, writes the files and the texts of
the report, and ends with its exit code.
-/

/-- Runs the command. -/
def main (words : List String) : IO UInt32 := do
  let report := ExprCompiler.Console.respond words (← IO.getEnv "TINYCOMPILER_OUTPUT_DIR")
  for (path, text) in report.files.entries do
    IO.FS.createDirAll path.parent.text
    IO.FS.writeFile path.text text
  IO.print report.stdout
  IO.eprint report.stderr
  return report.exitCode.toUInt32
