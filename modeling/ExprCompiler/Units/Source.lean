import ExprCompiler.Expr.Artifact
import ExprCompiler.Script.Program

/-!
# The source of a unit

A compiled expression is kept as a unit: a script of its own whose function returns the value of the
artifact. The unit's name stands in the first line of the script.
-/

namespace ExprCompiler

/-- The text before a unit's name. -/
def sourceOpening : String := "\"\"\"Generated by tinycompiler as unit "

/-- The text between a unit's name and its artifact. -/
def sourceMiddle : String := "\"\"\"\n\n\ndef call() -> float:\n    return "

/-- The source of a unit, whose name has to be an identifier. -/
def unitSource (name artifact : String) : Except ArtifactError String :=
  if isIdentifier name then .ok (sourceOpening ++ name ++ sourceMiddle ++ artifact ++ "\n")
  else .error (.invalidUnitName name)

/-- The source of a unit for an expression. -/
def Expr.unitSource (name : String) (expr : Expr) : Except ArtifactError String := do
  let artifact ← expr.artifact
  ExprCompiler.unitSource name artifact

/-- Why a source cannot be loaded. -/
inductive LoadError where
  /-- It holds a NUL character. -/
  | containsNul
  /-- It is no script. -/
  | malformed
  /-- It holds a term that is too deep. -/
  | tooDeep
  /-- One of its statements fails. -/
  | failed (fault : Script.Fault)
  deriving DecidableEq, Repr

/-- What is wrong. The texts for a source that is no script and for a term that is too deep are
simplified: each stands for a report that tells more closely what is wrong, and where in which file. -/
def LoadError.message : LoadError → String
  | containsNul => "source code string cannot contain null bytes"
  | malformed => "invalid syntax"
  | tooDeep => "maximum recursion depth exceeded during compilation"
  | failed fault => fault.message

/-- Loads the source of a unit. -/
def loadSource (source : String) : Except LoadError Script.Loaded :=
  if source.toList.contains '\x00' then .error .containsNul
  else
    match Script.Program.ofText? (Script.unifyNewlines source.toList) with
    | none => .error .malformed
    | some program =>
      if program.isShallow then program.load.mapError .failed else .error .tooDeep

end ExprCompiler
