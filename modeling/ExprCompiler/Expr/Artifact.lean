import ExprCompiler.Expr.Basic

/-!
# The artifact of an expression

An expression is compiled to the text of a term of the script language: every operation stands in
brackets of its own, so no rule of precedence is needed to read it, and every literal has a point, so
that it is read as a double.
-/

namespace ExprCompiler

/-- Why nothing can be emitted. -/
inductive ArtifactError where
  /-- A tree holds a value where an expression is due. -/
  | unexpectedNode (value : RawValue)
  /-- A unit's name is no identifier. -/
  | invalidUnitName (name : String)
  deriving DecidableEq, Repr

namespace ArtifactError

/-- What is wrong. -/
def reason : ArtifactError → String
  | unexpectedNode value => "Unexpected expression type: " ++ value.describe
  | invalidUnitName name => "Unit name must be a valid identifier, got " ++ quoted name

/-- The report of the error. -/
def message (error : ArtifactError) : String :=
  "[Emitter error] " ++ error.reason

end ArtifactError

/-- The artifact of a literal: its text, with a point and a zero after it if it has no point. -/
def literalArtifact (text : String) : String :=
  if text.toList.contains '.' then text else text ++ ".0"

namespace Expr

/-- The artifact of an expression. -/
def artifact : Expr → Except ArtifactError String
  | number text => .ok (literalArtifact text)
  | binary op left right => do
    let left ← left.artifact
    let right ← right.artifact
    return "(" ++ left ++ .singleton op.sign ++ right ++ ")"
  | raw value => .error (.unexpectedNode value)

end Expr

end ExprCompiler
