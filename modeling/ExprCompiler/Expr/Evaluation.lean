import ExprCompiler.Decimal.Numeral
import ExprCompiler.Expr.Basic

/-!
# The value of an expression

The value of an expression is found by walking its tree, without any text in between. Operands are
evaluated from left to right, and the first node that fails decides the error.
-/

namespace ExprCompiler

/-- Why an expression has no value. -/
inductive EvalError where
  /-- A literal's text is no number. -/
  | unreadableNumber (text : String)
  /-- A tree holds a value where an expression is due. -/
  | unexpectedNode (value : RawValue)
  /-- The right operand of a division is zero. -/
  | divisionByZero
  deriving DecidableEq, Repr

/-- The report of the error. -/
def EvalError.message : EvalError → String
  | unreadableNumber text => "could not convert string to float: " ++ quoted text
  | unexpectedNode value => "[Execution error] Unexpected expression type: " ++ value.describe
  | divisionByZero => "[Execution error] Division failed: float division by zero"

/-- The result of an operation on doubles; a division by zero, of either sign, has none. -/
def BinaryOp.onFloats? : BinaryOp → Float → Float → Option Float
  | add, x, y => some (x + y)
  | sub, x, y => some (x - y)
  | mul, x, y => some (x * y)
  | div, x, y => if y == 0.0 then none else some (x / y)

namespace Expr

/-- The value of an expression. -/
def evaluate : Expr → Except EvalError Float
  | number text =>
    match readFloat? text with
    | some value => .ok value
    | none => .error (.unreadableNumber text)
  | binary op left right => do
    let x ← left.evaluate
    let y ← right.evaluate
    match op.onFloats? x y with
    | some value => .ok value
    | none => .error .divisionByZero
  | raw value => .error (.unexpectedNode value)

end Expr

end ExprCompiler
