import ExprCompiler.Decimal.Rounding
import ExprCompiler.Expr.Basic
import ExprCompiler.Text.Clipped

/-!
# Values of the script language

A script computes with doubles and with integers of any size. Integers stay integers under addition,
subtraction and multiplication and turn into doubles under division or when they meet a double. A
truth value counts as the integer one or zero.
-/

namespace ExprCompiler.Script

/-- A value of the script language. -/
inductive Value where
  /-- A double. -/
  | float (value : Float)
  /-- An integer. -/
  | int (value : Int)
  /-- A truth value. -/
  | bool (value : Bool)
  /-- The absent value. -/
  | absent
  /-- The function that the script defines. -/
  | function
  deriving Repr

/-- The name of a value's type. -/
def Value.typeName : Value → String
  | float _ => "float"
  | int _ => "int"
  | bool _ => "bool"
  | absent => "NoneType"
  | function => "function"

/-- What can go wrong while a script runs. -/
inductive Fault where
  /-- A division by zero, where `ofFloats` says whether one of the operands is a double. -/
  | divisionByZero (ofFloats : Bool)
  /-- A name without a value. -/
  | undefinedName (name : String)
  /-- An operation on types that do not admit it. -/
  | unsupportedOperands (op : BinaryOp) (left right : String)
  /-- A sign before a value of a type that does not admit it. -/
  | unsupportedOperand (sign : Char) (operand : String)
  /-- An integer that exceeds every double. -/
  | integerTooLarge
  /-- A quotient of integers that exceeds every double. -/
  | quotientTooLarge
  deriving DecidableEq, Repr

/-- How many bytes of a name are shown. -/
def maxShownBytes : Nat := 200

/-- What is wrong. -/
def Fault.message : Fault → String
  | divisionByZero true => "float division by zero"
  | divisionByZero false => "division by zero"
  | undefinedName name => "name '" ++ clipped maxShownBytes name ++ "' is not defined"
  | unsupportedOperands op left right =>
    "unsupported operand type(s) for " ++ .singleton op.sign ++ ": '" ++ left ++ "' and '" ++
      right ++ "'"
  | unsupportedOperand sign operand =>
    "bad operand type for unary " ++ .singleton sign ++ ": '" ++ operand ++ "'"
  | integerTooLarge => "int too large to convert to float"
  | quotientTooLarge => "integer division result too large for a float"

/-- A number of the script language. -/
inductive Number where
  /-- A double. -/
  | float (value : Float)
  /-- An integer. -/
  | int (value : Int)

/-- The number that a value counts as. -/
def Value.number? : Value → Option Number
  | float x => some (.float x)
  | int n => some (.int n)
  | bool b => some (.int b.toInt)
  | absent | function => none

/-- A double with the sign of an integer result. -/
def withSign (negative : Bool) (x : Float) : Float :=
  if negative then -x else x

/-- The double next to an integer. -/
def floatOfInt (n : Int) : Except Fault Float :=
  let x := nearest n.natAbs 1
  if x.isInf then .error .integerTooLarge else .ok (withSign (n < 0) x)

/-- The double next to the quotient of two integers. -/
def divideInts (m n : Int) : Except Fault Float :=
  if n = 0 then .error (.divisionByZero false)
  else
    let x := nearest m.natAbs n.natAbs
    if x.isInf then .error .quotientTooLarge
    else .ok (withSign (decide (m < 0) != decide (n < 0)) x)

/-- An operation on doubles. A divisor that is zero, of either sign, is a fault. -/
def applyFloats : BinaryOp → Float → Float → Except Fault Value
  | .add, x, y => .ok (.float (x + y))
  | .sub, x, y => .ok (.float (x - y))
  | .mul, x, y => .ok (.float (x * y))
  | .div, x, y =>
    if y == 0.0 then .error (.divisionByZero true) else .ok (.float (x / y))

/-- An operation on integers. -/
def applyInts : BinaryOp → Int → Int → Except Fault Value
  | .add, m, n => .ok (.int (m + n))
  | .sub, m, n => .ok (.int (m - n))
  | .mul, m, n => .ok (.int (m * n))
  | .div, m, n => (divideInts m n).map .float

/-- An operation on values. -/
def Value.apply (op : BinaryOp) (left right : Value) : Except Fault Value :=
  match left.number?, right.number? with
  | some (.float x), some (.float y) => applyFloats op x y
  | some (.float x), some (.int n) => do applyFloats op x (← floatOfInt n)
  | some (.int m), some (.float y) => do applyFloats op (← floatOfInt m) y
  | some (.int m), some (.int n) => applyInts op m n
  | _, _ => .error (.unsupportedOperands op left.typeName right.typeName)

/-- A value under a sign. -/
def Value.signed (negative : Bool) (operand : Value) : Except Fault Value :=
  match operand.number? with
  | some (.float x) => .ok (.float (withSign negative x))
  | some (.int n) => .ok (.int (if negative then -n else n))
  | none => .error (.unsupportedOperand (if negative then '-' else '+') operand.typeName)

end ExprCompiler.Script
