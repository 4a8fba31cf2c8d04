import ExprCompiler.Text.Quoted

/-!
# Expressions

The tree of an arithmetic expression. A literal keeps the text it was written with, so that nothing
is rounded before the expression is evaluated. Brackets leave no trace.

A tree that was put together by hand may hold a `RawValue` where an expression is due. No text reads
as such a tree; the stages that walk a tree refuse it.
-/

namespace ExprCompiler

/-- The operations. -/
inductive BinaryOp where
  /-- Addition. -/
  | add
  /-- Subtraction. -/
  | sub
  /-- Multiplication. -/
  | mul
  /-- Division. -/
  | div
  deriving DecidableEq, Repr

namespace BinaryOp

/-- The name of an operation in the description of a tree. -/
def name : BinaryOp → String
  | add => "ADD"
  | sub => "SUB"
  | mul => "MUL"
  | div => "DIV"

/-- The sign of an operation. -/
def sign : BinaryOp → Char
  | add => '+'
  | sub => '-'
  | mul => '*'
  | div => '/'

/-- All operations, in the order in which they are declared. -/
def all : List BinaryOp := [add, sub, mul, div]

/-- The operation with a given name. -/
def ofName? (name : String) : Option BinaryOp :=
  all.find? (·.name == name)

end BinaryOp

/-- A value that is no expression. -/
inductive RawValue where
  /-- The absent value. -/
  | absent
  /-- A truth value. -/
  | bool (value : Bool)
  /-- An integer. -/
  | int (value : Int)
  /-- A text. -/
  | text (value : String)
  deriving DecidableEq, Repr

/-- A value as messages show it. -/
def RawValue.describe : RawValue → String
  | absent => "None"
  | bool true => "True"
  | bool false => "False"
  | int value => toString value
  | text value => quoted value

/-- An arithmetic expression. -/
inductive Expr where
  /-- A number literal, as it was written. -/
  | number (text : String)
  /-- An operation on two operands. -/
  | binary (op : BinaryOp) (left right : Expr)
  /-- A value where an expression is due. -/
  | raw (value : RawValue)
  deriving DecidableEq, Repr

namespace Expr

/-- The greatest number of operations between the root and a leaf. -/
def depth : Expr → Nat
  | number _ => 0
  | binary _ left right => max left.depth right.depth + 1
  | raw _ => 0

/-- The tree spelled out, node by node. -/
def describe : Expr → String
  | number text => "NumberLiteral(text=" ++ quoted text ++ ")"
  | binary op left right =>
    "BinaryOperation(operator=" ++ op.name ++ ", left=" ++ left.describe ++
      ", right=" ++ right.describe ++ ")"
  | raw value => value.describe

end Expr

end ExprCompiler
