import ExprCompiler.Compilation.Pipeline
import ExprCompiler.Units.NameSupply

/-!
# Agreement with a reference evaluator

Random expressions are evaluated twice, by the compiler and by a reference evaluator, and the
results are compared. Doubles that differ by at most one part in `10 ^ 9` count as equal. Literals
with leading zeros are no matter of disagreement, since the reference refuses them.
-/

namespace ExprCompiler.Crosscheck

/-- What the reference evaluator makes of an expression. -/
inductive Reference where
  /-- It has a value. -/
  | value (x : Float)
  /-- It cannot be read, for the reason that the message gives. -/
  | unreadable (message : String)
  /-- Its evaluation fails. -/
  | failure

/-- The relative difference up to which doubles count as equal. -/
def tolerance : Float := 1e-9

/-- Whether two doubles differ by little; an infinity is close to itself alone. -/
def isClose (x y : Float) : Bool :=
  if x == y then true
  else if x.isInf || y.isInf then false
  else
    let difference := (y - x).abs
    difference ≤ (tolerance * y).abs || difference ≤ (tolerance * x).abs

/-- Whether a text occurs in another. -/
def occursIn (part : List Char) : List Char → Bool
  | [] => part.isEmpty
  | c :: rest => part.isPrefixOf (c :: rest) || occursIn part rest

/-- Whether a compiled expression's value, or its failure, fits the reference. -/
def fits : Reference → Option Float → Bool
  | .value x, some y => isClose y x || (y.isNaN && x.isNaN)
  | .value _, none => false
  | .unreadable message, some _ => occursIn "leading zeros".toList message.toList
  | .failure, some _ => false
  | .unreadable _, none | .failure, none => true

/-- The supply for the units of such checks. -/
def unitNames : NameSupply := { stem := "FuzzExpr" }

/-- Compiles and runs expressions one after the other, each under a name of its own. -/
def evaluateEach (supply : NameSupply) : List String → List (Except RunError Float)
  | [] => []
  | code :: codes =>
    let (unitName, supply) := supply.next
    ((run .inMemory code unitName).run ()).1 :: evaluateEach supply codes

end ExprCompiler.Crosscheck
