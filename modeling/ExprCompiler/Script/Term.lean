import ExprCompiler.Script.Lexeme

/-!
# Terms of the script language

A term is read from left to right with a stack of what is still unfinished: open brackets, signs and
operations whose right operand is to come. An operation closes those before it that bind at least as
tightly; a sign binds tighter than every operation.
-/

namespace ExprCompiler.Script

/-- A term of the script language. -/
inductive Term where
  /-- A value. -/
  | value (value : Value)
  /-- The value of a name. -/
  | name (text : String)
  /-- A term under a sign. -/
  | signed (negative : Bool) (operand : Term)
  /-- An operation on two terms. -/
  | binary (op : BinaryOp) (left right : Term)
  deriving Repr

/-- How many terms lie within each other, from a term down to a value or a name. -/
def Term.depth : Term → Nat
  | value _ | name _ => 1
  | signed _ operand => operand.depth + 1
  | binary _ left right => max left.depth right.depth + 1

/-- The values of names, the latest first. -/
abbrev Globals := List (String × Value)

/-- The names that have a value before anything is defined. -/
def standingNames : Globals :=
  [("None", .absent), ("True", .bool true), ("False", .bool false)]

/-- The value of a name that was given one. -/
def Globals.findGiven (globals : Globals) (name : String) : Except Fault Value :=
  match globals.lookup name with
  | some value => .ok value
  | none => .error (.undefinedName name)

/-- The value of a name. -/
def Globals.find (globals : Globals) (name : String) : Except Fault Value :=
  Globals.findGiven (globals ++ standingNames) name

/-- The value of a term. Operands are evaluated from left to right. -/
def Term.evaluate (globals : Globals) : Term → Except Fault Value
  | value v => .ok v
  | name text => globals.find text
  | signed negative operand => do
    let operand ← operand.evaluate globals
    operand.signed negative
  | binary op left right => do
    let left ← left.evaluate globals
    let right ← right.evaluate globals
    left.apply op right

/-! ## Reading -/

/-- How tightly an operation binds. -/
def binding : BinaryOp → Nat
  | .add | .sub => 1
  | .mul | .div => 2

/-- Something unfinished before the place where a reader stands. -/
inductive Frame where
  /-- An open bracket. -/
  | bracket
  /-- A sign. -/
  | sign (negative : Bool)
  /-- An operation without its right operand. -/
  | left (operand : Term) (op : BinaryOp)
  deriving Repr

/-- The state of a reader of a term. -/
inductive Reading where
  /-- An operand is due. -/
  | operandDue (stack : List Frame)
  /-- An operand is complete. -/
  | complete (stack : List Frame) (term : Term)
  deriving Repr

/-- Closes the signs and operations on top of a stack that bind at least as tightly as `level`. -/
def unwind (level : Nat) : List Frame → Term → List Frame × Term
  | .sign negative :: stack, term => unwind level stack (.signed negative term)
  | .left operand op :: stack, term =>
    if level ≤ binding op then unwind level stack (.binary op operand term)
    else (.left operand op :: stack, term)
  | stack, term => (stack, term)

/-- One step of a reader. -/
def Reading.step : Reading → Lexeme → Option Reading
  | operandDue stack, .value v => some (complete stack (.value v))
  | operandDue stack, .name text => some (complete stack (.name text))
  | operandDue stack, .sign .add => some (operandDue (.sign false :: stack))
  | operandDue stack, .sign .sub => some (operandDue (.sign true :: stack))
  | operandDue stack, .bracketOpen => some (operandDue (.bracket :: stack))
  | complete stack term, .sign op =>
    let (stack, term) := unwind (binding op) stack term
    some (operandDue (.left term op :: stack))
  | complete stack term, .bracketClose =>
    match unwind 0 stack term with
    | (.bracket :: stack, term) => some (complete stack term)
    | _ => none
  | _, _ => none

/-- The term that a reader has read, if nothing is unfinished. -/
def Reading.result? : Reading → Option Term
  | operandDue _ => none
  | complete stack term =>
    match unwind 0 stack term with
    | ([], term) => some term
    | _ => none

/-- The term that lexemes describe. -/
def Term.ofLexemes? (lexemes : List Lexeme) : Option Term := do
  let reading ← lexemes.foldlM Reading.step (.operandDue [])
  reading.result?

end ExprCompiler.Script
