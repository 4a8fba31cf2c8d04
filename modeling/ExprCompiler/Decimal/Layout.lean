import ExprCompiler.Decimal.Shortest

/-!
# How doubles are written

A double is written as its shortest decimal. A `DecimalLayout` says which decimals are written with
all their places and which with an exponent; `floatLayout` is the one that this program uses.
-/

namespace ExprCompiler

/-- The choices in writing a decimal. -/
structure DecimalLayout where
  /-- The least exponent of the first digit for which all places are written. -/
  leastPositional : Int
  /-- The greatest exponent of the first digit for which all places are written. -/
  greatestPositional : Int
  /-- The least number of digits of a written exponent. -/
  exponentWidth : Nat
  deriving Repr

/-- Doubles from `0.0001` up to `10 ^ 16` have all their places written, others an exponent of at
least two digits. -/
def floatLayout : DecimalLayout :=
  { leastPositional := -4, greatestPositional := 15, exponentWidth := 2 }

namespace DecimalLayout

/-- Digits with the point after the first `places` of them, and a zero where nothing else would
stand at one of its sides. -/
def positional (digits : List Char) (places : Int) : List Char :=
  if places ≤ 0 then '0' :: '.' :: List.replicate (-places).toNat '0' ++ digits
  else if digits.length ≤ places then
    digits ++ List.replicate (places.toNat - digits.length) '0' ++ ['.', '0']
  else digits.take places.toNat ++ '.' :: digits.drop places.toNat

/-- Digits with the point after the first of them, and an exponent with its sign. -/
def exponential (layout : DecimalLayout) (digits : List Char) (exponent : Int) : List Char :=
  let mantissa := match digits with
    | first :: second :: rest => first :: '.' :: second :: rest
    | short => short
  let sign := if exponent < 0 then '-' else '+'
  let magnitude := Decimal.digits exponent.natAbs
  let padding := List.replicate (layout.exponentWidth - magnitude.length) '0'
  mantissa ++ 'e' :: sign :: padding ++ magnitude

/-- The text of a decimal. -/
def write (layout : DecimalLayout) (d : Decimal) : List Char :=
  let digits := Decimal.digits d.significand
  let exponent := d.exponent + digits.length - 1
  if layout.leastPositional ≤ exponent ∧ exponent ≤ layout.greatestPositional then
    positional digits (exponent + 1)
  else layout.exponential digits exponent

end DecimalLayout

example : floatLayout.write { significand := 1, exponent := 15 } = "1000000000000000.0".toList := by
  decide

example : floatLayout.write { significand := 1, exponent := 16 } = "1e+16".toList := by decide

example : floatLayout.write { significand := 15, exponent := -5 } = "0.00015".toList := by decide

example : floatLayout.write { significand := 15, exponent := -6 } = "1.5e-05".toList := by decide

/-- The text of a double: its shortest decimal after its sign, or its name. -/
def floatText (x : Float) : String :=
  match FloatShape.of x with
  | .nan => "nan"
  | .infinite negative => if negative then "-inf" else "inf"
  | .finite negative m q =>
    let magnitude := floatLayout.write (shortestDecimal m q)
    .ofList (if negative then '-' :: magnitude else magnitude)

end ExprCompiler
