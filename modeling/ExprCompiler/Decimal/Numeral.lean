import ExprCompiler.Decimal.Basic
import ExprCompiler.Text.Blank
import ExprCompiler.Text.Digit

/-!
# Numerals

A numeral is digits with at most one point among or around them, then possibly an exponent: `e` and
an integer. Single underscores may stand between digits. `Decimal.ofNumeral?` reads a numeral in
ASCII digits exactly; `readFloat?` reads the text of a double, which may have blanks around it, a
sign, digits of any script, or be the name of an infinity or of no number.
-/

namespace ExprCompiler

/-- The number that ASCII digits stand for. -/
def digitsValue (digits : List Char) : Nat :=
  digits.foldl (fun value c => 10 * value + (c.toNat - '0'.toNat)) 0

/-- The characters without the underscores between digits; an underscore elsewhere is refused. -/
def dropUnderscores? (chars : List Char) : Option (List Char) :=
  go false chars
where
  /-- The same, where `afterDigit` says that a digit was the last character. -/
  go (afterDigit : Bool) : List Char → Option (List Char)
    | [] => some []
    | c :: rest =>
      if c = '_' then
        if afterDigit && (rest.head?.any Char.isDigit) then go false rest else none
      else (go c.isDigit rest).map (c :: ·)

/-- The integer that digits with or without a sign stand for. -/
def readExponent? (chars : List Char) : Option Int :=
  let magnitude? (digits : List Char) :=
    if !digits.isEmpty && digits.all Char.isDigit then some (digitsValue digits : Int) else none
  match chars with
  | '-' :: digits => (magnitude? digits).map (-·)
  | '+' :: digits => magnitude? digits
  | digits => magnitude? digits

/-- The decimal that a numeral without underscores stands for. -/
def Decimal.ofPlainNumeral? (chars : List Char) : Option Decimal :=
  let whole := chars.takeWhile Char.isDigit
  let afterWhole := chars.dropWhile Char.isDigit
  let (fraction, afterFraction) := match afterWhole with
    | '.' :: rest => (rest.takeWhile Char.isDigit, rest.dropWhile Char.isDigit)
    | rest => ([], rest)
  let exponent? := match afterFraction with
    | [] => some 0
    | c :: rest => if c = 'e' || c = 'E' then readExponent? rest else none
  if whole.isEmpty && fraction.isEmpty then none
  else exponent?.map fun exponent =>
    .normalized (digitsValue (whole ++ fraction)) (exponent - fraction.length)

/-- The decimal that a numeral stands for. -/
def Decimal.ofNumeral? (chars : List Char) : Option Decimal :=
  (dropUnderscores? chars).bind Decimal.ofPlainNumeral?

/-- Blank characters that may surround the text of a double: all but the four separator controls of
ASCII. -/
def isNumeralPadding (c : Char) : Bool :=
  isBlank c && !(0x1C ≤ c.toNat && c.toNat ≤ 0x1F)

/-- A list of characters without padding at either end. -/
def trimPadding (chars : List Char) : List Char :=
  ((chars.dropWhile isNumeralPadding).reverse.dropWhile isNumeralPadding).reverse

/-- A digit of any script as an ASCII digit; every other character as it is. -/
def plainDigit (c : Char) : Char :=
  match decimalDigit? c with
  | some value => Nat.digitChar value
  | none => c

/-- The double that a text without padding and sign stands for. -/
def readMagnitude? (chars : List Char) : Option Float :=
  let word := String.ofList (chars.map Char.toLower)
  if word = "inf" || word = "infinity" then some (.ofBits 0x7FF0000000000000)
  else if word = "nan" then some (.ofBits 0x7FF8000000000000)
  else (Decimal.ofNumeral? chars).map Decimal.toFloat

/-- The double that a text stands for, rounded to nearest. -/
def readFloat? (text : String) : Option Float :=
  match (trimPadding text.toList).map plainDigit with
  | '-' :: chars => (readMagnitude? chars).map (-·)
  | '+' :: chars => readMagnitude? chars
  | chars => readMagnitude? chars

end ExprCompiler
