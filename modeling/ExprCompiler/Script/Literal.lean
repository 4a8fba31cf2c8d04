import ExprCompiler.Decimal.Numeral
import ExprCompiler.Script.Value

/-!
# Number literals of the script language

An integer literal is written in decimal digits, or after a zero and a letter in another radix. The
literal of a double has a point or an exponent. Single underscores may stand between digits.
-/

namespace ExprCompiler.Script

/-! ## Values -/

/-- How many decimal digits an integer literal may have. -/
def maxIntegerDigits : Nat := 4300

/-- The integer that decimal digits stand for. A leading zero is allowed in zero only, and so is any
number of digits. -/
def readInteger? (digits : List Char) : Option Int :=
  if digits.all (· = '0') then some 0
  else if digits.head? = some '0' || maxIntegerDigits < digits.length then none
  else some (digitsValue digits)

/-- The value of a digit in a radix up to sixteen. -/
def digitIn? (radix : Nat) (c : Char) : Option Nat :=
  let value :=
    if c.isDigit then c.toNat - '0'.toNat
    else if 'a' ≤ c ∧ c ≤ 'f' then c.toNat - 'a'.toNat + 10
    else if 'A' ≤ c ∧ c ≤ 'F' then c.toNat - 'A'.toNat + 10
    else radix
  if value < radix then some value else none

/-- The integer that `value` becomes when it is continued by digits in a radix. An underscore may
stand before each digit. -/
def continueIn? (radix value : Nat) : List Char → Option Nat
  | [] => some value
  | '_' :: c :: rest => do continueIn? radix (radix * value + (← digitIn? radix c)) rest
  | c :: rest => do continueIn? radix (radix * value + (← digitIn? radix c)) rest

/-- The radix that a letter after a zero stands for. -/
def radixOfLetter? (c : Char) : Option Nat :=
  if c = 'x' || c = 'X' then some 16
  else if c = 'o' || c = 'O' then some 8
  else if c = 'b' || c = 'B' then some 2
  else none

/-- The radix of the literal at the start of a text, if it tells one. -/
def toldRadix? : List Char → Option Nat
  | '0' :: letter :: _ => radixOfLetter? letter
  | _ => none

/-- The value of a number literal: a double if it has a point or an exponent, else an integer. -/
def readNumber? (literal : List Char) : Option Value :=
  match toldRadix? literal, literal.drop 2 with
  | some _, [] => none
  | some radix, digits => do return .int (← continueIn? radix 0 digits)
  | none, _ => do
    let plain ← dropUnderscores? literal
    if plain.all Char.isDigit then return .int (← readInteger? plain)
    else return .float (← Decimal.ofPlainNumeral? plain).toFloat

/-! ## Extents -/

/-- The characters of the number literal at the start of a text, and what follows it. The literal
takes everything that could belong to a number. If it `hasExponent`, it also takes a sign that comes
`afterLetter`, right after the letter of the exponent. -/
def spanNumber (hasExponent afterLetter : Bool) : List Char → List Char × List Char
  | [] => ([], [])
  | c :: rest =>
    if c.isAlphanum || c = '_' || c = '.' || (afterLetter && (c = '+' || c = '-')) then
      let (literal, after) := spanNumber hasExponent (hasExponent && (c = 'e' || c = 'E')) rest
      (c :: literal, after)
    else ([], c :: rest)

/-- What follows the number literal at the start of a text is no longer than the text. -/
theorem length_spanNumber_le (hasExponent afterLetter : Bool) (chars : List Char) :
    (spanNumber hasExponent afterLetter chars).2.length ≤ chars.length := by
  fun_induction spanNumber hasExponent afterLetter chars with
  | case1 => simp
  | case2 afterLetter c rest _ literal after hspan ih =>
    simp only [hspan, List.length_cons] at ih ⊢
    omega
  | case3 => simp

/-- The number literal at the start of a text, and what follows it. In another radix the letters of
exponents are digits or nothing. -/
def spanLiteral (chars : List Char) : List Char × List Char :=
  spanNumber (toldRadix? chars).isNone false chars

/-- What follows a number literal that is not empty is shorter than the text. -/
theorem length_spanLiteral_lt {c : Char} {rest : List Char} (h : c.isDigit = true ∨ c = '.') :
    (spanLiteral (c :: rest)).2.length < rest.length + 1 := by
  have hpart : (c.isAlphanum || c = '_' || c = '.') = true := by
    rcases h with h | h <;> simp [Char.isAlphanum, h]
  have hle := length_spanNumber_le (toldRadix? (c :: rest)).isNone
    ((toldRadix? (c :: rest)).isNone && (c = 'e' || c = 'E')) rest
  simp only [spanLiteral, spanNumber, hpart, Bool.true_or, if_true]
  omega

end ExprCompiler.Script
