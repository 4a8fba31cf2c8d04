import ExprCompiler.Decimal.Rounding

/-!
# Decimal numbers

A decimal is a natural number times a power of ten. Many decimals have one value; `normalized` picks
the one whose significand ends in no zero, so that two texts of one number, such as `7` and `7.0`,
come to the same decimal.
-/

namespace ExprCompiler

/-- The number `significand · 10 ^ exponent`. -/
structure Decimal where
  /-- The digits, as one natural number. -/
  significand : Nat
  /-- The power of ten they are multiplied by. -/
  exponent : Int
  deriving DecidableEq, Repr

namespace Decimal

/-- The decimal of the same value whose significand does not end in a zero; zero has exponent
zero. -/
def normalized (significand : Nat) (exponent : Int) : Decimal :=
  if _hpos : significand = 0 then { significand := 0, exponent := 0 }
  else if significand % 10 = 0 then normalized (significand / 10) (exponent + 1)
  else { significand, exponent }
termination_by significand
decreasing_by omega

/-- A zero more in the significand and one less in the exponent make no difference. -/
theorem normalized_mul_ten (significand : Nat) (exponent : Int) :
    normalized (significand * 10) (exponent - 1) = normalized significand exponent := by
  by_cases h : significand = 0
  · subst h
    simp [normalized]
  · rw [normalized, dif_neg (by omega), if_pos (by omega)]
    congr 1
    · omega
    · omega

/-- The digits of a natural number. -/
def digits (n : Nat) : List Char :=
  Nat.toDigits 10 n

/-- A power of ten that exceeds every double, and whose inverse is less than half of the least
positive one. -/
def extremeExponent : Nat := 400

/-- The double next to a decimal; infinity if it is too large. Powers of ten that are far out of
range are not computed. -/
def toFloat (d : Decimal) : Float :=
  if d.significand = 0 then 0
  else if (extremeExponent : Int) < d.exponent then nearest (powerOfTen extremeExponent) 1
  else if d.exponent < -((extremeExponent + (digits d.significand).length : Nat) : Int) then 0
  else if d.exponent < 0 then nearest d.significand (powerOfTen (-d.exponent).toNat)
  else nearest (d.significand * powerOfTen d.exponent.toNat) 1

end Decimal

end ExprCompiler
