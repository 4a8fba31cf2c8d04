/-!
# Rounding to double precision

`nearest` turns an exact quotient of natural numbers into the double next to it; of two that are as
near, the one with the even significand. Everything that turns exact numbers into doubles goes
through it: the reading of decimals, the conversion of large integers and their division.

A finite positive double is `m · 2 ^ q` with `m < 2 ^ 53` and `-1074 ≤ q`, and for a given value the
least such `q` is taken. Then its bits, read as a number, are `(q + 1074) · 2 ^ 52 + m`, also when
rounding carries `m` up to `2 ^ 53`, so that no case needs to be split off.
-/

namespace ExprCompiler

/-- A power of two. -/
def powerOfTwo (n : Nat) : Nat := Nat.pow 2 n

/-- A power of ten. -/
def powerOfTen (n : Nat) : Nat := Nat.pow 10 n

/-- The number of bits of a significand after the first. -/
def fractionBits : Nat := 52

/-- The least exponent of a significand. -/
def leastExponent : Int := -1074

/-- The bits of positive infinity, which follow those of the greatest finite double. -/
def infinityBits : Nat := 0x7FF0000000000000

/-- The natural number next to a quotient; of two that are as near, the even one. -/
def roundHalfEven (num den : Nat) : Nat :=
  let floor := num / den
  let twice := 2 * (num % den)
  if den < twice || (den = twice && floor % 2 = 1) then floor + 1 else floor

/-- The exponent of the significand of a positive quotient: the least for which the significand has
no bits before its first, unless that is below all exponents. -/
def significandExponent (num den : Nat) : Int :=
  let guess : Int := (num.log2 : Int) - den.log2 - fractionBits
  let least := den * powerOfTwo fractionBits
  let fits := if guess < 0 then least ≤ num * powerOfTwo (-guess).toNat
    else least * powerOfTwo guess.toNat ≤ num
  max leastExponent (if fits then guess else guess - 1)

/-- The bits of the double next to a quotient whose denominator is positive. -/
def nearestBits (num den : Nat) : Nat :=
  if num = 0 then 0
  else
    let q := significandExponent num den
    let m := if q < 0 then roundHalfEven (num * powerOfTwo (-q).toNat) den
      else roundHalfEven num (den * powerOfTwo q.toNat)
    min infinityBits ((q - leastExponent).toNat * powerOfTwo fractionBits + m)

/-- The double next to a quotient whose denominator is positive; infinity if it is too large. -/
def nearest (num den : Nat) : Float :=
  .ofBits (nearestBits num den).toUInt64

end ExprCompiler
