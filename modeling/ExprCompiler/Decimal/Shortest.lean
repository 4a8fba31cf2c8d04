import ExprCompiler.Decimal.Basic

/-!
# The shortest decimal of a double

Among the decimals that `nearest` rounds to a given double there are some with the fewest digits,
and of these one is next to the double. To find it, grids of decimals `c · 10 ^ t` are tried from
coarse to fine: on each only the two neighbours of the double can be it.

The values that round to `m · 2 ^ q` form an interval. It reaches half a unit `2 ^ q` to both sides,
but only a quarter below a power of two, where the doubles are twice as dense; its ends belong to it
if `m` is even. Distances are counted in quarters of the unit.
-/

namespace ExprCompiler

/-- What the bits of a double say. -/
inductive FloatShape where
  /-- Not a number. -/
  | nan
  /-- An infinity. -/
  | infinite (negative : Bool)
  /-- The number `m · 2 ^ q`, or its opposite. -/
  | finite (negative : Bool) (m : Nat) (q : Int)
  deriving DecidableEq, Repr

/-- The shape of a double. -/
def FloatShape.of (x : Float) : FloatShape :=
  let bits := x.toBits.toNat
  let negative := decide (bits / powerOfTwo 63 = 1)
  let biased := bits / powerOfTwo fractionBits % powerOfTwo 11
  let fraction := bits % powerOfTwo fractionBits
  if biased = 2047 then
    if fraction = 0 then .infinite negative else .nan
  else if biased = 0 then .finite negative fraction leastExponent
  else .finite negative (powerOfTwo fractionBits + fraction) (leastExponent + (biased - 1 : Nat))

/-- The values that round to a positive double, in quarters of the unit of its significand. -/
structure RoundingInterval where
  /-- The lower end. -/
  lower : Nat
  /-- The double itself. -/
  middle : Nat
  /-- The upper end. -/
  upper : Nat
  /-- Whether the ends round to the double too. -/
  closed : Bool
  /-- The exponent of a quarter of the unit. -/
  exponent : Int
  deriving Repr

/-- The interval of `m · 2 ^ q`. -/
def RoundingInterval.of (m : Nat) (q : Int) : RoundingInterval :=
  let below := if m = powerOfTwo fractionBits ∧ leastExponent < q then 1 else 2
  { lower := 4 * m - below, middle := 4 * m, upper := 4 * m + 2, closed := m % 2 = 0,
    exponent := q - 2 }

namespace RoundingInterval

/-- The decimal next to the double on the grid of multiples of `10 ^ t`, if it rounds to the double;
of two that are as near, the even one. -/
def onGrid? (i : RoundingInterval) (t : Int) : Option Nat :=
  let scale := powerOfTwo i.exponent.toNat * powerOfTen (-t).toNat
  let step := powerOfTwo (-i.exponent).toNat * powerOfTen t.toNat
  let inside (c : Nat) : Bool :=
    if i.closed then i.lower * scale ≤ c * step && c * step ≤ i.upper * scale
    else i.lower * scale < c * step && c * step < i.upper * scale
  let low := i.middle * scale / step
  let high := low + 1
  let lowDistance := i.middle * scale - low * step
  let highDistance := high * step - i.middle * scale
  if inside low && (!inside high || lowDistance < highDistance ||
      (lowDistance = highDistance && low % 2 = 0)) then some low
  else if inside high then some high
  else none

/-- The first decimal found on the grids from `10 ^ t` down, of which at most `tries` are tried. -/
def search (i : RoundingInterval) : Nat → Int → Decimal
  | 0, t => { significand := 0, exponent := t }
  | tries + 1, t =>
    match i.onGrid? t with
    | some c => .normalized c t
    | none => i.search tries (t - 1)

/-- The exponent of a grid all of whose positive points exceed the double. -/
def coarsest (i : RoundingInterval) : Int :=
  let num := i.middle * powerOfTwo i.exponent.toNat
  let den := powerOfTwo (-i.exponent).toNat
  if den ≤ num then (Decimal.digits (num / den)).length
  else 1 - ((Decimal.digits (den / num)).length : Int)

end RoundingInterval

/-- The decimal with the fewest digits that rounds to `m · 2 ^ q`, and of those the nearest. Among
decimals of 17 digits there always is one, so twenty grids are enough. -/
def shortestDecimal (m : Nat) (q : Int) : Decimal :=
  if m = 0 then { significand := 0, exponent := 0 }
  else
    let interval := RoundingInterval.of m q
    interval.search 20 interval.coarsest

end ExprCompiler
