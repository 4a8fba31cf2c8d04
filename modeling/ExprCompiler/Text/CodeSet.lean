/-!
# Sets of code points

A property of characters is a set of code points, and the sets that matter for text are unions of a
few hundred ranges. Such a set is kept as the ascending list of the points at which membership
changes, so a look-up walks the list once and flips its answer at each bound it passes.
-/

namespace ExprCompiler

/-- A set of code points, described by the points at which membership changes. -/
structure CodeSet where
  /-- The first point inside, the first point outside again, and so on, in ascending order. -/
  bounds : List Nat

namespace CodeSet

/-- Membership of `point` once all bounds before `bounds` are passed, where `inside` says whether
the last of them opened a range. -/
def contains (point : Nat) (inside : Bool) : List Nat → Bool
  | [] => inside
  | bound :: bounds => if point < bound then inside else contains point (!inside) bounds

/-- Whether a character belongs to the set. -/
def has (set : CodeSet) (c : Char) : Bool :=
  contains c.toNat false set.bounds

end CodeSet

end ExprCompiler
