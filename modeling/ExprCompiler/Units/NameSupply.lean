/-!
# Names for units

A supply hands out names that differ from one another: a stem that all have in common, and a counter
that starts at one.
-/

namespace ExprCompiler

/-- A source of names. -/
structure NameSupply where
  /-- What all names start with. -/
  stem : String := "CompiledExpr"
  /-- How many names were taken. -/
  taken : Nat := 0
  deriving DecidableEq, Repr

namespace NameSupply

/-- The name with a given number. -/
def nameAt (supply : NameSupply) (number : Nat) : String :=
  supply.stem ++ toString number

/-- Takes the next name. -/
def next (supply : NameSupply) : String × NameSupply :=
  (supply.nameAt (supply.taken + 1), { supply with taken := supply.taken + 1 })

end NameSupply

end ExprCompiler
