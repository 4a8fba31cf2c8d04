import Mathlib

/-!
# The zeros among doubles

Two doubles are equal to zero, one of each sign, and no other one is: neither an infinity, nor the
double that is no number, nor the least of the others (`beq_zero_iff`).
-/

namespace ExprCompiler

open Float.Model

/-- A double is known by its bits. -/
theorem float_eq_of_bits {x y : Float} (h : x.toModel.toBits.toBitVec = y.toModel.toBits.toBitVec) :
    x = y := by
  obtain ⟨⟨⟨bits⟩, _⟩⟩ := x
  obtain ⟨⟨⟨bits'⟩, _⟩⟩ := y
  obtain rfl : bits = bits' := h
  rfl

/-- A double is equal to zero if it is a zero of either sign. -/
theorem beq_zero_iff {x : Float} : (x == 0.0) = true ↔ x = 0.0 ∨ x = -0.0 := by
  constructor
  · intro h
    have hbeq : (UnpackedFloat.unpack .binary64 x.toModel.toBits.toBitVec).beq
        (UnpackedFloat.unpack .binary64 (0.0 : Float).toModel.toBits.toBitVec) = true := h
    have hzero : (0.0 : Float).toModel.toBits.toBitVec =
        UnpackedFloat.packedZero .binary64 .positive := by decide
    obtain ⟨-, -, hbits⟩ :=
      (UnpackedFloat.unpack_beq_unpack_iff x.toModel.valid (0.0 : Float).toModel.valid).1 hbeq
    rcases hbits with hsame | ⟨-, hminus⟩ | ⟨hminus, -⟩
    · exact .inl (float_eq_of_bits hsame)
    · rw [hzero] at hminus
      exact absurd hminus (by decide)
    · exact .inr (float_eq_of_bits hminus)
  · rintro (rfl | rfl) <;> decide

end ExprCompiler
