import ExprCompiler.Script.Term

/-!
# Terms in brackets

A term whose operations and signs all stand in brackets needs no rule of precedence: its lexemes are
read as the term again (`Term.ofLexemes?_bracketed`), whatever is unfinished around it
(`Term.foldlM_step_bracketed`).
-/

namespace ExprCompiler.Script

/-- The lexemes of a term with brackets around each operation and each sign. -/
def Term.bracketed : Term → List Lexeme
  | value v => [.value v]
  | name text => [.name text]
  | signed negative operand =>
    .bracketOpen :: .sign (if negative then .sub else .add) :: (operand.bracketed ++ [.bracketClose])
  | binary op left right =>
    .bracketOpen :: (left.bracketed ++ .sign op :: (right.bracketed ++ [.bracketClose]))

/-! ## Closing what is unfinished -/

theorem unwind_bracket (level : Nat) (stack : List Frame) (term : Term) :
    unwind level (.bracket :: stack) term = (.bracket :: stack, term) := by
  simp only [unwind]

theorem unwind_nil (level : Nat) (term : Term) : unwind level [] term = ([], term) := by
  simp only [unwind]

/-- A closing bracket closes the sign after the last opening one. -/
theorem step_bracketClose_sign (stack : List Frame) (negative : Bool) (term : Term) :
    Reading.step (.complete (.sign negative :: .bracket :: stack) term) .bracketClose =
      some (.complete stack (.signed negative term)) := by
  rw [Reading.step, unwind, unwind_bracket]

theorem step_bracketClose_left (stack : List Frame) (op : BinaryOp) (left right : Term) :
    Reading.step (.complete (.left left op :: .bracket :: stack) right) .bracketClose =
      some (.complete stack (.binary op left right)) := by
  rw [Reading.step, unwind, if_pos (Nat.zero_le _), unwind_bracket]

theorem step_sign_bracket (stack : List Frame) (op : BinaryOp) (term : Term) :
    Reading.step (.complete (.bracket :: stack) term) (.sign op) =
      some (.operandDue (.left term op :: .bracket :: stack)) := by
  rw [Reading.step, unwind_bracket]

theorem step_operandDue_sign (stack : List Frame) (negative : Bool) :
    Reading.step (.operandDue stack) (.sign (if negative then .sub else .add)) =
      some (.operandDue (.sign negative :: stack)) := by
  cases negative <;> rfl

/-! ## Reading -/

/-- Where an operand is due, the lexemes of a term complete it, and nothing before them is closed. -/
theorem Term.foldlM_step_bracketed (term : Term) (stack : List Frame) :
    term.bracketed.foldlM Reading.step (.operandDue stack) = some (.complete stack term) := by
  induction term generalizing stack with
  | value v => rfl
  | name text => rfl
  | signed negative operand ih =>
    have hoperand := ih (.sign negative :: .bracket :: stack)
    have hopen : Reading.step (.operandDue stack) .bracketOpen =
        some (.operandDue (.bracket :: stack)) := rfl
    simp only [bracketed, List.foldlM_cons, List.foldlM_append, List.foldlM_nil,
      Option.bind_eq_bind, Option.bind_some, hopen, step_operandDue_sign, hoperand,
      step_bracketClose_sign]
    rfl
  | binary op left right ihleft ihright =>
    have hleft := ihleft (.bracket :: stack)
    have hright := ihright (.left left op :: .bracket :: stack)
    have hopen : Reading.step (.operandDue stack) .bracketOpen =
        some (.operandDue (.bracket :: stack)) := rfl
    simp only [bracketed, List.foldlM_cons, List.foldlM_append, List.foldlM_nil,
      Option.bind_eq_bind, Option.bind_some, hopen, hleft, step_sign_bracket, hright,
      step_bracketClose_left]
    rfl

/-- The lexemes of a term in brackets describe the term. -/
theorem Term.ofLexemes?_bracketed (term : Term) : Term.ofLexemes? term.bracketed = some term := by
  rw [ofLexemes?, foldlM_step_bracketed]
  change Reading.result? (.complete [] term) = some term
  rw [Reading.result?, unwind_nil]

end ExprCompiler.Script
