import ExprCompiler.Expr.Evaluation
import ExprCompiler.Proofs.Script.BracketedTerm
import ExprCompiler.Proofs.Script.NumberText

/-!
# The term of an artifact

In a script, the artifact of a readable expression is cut into the lexemes of a term in brackets
(`Expr.IsReadable.exists_term`). The term holds the doubles of the literals where the expression
holds their texts, so it is evaluated to the same double, or both divide by zero
(`Expr.HasTerm.evaluate_cases`).
-/

namespace ExprCompiler

/-- `HasTerm tree term`: the term is the tree with the double of each literal. -/
inductive Expr.HasTerm : Expr → Script.Term → Prop where
  /-- The term of a literal is its double. -/
  | number {text : String} {x : Float} (hvalue : readFloat? text = some x) :
      HasTerm (.number text) (.value (.float x))
  /-- The term of an operation is the operation on the terms of its operands. -/
  | binary {op : BinaryOp} {left right : Expr} {leftTerm rightTerm : Script.Term}
      (hleft : HasTerm left leftTerm) (hright : HasTerm right rightTerm) :
      HasTerm (.binary op left right) (.binary op leftTerm rightTerm)

/-! ## Values -/

/-- A script operates on doubles as the evaluation of an expression does. -/
theorem Script.applyFloats_eq (op : BinaryOp) (x y : Float) :
    applyFloats op x y =
      match op.onFloats? x y with
      | some z => .ok (.float z)
      | none => .error (.divisionByZero true) := by
  cases op with
  | div =>
    rw [applyFloats, BinaryOp.onFloats?]
    split <;> rfl
  | _ => rfl

namespace Expr.HasTerm

variable {tree : Expr} {term : Script.Term}

theorem depth_eq (h : tree.HasTerm term) : term.depth = tree.depth + 1 := by
  induction h with
  | number _ => rfl
  | binary _ _ ihleft ihright =>
    rw [Script.Term.depth, Expr.depth, ihleft, ihright, Nat.add_max_add_right]

/-- A tree and its term have the same double, or a division by zero comes first in both. -/
theorem evaluate_cases (h : tree.HasTerm term) (globals : Script.Globals) :
    (∃ x, tree.evaluate = .ok x ∧ term.evaluate globals = .ok (.float x)) ∨
      (tree.evaluate = .error .divisionByZero ∧
        term.evaluate globals = .error (.divisionByZero true)) := by
  induction h with
  | number hvalue =>
    refine .inl ⟨_, ?_, rfl⟩
    simp only [Expr.evaluate, hvalue]
  | @binary op left right leftTerm rightTerm _ _ ihleft ihright =>
    rcases ihleft with ⟨x, hx, hx'⟩ | ⟨hx, hx'⟩
    · rcases ihright with ⟨y, hy, hy'⟩ | ⟨hy, hy'⟩
      · have hterm : (Script.Term.binary op leftTerm rightTerm).evaluate globals =
            Script.applyFloats op x y := by
          simp only [Script.Term.evaluate, hx', hy', bind, Except.bind, Script.Value.apply,
            Script.Value.number?]
        rw [hterm, Script.applyFloats_eq]
        simp only [Expr.evaluate, hx, hy, bind, Except.bind]
        cases op.onFloats? x y with
        | some z => exact .inl ⟨z, rfl, rfl⟩
        | none => exact .inr ⟨rfl, rfl⟩
      · refine .inr ⟨?_, ?_⟩
        · simp only [Expr.evaluate, hx, hy, bind, Except.bind]
        · simp only [Script.Term.evaluate, hx', hy', bind, Except.bind]
    · refine .inr ⟨?_, ?_⟩
      · simp only [Expr.evaluate, hx, bind, Except.bind]
      · simp only [Script.Term.evaluate, hx', bind, Except.bind]

end Expr.HasTerm

/-! ## Lexemes -/

namespace Script

/-- A text that does not go on with what may stand in a number of a script. -/
def EndsLiteral (chars : List Char) : Prop :=
  ∀ c, chars.head? = some c → (c.isAlphanum || c = '_' || c = '.') = false

theorem endsLiteral_cons {c : Char} {rest : List Char}
    (h : (c.isAlphanum || c = '_' || c = '.') = false) : EndsLiteral (c :: rest) := by
  intro d hd
  obtain rfl := Option.some.inj hd
  exact h

theorem spanNumber_run (hasExponent : Bool) {run rest : List Char}
    (hrun : ∀ c ∈ run, isInNumber c = true) (hends : EndsLiteral rest) :
    spanNumber hasExponent false (run ++ rest) = (run, rest) := by
  induction run with
  | nil =>
    cases rest with
    | nil => rfl
    | cons c rest =>
      have hc := hends c rfl
      simp [spanNumber, hc]
  | cons c run ih =>
    have hc := hrun c List.mem_cons_self
    have hpart : (c.isAlphanum || c = '_' || c = '.') = true := by
      rcases isInNumber_iff.1 hc with hdigit | rfl
      · simp [Char.isAlphanum, hdigit]
      · decide
    obtain ⟨-, -, -, he, hE⟩ := ne_of_isInNumber hc
    have hletter : (hasExponent && (c = 'e' || c = 'E')) = false := by simp [he, hE]
    have hrest := ih fun d hd => hrun d (List.mem_cons_of_mem c hd)
    simp only [List.cons_append, spanNumber, hpart, hletter, hrest, Bool.true_or, if_true]

variable {nesting : Nat} {rest : List Char}

theorem lexemes?_bracketOpen (h : nesting < maxNesting) :
    lexemes? nesting ('(' :: rest) = (lexemes? (nesting + 1) rest).map (.bracketOpen :: ·) := by
  rw [lexemes?, if_neg (by decide), if_neg (by decide), if_pos rfl, if_pos h]

theorem lexemes?_bracketClose :
    lexemes? (nesting + 1) (')' :: rest) = (lexemes? nesting rest).map (.bracketClose :: ·) := by
  rw [lexemes?, if_neg (by decide), if_neg (by decide), if_neg (by decide), if_pos rfl,
    if_pos (Nat.succ_pos nesting)]
  rfl

theorem lexemes?_sign (op : BinaryOp) :
    lexemes? nesting (op.sign :: rest) = (lexemes? nesting rest).map (.sign op :: ·) := by
  rw [lexemes?]
  cases op <;> rfl

theorem lexemes?_newline : lexemes? 0 ['\n'] = some [.newline] := by
  rw [lexemes?, if_neg (by decide), if_pos rfl, if_pos rfl, lexemes?]
  rfl

/-- A run of digits and points is one lexeme, if it can be read as a number. -/
theorem lexemes?_number {first : Char} {run : List Char} {value : Value}
    (hfirst : first.isDigit = true) (hrun : ∀ c ∈ run, isInNumber c = true)
    (hends : EndsLiteral rest) (hvalue : readNumber? (first :: run) = some value) :
    lexemes? nesting (first :: (run ++ rest)) =
      (lexemes? nesting rest).map (.value value :: ·) := by
  have hnumber : ∀ c ∈ first :: run, isInNumber c = true :=
    List.forall_mem_cons.2 ⟨isInNumber_iff.2 (.inl hfirst), hrun⟩
  have hspan : spanLiteral (first :: (run ++ rest)) = (first :: run, rest) :=
    spanNumber_run _ hnumber hends
  have hall : ∀ n : Fin 10, isSeparator (Char.ofNat (48 + n)) = false ∧
      Char.ofNat (48 + n) ∉ ['\n', '(', ')', '+', '-', '*', '/', '='] := by decide
  obtain ⟨n, rfl⟩ := exists_of_isDigit hfirst
  obtain ⟨hseparator, hsigns⟩ := hall n
  simp only [List.mem_cons, not_or] at hsigns
  obtain ⟨hnewline, hopen, hclose, hadd, hsub, hmul, hdiv, hassign, -⟩ := hsigns
  rw [lexemes?, if_neg (by simp [hseparator]), if_neg hnewline, if_neg hopen, if_neg hclose,
    if_neg hadd, if_neg hsub, if_neg hmul, if_neg hdiv, if_neg hassign, dif_pos (.inl hfirst), hspan,
    hvalue]
  cases lexemes? nesting rest <;> rfl

theorem endsLiteral_sign (op : BinaryOp) (rest : List Char) : EndsLiteral (op.sign :: rest) := by
  cases op <;> exact endsLiteral_cons (by decide)

end Script

/-- In a script, the artifact of a readable expression is cut into the lexemes of its term, where no
number goes on behind it and the limit on brackets is kept. -/
theorem Expr.IsReadable.exists_term {tree : Expr} (h : tree.IsReadable) :
    ∃ term, tree.HasTerm term ∧ ∀ {nesting : Nat} {rest : List Char} {others : List Script.Lexeme},
      nesting + tree.depth ≤ Script.maxNesting → Script.EndsLiteral rest →
      Script.lexemes? nesting rest = some others →
      Script.lexemes? nesting (tree.spelled ++ rest) = some (term.bracketed ++ others) := by
  induction tree with
  | number text =>
    obtain ⟨x, hx, hvalue⟩ := IsNumberText.exists_float h
    obtain ⟨first, run, htext, hfirst, hrun⟩ := (IsNumberText.pointed h).toList_eq_cons
    rw [htext] at hvalue
    refine ⟨.value (.float x), .number hx, ?_⟩
    intro nesting rest others _ hends hrest
    rw [spelled, htext, List.cons_append, Script.lexemes?_number hfirst hrun hends hvalue, hrest]
    rfl
  | binary op left right ihleft ihright =>
    obtain ⟨leftTerm, hleft, hleftLexemes⟩ := ihleft h.1
    obtain ⟨rightTerm, hright, hrightLexemes⟩ := ihright h.2
    refine ⟨.binary op leftTerm rightTerm, .binary hleft hright, ?_⟩
    intro nesting rest others hnesting hends hrest
    rw [depth] at hnesting
    have hclose : Script.lexemes? (nesting + 1) (')' :: rest) = some (.bracketClose :: others) := by
      rw [Script.lexemes?_bracketClose, hrest]
      rfl
    have hafter := hrightLexemes (by omega) (Script.endsLiteral_cons (by decide)) hclose
    have hsign : Script.lexemes? (nesting + 1) (op.sign :: (right.spelled ++ ')' :: rest)) =
        some (.sign op :: (rightTerm.bracketed ++ .bracketClose :: others)) := by
      rw [Script.lexemes?_sign, hafter]
      rfl
    have hinner := hleftLexemes (by omega) (Script.endsLiteral_sign op _) hsign
    have hopen := @Script.lexemes?_bracketOpen nesting
      (left.spelled ++ op.sign :: (right.spelled ++ ')' :: rest)) (by omega)
    rw [hinner] at hopen
    simpa only [spelled, Script.Term.bracketed, List.cons_append, List.append_assoc,
      List.nil_append, Option.map_some] using hopen
  | raw _ => exact h.elim

end ExprCompiler
