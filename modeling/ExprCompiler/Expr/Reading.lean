import ExprCompiler.Expr.Basic
import ExprCompiler.Expr.TokenReader

/-!
# From tokens to expressions

The grammar has three rules:

```text
expr   := term (('+' | '-') term)*
term   := factor (('*' | '/') factor)*
factor := NUMBER | '(' expr ')'
```

Operations of one chain associate to the left. Brackets may nest to `maxBracketDepth` and operations
to `maxOperationDepth`; the first is checked at an opening bracket, the second when the right operand
of an operation is complete.

Each rule is read together with a proof that it consumes a token, which ends the recursion. The
equations `read_factor`, `read_chain` and `extend_eq` are the grammar without those proofs.
-/

namespace ExprCompiler

/-- A part of an expression, with its depth in operations. -/
structure Subtree where
  /-- The part. -/
  expr : Expr
  /-- The greatest number of operations between its root and a leaf. -/
  depth : Nat
  deriving DecidableEq, Repr

/-- The rules of the grammar. -/
inductive Rule where
  /-- A chain of terms. -/
  | expr
  /-- A chain of factors. -/
  | term
  /-- A number, or an expression in brackets. -/
  | factor
  deriving DecidableEq, Repr

namespace Rule

/-- The rule for the operands of a chain. -/
def operand : Rule → Rule
  | expr => term
  | term => factor
  | factor => factor

/-- The operation that a token stands for in a chain. -/
def operator? : Rule → TokenKind → Option BinaryOp
  | expr, .plus => some .add
  | expr, .minus => some .sub
  | term, .star => some .mul
  | term, .slash => some .div
  | _, _ => none

/-- How many rules there are below this one. -/
def level : Rule → Nat
  | expr => 2
  | term => 1
  | factor => 0

/-- The operands of a chain have a lower rule. -/
theorem level_operand_lt {rule : Rule} (h : rule ≠ factor) : rule.operand.level < rule.level := by
  cases rule <;> simp_all [operand, level]

/-- No operation is signed by an end. -/
theorem operator?_exprEnd (rule : Rule) : rule.operator? .exprEnd = none := by
  cases rule <;> rfl

end Rule

namespace TokenReader

/-! ## The pieces of the rules -/

/-- Reads a number literal. -/
def literal : Parse Subtree := fun p =>
  if 1 < p.current.lexeme.toList.count '.' then fail .malformedNumber p.current p
  else (do
    let token ← consume .number
    return { expr := .number token.lexeme, depth := 0 } : Parse Subtree) p

/-- Goes into brackets. -/
def enter : Parse Unit := fun p =>
  if maxBracketDepth ≤ p.bracketDepth then fail .tooManyBrackets p.current p
  else (do
    let _ ← consume .bracketOpen
    modify fun p => { p with bracketDepth := p.bracketDepth + 1 } : Parse Unit) p

/-- Comes out of brackets. -/
def leave : Parse Unit := fun p =>
  if p.current.isEnd then fail .unclosedBracket p.current p
  else (do
    let _ ← consume .bracketClose
    modify fun p => { p with bracketDepth := p.bracketDepth - 1 } : Parse Unit) p

/-- Joins two operands; an operation that is nested too deep is an error at its sign. -/
def join (op : BinaryOp) (sign : Token) (left right : Subtree) : Parse Subtree :=
  let depth := max left.depth right.depth + 1
  if maxOperationDepth < depth then fail .tooManyOperations sign
  else return { expr := .binary op left.expr right.expr, depth }

/-- A literal is a token. -/
theorem literal_leavesFewer (p : TokenReader) : LeavesFewer p.remaining (literal p) := by
  unfold literal
  split
  · trivial
  · exact (consume_leavesFewer (by decide)).bind fun _ q => Nat.lt_succ_self _

/-- Going into brackets takes a token. -/
theorem enter_leavesFewer (p : TokenReader) : LeavesFewer p.remaining (enter p) := by
  unfold enter
  split
  · trivial
  · exact (consume_leavesFewer (by decide)).bind fun _ q => Nat.lt_succ_self _

/-- Coming out of brackets takes a token. -/
theorem leave_leavesFewer (p : TokenReader) : LeavesFewer p.remaining (leave p) := by
  unfold leave
  split
  · trivial
  · exact (consume_leavesFewer (by decide)).bind fun _ q => Nat.lt_succ_self _

/-- Joining operands takes no token. -/
theorem join_leavesFewer (op : BinaryOp) (sign : Token) (left right : Subtree) (p : TokenReader) :
    LeavesFewer (p.remaining + 1) (join op sign left right p) := by
  by_cases h : maxOperationDepth < max left.depth right.depth + 1
  · simp only [join, h, if_true]
    trivial
  · simp only [join, h, if_false]
    exact Nat.lt_succ_self _

/-! ## The rules -/

mutual

/-- Reads the part that a rule describes. -/
def readRule (rule : Rule) (p : TokenReader) : Bounded Subtree p.remaining :=
  if _hrule : rule = .factor then
    match p.current.kind with
    | .number => ⟨literal p, literal_leavesFewer p⟩
    | .bracketOpen =>
      Bounded.andThen ⟨enter p, enter_leavesFewer p⟩ fun _ p₁ h₁ =>
        (readRule .expr p₁).andThen fun tree p₂ h₂ =>
          Bounded.andThen ⟨leave p₂, leave_leavesFewer p₂⟩ fun _ p₃ h₃ =>
            ⟨.ok tree p₃, Nat.lt_trans h₃ (Nat.lt_trans h₂ h₁)⟩
    | _ => ⟨fail .missingOperand p.current p, trivial⟩
  else
    (readRule rule.operand p).andThen fun left p₁ h₁ => (extendChain rule left p₁).weaken h₁
termination_by (p.remaining, rule.level)
decreasing_by
  · exact Prod.Lex.left _ _ h₁
  · exact Prod.Lex.right _ (Rule.level_operand_lt _hrule)
  · exact Prod.Lex.left _ _ h₁

/-- Goes on with a chain whose part up to here is `left`. -/
def extendChain (rule : Rule) (left : Subtree) (p : TokenReader) :
    Bounded Subtree (p.remaining + 1) :=
  match _hop : rule.operator? p.current.kind with
  | none => ⟨.ok left p, Nat.lt_succ_self _⟩
  | some op =>
    have hend : p.current.kind ≠ .exprEnd := fun h => by simp [h, Rule.operator?_exprEnd] at _hop
    Bounded.andThen ⟨consume p.current.kind p, consume_leavesFewer hend⟩ fun sign p₁ h₁ =>
      (readRule rule.operand p₁).andThen fun right p₂ h₂ =>
        Bounded.andThen ⟨join op sign left right p₂, join_leavesFewer op sign left right p₂⟩
          fun tree p₃ h₃ =>
            have hlt : p₃.remaining < p.remaining :=
              Nat.lt_of_le_of_lt (Nat.le_of_lt_succ h₃) (Nat.lt_trans h₂ h₁)
            (extendChain rule tree p₃).weaken (Nat.succ_le_succ (Nat.le_of_lt hlt))
termination_by (p.remaining, 0)
decreasing_by
  · exact Prod.Lex.left _ _ h₁
  · exact Prod.Lex.left _ _ hlt

end

/-- Reads the part that a rule describes, with its depth. -/
def read (rule : Rule) : Parse Subtree := fun p => (readRule rule p).val

/-- Goes on with a chain whose part up to here is `left`. -/
def extend (rule : Rule) (left : Subtree) : Parse Subtree := fun p => (extendChain rule left p).val

/-- A factor is a number or an expression in brackets. -/
theorem read_factor (p : TokenReader) :
    read .factor p =
      match p.current.kind with
      | .number => literal p
      | .bracketOpen => (do enter; let tree ← read .expr; leave; return tree : Parse Subtree) p
      | _ => fail .missingOperand p.current p := by
  unfold read
  rw [readRule]
  simp only [dite_true]
  split
  · rfl
  · exact Bounded.val_andThen rfl fun _ _ _ =>
      Bounded.val_andThen rfl fun _ _ _ => Bounded.val_andThen rfl fun _ _ _ => rfl
  · rfl

/-- Every other rule is a chain of operands. -/
theorem read_chain {rule : Rule} (h : rule ≠ .factor) :
    read rule = (do let left ← read rule.operand; extend rule left) := by
  funext p
  rw [read, readRule, dif_neg h]
  exact Bounded.val_andThen rfl fun _ _ _ => rfl

/-- A chain goes on while an operation of its level follows. -/
theorem extend_eq (rule : Rule) (left : Subtree) (p : TokenReader) :
    extend rule left p =
      match rule.operator? p.current.kind with
      | none => .ok left p
      | some op =>
        (do
          let sign ← consume p.current.kind
          let right ← read rule.operand
          let tree ← join op sign left right
          extend rule tree : Parse Subtree) p := by
  rw [extend, extendChain]
  split <;> rename_i hop
  · simp only [hop]
  · simp only [hop]
    exact Bounded.val_andThen rfl fun _ _ _ =>
      Bounded.val_andThen rfl fun _ _ _ => Bounded.val_andThen rfl fun _ _ _ => rfl

/-- A step that reads a rule and has a result consumes a token. -/
theorem read_leavesFewer (rule : Rule) (p : TokenReader) : LeavesFewer p.remaining (read rule p) :=
  (readRule rule p).property

/-- Reads a whole expression, after which nothing may follow. -/
def parse : Parse Expr := do
  let tree ← read .expr
  let found := (← get).current
  if found.isEnd then return tree.expr else fail .trailingToken found

end TokenReader

namespace Expr

/-- The expression that a list of tokens describes. -/
def ofTokens (tokens : List Token) (source : Option String) : Except ParseFailure Expr :=
  match TokenReader.start (.ofList tokens) source with
  | .error error => .error (.lexical error)
  | .ok p =>
    match TokenReader.parse p with
    | .ok expr _ => .ok expr
    | .error failure _ => .error failure

/-- The expression that a text describes. All of the text is cut into tokens first, so an error in a
lexeme shows before any other. -/
def ofText (source : String) : Except ParseFailure Expr :=
  match tokensOf source with
  | .error error => .error (.lexical error)
  | .ok tokens => ofTokens tokens (some source)

end Expr

end ExprCompiler
