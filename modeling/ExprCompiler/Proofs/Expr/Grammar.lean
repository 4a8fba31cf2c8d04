import ExprCompiler.Expr.Reading

/-!
# The grammar of expressions

What it means for tokens to form an expression, said without a reader: `Derives` is the grammar, with
the tree that each derivation stands for, and `bracketNesting` counts how many brackets are open at
once. The grammar is unambiguous (`Derives.unique`), so tokens that form an expression have one tree.
-/

namespace ExprCompiler

/-- `ChainOf rule operand`: the rule describes a chain of parts that `operand` describes. -/
inductive Rule.ChainOf : Rule → Rule → Prop where
  /-- An expression is a chain of terms. -/
  | expr : ChainOf .expr .term
  /-- A term is a chain of factors. -/
  | term : ChainOf .term .factor

/-- `Joins rule kind op`: in the chains of a rule, a token of this kind is the sign of `op`. -/
inductive Rule.Joins : Rule → TokenKind → BinaryOp → Prop where
  /-- Terms are added. -/
  | add : Joins .expr .plus .add
  /-- Terms are subtracted. -/
  | sub : Joins .expr .minus .sub
  /-- Factors are multiplied. -/
  | mul : Joins .term .star .mul
  /-- Factors are divided. -/
  | div : Joins .term .slash .div

/-- `Derives rule tokens tree`: the tokens form a part that the rule describes, and `tree` is its
tree. A chain is read from the left, so that a longer chain has the shorter one as left operand. -/
inductive Derives : Rule → List Token → Expr → Prop where
  /-- A number is a factor. -/
  | number {token : Token} (hkind : token.kind = .number) :
      Derives .factor [token] (.number token.lexeme)
  /-- An expression in brackets is a factor, and the brackets leave no node. -/
  | brackets {opening closing : Token} {inner : List Token} {tree : Expr}
      (hopening : opening.kind = .bracketOpen) (hinner : Derives .expr inner tree)
      (hclosing : closing.kind = .bracketClose) :
      Derives .factor (opening :: (inner ++ [closing])) tree
  /-- An operand is a chain of its own. -/
  | single {rule operand : Rule} {tokens : List Token} {tree : Expr}
      (hrule : rule.ChainOf operand) (htokens : Derives operand tokens tree) :
      Derives rule tokens tree
  /-- A chain goes on with a sign and one more operand. -/
  | chain {rule operand : Rule} {left right : List Token} {sign : Token} {op : BinaryOp}
      {a b : Expr} (hrule : rule.ChainOf operand) (hleft : Derives rule left a)
      (hsign : rule.Joins sign.kind op) (hright : Derives operand right b) :
      Derives rule (left ++ sign :: right) (.binary op a b)

/-- The most brackets that are open at once in a list of tokens, where `opened` are open before. -/
def bracketNesting (opened : Nat) : List Token → Nat
  | [] => opened
  | token :: rest =>
    match token.kind with
    | .bracketOpen => bracketNesting (opened + 1) rest
    | .bracketClose => max opened (bracketNesting (opened - 1) rest)
    | _ => bracketNesting opened rest

/-! ## The tables of the grammar -/

namespace Rule

theorem ChainOf.operand_eq {rule operand : Rule} (h : rule.ChainOf operand) :
    rule.operand = operand := by
  cases h <;> rfl

theorem ChainOf.ne_factor {rule operand : Rule} (h : rule.ChainOf operand) : rule ≠ .factor := by
  cases h <;> decide

theorem ChainOf.operand_ne_expr {rule operand : Rule} (h : rule.ChainOf operand) :
    operand ≠ .expr := by
  cases h <;> decide

theorem chainOf_operand {rule : Rule} (h : rule ≠ .factor) : rule.ChainOf rule.operand := by
  cases rule with
  | expr => exact .expr
  | term => exact .term
  | factor => exact absurd rfl h

/-- The reader's table of signs is the grammar's. -/
theorem joins_iff {rule : Rule} {kind : TokenKind} {op : BinaryOp} :
    rule.Joins kind op ↔ rule.operator? kind = some op := by
  constructor
  · intro h
    cases h <;> rfl
  · intro h
    cases rule <;> cases kind <;> simp only [operator?, Option.some.injEq, reduceCtorEq] at h <;>
      subst h <;> constructor

/-- A sign belongs to one rule and one operation. -/
theorem Joins.unique {rule rule' : Rule} {kind : TokenKind} {op op' : BinaryOp}
    (h : rule.Joins kind op) (h' : rule'.Joins kind op') : rule = rule' ∧ op = op' := by
  cases h <;> cases h' <;> exact ⟨rfl, rfl⟩

theorem Joins.kind_ne {rule : Rule} {kind : TokenKind} {op : BinaryOp} (h : rule.Joins kind op) :
    kind ≠ .number ∧ kind ≠ .bracketOpen ∧ kind ≠ .bracketClose ∧ kind ≠ .exprEnd := by
  cases h <;> decide

end Rule

/-! ## Parts of lower and higher rules -/

theorem Derives.of_factor {tokens : List Token} {tree : Expr} (h : Derives .factor tokens tree)
    (rule : Rule) : Derives rule tokens tree := by
  cases rule with
  | expr => exact .single .expr (.single .term h)
  | term => exact .single .term h
  | factor => exact h

/-- A part of a lower rule is one of a higher rule. -/
theorem Derives.of_level_le {low high : Rule} {tokens : List Token} {tree : Expr}
    (h : Derives low tokens tree) (hle : low.level ≤ high.level) : Derives high tokens tree := by
  cases low with
  | factor => exact h.of_factor high
  | term =>
    cases high with
    | expr => exact .single .expr h
    | term => exact h
    | factor => simp [Rule.level] at hle
  | expr =>
    cases high with
    | expr => exact h
    | term => simp [Rule.level] at hle
    | factor => simp [Rule.level] at hle

/-- Every part of an expression is an expression of its own. -/
theorem Derives.to_expr {rule : Rule} {tokens : List Token} {tree : Expr}
    (h : Derives rule tokens tree) : Derives .expr tokens tree :=
  h.of_level_le (by cases rule <;> decide)

/-! ## Nesting of brackets -/

theorem le_bracketNesting (opened : Nat) (tokens : List Token) :
    opened ≤ bracketNesting opened tokens := by
  induction tokens generalizing opened with
  | nil => exact Nat.le_refl _
  | cons token rest ih =>
    unfold bracketNesting
    split
    · exact Nat.le_trans (Nat.le_succ opened) (ih (opened + 1))
    · exact Nat.le_max_left _ _
    · exact ih opened

theorem bracketNesting_cons_of_ne {opened : Nat} {token : Token} {rest : List Token}
    (hopen : token.kind ≠ .bracketOpen) (hclose : token.kind ≠ .bracketClose) :
    bracketNesting opened (token :: rest) = bracketNesting opened rest := by
  rw [bracketNesting]
  split <;> simp_all

theorem bracketNesting_cons_open {opened : Nat} {token : Token} {rest : List Token}
    (h : token.kind = .bracketOpen) :
    bracketNesting opened (token :: rest) = bracketNesting (opened + 1) rest := by
  simp only [bracketNesting, h]

theorem bracketNesting_cons_close {opened : Nat} {token : Token} {rest : List Token}
    (h : token.kind = .bracketClose) :
    bracketNesting opened (token :: rest) = max opened (bracketNesting (opened - 1) rest) := by
  simp only [bracketNesting, h]

/-- A part of an expression closes all brackets that it opens, so what follows it nests on its
own. -/
theorem Derives.bracketNesting_append {rule : Rule} {tokens : List Token} {tree : Expr}
    (h : Derives rule tokens tree) (opened : Nat) (rest : List Token) :
    bracketNesting opened (tokens ++ rest) =
      max (bracketNesting opened tokens) (bracketNesting opened rest) := by
  induction h generalizing opened rest with
  | number hkind =>
    have hle := le_bracketNesting opened rest
    rw [List.singleton_append, bracketNesting_cons_of_ne (by simp [hkind]) (by simp [hkind]),
      bracketNesting_cons_of_ne (by simp [hkind]) (by simp [hkind])]
    exact (Nat.max_eq_right hle).symm
  | @brackets opening closing inner tree hopening _ hclosing ih =>
    have hle := le_bracketNesting opened rest
    have hin := le_bracketNesting (opened + 1) inner
    rw [List.cons_append, List.append_assoc, bracketNesting_cons_open hopening,
      bracketNesting_cons_open hopening, ih, ih, List.singleton_append,
      bracketNesting_cons_close hclosing, bracketNesting_cons_close hclosing]
    simp only [bracketNesting, Nat.add_sub_cancel]
    omega
  | single _ _ ih => exact ih opened rest
  | chain _ _ hsign _ ihleft ihright =>
    obtain ⟨-, hopen, hclose, -⟩ := hsign.kind_ne
    rw [List.append_assoc, List.cons_append, ihleft, ihleft,
      bracketNesting_cons_of_ne hopen hclose, bracketNesting_cons_of_ne hopen hclose, ihright]
    exact (Nat.max_assoc _ _ _).symm

theorem Derives.length_pos {rule : Rule} {tokens : List Token} {tree : Expr}
    (h : Derives rule tokens tree) : 0 < tokens.length := by
  induction h with
  | number _ => exact Nat.zero_lt_one
  | brackets _ _ _ _ => exact Nat.succ_pos _
  | single _ _ ih => exact ih
  | chain _ _ _ _ ihleft _ =>
    rw [List.length_append]
    exact Nat.add_pos_left ihleft _

/-- No part of an expression holds an end. -/
theorem Derives.isEnd_eq_false {rule : Rule} {tokens : List Token} {tree : Expr}
    (h : Derives rule tokens tree) : ∀ token ∈ tokens, token.isEnd = false := by
  induction h with
  | number hkind => simp [Token.isEnd, hkind]
  | brackets hopening _ hclosing ih =>
    refine List.forall_mem_cons.2 ⟨by simp [Token.isEnd, hopening], ?_⟩
    exact List.forall_mem_append.2 ⟨ih, by simp [Token.isEnd, hclosing]⟩
  | single _ _ ih => exact ih
  | chain _ _ hsign _ ihleft ihright =>
    refine List.forall_mem_append.2 ⟨ihleft, List.forall_mem_cons.2 ⟨?_, ihright⟩⟩
    simp [Token.isEnd, hsign.kind_ne.2.2.2]

theorem Derives.bracketNesting_brackets {opening closing : Token} {inner : List Token}
    {tree : Expr} (h : Derives .expr inner tree) (hopening : opening.kind = .bracketOpen)
    (hclosing : closing.kind = .bracketClose) (opened : Nat) :
    bracketNesting opened (opening :: (inner ++ [closing])) = bracketNesting (opened + 1) inner := by
  have hle := le_bracketNesting (opened + 1) inner
  rw [bracketNesting_cons_open hopening, h.bracketNesting_append,
    bracketNesting_cons_close hclosing]
  simp only [bracketNesting, Nat.add_sub_cancel]
  omega

/-- The nesting of a chain is that of its left part and its last operand. -/
theorem Derives.bracketNesting_chain {rule : Rule} {left right : List Token} {sign : Token}
    {op : BinaryOp} {a : Expr} (h : Derives rule left a) (hsign : rule.Joins sign.kind op)
    (opened : Nat) :
    bracketNesting opened (left ++ sign :: right) =
      max (bracketNesting opened left) (bracketNesting opened right) := by
  obtain ⟨-, hopen, hclose, -⟩ := hsign.kind_ne
  rw [h.bracketNesting_append, bracketNesting_cons_of_ne hopen hclose]

end ExprCompiler
