import ExprCompiler.Proofs.Expr.Grammar

/-!
# The grammar is unambiguous

A sign outside all brackets of a part belongs to a chain of the rule of that part or of a lower one
(`Derives.level_le_of_outer_sign`). So the last operation of a chain is the one at its last outer
sign, and tokens that form an expression have one tree (`Derives.unique`).
-/

namespace ExprCompiler

/-- How many more brackets are opened than closed. -/
def bracketBalance : List Token → Int
  | [] => 0
  | token :: rest =>
    match token.kind with
    | .bracketOpen => bracketBalance rest + 1
    | .bracketClose => bracketBalance rest - 1
    | _ => bracketBalance rest

theorem bracketBalance_append (before after : List Token) :
    bracketBalance (before ++ after) = bracketBalance before + bracketBalance after := by
  induction before with
  | nil => simp [bracketBalance]
  | cons token rest ih =>
    rw [List.cons_append, bracketBalance, bracketBalance, ih]
    split <;> omega

theorem bracketBalance_cons_open {token : Token} {rest : List Token}
    (h : token.kind = .bracketOpen) :
    bracketBalance (token :: rest) = bracketBalance rest + 1 := by
  simp only [bracketBalance, h]

theorem bracketBalance_cons_close {token : Token} {rest : List Token}
    (h : token.kind = .bracketClose) :
    bracketBalance (token :: rest) = bracketBalance rest - 1 := by
  simp only [bracketBalance, h]

theorem bracketBalance_cons_of_ne {token : Token} {rest : List Token}
    (hopen : token.kind ≠ .bracketOpen) (hclose : token.kind ≠ .bracketClose) :
    bracketBalance (token :: rest) = bracketBalance rest := by
  rw [bracketBalance]
  split <;> simp_all

/-- An element stands in the left part of a list, between its parts, or in the right part. -/
theorem split_append_cons {α : Type} {left right before after : List α} {x y : α}
    (h : left ++ x :: right = before ++ y :: after) :
    (∃ between, left = before ++ y :: between ∧ after = between ++ x :: right) ∨
      (left = before ∧ x = y ∧ right = after) ∨
      (∃ between, before = left ++ x :: between ∧ right = between ++ y :: after) := by
  rcases List.append_eq_append_iff.1 h with ⟨middle, rfl, hmiddle⟩ | ⟨middle, rfl, hmiddle⟩
  · cases middle with
    | nil =>
      obtain ⟨rfl, rfl⟩ := List.cons.inj hmiddle
      exact .inr (.inl ⟨(List.append_nil _).symm, rfl, rfl⟩)
    | cons z between =>
      obtain ⟨rfl, rfl⟩ := List.cons.inj hmiddle
      exact .inr (.inr ⟨between, rfl, rfl⟩)
  · cases middle with
    | nil =>
      obtain ⟨rfl, rfl⟩ := List.cons.inj hmiddle
      exact .inr (.inl ⟨List.append_nil _, rfl, rfl⟩)
    | cons z between =>
      obtain ⟨rfl, rfl⟩ := List.cons.inj hmiddle
      exact .inl ⟨between, rfl, rfl⟩

namespace Derives

variable {rule : Rule} {tokens : List Token} {tree : Expr}

theorem bracketBalance_eq_zero (h : Derives rule tokens tree) : bracketBalance tokens = 0 := by
  induction h with
  | number hkind => rw [bracketBalance_cons_of_ne (by simp [hkind]) (by simp [hkind])]; rfl
  | brackets hopening _ hclosing ih =>
    rw [bracketBalance_cons_open hopening, bracketBalance_append, ih,
      bracketBalance_cons_close hclosing]
    rfl
  | single _ _ ih => exact ih
  | chain _ _ hsign _ ihleft ihright =>
    obtain ⟨-, hopen, hclose, -⟩ := hsign.kind_ne
    rw [bracketBalance_append, bracketBalance_cons_of_ne hopen hclose, ihleft, ihright]
    rfl

theorem bracketBalance_chain (h : Derives rule tokens tree) {sign : Token} {op : BinaryOp}
    (hsign : rule.Joins sign.kind op) (rest : List Token) :
    bracketBalance (tokens ++ sign :: rest) = bracketBalance rest := by
  obtain ⟨-, hopen, hclose, -⟩ := hsign.kind_ne
  rw [bracketBalance_append, bracketBalance_cons_of_ne hopen hclose, h.bracketBalance_eq_zero,
    Int.zero_add]

/-- Before any token of a part of an expression, no more brackets are closed than opened. -/
theorem bracketBalance_nonneg (h : Derives rule tokens tree) :
    ∀ {before after : List Token} {token : Token}, tokens = before ++ token :: after →
      0 ≤ bracketBalance before := by
  induction h with
  | number _ =>
    intro before after token heq
    cases before with
    | nil => exact Int.le_refl 0
    | cons _ _ => simp at heq
  | @brackets opening closing inner tree hopening hinner _ ih =>
    intro before after token heq
    cases before with
    | nil => exact Int.le_refl 0
    | cons first before =>
      obtain ⟨rfl, hrest⟩ := List.cons.inj heq
      rw [bracketBalance_cons_open hopening]
      rcases split_append_cons hrest with ⟨between, hin, -⟩ | ⟨rfl, -, -⟩ | ⟨between, -, hnil⟩
      · have := ih hin
        omega
      · have := hinner.bracketBalance_eq_zero
        omega
      · simp at hnil
  | single _ _ ih => exact ih
  | chain _ hleft hsign _ ihleft ihright =>
    intro before after token heq
    rcases split_append_cons heq with ⟨between, hin, -⟩ | ⟨rfl, -, -⟩ | ⟨between, rfl, hin⟩
    · exact ihleft hin
    · exact Int.le_of_eq hleft.bracketBalance_eq_zero.symm
    · rw [hleft.bracketBalance_chain hsign]
      exact ihright hin

/-- A sign outside all brackets of a part joins a chain of the part's rule or of a lower one. -/
theorem level_le_of_outer_sign (h : Derives rule tokens tree) :
    ∀ {before after : List Token} {sign : Token} {rule' : Rule} {op : BinaryOp},
      tokens = before ++ sign :: after → rule'.Joins sign.kind op → bracketBalance before = 0 →
      rule'.level ≤ rule.level := by
  induction h with
  | number hkind =>
    intro before after sign rule' op heq hsign _
    cases before with
    | nil =>
      obtain ⟨rfl, -⟩ := List.cons.inj heq
      exact absurd hkind hsign.kind_ne.1
    | cons _ _ => simp at heq
  | @brackets opening closing inner tree hopening hinner hclosing ih =>
    intro before after sign rule' op heq hsign hzero
    cases before with
    | nil =>
      obtain ⟨rfl, -⟩ := List.cons.inj heq
      exact absurd hopening hsign.kind_ne.2.1
    | cons first before =>
      obtain ⟨rfl, hrest⟩ := List.cons.inj heq
      rw [bracketBalance_cons_open hopening] at hzero
      rcases split_append_cons hrest with ⟨between, hin, -⟩ | ⟨-, rfl, -⟩ | ⟨between, -, hnil⟩
      · have := hinner.bracketBalance_nonneg hin
        omega
      · exact absurd hclosing hsign.kind_ne.2.2.1
      · simp at hnil
  | single hrule _ ih =>
    intro before after sign rule' op heq hsign hzero
    have hle := ih heq hsign hzero
    have hlt := Rule.level_operand_lt hrule.ne_factor
    rw [hrule.operand_eq] at hlt
    omega
  | @chain rule operand left right sign op a b hrule hleft hjoin hright ihleft ihright =>
    intro before after sign' rule' op' heq hsign hzero
    rcases split_append_cons heq with ⟨between, hin, -⟩ | ⟨-, rfl, -⟩ | ⟨between, rfl, hin⟩
    · exact ihleft hin hsign hzero
    · exact (hsign.unique hjoin).1 ▸ Nat.le_refl _
    · rw [hleft.bracketBalance_chain hjoin] at hzero
      have hle := ihright hin hsign hzero
      have hlt := Rule.level_operand_lt hrule.ne_factor
      rw [hrule.operand_eq] at hlt
      omega

/-- No sign of a chain stands outside all brackets of one of its operands. -/
theorem operand_has_no_outer_sign {operand : Rule} (hrule : rule.ChainOf operand)
    (h : Derives operand tokens tree) {before after : List Token} {sign : Token} {op : BinaryOp}
    (heq : tokens = before ++ sign :: after) (hsign : rule.Joins sign.kind op)
    (hzero : bracketBalance before = 0) : False := by
  have hle := h.level_le_of_outer_sign heq hsign hzero
  have hlt := Rule.level_operand_lt hrule.ne_factor
  rw [hrule.operand_eq] at hlt
  omega

/-- Tokens that form a part of an expression have one tree. -/
theorem unique (h : Derives rule tokens tree) :
    ∀ {other : Expr}, Derives rule tokens other → tree = other := by
  induction h with
  | @number token hkind =>
    intro other hother
    generalize htokens : [token] = tokens at hother
    cases hother with
    | number _ =>
      obtain ⟨rfl, -⟩ := List.cons.inj htokens
      rfl
    | brackets hopening _ _ =>
      obtain ⟨rfl, -⟩ := List.cons.inj htokens
      simp [hkind] at hopening
    | single hrule _ => exact absurd rfl hrule.ne_factor
    | chain hrule _ _ _ => exact absurd rfl hrule.ne_factor
  | @brackets opening closing inner tree hopening _ _ ih =>
    intro other hother
    generalize htokens : opening :: (inner ++ [closing]) = tokens at hother
    cases hother with
    | number hkind =>
      obtain ⟨rfl, -⟩ := List.cons.inj htokens
      simp [hopening] at hkind
    | brackets _ hinner _ =>
      obtain ⟨-, hrest⟩ := List.cons.inj htokens
      obtain ⟨rfl, -⟩ := List.append_inj' hrest rfl
      exact ih hinner
    | single hrule _ => exact absurd rfl hrule.ne_factor
    | chain hrule _ _ _ => exact absurd rfl hrule.ne_factor
  | @single rule operand tokens tree hrule hoperand ih =>
    intro other hother
    cases hother with
    | number _ => exact absurd rfl hrule.ne_factor
    | brackets _ _ _ => exact absurd rfl hrule.ne_factor
    | single hrule' hoperand' =>
      obtain rfl := hrule.operand_eq.symm.trans hrule'.operand_eq
      exact ih hoperand'
    | chain hrule' hleft hsign _ =>
      obtain rfl := hrule.operand_eq.symm.trans hrule'.operand_eq
      exact (operand_has_no_outer_sign hrule hoperand rfl hsign hleft.bracketBalance_eq_zero).elim
  | @chain rule operand left right sign op a b hrule hleft hsign hright ihleft ihright =>
    intro other hother
    generalize htokens : left ++ sign :: right = tokens at hother
    cases hother with
    | number _ => exact absurd rfl hrule.ne_factor
    | brackets _ _ _ => exact absurd rfl hrule.ne_factor
    | single hrule' hoperand =>
      obtain rfl := hrule.operand_eq.symm.trans hrule'.operand_eq
      exact (operand_has_no_outer_sign hrule hoperand htokens.symm hsign
        hleft.bracketBalance_eq_zero).elim
    | @chain _ _ left' right' sign' op' a' b' hrule' hleft' hsign' hright' =>
      obtain rfl := hrule.operand_eq.symm.trans hrule'.operand_eq
      -- Both splits are at the last outer sign, since no operand holds one.
      rcases split_append_cons htokens with ⟨between, rfl, hin⟩ | ⟨rfl, rfl, rfl⟩ | ⟨between, rfl, hin⟩
      · have hzero := hleft.bracketBalance_eq_zero
        rw [hleft'.bracketBalance_chain hsign'] at hzero
        exact (operand_has_no_outer_sign hrule hright' hin hsign hzero).elim
      · rw [ihleft hleft', ihright hright', (hsign.unique hsign').2]
      · have hzero := hleft'.bracketBalance_eq_zero
        rw [hleft.bracketBalance_chain hsign] at hzero
        exact (operand_has_no_outer_sign hrule hright hin hsign' hzero).elim

end Derives

end ExprCompiler
