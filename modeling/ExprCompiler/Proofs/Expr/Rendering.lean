import ExprCompiler.Proofs.Expr.Likeness
import ExprCompiler.Proofs.Expr.RoundTrip

/-!
# Which expressions a text can stand for

Precedence and association to the left force brackets around some operands;
`Expr.requiredNesting` is how deep these brackets nest. No tokens of an expression nest their
brackets less deep (`Derives.nestingAt_le`), and `Expr.tokensAt` lists tokens that nest them no
deeper (`Expr.IsReadable.renders`). So there is a text for an expression exactly if its literals can
stand in a text, its operations keep their limit and the forced brackets keep theirs
(`Expr.exists_ofText_iff`).
-/

namespace ExprCompiler

namespace BinaryOp

/-- Whether an operation is an addition or a subtraction. -/
def isAdditive : BinaryOp → Bool
  | add => true
  | sub => true
  | mul => false
  | div => false

/-- Whether an expression needs brackets as the left operand of an operation: a sum or difference
does in a product or quotient. -/
def bracketsLeft (op : BinaryOp) : Expr → Bool
  | .binary inner _ _ => inner.isAdditive && !op.isAdditive
  | _ => false

/-- Whether an expression needs brackets as the right operand of an operation: a sum or difference
always does, a product or quotient does in a product or quotient. -/
def bracketsRight (op : BinaryOp) : Expr → Bool
  | .binary inner _ _ => inner.isAdditive || !op.isAdditive
  | _ => false

end BinaryOp

namespace Expr

/-- How deep the brackets nest that no text of the expression can do without. -/
def requiredNesting : Expr → Nat
  | number _ => 0
  | binary op left right =>
    max (left.requiredNesting + (op.bracketsLeft left).toNat)
      (right.requiredNesting + (op.bracketsRight right).toNat)
  | raw _ => 0

/-- The lowest rule that describes the expression without brackets around it. -/
def rule : Expr → Rule
  | number _ => .factor
  | binary op _ _ => op.rule
  | raw _ => .factor

/-- How deep the brackets nest where the expression stands for a part that a rule describes. -/
def nestingAt (rule : Rule) (tree : Expr) : Nat :=
  tree.requiredNesting + if tree.rule.level ≤ rule.level then 0 else 1

/-- Tokens for the expression where it stands for a part that a rule describes, with as few brackets
as possible. -/
def tokensAt (rule : Rule) : Expr → List Token
  | number text => [{ kind := .number, lexeme := text, position := 0 }]
  | binary op left right =>
    let chain := left.tokensAt op.rule ++ op.signKind.sample :: right.tokensAt op.rule.operand
    if op.rule.level ≤ rule.level then chain
    else TokenKind.bracketOpen.sample :: (chain ++ [TokenKind.bracketClose.sample])
  | raw _ => []

/-- An operand needs brackets if its rule is above the one that is described at its place. -/
theorem toNat_bracketsLeft (op : BinaryOp) (left : Expr) :
    (op.bracketsLeft left).toNat = if left.rule.level ≤ op.rule.level then 0 else 1 := by
  cases left with
  | number _ => cases op <;> rfl
  | binary inner _ _ => cases op <;> cases inner <;> rfl
  | raw _ => cases op <;> rfl

theorem toNat_bracketsRight (op : BinaryOp) (right : Expr) :
    (op.bracketsRight right).toNat = if right.rule.level ≤ op.rule.operand.level then 0 else 1 := by
  cases right with
  | number _ => cases op <;> rfl
  | binary inner _ _ => cases op <;> cases inner <;> rfl
  | raw _ => cases op <;> rfl

theorem requiredNesting_binary (op : BinaryOp) (left right : Expr) :
    (binary op left right).requiredNesting =
      max (left.nestingAt op.rule) (right.nestingAt op.rule.operand) := by
  rw [requiredNesting, toNat_bracketsLeft, toNat_bracketsRight, nestingAt, nestingAt]

theorem nestingAt_of_le {rule : Rule} {tree : Expr} (h : tree.rule.level ≤ rule.level) :
    tree.nestingAt rule = tree.requiredNesting := by
  rw [nestingAt, if_pos h, Nat.add_zero]

theorem nestingAt_of_lt {rule : Rule} {tree : Expr} (h : rule.level < tree.rule.level) :
    tree.nestingAt rule = tree.requiredNesting + 1 := by
  rw [nestingAt, if_neg (Nat.not_le.2 h)]

/-- An expression describes everything, so nothing needs brackets there. -/
theorem nestingAt_expr (tree : Expr) : tree.nestingAt .expr = tree.requiredNesting := by
  refine nestingAt_of_le ?_
  cases tree.rule <;> decide

/-- Where a higher rule is described, no more brackets are needed. -/
theorem nestingAt_anti {low high : Rule} (h : low.level ≤ high.level) (tree : Expr) :
    tree.nestingAt high ≤ tree.nestingAt low := by
  unfold nestingAt
  split <;> split <;> omega

end Expr

theorem Rule.Joins.rule_eq {rule : Rule} {kind : TokenKind} {op : BinaryOp}
    (h : rule.Joins kind op) : op.rule = rule := by
  cases h <;> rfl

/-! ## No text does with fewer brackets -/

/-- The brackets of a part of an expression nest as deep as its tree requires. -/
theorem Derives.nestingAt_le {rule : Rule} {tokens : List Token} {tree : Expr}
    (h : Derives rule tokens tree) (opened : Nat) :
    opened + tree.nestingAt rule ≤ bracketNesting opened tokens := by
  induction h generalizing opened with
  | @number token _ => exact le_bracketNesting opened [token]
  | @brackets _ _ inner tree hopening hinner hclosing ih =>
    have hle := ih (opened + 1)
    rw [Expr.nestingAt_expr] at hle
    rw [hinner.bracketNesting_brackets hopening hclosing]
    -- The brackets may be ones that could be left out.
    have hfactor : tree.nestingAt .factor ≤ tree.requiredNesting + 1 := by
      unfold Expr.nestingAt
      split <;> omega
    omega
  | single hrule _ ih =>
    have hlt := Rule.level_operand_lt hrule.ne_factor
    rw [hrule.operand_eq] at hlt
    exact Nat.le_trans (Nat.add_le_add_left (Expr.nestingAt_anti (Nat.le_of_lt hlt) _) _)
      (ih opened)
  | @chain rule operand left right sign op a b hrule hleft hsign _ ihleft ihright =>
    have hfits : (Expr.binary op a b).rule.level ≤ rule.level := by
      rw [Expr.rule, hsign.rule_eq]
    have hle := ihleft opened
    have hle' := ihright opened
    rw [hleft.bracketNesting_chain hsign, Expr.nestingAt_of_le hfits,
      Expr.requiredNesting_binary, hsign.rule_eq, hrule.operand_eq]
    omega

/-! ## Tokens with no more brackets than required -/

/-- Tokens that form a part of an expression, can stand in a text, and have no more brackets than
required. -/
structure Renders (rule : Rule) (tree : Expr) (tokens : List Token) : Prop where
  /-- They form the part. -/
  derives : Derives rule tokens tree
  /-- Their brackets nest as deep as required. -/
  nesting : ∀ opened, bracketNesting opened tokens = opened + tree.nestingAt rule
  /-- They can stand in a text. -/
  spelled : ∀ token ∈ tokens, token.IsSpelled

namespace Renders

theorem number {text : String} (h : IsNumberText text) :
    Renders .factor (.number text) [{ kind := .number, lexeme := text, position := 0 }] where
  derives := @Derives.number { kind := .number, lexeme := text, position := 0 } rfl
  nesting _ := rfl
  spelled := by
    obtain ⟨first, run, htext, hfirst, hrun⟩ := h.toList_eq_cons
    have hlexeme : text = .ofList (first :: run) := by rw [← htext, String.ofList_toList]
    rw [List.forall_mem_singleton, hlexeme]
    exact .number hfirst hrun

variable {op : BinaryOp} {a b : Expr} {left right tokens : List Token}

theorem chain (hleft : Renders op.rule a left) (hright : Renders op.rule.operand b right) :
    Renders op.rule (.binary op a b) (left ++ op.signKind.sample :: right) where
  derives := .chain (Rule.chainOf_operand op.rule_ne_factor) hleft.derives op.joins_signKind
    hright.derives
  nesting opened := by
    have hsign : op.rule.Joins op.signKind.sample.kind op := op.joins_signKind
    have hwhole : (Expr.binary op a b).nestingAt op.rule = _ :=
      (Expr.nestingAt_of_le (Nat.le_refl _)).trans (Expr.requiredNesting_binary op a b)
    rw [hleft.derives.bracketNesting_chain hsign, hleft.nesting, hright.nesting, hwhole]
    omega
  spelled := by
    have hsign := TokenKind.isSpelled_sample op.joins_signKind.kind_ne.2.2.2
    exact List.forall_mem_append.2 ⟨hleft.spelled, List.forall_mem_cons.2 ⟨hsign, hright.spelled⟩⟩

/-- Where the rule of an operation is not described, it stands in brackets. -/
theorem enclose {rule : Rule} (h : Renders op.rule (.binary op a b) tokens)
    (hlt : rule.level < op.rule.level) :
    Renders rule (.binary op a b)
      (TokenKind.bracketOpen.sample :: (tokens ++ [TokenKind.bracketClose.sample])) where
  derives := (Derives.brackets rfl h.derives.to_expr rfl).of_factor _
  nesting opened := by
    have hinside : (Expr.binary op a b).nestingAt op.rule = _ := Expr.nestingAt_of_le (Nat.le_refl _)
    have houtside : (Expr.binary op a b).nestingAt rule = _ := Expr.nestingAt_of_lt hlt
    rw [h.derives.to_expr.bracketNesting_brackets rfl rfl, h.nesting, hinside, houtside]
    omega
  spelled := by
    have hopening : TokenKind.bracketOpen.sample.IsSpelled := TokenKind.isSpelled_sample (by decide)
    have hclosing : TokenKind.bracketClose.sample.IsSpelled :=
      TokenKind.isSpelled_sample (by decide)
    refine List.forall_mem_cons.2 ⟨hopening, List.forall_mem_append.2 ⟨h.spelled, ?_⟩⟩
    exact List.forall_mem_singleton.2 hclosing

/-- A part that needs no brackets for its rule needs none for a higher one. -/
theorem of_level_le {low high : Rule} {tree : Expr} (h : Renders low tree tokens)
    (hfits : tree.rule.level ≤ low.level) (hle : low.level ≤ high.level) :
    Renders high tree tokens where
  derives := h.derives.of_level_le hle
  nesting opened := by
    rw [h.nesting, Expr.nestingAt_of_le hfits, Expr.nestingAt_of_le (Nat.le_trans hfits hle)]
  spelled := h.spelled

end Renders

theorem Expr.IsReadable.renders {tree : Expr} (h : tree.IsReadable) (rule : Rule) :
    Renders rule tree (tree.tokensAt rule) := by
  induction tree generalizing rule with
  | number text => exact (Renders.number h).of_level_le (Nat.le_refl _) (Nat.zero_le _)
  | binary op left right ihleft ihright =>
    have hchain := (ihleft h.1 op.rule).chain (ihright h.2 op.rule.operand)
    rw [tokensAt]
    split
    · exact hchain.of_level_le (Nat.le_refl _) ‹_›
    · exact hchain.enclose (Nat.lt_of_not_le ‹_›)
  | raw _ => exact h.elim

/-! ## Texts -/

namespace Expr

/-- Tokens for the whole expression in a row are read as it, if limits are kept. -/
theorem IsReadable.ofText_spelledOut {tree : Expr} (h : tree.IsReadable)
    (hoperations : tree.depth ≤ maxOperationDepth)
    (hbrackets : tree.requiredNesting ≤ maxBracketDepth) :
    ofText (.ofList (spelledOut (tree.tokensAt .expr))) = .ok tree := by
  have hrenders := h.renders .expr
  obtain ⟨found, ending, htokens, hending, hmeaning⟩ :=
    exists_tokensOf_spelledOut hrenders.spelled
  have hderives := hrenders.derives.of_meaning hmeaning
  have hsentence : Sentence .expr 0 (untilEnd (found ++ [ending])) tree := by
    rw [untilEnd_append_end [] hderives.isEnd_eq_false hending]
    refine ⟨⟨fun token hmem hkind => ?_, ?_, hoperations⟩, hderives⟩
    · exact (hderives.forall_isNumberText h token hmem hkind).points
    · rw [bracketNesting_of_kinds 0 (map_kind_of_meaning hmeaning), hrenders.nesting,
        nestingAt_expr, Nat.zero_add]
      exact hbrackets
  simp only [ofText, htokens, ofTokens_of_sentence hsentence]

/-- There is a text for an expression exactly if its literals are digits with one point at most that
start with a digit, its operations nest to 180 at most, and the brackets that precedence and
association to the left force nest to 100 at most. -/
theorem exists_ofText_iff (tree : Expr) :
    (∃ code, ofText code = .ok tree) ↔
      tree.IsReadable ∧ tree.depth ≤ 180 ∧ tree.requiredNesting ≤ 100 := by
  constructor
  · rintro ⟨code, h⟩
    obtain ⟨hreadable, hdepth⟩ := isReadable_of_ofText h
    obtain ⟨tokens, -, hsentence⟩ := sentence_of_ofText h
    have hle := hsentence.derives.nestingAt_le 0
    rw [nestingAt_expr, Nat.zero_add] at hle
    exact ⟨hreadable, hdepth, Nat.le_trans hle hsentence.brackets⟩
  · rintro ⟨hreadable, hoperations, hbrackets⟩
    exact ⟨_, hreadable.ofText_spelledOut hoperations hbrackets⟩

end Expr

end ExprCompiler
