import ExprCompiler.Proofs.Expr.Consumption
import ExprCompiler.Proofs.Expr.RoundTrip
import ExprCompiler.Proofs.Text.BracketNesting
import ExprCompiler.Script.Lexeme

/-!
# How deep artifacts nest

The depth that a reader counts while it reads is the depth of the brackets in the artifact of what it
has read, since an artifact has a pair of brackets for each operation (`nesting_of_read`). So the limit
on operations keeps all artifacts within the limit on brackets in scripts.
-/

namespace ExprCompiler

/-- No lexeme of a number holds a bracket. -/
def NumbersHoldNoBrackets (tokens : List Token) : Prop :=
  ∀ token ∈ tokens, token.kind = .number →
    '(' ∉ token.lexeme.toList ∧ ')' ∉ token.lexeme.toList

theorem mem_pointedText {text : String} {c : Char} (h : c ∈ (pointedText text).toList) :
    c ∈ text.toList ∨ c = '.' ∨ c = '0' := by
  unfold pointedText at h
  split at h
  · exact .inl h
  · rw [String.toList_append, List.mem_append] at h
    exact h.imp_right fun hc => by simpa using hc

theorem IsNumberText.not_mem_bracket {text : String} (h : IsNumberText text) :
    '(' ∉ text.toList ∧ ')' ∉ text.toList := by
  constructor
  · intro hmem
    exact absurd (h.characters '(' hmem) (by decide)
  · intro hmem
    exact absurd (h.characters ')' hmem) (by decide)

/-- The sign of an operation is no bracket. -/
theorem BinaryOp.nestsBrackets_sign (op : BinaryOp) : NestsBrackets [op.sign] 0 := by
  cases op <;> exact .of_not_mem (by decide) (by decide)

namespace Expr

/-- An operation nests one bracket more than the deeper operand. -/
theorem nestsBrackets_binary {left right : Expr} (hleft : NestsBrackets left.spelled left.depth)
    (hright : NestsBrackets right.spelled right.depth) (op : BinaryOp) :
    NestsBrackets (binary op left right).spelled (binary op left right).depth := by
  have hinner := (hleft.append op.nestsBrackets_sign).append hright
  rw [Nat.max_eq_left (Nat.zero_le left.depth)] at hinner
  have hspelled : (binary op left right).spelled =
      '(' :: ((left.spelled ++ [op.sign] ++ right.spelled) ++ [')']) := by
    simp only [spelled, List.append_assoc, List.cons_append, List.nil_append]
  rw [hspelled, depth]
  exact hinner.enclose

theorem nestsBrackets_number {text : String}
    (h : '(' ∉ text.toList ∧ ')' ∉ text.toList) :
    NestsBrackets (number text).spelled (number text).depth := by
  refine .of_not_mem (fun hmem => ?_) fun hmem => ?_
  · rcases mem_pointedText hmem with hmem | hmem
    · exact h.1 hmem
    · simp at hmem
  · rcases mem_pointedText hmem with hmem | hmem
    · exact h.2 hmem
    · simp at hmem

end Expr

namespace Derives

variable {rule : Rule} {tokens : List Token} {tree : Expr}

/-- What tokens form has an artifact. -/
theorem artifact_eq (h : Derives rule tokens tree) : tree.artifact = .ok (.ofList tree.spelled) := by
  induction h with
  | number _ => exact Expr.artifact_number_eq _
  | brackets _ _ _ ih => exact ih
  | single _ _ ih => exact ih
  | chain _ _ _ _ ihleft ihright => exact Expr.artifact_binary_eq ihleft ihright _

/-- The artifact nests as deep as the operations do. -/
theorem nestsBrackets (h : Derives rule tokens tree) (hnumbers : NumbersHoldNoBrackets tokens) :
    NestsBrackets tree.spelled tree.depth := by
  induction h with
  | number hkind => exact Expr.nestsBrackets_number (hnumbers _ List.mem_cons_self hkind)
  | brackets _ _ _ ih => exact ih fun token hmem => hnumbers token (by simp [hmem])
  | single _ _ ih => exact ih hnumbers
  | chain _ _ _ _ ihleft ihright =>
    exact Expr.nestsBrackets_binary (ihleft fun token hmem => hnumbers token (by simp [hmem]))
      (ihright fun token hmem => hnumbers token (by simp [hmem])) _

end Derives

open TokenReader

theorem Expr.nestsBrackets_of_ofText {code : String} {tree : Expr} (h : ofText code = .ok tree) :
    NestsBrackets tree.spelled tree.depth := by
  obtain ⟨tokens, -, hsentence⟩ := sentence_of_ofText h
  obtain ⟨hreadable, -⟩ := isReadable_of_ofText h
  refine hsentence.derives.nestsBrackets fun token hmem hkind => ?_
  exact (hsentence.derives.forall_isNumberText hreadable token hmem hkind).not_mem_bracket

/-- Whatever state a reader is in, the part of an expression that it reads has the depth that it
counts, which is within the limit, and the part has an artifact. If no number that was consumed for
it holds a bracket, then the brackets of the artifact are balanced and nest just that deep. So the
artifact of each text that can be read nests at most 180 brackets, of the 200 that a script may. -/
theorem nesting_of_read :
    (∀ (rule : Rule) (p q : TokenReader) (tree : Subtree), read rule p = .ok tree q →
      tree.depth = tree.expr.depth ∧ tree.depth ≤ 180 ∧
        ∃ consumed text, p.upcoming = consumed ++ q.upcoming ∧ tree.expr.artifact = .ok text ∧
          (NumbersHoldNoBrackets consumed → NestsBrackets text.toList tree.depth)) ∧
    ∀ (code : String) (tree : Expr), Expr.ofText code = .ok tree →
      ∃ text depth, tree.artifact = .ok text ∧ NestsBrackets text.toList depth ∧ depth ≤ 180 ∧
        depth ≤ Script.maxNesting := by
  constructor
  · intro rule p q tree h
    obtain ⟨consumed, hreads⟩ := readsTokens_of_read h
    refine ⟨hreads.depth_eq, hreads.depth_le, consumed, _, hreads.upcoming_eq,
      hreads.derives.artifact_eq, fun hnumbers => ?_⟩
    rw [String.toList_ofList, hreads.depth_eq]
    exact hreads.derives.nestsBrackets hnumbers
  · intro code tree h
    obtain ⟨hreadable, hdepth⟩ := Expr.isReadable_of_ofText h
    refine ⟨_, tree.depth, hreadable.artifact_eq, ?_, hdepth, Nat.le_trans hdepth (by decide)⟩
    rw [String.toList_ofList]
    exact Expr.nestsBrackets_of_ofText h

/-- Two operations are two brackets, to the reader of the tokens and to who reads the whole text. -/
theorem nesting_of_read_product :
    let product : Expr := .binary .mul (.binary .add (.number "1.0") (.number "2.0")) (.number "3.0")
    (∃ tokens p q, tokensOf "((1.0+2.0)*3.0)" = .ok tokens ∧
      start (.ofList tokens) none = .ok p ∧
      read .expr p = .ok { expr := product, depth := 2 } q ∧
      NestsBrackets "((1.0+2.0)*3.0)".toList 2) ∧
    Expr.ofText "((1.0+2.0)*3.0)" = .ok product ∧
      ∃ depth, NestsBrackets "((1.0+2.0)*3.0)".toList depth ∧ depth ≤ Script.maxNesting := by
  intro product
  have hone : IsNumberText "1.0" := ⟨⟨'1', rfl, rfl⟩, by simp, by decide⟩
  have htwo : IsNumberText "2.0" := ⟨⟨'2', rfl, rfl⟩, by simp, by decide⟩
  have hthree : IsNumberText "3.0" := ⟨⟨'3', rfl, rfl⟩, by simp, by decide⟩
  have hreadable : product.IsReadable := ⟨⟨hone, htwo⟩, hthree⟩
  have hartifact : product.artifact = .ok "((1.0+2.0)*3.0)" := hreadable.artifact_eq
  have hcode : Expr.ofText "((1.0+2.0)*3.0)" = .ok product := hreadable.ofText_of_le (by decide)
  refine ⟨?_, hcode, ?_⟩
  · obtain ⟨tokens, htokens, hsentence⟩ := Expr.sentence_of_ofText hcode
    obtain ⟨p, hstart, hp⟩ := start_ofList tokens none
    obtain ⟨q, hread, hq⟩ := hp.read_of_sentence hsentence
    obtain ⟨-, -, consumed, text, hconsumed, htext, hnests⟩ :=
      nesting_of_read.1 .expr p q (.ofExpr product) hread
    obtain rfl : consumed = untilEnd tokens := by
      rw [upcoming, hp.upcoming, upcoming, hq.upcoming, List.append_nil] at hconsumed
      exact hconsumed.symm
    obtain rfl : text = "((1.0+2.0)*3.0)" := Except.ok.inj (htext.symm.trans hartifact)
    refine ⟨tokens, p, q, htokens, hstart, hread, hnests fun token hmem hkind => ?_⟩
    exact (hsentence.derives.forall_isNumberText hreadable token hmem hkind).not_mem_bracket
  · obtain ⟨text, depth, htext, hnests, -, hle⟩ := nesting_of_read.2 _ product hcode
    obtain rfl : text = "((1.0+2.0)*3.0)" := Except.ok.inj (htext.symm.trans hartifact)
    exact ⟨depth, hnests, hle⟩

end ExprCompiler
