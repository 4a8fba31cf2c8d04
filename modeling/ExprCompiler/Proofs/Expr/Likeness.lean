import ExprCompiler.Proofs.Expr.Unambiguity
import ExprCompiler.Proofs.Token.Spelling

/-!
# Expressions that say the same

Tokens that say the same (`Token.meaning`) form the same parts of expressions and nest the same
brackets, wherever they stand.
-/

namespace ExprCompiler

/-- Tokens that say the same form the same part of an expression. -/
theorem Derives.of_meaning {rule : Rule} {tokens : List Token} {tree : Expr}
    (h : Derives rule tokens tree) :
    ∀ {others : List Token}, others.map Token.meaning = tokens.map Token.meaning →
      Derives rule others tree := by
  induction h with
  | @number token hkind =>
    intro others hothers
    obtain ⟨other, rfl, hother⟩ := List.map_eq_singleton_iff.1 hothers
    rw [← Token.lexeme_eq_of_meaning hother hkind]
    exact .number (Token.kind_eq_of_meaning hother ▸ hkind)
  | brackets hopening _ hclosing ih =>
    intro others hothers
    rw [List.map_cons, List.map_append] at hothers
    obtain ⟨opening', rest', rfl, hopening', hrest'⟩ := List.map_eq_cons_iff.1 hothers
    obtain ⟨inner', last', rfl, hinner', hlast'⟩ := List.map_eq_append_iff.1 hrest'
    obtain ⟨closing', rfl, hclosing'⟩ := List.map_eq_singleton_iff.1 hlast'
    exact .brackets (Token.kind_eq_of_meaning hopening' ▸ hopening) (ih hinner')
      (Token.kind_eq_of_meaning hclosing' ▸ hclosing)
  | single hrule _ ih => exact fun hothers => .single hrule (ih hothers)
  | chain hrule _ hsign _ ihleft ihright =>
    intro others hothers
    rw [List.map_append, List.map_cons] at hothers
    obtain ⟨left', rest', rfl, hleft', hrest'⟩ := List.map_eq_append_iff.1 hothers
    obtain ⟨sign', right', rfl, hsign', hright'⟩ := List.map_eq_cons_iff.1 hrest'
    exact .chain hrule (ihleft hleft') (Token.kind_eq_of_meaning hsign' ▸ hsign) (ihright hright')

theorem bracketNesting_of_kinds {tokens : List Token} :
    ∀ {others : List Token} (opened : Nat), others.map Token.kind = tokens.map Token.kind →
      bracketNesting opened others = bracketNesting opened tokens := by
  induction tokens with
  | nil =>
    intro others opened h
    rw [List.map_eq_nil_iff.1 h]
  | cons token rest ih =>
    intro others opened h
    obtain ⟨other, rest', rfl, hkind, hrest⟩ := List.map_eq_cons_iff.1 h
    rw [bracketNesting, bracketNesting, hkind]
    split
    · exact ih _ hrest
    · rw [ih _ hrest]
    · exact ih _ hrest

end ExprCompiler
