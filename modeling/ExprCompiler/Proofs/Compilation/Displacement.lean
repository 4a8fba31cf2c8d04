import ExprCompiler.Proofs.Compilation.Stages
import ExprCompiler.Proofs.Expr.Displacement

/-!
# Compiling texts with the same words

Blanks between words show nowhere but in the excerpts of messages: texts whose tokens differ in nothing
but their places are compiled to the same unit, or fail in the same way
(`compiling_ignores_positions`).
-/

namespace ExprCompiler

open TokenReader

/-- Compiling ends in the same way, up to the places of tokens and the excerpts of texts. -/
inductive CompilesAlike :
    Except RunError CompiledUnit → Except RunError CompiledUnit → Prop where
  /-- Everything that is made of the texts is the same. -/
  | compiled {compiled compiled' : CompiledUnit} (hexpr : compiled.expr = compiled'.expr)
      (hartifact : compiled.artifact = compiled'.artifact)
      (hunitName : compiled.unitName = compiled'.unitName)
      (hsource : compiled.source = compiled'.source) :
      CompilesAlike (.ok compiled) (.ok compiled')
  /-- The texts have the same fault. -/
  | reading {error error' : ParseError} (h : error.SameVerdict error') :
      CompilesAlike (.error (.reading (.grammatical error)))
        (.error (.reading (.grammatical error')))
  /-- The same unit cannot be made. -/
  | emitting (error : ArtifactError) :
      CompilesAlike (.error (.emitting error)) (.error (.emitting error))

section Texts

variable {code code' : String} {expr : Expr}

/-- What is made of an expression does not depend on the text that describes it. -/
theorem compilesAlike_of_ofText (hcode : Expr.ofText code = .ok expr)
    (hcode' : Expr.ofText code' = .ok expr) (unitName : String) :
    CompilesAlike (compile code unitName) (compile code' unitName) := by
  have hartifact := (Expr.isReadable_of_ofText hcode).1.artifact_eq
  rw [compile_of_artifact hcode hartifact, compile_of_artifact hcode' hartifact]
  cases unitSource unitName (.ofList expr.spelled) with
  | ok source => exact .compiled rfl rfl rfl rfl
  | error error => exact .emitting error

theorem compilesAlike_of_tokensOf {tokens tokens' : List Token}
    (h : List.Forall₂ Token.SameWord tokens tokens') (htokens : tokensOf code = .ok tokens)
    (htokens' : tokensOf code' = .ok tokens') (unitName : String) :
    CompilesAlike (compile code unitName) (compile code' unitName) := by
  have hcode := Expr.ofText_of_tokensOf htokens
  have hcode' := Expr.ofText_of_tokensOf htokens'
  rcases Expr.ofTokens_of_sameWord h (some code) (some code') with
    ⟨expr, hexpr, hexpr'⟩ | ⟨error, error', herror, herror', hverdict⟩
  · exact compilesAlike_of_ofText (hcode.trans hexpr) (hcode'.trans hexpr') unitName
  · rw [compile_of_failure (hcode.trans herror), compile_of_failure (hcode'.trans herror')]
    exact .reading hverdict

end Texts

/-- Where words stand makes no difference. Readers of two lists with the same words do the same,
whatever they are asked for: they give the same parts of expressions, or fail for the same reason at
the same word, and are always in as many brackets. So texts with the same words compile to the same
unit, or fail alike. -/
theorem compiling_ignores_positions {tokens tokens' : List Token}
    (h : List.Forall₂ Token.SameWord tokens tokens') :
    (∀ (source source' : Option String) (requests : List ParseRequest), ∃ p q,
      start (.ofList tokens) source = .ok p ∧ start (.ofList tokens') source' = .ok q ∧
        p.SameOutlook q ∧
        List.Forall₂ SameStep (p.performEach requests) (q.performEach requests)) ∧
    ∀ code code' unitName : String, tokensOf code = .ok tokens → tokensOf code' = .ok tokens' →
      CompilesAlike (compile code unitName) (compile code' unitName) := by
  constructor
  · intro source source' requests
    refine ⟨_, _, start_ofList_eq tokens source, start_ofList_eq tokens' source', ?_, ?_⟩
    · exact Displaced.sameOutlook h ⟨0, 0, rfl, rfl⟩
    · exact sameStep_performEach h source source' requests
  · intro code code' unitName htokens htokens'
    exact compilesAlike_of_tokensOf h htokens htokens' unitName

/-- A number behind a number, with blanks and without. -/
theorem compiling_ignores_positions_blanks :
    let tokens : List Token :=
      [⟨.bracketOpen, "(", 0⟩, ⟨.number, "1", 1⟩, ⟨.number, "2", 3⟩, ⟨.exprEnd, "", 4⟩]
    let tokens' : List Token :=
      [⟨.bracketOpen, "(", 1⟩, ⟨.number, "1", 3⟩, ⟨.number, "2", 6⟩, ⟨.exprEnd, "", 8⟩]
    List.Forall₂ Token.SameWord tokens tokens' ∧ tokensOf "(1 2" = .ok tokens ∧
      tokensOf " ( 1  2 " = .ok tokens' ∧
      CompilesAlike (compile "(1 2" "Unit1") (compile " ( 1  2 " "Unit1") := by
  intro tokens tokens'
  have hwords : List.Forall₂ Token.SameWord tokens tokens' :=
    .cons ⟨rfl, rfl⟩ (.cons ⟨rfl, rfl⟩ (.cons ⟨rfl, rfl⟩ (.cons ⟨rfl, rfl⟩ .nil)))
  have htokens : tokensOf "(1 2" = .ok tokens := by decide +kernel
  have htokens' : tokensOf " ( 1  2 " = .ok tokens' := by decide +kernel
  exact ⟨hwords, htokens, htokens',
    (compiling_ignores_positions hwords).2 _ _ "Unit1" htokens htokens'⟩

end ExprCompiler
