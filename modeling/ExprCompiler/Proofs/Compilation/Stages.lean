import ExprCompiler.Compilation.Pipeline
import ExprCompiler.Proofs.Expr.Readable
import ExprCompiler.Proofs.Units.Writing
import Mathlib.Data.List.Forall2

/-!
# The stages of compiling

A text is compiled in stages, and the first stage that fails decides how all of it ends. `Compiles`
lists the ways to end, each with what the stages before have made, and `compile` ends in the one way
that it lists (`compile_eq_iff`). A run follows from it: a runner is asked for the artifacts of the
texts that compile, in their order, and for nothing else (`runEach_recording`).
-/

namespace ExprCompiler

/-- `Compiles code unitName outcome`: compiling the text under the name ends with the outcome. -/
inductive Compiles (code unitName : String) : Except RunError CompiledUnit → Prop where
  /-- A character of the text belongs to no lexeme. -/
  | stray {error : LexError} (htokens : tokensOf code = .error error) :
      Compiles code unitName (.error (.reading (.lexical error)))
  /-- The text is cut into tokens, and these break a rule of the grammar. -/
  | ungrammatical {tokens : List Token} {error : ParseError} (htokens : tokensOf code = .ok tokens)
      (hexpr : Expr.ofTokens tokens (some code) = .error (.grammatical error)) :
      Compiles code unitName (.error (.reading (.grammatical error)))
  /-- The tokens are read, and the name is no identifier. -/
  | misnamed {tokens : List Token} {expr : Expr} (htokens : tokensOf code = .ok tokens)
      (hexpr : Expr.ofTokens tokens (some code) = .ok expr)
      (hname : isIdentifier unitName = false) :
      Compiles code unitName (.error (.emitting (.invalidUnitName unitName)))
  /-- The tokens are read, and the name is an identifier. -/
  | compiled {tokens : List Token} {expr : Expr} {artifact source : String}
      (htokens : tokensOf code = .ok tokens) (hexpr : Expr.ofTokens tokens (some code) = .ok expr)
      (hartifact : expr.artifact = .ok artifact) (hname : isIdentifier unitName = true)
      (hsource : unitSource unitName artifact = .ok source) :
      Compiles code unitName (.ok { code, expr, artifact, unitName, source })

/-! ## Compiling -/

section Compile

variable {code unitName artifact source : String} {expr : Expr}

theorem Expr.ofText_of_tokensOf {tokens : List Token} (h : tokensOf code = .ok tokens) :
    ofText code = ofTokens tokens (some code) := by
  rw [ofText, h]

theorem compile_of_failure {failure : ParseFailure} (h : Expr.ofText code = .error failure)
    (unitName : String) : compile code unitName = .error (.reading failure) := by
  rw [compile, h]
  rfl

theorem compile_of_artifact (hcode : Expr.ofText code = .ok expr)
    (hartifact : expr.artifact = .ok artifact) (unitName : String) :
    compile code unitName =
      match unitSource unitName artifact with
      | .ok source => .ok { code, expr, artifact, unitName, source }
      | .error error => .error (.emitting error) := by
  simp only [compile, hcode, hartifact, Except.mapError, bind, Except.bind]
  cases unitSource unitName artifact <;> rfl

theorem compiles_compile (code unitName : String) :
    Compiles code unitName (compile code unitName) := by
  cases htokens : tokensOf code with
  | error error =>
    have hcode : Expr.ofText code = .error (.lexical error) := by rw [Expr.ofText, htokens]
    rw [compile_of_failure hcode]
    exact .stray htokens
  | ok tokens =>
    have hcode := Expr.ofText_of_tokensOf htokens
    rcases Expr.ofTokens_cases tokens (some code) with ⟨expr, hexpr, -⟩ | ⟨error, hexpr⟩
    · rw [hexpr] at hcode
      -- What was read always has an artifact, so only the name can still be refused.
      have hartifact := (Expr.isReadable_of_ofText hcode).1.artifact_eq
      rw [compile_of_artifact hcode hartifact]
      cases hname : isIdentifier unitName with
      | true =>
        obtain ⟨source, hsource⟩ := unitSource_eq_ok hname (.ofList expr.spelled)
        rw [hsource]
        exact .compiled htokens hexpr hartifact hname hsource
      | false =>
        rw [unitSource_eq_error hname]
        exact .misnamed htokens hexpr hname
    · rw [hexpr] at hcode
      rw [compile_of_failure hcode]
      exact .ungrammatical htokens hexpr

variable {outcome outcome' : Except RunError CompiledUnit}

theorem Compiles.unique (h : Compiles code unitName outcome) (h' : Compiles code unitName outcome') :
    outcome = outcome' := by
  cases h <;> cases h' <;> simp_all

/-- Compiling ends in the one way that is listed. -/
theorem compile_eq_iff : compile code unitName = outcome ↔ Compiles code unitName outcome := by
  constructor
  · rintro rfl
    exact compiles_compile code unitName
  · intro h
    exact (compiles_compile code unitName).unique h

theorem compiles_cases (code unitName : String) :
    (∃ compiled, Compiles code unitName (.ok compiled)) ∨
      ∃ error, Compiles code unitName (.error error) := by
  have hcompiles := compiles_compile code unitName
  cases hcompile : compile code unitName with
  | ok compiled => exact .inl ⟨compiled, hcompile ▸ hcompiles⟩
  | error error => exact .inr ⟨error, hcompile ▸ hcompiles⟩

theorem Compiles.unitName_eq {compiled : CompiledUnit} (h : Compiles code unitName (.ok compiled)) :
    compiled.unitName = unitName := by
  cases h
  rfl

end Compile

/-! ## Running -/

section Run

variable {σ : Type} {code unitName : String}

theorem Compiles.run_of_error {error : RunError} (h : Compiles code unitName (.error error))
    (runner : Runner σ) (state : σ) :
    (run runner code unitName).run.run state = (.error error, state) := by
  rw [run, compile_eq_iff.2 h]
  rfl

/-- A text that compiles is run as its artifact is. -/
theorem Compiles.run_of_ok {compiled : CompiledUnit} (h : Compiles code unitName (.ok compiled))
    (runner : Runner σ) (state : σ) :
    (run runner code unitName).run.run state =
      (((runner.evaluate compiled.artifact unitName).run.run state).1.mapError .executing,
        ((runner.evaluate compiled.artifact unitName).run.run state).2) := by
  rw [run, compile_eq_iff.2 h, ← h.unitName_eq]
  rfl

end Run

/-! ## A runner that keeps what it is asked for -/

/-- `Records result (code, unitName) (outcome, calls)`: a run of the text under the name, with a
runner that returns `result` each time, ends with the outcome and makes these calls of the runner. -/
inductive Records (result : Float) :
    String × String → Except RunError Float × List (String × String) → Prop where
  /-- The artifact of a text that compiles reaches the runner. -/
  | called {code unitName : String} {compiled : CompiledUnit}
      (h : Compiles code unitName (.ok compiled)) :
      Records result (code, unitName) (.ok result, [(compiled.artifact, unitName)])
  /-- Of any other text nothing does. -/
  | refused {code unitName : String} {error : RunError}
      (h : Compiles code unitName (.error error)) :
      Records result (code, unitName) (.error error, [])

theorem exists_records (result : Float) (code unitName : String) :
    ∃ outcome added, Records result (code, unitName) (outcome, added) ∧
      ∀ calls, (run (.recording result) code unitName).run.run calls = (outcome, calls ++ added) := by
  rcases compiles_cases code unitName with ⟨compiled, hcompiles⟩ | ⟨error, hcompiles⟩
  · refine ⟨.ok result, [(compiled.artifact, unitName)], .called hcompiles, ?_⟩
    intro calls
    rw [hcompiles.run_of_ok]
    rfl
  · refine ⟨.error error, [], .refused hcompiles, ?_⟩
    intro calls
    rw [hcompiles.run_of_error, List.append_nil]

theorem runEach_cons {σ : Type} (runner : Runner σ) (code unitName : String)
    (rest : List (String × String)) (state : σ) :
    (runEach runner ((code, unitName) :: rest)).run state =
      (((run runner code unitName).run.run state).1 ::
          ((runEach runner rest).run ((run runner code unitName).run.run state).2).1,
        ((runEach runner rest).run ((run runner code unitName).run.run state).2).2) := by
  rw [runEach, List.mapM_cons]
  rfl

/-- Whichever texts are run, the runner is called with the artifacts and names of those that compile,
in the order of the texts. These runs return what the runner returns; every other one leaves the
calls as they are and fails as the first of its stages that fails. -/
theorem runEach_recording (result : Float) (runs : List (String × String)) :
    ∃ done, List.Forall₂ (Records result) runs done ∧
      ∀ calls, (runEach (.recording result) runs).run calls =
        (done.map Prod.fst, calls ++ done.flatMap Prod.snd) := by
  induction runs with
  | nil =>
    refine ⟨[], .nil, ?_⟩
    intro calls
    rw [List.flatMap_nil, List.append_nil]
    rfl
  | cons first rest ih =>
    obtain ⟨code, unitName⟩ := first
    obtain ⟨outcome, added, hfirst, hrun⟩ := exists_records result code unitName
    obtain ⟨done, hrest, hruns⟩ := ih
    refine ⟨(outcome, added) :: done, .cons hfirst hrest, ?_⟩
    intro calls
    rw [runEach_cons, hrun, hruns, List.map_cons, List.flatMap_cons, List.append_assoc]

end ExprCompiler
