import ExprCompiler.Compilation.Pipeline
import ExprCompiler.Proofs.Expr.RoundTrip
import ExprCompiler.Proofs.Units.Loading

/-!
# Running agrees with evaluating

For every text that can be read, compiling and running it gives the double that evaluating its tree
gives, and the one fails exactly if the other does, which is at a division by zero
(`run_eq_evaluate`). It makes no difference whether units are kept in memory or in files.
-/

namespace ExprCompiler

/-- The result of running a text, where units are kept in a directory, if there is one. -/
def runResult (directory : Option String) (store : FileStore) (code unitName : String) :
    Except RunError Float :=
  ((run (Runner.inPlace directory) code unitName).run.run store).1

variable {artifact unitName source code : String} {expr : Expr}

/-- What a unit's source does does not depend on where it is kept. -/
theorem Runner.evaluate_inPlace (hsource : unitSource unitName artifact = .ok source)
    (directory : Option String) (store : FileStore) :
    (((Runner.inPlace directory).evaluate artifact unitName).run.run store).1 =
      (evaluateSource source).mapError fun fault => { unitName, fault } := by
  cases directory with
  | none =>
    simp only [inPlace, inMemory, hsource]
    rfl
  | some directory =>
    have hread := store.read_write_self (unitPath directory unitName).resolved source
    simp only [inPlace, inDirectory, hsource]
    change (evaluateSource ((store.write (unitPath directory unitName).resolved source).read
      (unitPath directory unitName).resolved)).mapError _ = _
    rw [hread]

/-- A text that can be read is run as the unit of its tree is. -/
theorem runResult_eq (hcode : Expr.ofText code = .ok expr)
    (hartifact : expr.artifact = .ok artifact) (hsource : unitSource unitName artifact = .ok source)
    (directory : Option String) (store : FileStore) :
    runResult directory store code unitName =
      (evaluateSource source).mapError fun fault => .executing { unitName, fault } := by
  have hcompile : compile code unitName = .ok { code, expr, artifact, unitName, source } := by
    simp only [compile, hcode, hartifact, hsource, Except.mapError, bind, Except.bind]
    rfl
  have hevaluate := Runner.evaluate_inPlace hsource directory store
  have hrun : runResult directory store code unitName =
      (((Runner.inPlace directory).evaluate artifact unitName).run.run store).1.mapError
        .executing := by
    simp only [runResult, run, hcompile]
    rfl
  rw [hrun, hevaluate]
  cases evaluateSource source <;> rfl

/-- A text that can be read is run to the value of its tree, or both divide by zero. -/
theorem runResult_cases (hcode : Expr.ofText code = .ok expr)
    (hname : isIdentifier unitName = true) (directory : Option String) (store : FileStore) :
    (∃ x, expr.evaluate = .ok x ∧ runResult directory store code unitName = .ok x) ∨
      (expr.evaluate = .error .divisionByZero ∧ runResult directory store code unitName =
        .error (.executing { unitName, fault := .running (.divisionByZero true) })) := by
  obtain ⟨hreadable, hdepth⟩ := Expr.isReadable_of_ofText hcode
  obtain ⟨source, hsource⟩ : ∃ source, unitSource unitName (.ofList expr.spelled) = .ok source :=
    ⟨_, if_pos hname⟩
  have hrun := runResult_eq hcode hreadable.artifact_eq hsource directory store
  rcases hreadable.evaluateSource_cases hdepth hname hsource with ⟨x, hx, hvalue⟩ | ⟨hx, hfault⟩
  · refine .inl ⟨x, hx, ?_⟩
    rw [hrun, hvalue]
    rfl
  · refine .inr ⟨hx, ?_⟩
    rw [hrun, hfault]
    rfl

/-- A text that can be read is run to the double that its tree is evaluated to, in memory and in a
directory. Running fails exactly if evaluating fails; the one error is then that of a unit of the
given name that divides by zero while it runs, and the other a division by zero too. -/
theorem run_eq_evaluate (hcode : Expr.ofText code = .ok expr)
    (hname : isIdentifier unitName = true) (directory : Option String) (store : FileStore) :
    (∀ x, runResult directory store code unitName = .ok x ↔ expr.evaluate = .ok x) ∧
    ((∃ error, runResult directory store code unitName = .error error) ↔
      ∃ error, expr.evaluate = .error error) ∧
    (∀ error, runResult directory store code unitName = .error error →
      error = .executing { unitName, fault := .running (.divisionByZero true) }) ∧
    (∀ error, expr.evaluate = .error error → error = .divisionByZero) ∧
    (UnitFault.running (.divisionByZero true)).reason =
      "Evaluation failed: float division by zero" ∧
    EvalError.divisionByZero.message =
      "[Execution error] Division failed: float division by zero" := by
  have hreason : (UnitFault.running (.divisionByZero true)).reason =
      "Evaluation failed: float division by zero" := by decide
  rcases runResult_cases hcode hname directory store with ⟨x, hx, hrun⟩ | ⟨hx, hrun⟩
  · rw [hx, hrun]
    refine ⟨?_, ?_, ?_, ?_, hreason, rfl⟩ <;> simp
  · rw [hx, hrun]
    refine ⟨?_, ?_, ?_, ?_, hreason, rfl⟩ <;> simp [eq_comm]

theorem run_eq_evaluate_of_quotient :
    Expr.ofText "(7.0/(007.0-5.))" =
        .ok (.binary .div (.number "7.0") (.binary .sub (.number "007.0") (.number "5."))) ∧
      isIdentifier "unit7" = true ∧
      ∀ x, runResult (some "out") {} "(7.0/(007.0-5.))" "unit7" = .ok x ↔
        (Expr.binary .div (.number "7.0") (.binary .sub (.number "007.0") (.number "5."))).evaluate =
          .ok x := by
  have hseven : IsNumberText "7.0" := ⟨⟨'7', rfl, rfl⟩, by simp, by decide⟩
  have hpadded : IsNumberText "007.0" := ⟨⟨'0', rfl, rfl⟩, by simp, by decide⟩
  have hfive : IsNumberText "5." := ⟨⟨'5', rfl, rfl⟩, by simp, by decide⟩
  have hreadable : (Expr.binary .div (.number "7.0")
      (.binary .sub (.number "007.0") (.number "5."))).IsReadable := ⟨hseven, hpadded, hfive⟩
  have hcode : Expr.ofText "(7.0/(007.0-5.))" =
      .ok (.binary .div (.number "7.0") (.binary .sub (.number "007.0") (.number "5."))) :=
    hreadable.ofText_of_le (by decide)
  have hname : isIdentifier "unit7" = true := by decide
  exact ⟨hcode, hname, (run_eq_evaluate hcode hname (some "out") {}).1⟩

end ExprCompiler
