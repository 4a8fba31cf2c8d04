import ExprCompiler.Compilation.Session
import ExprCompiler.Proofs.Compilation.Agreement
import ExprCompiler.Proofs.Compilation.Stages

/-!
# Steps of a session do not bear on one another

What a step gives follows from its name and its task. Nothing that earlier steps have left behind, in
memory or in files, takes part in it, so a step gives what its task gives in a session of its own
(`Session.stepEach_eq_alone`).
-/

namespace ExprCompiler

/-- What a task gives under a name, with a fresh runner in memory and no files. -/
def SessionTask.alone (task : SessionTask) (unitName : String) : SessionAnswer :=
  let session : Session := { supplies := [], store := ⟨[], List.nodup_nil⟩ }
  (session.step .inMemory { name := .given unitName, task }).1

/-! ## Running an artifact -/

/-- A unit gives the same in a directory, whatever is there, as in memory. -/
theorem Runner.evaluate_inPlace_eq (directory : Option String) (artifact unitName : String)
    (store store' : FileStore) :
    (((inPlace directory).evaluate artifact unitName).run.run store).1 =
      ((inMemory.evaluate artifact unitName).run.run store').1 := by
  cases hname : isIdentifier unitName with
  | true =>
    obtain ⟨source, hsource⟩ := unitSource_eq_ok hname artifact
    have hmemory := evaluate_inPlace hsource none store'
    rw [evaluate_inPlace hsource]
    exact hmemory.symm
  | false =>
    have hsource := unitSource_eq_error hname artifact
    cases directory with
    | none =>
      simp only [inPlace, inMemory, hsource]
      rfl
    | some directory =>
      simp only [inPlace, inDirectory, inMemory, hsource]
      rfl

/-! ## Doing a task -/

theorem Run.run_some {σ α : Type} (x : Run σ α) (state : σ) :
    (do return some (← x) : Run σ (Option α)).run.run state =
      ((x.run.run state).1.map some, (x.run.run state).2) := by
  rw [ExceptT.run_bind, StateT.run_bind]
  rcases x.run.run state with ⟨_ | _, after⟩ <;> rfl

namespace Session

variable (runner : Runner FileStore) (unitName : String) (store : FileStore)

theorem perform_evaluate (artifact : String) :
    (perform runner unitName (.evaluate artifact)).run.run store =
      ((((runner.evaluate artifact unitName).run.run store).1.mapError RunError.executing).map some,
        ((runner.evaluate artifact unitName).run.run store).2) :=
  Run.run_some _ store

theorem perform_run (code : String) :
    (perform runner unitName (.run code)).run.run store =
      (((run runner code unitName).run.run store).1.map some,
        ((run runner code unitName).run.run store).2) :=
  Run.run_some _ store

/-- A task gives the same whatever was done before, and wherever units are kept. -/
theorem perform_inPlace_eq (directory : Option String) (task : SessionTask)
    (store' : FileStore) :
    ((perform (.inPlace directory) unitName task).run.run store).1 =
      ((perform .inMemory unitName task).run.run store').1 := by
  cases task with
  | nothing => rfl
  | evaluate artifact =>
    have hevaluate := Runner.evaluate_inPlace_eq directory artifact unitName store store'
    rw [perform_evaluate, perform_evaluate, hevaluate]
  | run code =>
    rw [perform_run, perform_run]
    rcases compiles_cases code unitName with ⟨compiled, hcompiles⟩ | ⟨error, hcompiles⟩
    · have hevaluate :=
        Runner.evaluate_inPlace_eq directory compiled.artifact unitName store store'
      rw [hcompiles.run_of_ok, hcompiles.run_of_ok, hevaluate]
    · rw [hcompiles.run_of_error, hcompiles.run_of_error]

end Session

/-! ## Steps -/

namespace Session

variable {session session' : Session}

/-- Names come from the supplies alone. -/
theorem takeName_congr (h : session.supplies = session'.supplies) (name : NameSource) :
    (session.takeName name).1 = (session'.takeName name).1 ∧
      (session.takeName name).2.supplies = (session'.takeName name).2.supplies := by
  cases name with
  | given name => exact ⟨rfl, h⟩
  | taken index =>
    constructor <;> simp only [takeName, h]

theorem step_eq_alone (directory : Option String) (session : Session) (step : SessionStep) :
    (session.step (.inPlace directory) step).1 =
      step.task.alone (session.takeName step.name).1 := by
  have hresult := perform_inPlace_eq (session.takeName step.name).1
    (session.takeName step.name).2.store directory step.task {}
  have hstep : (session.step (.inPlace directory) step).1 =
      { unitName := (session.takeName step.name).1
        result := ((perform (.inPlace directory) (session.takeName step.name).1 step.task).run.run
          (session.takeName step.name).2.store).1 } := rfl
  rw [hstep, hresult]
  rfl

/-- Sessions with the same supplies take the same steps. -/
theorem step_congr (h : session.supplies = session'.supplies) (directory directory' : Option String)
    (step : SessionStep) :
    (session.step (.inPlace directory) step).1 = (session'.step (.inPlace directory') step).1 ∧
      (session.step (.inPlace directory) step).2.supplies =
        (session'.step (.inPlace directory') step).2.supplies := by
  obtain ⟨hname, hsupplies⟩ := takeName_congr h step.name
  refine ⟨?_, hsupplies⟩
  rw [step_eq_alone, step_eq_alone, hname]

theorem stepEach_congr (h : session.supplies = session'.supplies)
    (directory directory' : Option String) (steps : List SessionStep) :
    (session.stepEach (.inPlace directory) steps).map Prod.fst =
      (session'.stepEach (.inPlace directory') steps).map Prod.fst := by
  induction steps generalizing session session' with
  | nil => rfl
  | cons step rest ih =>
    obtain ⟨hanswer, hsupplies⟩ := step_congr h directory directory' step
    simp only [stepEach, List.map_cons, hanswer, ih hsupplies]

/-- Each step of a session, with units in memory or in a directory, answers what its task gives alone
under the name of the step. So the answers are the same whether there is a directory, which one it
is, and what is in its files. -/
theorem stepEach_eq_alone (directory : Option String) (session : Session)
    (steps : List SessionStep) :
    List.Forall₂ (fun step done => done.1 = step.task.alone done.1.unitName) steps
        (session.stepEach (.inPlace directory) steps) ∧
      ∀ (directory' : Option String) (store : FileStore),
        ({ session with store }.stepEach (.inPlace directory') steps).map Prod.fst =
          (session.stepEach (.inPlace directory) steps).map Prod.fst := by
  constructor
  · induction steps generalizing session with
    | nil => exact .nil
    | cons step rest ih => exact .cons (step_eq_alone directory session step) (ih _)
  · intro directory' store
    have hsupplies : ({ session with store } : Session).supplies = session.supplies := rfl
    exact stepEach_congr hsupplies directory' directory steps

end Session

end ExprCompiler
