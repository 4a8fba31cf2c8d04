import ExprCompiler.Proofs.Compilation.Isolation

/-!
# The files of a session

A step of a session writes one file or none. It writes the source of its unit to the unit's place if
its name is an identifier and its task has an artifact (`SessionTask.Makes`), and what becomes of the
unit then does not matter. So after any steps the file of a unit holds what the last step that made
the unit made of it, and there are no other files (`Session.files_of_steps`).
-/

namespace ExprCompiler

namespace SessionTask

/-- The task has an artifact: it is given one, or a text that is cut into tokens and read. -/
def HasArtifact : SessionTask → Prop
  | nothing => False
  | evaluate _ => True
  | run code => ∃ tokens expr, tokensOf code = .ok tokens ∧
      Expr.ofTokens tokens (some code) = .ok expr

/-- `task.Makes unitName source`: the task makes a unit with this name and source. -/
inductive Makes : SessionTask → String → String → Prop where
  /-- The unit of an artifact that is given. -/
  | evaluate {artifact unitName source : String} (hname : isIdentifier unitName = true)
      (hsource : unitSource unitName artifact = .ok source) :
      Makes (.evaluate artifact) unitName source
  /-- The unit of a text that compiles. -/
  | run {code unitName : String} {compiled : CompiledUnit}
      (hcompiles : Compiles code unitName (.ok compiled)) :
      Makes (.run code) unitName compiled.source

end SessionTask

/-- None of the tasks, which are listed with their names, makes a unit of this name. -/
def NoneMakes (unitName : String) (tasks : List (SessionTask × String)) : Prop :=
  ∀ done ∈ tasks, done.2 = unitName → ∀ source, ¬ done.1.Makes unitName source

/-- `LastMakes unitName source tasks`: the last of the tasks that makes a unit of this name makes it
with this source. -/
inductive LastMakes (unitName source : String) : List (SessionTask × String) → Prop where
  /-- The first task makes it, and no later one does. -/
  | here {task : SessionTask} {rest : List (SessionTask × String)}
      (hmakes : task.Makes unitName source) (hrest : NoneMakes unitName rest) :
      LastMakes unitName source ((task, unitName) :: rest)
  /-- It is one of the later tasks. -/
  | later {done : SessionTask × String} {rest : List (SessionTask × String)}
      (hrest : LastMakes unitName source rest) : LastMakes unitName source (done :: rest)

namespace Session

/-- The tasks of steps, with the names that they are done under. -/
def namedTasks (runner : Runner FileStore) (session : Session) (steps : List SessionStep) :
    List (SessionTask × String) :=
  (steps.zip (session.stepEach runner steps)).map fun (step, done) => (step.task, done.1.unitName)

/-- The session after all steps. -/
def afterEach (runner : Runner FileStore) (session : Session) (steps : List SessionStep) : Session :=
  ((session.stepEach runner steps).getLast?.map Prod.snd).getD session

end Session

/-! ## Tasks -/

section Tasks

variable {task : SessionTask} {unitName source : String}

theorem Compiles.unitSource_eq {code : String} {compiled : CompiledUnit}
    (h : Compiles code unitName (.ok compiled)) :
    unitSource unitName compiled.artifact = .ok compiled.source := by
  cases h with
  | compiled _ _ _ _ hsource => exact hsource

/-- A task makes a unit exactly under the identifiers, and if it has an artifact. -/
theorem exists_makes_iff :
    (∃ source, task.Makes unitName source) ↔ task.HasArtifact ∧ isIdentifier unitName = true := by
  constructor
  · rintro ⟨source, hmakes⟩
    cases hmakes with
    | evaluate hname _ => exact ⟨trivial, hname⟩
    | run hcompiles =>
      cases hcompiles with
      | compiled htokens hexpr _ hname _ => exact ⟨⟨_, _, htokens, hexpr⟩, hname⟩
  · rintro ⟨hartifact, hname⟩
    cases task with
    | nothing => exact hartifact.elim
    | evaluate artifact =>
      obtain ⟨source, hsource⟩ := unitSource_eq_ok hname artifact
      exact ⟨source, .evaluate hname hsource⟩
    | run code =>
      obtain ⟨tokens, expr, htokens, hexpr⟩ := hartifact
      have hcode := Expr.ofText_of_tokensOf htokens
      rw [hexpr] at hcode
      have hspelled := (Expr.isReadable_of_ofText hcode).1.artifact_eq
      obtain ⟨source, hsource⟩ := unitSource_eq_ok hname (.ofList expr.spelled)
      exact ⟨source, .run (.compiled htokens hexpr hspelled hname hsource)⟩

theorem noneMakes_cons {name : String} {rest : List (SessionTask × String)} :
    NoneMakes unitName ((task, name) :: rest) ↔
      (name = unitName → ∀ source, ¬ task.Makes unitName source) ∧ NoneMakes unitName rest :=
  List.forall_mem_cons

theorem lastMakes_cons {name : String} {rest : List (SessionTask × String)} :
    LastMakes unitName source ((task, name) :: rest) ↔
      LastMakes unitName source rest ∨
        (NoneMakes unitName rest ∧ name = unitName ∧ task.Makes unitName source) := by
  constructor
  · intro h
    cases h with
    | here hmakes hrest => exact .inr ⟨hrest, rfl, hmakes⟩
    | later hrest => exact .inl hrest
  · rintro (hrest | ⟨hrest, rfl, hmakes⟩)
    · exact .later hrest
    · exact .here hmakes hrest

theorem SessionTask.Makes.unique {source' : String} (h : task.Makes unitName source)
    (h' : task.Makes unitName source') : source = source' := by
  cases h with
  | evaluate _ hsource =>
    cases h' with
    | evaluate _ hsource' => exact Except.ok.inj (hsource.symm.trans hsource')
  | run hcompiles =>
    cases h' with
    | run hcompiles' => rw [Except.ok.inj (hcompiles.unique hcompiles')]

/-- The source is written before the unit is loaded, so the write does not depend on what the unit
does. -/
theorem SessionTask.Makes.after_perform (h : task.Makes unitName source) (directory : String)
    (store : FileStore) :
    ((Session.perform (.inPlace (some directory)) unitName task).run.run store).2 =
      store.write (unitPlace directory unitName) source := by
  cases h with
  | evaluate _ hsource =>
    rw [Session.perform_evaluate]
    exact Runner.after_inDirectory directory store hsource
  | run hcompiles =>
    rw [Session.perform_run, hcompiles.run_of_ok]
    exact Runner.after_inDirectory directory store hcompiles.unitSource_eq

theorem after_perform_of_not_makes (h : ∀ source, ¬ task.Makes unitName source) (directory : String)
    (store : FileStore) :
    ((Session.perform (.inPlace (some directory)) unitName task).run.run store).2 = store := by
  cases task with
  | nothing => rfl
  | evaluate artifact =>
    rw [Session.perform_evaluate]
    cases hname : isIdentifier unitName with
    | true =>
      obtain ⟨source, hsource⟩ := unitSource_eq_ok hname artifact
      exact absurd (.evaluate hname hsource) (h source)
    | false =>
      have hsource := unitSource_eq_error hname artifact
      exact Runner.after_inDirectory_of_error directory store hsource
  | run code =>
    rw [Session.perform_run]
    rcases compiles_cases code unitName with ⟨compiled, hcompiles⟩ | ⟨error, hcompiles⟩
    · exact absurd (.run hcompiles) (h compiled.source)
    · rw [hcompiles.run_of_error]

/-- A task leaves no file where units are kept in memory. -/
theorem after_perform_inMemory (task : SessionTask) (unitName : String) (store : FileStore) :
    ((Session.perform (.inPlace none) unitName task).run.run store).2 = store := by
  cases task with
  | nothing => rfl
  | evaluate artifact =>
    rw [Session.perform_evaluate]
    exact Runner.after_inMemory artifact unitName store
  | run code =>
    rw [Session.perform_run]
    rcases compiles_cases code unitName with ⟨compiled, hcompiles⟩ | ⟨error, hcompiles⟩
    · rw [hcompiles.run_of_ok]
      exact Runner.after_inMemory compiled.artifact unitName store
    · rw [hcompiles.run_of_error]

end Tasks

/-! ## Steps -/

namespace Session

variable {directory : String}

theorem store_step (runner : Runner FileStore) (session : Session) (step : SessionStep) :
    (session.step runner step).2.store =
      ((perform runner (session.takeName step.name).1 step.task).run.run session.store).2 := by
  have hstore : (session.takeName step.name).2.store = session.store := by
    cases step.name <;> rfl
  rw [← hstore]
  rfl

/-- A step writes the unit that it makes, and no other file; a step that makes none leaves all files
as they are. -/
theorem files_of_step (directory : String) (session : Session) (step : SessionStep) :
    (∃ source, step.task.Makes (session.takeName step.name).1 source ∧
        (session.step (.inPlace (some directory)) step).2.store =
          session.store.write (unitPlace directory (session.takeName step.name).1) source) ∨
      ((∀ source, ¬ step.task.Makes (session.takeName step.name).1 source) ∧
        (session.step (.inPlace (some directory)) step).2.store = session.store) := by
  rw [store_step]
  by_cases hmakes : ∃ source, step.task.Makes (session.takeName step.name).1 source
  · obtain ⟨source, hmakes⟩ := hmakes
    exact .inl ⟨source, hmakes, hmakes.after_perform directory session.store⟩
  · have hnone := not_exists.1 hmakes
    exact .inr ⟨hnone, after_perform_of_not_makes hnone directory session.store⟩

theorem namedTasks_cons (runner : Runner FileStore) (session : Session) (step : SessionStep)
    (rest : List SessionStep) :
    session.namedTasks runner (step :: rest) =
      (step.task, (session.takeName step.name).1) ::
        (session.step runner step).2.namedTasks runner rest :=
  rfl

theorem afterEach_cons (runner : Runner FileStore) (session : Session) (step : SessionStep)
    (rest : List SessionStep) :
    session.afterEach runner (step :: rest) = (session.step runner step).2.afterEach runner rest := by
  simp only [afterEach, stepEach, List.getLast?_cons]
  cases ((session.step runner step).2.stepEach runner rest).getLast? <;> rfl

/-- After a step, the file of a unit holds what the step made of it, or what it held before. -/
theorem text?_step (session : Session) (step : SessionStep) (unitName text : String) :
    (session.step (.inPlace (some directory)) step).2.store.text? (unitPlace directory unitName) =
        some text ↔
      ((session.takeName step.name).1 = unitName ∧ step.task.Makes unitName text) ∨
      (((session.takeName step.name).1 = unitName → ∀ source, ¬ step.task.Makes unitName source) ∧
        session.store.text? (unitPlace directory unitName) = some text) := by
  rcases files_of_step directory session step with ⟨source, hmakes, hstore⟩ | ⟨hnone, hstore⟩
  · rw [hstore, FileStore.text?_write]
    by_cases hname : unitName = (session.takeName step.name).1
    · subst hname
      rw [if_pos rfl]
      constructor
      · intro h
        obtain rfl := Option.some.inj h
        exact .inl ⟨rfl, hmakes⟩
      · rintro (⟨-, hmakes'⟩ | ⟨hnone, -⟩)
        · rw [hmakes.unique hmakes']
        · exact absurd hmakes (hnone rfl source)
    · rw [if_neg (fun h => hname (unitPlace_inj.1 h))]
      simp [Ne.symm hname]
  · rw [hstore]
    constructor
    · intro h
      exact .inr ⟨fun hname => hname ▸ hnone, h⟩
    · rintro (⟨rfl, hmakes⟩ | ⟨-, h⟩)
      · exact absurd hmakes (hnone text)
      · exact h

/-- After steps, the file of a unit holds what the last of them that made the unit made of it, or what
it held before. -/
theorem text?_afterEach (directory : String) (session : Session) (steps : List SessionStep)
    (unitName text : String) :
    (session.afterEach (.inPlace (some directory)) steps).store.text?
        (unitPlace directory unitName) = some text ↔
      LastMakes unitName text (session.namedTasks (.inPlace (some directory)) steps) ∨
      (NoneMakes unitName (session.namedTasks (.inPlace (some directory)) steps) ∧
        session.store.text? (unitPlace directory unitName) = some text) := by
  induction steps generalizing session with
  | nil =>
    have hnone : NoneMakes unitName [] := fun _ hmem => absurd hmem List.not_mem_nil
    constructor
    · exact fun h => .inr ⟨hnone, h⟩
    · rintro (hlast | ⟨-, h⟩)
      · cases hlast
      · exact h
  | cons step rest ih =>
    rw [afterEach_cons, namedTasks_cons, ih, text?_step, lastMakes_cons, noneMakes_cons]
    tauto

/-- There are no files but those of units and those that were there. -/
theorem place_of_afterEach (session : Session) (steps : List SessionStep) {place : Path}
    {text : String}
    (h : (session.afterEach (.inPlace (some directory)) steps).store.text? place = some text) :
    session.store.text? place = some text ∨ ∃ unitName, place = unitPlace directory unitName := by
  induction steps generalizing session with
  | nil => exact .inl h
  | cons step rest ih =>
    rw [afterEach_cons] at h
    rcases ih _ h with hstep | hplace
    · rcases files_of_step directory session step with ⟨source, -, hstore⟩ | ⟨-, hstore⟩
      · rw [hstore, FileStore.text?_write] at hstep
        split at hstep
        · rename_i hplace
          exact .inr ⟨_, hplace⟩
        · exact .inl hstep
      · rw [hstore] at hstep
        exact .inl hstep
    · exact .inr hplace

theorem store_afterEach_inMemory (session : Session) (steps : List SessionStep) :
    (session.afterEach (.inPlace none) steps).store = session.store := by
  induction steps generalizing session with
  | nil => rfl
  | cons step rest ih => rw [afterEach_cons, ih, store_step, after_perform_inMemory]

/-- With a directory, a step under an identifier whose task has an artifact makes the file of its unit
hold the unit's source, and no other step changes a file. So after a session the file of a unit holds
what the last of these steps made of the unit, and there are no other files. Without a directory there
are none at all. -/
theorem files_of_steps :
    (∀ (directory : String) (session : Session) (step : SessionStep),
      let done := session.step (.inPlace (some directory)) step
      (∃ source, step.task.Makes done.1.unitName source ∧
          ∀ place, done.2.store.text? place =
            if place = unitPlace directory done.1.unitName then some source
            else session.store.text? place) ∨
        (¬ (step.task.HasArtifact ∧ isIdentifier done.1.unitName = true) ∧
          done.2.store = session.store)) ∧
    (∀ (directory : String) (supplies : List NameSupply) (steps : List SessionStep),
      let runner := Runner.inPlace (some directory)
      let session : Session := { supplies }
      let files := (session.afterEach runner steps).store
      (∀ unitName text, files.text? (unitPlace directory unitName) = some text ↔
          LastMakes unitName text (session.namedTasks runner steps)) ∧
        ∀ place text, files.text? place = some text →
          ∃ unitName, place = unitPlace directory unitName) ∧
    ∀ (supplies : List NameSupply) (steps : List SessionStep),
      (({ supplies } : Session).afterEach (.inPlace none) steps).store = {} := by
  refine ⟨?_, ?_, ?_⟩
  · intro directory session step
    rcases files_of_step directory session step with ⟨source, hmakes, hstore⟩ | ⟨hnone, hstore⟩
    · refine .inl ⟨source, hmakes, ?_⟩
      intro place
      rw [hstore, FileStore.text?_write]
      rfl
    · refine .inr ⟨?_, hstore⟩
      rw [← exists_makes_iff, not_exists]
      exact hnone
  · intro directory supplies steps
    constructor
    · intro unitName text
      have hfile := text?_afterEach directory { supplies } steps unitName text
      simpa only [FileStore.text?_empty, reduceCtorEq, and_false, or_false] using hfile
    · intro place text h
      rcases place_of_afterEach _ steps h with hbefore | hplace
      · rw [FileStore.text?_empty] at hbefore
        simp at hbefore
      · exact hplace
  · intro supplies steps
    exact store_afterEach_inMemory { supplies } steps

end Session

end ExprCompiler
