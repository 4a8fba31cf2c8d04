import ExprCompiler.Proofs.Compilation.UnitFiles
import ExprCompiler.Proofs.Runs
import ExprCompiler.Proofs.Units.Naming

/-!
# The names of a session's units

What a supply hands out depends on its stem and on how many names it handed out before, and on nothing
else in the session (`Session.takenNames_eq`). So no name comes twice, and if all units of a session
get their names from one supply, with a stem that is an identifier, each unit has a file of its own
(`Session.KeepsFiles`).
-/

namespace ExprCompiler

namespace SessionTask

/-- The task is given an artifact. -/
def isEvaluation : SessionTask → Bool
  | evaluate _ => true
  | _ => false

/-- The task is given a text that can be read as an expression. -/
def isReadableRun : SessionTask → Bool
  | run code => (Expr.ofText code).isOk
  | _ => false

theorem hasArtifact_run_iff (code : String) :
    (run code).HasArtifact ↔ (Expr.ofText code).isOk = true := by
  cases htokens : tokensOf code with
  | error error => simp [HasArtifact, Expr.ofText, htokens, Except.isOk, Except.toBool]
  | ok tokens =>
    rw [Expr.ofText_of_tokensOf htokens]
    cases hexpr : Expr.ofTokens tokens (some code) <;>
      simp [HasArtifact, htokens, hexpr, Except.isOk, Except.toBool]

/-- A task that has an artifact is of one of two kinds, and no task is of both. -/
theorem hasArtifact_cases (task : SessionTask) :
    (task.HasArtifact ∧ task.isEvaluation.toNat + task.isReadableRun.toNat = 1) ∨
      (¬ task.HasArtifact ∧ task.isEvaluation.toNat + task.isReadableRun.toNat = 0) := by
  cases task with
  | nothing => exact .inr ⟨id, rfl⟩
  | evaluate artifact => exact .inl ⟨trivial, rfl⟩
  | run code =>
    have hiff := hasArtifact_run_iff code
    cases hok : (Expr.ofText code).isOk with
    | true =>
      refine .inl ⟨hiff.2 hok, ?_⟩
      simp [isEvaluation, isReadableRun, hok]
    | false =>
      refine .inr ⟨fun h => ?_, ?_⟩
      · rw [hiff.1 h] at hok
        simp at hok
      · simp [isEvaluation, isReadableRun, hok]

end SessionTask

namespace Session

/-- A session in which no name was taken yet, with a supply for each stem. -/
def ofStems (stems : List String) : Session :=
  { supplies := stems.map fun stem => { stem }, store := ⟨[], List.nodup_nil⟩ }

/-- The names that steps of a session took from one of its supplies, in their order. -/
def takenNames (runner : Runner FileStore) (session : Session) (index : Nat)
    (steps : List SessionStep) : List String :=
  ((steps.zip (session.stepEach runner steps)).filter fun done =>
    done.1.name = .taken index).map fun done => done.2.1.unitName

/-! ## Taking names -/

section Names

variable (runner : Runner FileStore) {session : Session} {index : Nat} {supply : NameSupply}
  {step : SessionStep}

/-- A step that takes a name gets the next one, and its supply goes on from there. -/
theorem step_of_taken (h : session.supplies[index]? = some supply)
    (hname : step.name = .taken index) :
    (session.step runner step).1.unitName = supply.nameAt (supply.taken + 1) ∧
      (session.step runner step).2.supplies[index]? =
        some { supply with taken := supply.taken + 1 } := by
  obtain ⟨hlt, -⟩ := List.getElem?_eq_some_iff.1 h
  have hsupply : session.supplies.getD index {} = supply := by
    rw [List.getD_eq_getElem?_getD, h]
    rfl
  show (session.takeName step.name).1 = _ ∧ (session.takeName step.name).2.supplies[index]? = _
  rw [hname, takeName, hsupply]
  exact ⟨rfl, List.getElem?_set_self hlt⟩

/-- A step that gets its name elsewhere leaves the supply as it is. -/
theorem supplies_step_of_ne (session : Session) (hname : step.name ≠ .taken index) :
    (session.step runner step).2.supplies[index]? = session.supplies[index]? := by
  show (session.takeName step.name).2.supplies[index]? = _
  cases hsource : step.name with
  | given name => rfl
  | taken other =>
    have hne : other ≠ index := by
      rintro rfl
      exact hname hsource
    exact List.getElem?_set_ne hne

theorem takenNames_cons_of_taken (session : Session) (hname : step.name = .taken index)
    (rest : List SessionStep) :
    session.takenNames runner index (step :: rest) =
      (session.step runner step).1.unitName ::
        (session.step runner step).2.takenNames runner index rest := by
  rw [takenNames, stepEach, List.zip_cons_cons, List.filter_cons_of_pos (by simp [hname])]
  rfl

theorem takenNames_cons_of_ne (session : Session) (hname : step.name ≠ .taken index)
    (rest : List SessionStep) :
    session.takenNames runner index (step :: rest) =
      (session.step runner step).2.takenNames runner index rest := by
  rw [takenNames, stepEach, List.zip_cons_cons, List.filter_cons_of_neg (by simp [hname])]
  rfl

/-- The names that are taken from a supply are the next ones, whatever the steps do with them. -/
theorem takenNames_eq (h : session.supplies[index]? = some supply) (steps : List SessionStep) :
    session.takenNames runner index steps =
      (List.range' (supply.taken + 1)
        (steps.countP fun step => step.name = .taken index)).map supply.nameAt := by
  induction steps generalizing session supply with
  | nil => rfl
  | cons step rest ih =>
    by_cases hname : step.name = .taken index
    · obtain ⟨hfirst, hafter⟩ := step_of_taken runner h hname
      rw [takenNames_cons_of_taken runner session hname, hfirst, ih hafter,
        List.countP_cons_of_pos (by simp [hname]), List.range'_succ]
      rfl
    · have hafter := (supplies_step_of_ne runner session hname).trans h
      rw [takenNames_cons_of_ne runner session hname, ih hafter,
        List.countP_cons_of_neg (by simp [hname])]

theorem nodup_takenNames (h : session.supplies[index]? = some supply) (steps : List SessionStep) :
    (session.takenNames runner index steps).Nodup := by
  rw [takenNames_eq runner h steps]
  have hdistinct : ∀ m n, m ≠ n → supply.nameAt m ≠ supply.nameAt n := by
    intro m n hne hname
    exact hne (supply.nameAt_inj.1 hname)
  exact List.Pairwise.map supply.nameAt hdistinct (List.nodup_range' ..)

end Names

/-! ## Files -/

/-- What a step does to the files in a directory: it keeps those that are there, and if its task has an
artifact, it makes a file for its unit at a place where there was none. -/
structure KeepsFiles (directory : String) (session : Session) (step : SessionStep)
    (done : SessionAnswer × Session) : Prop where
  /-- No file is overwritten. -/
  kept : ∀ place text, session.store.text? place = some text → done.2.store.text? place = some text
  /-- The unit has a file of its own. -/
  made : step.task.HasArtifact →
    session.store.text? (unitPlace directory done.1.unitName) = none ∧
      ∃ source, step.task.Makes done.1.unitName source ∧
        done.2.store.text? (unitPlace directory done.1.unitName) = some source
  /-- There is no other new file. -/
  size_eq : done.2.store.size =
    session.store.size + (step.task.isEvaluation.toNat + step.task.isReadableRun.toNat)

/-- The supply has a certain stem, and none of the names that it still can hand out has a file. -/
def IsAhead (directory : String) (index : Nat) (stem : String) (session : Session) : Prop :=
  ∃ supply, session.supplies[index]? = some supply ∧ supply.stem = stem ∧
    ∀ n, supply.taken < n →
      session.store.text? (unitPlace directory (supply.nameAt n)) = none

section Files

variable {directory : String} {index : Nat} {stem : String} {session : Session}
  {step : SessionStep}

/-- A step that makes a unit under the next name of the supply makes a new file. -/
theorem IsAhead.step_of_makes (hahead : IsAhead directory index stem session)
    (hname : step.name = .taken index) {source : String}
    (hmakes : step.task.Makes (session.takeName step.name).1 source)
    (hstore : (session.step (.inPlace (some directory)) step).2.store =
      session.store.write (unitPlace directory (session.takeName step.name).1) source) :
    KeepsFiles directory session step (session.step (.inPlace (some directory)) step) ∧
      IsAhead directory index stem (session.step (.inPlace (some directory)) step).2 := by
  obtain ⟨supply, hsupply, hstem, hfree⟩ := hahead
  obtain ⟨hunit, hafter⟩ := step_of_taken (.inPlace (some directory)) hsupply hname
  have hplace : session.store.text? (unitPlace directory (session.takeName step.name).1) = none := by
    have hnext := hfree (supply.taken + 1) (Nat.lt_succ_self _)
    rw [← hunit] at hnext
    exact hnext
  obtain ⟨hartifact, -⟩ := exists_makes_iff.1 ⟨source, hmakes⟩
  refine ⟨⟨?_, ?_, ?_⟩, ?_⟩
  · intro place text htext
    have hne : place ≠ unitPlace directory (session.takeName step.name).1 := by
      rintro rfl
      rw [hplace] at htext
      simp at htext
    rw [hstore, FileStore.text?_write, if_neg hne]
    exact htext
  · intro _
    refine ⟨hplace, source, hmakes, ?_⟩
    rw [hstore, FileStore.text?_write]
    exact if_pos rfl
  · rcases step.task.hasArtifact_cases with ⟨-, hone⟩ | ⟨hnone, -⟩
    · rw [hstore, FileStore.size_write_of_none hplace, hone]
    · exact absurd hartifact hnone
  · refine ⟨_, hafter, hstem, fun n hlt => ?_⟩
    have hne : unitPlace directory (supply.nameAt n) ≠
        unitPlace directory (session.takeName step.name).1 := by
      intro hsame
      have hnumber : n = supply.taken + 1 :=
        supply.nameAt_inj.1 ((unitPlace_inj.1 hsame).trans hunit)
      exact Nat.lt_irrefl _ (hnumber ▸ hlt)
    show (session.step (.inPlace (some directory)) step).2.store.text?
      (unitPlace directory (supply.nameAt n)) = none
    rw [hstore, FileStore.text?_write, if_neg hne]
    exact hfree n (Nat.lt_of_succ_lt hlt)

/-- A step that makes no unit leaves all files as they are, but it may use up a name. -/
theorem IsAhead.step_of_not_hasArtifact (hahead : IsAhead directory index stem session)
    (hartifact : ¬ step.task.HasArtifact)
    (hstore : (session.step (.inPlace (some directory)) step).2.store = session.store) :
    KeepsFiles directory session step (session.step (.inPlace (some directory)) step) ∧
      IsAhead directory index stem (session.step (.inPlace (some directory)) step).2 := by
  obtain ⟨supply, hsupply, hstem, hfree⟩ := hahead
  refine ⟨⟨?_, fun h => absurd h hartifact, ?_⟩, ?_⟩
  · rw [hstore]
    exact fun _ _ htext => htext
  · rcases step.task.hasArtifact_cases with ⟨h, -⟩ | ⟨-, hzero⟩
    · exact absurd h hartifact
    · rw [hstore, hzero, Nat.add_zero]
  · by_cases hname : step.name = .taken index
    · obtain ⟨-, hafter⟩ := step_of_taken (.inPlace (some directory)) hsupply hname
      refine ⟨_, hafter, hstem, fun n hlt => ?_⟩
      rw [hstore]
      exact hfree n (Nat.lt_of_succ_lt hlt)
    · have hafter := supplies_step_of_ne (.inPlace (some directory)) session hname
      refine ⟨supply, hafter.trans hsupply, hstem, ?_⟩
      rw [hstore]
      exact hfree

theorem IsAhead.step_keepsFiles (hahead : IsAhead directory index stem session)
    (hstem : isIdentifier stem = true) (hname : step.task ≠ .nothing → step.name = .taken index) :
    KeepsFiles directory session step (session.step (.inPlace (some directory)) step) ∧
      IsAhead directory index stem (session.step (.inPlace (some directory)) step).2 := by
  have htaken : step.task.HasArtifact → step.name = .taken index := by
    intro hartifact
    refine hname fun hnothing => ?_
    rw [hnothing] at hartifact
    exact hartifact
  rcases files_of_step directory session step with ⟨source, hmakes, hstore⟩ | ⟨hnone, hstore⟩
  · have hartifact := (exists_makes_iff.1 ⟨source, hmakes⟩).1
    exact hahead.step_of_makes (htaken hartifact) hmakes hstore
  · refine hahead.step_of_not_hasArtifact (fun hartifact => ?_) hstore
    obtain ⟨supply, hsupply, rfl, -⟩ := hahead
    -- The name is counted, so it is an identifier, and nothing else could keep the unit back.
    obtain ⟨hunit, -⟩ :=
      step_of_taken (.inPlace (some directory)) hsupply (htaken hartifact)
    have hidentifier : isIdentifier (session.takeName step.name).1 = true := by
      rw [← hstem, ← supply.isIdentifier_nameAt (supply.taken + 1), ← hunit]
      rfl
    obtain ⟨source, hmakes⟩ := exists_makes_iff.2 ⟨hartifact, hidentifier⟩
    exact hnone source hmakes

/-- Steps that each keep the files make one file for each artifact. -/
theorem size_afterEach {steps : List SessionStep} (h : EachStep Prod.snd (KeepsFiles directory) session
      steps (session.stepEach (.inPlace (some directory)) steps)) :
    (session.afterEach (.inPlace (some directory)) steps).store.size =
      session.store.size + ((steps.countP fun step => step.task.isEvaluation) +
        steps.countP fun step => step.task.isReadableRun) := by
  induction steps generalizing session with
  | nil => rfl
  | cons step rest ih =>
    cases h with
    | cons hfirst hrest =>
      have hsize := hfirst.size_eq
      rw [afterEach_cons, ih hrest, List.countP_cons, List.countP_cons, hsize]
      cases step.task.isEvaluation <;> cases step.task.isReadableRun <;> simp <;> omega

end Files

/-- A name that is taken from a supply is its stem and the number of names taken so far, whatever else
the session does; no name is taken twice, and units can be made under these names exactly if the stem
is an identifier. So if all units of a session in a directory get their names from one such supply,
no file is ever overwritten, and there are as many files as there were artifacts. -/
theorem taken_names (stems : List String) (index : Nat) (stem : String)
    (hstem : stems[index]? = some stem) (steps : List SessionStep) :
    (∀ runner : Runner FileStore,
      (ofStems stems).takenNames runner index steps =
          (List.range' 1 (steps.countP fun step => step.name = .taken index)).map
            (fun number => stem ++ toString number) ∧
        ((ofStems stems).takenNames runner index steps).Nodup ∧
        ∀ name ∈ (ofStems stems).takenNames runner index steps, ∀ artifact,
          (∃ source, unitSource name artifact = .ok source) ↔ isIdentifier stem = true) ∧
    ∀ directory : String, isIdentifier stem = true →
      (∀ step ∈ steps, step.task ≠ .nothing → step.name = .taken index) →
      EachStep Prod.snd (KeepsFiles directory) (ofStems stems) steps
          ((ofStems stems).stepEach (.inPlace (some directory)) steps) ∧
        ((ofStems stems).afterEach (.inPlace (some directory)) steps).store.size =
          (steps.countP fun step => step.task.isEvaluation) +
            steps.countP fun step => step.task.isReadableRun := by
  have hsupply : (ofStems stems).supplies[index]? = some { stem } := by
    rw [ofStems, List.getElem?_map, hstem]
    rfl
  constructor
  · intro runner
    have hnames := takenNames_eq runner hsupply steps
    refine ⟨hnames, nodup_takenNames runner hsupply steps, ?_⟩
    intro name hmem artifact
    rw [hnames] at hmem
    obtain ⟨number, -, rfl⟩ := List.mem_map.1 hmem
    exact NameSupply.exists_unitSource_nameAt _ number artifact
  · intro directory hidentifier htasks
    have hahead : IsAhead directory index stem (ofStems stems) :=
      ⟨_, hsupply, rfl, fun _ _ => FileStore.text?_empty _⟩
    have hkeeps : EachStep Prod.snd (KeepsFiles directory) (ofStems stems) steps
        ((ofStems stems).stepEach (.inPlace (some directory)) steps) :=
      EachStep.of_invariant (fun _ => rfl) (fun _ _ _ => rfl)
        (fun step hmem _ hahead => hahead.step_keepsFiles hidentifier (htasks step hmem)) hahead
    refine ⟨hkeeps, ?_⟩
    rw [size_afterEach hkeeps]
    exact Nat.zero_add _

theorem taken_names_of_three :
    let steps : List SessionStep :=
      [⟨.taken 0, .evaluate "1.0"⟩, ⟨.taken 0, .run "@"⟩, ⟨.taken 0, .run "2.0"⟩]
    (ofStems ["Unit"]).takenNames .inMemory 0 steps = ["Unit1", "Unit2", "Unit3"] ∧
      ((ofStems ["Unit"]).afterEach (.inPlace (some "out")) steps).store.size = 2 := by
  intro steps
  have htwo : (Expr.number "2.0").IsReadable := ⟨⟨'2', rfl, rfl⟩, by simp, by decide⟩
  have hread : (Expr.ofText "2.0").isOk = true := congrArg Except.isOk (htwo.ofText_of_le (by decide))
  have hstray : (Expr.ofText "@").isOk = false := by
    rw [Expr.ofText, tokensOf, TokenStream.ofText, TokenStream.scanFrom_eq]
    rfl
  obtain ⟨hnames, hfiles⟩ := taken_names ["Unit"] 0 "Unit" rfl steps
  obtain ⟨-, hsize⟩ := hfiles "out" (by decide) (by simp [steps])
  constructor
  · rw [(hnames .inMemory).1]
    decide
  · rw [hsize]
    simp [steps, SessionTask.isEvaluation, SessionTask.isReadableRun, hread, hstray]

end Session

end ExprCompiler
