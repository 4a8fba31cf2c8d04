import ExprCompiler.Units.Runner

/-!
# Where units are written

A runner that keeps units in a directory writes the source of a unit to one place, which follows from
the directory and the name, before it does anything else with the unit; so what becomes of the unit
then makes no difference to the files. A unit that cannot be made is not written. Different names
have different places.
-/

namespace ExprCompiler

variable {unitName artifact source : String}

theorem unitSource_eq_ok (hname : isIdentifier unitName = true) (artifact : String) :
    ∃ source, unitSource unitName artifact = .ok source :=
  ⟨_, if_pos hname⟩

theorem unitSource_eq_error (hname : isIdentifier unitName = false) (artifact : String) :
    unitSource unitName artifact = .error (.invalidUnitName unitName) :=
  if_neg (by rw [hname]; decide)

/-! ## Files -/

/-- The text of the file at a place, if there is one. -/
def FileStore.text? (store : FileStore) (place : Path) : Option String :=
  store.entries.lookup place

theorem FileStore.text?_empty (place : Path) : ({} : FileStore).text? place = none :=
  rfl

theorem FileStore.text?_write (store : FileStore) (place : Path) (text : String) (other : Path) :
    (store.write place text).text? other = if other = place then some text else store.text? other :=
  lookup_writeEntry place text other store.entries

/-- A write at a place without a file makes one file more. -/
theorem FileStore.size_write_of_none {store : FileStore} {place : Path}
    (h : store.text? place = none) (text : String) :
    (store.write place text).size = store.size + 1 := by
  have hfree : place ∉ store.entries.map Prod.fst := by
    intro hmem
    obtain ⟨entry, hentry, rfl⟩ := List.mem_map.1 hmem
    have hne := List.lookup_eq_none_iff.1 h entry hentry
    simp at hne
  have hpaths := paths_writeEntry place text store.entries
  rw [if_neg hfree] at hpaths
  have hlength := congrArg List.length hpaths
  rw [List.length_map, List.length_append, List.length_map] at hlength
  exact hlength

/-! ## Places -/

/-- The place of the file of a unit: the name, with the ending of a script, in the directory. -/
def unitPlace (directory unitName : String) : Path :=
  (Path.ofString directory).resolved.child (unitName ++ ".py")

theorem resolved_unitPath (directory unitName : String) :
    (unitPath directory unitName).resolved = unitPlace directory unitName := by
  -- No name of a file leads upward, since it is longer than the component that does.
  have hne : unitName ++ ".py" ≠ Path.upward := by
    intro h
    have hlength := congrArg String.length h
    have hending : ".py".length = 3 := rfl
    have hupward : Path.upward.length = 2 := rfl
    rw [String.length_append] at hlength
    omega
  exact Path.resolved_child _ hne

theorem unitPlace_inj {directory unitName unitName' : String} :
    unitPlace directory unitName = unitPlace directory unitName' ↔ unitName = unitName' := by
  constructor
  · intro h
    have hcomponents := congrArg Path.components h
    simpa [unitPlace, Path.child] using hcomponents
  · rintro rfl
    rfl

/-! ## Runners -/

namespace Runner

variable (directory : String) (store : FileStore)

theorem after_inDirectory (hsource : unitSource unitName artifact = .ok source) :
    (((inDirectory directory).evaluate artifact unitName).run.run store).2 =
      store.write (unitPlace directory unitName) source := by
  rw [← resolved_unitPath]
  simp only [inDirectory, hsource]
  rfl

theorem after_inDirectory_of_error {error : ArtifactError}
    (hsource : unitSource unitName artifact = .error error) :
    (((inDirectory directory).evaluate artifact unitName).run.run store).2 = store := by
  simp only [inDirectory, hsource]
  rfl

theorem after_inMemory {σ : Type} (artifact unitName : String) (state : σ) :
    ((inMemory.evaluate artifact unitName).run.run state).2 = state :=
  rfl

end Runner

end ExprCompiler
