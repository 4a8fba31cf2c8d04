import ExprCompiler.Units.Path

/-!
# Files

A `FileStore` is what a run leaves behind: texts at places. A later text at a place takes the place
of an earlier one.
-/

namespace ExprCompiler

/-- Puts a text under a path into a list of entries. -/
def writeEntry (path : Path) (text : String) : List (Path × String) → List (Path × String)
  | [] => [(path, text)]
  | (other, old) :: rest =>
    if path == other then (path, text) :: rest else (other, old) :: writeEntry path text rest

/-- Writing keeps the order of the paths, and a new path comes last. -/
theorem paths_writeEntry (path : Path) (text : String) (entries : List (Path × String)) :
    (writeEntry path text entries).map Prod.fst =
      if path ∈ entries.map Prod.fst then entries.map Prod.fst
      else entries.map Prod.fst ++ [path] := by
  induction entries with
  | nil => rfl
  | cons entry rest ih =>
    obtain ⟨other, old⟩ := entry
    by_cases h : path = other
    · simp [writeEntry, h]
    · by_cases hmem : path ∈ rest.map Prod.fst
      · simp_all [writeEntry]
      · simp_all [writeEntry]

/-- Texts under paths. -/
structure FileStore where
  /-- Each path with its text, in the order in which the paths were first written. -/
  entries : List (Path × String) := []
  /-- No path has two texts. -/
  nodup_paths : (entries.map Prod.fst).Nodup := by simp

namespace FileStore

/-- The text under a path; a path that was never written has the empty text. -/
def read (store : FileStore) (path : Path) : String :=
  (store.entries.lookup path).getD ""

/-- Puts a text under a path. -/
def write (store : FileStore) (path : Path) (text : String) : FileStore where
  entries := writeEntry path text store.entries
  nodup_paths := by
    rw [paths_writeEntry]
    split
    · exact store.nodup_paths
    · rename_i hmem
      exact List.nodup_append.2 ⟨store.nodup_paths, by simp, by grind⟩

/-- The number of files. -/
def size (store : FileStore) : Nat :=
  store.entries.length

/-- The files in the working directory and below it, each under the text of its path. -/
def listing (store : FileStore) : List (String × String) :=
  (store.entries.filter (·.1.isInside)).map fun (path, text) => (path.text, text)

/-- The texts of the paths of the listed files, in ascending order. -/
def listedPaths (store : FileStore) : List String :=
  (store.listing.map Prod.fst).mergeSort fun a b => decide (a ≤ b)

/-- Looking up an entry after writing one. -/
theorem lookup_writeEntry (path : Path) (text : String) (other : Path)
    (entries : List (Path × String)) :
    (writeEntry path text entries).lookup other =
      if other = path then some text else entries.lookup other := by
  induction entries with
  | nil =>
    by_cases hother : other = path
    · simp [writeEntry, hother]
    · have hne : (other == path) = false := by simpa using hother
      simp [writeEntry, List.lookup_cons, hother, hne]
  | cons entry rest ih =>
    obtain ⟨key, old⟩ := entry
    by_cases hkey : path = key
    · subst hkey
      by_cases hother : other = path
      · simp [writeEntry, hother]
      · have hne : (other == path) = false := by simpa using hother
        simp [writeEntry, List.lookup_cons, hother, hne]
    · have hwrite : (path == key) = false := by simpa using hkey
      rw [writeEntry, hwrite]
      simp only [Bool.false_eq_true, if_false, List.lookup_cons, ih]
      by_cases hother : other = key
      · have hne : other ≠ path := fun h => hkey (h.symm.trans hother)
        simp [hother, Ne.symm hkey]
      · have hne : (other == key) = false := by simpa using hother
        simp [hne]

/-- What was written under a path is read there. -/
theorem read_write_self (store : FileStore) (path : Path) (text : String) :
    (store.write path text).read path = text := by
  simp [read, write, lookup_writeEntry]

end FileStore

end ExprCompiler
