import ExprCompiler.Units.FileStore
import ExprCompiler.Units.Source

/-!
# Executing units

A runner gets an artifact and a name, makes a unit of them and runs it. It may keep state from one
unit to the next. The runners of this module either keep units in memory or write each one to a file
in a directory and load it from there.
-/

namespace ExprCompiler

/-- What is wrong with a unit. -/
inductive UnitFault where
  /-- It cannot be made. -/
  | rejected (error : ArtifactError)
  /-- It cannot be loaded. -/
  | loading (error : LoadError)
  /-- Its function is gone. -/
  | noEntry
  /-- Its function fails. -/
  | running (fault : Script.Fault)
  /-- Its function returns a value of a wrong type. -/
  | wrongType (typeName : String)
  deriving DecidableEq, Repr

/-- What is wrong. -/
def UnitFault.reason : UnitFault → String
  | rejected error => error.reason
  | loading error => "Compilation failed: " ++ error.message
  | noEntry => "Compiled unit has no call() function"
  | running fault => "Evaluation failed: " ++ fault.message
  | wrongType typeName => "Expected a float result, got " ++ typeName

/-- A unit that could not be executed. -/
structure UnitError where
  /-- The unit's name. -/
  unitName : String
  /-- What is wrong with it. -/
  fault : UnitFault
  deriving DecidableEq, Repr

/-- The report of the error. -/
def UnitError.message (error : UnitError) : String :=
  "[Execution error] " ++ error.unitName ++ ": " ++ error.fault.reason

/-- The double that a unit with a given source returns. -/
def evaluateSource (source : String) : Except UnitFault Float := do
  let loaded ← (loadSource source).mapError .loading
  if loaded.hasEntry then
    match ← loaded.call.mapError .running with
    | .float x => return x
    | value => throw (.wrongType value.typeName)
  else throw .noEntry

/-- Something that runs artifacts under names and keeps a state. -/
structure Runner (σ : Type) where
  /-- Runs an artifact under a name. -/
  evaluate (artifact unitName : String) : ExceptT UnitError (StateM σ) Float

namespace Runner

/-- Fails for a unit as a pure computation does. -/
def ofExcept {σ α : Type} (unitName : String) (result : Except UnitFault α) :
    ExceptT UnitError (StateM σ) α :=
  fun state => (result.mapError fun fault => { unitName, fault }, state)

/-- Keeps units in memory and leaves nothing behind. -/
def inMemory {σ : Type} : Runner σ where
  evaluate artifact unitName := ofExcept unitName do
    let source ← (unitSource unitName artifact).mapError .rejected
    evaluateSource source

/-- Writes each unit to a file at its place in a directory and loads what is in the file then. -/
def inDirectory (directory : String) : Runner FileStore where
  evaluate artifact unitName := do
    let source ← ofExcept unitName ((unitSource unitName artifact).mapError .rejected)
    let place := (unitPath directory unitName).resolved
    modify fun store => store.write place source
    ofExcept unitName (evaluateSource ((← get).read place))

/-- Writes units to a directory, if there is one, and else keeps them in memory. -/
def inPlace : Option String → Runner FileStore
  | some directory => inDirectory directory
  | none => inMemory

/-- Runs nothing: keeps a list of what it is given, and gives the same double each time. -/
def recording (result : Float) : Runner (List (String × String)) where
  evaluate artifact unitName := do
    modify fun calls => calls ++ [(artifact, unitName)]
    return result

end Runner

end ExprCompiler
