import ExprCompiler.Compilation.Pipeline
import ExprCompiler.Units.NameSupply

/-!
# Sessions

A session keeps a runner and name supplies over many steps. A step runs an artifact or the text of
an expression under a name that is given or taken from a supply. A name that was taken stays taken
if the step fails.
-/

namespace ExprCompiler

/-- Where the name of a step comes from. -/
inductive NameSource where
  /-- It is given. -/
  | given (name : String)
  /-- It is the next name of the supply with a certain index. -/
  | taken (index : Nat)
  deriving DecidableEq, Repr

/-- What a step does with its name. -/
inductive SessionTask where
  /-- Nothing. -/
  | nothing
  /-- Runs an artifact under it. -/
  | evaluate (artifact : String)
  /-- Compiles and runs the text of an expression under it. -/
  | run (code : String)
  deriving DecidableEq, Repr

/-- A step of a session. -/
structure SessionStep where
  /-- Where the name comes from. -/
  name : NameSource
  /-- What is done with it. -/
  task : SessionTask
  deriving DecidableEq, Repr

/-- What a session keeps. -/
structure Session where
  /-- The name supplies. -/
  supplies : List NameSupply
  /-- The files that were written. -/
  store : FileStore := {}

/-- What a step gives. -/
structure SessionAnswer where
  /-- The name. -/
  unitName : String
  /-- The value, if there was something to run, or the error. -/
  result : Except RunError (Option Float)

namespace Session

/-- The name for a step. A supply that does not exist has the default names. -/
def takeName (session : Session) : NameSource → String × Session
  | .given name => (name, session)
  | .taken index =>
    let (name, supply) := (session.supplies.getD index {}).next
    (name, { session with supplies := session.supplies.set index supply })

/-- Does a task under a name. -/
def perform (runner : Runner FileStore) (unitName : String) :
    SessionTask → Run FileStore (Option Float)
  | .nothing => return none
  | .evaluate artifact =>
    return some (← ExceptT.adapt .executing (runner.evaluate artifact unitName))
  | .run code => return some (← ExprCompiler.run runner code unitName)

/-- Carries out a step. -/
def step (runner : Runner FileStore) (session : Session) (step : SessionStep) :
    SessionAnswer × Session :=
  let (unitName, session) := session.takeName step.name
  let (result, store) := (perform runner unitName step.task).run session.store
  ({ unitName, result }, { session with store })

/-- Carries out steps one after the other, and keeps the session after each. -/
def stepEach (runner : Runner FileStore) (session : Session) :
    List SessionStep → List (SessionAnswer × Session)
  | [] => []
  | step :: rest =>
    let done := session.step runner step
    done :: done.2.stepEach runner rest

end Session

end ExprCompiler
