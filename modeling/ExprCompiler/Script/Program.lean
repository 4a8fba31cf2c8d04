import ExprCompiler.Script.Term

/-!
# Scripts

A script starts with a docstring, defines a function without parameters and then holds statements of
its own. The function has one line, which returns a term; each later line is a statement that is
carried out when the script is loaded, so a statement can replace the function or remove it.
-/

namespace ExprCompiler.Script

/-- The name of the function that a script defines. -/
def entryName : String := "call"

/-- A statement of a script. -/
inductive Statement where
  /-- Gives a name a value. -/
  | assign (name : String) (term : Term)
  /-- Takes a name's value away. -/
  | delete (name : String)
  /-- Evaluates a term for nothing. -/
  | evaluate (term : Term)
  deriving Repr

/-- The statement that the lexemes of a line describe. -/
def Statement.ofLexemes? : List Lexeme → Option Statement
  | .name name :: .assign :: lexemes => (Term.ofLexemes? lexemes).map (assign name)
  | [.reserved "del", .name name] => some (delete name)
  | lexemes => (Term.ofLexemes? lexemes).map evaluate

/-- The term of a statement, if it has one. -/
def Statement.term? : Statement → Option Term
  | assign _ term | evaluate term => some term
  | delete _ => none

/-- What a statement does to the values of names. -/
def Statement.run (globals : Globals) : Statement → Except Fault Globals
  | assign name term => do
    let value ← term.evaluate globals
    return (name, value) :: globals.filter (·.1 != name)
  | delete name => do
    let _ ← globals.findGiven name
    return globals.filter (·.1 != name)
  | evaluate term => do
    let _ ← term.evaluate globals
    return globals

/-- The lexemes of the first line, and those of every later one. -/
def splitLines : List Lexeme → List Lexeme × List (List Lexeme)
  | [] => ([], [])
  | .newline :: rest =>
    let (line, lines) := splitLines rest
    ([], line :: lines)
  | lexeme :: rest =>
    let (line, lines) := splitLines rest
    (lexeme :: line, lines)

/-- A script. -/
structure Program where
  /-- The term that the function returns, if it returns one. -/
  body : Option Term
  /-- The statements after the function. -/
  statements : List Statement
  deriving Repr

/-- The terms of a script. -/
def Program.terms (program : Program) : List Term :=
  program.body.toList ++ program.statements.filterMap Statement.term?

/-- How deep a term of a script may be. -/
def maxTermDepth : Nat := 2971

/-- Whether no term of a script is too deep. -/
def Program.isShallow (program : Program) : Bool :=
  program.terms.all fun term => term.depth ≤ maxTermDepth

/-- A text in which every line ends in a line feed alone. -/
def unifyNewlines : List Char → List Char
  | '\r' :: '\n' :: rest => '\n' :: unifyNewlines rest
  | '\r' :: rest => '\n' :: unifyNewlines rest
  | c :: rest => c :: unifyNewlines rest
  | [] => []

/-- The quotes before and after a docstring. -/
def docstringQuotes : String := "\"\"\""

/-- The line that starts the function. -/
def definitionLine : String := "def " ++ entryName ++ "() -> float:\n"

/-- The word before the term that the function returns, with the blank after it. -/
def returnWord : String := "return "

/-- What follows a docstring, which holds no quotes. -/
def afterDocstring? (text : List Char) : Option (List Char) := do
  let docstring ← docstringQuotes.toList.isPrefixOf? text
  docstringQuotes.toList.isPrefixOf? (docstring.dropWhile (· != '\x22'))

/-- What follows one or more of a character. -/
def afterRun? (c : Char) (text : List Char) : Option (List Char) := do
  let rest ← [c].isPrefixOf? text
  return rest.dropWhile (· == c)

/-- The text from the term that the function returns onwards: what follows a docstring, the line that
starts the function, and the first word of the line under it. -/
def functionBody? (text : List Char) : Option (List Char) := do
  let lines ← afterDocstring? text
  let definition ← afterRun? '\n' lines
  let indented ← definitionLine.toList.isPrefixOf? definition
  let statement ← afterRun? ' ' indented
  returnWord.toList.isPrefixOf? statement

/-- The script whose function's line goes on with a text. -/
def Program.ofBody? (text : List Char) : Option Program := do
  let (line, lines) := splitLines (← lexemes? 0 text)
  let body ← if line.isEmpty then pure none else (Term.ofLexemes? line).map some
  let statements ← (lines.filter (!·.isEmpty)).mapM Statement.ofLexemes?
  return { body, statements }

/-- The script that a text holds. -/
def Program.ofText? (text : List Char) : Option Program := do
  Program.ofBody? (← functionBody? text)

/-- A script that is loaded. -/
structure Loaded where
  /-- The term that the function returns, if it returns one. -/
  body : Option Term
  /-- The values of names. -/
  globals : Globals
  deriving Repr

/-- Carries out the statements of a script. -/
def Program.load (program : Program) : Except Fault Loaded := do
  let globals ← program.statements.foldlM Statement.run [(entryName, .function)]
  return { body := program.body, globals }

/-- Whether the function is still there. -/
def Loaded.hasEntry (loaded : Loaded) : Bool :=
  match loaded.globals.lookup entryName with
  | some .function => true
  | _ => false

/-- Calls the function. -/
def Loaded.call (loaded : Loaded) : Except Fault Value :=
  match loaded.body with
  | some term => term.evaluate loaded.globals
  | none => .ok .absent

end ExprCompiler.Script
