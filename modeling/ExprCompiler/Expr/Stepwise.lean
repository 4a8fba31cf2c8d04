import ExprCompiler.Expr.Reading

/-!
# Reading step by step

A reader of tokens can be asked for any part of the grammar, or to consume one token, in any order
and also after a failure. `TokenReader.performEach` keeps the state after every step.
-/

namespace ExprCompiler

/-- Something to ask of a reader of tokens. -/
inductive ParseRequest where
  /-- A whole expression. -/
  | whole
  /-- The part that a rule describes. -/
  | part (rule : Rule)
  /-- One token of a certain kind. -/
  | token (kind : TokenKind)
  deriving DecidableEq, Repr

/-- What a reader gives. -/
inductive ParseReply where
  /-- An expression. -/
  | whole (expr : Expr)
  /-- A part of an expression. -/
  | part (tree : Subtree)
  /-- A token. -/
  | token (token : Token)
  deriving DecidableEq, Repr

/-- A result, or the reason of a failure, with the state of the reader after it. -/
structure ParseStep where
  /-- The result. -/
  result : Except ParseFailure ParseReply
  /-- The reader. -/
  after : TokenReader

namespace TokenReader

/-- Does what is asked. -/
def answer : ParseRequest → Parse ParseReply
  | .whole => return .whole (← parse)
  | .part rule => return .part (← read rule)
  | .token kind => return .token (← consume kind)

/-- Does what is asked, and keeps the reader in either case. -/
def perform (p : TokenReader) (request : ParseRequest) : ParseStep :=
  match answer request p with
  | .ok reply after => { result := .ok reply, after }
  | .error failure after => { result := .error failure, after }

/-- Does one thing after the other. -/
def performEach (p : TokenReader) : List ParseRequest → List ParseStep
  | [] => []
  | request :: rest =>
    let step := p.perform request
    step :: step.after.performEach rest

end TokenReader

end ExprCompiler
