import ExprCompiler.Expr.ParseError

/-!
# Readers of tokens

A `TokenReader` looks at one token of a stream at a time and fetches the next one when it consumes
it, so an error of a stream that is read on demand shows when the reader gets there. It counts the
brackets it is in. A reader survives a failure and can be used again, so a step has a state after it
also when it fails: `Parse` is the type of such steps.

`LeavesFewer` says that a step has consumed a token if it has a result. Every part of an expression
takes a token at least, and this is what ends the reading of nested parts.
-/

namespace ExprCompiler

/-- Why a step of a reader failed. -/
inductive ParseFailure where
  /-- The next token cannot be fetched. -/
  | lexical (error : LexError)
  /-- A rule of the grammar, or a limit, is broken. -/
  | grammatical (error : ParseError)
  deriving DecidableEq, Repr

/-- A reader of tokens. -/
structure TokenReader where
  /-- The token that is looked at. -/
  current : Token
  /-- The tokens after it. -/
  stream : TokenStream
  /-- The number of brackets that were opened and not closed. -/
  bracketDepth : Nat := 0
  /-- The text that the tokens come from, if it is known. -/
  source : Option String
  deriving Repr

/-- A step of a reader. -/
abbrev Parse := EStateM ParseFailure TokenReader

namespace TokenReader

/-! ## Single steps -/

/-- The next token of a stream and what is left after it. A stream that ran dry goes on with end
tokens, which stand at the end of the text. -/
def fetch (source : Option String) : TokenStream → Except LexError (Token × TokenStream)
  | .done => .ok (.endAt (source.elim 0 fun text => text.length), .done)
  | .broken error => .error error
  | .cons token rest => .ok (token, rest)

/-- A reader that looks at the first token of a stream. -/
def start (stream : TokenStream) (source : Option String) : Except LexError TokenReader := do
  let (current, stream) ← fetch source stream
  return { current, stream, source }

/-- The number of tokens that a reader can still consume. -/
def remaining (p : TokenReader) : Nat :=
  if p.current.isEnd then 0 else p.stream.length + 1

/-- Moves on to the next token. When it cannot be fetched the reader stays, and later finds nothing
but the end. -/
def moveOn : Parse Unit := fun p =>
  match fetch p.source p.stream with
  | .ok (current, stream) => .ok () { p with current, stream }
  | .error error => .error (.lexical error) { p with stream := .done }

/-- Fails at a token. -/
def fail {α : Type} (fault : ParseFault) (found : Token) : Parse α := fun p =>
  .error (.grammatical { fault, found, source := p.source }) p

/-- Consumes the current token, which has to be of the kind `wanted`. An end token is not consumed,
since nothing follows it. -/
def consume (wanted : TokenKind) : Parse Token := fun p =>
  if p.current.kind = wanted then
    if p.current.isEnd then .ok p.current p
    else (do moveOn; return p.current : Parse Token) p
  else fail (.mismatch wanted) p.current p

/-! ## What a step consumes -/

/-- A step's outcome leaves fewer than `bound` tokens, if it has a result. -/
def LeavesFewer {α : Type} (bound : Nat) : EStateM.Result ParseFailure TokenReader α → Prop
  | .ok _ p => p.remaining < bound
  | .error _ _ => True

/-- A bound may be raised. -/
theorem LeavesFewer.mono {α : Type} {m n : Nat} (h : m ≤ n) :
    ∀ {o : EStateM.Result ParseFailure TokenReader α}, LeavesFewer m o → LeavesFewer n o
  | .ok _ _, ho => Nat.lt_of_lt_of_le ho h
  | .error _ _, _ => trivial

/-- Steps in a row leave fewer tokens if the first does and the second adds none. -/
theorem LeavesFewer.bind {α β : Type} {n : Nat} {p : TokenReader} {x : Parse α} {f : α → Parse β}
    (hx : LeavesFewer n (x p)) (hf : ∀ a q, LeavesFewer (q.remaining + 1) (f a q)) :
    LeavesFewer n ((x >>= f) p) := by
  change LeavesFewer n (EStateM.bind x f p)
  unfold EStateM.bind
  cases hres : x p with
  | ok a q =>
    rw [hres] at hx
    exact (hf a q).mono hx
  | error _ _ => trivial

/-- Fetching takes a token from the stream, unless it yields an end. -/
theorem fetch_length_le {source : Option String} {stream rest : TokenStream} {token : Token}
    (h : fetch source stream = .ok (token, rest)) :
    (if token.isEnd then 0 else rest.length + 1) ≤ stream.length := by
  cases stream with
  | done =>
    simp only [fetch, Except.ok.injEq, Prod.mk.injEq] at h
    simp [← h.1, Token.isEnd, Token.endAt]
  | broken error => simp [fetch] at h
  | cons head tail =>
    simp only [fetch, Except.ok.injEq, Prod.mk.injEq] at h
    rw [← h.1, ← h.2, TokenStream.length]
    split <;> omega

/-- Moving on leaves fewer tokens, unless the reader is at the end. -/
theorem moveOn_leavesFewer {p : TokenReader} (h : p.current.isEnd = false) :
    LeavesFewer p.remaining (moveOn p) := by
  unfold moveOn
  split
  · rename_i token rest hfetch
    have hle := fetch_length_le hfetch
    simp only [LeavesFewer, remaining, h]
    simp only [Bool.false_eq_true, if_false]
    omega
  · trivial

/-- Consuming a token other than the end leaves fewer. -/
theorem consume_leavesFewer {wanted : TokenKind} {p : TokenReader} (h : wanted ≠ .exprEnd) :
    LeavesFewer p.remaining (consume wanted p) := by
  unfold consume
  split
  · rename_i hkind
    have hend : p.current.isEnd = false := by simp [Token.isEnd, hkind, h]
    simp only [hend, Bool.false_eq_true, if_false]
    exact (moveOn_leavesFewer hend).bind fun _ q => Nat.lt_succ_self _
  · trivial

/-- An outcome that leaves fewer than `bound` tokens, if it has a result. -/
abbrev Bounded (α : Type) (bound : Nat) :=
  { o : EStateM.Result ParseFailure TokenReader α // LeavesFewer bound o }

namespace Bounded

variable {α β : Type} {m n : Nat}

/-- The same outcome under a greater bound. -/
def weaken (h : m ≤ n) (o : Bounded α m) : Bounded α n :=
  ⟨o.val, o.property.mono h⟩

/-- Goes on from a result, knowing how many tokens are left. -/
def andThen (o : Bounded α m) (f : (a : α) → (q : TokenReader) → q.remaining < m → Bounded β n) :
    Bounded β n :=
  match o with
  | ⟨.ok a q, h⟩ => f a q h
  | ⟨.error failure q, _⟩ => ⟨.error failure q, trivial⟩

/-- Without its bounds, `andThen` is the sequence of two steps. -/
theorem val_andThen {o : Bounded α m}
    {f : (a : α) → (q : TokenReader) → q.remaining < m → Bounded β n} {x : Parse α}
    {g : α → Parse β} {p : TokenReader} (hx : o.val = x p) (hf : ∀ a q h, (f a q h).val = g a q) :
    (o.andThen f).val = (x >>= g) p := by
  change _ = EStateM.bind x g p
  unfold EStateM.bind andThen
  rw [← hx]
  obtain ⟨_ | _, _⟩ := o
  · exact hf _ _ _
  · rfl

end Bounded

end TokenReader

end ExprCompiler
