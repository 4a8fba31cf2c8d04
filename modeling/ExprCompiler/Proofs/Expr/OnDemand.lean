import ExprCompiler.Proofs.Expr.Acceptance
import ExprCompiler.Proofs.Expr.Lockstep
import ExprCompiler.Proofs.Token.Fetching

/-!
# Reading on demand

A reader can be given the tokens of a text as a list, or fetch them from the text one at a time, with
its steps in between. If the text can be cut into tokens this makes no difference, and the scanner
that the reader fetches from always stands right behind the token that the reader looks at. If not,
the reader gets to the stray character with the first fetch that meets it, or fails before: it never
has a whole expression, because that takes an end, and no end stands before the stray character
(`reading_on_demand`).

In both cases a reader is followed in lockstep with itself (`feed`, `approach`), so that what the
relation says of it is an invariant of all that it can be asked for.
-/

namespace ExprCompiler

/-- The scanner that stands behind the lexeme of a token. -/
def Scanner.behind (text : String) (token : Token) : Scanner :=
  { source := text, offset := token.position.toNat + token.lexeme.length }

/-- The token is one of `tokens`, and stands before the character that the error is about. -/
structure Token.IsBefore (tokens : List Token) (error : LexError) (token : Token) : Prop where
  mem : token ∈ tokens
  isEnd_eq_false : token.isEnd = false
  stop_le : token.stop ≤ error.index

/-- A step that cannot get past the error failed with it, or before at one of `tokens`. -/
def ParseFailure.IsUpTo (tokens : List Token) (error : LexError) (failure : ParseFailure) : Prop :=
  failure = .lexical error ∨
    ∃ refusal, failure = .grammatical refusal ∧ refusal.found.IsBefore tokens error

namespace TokenReader

/-- What a reader gives that starts with a stream and is asked for one part after the other. -/
def startEach (stream : TokenStream) (source : Option String) (requests : List ParseRequest) :
    Except LexError (TokenReader × List ParseStep) := do
  let p ← start stream source
  return (p, p.performEach requests)

/-- The reader fetches from the text, and has fetched nothing behind the token it looks at. -/
def IsFedFrom (text : String) (p : TokenReader) : Prop :=
  p.stream = if p.current.isEnd then .done else (Scanner.behind text p.current).stream

/-! ## Fetching from a scanner -/

/-- A fetch from the stream of a scanner is one step of the scanner. -/
theorem fetch_stream (source : Option String) (scanner : Scanner) :
    fetch source scanner.stream =
      match scanner.next with
      | (.ok token, after) => .ok (token, if token.isEnd then .done else after.stream)
      | (.error error, _) => .error error := by
  rw [scanner.stream_eq]
  obtain ⟨fetched, after⟩ := scanner.next
  cases fetched <;> rfl

theorem next_eq_ok {scanner after : Scanner} {token : Token}
    (h : scanner.next = (.ok token, after)) : after = .behind scanner.source token := by
  unfold Scanner.next at h
  split at h
  · obtain ⟨hfetched, rfl⟩ := Prod.mk.inj h
    rw [Except.ok.inj hfetched]
    rfl
  · simp at h

/-- After a fetch the scanner stands behind the token that was fetched. -/
theorem fetch_stream_eq_ok {source : Option String} {scanner : Scanner} {token : Token}
    {rest : TokenStream} (h : fetch source scanner.stream = .ok (token, rest)) :
    rest = if token.isEnd then .done else (Scanner.behind scanner.source token).stream := by
  rw [fetch_stream] at h
  split at h
  · rename_i token' after hnext
    obtain ⟨rfl, rfl⟩ := Prod.mk.inj (Except.ok.inj h)
    rw [next_eq_ok hnext]
  · simp at h

theorem start_eq_ok {stream rest : TokenStream} {source : Option String} {token : Token}
    (h : fetch source stream = .ok (token, rest)) :
    start stream source = .ok { current := token, stream := rest, source } := by
  rw [start, h]
  rfl

theorem startEach_eq_ok {stream : TokenStream} {source : Option String} {p : TokenReader}
    (h : start stream source = .ok p) (requests : List ParseRequest) :
    startEach stream source requests = .ok (p, p.performEach requests) := by
  rw [startEach, h]
  rfl

/-! ## Texts that can be cut into tokens -/

section Fed

variable {text : String} {p : TokenReader}

theorem exists_start_ofText (hunbroken : (TokenStream.ofText text).error? = none)
    (source : Option String) :
    ∃ p, start (.ofText text) source = .ok p ∧ p.stream.error? = none ∧ p.IsFedFrom text := by
  obtain ⟨token, rest, hfetch, hrest, -⟩ := fetch_unbroken source hunbroken
  refine ⟨_, start_eq_ok hfetch, hrest, ?_⟩
  have hscanner : TokenStream.ofText text = Scanner.stream { source := text } := rfl
  rw [hscanner] at hfetch
  exact fetch_stream_eq_ok hfetch

/-- A reader that is fed from a text without stray characters stays so, also when it fails. -/
def feed (text : String) : Lockstep where
  Related p q := p = q ∧ p.stream.error? = none ∧ p.IsFedFrom text
  Alike := Eq
  Failed failure p failure' q :=
    failure = failure' ∧ p = q ∧ p.stream.error? = none ∧ p.IsFedFrom text
  kind_eq h := congrArg Token.kind h
  lexeme_eq h _ := congrArg Token.lexeme h
  alike_current h := congrArg current h.1
  bracketDepth_eq h := congrArg bracketDepth h.1
  related_bracketDepth := by
    rintro p _ ⟨rfl, hunbroken, hfed⟩ depth
    exact ⟨rfl, hunbroken, hfed⟩
  both_moveOn := by
    rintro p _ ⟨rfl, hunbroken, hfed⟩ hend
    obtain ⟨token, rest, hfetch, hrest, -⟩ := fetch_unbroken p.source hunbroken
    rw [moveOn, hfetch]
    rw [IsFedFrom, hend] at hfed
    simp only [Bool.false_eq_true, if_false] at hfed
    rw [hfed] at hfetch
    exact ⟨rfl, rfl, hrest, fetch_stream_eq_ok hfetch⟩
  failed_fail := by
    rintro p _ ⟨rfl, h⟩ token _ rfl fault
    exact ⟨rfl, rfl, h⟩

theorem isFedFrom_performEach (hunbroken : p.stream.error? = none) (hfed : p.IsFedFrom text)
    (requests : List ParseRequest) :
    ∀ step ∈ p.performEach requests, step.after.IsFedFrom text := by
  have hresumes : (feed text).Resumes := fun _ _ _ _ h => h.2
  have hdone := (feed text).both_performEach hresumes ⟨rfl, hunbroken, hfed⟩ requests
  intro step hstep
  have hboth : (feed text).BothDone step step := List.forall₂_same.1 hdone step hstep
  exact (hboth.related hresumes).2.2

end Fed

/-! ## Texts with a stray character -/

/-- The tokens that a reader looks at and can fetch stand before the error that ends its stream. -/
structure Approaches (tokens : List Token) (error : LexError) (p : TokenReader) : Prop where
  broken : p.stream.error? = some error
  isBefore : ∀ token ∈ p.current :: p.stream.tokens, token.IsBefore tokens error

section Approaches

variable {tokens : List Token} {error : LexError} {p : TokenReader}

/-- A stream that ends in an error yields a token before it, or the error. -/
theorem fetch_broken {stream : TokenStream} (source : Option String)
    (hbroken : stream.error? = some error) :
    fetch source stream = .error error ∨
      ∃ token rest, fetch source stream = .ok (token, rest) ∧ rest.error? = some error ∧
        stream.tokens = token :: rest.tokens := by
  cases stream with
  | done => simp [TokenStream.error?] at hbroken
  | broken error' =>
    obtain rfl := Option.some.inj hbroken
    exact .inl rfl
  | cons token rest => exact .inr ⟨token, rest, rfl, hbroken, rfl⟩

/-- A reader of a stream that ends in an error cannot start, or is on its way to the error. -/
theorem start_broken {stream : TokenStream} (source : Option String)
    (hbroken : stream.error? = some error)
    (hbefore : ∀ token ∈ stream.tokens, token.IsBefore tokens error) :
    start stream source = .error error ∨
      ∃ p, start stream source = .ok p ∧ p.Approaches tokens error := by
  rcases fetch_broken source hbroken with hfetch | ⟨token, rest, hfetch, hrest, htokens⟩
  · refine .inl ?_
    rw [start, hfetch]
    rfl
  · exact .inr ⟨_, start_eq_ok hfetch, hrest, htokens ▸ hbefore⟩

/-- A reader on its way to an error stays so, or fails at the error or before it. -/
def approach (tokens : List Token) (error : LexError) : Lockstep where
  Related p q := p = q ∧ p.Approaches tokens error
  Alike token token' := token = token' ∧ token.IsBefore tokens error
  Failed failure _ failure' _ := failure = failure' ∧ failure.IsUpTo tokens error
  kind_eq h := congrArg Token.kind h.1
  lexeme_eq h _ := congrArg Token.lexeme h.1
  alike_current h := ⟨congrArg current h.1, h.2.isBefore _ List.mem_cons_self⟩
  bracketDepth_eq h := congrArg bracketDepth h.1
  related_bracketDepth := by
    rintro p _ ⟨rfl, h⟩ depth
    exact ⟨rfl, h.broken, h.isBefore⟩
  both_moveOn := by
    rintro p _ ⟨rfl, h⟩ -
    rcases fetch_broken p.source h.broken with hfetch | ⟨token, rest, hfetch, hrest, htokens⟩
    · rw [moveOn, hfetch]
      exact ⟨rfl, .inl rfl⟩
    · rw [moveOn, hfetch]
      have hbefore := (List.forall_mem_cons.1 h.isBefore).2
      rw [htokens] at hbefore
      exact ⟨rfl, rfl, hrest, hbefore⟩
  failed_fail := by
    rintro p _ ⟨rfl, -⟩ token _ ⟨rfl, hbefore⟩ fault
    exact ⟨rfl, .inr ⟨_, rfl, hbefore⟩⟩

/-- Behind a whole expression a reader looks at an end. -/
theorem isEnd_of_parse {q : TokenReader} {tree : Expr} (h : TokenReader.parse p = .ok tree q) :
    q.current.isEnd = true := by
  cases hread : read .expr p with
  | ok part q' =>
    rw [parse_of_read hread] at h
    split at h
    · rename_i hend
      obtain ⟨-, rfl⟩ := EStateM.Result.ok.inj h
      exact hend
    · simp [fail] at h
  | error failure q' =>
    change (read .expr >>= _) p = _ at h
    rw [bind_of_error hread] at h
    simp at h

/-- A reader on its way to an error has no whole expression. -/
theorem Approaches.parse (h : p.Approaches tokens error) :
    ∃ failure q, parse p = .error failure q ∧ failure.IsUpTo tokens error := by
  have hparse := (approach tokens error).both_parse ⟨rfl, h⟩
  cases hres : TokenReader.parse p with
  | ok tree q =>
    rw [hres] at hparse
    have hbefore := hparse.2.2.isBefore _ List.mem_cons_self
    have hend := hbefore.isEnd_eq_false
    rw [isEnd_of_parse hres] at hend
    simp at hend
  | error failure q =>
    rw [hres] at hparse
    exact ⟨failure, q, rfl, hparse.2⟩

end Approaches

end TokenReader

open TokenReader

/-- A reader that fetches tokens from a text gets them one by one, by steps of a scanner of the text.
If the text can be cut into tokens, it gives the same results and gets into the same states as a
reader that is given all of them at once, whatever they are asked for, and has never fetched more than
the token it looks at. If not, it never has a whole expression: it cannot start, or it fails, with the
error of the text or at a token that ends before the stray character. -/
theorem reading_on_demand (text : String) (source : Option String) :
    TokenStream.ofText text = Scanner.stream { source := text } ∧
      (∀ scanner : Scanner, fetch source scanner.stream =
        match scanner.next with
        | (.ok token, after) => .ok (token, if token.isEnd then .done else after.stream)
        | (.error error, _) => .error error) ∧
      match tokensOf text with
      | .ok tokens => ∀ requests, ∃ p steps,
          startEach (.ofText text) source requests = .ok (p, steps) ∧
            startEach (.ofList tokens) source requests = .ok (p, steps) ∧
            p.IsFedFrom text ∧ ∀ step ∈ steps, step.after.IsFedFrom text
      | .error error =>
          start (.ofText text) source = .error error ∨
            ∃ p failure q, start (.ofText text) source = .ok p ∧ parse p = .error failure q ∧
              (failure = .lexical error ∨ ∃ refusal, failure = .grammatical refusal ∧
                refusal.found ∈ (TokenStream.ofText text).tokens ∧
                refusal.found.stop ≤ error.index) := by
  refine ⟨rfl, fetch_stream source, ?_⟩
  split
  · rename_i tokens htokens
    intro requests
    have hstream := ofText_eq_ofList htokens
    have hunbroken : (TokenStream.ofText text).error? = none := hstream ▸ (tokens_ofList tokens).2
    obtain ⟨p, hstart, hp, hfed⟩ := exists_start_ofText hunbroken source
    have hsteps := startEach_eq_ok hstart requests
    exact ⟨p, _, hsteps, hstream ▸ hsteps, hfed, isFedFrom_performEach hp hfed requests⟩
  · rename_i error herror
    have hbroken := error?_ofText herror
    have hlexes : Lexes text 0 text.toList (.ofText text) := lexes_scanFrom text 0 text.toList
    obtain ⟨-, hstops⟩ := hlexes.stop_le_index hbroken
    have hisBefore : ∀ token ∈ (TokenStream.ofText text).tokens,
        token.IsBefore (TokenStream.ofText text).tokens error := by
      intro token htoken
      exact ⟨htoken, (hstops token htoken).1, (hstops token htoken).2⟩
    rcases start_broken source hbroken hisBefore with hstart | ⟨p, hstart, hp⟩
    · exact .inl hstart
    · obtain ⟨failure, q, hparse, hfailure⟩ := hp.parse
      refine .inr ⟨p, failure, q, hstart, hparse, ?_⟩
      rcases hfailure with hlexical | ⟨refusal, hgrammatical, hfound⟩
      · exact .inl hlexical
      · exact .inr ⟨refusal, hgrammatical, hfound.mem, hfound.stop_le⟩

end ExprCompiler
