import ExprCompiler.Text.Blank
import ExprCompiler.Text.Excerpt
import ExprCompiler.Text.Quoted
import ExprCompiler.Token.Basic

/-!
# From text to tokens

Blank characters separate lexemes. A number is the longest run of digits and points that starts with
a digit, however many points it holds; every other lexeme is one sign. Only ASCII digits count here.
The first character that is none of these stops the reading with a `LexError`.

`scan` takes one step on a list of characters. A `Scanner` takes one step at a time and remembers
its place, a `TokenStream` is everything that the steps yield, and `tokensOf` is the list of all
tokens of a text that has no error.
-/

namespace ExprCompiler

/-- A character that no lexeme can start with. -/
structure LexError where
  /-- The text that was read. -/
  source : String
  /-- The index of the character. -/
  index : Nat
  /-- The character. -/
  character : Char
  deriving DecidableEq, Repr

/-- The report of the error: what was met, and an excerpt that points at it. -/
def LexError.message (error : LexError) : String :=
  "\n".intercalate
    (("[Tokenizer error] Unexpected character: " ++ quoted (.singleton error.character)) ::
      (Excerpt.around error.source error.index).lines)

/-- Whether a character may stand in a number after its first digit. -/
def isInNumber (c : Char) : Bool :=
  c.isDigit || c = '.'

/-- What one step of reading meets. -/
inductive Scan where
  /-- A token, and the characters after its lexeme. -/
  | token (token : Token) (rest : List Char)
  /-- A character that starts no lexeme, at an index. -/
  | stray (index : Nat) (character : Char)
  deriving Repr

/-- The first lexeme of `chars`, which start at index `offset` of the source. -/
def scan (offset : Nat) (chars : List Char) : Scan :=
  let start := offset + (chars.takeWhile isBlank).length
  match chars.dropWhile isBlank with
  | [] => .token (.endAt start) []
  | c :: rest =>
    if c.isDigit then
      let lexeme := .ofList (c :: rest.takeWhile isInNumber)
      .token { kind := .number, lexeme, position := start } (rest.dropWhile isInNumber)
    else
      match TokenKind.ofSign? c with
      | some kind => .token { kind, lexeme := .singleton c, position := start } rest
      | none => .stray start c

/-- A step that yields a lexeme leaves fewer characters. -/
theorem length_lt_of_scan {offset : Nat} {chars rest : List Char} {token : Token}
    (h : scan offset chars = .token token rest) (hend : token.isEnd = false) :
    rest.length < chars.length := by
  have hle := (List.dropWhile_suffix (l := chars) isBlank).length_le
  unfold scan at h
  split at h
  · simp only [Scan.token.injEq] at h
    simp [← h.1, Token.isEnd, Token.endAt] at hend
  · rename_i c tail hdrop
    simp only [hdrop, List.length_cons] at hle
    split at h
    · have hnum := (List.dropWhile_suffix (l := tail) isInNumber).length_le
      simp only [Scan.token.injEq] at h
      rw [← h.2]
      omega
    · split at h
      · simp only [Scan.token.injEq] at h
        rw [← h.2]
        omega
      · simp at h

/-! ## Streams -/

/-- The tokens that a reader can still fetch. -/
inductive TokenStream where
  /-- Nothing is left. -/
  | done
  /-- The next fetch fails, and after that nothing is left. -/
  | broken (error : LexError)
  /-- The next fetch yields a token. -/
  | cons (token : Token) (rest : TokenStream)
  deriving Repr

namespace TokenStream

/-- The stream of given tokens. -/
def ofList : List Token → TokenStream
  | [] => done
  | token :: tokens => cons token (ofList tokens)

/-- The number of tokens that can be fetched. -/
def length : TokenStream → Nat
  | done => 0
  | broken _ => 0
  | cons _ rest => rest.length + 1

/-- The tokens before the end or the error of a stream. -/
def tokens : TokenStream → List Token
  | done => []
  | broken _ => []
  | cons token rest => token :: rest.tokens

/-- The error that ends a stream. -/
def error? : TokenStream → Option LexError
  | done => none
  | broken error => some error
  | cons _ rest => rest.error?

/-- All tokens of a stream without an error. -/
def toList (stream : TokenStream) : Except LexError (List Token) :=
  match stream.error? with
  | some error => .error error
  | none => .ok stream.tokens

/-- The stream of the lexemes of `chars`, which start at index `offset` of `source`; its last token
is the end of the expression. -/
def scanFrom (source : String) (offset : Nat) (chars : List Char) : TokenStream :=
  match _h : scan offset chars with
  | .stray index character => broken { source, index, character }
  | .token token rest =>
    if _hend : token.isEnd then cons token done
    else cons token (scanFrom source (token.position.toNat + token.lexeme.length) rest)
termination_by chars.length
decreasing_by exact length_lt_of_scan _h (by simpa using _hend)

/-- The stream of the lexemes of a text. -/
def ofText (source : String) : TokenStream :=
  scanFrom source 0 source.toList

end TokenStream

/-- All tokens of a text, the last of which is the end of the expression. -/
def tokensOf (source : String) : Except LexError (List Token) :=
  (TokenStream.ofText source).toList

/-! ## Stepwise reading -/

/-- A reader that stands at a place in a text. -/
structure Scanner where
  /-- The text. -/
  source : String
  /-- The index of the first character that is not yet read. -/
  offset : Nat := 0
  deriving DecidableEq, Repr

namespace Scanner

/-- The characters that are not yet read. -/
def remaining (scanner : Scanner) : List Char :=
  scanner.source.toList.drop scanner.offset

/-- One fetch: a token, or the error at a stray character, before which the reader then stands. -/
def next (scanner : Scanner) : Except LexError Token × Scanner :=
  match scan scanner.offset scanner.remaining with
  | .token token _ =>
    (.ok token, { scanner with offset := token.position.toNat + token.lexeme.length })
  | .stray index character =>
    (.error { source := scanner.source, index, character }, { scanner with offset := index })

/-- Everything that fetching until the end or an error yields. -/
def stream (scanner : Scanner) : TokenStream :=
  .scanFrom scanner.source scanner.offset scanner.remaining

/-- The reader after all of its stream is fetched: at the end of the text, or at the stray
character. -/
def drained (scanner : Scanner) : Scanner :=
  match scanner.stream.error? with
  | some error => { scanner with offset := error.index }
  | none => { scanner with offset := scanner.source.length }

end Scanner

/-- How much to fetch at once. -/
inductive Fetch where
  /-- One token. -/
  | one
  /-- All tokens up to the end or an error. -/
  | all
  deriving DecidableEq, Repr

/-- What a fetch yields. -/
structure Fetched where
  /-- The tokens, also those before an error. -/
  tokens : List Token
  /-- The error that ended the fetch. -/
  error? : Option LexError
  deriving DecidableEq, Repr

namespace Scanner

/-- Fetches one token or all. -/
def fetch (scanner : Scanner) : Fetch → Fetched × Scanner
  | .one =>
    match scanner.next with
    | (.ok token, after) => ({ tokens := [token], error? := none }, after)
    | (.error error, after) => ({ tokens := [], error? := some error }, after)
  | .all => ({ tokens := scanner.stream.tokens, error? := scanner.stream.error? }, scanner.drained)

/-- What a sequence of fetches yields, each with the reader after it. -/
def fetchEach (scanner : Scanner) : List Fetch → List (Fetched × Scanner)
  | [] => []
  | amount :: rest =>
    let step := scanner.fetch amount
    step :: step.2.fetchEach rest

end Scanner

end ExprCompiler
