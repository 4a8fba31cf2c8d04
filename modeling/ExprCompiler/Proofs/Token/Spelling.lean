import ExprCompiler.Proofs.Token.Lexing

/-!
# Texts for tokens

Of a token, the grammar sees the kind and, if it is a number, the lexeme (`Token.meaning`). Every
list of tokens whose lexemes are as the scanner cuts them out (`Token.IsSpelled`) says the same as
the tokens of some text: that of its lexemes with a blank after each
(`exists_tokensOf_spelledOut`).
-/

namespace ExprCompiler

/-! ## What a token says -/

/-- What the grammar sees of a token: its kind and, for a number, its lexeme. -/
def Token.meaning (token : Token) : TokenKind × Option String :=
  (token.kind, if token.kind = .number then some token.lexeme else none)

namespace Token

variable {token other : Token}

theorem kind_eq_of_meaning (h : other.meaning = token.meaning) : other.kind = token.kind :=
  congrArg Prod.fst h

theorem lexeme_eq_of_meaning (h : other.meaning = token.meaning) (hkind : token.kind = .number) :
    other.lexeme = token.lexeme := by
  have hlexemes := congrArg Prod.snd h
  simpa only [meaning, kind_eq_of_meaning h, hkind, if_true, Option.some.injEq] using hlexemes

/-- Apart from numbers, a token says its kind. -/
theorem meaning_eq_of_kind (hkind : other.kind = token.kind) (hne : token.kind ≠ .number) :
    other.meaning = token.meaning := by
  simp only [meaning, hkind, if_neg hne]

end Token

theorem map_kind_of_meaning {tokens others : List Token}
    (h : others.map Token.meaning = tokens.map Token.meaning) :
    others.map Token.kind = tokens.map Token.kind := by
  have hfirst := congrArg (List.map Prod.fst) h
  rwa [List.map_map, List.map_map] at hfirst

/-! ## Tokens that can be spelled -/

/-- A lexeme of a given kind. -/
def TokenKind.sampleLexeme : TokenKind → String
  | number => "1"
  | plus => "+"
  | minus => "-"
  | star => "*"
  | slash => "/"
  | bracketOpen => "("
  | bracketClose => ")"
  | exprEnd => ""

/-- A token of a given kind. -/
def TokenKind.sample (kind : TokenKind) : Token :=
  { kind, lexeme := kind.sampleLexeme, position := 0 }

/-- A token whose lexeme is one that the scanner cuts out. -/
inductive Token.IsSpelled : Token → Prop where
  /-- A number is a digit and a run of digits and points. -/
  | number {first : Char} {run : List Char} {position : Int} (hfirst : first.isDigit = true)
      (hrun : ∀ c ∈ run, isInNumber c = true) :
      IsSpelled { kind := .number, lexeme := .ofList (first :: run), position }
  /-- A sign is one character. -/
  | sign {c : Char} {kind : TokenKind} {position : Int} (hkind : TokenKind.ofSign? c = some kind) :
      IsSpelled { kind, lexeme := .singleton c, position }

/-- The lexemes of tokens, with a blank after each. -/
def spelledOut (tokens : List Token) : List Char :=
  tokens.flatMap fun token => token.lexeme.toList ++ [' ']

theorem TokenKind.isSpelled_sample {kind : TokenKind} (h : kind ≠ .exprEnd) :
    kind.sample.IsSpelled := by
  cases kind with
  | number => exact @Token.IsSpelled.number '1' [] 0 rfl (by simp)
  | exprEnd => exact absurd rfl h
  | plus => exact @Token.IsSpelled.sign '+' _ _ rfl
  | minus => exact @Token.IsSpelled.sign '-' _ _ rfl
  | star => exact @Token.IsSpelled.sign '*' _ _ rfl
  | slash => exact @Token.IsSpelled.sign '/' _ _ rfl
  | bracketOpen => exact @Token.IsSpelled.sign '(' _ _ rfl
  | bracketClose => exact @Token.IsSpelled.sign ')' _ _ rfl

/-- A spelled token in front of a text is a token in front of its stream, where no number goes on
behind it. -/
theorem Token.IsSpelled.lexes {source : String} {token : Token} (h : token.IsSpelled) {offset : Nat}
    {rest : List Char} {stream : TokenStream} (hstop : token.kind = .number → EndsNumber rest)
    (hrest : Lexes source (offset + token.lexeme.length) rest stream) :
    Lexes source offset (token.lexeme.toList ++ rest)
      (.cons { token with position := offset } stream) := by
  cases h with
  | number hfirst hrun =>
    rw [String.length_ofList, List.length_cons] at hrest
    rw [String.toList_ofList]
    exact .number hfirst hrun (hstop rfl) hrest
  | sign hkind =>
    rw [String.length_singleton] at hrest
    rw [String.toList_singleton]
    exact .sign hkind hrest

theorem exists_lexes_spelledOut {tokens : List Token} (h : ∀ token ∈ tokens, token.IsSpelled)
    (source : String) (offset : Nat) :
    ∃ stream found ending, Lexes source offset (spelledOut tokens) stream ∧
      stream.error? = none ∧ stream.tokens = found ++ [ending] ∧ ending.isEnd = true ∧
      found.map Token.meaning = tokens.map Token.meaning := by
  induction tokens generalizing offset with
  | nil => exact ⟨_, [], .endAt offset, .finish, rfl, rfl, rfl, rfl⟩
  | cons token rest ih =>
    obtain ⟨htoken, hrest⟩ := List.forall_mem_cons.1 h
    obtain ⟨stream, found, ending, hlexes, herror, htokens, hending, hmeaning⟩ :=
      ih hrest (offset + token.lexeme.length + 1)
    have hblank : Lexes source (offset + token.lexeme.length) (' ' :: spelledOut rest) stream :=
      .blank (by decide) hlexes
    refine ⟨.cons { token with position := offset } stream, { token with position := offset } :: found,
      ending, ?_, herror, ?_, hending, ?_⟩
    · rw [spelledOut, List.flatMap_cons, List.append_assoc]
      exact htoken.lexes (fun _ => endsNumber_cons (by decide)) hblank
    · rw [TokenStream.tokens, htokens, List.cons_append]
    · rw [List.map_cons, List.map_cons, hmeaning]
      rfl

/-- The text of spelled tokens has tokens that say the same, and then the end. -/
theorem exists_tokensOf_spelledOut {tokens : List Token}
    (h : ∀ token ∈ tokens, token.IsSpelled) :
    ∃ found ending, tokensOf (.ofList (spelledOut tokens)) = .ok (found ++ [ending]) ∧
      ending.isEnd = true ∧ found.map Token.meaning = tokens.map Token.meaning := by
  obtain ⟨stream, found, ending, hlexes, herror, htokens, hending, hmeaning⟩ :=
    exists_lexes_spelledOut h (.ofList (spelledOut tokens)) 0
  refine ⟨found, ending, tokensOf_eq_ok_iff.2 ⟨stream, ?_, herror, htokens⟩, hending, hmeaning⟩
  rw [String.toList_ofList]
  exact hlexes

end ExprCompiler
