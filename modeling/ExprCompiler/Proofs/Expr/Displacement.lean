import ExprCompiler.Proofs.Expr.ListReader
import ExprCompiler.Proofs.Expr.Lockstep
import Mathlib.Data.List.Forall2

/-!
# Tokens at other places

Where tokens stand, and which text they are said to come from, shows in excerpts of that text only.
Two readers of lists whose tokens differ in nothing but their places are in lockstep (`displace`): they
give the same parts of expressions, and find the same faults at the same words
(`sameStep_performEach`).
-/

namespace ExprCompiler

/-- The tokens differ at most in the place where they stand. -/
structure Token.SameWord (token token' : Token) : Prop where
  kind_eq : token.kind = token'.kind
  lexeme_eq : token.lexeme = token'.lexeme

/-- The characters of a text before its first line feed. -/
def firstLine (text : String) : List Char :=
  text.toList.takeWhile (· != '\n')

/-- The errors differ at most in the place of the token and in the text of which an excerpt is
shown. -/
structure ParseError.SameVerdict (error error' : ParseError) : Prop where
  /-- The same rule is broken. -/
  fault_eq : error.fault = error'.fault
  /-- The errors have the same class. -/
  kind_eq : error.kind = error'.kind
  /-- The same kinds of token would have fitted. -/
  expected_eq : error.expected = error'.expected
  /-- The messages begin with the same line. -/
  firstLine_eq : firstLine error.message = firstLine error'.message
  /-- The same word breaks the rule. -/
  found : error.found.SameWord error'.found

/-! ## Errors -/

theorem takeWhile_append_break (front rest : List Char) :
    (front ++ '\n' :: rest).takeWhile (· != '\n') = front.takeWhile (· != '\n') := by
  induction front with
  | nil => rfl
  | cons c front ih => rw [List.cons_append, List.takeWhile_cons, List.takeWhile_cons, ih]

/-- Of lines that are put together, the first one comes first. -/
theorem firstLine_intercalate (line : String) (rest : List String) :
    firstLine ("\n".intercalate (line :: rest)) = firstLine line := by
  cases rest with
  | nil => rw [String.intercalate_singleton]
  | cons next rest =>
    have hbreak : "\n".toList = ['\n'] := rfl
    rw [firstLine, String.intercalate_cons_cons, String.toList_append, String.toList_append, hbreak,
      List.append_assoc]
    exact takeWhile_append_break _ _

namespace ParseError

/-- The excerpt of a message stands below its first line. -/
theorem firstLine_message (error : ParseError) :
    firstLine error.message = firstLine ("[Parser error] " ++ error.headline) :=
  firstLine_intercalate _ _

/-- What an error says follows from the broken rule and the word that breaks it. -/
theorem SameVerdict.of_fault {error error' : ParseError} (hfault : error.fault = error'.fault)
    (hfound : error.found.SameWord error'.found) : error.SameVerdict error' where
  fault_eq := hfault
  kind_eq := by
    rw [kind, kind, hfault, hfound.kind_eq]
  expected_eq := by
    rw [expected, expected, hfault]
  firstLine_eq := by
    have hheadline : error.headline = error'.headline := by
      rw [headline, headline, hfault, hfound.kind_eq, hfound.lexeme_eq]
    rw [firstLine_message, firstLine_message, hheadline]
  found := hfound

end ParseError

namespace TokenReader

/-- The results are the same, up to the places of tokens and the excerpts of texts. -/
inductive SameResult : Except ParseFailure ParseReply → Except ParseFailure ParseReply → Prop where
  /-- Both have the same expression. -/
  | whole (expr : Expr) : SameResult (.ok (.whole expr)) (.ok (.whole expr))
  /-- Both have the same part of an expression, with its depth. -/
  | part (tree : Subtree) : SameResult (.ok (.part tree)) (.ok (.part tree))
  /-- Both have the same word. -/
  | token {token token' : Token} (h : token.SameWord token') :
      SameResult (.ok (.token token)) (.ok (.token token'))
  /-- Both find the same fault. -/
  | failure {error error' : ParseError} (h : error.SameVerdict error') :
      SameResult (.error (.grammatical error)) (.error (.grammatical error'))

/-- The readers look at the same word, in as many brackets. -/
structure SameOutlook (p q : TokenReader) : Prop where
  current : p.current.SameWord q.current
  bracketDepth_eq : p.bracketDepth = q.bracketDepth

/-- The steps have the same result and the same outlook after it. -/
structure SameStep (done done' : ParseStep) : Prop where
  result : SameResult done.result done'.result
  after : done.after.SameOutlook done'.after

/-! ## Readers of both lists -/

/-- The readers have consumed as many tokens of their lists, and are in as many brackets. -/
def Displaced (tokens tokens' : List Token) (source source' : Option String)
    (p q : TokenReader) : Prop :=
  ∃ index depth, p = readerAt tokens source index depth ∧ q = readerAt tokens' source' index depth

section Displaced

variable {tokens tokens' : List Token} {source source' : Option String}

theorem sameWord_tokenAt (h : List.Forall₂ Token.SameWord tokens tokens')
    (source source' : Option String) (index : Nat) :
    (tokenAt tokens source index).SameWord (tokenAt tokens' source' index) := by
  induction h generalizing index with
  | nil => exact ⟨rfl, rfl⟩
  | cons hfirst _ ih =>
    cases index with
    | zero => exact hfirst
    | succ index => exact ih index

/-- Readers of lists with the same words stay in step, also when they fail. -/
def displace (h : List.Forall₂ Token.SameWord tokens tokens') (source source' : Option String) :
    Lockstep where
  Related := Displaced tokens tokens' source source'
  Alike := Token.SameWord
  Failed failure p failure' q := Displaced tokens tokens' source source' p q ∧
    ∃ error error', failure = .grammatical error ∧ failure' = .grammatical error' ∧
      error.SameVerdict error'
  kind_eq hword := hword.kind_eq
  lexeme_eq hword _ := hword.lexeme_eq
  alike_current := by
    rintro _ _ ⟨index, depth, rfl, rfl⟩
    exact sameWord_tokenAt h source source' index
  bracketDepth_eq := by
    rintro _ _ ⟨index, depth, rfl, rfl⟩
    rfl
  related_bracketDepth := by
    rintro _ _ ⟨index, _, rfl, rfl⟩ depth
    exact ⟨index, depth, rfl, rfl⟩
  both_moveOn := by
    rintro _ _ ⟨index, depth, rfl, rfl⟩ -
    rw [moveOn_readerAt, moveOn_readerAt]
    exact ⟨rfl, index + 1, depth, rfl, rfl⟩
  failed_fail := by
    intro p q hdisplaced token token' hword fault
    exact ⟨hdisplaced, _, _, rfl, rfl, .of_fault rfl hword⟩

variable (h : List.Forall₂ Token.SameWord tokens tokens')

include h

theorem Displaced.sameOutlook {p q : TokenReader} (hpq : Displaced tokens tokens' source source' p q) :
    p.SameOutlook q where
  current := (displace h source source').alike_current hpq
  bracketDepth_eq := (displace h source source').bracketDepth_eq hpq

theorem sameStep_of_bothDone {done done' : ParseStep}
    (hdone : (displace h source source').BothDone done done') : SameStep done done' := by
  have hresumes : (displace h source source').Resumes := fun _ _ _ _ hfailed => hfailed.1
  refine ⟨?_, Displaced.sameOutlook h (hdone.related hresumes)⟩
  unfold Lockstep.BothDone at hdone
  split at hdone
  · rename_i reply reply' hok hok'
    rw [hok, hok']
    cases hdone.1 with
    | whole expr => exact .whole expr
    | part tree => exact .part tree
    | token hword => exact .token hword
  · rename_i failure failure' herror herror'
    obtain ⟨-, error, error', rfl, rfl, hverdict⟩ := hdone
    rw [herror, herror']
    exact .failure hverdict
  · exact hdone.elim

/-- Whatever they are asked for, readers of lists with the same words do the same. -/
theorem sameStep_performEach (source source' : Option String) (requests : List ParseRequest) :
    List.Forall₂ SameStep ((readerAt tokens source 0 0).performEach requests)
      ((readerAt tokens' source' 0 0).performEach requests) := by
  have hresumes : (displace h source source').Resumes := fun _ _ _ _ hfailed => hfailed.1
  have hsteps := (displace h source source').both_performEach hresumes ⟨0, 0, rfl, rfl⟩ requests
  exact hsteps.imp fun _ _ hdone => sameStep_of_bothDone h hdone

end Displaced

end TokenReader

/-- Lists with the same words describe the same expression, or have the same fault. -/
theorem Expr.ofTokens_of_sameWord {tokens tokens' : List Token}
    (h : List.Forall₂ Token.SameWord tokens tokens') (source source' : Option String) :
    (∃ expr, ofTokens tokens source = .ok expr ∧ ofTokens tokens' source' = .ok expr) ∨
      ∃ error error', ofTokens tokens source = .error (.grammatical error) ∧
        ofTokens tokens' source' = .error (.grammatical error') ∧ error.SameVerdict error' := by
  have hparse := (TokenReader.displace h source source').both_parse ⟨0, 0, rfl, rfl⟩
  simp only [ofTokens, TokenReader.start_ofList_eq]
  cases hp : TokenReader.parse (TokenReader.readerAt tokens source 0 0) <;>
    cases hq : TokenReader.parse (TokenReader.readerAt tokens' source' 0 0) <;>
    rw [hp, hq] at hparse
  · obtain ⟨rfl, -⟩ := hparse
    exact .inl ⟨_, rfl, rfl⟩
  · exact hparse.elim
  · exact hparse.elim
  · obtain ⟨-, error, error', rfl, rfl, hverdict⟩ := hparse
    exact .inr ⟨error, error', rfl, rfl, hverdict⟩

end ExprCompiler
