import ExprCompiler.Compilation.Pipeline
import ExprCompiler.Proofs.Expr.ListReader
import ExprCompiler.Proofs.Expr.Lockstep
import ExprCompiler.Proofs.Text.Excerpt
import ExprCompiler.Proofs.Token.Fetching

/-!
# What the caret of a message points at

Every failure of reading a text is about a place in it: that of a stray character, or that of a token
that breaks a rule. The message ends in an excerpt of the text around the place, in which the caret
has the column of the character at the place (`caret_of_ofText`). Excerpts are not cut at line feeds,
so the line above the caret is the whole excerpt only if there is no line feed near the place. Else
the caret can stand below another character, or below none (`not_caretMarks_behind_newline`).
-/

namespace ExprCompiler

/-- The index in the text that a failure is about. -/
def ParseFailure.place : ParseFailure → Int
  | lexical error => error.index
  | grammatical error => error.found.position

/-- The character that a failure is about, which is the first one of a token; none at the end. -/
def ParseFailure.offender? : ParseFailure → Option Char
  | lexical error => some error.character
  | grammatical error => error.found.lexeme.toList.head?

/-- The last line of a message is a caret behind blanks, and the line above has the character in the
column of the caret, or if there is none, it ends there. -/
def CaretMarks (message : String) (character? : Option Char) : Prop :=
  ∃ others line column,
    message.toList.splitOn '\n' = others ++ [line, List.replicate column ' ' ++ ['^']] ∧
      Excerpt.Marks line column character?

/-- The excerpt of a message about the text holds no line feed. -/
def ParseFailure.IsOnOneLine (code : String) (failure : ParseFailure) : Prop :=
  ∀ i : Nat, failure.place ≤ i + 10 → (i : Int) < failure.place + 10 →
    code.toList[i]? ≠ some '\n'

namespace TokenReader

/-- A reader of a list stays one, and fails at one of the tokens that stand in the list or behind. -/
def attend (tokens : List Token) (source : Option String) : Lockstep where
  Related p q := p = q ∧ ∃ index depth, p = readerAt tokens source index depth
  Alike token token' := token = token' ∧ ∃ index, token = tokenAt tokens source index
  Failed failure _ _ _ := ∃ error index, failure = .grammatical error ∧ error.source = source ∧
    error.found = tokenAt tokens source index
  kind_eq h := congrArg Token.kind h.1
  lexeme_eq h _ := congrArg Token.lexeme h.1
  alike_current := by
    rintro p _ ⟨rfl, index, depth, rfl⟩
    exact ⟨rfl, index, rfl⟩
  bracketDepth_eq h := congrArg bracketDepth h.1
  related_bracketDepth := by
    rintro p _ ⟨rfl, index, depth, rfl⟩ depth'
    exact ⟨rfl, index, depth', rfl⟩
  both_moveOn := by
    rintro p _ ⟨rfl, index, depth, rfl⟩ -
    rw [moveOn_readerAt]
    exact ⟨rfl, rfl, index + 1, depth, rfl⟩
  failed_fail := by
    rintro p _ ⟨rfl, index, depth, rfl⟩ token _ ⟨rfl, index', htoken⟩ fault
    exact ⟨_, index', rfl, rfl, htoken⟩

end TokenReader

section Place

variable {code : String} {tokens : List Token} {source : Option String} {failure : ParseFailure}

theorem Expr.found_of_ofTokens (h : Expr.ofTokens tokens source = .error failure) :
    ∃ error index, failure = .grammatical error ∧ error.source = source ∧
      error.found = TokenReader.tokenAt tokens source index := by
  have hparse := (TokenReader.attend tokens source).both_parse
    ⟨rfl, 0, 0, (rfl : TokenReader.readerAt tokens source 0 0 = _)⟩
  rw [Expr.ofTokens, TokenReader.start_ofList_eq] at h
  cases hres : TokenReader.parse (TokenReader.readerAt tokens source 0 0) with
  | ok expr q => simp [hres] at h
  | error failure' q =>
    simp only [hres, Except.error.injEq] at h
    subst h
    rw [hres] at hparse
    exact hparse

theorem IsLexeme.head?_lexeme {offset : Nat} {chars : List Char} {token : Token}
    (h : IsLexeme offset chars token) :
    ∃ i : Nat, token.position = (offset + i : Nat) ∧ i < chars.length ∧
      token.lexeme.toList.head? = chars[i]? := by
  cases h with
  | @number before run after first hchars _ _ _ =>
    refine ⟨before.length, rfl, ?_, ?_⟩
    · simp [hchars]
    · rw [hchars, List.getElem?_append_right (Nat.le_refl _), Nat.sub_self, String.toList_ofList]
      rfl
  | @sign before after c kind hchars _ =>
    refine ⟨before.length, rfl, ?_, ?_⟩
    · simp [hchars]
    · rw [hchars, List.getElem?_append_right (Nat.le_refl _), Nat.sub_self, String.toList_ofList]
      rfl

theorem Tokenizes.head?_lexeme {offset : Nat} {chars : List Char} {token : Token}
    (h : Tokenizes offset chars tokens) (hmem : token ∈ tokens) :
    ∃ i : Nat, token.position = (offset + i : Nat) ∧ i ≤ chars.length ∧
      token.lexeme.toList.head? = chars[i]? := by
  rcases h.isLexeme_or_eq_end hmem with hlexeme | rfl
  · obtain ⟨i, hposition, hlt, hhead⟩ := hlexeme.head?_lexeme
    exact ⟨i, hposition, Nat.le_of_lt hlt, hhead⟩
  · refine ⟨chars.length, rfl, Nat.le_refl _, ?_⟩
    rw [List.getElem?_eq_none (Nat.le_refl _)]
    rfl

/-- The token at any index is one of the text's, or the end behind them. -/
theorem Tokenizes.head?_tokenAt (h : Tokenizes 0 code.toList tokens) (index : Nat) :
    ∃ i : Nat, (TokenReader.tokenAt tokens (some code) index).position = i ∧
      i ≤ code.toList.length ∧
      (TokenReader.tokenAt tokens (some code) index).lexeme.toList.head? = code.toList[i]? := by
  have hmem : TokenReader.tokenAt tokens (some code) index ∈ tokens := by
    cases hindex : tokens[index]? with
    | some token =>
      rw [TokenReader.tokenAt, hindex]
      exact List.mem_of_getElem? hindex
    | none =>
      obtain ⟨lexemes, htokens, -⟩ := h.ends
      rw [TokenReader.tokenAt, hindex, htokens, Nat.zero_add, String.length_toList]
      exact List.mem_append_right lexemes List.mem_cons_self
  obtain ⟨i, hposition, hle, hhead⟩ := h.head?_lexeme hmem
  rw [Nat.zero_add] at hposition
  exact ⟨i, hposition, hle, hhead⟩

/-- A failure is about a character of the text or about its end, and its message goes with an excerpt
around this place. -/
theorem ParseFailure.exists_place (h : Expr.ofText code = .error failure) :
    ∃ place : Nat, failure.place = place ∧ place ≤ code.toList.length ∧
      failure.offender? = code.toList[place]? ∧
      ∃ headline, failure.message =
        "\n".intercalate (headline :: (Excerpt.around code place).lines) := by
  unfold Expr.ofText at h
  split at h
  · rename_i error htokens
    obtain rfl := Except.error.inj h
    obtain ⟨hsource, i, hindex, hcharacter⟩ :=
      (lexes_scanFrom code 0 code.toList).exists_getElem? (error?_ofText htokens)
    obtain ⟨hlt, -⟩ := List.getElem?_eq_some_iff.1 hcharacter
    rw [Nat.zero_add] at hindex
    subst hindex
    refine ⟨error.index, rfl, Nat.le_of_lt hlt, hcharacter.symm, ?_⟩
    rw [message, LexError.message, hsource]
    exact ⟨_, rfl⟩
  · rename_i tokens htokens
    have htokenizes := tokensOf_eq_ok_iff_tokenizes.1 htokens
    obtain ⟨error, index, rfl, hsource, hfound⟩ := Expr.found_of_ofTokens h
    obtain ⟨place, hposition, hle, hhead⟩ := htokenizes.head?_tokenAt index
    rw [← hfound] at hposition hhead
    refine ⟨place, hposition, hle, hhead, ?_⟩
    rw [message, ParseError.message, hsource, hposition]
    exact ⟨_, rfl⟩

end Place

/-! ## Lines of a message -/

theorem splitOn_caretLine (excerpt : Excerpt) :
    excerpt.caretLine.toList.splitOn '\n' = [List.replicate excerpt.column ' ' ++ ['^']] := by
  rw [Excerpt.caretLine, String.toList_ofList]
  exact List.splitOn_eq_singleton (by simp)

/-- A message is shown as its headline, the lines of its excerpt and the line of the caret. -/
theorem splitOn_message (headline : String) (excerpt : Excerpt) :
    ("\n".intercalate (headline :: excerpt.lines)).toList.splitOn '\n' =
      headline.toList.splitOn '\n' ++ excerpt.line.toList.splitOn '\n' ++
        [List.replicate excerpt.column ' ' ++ ['^']] := by
  have hmessage : ("\n".intercalate (headline :: excerpt.lines)).toList =
      headline.toList ++ '\n' :: (excerpt.line.toList ++ '\n' :: excerpt.caretLine.toList) := by
    rw [Excerpt.lines, String.intercalate_cons_cons, String.intercalate_cons_cons]
    simp
  rw [hmessage, List.splitOn_append_cons_self, List.splitOn_append_cons_self, splitOn_caretLine,
    List.append_assoc]

/-- A failure is about a character of the text, or about its end, and the message is a headline, the
excerpt around this place and a caret, which has the column of the character in the excerpt. If no
line feed is near the place, the excerpt is the line above the caret, so that the caret stands below
the character. -/
theorem caret_of_ofText {code : String} {failure : ParseFailure}
    (h : Expr.ofText code = .error failure) :
    (∃ (place : Nat) (headline : List (List Char)),
      failure.place = place ∧ place ≤ code.toList.length ∧
        failure.offender? = code.toList[place]? ∧
        failure.message.toList.splitOn '\n' =
          headline ++ (Excerpt.around code place).line.toList.splitOn '\n' ++
            [List.replicate (Excerpt.around code place).column ' ' ++ ['^']] ∧
        Excerpt.Marks (Excerpt.around code place).line.toList (Excerpt.around code place).column
          failure.offender?) ∧
    (failure.IsOnOneLine code → CaretMarks failure.message failure.offender?) := by
  obtain ⟨place, hplace, hle, hoffender, headline, hmessage⟩ := ParseFailure.exists_place h
  have hmarks : Excerpt.Marks (Excerpt.around code place).line.toList
      (Excerpt.around code place).column failure.offender? := by
    rw [hoffender]
    exact Excerpt.marks_around hle (by decide)
  have hlines := splitOn_message headline (Excerpt.around code place)
  rw [← hmessage] at hlines
  refine ⟨⟨place, _, hplace, hle, hoffender, hlines, hmarks⟩, ?_⟩
  intro honeLine
  have hwindow : '\n' ∉ Excerpt.window code.toList place 10 := by
    intro hmem
    obtain ⟨i, hlo, hhi, hchar⟩ := Excerpt.exists_getElem?_of_mem_window hmem
    exact honeLine i (by omega) (by omega) hchar
  have hline : '\n' ∉ (Excerpt.around code place).line.toList :=
    Excerpt.not_mem_line_around (by decide) hwindow
  rw [List.splitOn_eq_singleton hline, List.append_assoc] at hlines
  exact ⟨_, _, _, hlines, hmarks⟩

theorem caret_of_ofText_stray :
    Expr.ofText "1 @" = .error (.lexical ⟨"1 @", 2, '@'⟩) ∧
      (ParseFailure.lexical ⟨"1 @", 2, '@'⟩).IsOnOneLine "1 @" ∧
      CaretMarks (ParseFailure.lexical ⟨"1 @", 2, '@'⟩).message (some '@') := by
  have hfailure : Expr.ofText "1 @" = .error (.lexical ⟨"1 @", 2, '@'⟩) := by decide +kernel
  have honeLine : (ParseFailure.lexical ⟨"1 @", 2, '@'⟩).IsOnOneLine "1 @" := by
    intro i _ _ hnewline
    have hmem := List.mem_of_getElem? hnewline
    revert hmem
    decide
  exact ⟨hfailure, honeLine, (caret_of_ofText hfailure).2 honeLine⟩

/-- The caret below the second line has the column of the character in both lines together. -/
theorem not_caretMarks_behind_newline :
    Expr.ofText "1 +\n@" = .error (.lexical ⟨"1 +\n@", 4, '@'⟩) ∧
      ¬ CaretMarks (ParseFailure.lexical ⟨"1 +\n@", 4, '@'⟩).message (some '@') := by
  refine ⟨by decide +kernel, ?_⟩
  rintro ⟨others, line, column, hlines, hmarks⟩
  have hshown : (ParseFailure.lexical ⟨"1 +\n@", 4, '@'⟩).message.toList.splitOn '\n' =
      ["[Tokenizer error] Unexpected character: '@'".toList, "1 +".toList] ++
        [['@'], [' ', ' ', ' ', ' ', '^']] := by
    decide +kernel
  rw [hshown] at hlines
  obtain ⟨-, hlast⟩ := List.append_inj' hlines rfl
  obtain ⟨rfl, hcaret⟩ := List.cons.inj hlast
  have hcolumn := congrArg List.length (List.cons.inj hcaret).1
  simp only [List.length_append, List.length_replicate, List.length_cons, List.length_nil] at hcolumn
  obtain rfl : column = 4 := by omega
  exact absurd hmarks (by simp [Excerpt.Marks])

end ExprCompiler
