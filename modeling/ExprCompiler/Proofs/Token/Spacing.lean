import ExprCompiler.Proofs.Token.Spelling
import ExprCompiler.Proofs.Token.Tokenization
import ExprCompiler.Token.Spacing

/-!
# Texts with normal spacing

The tokens of a text are written with one space between neighbours, except behind an opening bracket
and in front of a closing one (`spacedText_eq`). What is written has the same tokens again, only
elsewhere, and so it is written in the same way (`spacedText_of_tokensOf`).
-/

namespace ExprCompiler

/-- What a token is, wherever it stands. -/
def Token.content (token : Token) : TokenKind × String :=
  (token.kind, token.lexeme)

/-- The lexemes of tokens in a row, with what `gap` puts between neighbours. -/
def spacedBy (gap : Token → Token → List Char) : List Token → List Char
  | [] => []
  | [token] => token.lexeme.toList
  | token :: next :: rest => token.lexeme.toList ++ (gap token next ++ spacedBy gap (next :: rest))

/-- One space. -/
def plainGap (_ _ : Token) : List Char :=
  [' ']

/-- One space, but none behind an opening bracket. -/
def gapBehindOpening (token _ : Token) : List Char :=
  if token.lexeme = "(" then [] else [' ']

/-- One space, but none behind an opening bracket and none in front of a closing one. -/
def tightGap (token next : Token) : List Char :=
  if token.lexeme = "(" ∨ next.lexeme = ")" then [] else [' ']

/-! ## Characters of lexemes -/

namespace Token.IsSpelled

variable {token : Token} {c : Char}

theorem isInNumber_of_number (h : token.IsSpelled) (hkind : token.kind = .number) :
    ∀ c ∈ token.lexeme.toList, isInNumber c = true := by
  cases h with
  | number hfirst hrun =>
    rw [String.toList_ofList]
    exact List.forall_mem_cons.2 ⟨isInNumber_iff.2 (.inl hfirst), hrun⟩
  | sign hsign => exact absurd hkind (TokenKind.ne_of_ofSign? hsign).1

theorem isBlank_eq_false (h : token.IsSpelled) : ∀ c ∈ token.lexeme.toList, isBlank c = false := by
  by_cases hkind : token.kind = .number
  · exact fun c hc => isBlank_of_isInNumber (h.isInNumber_of_number hkind c hc)
  · cases h with
    | number _ _ => exact absurd rfl hkind
    | sign hsign =>
      rw [String.toList_singleton, List.forall_mem_singleton]
      exact (TokenKind.isDigit_of_ofSign? hsign).2

theorem toList_ne_nil (h : token.IsSpelled) : token.lexeme.toList ≠ [] := by
  cases h <;> simp

/-- A number holds no sign, so only the sign's own lexeme holds it. -/
theorem lexeme_eq_of_mem (h : token.IsSpelled) (hc : isInNumber c = false)
    (hmem : c ∈ token.lexeme.toList) : token.lexeme = .singleton c := by
  by_cases hkind : token.kind = .number
  · simp [h.isInNumber_of_number hkind c hmem] at hc
  · cases h with
    | number _ _ => exact absurd rfl hkind
    | sign _ =>
      rw [String.toList_singleton] at hmem
      rw [List.mem_singleton.1 hmem]

theorem head?_eq_some_iff (h : token.IsSpelled) (hc : isInNumber c = false) :
    token.lexeme.toList.head? = some c ↔ token.lexeme = .singleton c := by
  constructor
  · exact fun hhead => h.lexeme_eq_of_mem hc (List.mem_of_head? hhead)
  · intro hlexeme
    rw [hlexeme, String.toList_singleton, List.head?_cons]

theorem getLast?_eq_some_iff (h : token.IsSpelled) (hc : isInNumber c = false) :
    token.lexeme.toList.getLast? = some c ↔ token.lexeme = .singleton c := by
  constructor
  · exact fun hlast => h.lexeme_eq_of_mem hc (List.mem_of_getLast? hlast)
  · intro hlexeme
    rw [hlexeme, String.toList_singleton, List.getLast?_singleton]

end Token.IsSpelled

/-! ## Taking spaces away -/

theorem tightenOpening_go_append {front : List Char} (hne : front ≠ [])
    (hfront : ∀ c ∈ front, isBlank c = false) (afterOpening : Bool) (rest : List Char) :
    tightenOpening.go afterOpening (front ++ rest) =
      front ++ tightenOpening.go (front.getLast? = some '(') rest := by
  induction front generalizing afterOpening with
  | nil => exact absurd rfl hne
  | cons c front ih =>
    obtain ⟨hblank, hfront⟩ := List.forall_mem_cons.1 hfront
    rw [List.cons_append, tightenOpening.go, hblank, Bool.and_false]
    cases front with
    | nil => simp
    | cons d front =>
      rw [List.getLast?_cons_cons]
      exact congrArg (List.cons c) (ih (List.cons_ne_nil d front) hfront _)

theorem tightenClosing_append {front : List Char} (hfront : ∀ c ∈ front, isBlank c = false)
    (rest : List Char) : tightenClosing (front ++ rest) = front ++ tightenClosing rest := by
  induction front with
  | nil => rfl
  | cons c front ih =>
    obtain ⟨hblank, hfront⟩ := List.forall_mem_cons.1 hfront
    rw [List.cons_append, tightenClosing, hblank, ih hfront]
    rfl

/-- Behind a lexeme, spaces go if it is an opening bracket. -/
theorem Token.IsSpelled.tightenOpening_go {token : Token} (h : token.IsSpelled)
    (afterOpening : Bool) (rest : List Char) :
    tightenOpening.go afterOpening (token.lexeme.toList ++ rest) =
      token.lexeme.toList ++ tightenOpening.go (token.lexeme = "(") rest := by
  rw [tightenOpening_go_append h.toList_ne_nil h.isBlank_eq_false]
  simp only [h.getLast?_eq_some_iff (show isInNumber '(' = false by decide)]
  rfl

theorem tightenOpening_go_spacedBy {tokens : List Token} (h : ∀ token ∈ tokens, token.IsSpelled)
    (afterOpening : Bool) :
    tightenOpening.go afterOpening (spacedBy plainGap tokens) =
      spacedBy gapBehindOpening tokens := by
  induction tokens generalizing afterOpening with
  | nil => rfl
  | cons token rest ih =>
    obtain ⟨htoken, hrest⟩ := List.forall_mem_cons.1 h
    have hgo := htoken.tightenOpening_go afterOpening
    cases rest with
    | nil =>
      have hwhole := hgo []
      rwa [tightenOpening.go, List.append_nil] at hwhole
    | cons next rest =>
      have hblank : isBlank ' ' = true := by decide
      rw [spacedBy, spacedBy, hgo, gapBehindOpening, plainGap, List.singleton_append,
        tightenOpening.go, hblank, Bool.and_true]
      by_cases hopening : token.lexeme = "("
      · simp only [hopening, decide_true, if_true, ih hrest, List.nil_append]
      · simp only [hopening, decide_false, Bool.false_eq_true, if_false, ih hrest,
          List.singleton_append]

theorem head?_spacedBy {token : Token} (h : token.IsSpelled) (gap : Token → Token → List Char)
    (rest : List Token) :
    (spacedBy gap (token :: rest)).head? = token.lexeme.toList.head? := by
  cases rest with
  | nil => rfl
  | cons next rest => rw [spacedBy, List.head?_append_of_ne_nil _ h.toList_ne_nil]

/-- Of the spaces that are left, those in front of a closing bracket go. -/
theorem tightenClosing_spacedBy {tokens : List Token} (h : ∀ token ∈ tokens, token.IsSpelled) :
    tightenClosing (spacedBy gapBehindOpening tokens) = spacedBy tightGap tokens := by
  induction tokens with
  | nil => rfl
  | cons token rest ih =>
    obtain ⟨htoken, hrest⟩ := List.forall_mem_cons.1 h
    have hgo := tightenClosing_append htoken.isBlank_eq_false
    cases rest with
    | nil =>
      have hwhole := hgo []
      rwa [tightenClosing, List.append_nil] at hwhole
    | cons next rest =>
      have hblank : isBlank ' ' = true := by decide
      rw [spacedBy, spacedBy, hgo, gapBehindOpening, tightGap]
      by_cases hopening : token.lexeme = "("
      · simp only [hopening, true_or, if_true, ih hrest, List.nil_append]
      · have hnext := hrest next List.mem_cons_self
        have hclosing : (spacedBy tightGap (next :: rest)).head? = some ')' ↔ next.lexeme = ")" := by
          rw [head?_spacedBy hnext]
          exact hnext.head?_eq_some_iff (by decide)
        simp only [hopening, false_or, if_false, List.singleton_append, tightenClosing, ih hrest,
          hblank, hclosing, Bool.true_and, decide_eq_true_eq]
        split <;> rfl

/-! ## Scanning what is written -/

/-- No number goes on over a gap. -/
theorem endsNumber_tightGap {token next : Token} (htoken : token.IsSpelled) (hnext : next.IsSpelled)
    (hkind : token.kind = .number) (rest : List Token) :
    EndsNumber (tightGap token next ++ spacedBy tightGap (next :: rest)) := by
  unfold tightGap
  split
  · rename_i hbracket
    rcases hbracket with hopening | hclosing
    · have hin := htoken.isInNumber_of_number hkind '('
      rw [hopening] at hin
      exact absurd (hin (by decide)) (by decide)
    · intro c hc
      rw [List.nil_append, head?_spacedBy hnext, hclosing] at hc
      obtain rfl : ')' = c := Option.some.inj hc
      decide
  · exact endsNumber_cons (by decide)

/-- What is written is cut into the lexemes that were written. -/
theorem exists_lexes_spacedBy {tokens : List Token} (h : ∀ token ∈ tokens, token.IsSpelled)
    (source : String) (offset : Nat) :
    ∃ stream lexemes ending,
      Lexes source offset (spacedBy tightGap tokens) stream ∧ stream.error? = none ∧
      stream.tokens = lexemes ++ [.endAt ending] ∧
      lexemes.map Token.content = tokens.map Token.content := by
  induction tokens generalizing offset with
  | nil => exact ⟨_, [], _, .finish, rfl, rfl, rfl⟩
  | cons token rest ih =>
    obtain ⟨htoken, hrest⟩ := List.forall_mem_cons.1 h
    cases rest with
    | nil =>
      have hends : EndsNumber [] := by simp [EndsNumber]
      have hlexes : Lexes source offset (token.lexeme.toList ++ []) _ :=
        htoken.lexes (fun _ => hends) .finish
      rw [List.append_nil] at hlexes
      exact ⟨_, [{ token with position := offset }], _, hlexes, rfl, rfl, rfl⟩
    | cons next rest =>
      obtain ⟨stream, lexemes, ending, hlexes, herror, htokens, hcontent⟩ :=
        ih hrest (offset + token.lexeme.length + (tightGap token next).length)
      have hgap : ∀ c ∈ tightGap token next, isBlank c = true := by
        unfold tightGap
        split
        · simp
        · exact List.forall_mem_singleton.2 (by decide)
      have hstop := endsNumber_tightGap htoken (hrest next List.mem_cons_self)
      refine ⟨.cons { token with position := offset } stream,
        { token with position := offset } :: lexemes, ending, ?_, herror, ?_, ?_⟩
      · exact htoken.lexes (fun hkind => hstop hkind rest) (.blanks hgap hlexes)
      · rw [TokenStream.tokens, htokens, List.cons_append]
      · rw [List.map_cons, List.map_cons, hcontent]
        rfl

/-! ## The tokens of a text -/

theorem IsLexeme.isSpelled {offset : Nat} {chars : List Char} {token : Token}
    (h : IsLexeme offset chars token) : token.IsSpelled := by
  cases h with
  | number _ hfirst hrun _ => exact .number hfirst fun c hc => isInNumber_iff.2 (hrun c hc)
  | sign _ hsign =>
    rw [← String.singleton_eq_ofList]
    exact .sign (mem_signs_iff.1 hsign)

theorem Token.IsSpelled.isEnd_eq_false {token : Token} (h : token.IsSpelled) :
    token.isEnd = false := by
  cases h with
  | number _ _ => rfl
  | sign hsign => exact TokenKind.isEnd_of_ofSign? hsign

theorem toList_intercalate_lexeme (tokens : List Token) :
    (" ".intercalate (tokens.map Token.lexeme)).toList = spacedBy plainGap tokens := by
  rw [String.toList_intercalate, List.map_map]
  induction tokens with
  | nil => rfl
  | cons token rest ih =>
    cases rest with
    | nil => simp [spacedBy]
    | cons next rest =>
      rw [List.map_cons, List.map_cons, List.intercalate_cons_cons, ← List.map_cons, ih, spacedBy,
        List.append_assoc]
      rfl

/-- Tokens are written with one space between neighbours, but none behind an opening bracket and none
in front of a closing one. -/
theorem spacedText_eq {lexemes : List Token} (h : ∀ token ∈ lexemes, token.IsSpelled)
    {ending : Token} (hending : ending.isEnd = true) :
    spacedText (lexemes ++ [ending]) = .ofList (spacedBy tightGap lexemes) := by
  have hfilter : (lexemes ++ [ending]).filter (fun token => !token.isEnd) = lexemes := by
    rw [List.filter_append, List.filter_eq_self.2 (by simpa using fun token hmem =>
      (h token hmem).isEnd_eq_false), List.filter_cons_of_neg (by simp [hending]), List.filter_nil,
      List.append_nil]
  rw [spacedText, hfilter]
  simp only [toList_intercalate_lexeme]
  rw [tightenOpening, tightenOpening_go_spacedBy h, tightenClosing_spacedBy h]

/-- What is written depends on the kinds and lexemes of tokens only. -/
theorem spacedText_of_content {tokens others : List Token}
    (h : others.map Token.content = tokens.map Token.content) :
    spacedText others = spacedText tokens := by
  have hlexemes : ∀ tokens : List Token, (tokens.filter fun token => !token.isEnd).map Token.lexeme =
      ((tokens.map Token.content).filter fun content => !(content.1 == .exprEnd)).map Prod.snd := by
    intro tokens
    rw [List.filter_map, List.map_map]
    rfl
  rw [spacedText, spacedText, hlexemes, hlexemes, h]

/-- The tokens of a text are written with one space between neighbours, but none behind an opening
bracket and none in front of a closing one. What is written has tokens of the same kinds and with the
same lexemes, and these are written in the same way. -/
theorem spacedText_of_tokensOf {code : String} {tokens : List Token}
    (h : tokensOf code = .ok tokens) :
    ∃ lexemes, tokens = lexemes ++ [.endAt code.length] ∧
      spacedText tokens = .ofList (spacedBy tightGap lexemes) ∧
      ∃ found, tokensOf (spacedText tokens) = .ok found ∧
        found.map Token.content = tokens.map Token.content ∧ spacedText found = spacedText tokens := by
  have htokenizes := tokensOf_eq_ok_iff_tokenizes.1 h
  obtain ⟨lexemes, rfl, hkinds⟩ := htokenizes.ends
  have hspelled : ∀ token ∈ lexemes, token.IsSpelled := fun token hmem =>
    (htokenizes.lexemes token (List.mem_append_left _ hmem) (hkinds token hmem)).isSpelled
  have htext : spacedText (lexemes ++ [.endAt (0 + code.toList.length : Nat)]) = _ :=
    spacedText_eq hspelled rfl
  obtain ⟨stream, found, ending, hlexes, herror, htokens, hcontent⟩ :=
    exists_lexes_spacedBy hspelled (.ofList (spacedBy tightGap lexemes)) 0
  have hcontents : (found ++ [Token.endAt ending]).map Token.content =
      (lexemes ++ [Token.endAt (0 + code.toList.length : Nat)]).map Token.content := by
    rw [List.map_append, List.map_append, hcontent]
    rfl
  refine ⟨lexemes, ?_, htext, found ++ [.endAt ending], ?_, hcontents,
    spacedText_of_content hcontents⟩
  · rw [Nat.zero_add, String.length_toList]
  · rw [htext]
    refine tokensOf_eq_ok_iff.2 ⟨stream, ?_, herror, htokens⟩
    rw [String.toList_ofList]
    exact hlexes

theorem spacedText_of_tokensOf_brackets :
    ∃ tokens lexemes, tokensOf "( 1+2 )*3" = .ok tokens ∧ tokens = lexemes ++ [.endAt 9] ∧
      spacedText tokens = "(1 + 2) * 3" ∧
      .ofList (spacedBy tightGap lexemes) = "(1 + 2) * 3" ∧
      ∃ found, tokensOf "(1 + 2) * 3" = .ok found ∧
        found.map Token.content = tokens.map Token.content ∧ spacedText found = "(1 + 2) * 3" := by
  let tokens : List Token :=
    [⟨.bracketOpen, "(", 0⟩, ⟨.number, "1", 2⟩, ⟨.plus, "+", 3⟩, ⟨.number, "2", 4⟩,
     ⟨.bracketClose, ")", 6⟩, ⟨.star, "*", 7⟩, ⟨.number, "3", 8⟩, .endAt 9]
  have h : tokensOf "( 1+2 )*3" = .ok tokens := by decide +kernel
  have htext : spacedText tokens = "(1 + 2) * 3" := by decide +kernel
  obtain ⟨lexemes, hlexemes, hspaced, found, hfound, hcontent, hagain⟩ := spacedText_of_tokensOf h
  rw [htext] at hspaced hfound hagain
  exact ⟨tokens, lexemes, h, hlexemes, htext, hspaced.symm, found, hfound, hcontent, hagain⟩

end ExprCompiler
