import ExprCompiler.Proofs.Token.Lexing
import Mathlib.Data.List.Chain

/-!
# The tokens of a text

`Tokenizes` says which lists of tokens belong to a text without reading it from left to right: every
token is a lexeme at its place, tokens follow one another, nothing but blanks is left over, and the
end comes last. A text has one such list at most, and `tokensOf` finds it
(`tokensOf_eq_ok_iff_tokenizes`).
-/

namespace ExprCompiler

/-- The signs with their kinds. -/
def signs : List (Char × TokenKind) :=
  [('+', .plus), ('-', .minus), ('*', .star), ('/', .slash), ('(', .bracketOpen),
   (')', .bracketClose)]

/-- The index behind a token's lexeme. -/
def Token.stop (token : Token) : Int :=
  token.position + token.lexeme.length

/-- A token ends before the next one starts. -/
def Token.Precedes (token next : Token) : Prop :=
  token.stop ≤ next.position

/-- `IsLexeme offset chars token`: the token's lexeme stands in the characters, which start at index
`offset`, at the token's position. -/
inductive IsLexeme (offset : Nat) (chars : List Char) : Token → Prop where
  /-- A number starts with a digit, holds only digits and points, and none follows it. -/
  | number {before run after : List Char} {first : Char}
      (hchars : chars = before ++ (first :: run ++ after)) (hfirst : first.isDigit = true)
      (hrun : ∀ c ∈ run, c.isDigit = true ∨ c = '.')
      (hafter : ∀ c, after.head? = some c → ¬ (c.isDigit = true ∨ c = '.')) :
      IsLexeme offset chars { kind := .number, lexeme := .ofList (first :: run),
                              position := (offset + before.length : Nat) }
  /-- Every other lexeme is a sign. -/
  | sign {before after : List Char} {c : Char} {kind : TokenKind}
      (hchars : chars = before ++ ([c] ++ after)) (hsign : (c, kind) ∈ signs) :
      IsLexeme offset chars { kind, lexeme := .ofList [c],
                              position := (offset + before.length : Nat) }

/-- `Tokenizes offset chars tokens`: these are the tokens of the characters, which start at index
`offset`. -/
structure Tokenizes (offset : Nat) (chars : List Char) (tokens : List Token) : Prop where
  /-- The last token, and only it, is the end; its lexeme is empty and it stands behind the last
  character. -/
  ends : ∃ lexemes, tokens = lexemes ++ [.endAt (offset + chars.length : Nat)] ∧
    ∀ token ∈ lexemes, token.kind ≠ .exprEnd
  /-- Every other token is a lexeme at its position. -/
  lexemes : ∀ token ∈ tokens, token.kind ≠ .exprEnd → IsLexeme offset chars token
  /-- Each token starts at or after the end of the one before it. -/
  ordered : tokens.IsChain Token.Precedes
  /-- Every character that no lexeme covers is blank. -/
  gaps : ∀ i c, chars[i]? = some c →
    (∀ token ∈ tokens, ¬ (token.position ≤ (offset + i : Nat) ∧ (offset + i : Nat) < token.stop)) →
    isBlank c = true

/-- What precedes a token precedes all that this token precedes. -/
instance : Trans Token.Precedes Token.Precedes Token.Precedes where
  trans {a b c} hab hbc := by
    simp only [Token.Precedes, Token.stop] at *
    omega

theorem mem_signs_iff {c : Char} {kind : TokenKind} :
    (c, kind) ∈ signs ↔ TokenKind.ofSign? c = some kind := by
  constructor
  · intro h
    simp only [signs, List.mem_cons, Prod.mk.injEq, List.not_mem_nil, or_false] at h
    rcases h with ⟨rfl, rfl⟩ | ⟨rfl, rfl⟩ | ⟨rfl, rfl⟩ | ⟨rfl, rfl⟩ | ⟨rfl, rfl⟩ | ⟨rfl, rfl⟩ <;> rfl
  · intro h
    unfold TokenKind.ofSign? at h
    split at h <;> first | (obtain rfl := Option.some.inj h; simp [signs]) | simp at h

/-! ## Single lexemes -/

namespace IsLexeme

variable {offset : Nat} {chars front rest : List Char} {token : Token}

theorem kind_ne (h : IsLexeme offset chars token) : token.kind ≠ .exprEnd := by
  cases h with
  | number => simp
  | sign _ hsign => exact (TokenKind.ne_of_ofSign? (mem_signs_iff.1 hsign)).2

/-- A lexeme stands at an index of the text, and has a character. -/
theorem bounds (h : IsLexeme offset chars token) :
    (offset : Int) ≤ token.position ∧ token.position < token.stop ∧
      token.stop ≤ (offset + chars.length : Nat) := by
  cases h with
  | number hchars _ _ _ =>
    subst hchars
    simp only [Token.stop, String.length_ofList, List.length_append, List.length_cons]
    omega
  | sign hchars _ =>
    subst hchars
    simp only [Token.stop, String.length_ofList, List.length_append, List.length_cons]
    omega

theorem append_left (h : IsLexeme (offset + front.length) rest token) :
    IsLexeme offset (front ++ rest) token := by
  cases h with
  | @number before run after first hchars hfirst hrun hafter =>
    have hsplit : front ++ rest = (front ++ before) ++ (first :: run ++ after) := by
      rw [hchars, List.append_assoc]
    have hlexeme := @number offset _ _ _ _ _ hsplit hfirst hrun hafter
    rw [List.length_append, ← Nat.add_assoc] at hlexeme
    exact hlexeme
  | @sign before after c kind hchars hsign =>
    have hsplit : front ++ rest = (front ++ before) ++ ([c] ++ after) := by
      rw [hchars, List.append_assoc]
    have hlexeme := @sign offset _ _ _ _ _ hsplit hsign
    rw [List.length_append, ← Nat.add_assoc] at hlexeme
    exact hlexeme

/-- What stands behind the front of a text stands in the rest of it. -/
theorem exists_rest {before lexeme after : List Char}
    (h : front ++ rest = before ++ (lexeme ++ after)) (hle : front.length ≤ before.length) :
    ∃ between, before = front ++ between ∧ rest = between ++ (lexeme ++ after) := by
  rcases List.append_eq_append_iff.1 h with ⟨between, hbefore, hrest⟩ | ⟨between, hfront, hrest⟩
  · exact ⟨between, hbefore, hrest⟩
  · have hnil : between = [] := by
      rw [hfront, List.length_append] at hle
      exact List.eq_nil_of_length_eq_zero (by omega)
    subst hnil
    exact ⟨[], by rw [hfront, List.append_nil, List.append_nil], hrest.symm⟩

theorem of_append_left (h : IsLexeme offset (front ++ rest) token)
    (hle : (offset + front.length : Nat) ≤ token.position) :
    IsLexeme (offset + front.length) rest token := by
  cases h with
  | @number before run after first hchars hfirst hrun hafter =>
    have hlength : front.length ≤ before.length := by
      simp only at hle
      omega
    obtain ⟨between, rfl, hrest⟩ := exists_rest hchars hlength
    have hlexeme := @number (offset + front.length) _ _ _ _ _ hrest hfirst hrun hafter
    rw [Nat.add_assoc, ← List.length_append] at hlexeme
    exact hlexeme
  | @sign before after c kind hchars hsign =>
    have hlength : front.length ≤ before.length := by
      simp only at hle
      omega
    obtain ⟨between, rfl, hrest⟩ := exists_rest hchars hlength
    have hlexeme := @sign (offset + front.length) _ _ _ _ _ hrest hsign
    rw [Nat.add_assoc, ← List.length_append] at hlexeme
    exact hlexeme

/-- What a lexeme at the start of a text is followed by. -/
theorem of_position_eq (h : IsLexeme offset chars token) (hposition : token.position = offset) :
    (∃ first run after, chars = first :: run ++ after ∧ first.isDigit = true ∧
      (∀ c ∈ run, isInNumber c = true) ∧ EndsNumber after ∧
      token = { kind := .number, lexeme := .ofList (first :: run), position := offset }) ∨
    ∃ c kind after, chars = [c] ++ after ∧ TokenKind.ofSign? c = some kind ∧
      token = { kind, lexeme := .ofList [c], position := offset } := by
  cases h with
  | @number before run after first hchars hfirst hrun hafter =>
    have hnil : before = [] := by
      simp only at hposition
      exact List.eq_nil_of_length_eq_zero (by omega)
    subst hnil
    refine .inl ⟨first, run, after, hchars, hfirst, ?_, ?_, rfl⟩
    · exact fun c hc => isInNumber_iff.2 (hrun c hc)
    · intro c hc
      rw [Bool.eq_false_iff, Ne, isInNumber_iff]
      exact hafter c hc
  | @sign before after c kind hchars hsign =>
    have hnil : before = [] := by
      simp only at hposition
      exact List.eq_nil_of_length_eq_zero (by omega)
    subst hnil
    exact .inr ⟨c, kind, after, hchars, mem_signs_iff.1 hsign, rfl⟩

end IsLexeme

/-! ## Lists of tokens -/

namespace Tokenizes

variable {offset : Nat} {chars front rest : List Char} {token : Token} {tokens : List Token}

theorem isLexeme_or_eq_end (h : Tokenizes offset chars tokens) (hmem : token ∈ tokens) :
    IsLexeme offset chars token ∨ token = .endAt (offset + chars.length : Nat) := by
  obtain ⟨lexemes, htokens, hkinds⟩ := h.ends
  have hmem' := hmem
  rw [htokens, List.mem_append, List.mem_singleton] at hmem'
  rcases hmem' with hlexeme | hend
  · exact .inl (h.lexemes token hmem (hkinds token hlexeme))
  · exact .inr hend

/-- A token stands in the text or at its end. -/
theorem bounds (h : Tokenizes offset chars tokens) (hmem : token ∈ tokens) :
    (offset : Int) ≤ token.position ∧ token.position ≤ token.stop := by
  rcases h.isLexeme_or_eq_end hmem with hlexeme | rfl
  · obtain ⟨hoffset, hstop, -⟩ := hlexeme.bounds
    exact ⟨hoffset, Int.le_of_lt hstop⟩
  · simp only [Token.endAt, Token.stop, String.length_empty]
    omega

theorem cons_blank {c : Char} (hblank : isBlank c = true)
    (h : Tokenizes (offset + 1) rest tokens) : Tokenizes offset (c :: rest) tokens where
  ends := by
    obtain ⟨lexemes, htokens, hkinds⟩ := h.ends
    refine ⟨lexemes, ?_, hkinds⟩
    rw [htokens, List.length_cons, Nat.add_assoc, Nat.add_comm 1]
  lexemes := by
    intro token hmem hkind
    have hlexeme : IsLexeme (offset + [c].length) rest token := h.lexemes token hmem hkind
    exact hlexeme.append_left
  ordered := h.ordered
  gaps := by
    intro i d hd huncovered
    cases i with
    | zero =>
      obtain rfl := Option.some.inj hd
      exact hblank
    | succ i =>
      refine h.gaps i d hd fun token hmem hcover => huncovered token hmem ?_
      rw [show offset + (i + 1) = offset + 1 + i by omega]
      exact hcover

/-- A lexeme and a text have the token of the lexeme and those of the text. -/
theorem cons_lexeme (hlexeme : IsLexeme offset (front ++ rest) token)
    (hposition : token.position = offset) (hstop : token.stop = (offset + front.length : Nat))
    (h : Tokenizes (offset + front.length) rest tokens) :
    Tokenizes offset (front ++ rest) (token :: tokens) where
  ends := by
    obtain ⟨lexemes, htokens, hkinds⟩ := h.ends
    refine ⟨token :: lexemes, ?_, List.forall_mem_cons.2 ⟨hlexeme.kind_ne, hkinds⟩⟩
    rw [htokens, List.cons_append, List.length_append, Nat.add_assoc]
  lexemes := by
    intro token' hmem hkind
    rcases List.mem_cons.1 hmem with rfl | hmem
    · exact hlexeme
    · exact (h.lexemes token' hmem hkind).append_left
  ordered := by
    cases htokens : tokens with
    | nil => exact .singleton token
    | cons next others =>
      have hnext := (h.bounds (htokens ▸ List.mem_cons_self : next ∈ tokens)).1
      have hordered := h.ordered
      rw [htokens] at hordered
      refine .cons_cons ?_ hordered
      rw [Token.Precedes, hstop]
      exact hnext
  gaps := by
    intro i c hc huncovered
    by_cases hi : i < front.length
    · refine absurd ⟨?_, ?_⟩ (huncovered token List.mem_cons_self)
      · rw [hposition]
        omega
      · rw [hstop]
        omega
    · have hrest : rest[i - front.length]? = some c := by
        rw [← hc, List.getElem?_append_right (by omega)]
      refine h.gaps (i - front.length) c hrest fun token' hmem hcover => ?_
      refine huncovered token' (List.mem_cons_of_mem _ hmem) ?_
      rw [show offset + front.length + (i - front.length) = offset + i by omega] at hcover
      exact hcover

/-- A number and a text that ends it have the token of the number and those of the text. -/
theorem cons_number {first : Char} {run : List Char} (hfirst : first.isDigit = true)
    (hrun : ∀ c ∈ run, isInNumber c = true) (hstop : EndsNumber rest)
    (h : Tokenizes (offset + (run.length + 1)) rest tokens) :
    Tokenizes offset (first :: (run ++ rest))
      ({ kind := .number, lexeme := .ofList (first :: run), position := offset } :: tokens) := by
  have hlexeme : IsLexeme offset ((first :: run) ++ rest)
      { kind := .number, lexeme := .ofList (first :: run), position := offset } := by
    refine @IsLexeme.number offset _ [] run rest first rfl hfirst ?_ ?_
    · exact fun c hc => isInNumber_iff.1 (hrun c hc)
    · intro c hc hin
      have hout := hstop c hc
      rw [isInNumber_iff.2 hin] at hout
      exact Bool.noConfusion hout
  refine cons_lexeme hlexeme rfl ?_ h
  simp only [Token.stop, String.length_ofList, List.length_cons]
  omega

/-- A sign and a text have the token of the sign and those of the text. -/
theorem cons_sign {c : Char} {kind : TokenKind} (hkind : TokenKind.ofSign? c = some kind)
    (h : Tokenizes (offset + 1) rest tokens) :
    Tokenizes offset (c :: rest) ({ kind, lexeme := .singleton c, position := offset } :: tokens) := by
  have hlexeme : IsLexeme offset ([c] ++ rest)
      { kind, lexeme := .ofList [c], position := offset } :=
    @IsLexeme.sign offset _ [] rest c kind rfl (mem_signs_iff.2 hkind)
  rw [← String.singleton_eq_ofList] at hlexeme
  refine cons_lexeme hlexeme rfl ?_ h
  simp only [Token.stop, String.length_singleton, List.length_singleton]
  omega

theorem stop_le_position (h : Tokenizes offset chars (token :: tokens)) {next : Token}
    (hmem : next ∈ tokens) : token.stop ≤ next.position :=
  (List.pairwise_cons.1 h.ordered.pairwise).1 next hmem

/-- Without its first lexeme, a text has the tokens after that of the lexeme. -/
theorem of_cons_lexeme (h : Tokenizes offset (front ++ rest) (token :: tokens))
    (hkind : token.kind ≠ .exprEnd) (hstop : token.stop = (offset + front.length : Nat)) :
    Tokenizes (offset + front.length) rest tokens where
  ends := by
    obtain ⟨lexemes, htokens, hkinds⟩ := h.ends
    cases lexemes with
    | nil =>
      obtain ⟨rfl, -⟩ := List.cons.inj htokens
      exact absurd rfl hkind
    | cons first others =>
      obtain ⟨-, hothers⟩ := List.cons.inj htokens
      refine ⟨others, ?_, (List.forall_mem_cons.1 hkinds).2⟩
      rw [Nat.add_assoc, ← List.length_append]
      exact hothers
  lexemes := by
    intro token' hmem hkind'
    have hlexeme := h.lexemes token' (List.mem_cons_of_mem _ hmem) hkind'
    refine hlexeme.of_append_left ?_
    rw [← hstop]
    exact h.stop_le_position hmem
  ordered := h.ordered.of_cons
  gaps := by
    intro i c hc huncovered
    have hchars : (front ++ rest)[front.length + i]? = some c := by
      rw [List.getElem?_append_right (by omega), ← hc]
      congr 1
      omega
    refine h.gaps (front.length + i) c hchars fun token' hmem hcover => ?_
    rcases List.mem_cons.1 hmem with rfl | hmem
    · rw [hstop] at hcover
      omega
    · refine huncovered token' hmem ?_
      rw [Nat.add_assoc]
      exact hcover

/-- If the first token does not start with the text, the text starts with a blank, without which it
has the same tokens. -/
theorem of_cons_blank {c : Char} (h : Tokenizes offset (c :: rest) tokens)
    (hposition : ∀ token ∈ tokens, token.position ≠ offset) :
    isBlank c = true ∧ Tokenizes (offset + 1) rest tokens := by
  have hlater : ∀ token ∈ tokens, (offset + 1 : Nat) ≤ token.position := by
    intro token hmem
    have hle := (h.bounds hmem).1
    have hne := hposition token hmem
    omega
  refine ⟨?_, ?_, ?_, h.ordered, ?_⟩
  · refine h.gaps 0 c rfl fun token hmem hcover => ?_
    have hlate := hlater token hmem
    omega
  · obtain ⟨lexemes, htokens, hkinds⟩ := h.ends
    refine ⟨lexemes, ?_, hkinds⟩
    rw [htokens, List.length_cons, Nat.add_assoc, Nat.add_comm 1]
  · intro token hmem hkind
    have hlexeme : IsLexeme offset ([c] ++ rest) token := h.lexemes token hmem hkind
    exact hlexeme.of_append_left (hlater token hmem)
  · intro i d hd huncovered
    refine h.gaps (i + 1) d hd fun token hmem hcover => huncovered token hmem ?_
    rw [show offset + 1 + i = offset + (i + 1) by omega]
    exact hcover

theorem nil_iff : Tokenizes offset [] tokens ↔ tokens = [.endAt offset] := by
  constructor
  · intro h
    obtain ⟨lexemes, rfl, hkinds⟩ := h.ends
    cases lexemes with
    | nil => rfl
    | cons token others =>
      have hbounds := (h.lexemes token List.mem_cons_self (hkinds token List.mem_cons_self)).bounds
      simp only [List.length_nil] at hbounds
      omega
  · rintro rfl
    refine ⟨⟨[], rfl, by simp⟩, by simp [Token.endAt], .singleton _, by simp⟩

/-- If a token starts with the text, it is the first one, and a lexeme. -/
theorem exists_first {c : Char} (h : Tokenizes offset (c :: rest) tokens)
    (hmem : token ∈ tokens) (hposition : token.position = offset) :
    ∃ first others, tokens = first :: others ∧ first.position = offset ∧
      IsLexeme offset (c :: rest) first := by
  cases tokens with
  | nil => simp at hmem
  | cons first others =>
    have hfirst : first.position = offset := by
      obtain ⟨hle, hstop⟩ := h.bounds (List.mem_cons_self : first ∈ first :: others)
      rcases List.mem_cons.1 hmem with rfl | hmem
      · exact hposition
      · have hlater := h.stop_le_position hmem
        omega
    refine ⟨first, others, rfl, hfirst, ?_⟩
    rcases h.isLexeme_or_eq_end List.mem_cons_self with hlexeme | rfl
    · exact hlexeme
    · simp only [Token.endAt, List.length_cons] at hfirst
      omega

end Tokenizes

/-! ## Scanning -/

theorem Lexes.tokenizes {source : String} {offset : Nat} {chars : List Char} {stream : TokenStream}
    (h : Lexes source offset chars stream) (herror : stream.error? = none) :
    Tokenizes offset chars stream.tokens := by
  induction h with
  | finish => exact Tokenizes.nil_iff.2 rfl
  | blank hblank _ ih => exact (ih herror).cons_blank hblank
  | number hfirst hrun hstop _ ih => exact (ih herror).cons_number hfirst hrun hstop
  | sign hkind _ ih => exact (ih herror).cons_sign hkind
  | stray _ _ _ => simp [TokenStream.error?] at herror

/-- The tokens of a text are those of an unbroken stream. -/
theorem Tokenizes.lexes (source : String) {offset : Nat} {chars : List Char} {tokens : List Token}
    (h : Tokenizes offset chars tokens) :
    ∃ stream, Lexes source offset chars stream ∧ stream.error? = none ∧
      stream.tokens = tokens := by
  induction hn : chars.length using Nat.strongRecOn generalizing offset chars tokens with
  | _ n ih =>
    subst hn
    cases chars with
    | nil =>
      obtain rfl := nil_iff.1 h
      exact ⟨_, .finish, rfl, rfl⟩
    | cons c rest =>
      by_cases hposition : ∀ token ∈ tokens, token.position ≠ offset
      · obtain ⟨hblank, hrest⟩ := h.of_cons_blank hposition
        obtain ⟨stream, hstream, herror, htokens⟩ := ih _ (Nat.lt_succ_self _) hrest rfl
        exact ⟨stream, .blank hblank hstream, herror, htokens⟩
      · obtain ⟨token, hmem, hoffset⟩ : ∃ token ∈ tokens, token.position = offset := by
          simpa using hposition
        obtain ⟨first, others, rfl, hfirst, hlexeme⟩ := h.exists_first hmem hoffset
        -- What follows the first lexeme is shorter, whichever kind of lexeme it is.
        have hrest : ∀ lexeme after : List Char, first.lexeme = .ofList lexeme → lexeme ≠ [] →
            c :: rest = lexeme ++ after →
            ∃ stream, Lexes source (offset + lexeme.length) after stream ∧
              stream.error? = none ∧ stream.tokens = others := by
          intro lexeme after htext hne hchars
          have hstop : first.stop = (offset + lexeme.length : Nat) := by
            rw [Token.stop, hfirst, htext, String.length_ofList]
            rfl
          have hlt : after.length < (c :: rest).length := by
            have hpos := List.length_pos_iff.2 hne
            rw [hchars, List.length_append]
            omega
          rw [hchars] at h
          exact ih _ hlt (h.of_cons_lexeme hlexeme.kind_ne hstop) rfl
        rcases hlexeme.of_position_eq hfirst with
          ⟨d, run, after, hchars, hdigit, hrun, hafter, htoken⟩ |
          ⟨d, kind, after, hchars, hsign, htoken⟩
        · obtain ⟨stream, hstream, herror, htokens⟩ :=
            hrest (d :: run) after (by rw [htoken]) (by simp) hchars
          rw [hchars]
          refine ⟨_, .number hdigit hrun hafter hstream, herror, ?_⟩
          rw [TokenStream.tokens, htokens, ← htoken]
        · obtain ⟨stream, hstream, herror, htokens⟩ :=
            hrest [d] after (by rw [htoken]) (by simp) hchars
          rw [hchars]
          refine ⟨_, .sign hsign hstream, herror, ?_⟩
          rw [TokenStream.tokens, htokens, String.singleton_eq_ofList, ← htoken]

/-- A text has tokens if scanning it meets no stray character, and then they are the ones scanned. -/
theorem tokensOf_eq_ok_iff_tokenizes {source : String} {tokens : List Token} :
    tokensOf source = .ok tokens ↔ Tokenizes 0 source.toList tokens := by
  rw [tokensOf_eq_ok_iff]
  constructor
  · rintro ⟨stream, hstream, herror, rfl⟩
    exact hstream.tokenizes herror
  · exact fun h => h.lexes source

/-- A text has one list of tokens at most, and `tokensOf` yields it, or else an error. -/
theorem tokensOf_eq_ok_iff_and_unique (source : String) :
    (∀ tokens, tokensOf source = .ok tokens ↔ Tokenizes 0 source.toList tokens) ∧
    (∀ tokens others, Tokenizes 0 source.toList tokens → Tokenizes 0 source.toList others →
      tokens = others) ∧
    ((∃ tokens, Tokenizes 0 source.toList tokens) ∨ ∃ error, tokensOf source = .error error) := by
  refine ⟨fun tokens => tokensOf_eq_ok_iff_tokenizes, ?_, ?_⟩
  · intro tokens others htokens hothers
    rw [← tokensOf_eq_ok_iff_tokenizes] at htokens hothers
    exact Except.ok.inj (htokens.symm.trans hothers)
  · cases h : tokensOf source with
    | ok tokens => exact .inl ⟨tokens, tokensOf_eq_ok_iff_tokenizes.1 h⟩
    | error error => exact .inr ⟨error, rfl⟩

end ExprCompiler
