import ExprCompiler.Proofs.Token.Fetching

/-!
# The first stray character

Whether a text can be cut into tokens shows in its single characters: one is stray if it is neither
blank nor part of any lexeme, or if it is a point with neither a digit nor a point in front of it
(`StrayBehind`). A text without stray characters has tokens, and in any other one the scanner stops at
the first of them, with the tokens of the text up to there (`tokensOf_fails_at_first_stray`).
-/

namespace ExprCompiler

/-- A character that no lexeme can hold, where `before` is the character in front of it, if there is
one. -/
inductive StrayBehind (before : Option Char) (c : Char) : Prop where
  /-- It is of no kind that expressions are made of. -/
  | foreign (hblank : isBlank c = false) (hdigit : c.isDigit = false)
      (hsign : ∀ kind, (c, kind) ∉ signs) (hpoint : c ≠ '.')
  /-- It is a point, but continues no number. -/
  | point (hpoint : c = '.') (hbefore : ∀ d, before = some d → ¬ (d.isDigit = true ∨ d = '.'))

/-- The character at an index of a text is stray. -/
def StrayAt (chars : List Char) (i : Nat) : Prop :=
  ∃ c, chars[i]? = some c ∧ StrayBehind (chars.take i).getLast? c

/-- No number goes on from one text into the next. -/
def Parts (before after : List Char) : Prop :=
  ∀ c, before.getLast? = some c → isInNumber c = true → EndsNumber after

theorem strayAt_append_cons {front rest : List Char} {c : Char} :
    StrayAt (front ++ c :: rest) front.length ↔ StrayBehind front.getLast? c := by
  rw [StrayAt, List.getElem?_append_right (Nat.le_refl _), Nat.sub_self, List.take_left]
  simp

/-- Whether a character is stray does not depend on what follows it. -/
theorem strayAt_append {front rest : List Char} {i : Nat} (h : i < front.length) :
    StrayAt (front ++ rest) i ↔ StrayAt front i := by
  rw [StrayAt, StrayAt, List.getElem?_append_left h, List.take_append_of_le_length (Nat.le_of_lt h)]

/-! ## Where one text ends and another begins -/

section Parts

variable {before after : List Char} {c : Char}

theorem parts_nil (after : List Char) : Parts [] after := by
  simp [Parts]

theorem parts_concat (h : isInNumber c = false) : Parts (before ++ [c]) after := by
  intro d hd hin
  rw [List.getLast?_concat, Option.some.injEq] at hd
  rw [← hd, h] at hin
  exact Bool.noConfusion hin

/-- A character that is passed over as stray is a stray one behind a text that parts from it. -/
theorem Parts.strayBehind (h : Parts before (c :: after)) (hblank : isBlank c = false)
    (hdigit : c.isDigit = false) (hsign : TokenKind.ofSign? c = none) :
    StrayBehind before.getLast? c := by
  by_cases hpoint : c = '.'
  · subst hpoint
    refine .point rfl fun d hd hin => ?_
    have hout := h d hd (isInNumber_iff.2 hin) '.' rfl
    exact absurd hout (by decide)
  · refine .foreign hblank hdigit (fun kind hmem => ?_) hpoint
    rw [mem_signs_iff, hsign] at hmem
    simp at hmem

end Parts

/-! ## Texts with tokens -/

section NotStray

variable {before : Option Char} {c : Char}

theorem not_strayBehind_of_isBlank (h : isBlank c = true) : ¬ StrayBehind before c := by
  rintro (⟨hblank, -, -, -⟩ | ⟨rfl, -⟩)
  · exact absurd h (by simp [hblank])
  · exact absurd h (by decide)

theorem not_strayBehind_of_isDigit (h : c.isDigit = true) : ¬ StrayBehind before c := by
  rintro (⟨-, hdigit, -, -⟩ | ⟨rfl, -⟩)
  · exact absurd h (by simp [hdigit])
  · exact absurd h (by decide)

theorem not_strayBehind_of_mem_signs {kind : TokenKind} (h : (c, kind) ∈ signs) :
    ¬ StrayBehind before c := by
  rintro (⟨-, -, hsign, -⟩ | ⟨rfl, -⟩)
  · exact hsign kind h
  · rw [mem_signs_iff] at h
    simp [TokenKind.ofSign?] at h

/-- Inside of a number neither a digit nor a point is stray. -/
theorem not_strayBehind_in_number {d : Char} (hd : d.isDigit = true ∨ d = '.')
    (hc : c.isDigit = true ∨ c = '.') : ¬ StrayBehind (some d) c := by
  rintro (⟨-, hdigit, -, hpoint⟩ | ⟨-, hbefore⟩)
  · rcases hc with hc | hc
    · exact absurd hc (by simp [hdigit])
    · exact hpoint hc
  · exact hbefore d rfl hd

end NotStray

/-- Behind the first digit of a number, each character has one of the number in front of it. -/
theorem not_strayAt_in_run {before run rest : List Char} {d : Char} {k : Nat}
    (hd : d.isDigit = true ∨ d = '.') (hrun : ∀ c ∈ run, c.isDigit = true ∨ c = '.')
    (hk : k < run.length) :
    ¬ StrayAt (before ++ d :: (run ++ rest)) (before.length + 1 + k) := by
  induction run generalizing before d k with
  | nil => simp at hk
  | cons c run ih =>
    obtain ⟨hc, hrun⟩ := List.forall_mem_cons.1 hrun
    have hlength : before.length + 1 = (before ++ [d]).length := by simp
    rw [List.append_cons, List.cons_append, hlength]
    cases k with
    | zero =>
      rw [Nat.add_zero, strayAt_append_cons, List.getLast?_concat]
      exact not_strayBehind_in_number hd hc
    | succ k =>
      have hlater := @ih (before ++ [d]) c k hc hrun (Nat.lt_of_succ_lt_succ hk)
      rwa [Nat.add_right_comm, Nat.add_assoc] at hlater

/-- A lexeme holds no stray character. -/
theorem IsLexeme.not_strayAt {chars : List Char} {token : Token} (h : IsLexeme 0 chars token)
    {i : Nat} (hstart : token.position ≤ i) (hstop : i < token.stop) : ¬ StrayAt chars i := by
  cases h with
  | @number before run after first hchars hfirst hrun _ =>
    simp only [Token.stop, String.length_ofList, List.length_cons, Nat.zero_add] at hstart hstop
    obtain ⟨k, rfl⟩ : ∃ k, i = before.length + k := ⟨i - before.length, by omega⟩
    rw [hchars, List.cons_append]
    cases k with
    | zero =>
      rw [Nat.add_zero, strayAt_append_cons]
      exact not_strayBehind_of_isDigit hfirst
    | succ k =>
      rw [Nat.add_comm k 1, ← Nat.add_assoc]
      exact not_strayAt_in_run (.inl hfirst) hrun (by omega)
  | @sign before after c kind hchars hsign =>
    simp only [Token.stop, String.length_ofList, List.length_singleton, Nat.zero_add] at hstart hstop
    obtain rfl : i = before.length := by omega
    rw [hchars, List.singleton_append, strayAt_append_cons]
    exact not_strayBehind_of_mem_signs hsign

/-- A text that can be cut into tokens holds no stray character. -/
theorem Tokenizes.not_strayAt {chars : List Char} {tokens : List Token}
    (h : Tokenizes 0 chars tokens) (i : Nat) : ¬ StrayAt chars i := by
  by_cases hcover : ∃ token ∈ tokens, token.position ≤ i ∧ i < token.stop
  · obtain ⟨token, hmem, hstart, hstop⟩ := hcover
    rcases h.isLexeme_or_eq_end hmem with hlexeme | rfl
    · exact hlexeme.not_strayAt hstart hstop
    · simp only [Token.endAt, Token.stop, String.length_empty] at hstart hstop
      omega
  · rintro ⟨c, hc, hstray⟩
    refine not_strayBehind_of_isBlank (h.gaps i c hc fun token hmem hin => ?_) hstray
    rw [Nat.zero_add] at hin
    exact hcover ⟨token, hmem, hin⟩

/-! ## Texts without tokens -/

/-- A stream breaks at a stray character, with the tokens of the text up to there. The text `before`
parts from the one that is cut. -/
theorem Lexes.exists_stray {source : String} {offset : Nat} {chars : List Char}
    {stream : TokenStream} (h : Lexes source offset chars stream) {error : LexError}
    (herror : stream.error? = some error) {before : List Char} (hparts : Parts before chars) :
    ∃ front rest, chars = front ++ error.character :: rest ∧
      error.index = offset + front.length ∧
      StrayBehind (before ++ front).getLast? error.character ∧
      Tokenizes offset front (stream.tokens ++ [.endAt (offset + front.length : Nat)]) := by
  -- Whether the last character is stray depends on what was cut off already, so `before` grows with
  -- every step.
  induction h generalizing before with
  | finish => simp [TokenStream.error?] at herror
  | @blank offset c rest stream hblank _ ih =>
    have hends : Parts (before ++ [c]) rest := parts_concat (isInNumber_of_isBlank hblank)
    obtain ⟨front, rest', rfl, hindex, hstray, htokenizes⟩ := ih herror hends
    rw [← stop_cons offset c] at hindex htokenizes
    refine ⟨c :: front, rest', rfl, hindex, ?_, htokenizes.cons_blank hblank⟩
    rwa [List.append_cons]
  | @number offset first run rest stream hfirst hrun hstop _ ih =>
    have hends : Parts (before ++ (first :: run)) rest := fun _ _ _ => hstop
    obtain ⟨front, rest', rfl, hindex, hstray, htokenizes⟩ := ih herror hends
    rw [← stop_number offset first] at hindex htokenizes
    refine ⟨first :: (run ++ front), rest', ?_, hindex, ?_, ?_⟩
    · rw [List.cons_append, List.append_assoc]
    · rwa [← List.cons_append, ← List.append_assoc]
    · exact htokenizes.cons_number hfirst hrun hstop.of_append
  | @sign offset c kind rest stream hkind _ ih =>
    have hends : Parts (before ++ [c]) rest := parts_concat (isInNumber_of_ofSign? hkind)
    obtain ⟨front, rest', rfl, hindex, hstray, htokenizes⟩ := ih herror hends
    rw [← stop_cons offset c] at hindex htokenizes
    refine ⟨c :: front, rest', rfl, hindex, ?_, htokenizes.cons_sign hkind⟩
    rwa [List.append_cons]
  | @stray offset c rest hblank hdigit hsign =>
    obtain rfl := Option.some.inj herror
    refine ⟨[], rest, rfl, rfl, ?_, ?_⟩
    · rw [List.append_nil]
      exact hparts.strayBehind hblank hdigit hsign
    · exact Tokenizes.nil_iff.2 rfl

/-- A text that cannot be cut into tokens is a text that can, a stray character, and a rest. -/
theorem exists_stray_of_tokensOf {code : String} {error : LexError}
    (h : tokensOf code = .error error) :
    ∃ front rest, code.toList = front ++ error.character :: rest ∧ error.index = front.length ∧
      StrayBehind front.getLast? error.character ∧
      tokensOf (.ofList front) = .ok ((TokenStream.ofText code).tokens ++ [.endAt error.index]) := by
  have hlexes := lexes_scanFrom code 0 code.toList
  obtain ⟨front, rest, hchars, hindex, hstray, htokenizes⟩ :=
    hlexes.exists_stray (error?_ofText h) (parts_nil _)
  rw [Nat.zero_add] at hindex htokenizes
  refine ⟨front, rest, hchars, hindex, hstray, ?_⟩
  rw [tokensOf_eq_ok_iff_tokenizes, String.toList_ofList, hindex]
  exact htokenizes

/-- The front of a text up to its first stray character. -/
theorem strayAt_first {front : List Char} {c : Char} {tokens : List Token} (rest : List Char)
    (htokens : tokensOf (.ofList front) = .ok tokens) (hstray : StrayBehind front.getLast? c) :
    StrayAt (front ++ c :: rest) front.length ∧
      ∀ i, StrayAt (front ++ c :: rest) i → front.length ≤ i := by
  refine ⟨strayAt_append_cons.2 hstray, fun i hi => Nat.le_of_not_lt fun hlt => ?_⟩
  rw [tokensOf_eq_ok_iff_tokenizes, String.toList_ofList] at htokens
  exact htokens.not_strayAt i ((strayAt_append hlt).1 hi)

/-- A text cannot be cut into tokens exactly if it holds a stray character. Then the error is at the
first one, and the tokens that the scanner yields before it are those of the text up to there. -/
theorem tokensOf_fails_at_first_stray (code : String) :
    ((∃ error, tokensOf code = .error error) ↔ ∃ i, StrayAt code.toList i) ∧
    ∀ error, tokensOf code = .error error →
      error.source = code ∧
      StrayAt code.toList error.index ∧ (∀ i, StrayAt code.toList i → error.index ≤ i) ∧
      code.toList[error.index]? = some error.character ∧
      ∃ lexemes, (Scanner.fetch { source := code } .all).1 =
          { tokens := lexemes, error? := some error } ∧
        tokensOf (.ofList (code.toList.take error.index)) =
          .ok (lexemes ++ [.endAt error.index]) := by
  refine ⟨⟨?_, ?_⟩, fun error herror => ?_⟩
  · rintro ⟨error, herror⟩
    obtain ⟨front, rest, hchars, -, hstray, -⟩ := exists_stray_of_tokensOf herror
    exact ⟨front.length, hchars ▸ strayAt_append_cons.2 hstray⟩
  · rintro ⟨i, hi⟩
    cases htokens : tokensOf code with
    | error error => exact ⟨error, rfl⟩
    | ok tokens => exact absurd hi ((tokensOf_eq_ok_iff_tokenizes.1 htokens).not_strayAt i)
  · obtain ⟨front, rest, hchars, hindex, hstray, hfront⟩ := exists_stray_of_tokensOf herror
    obtain ⟨hfirst, hleast⟩ := strayAt_first rest hfront hstray
    have hsource := ((lexes_scanFrom code 0 code.toList).exists_getElem? (error?_ofText herror)).1
    refine ⟨hsource, ?_, ?_, ?_, (TokenStream.ofText code).tokens, ?_, ?_⟩
    · rw [hchars, hindex]
      exact hfirst
    · rw [hchars, hindex]
      exact hleast
    · rw [hchars, hindex, List.getElem?_append_right (Nat.le_refl _), Nat.sub_self,
        List.getElem?_cons_zero]
    · show Fetched.mk (TokenStream.ofText code).tokens (TokenStream.ofText code).error? = _
      rw [error?_ofText herror]
    · rw [hchars, hindex, List.take_left, ← hindex]
      exact hfront

end ExprCompiler
