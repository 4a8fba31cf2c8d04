import ExprCompiler.Proofs.Token.Tokenization

/-!
# Fetching tokens one at a time

The stream of a scanner is what its single fetches yield: the token of the next fetch, and then the
stream of the scanner that stands behind the token's lexeme (`Scanner.stream_eq`). A stream that ends
in an error has only lexemes that stand before the stray character (`Lexes.stop_le_index`), and no
end.
-/

namespace ExprCompiler

/-- What a step leaves is what stands behind the lexeme of its token. -/
theorem exists_taken_of_scan {offset : Nat} {chars rest : List Char} {token : Token}
    (h : scan offset chars = .token token rest) (hend : token.isEnd = false) :
    ∃ taken, chars = taken ++ rest ∧
      token.position.toNat + token.lexeme.length = offset + taken.length := by
  have hblanks : chars.takeWhile isBlank ++ chars.dropWhile isBlank = chars :=
    List.takeWhile_append_dropWhile
  unfold scan at h
  split at h
  · obtain ⟨rfl, -⟩ := Scan.token.inj h
    simp [Token.isEnd, Token.endAt] at hend
  · rename_i c tail hdrop
    rw [hdrop] at hblanks
    split at h
    · obtain ⟨rfl, rfl⟩ := Scan.token.inj h
      have hrun : tail.takeWhile isInNumber ++ tail.dropWhile isInNumber = tail :=
        List.takeWhile_append_dropWhile
      refine ⟨chars.takeWhile isBlank ++ (c :: tail.takeWhile isInNumber), ?_, ?_⟩
      · rw [List.append_assoc, List.cons_append, hrun, hblanks]
      · rw [String.length_ofList, List.length_append, Int.toNat_natCast, Nat.add_assoc]
    · split at h
      · obtain ⟨rfl, rfl⟩ := Scan.token.inj h
        refine ⟨chars.takeWhile isBlank ++ [c], ?_, ?_⟩
        · rw [List.append_assoc, List.singleton_append, hblanks]
        · rw [String.length_singleton, List.length_append, Int.toNat_natCast, Nat.add_assoc,
            List.length_singleton]
      · simp at h

/-- A stream goes on with the next fetch, up to the end or an error. -/
theorem Scanner.stream_eq (scanner : Scanner) :
    scanner.stream =
      match scanner.next with
      | (.ok token, after) => .cons token (if token.isEnd then .done else after.stream)
      | (.error error, _) => .broken error := by
  rw [stream, TokenStream.scanFrom_eq, next]
  cases hscan : scan scanner.offset scanner.remaining with
  | stray index character => rfl
  | token token rest =>
    cases hend : token.isEnd with
    | true => simp only [hend, if_true]
    | false =>
      obtain ⟨taken, htaken, hoffset⟩ := exists_taken_of_scan hscan hend
      have hrest : scanner.source.toList.drop (token.position.toNat + token.lexeme.length) = rest := by
        rw [hoffset, ← List.drop_drop]
        change scanner.remaining.drop taken.length = rest
        rw [htaken, List.drop_left]
      simp only [hend, Bool.false_eq_true, if_false, stream, remaining, hrest]

/-! ## Streams that end in an error -/

/-- The tokens of a broken stream are lexemes, and all stand before the character that breaks it. -/
theorem Lexes.stop_le_index {source : String} {offset : Nat} {chars : List Char}
    {stream : TokenStream} (h : Lexes source offset chars stream) {error : LexError}
    (herror : stream.error? = some error) :
    offset ≤ error.index ∧
      ∀ token ∈ stream.tokens, token.isEnd = false ∧ token.stop ≤ error.index := by
  induction h with
  | finish => simp [TokenStream.error?] at herror
  | blank _ _ ih =>
    obtain ⟨hindex, htokens⟩ := ih herror
    exact ⟨by omega, htokens⟩
  | @number offset first run rest stream _ _ _ _ ih =>
    obtain ⟨hindex, htokens⟩ := ih herror
    refine ⟨by omega, List.forall_mem_cons.2 ⟨⟨rfl, ?_⟩, htokens⟩⟩
    simp only [Token.stop, String.length_ofList, List.length_cons]
    omega
  | @sign offset c kind rest stream hkind _ ih =>
    obtain ⟨hindex, htokens⟩ := ih herror
    refine ⟨by omega, List.forall_mem_cons.2 ⟨⟨TokenKind.isEnd_of_ofSign? hkind, ?_⟩, htokens⟩⟩
    simp only [Token.stop, String.length_singleton]
    omega
  | stray _ _ _ =>
    obtain rfl := Option.some.inj herror
    exact ⟨Nat.le_refl _, by simp [TokenStream.tokens]⟩

/-- The error of a stream is about the character at its index. -/
theorem Lexes.exists_getElem? {source : String} {offset : Nat} {chars : List Char}
    {stream : TokenStream} (h : Lexes source offset chars stream) {error : LexError}
    (herror : stream.error? = some error) :
    error.source = source ∧
      ∃ i, error.index = offset + i ∧ chars[i]? = some error.character := by
  induction h with
  | finish => simp [TokenStream.error?] at herror
  | blank _ _ ih =>
    obtain ⟨hsource, i, hindex, hcharacter⟩ := ih herror
    exact ⟨hsource, i + 1, by omega, hcharacter⟩
  | @number offset first run rest stream _ _ _ _ ih =>
    obtain ⟨hsource, i, hindex, hcharacter⟩ := ih herror
    refine ⟨hsource, run.length + i + 1, by omega, ?_⟩
    rw [List.getElem?_cons_succ, List.getElem?_append_right (Nat.le_add_right _ _),
      Nat.add_sub_cancel_left]
    exact hcharacter
  | sign _ _ ih =>
    obtain ⟨hsource, i, hindex, hcharacter⟩ := ih herror
    exact ⟨hsource, i + 1, by omega, hcharacter⟩
  | stray _ _ _ =>
    obtain rfl := Option.some.inj herror
    exact ⟨rfl, 0, rfl, rfl⟩

/-- A text without a list of tokens has a broken stream. -/
theorem error?_ofText {source : String} {error : LexError} (h : tokensOf source = .error error) :
    (TokenStream.ofText source).error? = some error := by
  obtain ⟨stream, hstream, herror⟩ := tokensOf_eq_error_iff.1 h
  rw [TokenStream.ofText, hstream.scanFrom_eq]
  exact herror

/-- The stream of a text is the list of its tokens, if there is one. -/
theorem ofText_eq_ofList {source : String} {tokens : List Token} (h : tokensOf source = .ok tokens) :
    TokenStream.ofText source = .ofList tokens := by
  have hlist : ∀ stream : TokenStream, stream.error? = none → stream = .ofList stream.tokens := by
    intro stream hnone
    induction stream with
    | done => rfl
    | broken error => simp [TokenStream.error?] at hnone
    | cons token rest ih => rw [TokenStream.tokens, TokenStream.ofList, ← ih hnone]
  obtain ⟨stream, hstream, hnone, rfl⟩ := tokensOf_eq_ok_iff.1 h
  rw [TokenStream.ofText, hstream.scanFrom_eq]
  exact hlist stream hnone

end ExprCompiler
