import ExprCompiler.Proofs.Token.StrayCharacter

/-!
# Texts in a row

Where no number goes on from one text into the next (`Parts`), the stream of both in a row is that of
the first, with the stream of the second in the place of its end (`Lexes.append`). Blanks part any two
texts, so with blanks between them they have the tokens, or the error, that they have on their own,
only further on in the second (`tokensOf_append_blanks`).
-/

namespace ExprCompiler

/-- The same token further on. -/
def Token.moved (distance : Nat) (token : Token) : Token :=
  { token with position := token.position + distance }

/-- The same error further on, in another text. -/
def LexError.moved (source : String) (distance : Nat) (error : LexError) : LexError :=
  { source, index := error.index + distance, character := error.character }

theorem map_moved_zero (tokens : List Token) : tokens.map (Token.moved 0) = tokens := by
  have hid : Token.moved 0 = id := by
    funext token
    simp [Token.moved]
  rw [hid, List.map_id]

namespace TokenStream

/-- The same stream further on, in another text. -/
def moved (source : String) (distance : Nat) : TokenStream → TokenStream
  | done => done
  | broken error => broken (error.moved source distance)
  | cons token rest => cons (token.moved distance) (rest.moved source distance)

/-- A stream that goes on with another one instead of its end. -/
def followedBy : TokenStream → TokenStream → TokenStream
  | done, _ => done
  | broken error, _ => broken error
  | cons token rest, after => if token.isEnd then after else cons token (rest.followedBy after)

theorem tokens_moved (source : String) (distance : Nat) (stream : TokenStream) :
    (stream.moved source distance).tokens = stream.tokens.map (Token.moved distance) := by
  induction stream with
  | done => rfl
  | broken error => rfl
  | cons token rest ih => rw [moved, tokens, tokens, List.map_cons, ih]

theorem error?_moved (source : String) (distance : Nat) (stream : TokenStream) :
    (stream.moved source distance).error? = stream.error?.map (LexError.moved source distance) := by
  induction stream with
  | done => rfl
  | broken error => rfl
  | cons token rest ih => rw [moved, error?, error?, ih]

theorem followedBy_cons {token : Token} (h : token.isEnd = false) (rest after : TokenStream) :
    (cons token rest).followedBy after = cons token (rest.followedBy after) := by
  rw [followedBy, h]
  rfl

end TokenStream

/-- What follows the back of a text follows the whole. -/
theorem Parts.of_append {before after : List Char} (front : List Char)
    (h : Parts (front ++ before) after) : Parts before after := by
  intro c hc
  refine h c ?_
  rw [List.getLast?_append, hc, Option.some_or]

/-- A number that ends where a text does, or before, ends in front of what follows the text. -/
theorem Parts.endsNumber {first : Char} {run chars rest : List Char}
    (h : Parts (first :: (run ++ chars)) rest) (hfirst : first.isDigit = true)
    (hrun : ∀ c ∈ run, isInNumber c = true) (hstop : EndsNumber chars) :
    EndsNumber (chars ++ rest) := by
  cases chars with
  | cons c chars => exact hstop
  | nil =>
    rw [List.append_nil] at h
    refine h ((first :: run).getLast (by simp)) (List.getLast?_eq_some_getLast _) ?_
    rcases List.mem_cons.1 (List.getLast_mem (List.cons_ne_nil first run)) with hlast | hlast
    · rw [hlast]
      exact isInNumber_iff.2 (.inl hfirst)
    · exact hrun _ hlast

namespace Lexes

variable {source : String} {offset : Nat} {chars rest : List Char} {stream after : TokenStream}

/-- Where a text stands does not change what it is cut into. -/
theorem moved (h : Lexes source offset chars stream) (source' : String) (distance : Nat) :
    Lexes source' (offset + distance) chars (stream.moved source' distance) := by
  induction h with
  | finish => exact .finish
  | blank hblank _ ih =>
    rw [Nat.add_right_comm] at ih
    exact .blank hblank ih
  | number hfirst hrun hstop _ ih =>
    rw [Nat.add_right_comm] at ih
    exact .number hfirst hrun hstop ih
  | sign hkind _ ih =>
    rw [Nat.add_right_comm] at ih
    exact .sign hkind ih
  | stray hblank hdigit hsign => exact .stray hblank hdigit hsign

/-- Two texts that part have the stream of the first, and from its end on that of the second. -/
theorem append (h : Lexes source offset chars stream) (hparts : Parts chars rest)
    (hrest : Lexes source (offset + chars.length) rest after) :
    Lexes source offset (chars ++ rest) (stream.followedBy after) := by
  -- Only a number that ends with the first text depends on what follows there.
  induction h with
  | finish => exact hrest
  | @blank offset c chars stream hblank _ ih =>
    rw [stop_cons] at hrest
    exact .blank hblank (ih (hparts.of_append [c]) hrest)
  | @number offset first run chars stream hfirst hrun hstop _ ih =>
    rw [stop_number] at hrest
    rw [TokenStream.followedBy_cons rfl, List.cons_append, List.append_assoc]
    refine .number hfirst hrun (hparts.endsNumber hfirst hrun hstop) (ih ?_ hrest)
    exact hparts.of_append (first :: run)
  | @sign offset c kind chars stream hkind _ ih =>
    rw [stop_cons] at hrest
    rw [TokenStream.followedBy_cons (TokenKind.isEnd_of_ofSign? hkind)]
    exact .sign hkind (ih (hparts.of_append [c]) hrest)
  | stray hblank hdigit hsign => exact .stray hblank hdigit hsign

/-- Of two streams in a row the first one's error comes first. -/
theorem error?_followedBy (h : Lexes source offset chars stream) (after : TokenStream) :
    (stream.followedBy after).error? = stream.error?.or after.error? := by
  induction h with
  | finish => rfl
  | blank _ _ ih => exact ih
  | number _ _ _ _ ih =>
    rw [TokenStream.followedBy_cons rfl]
    exact ih
  | sign hkind _ ih =>
    rw [TokenStream.followedBy_cons (TokenKind.isEnd_of_ofSign? hkind)]
    exact ih
  | stray _ _ _ => rfl

/-- Two streams in a row have the tokens of the first without its end, and then those of the
second. -/
theorem exists_tokens_followedBy (h : Lexes source offset chars stream)
    (herror : stream.error? = none) (after : TokenStream) :
    ∃ lexemes, stream.tokens = lexemes ++ [.endAt (offset + chars.length : Nat)] ∧
      (stream.followedBy after).tokens = lexemes ++ after.tokens := by
  induction h with
  | finish => exact ⟨[], rfl, rfl⟩
  | @blank offset c chars stream _ _ ih =>
    rw [stop_cons]
    exact ih herror
  | @number offset first run chars stream _ _ _ _ ih =>
    obtain ⟨lexemes, htokens, hafter⟩ := ih herror
    refine ⟨{ kind := .number, lexeme := .ofList (first :: run), position := offset } :: lexemes,
      ?_, ?_⟩
    · rw [stop_number, TokenStream.tokens, htokens, List.cons_append]
    · rw [TokenStream.followedBy_cons rfl, TokenStream.tokens, hafter, List.cons_append]
  | @sign offset c kind chars stream hkind _ ih =>
    obtain ⟨lexemes, htokens, hafter⟩ := ih herror
    refine ⟨{ kind, lexeme := .singleton c, position := offset } :: lexemes, ?_, ?_⟩
    · rw [stop_cons, TokenStream.tokens, htokens, List.cons_append]
    · rw [TokenStream.followedBy_cons (TokenKind.isEnd_of_ofSign? hkind), TokenStream.tokens, hafter,
        List.cons_append]
  | stray _ _ _ => simp [TokenStream.error?] at herror

end Lexes

/-! ## Texts with blanks between them -/

theorem parts_blanks {before blanks after : List Char} (hne : blanks ≠ [])
    (hblanks : ∀ c ∈ blanks, isBlank c = true) : Parts before (blanks ++ after) := by
  intro _ _ _
  cases blanks with
  | nil => exact absurd rfl hne
  | cons c blanks =>
    have hblank := hblanks c List.mem_cons_self
    exact endsNumber_cons (isInNumber_of_isBlank hblank)

/-- The stream of two texts with blanks between them, where `first` and `second` are those of the
texts on their own. -/
theorem lexes_append_blanks {before blanks after : String} {first second : TokenStream}
    (hne : blanks ≠ "") (hblanks : isBlankText blanks = true)
    (hfirst : Lexes before 0 before.toList first) (hsecond : Lexes after 0 after.toList second) :
    Lexes (before ++ blanks ++ after) 0 (before ++ blanks ++ after).toList
      ((first.moved (before ++ blanks ++ after) 0).followedBy
        (second.moved (before ++ blanks ++ after) (before.length + blanks.length))) := by
  have hall : ∀ c ∈ blanks.toList, isBlank c = true := List.all_eq_true.1 hblanks
  have hparts : Parts before.toList (blanks.toList ++ after.toList) :=
    parts_blanks (fun hnil => hne (String.toList_eq_nil_iff.1 hnil)) hall
  rw [String.toList_append, String.toList_append, List.append_assoc]
  refine (hfirst.moved _ 0).append hparts (.blanks hall ?_)
  rw [String.length_toList, String.length_toList, Nat.add_assoc]
  exact hsecond.moved _ _

/-- With blanks between them, two texts have the tokens of the first without its end, and then those
of the second, moved behind it. Where the first has an error, they have the same, and else where the
second has one, they have that, moved too. -/
theorem tokensOf_append_blanks {blanks : String} (hne : blanks ≠ "")
    (hblanks : isBlankText blanks = true) (before after : String) :
    (∀ error, tokensOf before = .error error →
      tokensOf (before ++ blanks ++ after) =
        .error { error with source := before ++ blanks ++ after }) ∧
    (∀ tokens error, tokensOf before = .ok tokens → tokensOf after = .error error →
      tokensOf (before ++ blanks ++ after) =
        .error { source := before ++ blanks ++ after
                 index := before.length + blanks.length + error.index
                 character := error.character }) ∧
    ∀ tokens others, tokensOf before = .ok tokens → tokensOf after = .ok others →
      ∃ lexemes, tokens = lexemes ++ [.endAt before.length] ∧
        tokensOf (before ++ blanks ++ after) =
          .ok (lexemes ++ others.map (Token.moved (before.length + blanks.length))) := by
  refine ⟨fun error herror => ?_, fun tokens error htokens herror => ?_,
    fun tokens others htokens hothers => ?_⟩
  · obtain ⟨first, hfirst, hbroken⟩ := tokensOf_eq_error_iff.1 herror
    have hlexes := lexes_append_blanks hne hblanks hfirst (lexes_scanFrom after 0 after.toList)
    refine tokensOf_eq_error_iff.2 ⟨_, hlexes, ?_⟩
    rw [(hfirst.moved _ 0).error?_followedBy, TokenStream.error?_moved, hbroken]
    rfl
  · obtain ⟨first, hfirst, hnone, -⟩ := tokensOf_eq_ok_iff.1 htokens
    obtain ⟨second, hsecond, hbroken⟩ := tokensOf_eq_error_iff.1 herror
    have hlexes := lexes_append_blanks hne hblanks hfirst hsecond
    refine tokensOf_eq_error_iff.2 ⟨_, hlexes, ?_⟩
    rw [(hfirst.moved _ 0).error?_followedBy, TokenStream.error?_moved, TokenStream.error?_moved,
      hnone, hbroken, Nat.add_comm _ error.index]
    rfl
  · obtain ⟨first, hfirst, hnone, rfl⟩ := tokensOf_eq_ok_iff.1 htokens
    obtain ⟨second, hsecond, hnone', rfl⟩ := tokensOf_eq_ok_iff.1 hothers
    have hmoved : (first.moved (before ++ blanks ++ after) 0).error? = none := by
      rw [TokenStream.error?_moved, hnone]
      rfl
    obtain ⟨lexemes, htokens, hjoined⟩ := (hfirst.moved _ 0).exists_tokens_followedBy hmoved
      (second.moved (before ++ blanks ++ after) (before.length + blanks.length))
    rw [TokenStream.tokens_moved, map_moved_zero, Nat.zero_add,
      String.length_toList] at htokens
    rw [TokenStream.tokens_moved] at hjoined
    have hlexes := lexes_append_blanks hne hblanks hfirst hsecond
    refine ⟨lexemes, htokens, tokensOf_eq_ok_iff.2 ⟨_, hlexes, ?_, hjoined⟩⟩
    rw [(hfirst.moved _ 0).error?_followedBy, hmoved, TokenStream.error?_moved, hnone']
    rfl

theorem tokensOf_append_blanks_number :
    "\u2003" ≠ "" ∧ isBlankText "\u2003" = true ∧
    tokensOf "12" = .ok [⟨.number, "12", 0⟩, .endAt 2] ∧
    tokensOf "3." = .ok [⟨.number, "3.", 0⟩, .endAt 2] ∧
    tokensOf "12\u20033." = .ok [⟨.number, "12", 0⟩, ⟨.number, "3.", 3⟩, .endAt 5] := by
  have hne : "\u2003" ≠ "" := by decide
  have hblanks : isBlankText "\u2003" = true := by decide
  have hfirst : tokensOf "12" = .ok [⟨.number, "12", 0⟩, .endAt 2] := by decide +kernel
  have hsecond : tokensOf "3." = .ok [⟨.number, "3.", 0⟩, .endAt 2] := by decide +kernel
  obtain ⟨lexemes, hlexemes, hwhole⟩ :=
    (tokensOf_append_blanks hne hblanks "12" "3.").2.2 _ _ hfirst hsecond
  have hsplit : [⟨.number, "12", 0⟩] ++ [.endAt 2] = lexemes ++ [Token.endAt "12".length] := hlexemes
  obtain ⟨rfl, -⟩ := List.append_inj' hsplit rfl
  have htext : "12" ++ "\u2003" ++ "3." = "12\u20033." := by decide
  rw [htext] at hwhole
  exact ⟨hne, hblanks, hfirst, hsecond, hwhole⟩

end ExprCompiler
