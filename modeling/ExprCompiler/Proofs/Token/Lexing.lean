import ExprCompiler.Token.Scanner

/-!
# What scanning yields

`Lexes` describes the stream of a text from its first character on: a blank is passed over, a number
is a maximal run of digits and points, a sign is one character, and any other character breaks the
stream. It is the graph of `TokenStream.scanFrom` (`lexes_iff`), so facts about the scanner are
proved by induction over it.
-/

namespace ExprCompiler

/-- A text that does not go on with what may stand in a number. -/
def EndsNumber (chars : List Char) : Prop :=
  ∀ c, chars.head? = some c → isInNumber c = false

/-- `Lexes source offset chars stream`: the characters, which start at index `offset` of the source,
are cut into the tokens of the stream. -/
inductive Lexes (source : String) : Nat → List Char → TokenStream → Prop where
  /-- The text ends. -/
  | finish {offset : Nat} : Lexes source offset [] (.cons (.endAt offset) .done)
  /-- A blank belongs to no lexeme. -/
  | blank {offset : Nat} {c : Char} {rest : List Char} {stream : TokenStream}
      (hblank : isBlank c = true) (hrest : Lexes source (offset + 1) rest stream) :
      Lexes source offset (c :: rest) stream
  /-- A number is a maximal run. -/
  | number {offset : Nat} {first : Char} {run rest : List Char} {stream : TokenStream}
      (hfirst : first.isDigit = true) (hrun : ∀ c ∈ run, isInNumber c = true)
      (hstop : EndsNumber rest) (hrest : Lexes source (offset + (run.length + 1)) rest stream) :
      Lexes source offset (first :: (run ++ rest))
        (.cons { kind := .number, lexeme := .ofList (first :: run), position := offset } stream)
  /-- A sign is one character. -/
  | sign {offset : Nat} {c : Char} {kind : TokenKind} {rest : List Char} {stream : TokenStream}
      (hkind : TokenKind.ofSign? c = some kind) (hrest : Lexes source (offset + 1) rest stream) :
      Lexes source offset (c :: rest)
        (.cons { kind, lexeme := .singleton c, position := offset } stream)
  /-- Any other character breaks the stream. -/
  | stray {offset : Nat} {c : Char} {rest : List Char} (hblank : isBlank c = false)
      (hdigit : c.isDigit = false) (hsign : TokenKind.ofSign? c = none) :
      Lexes source offset (c :: rest) (.broken { source, index := offset, character := c })

/-! ## Classes of characters -/

theorem TokenKind.isDigit_of_ofSign? {c : Char} {kind : TokenKind}
    (h : ofSign? c = some kind) : c.isDigit = false ∧ isBlank c = false := by
  unfold ofSign? at h
  split at h <;> first | exact ⟨by decide, by decide⟩ | simp at h

theorem TokenKind.ne_of_ofSign? {c : Char} {kind : TokenKind} (h : ofSign? c = some kind) :
    kind ≠ .number ∧ kind ≠ .exprEnd := by
  unfold ofSign? at h
  split at h <;> first | (obtain rfl := Option.some.inj h; decide) | simp at h

/-- The token of a sign is not the end. -/
theorem TokenKind.isEnd_of_ofSign? {c : Char} {token : Token} (h : ofSign? c = some token.kind) :
    token.isEnd = false := by
  simp [Token.isEnd, (ne_of_ofSign? h).2]

theorem isInNumber_iff {c : Char} : isInNumber c = true ↔ c.isDigit = true ∨ c = '.' := by
  simp [isInNumber]

theorem isBlank_of_isInNumber {c : Char} (h : isInNumber c = true) : isBlank c = false := by
  rcases isInNumber_iff.1 h with hdigit | rfl
  · exact isBlank_of_isDigit hdigit
  · decide

theorem ofSign?_of_isInNumber {c : Char} (h : isInNumber c = true) :
    TokenKind.ofSign? c = none := by
  refine Option.eq_none_iff_forall_ne_some.2 fun kind hkind => ?_
  rcases isInNumber_iff.1 h with hdigit | rfl
  · rw [(TokenKind.isDigit_of_ofSign? hkind).1] at hdigit
    simp at hdigit
  · simp [TokenKind.ofSign?] at hkind

theorem isInNumber_of_isBlank {c : Char} (h : isBlank c = true) : isInNumber c = false := by
  rw [Bool.eq_false_iff]
  intro hin
  simp [isBlank_of_isInNumber hin] at h

theorem isInNumber_of_ofSign? {c : Char} {kind : TokenKind} (h : TokenKind.ofSign? c = some kind) :
    isInNumber c = false := by
  rw [Bool.eq_false_iff]
  intro hin
  simp [ofSign?_of_isInNumber hin] at h

theorem endsNumber_cons {c : Char} {rest : List Char} (h : isInNumber c = false) :
    EndsNumber (c :: rest) := by
  intro d hd
  obtain rfl := Option.some.inj hd
  exact h

/-- Where a text ends a number, its front does. -/
theorem EndsNumber.of_append {front rest : List Char} (h : EndsNumber (front ++ rest)) :
    EndsNumber front := by
  cases front with
  | nil => simp [EndsNumber]
  | cons c front => exact h

/-- Every text is a run of characters with a property, and a text that does not start with one. -/
theorem exists_run (p : Char → Bool) (chars : List Char) :
    ∃ run rest, chars = run ++ rest ∧ (∀ c ∈ run, p c = true) ∧
      ∀ c, rest.head? = some c → p c = false := by
  refine ⟨chars.takeWhile p, chars.dropWhile p, List.takeWhile_append_dropWhile.symm, ?_, ?_⟩
  · exact List.all_eq_true.1 List.all_takeWhile
  · intro c hc
    have hhead := List.head?_dropWhile_not p chars
    rw [hc] at hhead
    simpa using hhead

section Runs

variable {p : Char → Bool} {run rest : List Char}

theorem takeWhile_run (hrun : ∀ c ∈ run, p c = true)
    (hrest : ∀ c, rest.head? = some c → p c = false) : (run ++ rest).takeWhile p = run := by
  rw [List.takeWhile_append_of_pos hrun]
  cases rest with
  | nil => rw [List.takeWhile_nil, List.append_nil]
  | cons c rest => rw [List.takeWhile_cons_of_neg (by simp [hrest c rfl]), List.append_nil]

theorem dropWhile_run (hrun : ∀ c ∈ run, p c = true)
    (hrest : ∀ c, rest.head? = some c → p c = false) : (run ++ rest).dropWhile p = rest := by
  rw [List.dropWhile_append_of_pos hrun]
  cases rest with
  | nil => rfl
  | cons c rest => rw [List.dropWhile_cons_of_neg (by simp [hrest c rfl])]

end Runs

/-! ## Where a text ends -/

section Stop

variable (offset : Nat) (c : Char) (run rest : List Char)

/-- A text ends where the rest of it does behind its first character. -/
theorem stop_cons : offset + (c :: rest).length = offset + 1 + rest.length := by
  rw [List.length_cons]
  omega

theorem stop_number :
    offset + (c :: (run ++ rest)).length = offset + (run.length + 1) + rest.length := by
  rw [List.length_cons, List.length_append]
  omega

end Stop

/-! ## Single steps -/

section Scan

variable {offset : Nat} {c : Char} {rest : List Char}

theorem scan_blank (h : isBlank c = true) : scan offset (c :: rest) = scan (offset + 1) rest := by
  simp only [scan, List.takeWhile_cons_of_pos h, List.dropWhile_cons_of_pos h, List.length_cons]
  rw [show offset + ((rest.takeWhile isBlank).length + 1) =
    offset + 1 + (rest.takeWhile isBlank).length by omega]

theorem scan_number {run : List Char} (hfirst : c.isDigit = true)
    (hrun : ∀ d ∈ run, isInNumber d = true) (hstop : EndsNumber rest) :
    scan offset (c :: (run ++ rest)) =
      .token { kind := .number, lexeme := .ofList (c :: run), position := offset } rest := by
  have hblank : ¬ isBlank c = true := by simp [isBlank_of_isDigit hfirst]
  simp only [scan, List.takeWhile_cons_of_neg hblank, List.dropWhile_cons_of_neg hblank, hfirst,
    if_true, takeWhile_run hrun hstop, dropWhile_run hrun hstop, List.length_nil, Nat.add_zero]

theorem scan_sign {kind : TokenKind} (h : TokenKind.ofSign? c = some kind) :
    scan offset (c :: rest) =
      .token { kind, lexeme := .singleton c, position := offset } rest := by
  obtain ⟨hdigit, hblank⟩ := TokenKind.isDigit_of_ofSign? h
  have hneg : ¬ isBlank c = true := by simp [hblank]
  simp only [scan, List.takeWhile_cons_of_neg hneg, List.dropWhile_cons_of_neg hneg, hdigit,
    Bool.false_eq_true, if_false, h, List.length_nil, Nat.add_zero]

theorem scan_stray (hblank : isBlank c = false) (hdigit : c.isDigit = false)
    (hsign : TokenKind.ofSign? c = none) : scan offset (c :: rest) = .stray offset c := by
  have hneg : ¬ isBlank c = true := by simp [hblank]
  simp only [scan, List.takeWhile_cons_of_neg hneg, List.dropWhile_cons_of_neg hneg, hdigit,
    Bool.false_eq_true, if_false, hsign, List.length_nil, Nat.add_zero]

end Scan

/-! ## The stream of a text -/

/-- The stream of a text goes on after its first lexeme. -/
theorem TokenStream.scanFrom_eq (source : String) (offset : Nat) (chars : List Char) :
    scanFrom source offset chars =
      match scan offset chars with
      | .stray index character => broken { source, index, character }
      | .token token rest =>
        if token.isEnd then cons token done
        else cons token (scanFrom source (token.position.toNat + token.lexeme.length) rest) := by
  rw [scanFrom]
  split <;> rename_i hscan
  · simp only [hscan]
  · simp only [hscan, dite_eq_ite]

theorem Lexes.scanFrom_eq {source : String} {offset : Nat} {chars : List Char}
    {stream : TokenStream} (h : Lexes source offset chars stream) :
    TokenStream.scanFrom source offset chars = stream := by
  induction h with
  | finish => rw [TokenStream.scanFrom_eq]; rfl
  | blank hblank _ ih =>
    rw [TokenStream.scanFrom_eq, scan_blank hblank, ← TokenStream.scanFrom_eq]
    exact ih
  | @number offset first run rest stream hfirst hrun hstop _ ih =>
    rw [TokenStream.scanFrom_eq, scan_number hfirst hrun hstop]
    have hlength : (String.ofList (first :: run)).length = run.length + 1 := by
      rw [String.length_ofList, List.length_cons]
    simp only [Token.isEnd, Int.toNat_natCast, hlength, ih]
    rfl
  | @sign offset c kind rest stream hkind _ ih =>
    have hend : (kind == .exprEnd) = false := by simp [(TokenKind.ne_of_ofSign? hkind).2]
    have hlength : (String.singleton c).length = 1 := by simp
    rw [TokenStream.scanFrom_eq, scan_sign hkind]
    simp only [Token.isEnd, hend, Bool.false_eq_true, if_false, Int.toNat_natCast, hlength, ih]
  | stray hblank hdigit hsign => rw [TokenStream.scanFrom_eq, scan_stray hblank hdigit hsign]

theorem lexes_scanFrom (source : String) (offset : Nat) (chars : List Char) :
    Lexes source offset chars (TokenStream.scanFrom source offset chars) := by
  suffices h : ∃ stream, Lexes source offset chars stream by
    obtain ⟨stream, hstream⟩ := h
    rw [hstream.scanFrom_eq]
    exact hstream
  induction hn : chars.length using Nat.strongRecOn generalizing offset chars with
  | _ n ih =>
    subst hn
    cases chars with
    | nil => exact ⟨_, .finish⟩
    | cons c rest =>
      obtain ⟨after, hafter⟩ := ih rest.length (Nat.lt_succ_self _) (offset + 1) rest rfl
      cases hblank : isBlank c with
      | true => exact ⟨after, .blank hblank hafter⟩
      | false =>
        cases hdigit : c.isDigit with
        | true =>
          obtain ⟨run, rest', rfl, hrun, hstop⟩ := exists_run isInNumber rest
          have hlt : rest'.length < (c :: (run ++ rest')).length := by
            simp only [List.length_cons, List.length_append]
            omega
          obtain ⟨stream, hstream⟩ := ih _ hlt (offset + (run.length + 1)) rest' rfl
          exact ⟨_, .number hdigit hrun hstop hstream⟩
        | false =>
          cases hsign : TokenKind.ofSign? c with
          | some kind => exact ⟨_, .sign hsign hafter⟩
          | none => exact ⟨_, .stray hblank hdigit hsign⟩

/-- The description admits exactly what is scanned. -/
theorem lexes_iff {source : String} {offset : Nat} {chars : List Char} {stream : TokenStream} :
    Lexes source offset chars stream ↔ TokenStream.scanFrom source offset chars = stream :=
  ⟨Lexes.scanFrom_eq, fun h => h ▸ lexes_scanFrom source offset chars⟩

/-- Blanks in front of a text are passed over. -/
theorem Lexes.blanks {source : String} {offset : Nat} {front rest : List Char}
    {stream : TokenStream} (hfront : ∀ c ∈ front, isBlank c = true)
    (hrest : Lexes source (offset + front.length) rest stream) :
    Lexes source offset (front ++ rest) stream := by
  induction front generalizing offset with
  | nil => exact hrest
  | cons c front ih =>
    obtain ⟨hblank, hfront⟩ := List.forall_mem_cons.1 hfront
    rw [stop_cons] at hrest
    exact .blank hblank (ih hfront hrest)

/-! ## The tokens of a text -/

theorem tokensOf_eq_ok_iff {source : String} {tokens : List Token} :
    tokensOf source = .ok tokens ↔
      ∃ stream, Lexes source 0 source.toList stream ∧ stream.error? = none ∧
        stream.tokens = tokens := by
  have hlexes := lexes_scanFrom source 0 source.toList
  constructor
  · intro h
    unfold tokensOf TokenStream.toList at h
    split at h
    · simp at h
    · exact ⟨_, hlexes, ‹_›, Except.ok.inj h⟩
  · rintro ⟨stream, hstream, herror, htokens⟩
    rw [tokensOf, TokenStream.ofText, lexes_iff.1 hstream, TokenStream.toList, herror, htokens]

theorem tokensOf_eq_error_iff {source : String} {error : LexError} :
    tokensOf source = .error error ↔
      ∃ stream, Lexes source 0 source.toList stream ∧ stream.error? = some error := by
  have hlexes := lexes_scanFrom source 0 source.toList
  constructor
  · intro h
    unfold tokensOf TokenStream.toList at h
    split at h
    · rename_i herror
      rw [← Except.error.inj h]
      exact ⟨_, hlexes, herror⟩
    · simp at h
  · rintro ⟨stream, hstream, herror⟩
    rw [tokensOf, TokenStream.ofText, lexes_iff.1 hstream, TokenStream.toList, herror]

end ExprCompiler
