import ExprCompiler.Proofs.Runs
import ExprCompiler.Proofs.Token.Fetching

/-!
# Fetches in any order

A scanner is asked for one token or for all that are left, in any order and also behind the end and
behind an error. Fetching all is fetching one after the other (`Scanner.Yields`), so there is one list
of lexemes in front of a scanner, and each fetch takes the next ones from it
(`Scanner.Leaves`). At the end, and at a stray character, a scanner rests: whatever it is
asked for, it gives the same again.
-/

namespace ExprCompiler

/-- The tokens other than ends. -/
def lexemesOf (tokens : List Token) : List Token :=
  tokens.filter fun token => !token.isEnd

theorem lexemesOf_append (tokens tokens' : List Token) :
    lexemesOf (tokens ++ tokens') = lexemesOf tokens ++ lexemesOf tokens' :=
  List.filter_append tokens tokens'

/-! ## Steps of reading -/

/-- What a step of reading meets in the characters, which start at index `offset`. -/
inductive ScanMeets (offset : Nat) (chars : List Char) : Scan → Prop where
  /-- A lexeme, which ends where the characters end that are taken. -/
  | lexeme {start : Nat} {taken rest : List Char} {token : Token} (hchars : chars = taken ++ rest)
      (hend : token.isEnd = false) (hposition : token.position = start)
      (hlength : start + token.lexeme.length = offset + taken.length) :
      ScanMeets offset chars (.token token rest)
  /-- The end, behind all characters. -/
  | finish : ScanMeets offset chars (.token (.endAt (offset + chars.length : Nat)) [])
  /-- A stray character, which is met again from there. -/
  | stray {blanks rest : List Char} {c : Char} (hchars : chars = blanks ++ c :: rest)
      (hagain : scan (offset + blanks.length) (c :: rest) = .stray (offset + blanks.length) c) :
      ScanMeets offset chars (.stray (offset + blanks.length) c)

theorem scanMeets_scan (offset : Nat) (chars : List Char) :
    ScanMeets offset chars (scan offset chars) := by
  have hblanks : chars.takeWhile isBlank ++ chars.dropWhile isBlank = chars :=
    List.takeWhile_append_dropWhile
  have hhead := List.head?_dropWhile_not isBlank chars
  unfold scan
  split
  · rename_i hdrop
    rw [hdrop, List.append_nil] at hblanks
    rw [hblanks]
    exact .finish
  · rename_i c tail hdrop
    rw [hdrop] at hblanks hhead
    cases hdigit : c.isDigit with
    | true =>
      have hrun : tail.takeWhile isInNumber ++ tail.dropWhile isInNumber = tail :=
        List.takeWhile_append_dropWhile
      have hchars : chars = (chars.takeWhile isBlank ++ (c :: tail.takeWhile isInNumber)) ++
          tail.dropWhile isInNumber := by
        rw [List.append_assoc, List.cons_append, hrun, hblanks]
      refine .lexeme hchars rfl rfl ?_
      rw [String.length_ofList, List.length_append, Nat.add_assoc]
    | false =>
      simp only [Bool.false_eq_true, if_false]
      cases hsign : TokenKind.ofSign? c with
      | some kind =>
        have hchars : chars = (chars.takeWhile isBlank ++ [c]) ++ tail := by
          rw [List.append_assoc, List.singleton_append, hblanks]
        refine .lexeme hchars (TokenKind.isEnd_of_ofSign? hsign) rfl ?_
        rw [String.length_singleton, List.length_append, List.length_singleton, Nat.add_assoc]
      | none =>
        have hblank : isBlank c = false := by simpa using hhead
        exact .stray hblanks.symm (scan_stray hblank hdigit hsign)

namespace Scanner

/-! ## Single fetches -/

/-- What a single fetch meets, and where the scanner stands after it. -/
inductive Meets (scanner : Scanner) : Except LexError Token → Scanner → Prop where
  /-- A lexeme; the scanner stands right behind it. -/
  | lexeme {token : Token} {after : Scanner} (hend : token.isEnd = false)
      (hsource : after.source = scanner.source) (hstop : (after.offset : Int) = token.stop)
      (hwithin : after.offset ≤ after.source.length) : Meets scanner (.ok token) after
  /-- The end; the scanner stands behind all characters. -/
  | finish {after : Scanner} (hafter : after = { scanner with offset := scanner.source.length })
      (hagain : after.next = (.ok (.endAt scanner.source.length), after)) :
      Meets scanner (.ok (.endAt scanner.source.length)) after
  /-- A stray character; the scanner stands in front of it. -/
  | stray {error : LexError} {after : Scanner}
      (hafter : after = { scanner with offset := error.index })
      (hwithin : after.offset ≤ after.source.length)
      (hcharacter : after.remaining.head? = some error.character)
      (hagain : after.next = (.error error, after)) : Meets scanner (.error error) after

section Next

variable {scanner after : Scanner} (hwithin : scanner.offset ≤ scanner.source.length)

include hwithin

theorem offset_add_length_remaining :
    scanner.offset + scanner.remaining.length = scanner.source.length := by
  rw [remaining, List.length_drop, String.length_toList]
  omega

/-- What is left behind the first few of the remaining characters. -/
theorem drop_of_remaining_eq {front rest : List Char} (h : scanner.remaining = front ++ rest) :
    scanner.source.toList.drop (scanner.offset + front.length) = rest ∧
      scanner.offset + front.length ≤ scanner.source.length := by
  have hlength := offset_add_length_remaining hwithin
  rw [h, List.length_append] at hlength
  refine ⟨?_, by omega⟩
  rw [← List.drop_drop]
  show scanner.remaining.drop front.length = rest
  rw [h, List.drop_left]

theorem meets_next : scanner.Meets scanner.next.1 scanner.next.2 := by
  have hmeets := scanMeets_scan scanner.offset scanner.remaining
  have hremaining := offset_add_length_remaining hwithin
  unfold next
  cases hscan : scan scanner.offset scanner.remaining with
  | token token rest =>
    rw [hscan] at hmeets
    cases hmeets with
    | lexeme hchars hend hposition hlength =>
      have hle := (drop_of_remaining_eq hwithin hchars).2
      refine .lexeme hend rfl ?_ ?_
      · show ((token.position.toNat + token.lexeme.length : Nat) : Int) = _
        rw [Token.stop, hposition, Int.toNat_natCast, Int.natCast_add]
      · show token.position.toNat + token.lexeme.length ≤ scanner.source.length
        rw [hposition, Int.toNat_natCast, hlength]
        exact hle
    | finish =>
      rw [hremaining]
      refine .finish rfl ?_
      have hnone : scanner.source.toList.drop scanner.source.length = [] := by
        rw [← String.length_toList, List.drop_length]
      show next { scanner with offset := scanner.source.length } = _
      rw [next, remaining, hnone]
      rfl
  | stray index character =>
    rw [hscan] at hmeets
    cases hmeets with
    | stray hchars hagain =>
      obtain ⟨hrest, hle⟩ := drop_of_remaining_eq hwithin hchars
      refine .stray rfl hle ?_ ?_
      · rw [remaining, hrest]
        rfl
      · rw [next, remaining, hrest, hagain]

theorem exists_meets : ∃ fetched after, scanner.next = (fetched, after) ∧
    scanner.Meets fetched after :=
  ⟨_, _, rfl, meets_next hwithin⟩

theorem meets_of_next {fetched : Except LexError Token} (hnext : scanner.next = (fetched, after)) :
    scanner.Meets fetched after := by
  have hmeets := meets_next hwithin
  rw [hnext] at hmeets
  exact hmeets

end Next

/-! ## Fetches -/

/-- `scanner.Yields amount fetched after`: single fetches yield this, one of them or as many as there
are up to an end or an error. After each token the scanner stands right behind the token's lexeme, and
after an error at the stray character. -/
inductive Yields : Scanner → Fetch → Fetched → Scanner → Prop where
  /-- One token is fetched. -/
  | one {scanner after : Scanner} {token : Token} (hnext : scanner.next = (.ok token, after))
      (hstop : (after.offset : Int) = token.stop) :
      Yields scanner .one { tokens := [token], error? := none } after
  /-- Nothing can be fetched. -/
  | stray {scanner after : Scanner} {amount : Fetch} {error : LexError}
      (hnext : scanner.next = (.error error, after)) (hindex : after.offset = error.index)
      (hcharacter : after.remaining.head? = some error.character) :
      Yields scanner amount { tokens := [], error? := some error } after
  /-- The last token is fetched. -/
  | last {scanner after : Scanner} {token : Token} (hnext : scanner.next = (.ok token, after))
      (hstop : (after.offset : Int) = token.stop) (hend : token.isEnd = true) :
      Yields scanner .all { tokens := [token], error? := none } after
  /-- A token is fetched, and then all that are left. -/
  | more {scanner after after' : Scanner} {token : Token} {fetched : Fetched}
      (hnext : scanner.next = (.ok token, after)) (hstop : (after.offset : Int) = token.stop)
      (hend : token.isEnd = false) (hrest : Yields after .all fetched after') :
      Yields scanner .all { fetched with tokens := token :: fetched.tokens } after'

section Fetch

variable {scanner after : Scanner} {token : Token}

theorem stream_of_next_end (hnext : scanner.next = (.ok token, after)) (hend : token.isEnd = true) :
    scanner.stream = .cons token .done := by
  rw [stream_eq, hnext]
  simp only [hend, if_true]

theorem stream_of_next (hnext : scanner.next = (.ok token, after)) (hend : token.isEnd = false) :
    scanner.stream = .cons token after.stream := by
  rw [stream_eq, hnext]
  simp only [hend, Bool.false_eq_true, if_false]

theorem stream_of_next_error {error : LexError} (hnext : scanner.next = (.error error, after)) :
    scanner.stream = .broken error := by
  rw [stream_eq, hnext]

theorem fetch_all_of_next_end (hnext : scanner.next = (.ok token, after))
    (hend : token.isEnd = true) :
    scanner.fetch .all =
      ({ tokens := [token], error? := none },
        { scanner with offset := scanner.source.length }) := by
  rw [fetch, drained, stream_of_next_end hnext hend]
  rfl

theorem fetch_all_of_next_error {error : LexError} (hnext : scanner.next = (.error error, after)) :
    scanner.fetch .all =
      ({ tokens := [], error? := some error }, { scanner with offset := error.index }) := by
  rw [fetch, drained, stream_of_next_error hnext]
  rfl

theorem fetch_all_of_next (hnext : scanner.next = (.ok token, after)) (hend : token.isEnd = false)
    (hsource : after.source = scanner.source) :
    scanner.fetch .all =
      ({ (after.fetch .all).1 with tokens := token :: (after.fetch .all).1.tokens },
        (after.fetch .all).2) := by
  have hdrained : scanner.drained = after.drained := by
    rw [drained, drained, stream_of_next hnext hend, hsource]
    rfl
  rw [fetch, stream_of_next hnext hend, hdrained]
  rfl

theorem yields_fetch_all (hwithin : scanner.offset ≤ scanner.source.length) :
    scanner.Yields .all (scanner.fetch .all).1 (scanner.fetch .all).2 := by
  -- Behind a lexeme, a scanner has one token less in front of it.
  induction hn : scanner.stream.length using Nat.strongRecOn generalizing scanner with
  | _ n ih =>
    subst hn
    obtain ⟨fetched, after, hnext, hmeets⟩ := exists_meets hwithin
    cases hmeets with
    | lexeme hend hsource hstop hafter =>
      rw [fetch_all_of_next hnext hend hsource]
      have hlt : after.stream.length < scanner.stream.length := by
        rw [stream_of_next hnext hend]
        exact Nat.lt_succ_self _
      exact .more hnext hstop hend (ih _ hlt hafter rfl)
    | finish hafter =>
      rw [fetch_all_of_next_end hnext rfl]
      subst hafter
      exact .last hnext (by simp [Token.stop, Token.endAt]) rfl
    | stray hafter _ hcharacter =>
      rw [fetch_all_of_next_error hnext]
      subst hafter
      exact .stray hnext rfl hcharacter

theorem yields_fetch (hwithin : scanner.offset ≤ scanner.source.length) (amount : Fetch) :
    scanner.Yields amount (scanner.fetch amount).1 (scanner.fetch amount).2 := by
  cases amount with
  | all => exact yields_fetch_all hwithin
  | one =>
    obtain ⟨fetched, after, hnext, hmeets⟩ := exists_meets hwithin
    unfold fetch
    rw [hnext]
    cases hmeets with
    | lexeme _ _ hstop => exact .one hnext hstop
    | finish hafter =>
      refine .one hnext ?_
      rw [hafter]
      simp [Token.stop, Token.endAt]
    | stray hafter _ hcharacter =>
      refine .stray hnext ?_ hcharacter
      rw [hafter]

end Fetch

/-! ## What is left in front of a scanner -/

/-- Whatever the scanner is asked for, it gives the same and stays where it is. -/
def Rests (scanner : Scanner) (fetched : Fetched) : Prop :=
  ∀ amount, scanner.fetch amount = (fetched, scanner)

section Rests

variable {scanner : Scanner} {token : Token} {error : LexError} {fetched : Fetched}

theorem rests_of_next_end (hnext : scanner.next = (.ok token, scanner)) (hend : token.isEnd = true)
    (hoffset : scanner.offset = scanner.source.length) :
    scanner.Rests { tokens := [token], error? := none } := by
  intro amount
  cases amount with
  | one => rw [fetch, hnext]
  | all => rw [fetch_all_of_next_end hnext hend, ← hoffset]

theorem rests_of_next_error (hnext : scanner.next = (.error error, scanner))
    (hindex : scanner.offset = error.index) :
    scanner.Rests { tokens := [], error? := some error } := by
  intro amount
  cases amount with
  | one => rw [fetch, hnext]
  | all => rw [fetch_all_of_next_error hnext, ← hindex]

theorem Rests.fetchEach (h : scanner.Rests fetched) (amounts : List Fetch) :
    ∀ later ∈ scanner.fetchEach amounts, later = (fetched, scanner) := by
  induction amounts with
  | nil => simp [Scanner.fetchEach]
  | cons amount rest ih =>
    rw [Scanner.fetchEach, h amount]
    exact List.forall_mem_cons.2 ⟨rfl, ih⟩

end Rests

/-- What a fetch takes from the tokens in front of the scanner, and leaves. -/
structure Leaves (scanner : Scanner) (fetched : Fetched) (after : Scanner) : Prop where
  /-- It is the same text. -/
  source_eq : after.source = scanner.source
  /-- The scanner does not leave it. -/
  within : after.offset ≤ after.source.length
  /-- The fetched lexemes were next. -/
  lexemes_eq : lexemesOf scanner.stream.tokens =
    lexemesOf fetched.tokens ++ lexemesOf after.stream.tokens
  /-- The same error is still in front of the scanner. -/
  error?_eq : after.stream.error? = scanner.stream.error?
  /-- At the end the scanner rests. -/
  of_isEnd : ∀ token ∈ fetched.tokens, token.isEnd = true →
    token = .endAt scanner.source.length ∧ after.offset = scanner.source.length ∧
      after.Rests { tokens := [token], error? := none }
  /-- At a stray character the scanner rests. -/
  of_error : ∀ error, fetched.error? = some error →
    scanner.stream.error? = some error ∧ after.offset = error.index ∧
      after.Rests { tokens := [], error? := some error }

section Leaves

variable {scanner after after' : Scanner} {token : Token} {error : LexError} {fetched : Fetched}

theorem leaves_of_next (hwithin : scanner.offset ≤ scanner.source.length)
    (hnext : scanner.next = (.ok token, after)) :
    scanner.Leaves { tokens := [token], error? := none } after := by
  cases meets_of_next hwithin hnext with
  | lexeme hend hsource _ hafter =>
    have hstream := stream_of_next hnext hend
    refine ⟨hsource, hafter, ?_, ?_, ?_, by simp⟩
    · rw [hstream]
      exact lexemesOf_append [token] after.stream.tokens
    · rw [hstream]
      rfl
    · intro token' hmem hend'
      obtain rfl := List.mem_singleton.1 hmem
      rw [hend] at hend'
      simp at hend'
  | finish hafter hagain =>
    have hstream := stream_of_next_end hnext rfl
    have hstream' := stream_of_next_end hagain rfl
    have hsource : after.source = scanner.source := by rw [hafter]
    have hoffset : after.offset = scanner.source.length := by rw [hafter]
    refine ⟨hsource, ?_, ?_, ?_, ?_, by simp⟩
    · rw [hsource, hoffset]
    · rw [hstream, hstream']
      rfl
    · rw [hstream, hstream']
    · intro token' hmem _
      obtain rfl := List.mem_singleton.1 hmem
      exact ⟨rfl, hoffset, rests_of_next_end hagain rfl (hsource ▸ hoffset)⟩

theorem leaves_of_next_error (hwithin : scanner.offset ≤ scanner.source.length)
    (hnext : scanner.next = (.error error, after)) :
    scanner.Leaves { tokens := [], error? := some error } after := by
  cases meets_of_next hwithin hnext with
  | stray hafter hle _ hagain =>
    have hstream := stream_of_next_error hnext
    have hstream' := stream_of_next_error hagain
    have hindex : after.offset = error.index := by rw [hafter]
    refine ⟨by rw [hafter], hle, ?_, ?_, by simp, ?_⟩
    · rw [hstream, hstream']
      rfl
    · rw [hstream, hstream']
    · intro error' herror
      obtain rfl := Option.some.inj herror
      exact ⟨congrArg TokenStream.error? hstream, hindex, rests_of_next_error hagain hindex⟩

/-- What is fetched behind a lexeme is left behind both. -/
theorem Leaves.more (hend : token.isEnd = false)
    (h : scanner.Leaves { tokens := [token], error? := none } after)
    (hrest : after.Leaves fetched after') :
    scanner.Leaves { fetched with tokens := token :: fetched.tokens } after' := by
  refine ⟨?_, hrest.within, ?_, ?_, ?_, ?_⟩
  · rw [hrest.source_eq, h.source_eq]
  · rw [h.lexemes_eq, hrest.lexemes_eq, ← List.append_assoc, ← lexemesOf_append]
    rfl
  · rw [hrest.error?_eq, h.error?_eq]
  · intro token' hmem hend'
    rcases List.mem_cons.1 hmem with rfl | hlater
    · rw [hend] at hend'
      simp at hend'
    · rw [← h.source_eq]
      exact hrest.of_isEnd token' hlater hend'
  · intro error herror
    rw [← h.error?_eq]
    exact hrest.of_error error herror

theorem Yields.leaves {amount : Fetch} (h : scanner.Yields amount fetched after)
    (hwithin : scanner.offset ≤ scanner.source.length) : scanner.Leaves fetched after := by
  induction h with
  | one hnext => exact leaves_of_next hwithin hnext
  | stray hnext => exact leaves_of_next_error hwithin hnext
  | last hnext => exact leaves_of_next hwithin hnext
  | more hnext _ hend _ ih =>
    have hfirst := leaves_of_next hwithin hnext
    exact hfirst.more hend (ih hfirst.within)

end Leaves

/-! ## Runs -/

/-- What a scanner gives that has a stream in front of it, in a text of the given length. -/
structure HandsOut (stream : TokenStream) (length : Nat) (run : List (Fetched × Scanner)) :
    Prop where
  /-- It gives the lexemes of the stream, from the first one on, and each of them once. -/
  lexemes : lexemesOf (run.flatMap fun done => done.1.tokens) <+: lexemesOf stream.tokens
  /-- Where an end is given, the scanner is at the end of the text. -/
  at_end : ∀ done ∈ run, ∀ token ∈ done.1.tokens, token.isEnd = true →
    token = .endAt length ∧ done.2.offset = length
  /-- Where it fails, it is at the character that breaks the stream. -/
  at_error : ∀ done ∈ run, ∀ error, done.1.error? = some error →
    stream.error? = some error ∧ done.2.offset = error.index
  /-- After an end or a failure there is nothing but the same again. -/
  repeats : run.Pairwise fun done later =>
    (∀ token ∈ done.1.tokens, token.isEnd = true →
      later = ({ tokens := [token], error? := none }, done.2)) ∧
    ∀ error, done.1.error? = some error → later = ({ tokens := [], error? := some error }, done.2)

theorem handsOut_fetchEach {scanner : Scanner} (hwithin : scanner.offset ≤ scanner.source.length)
    (amounts : List Fetch) :
    HandsOut scanner.stream scanner.source.length (scanner.fetchEach amounts) := by
  induction amounts generalizing scanner with
  | nil => exact ⟨List.nil_prefix, by simp [fetchEach], by simp [fetchEach], .nil⟩
  | cons amount rest ih =>
    have hleaves := (yields_fetch hwithin amount).leaves hwithin
    have hlater := ih hleaves.within
    rw [hleaves.source_eq] at hlater
    rw [fetchEach]
    refine ⟨?_, ?_, ?_, ?_⟩
    · rw [List.flatMap_cons, lexemesOf_append, hleaves.lexemes_eq]
      exact (List.prefix_append_right_inj _).2 hlater.lexemes
    · refine List.forall_mem_cons.2 ⟨fun token hmem hend => ?_, hlater.at_end⟩
      obtain ⟨htoken, hoffset, -⟩ := hleaves.of_isEnd token hmem hend
      exact ⟨htoken, hoffset⟩
    · refine List.forall_mem_cons.2 ⟨fun error herror => ?_, fun done hmem error herror => ?_⟩
      · obtain ⟨hstream, hindex, -⟩ := hleaves.of_error error herror
        exact ⟨hstream, hindex⟩
      · rw [← hleaves.error?_eq]
        exact hlater.at_error done hmem error herror
    · refine .cons (fun later hmem => ⟨fun token htoken hend => ?_, fun error herror => ?_⟩)
        hlater.repeats
      · exact (hleaves.of_isEnd token htoken hend).2.2.fetchEach rest later hmem
      · exact (hleaves.of_error error herror).2.2.fetchEach rest later hmem

/-- However single fetches and fetches of all are mixed, a scanner of a text gives the lexemes of the
text in their order. Behind the end it gives the end again, and behind an error nothing but the same
error. -/
theorem handsOut_of_lexes (text : String) (amounts : List Fetch) :
    ∃ stream, Lexes text 0 text.toList stream ∧
      EachStep Prod.snd (fun scanner amount done => Yields scanner amount done.1 done.2)
        { source := text } amounts (fetchEach { source := text } amounts) ∧
      HandsOut stream text.length (fetchEach { source := text } amounts) := by
  have hwithin : ({ source := text } : Scanner).offset ≤ text.length := Nat.zero_le _
  refine ⟨.ofText text, lexes_scanFrom text 0 text.toList, ?_, handsOut_fetchEach hwithin amounts⟩
  have hstep : ∀ amount ∈ amounts, ∀ scanner : Scanner, scanner.offset ≤ scanner.source.length →
      scanner.Yields amount (scanner.fetch amount).1 (scanner.fetch amount).2 ∧
        (scanner.fetch amount).2.offset ≤ (scanner.fetch amount).2.source.length := by
    intro amount _ scanner hscanner
    have hyields := yields_fetch hscanner amount
    exact ⟨hyields, (hyields.leaves hscanner).within⟩
  exact EachStep.of_invariant (fun _ => rfl) (fun _ _ _ => rfl) hstep hwithin

end Scanner

end ExprCompiler
