import ExprCompiler.Proofs.Expr.Likeness
import ExprCompiler.Proofs.Expr.Refusal

/-!
# What could stand in place of a misplaced token

The kinds that an error lists as expected are those that the grammar admits at its place, except
that behind an operand in brackets only the closing bracket is listed, and no sign
(`Expr.expected_of_ofText`). A list of tokens that goes on so is accepted exactly if the shortest
one is (`wayOn`), since a longer one has no shallower tree (`Derives.exists_shortest`).
-/

namespace ExprCompiler

open Place

/-- Some tokens that start with `before` and a token of this kind describe an expression. -/
def CanFollow (before : List Token) (kind : TokenKind) : Prop :=
  ∃ token rest source tree, token.kind = kind ∧
    Expr.ofTokens (before ++ token :: rest) source = .ok tree

/-- The shortest way to the end of a sentence with a token of this kind first, where some brackets
are open. -/
def wayOn (opened : Nat) : TokenKind → List Token
  | .exprEnd => []
  | .number => TokenKind.number.sample :: closings opened
  | .bracketOpen =>
    TokenKind.bracketOpen.sample :: TokenKind.number.sample :: closings (opened + 1)
  | .bracketClose => TokenKind.bracketClose.sample :: closings (opened - 1)
  | sign => sign.sample :: TokenKind.number.sample :: closings opened

/-- The shortest tokens that could be a sentence with `before` and a token of this kind in front. -/
def shortestWith (before : List Token) (kind : TokenKind) : List Token :=
  before ++ wayOn (bracketBalance before).toNat kind

namespace Place

/-- The place one bracket further in. -/
def raise : Place → Place
  | beforeOperand n => beforeOperand (n + 1)
  | afterOperand n => afterOperand (n + 1)

/-- A token of this kind can stand at the place, where the end can if the sentence is complete. -/
def Admits (place : Place) (kind : TokenKind) : Prop :=
  (kind = .exprEnd ∧ place = afterOperand 0) ∨ ∃ place', place.next? kind = some place'

variable {place place' : Place} {kind : TokenKind} {kinds : List TokenKind}

theorem next?_raise (h : place.next? kind = some place') :
    place.raise.next? kind = some place'.raise := by
  rcases next?_eq_some h with ⟨n, rfl, rfl, rfl⟩ | ⟨n, rfl, rfl, rfl⟩ |
    ⟨n, rule, op, rfl, hsign, rfl⟩ | ⟨n, rfl, rfl, rfl⟩
  · rfl
  · rfl
  · exact next?_of_joins hsign (n + 1)
  · rfl

theorem after?_raise (h : place.after? kinds = some place') :
    place.raise.after? kinds = some place'.raise := by
  induction kinds generalizing place with
  | nil =>
    obtain rfl := Option.some.inj h
    rfl
  | cons kind rest ih =>
    rw [after?_cons, Option.bind_eq_some_iff] at h
    obtain ⟨middle, hnext, hrest⟩ := h
    rw [after?_cons, next?_raise hnext, Option.bind_some, ih hrest]

theorem ending_raise (place : Place) :
    place.raise.ending = place.ending ++ [TokenKind.bracketClose.sample] := by
  cases place <;> simp only [raise, ending, closings, List.replicate_succ', List.cons_append]

end Place

/-! ## The shortest way is the shallowest -/

/-- `Shortens rule tokens tree front`: the tokens of `front` lead to a place from which the shortest
way on completes a part of the rule, and neither its operations nor its brackets nest deeper than
those of `tokens` with their tree. -/
def Shortens (rule : Rule) (tokens : List Token) (tree : Expr) (front : List Token) : Prop :=
  ∃ place short, start.after? (front.map Token.kind) = some place ∧
    Derives rule (front ++ place.ending) short ∧ short.depth ≤ tree.depth ∧
    ∀ opened, bracketNesting opened (front ++ place.ending) ≤ bracketNesting opened tokens

namespace Shortens

variable {rule operand : Rule} {tokens left right front : List Token} {tree a b : Expr}

/-- Nothing is completed by an operand. -/
theorem nil (rule : Rule) (tokens : List Token) (tree : Expr) : Shortens rule tokens tree [] := by
  refine ⟨start, .number TokenKind.number.sample.lexeme, rfl, ?_, Nat.zero_le _, ?_⟩
  · exact (Derives.number rfl).of_factor rule
  · exact fun opened => le_bracketNesting opened tokens

theorem whole (h : Derives rule tokens tree) : Shortens rule tokens tree tokens := by
  have hnone : tokens ++ (afterOperand 0).ending = tokens := List.append_nil tokens
  refine ⟨afterOperand 0, tree, h.after?_eq 0, ?_, Nat.le_refl _, fun opened => ?_⟩
  · rwa [hnone]
  · exact Nat.le_of_eq (congrArg (bracketNesting opened) hnone)

/-- In brackets, the completion closes one bracket more. -/
theorem brackets {opening closing : Token} (hopening : opening.kind = .bracketOpen)
    (htokens : Derives .expr tokens tree) (hclosing : closing.kind = .bracketClose)
    (h : Shortens .expr tokens tree front) :
    Shortens .factor (opening :: (tokens ++ [closing])) tree (opening :: front) := by
  obtain ⟨place, short, hafter, hshort, hdepth, hnesting⟩ := h
  refine ⟨place.raise, short, ?_, ?_, hdepth, fun opened => ?_⟩
  · rw [List.map_cons, after?_cons, hopening]
    exact after?_raise hafter
  · rw [ending_raise, List.cons_append, ← List.append_assoc]
    exact .brackets hopening hshort rfl
  · rw [ending_raise, List.cons_append, ← List.append_assoc,
      hshort.bracketNesting_brackets hopening rfl, htokens.bracketNesting_brackets hopening hclosing]
    exact hnesting (opened + 1)

theorem single (hrule : rule.ChainOf operand) (h : Shortens operand tokens tree front) :
    Shortens rule tokens tree front := by
  obtain ⟨place, short, hafter, hshort, hlimits⟩ := h
  exact ⟨place, short, hafter, .single hrule hshort, hlimits⟩

variable {sign : Token} {op : BinaryOp}

theorem chain_left (hleft : Derives rule left a) (hsign : rule.Joins sign.kind op)
    (h : Shortens rule left a front) :
    Shortens rule (left ++ sign :: right) (.binary op a b) front := by
  obtain ⟨place, short, hafter, hshort, hdepth, hnesting⟩ := h
  refine ⟨place, short, hafter, hshort, ?_, fun opened => ?_⟩
  · rw [Expr.depth]
    omega
  · rw [hleft.bracketNesting_chain hsign]
    exact Nat.le_trans (hnesting opened) (Nat.le_max_left _ _)

theorem chain_right (hrule : rule.ChainOf operand) (hleft : Derives rule left a)
    (hsign : rule.Joins sign.kind op) (h : Shortens operand right b front) :
    Shortens rule (left ++ sign :: right) (.binary op a b) (left ++ sign :: front) := by
  obtain ⟨place, short, hafter, hshort, hdepth, hnesting⟩ := h
  refine ⟨place, .binary op a short, ?_, ?_, ?_, fun opened => ?_⟩
  · have hplace : start.after? (left.map Token.kind) = some (afterOperand 0) := hleft.after?_eq 0
    rw [List.map_append, after?_append_of_eq hplace, List.map_cons, after?_cons,
      next?_of_joins hsign, Option.bind_some]
    exact hafter
  · rw [List.append_assoc, List.cons_append]
    exact .chain hrule hleft hsign hshort
  · simp only [Expr.depth]
    omega
  · rw [List.append_assoc, List.cons_append, hleft.bracketNesting_chain hsign,
      hleft.bracketNesting_chain hsign]
    have hle := hnesting opened
    omega

end Shortens

/-- Tokens of a part of an expression, cut anywhere, are completed by the shortest way from there to
a part whose operations and brackets nest no deeper. -/
theorem Derives.exists_shortest {rule : Rule} {tokens : List Token} {tree : Expr}
    (h : Derives rule tokens tree) :
    ∀ {front back : List Token}, tokens = front ++ back → Shortens rule tokens tree front := by
  induction h with
  | @number token hkind =>
    intro front back hsplit
    cases front with
    | nil => exact .nil _ _ _
    | cons first front =>
      obtain ⟨rfl, hnil⟩ := List.cons.inj hsplit
      obtain ⟨rfl, -⟩ := List.append_eq_nil_iff.1 hnil.symm
      exact .whole (.number hkind)
  | @brackets opening closing inner tree hopening hinner hclosing ih =>
    intro front back hsplit
    cases front with
    | nil => exact .nil _ _ _
    | cons first front =>
      obtain ⟨rfl, hrest⟩ := List.cons.inj hsplit
      -- The cut is in front of the closing bracket, behind it, or further in.
      rcases List.append_eq_append_iff.1 hrest with ⟨middle, rfl, hlast⟩ | ⟨middle, hin, -⟩
      · cases middle with
        | nil =>
          rw [List.append_nil]
          exact .brackets hopening hinner hclosing (.whole hinner)
        | cons last middle =>
          obtain ⟨rfl, hnil⟩ := List.cons.inj hlast
          obtain ⟨rfl, -⟩ := List.append_eq_nil_iff.1 hnil.symm
          exact .whole (.brackets hopening hinner hclosing)
      · exact .brackets hopening hinner hclosing (ih hin)
  | single hrule _ ih => exact fun hsplit => .single hrule (ih hsplit)
  | @chain rule operand left right sign op a b hrule hleft hsign hright ihleft ihright =>
    intro front back hsplit
    rcases List.append_eq_append_iff.1 hsplit with ⟨middle, rfl, hlast⟩ | ⟨middle, hin, -⟩
    · cases middle with
      | nil =>
        rw [List.append_nil]
        exact .chain_left hleft hsign (.whole hleft)
      | cons first middle =>
        obtain ⟨rfl, hin⟩ := List.cons.inj hlast
        exact .chain_right hrule hleft hsign (ihright hin)
    · exact .chain_left hleft hsign (ihleft hin)

/-! ## Ways on from a place -/

section WayOn

variable {before : List Token} {place place' : Place} {kind : TokenKind}

/-- The shortest way on leads over the next place. -/
theorem wayOn_eq (h : place.next? kind = some place') :
    wayOn place.opened kind = kind.sample :: place'.ending := by
  rcases next?_eq_some h with ⟨n, rfl, rfl, rfl⟩ | ⟨n, rfl, rfl, rfl⟩ |
    ⟨n, rule, op, rfl, hsign, rfl⟩ | ⟨n, rfl, rfl, rfl⟩
  · rfl
  · rfl
  · cases hsign <;> rfl
  · rfl

theorem wayOn_eq_cons (opened : Nat) (hkind : kind ≠ .exprEnd) :
    ∃ rest, wayOn opened kind = kind.sample :: rest := by
  cases kind with
  | exprEnd => exact absurd rfl hkind
  | _ => exact ⟨_, rfl⟩

/-- Behind tokens that lead to a place, a kind completes them to a sentence exactly if the place
admits it. -/
theorem exists_derives_wayOn_iff (h : start.after? (before.map Token.kind) = some place) :
    (∃ tree, Derives .expr (before ++ wayOn place.opened kind) tree) ↔ place.Admits kind := by
  rw [exists_derives_iff, List.map_append, after?_append_of_eq h]
  constructor
  · intro hway
    by_cases hkind : kind = .exprEnd
    · subst hkind
      exact .inl ⟨rfl, Option.some.inj hway⟩
    · obtain ⟨rest, hrest⟩ := wayOn_eq_cons place.opened hkind
      rw [hrest, List.map_cons, after?_cons, Option.bind_eq_some_iff] at hway
      obtain ⟨place', hnext, -⟩ := hway
      exact .inr ⟨place', hnext⟩
  · rintro (⟨rfl, rfl⟩ | ⟨place', hnext⟩)
    · rfl
    · rw [wayOn_eq hnext, List.map_cons, after?_cons]
      change (place.next? kind).bind _ = _
      rw [hnext, Option.bind_some, place'.after?_ending]

/-- A way on consists of sample tokens, of which no number has a point. -/
theorem wellPointed_wayOn (opened : Nat) (kind : TokenKind) : WellPointed (wayOn opened kind) := by
  have hsample : ∀ kind : TokenKind, kind.sample.lexeme.toList.count '.' ≤ 1 := by
    intro kind
    cases kind <;> decide
  have hclosings : ∀ n, WellPointed (closings n) := by
    intro n token hmem _
    rw [List.eq_of_mem_replicate hmem]
    exact hsample _
  have hcons : ∀ {kind : TokenKind} {rest : List Token}, WellPointed rest →
      WellPointed (kind.sample :: rest) :=
    fun hrest => List.forall_mem_cons.2 ⟨fun _ => hsample _, hrest⟩
  cases kind with
  | exprEnd => simp [wayOn, WellPointed]
  | number => exact hcons (hclosings _)
  | bracketClose => exact hcons (hclosings _)
  | _ => exact hcons (hcons (hclosings _))

/-- Tokens that lead to a place hold no end. -/
theorem isEnd_eq_false_of_after? (h : start.after? (before.map Token.kind) = some place) :
    ∀ token ∈ before, token.isEnd = false := by
  have hwhole : start.after? ((before ++ place.ending).map Token.kind) = some (afterOperand 0) := by
    rw [List.map_append, after?_append_of_eq h, place.after?_ending]
  obtain ⟨tree, htree⟩ := exists_derives_iff.2 hwhole
  exact fun token hmem => htree.isEnd_eq_false token (List.mem_append_left _ hmem)

/-- If a sentence goes on from the place with a token, the shortest way on with such a token leads
to one that is no deeper. -/
theorem exists_shortest_wayOn {token : Token} {rest : List Token} {tree : Expr}
    (h : start.after? (before.map Token.kind) = some place)
    (htree : Derives .expr (before ++ token :: rest) tree) :
    ∃ short, Derives .expr (before ++ wayOn place.opened token.kind) short ∧
      short.depth ≤ tree.depth ∧
      bracketNesting 0 (before ++ wayOn place.opened token.kind) ≤
        bracketNesting 0 (before ++ token :: rest) := by
  have hrun : start.after? ((before ++ token :: rest).map Token.kind) = some (afterOperand 0) :=
    htree.after?_eq 0
  rw [List.map_append, after?_append_of_eq h, List.map_cons, after?_cons,
    Option.bind_eq_some_iff] at hrun
  obtain ⟨place', hnext, -⟩ := hrun
  by_cases hkind : token.kind = .number
  · -- The way on replaces the number, so it starts in front of it.
    obtain ⟨place'', short, hafter, hshort, hdepth, hnesting⟩ := htree.exists_shortest rfl
    obtain rfl := Option.some.inj (h.symm.trans hafter)
    rw [hkind] at hnext ⊢
    have hway : wayOn place.opened .number = place.ending := by
      cases place with
      | beforeOperand n => rfl
      | afterOperand n => simp [next?] at hnext
    rw [hway]
    exact ⟨short, hshort, hdepth, hnesting 0⟩
  · have hsplit : before ++ token :: rest = (before ++ [token]) ++ rest := by
      rw [List.append_assoc, List.singleton_append]
    obtain ⟨place'', short, hafter, hshort, hdepth, hnesting⟩ := htree.exists_shortest hsplit
    have hplace' : start.after? ((before ++ [token]).map Token.kind) = some place' := by
      rw [List.map_append, after?_append_of_eq h, List.map_singleton, after?_cons, hnext]
      rfl
    obtain rfl := Option.some.inj (hplace'.symm.trans hafter)
    have hmeaning : (before ++ wayOn place.opened token.kind).map Token.meaning =
        (before ++ [token] ++ place'.ending).map Token.meaning := by
      have hsample : token.kind.sample.meaning = token.meaning :=
        Token.meaning_eq_of_kind rfl hkind
      rw [wayOn_eq hnext, List.append_assoc, List.singleton_append, List.map_append,
        List.map_append, List.map_cons, List.map_cons, hsample]
    refine ⟨short, hshort.of_meaning hmeaning, hdepth, ?_⟩
    rw [bracketNesting_of_kinds 0 (map_kind_of_meaning hmeaning)]
    exact hnesting 0

/-- A kind can follow exactly if the shortest way on with it is a sentence that keeps the limits. -/
theorem canFollow_iff (h : start.after? (before.map Token.kind) = some place)
    (hpoints : WellPointed before) :
    CanFollow before kind ↔ ∃ tree, Derives .expr (before ++ wayOn place.opened kind) tree ∧
      bracketNesting 0 (before ++ wayOn place.opened kind) ≤ maxBracketDepth ∧
      tree.depth ≤ maxOperationDepth := by
  have hends := isEnd_eq_false_of_after? h
  constructor
  · rintro ⟨token, rest, source, tree, rfl, htokens⟩
    have hsentence := Expr.sentence_of_ofTokens htokens
    by_cases hend : token.isEnd = true
    · rw [untilEnd_append_end rest hends hend] at hsentence
      have hway : wayOn place.opened token.kind = [] := by
        rw [beq_iff_eq.1 hend]
        rfl
      rw [hway, List.append_nil]
      exact ⟨tree, hsentence.derives, hsentence.brackets, hsentence.operations⟩
    · rw [untilEnd_append hends, untilEnd_cons (by simpa using hend)] at hsentence
      obtain ⟨short, hshort, hdepth, hnesting⟩ := exists_shortest_wayOn h hsentence.derives
      exact ⟨short, hshort, Nat.le_trans hnesting hsentence.brackets,
        Nat.le_trans hdepth hsentence.operations⟩
  · rintro ⟨tree, htree, hbrackets, hoperations⟩
    have hsentence : Sentence .expr 0 (before ++ wayOn place.opened kind) tree :=
      ⟨⟨List.forall_mem_append.2 ⟨hpoints, wellPointed_wayOn _ _⟩, hbrackets, hoperations⟩, htree⟩
    by_cases hkind : kind = .exprEnd
    · subst hkind
      rw [wayOn, List.append_nil] at hsentence
      refine ⟨TokenKind.exprEnd.sample, [], none, tree, rfl, Expr.ofTokens_of_sentence ?_⟩
      rwa [untilEnd_append_end [] hends rfl]
    · obtain ⟨rest, hrest⟩ := wayOn_eq_cons place.opened hkind
      rw [hrest] at hsentence
      refine ⟨kind.sample, rest, none, tree, rfl, Expr.ofTokens_of_sentence ?_⟩
      rwa [untilEnd_eq_self hsentence.derives.isEnd_eq_false]

end WayOn

/-! ## What is listed -/

/-- An error lists what its place admits, except that behind an operand in brackets, where only the
closing bracket is listed, signs are admitted too. -/
theorem Place.Refuses.admits_iff {place : Place} {error : ParseError}
    (h : place.Refuses error.fault error.found.kind) (kind : TokenKind) :
    place.Admits kind ↔ kind ∈ error.expected ∨
      (error.expected = [.bracketClose] ∧ kind ∈ [.plus, .minus, .star, .slash]) := by
  obtain ⟨fault, ⟨found, lexeme, position⟩, source⟩ := error
  cases h <;> cases kind <;> simp [Admits, next?, ParseError.expected]

namespace Expr

/-- An error of the grammar in a text is one in its tokens. -/
theorem exists_tokens_of_ofText {code : String} {error : ParseError}
    (h : ofText code = .error (.grammatical error)) :
    ∃ tokens, tokensOf code = .ok tokens ∧
      ofTokens tokens (some code) = .error (.grammatical error) := by
  unfold ofText at h
  split at h
  · simp at h
  · exact ⟨_, ‹_›, h⟩

/-- When a token is refused as misplaced, the kinds that the error lists are those with which the
tokens before it can go on to a sentence of the grammar, except that behind an operand in brackets,
where only the closing bracket is listed, signs can go on too. Some tokens that go on with such a
kind describe an expression exactly if the shortest ones keep the limits. -/
theorem expected_of_ofText {code : String} {error : ParseError}
    (h : ofText code = .error (.grammatical error))
    (hkind : error.kind ∈ [.unexpectedToken, .emptyFactor, .unclosedParenthesis]) :
    ∃ tokens before, tokensOf code = .ok tokens ∧ RefusedAfter tokens (some code) before error ∧
      ∀ kind,
        ((kind ∈ error.expected ∨
            (error.expected = [.bracketClose] ∧ kind ∈ [.plus, .minus, .star, .slash])) ↔
          ∃ tree, Derives .expr (shortestWith before kind) tree) ∧
        (CanFollow before kind ↔ ∃ tree, Derives .expr (shortestWith before kind) tree ∧
          bracketNesting 0 (shortestWith before kind) ≤ 100 ∧ tree.depth ≤ 180) := by
  obtain ⟨tokens, htokens, hrefused⟩ := exists_tokens_of_ofText h
  obtain ⟨before, place, hbefore, hpoints, hplace, hrefuses⟩ := exists_refusal hrefused hkind
  have hopened : (bracketBalance before).toNat = place.opened := by
    have hopened := opened_of_after? hplace
    simp only [start, Place.opened] at hopened ⊢
    omega
  refine ⟨tokens, before, htokens, hbefore, fun kind => ?_⟩
  rw [shortestWith, hopened]
  exact ⟨(hrefuses.admits_iff kind).symm.trans (exists_derives_wayOn_iff hplace).symm,
    canFollow_iff hplace hpoints⟩

theorem expected_of_ofText_star :
    ofText "(1+*" = .error (.grammatical
        { fault := .missingOperand, found := ⟨.star, "*", 3⟩, source := some "(1+*" }) ∧
    ∃ tokens before, tokensOf "(1+*" = .ok tokens ∧ RefusedAfter tokens (some "(1+*") before
        { fault := .missingOperand, found := ⟨.star, "*", 3⟩, source := some "(1+*" } ∧
      (∃ tree, Derives .expr (shortestWith before .number) tree) ∧
      ¬ ∃ tree, Derives .expr (shortestWith before .bracketClose) tree := by
  have h : ofText "(1+*" = .error (.grammatical
      { fault := .missingOperand, found := ⟨.star, "*", 3⟩, source := some "(1+*" }) := by cbv
  obtain ⟨tokens, before, htokens, hrefused, hexpected⟩ := expected_of_ofText h (by decide)
  refine ⟨h, tokens, before, htokens, hrefused, (hexpected .number).1.1 (by decide), ?_⟩
  exact fun hderives => absurd ((hexpected .bracketClose).1.2 hderives) (by decide)

/-- In the brackets of `(1+2`, a sign could follow, but only the closing bracket is listed. -/
theorem sign_can_follow_unlisted :
    ∃ tokens before error, tokensOf "(1+2" = .ok tokens ∧
      ofText "(1+2" = .error (.grammatical error) ∧ error.kind = .unclosedParenthesis ∧
      RefusedAfter tokens (some "(1+2") before error ∧ .plus ∉ error.expected ∧
      CanFollow before .plus := by
  let before : List Token :=
    [{ kind := .bracketOpen, lexeme := "(", position := 0 },
     { kind := .number, lexeme := "1", position := 1 },
     { kind := .plus, lexeme := "+", position := 2 },
     { kind := .number, lexeme := "2", position := 3 }]
  let error : ParseError :=
    { fault := .unclosedBracket, found := .endAt 4, source := some "(1+2" }
  have hrefused : RefusedAfter (before ++ [.endAt 4]) (some "(1+2") before error := by
    let q : TokenReader :=
      { current := .endAt 4, stream := .done, bracketDepth := 1, source := some "(1+2" }
    exact ⟨_, q, rfl, by cbv, rfl, rfl⟩
  have hfollow : CanFollow before .plus :=
    ⟨TokenKind.plus.sample, [TokenKind.number.sample, TokenKind.bracketClose.sample], none,
      .binary .add (.binary .add (.number "1") (.number "2")) (.number "1"), rfl, by cbv⟩
  exact ⟨_, before, error, by cbv, by cbv, rfl, hrefused, by decide, hfollow⟩

set_option maxRecDepth 4000 in
/-- Behind 100 open brackets, an opening bracket is listed, but cannot follow. -/
theorem bracket_cannot_follow_listed :
    ∃ tokens before error, ofTokens tokens none = .error (.grammatical error) ∧
      error.kind = .unexpectedToken ∧ RefusedAfter tokens none before error ∧
      .bracketOpen ∈ error.expected ∧ ¬ CanFollow before .bracketOpen := by
  let before := List.replicate 100 TokenKind.bracketOpen.sample
  let found := TokenKind.star.sample
  let error : ParseError := { fault := .missingOperand, found, source := none }
  have hrefused : RefusedAfter (before ++ [found]) none before error := by
    let q : TokenReader :=
      { current := found, stream := .done, bracketDepth := 100, source := none }
    exact ⟨_, q, rfl, by cbv, rfl, rfl⟩
  have hplace : start.after? (before.map Token.kind) = some (beforeOperand 100) := by
    decide +kernel
  have hpoints : WellPointed before := by
    intro token hmem _
    rw [List.eq_of_mem_replicate hmem]
    decide
  have hnesting : maxBracketDepth < bracketNesting 0 (before ++ wayOn 100 .bracketOpen) := by
    decide +kernel
  refine ⟨_, before, error, hrefused.ofTokens_eq, rfl, hrefused, by decide, fun hfollow => ?_⟩
  obtain ⟨tree, -, hlimit, -⟩ := (canFollow_iff hplace hpoints).1 hfollow
  exact Nat.not_le.2 hnesting hlimit

end Expr

end ExprCompiler
