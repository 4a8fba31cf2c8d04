import ExprCompiler.Expr.Reading

/-!
# What a step of a reader does

`Awaits` is what is known of a reader that was given a list of tokens: the tokens that it still has
to read and the brackets that it is in. There is one lemma for each step that says how the step
succeeds, and one that says what holds after it if it does; `Ensures` is the form of the latter,
and also says that a step fails by a rule of the grammar only. `Settles` says besides what holds of
the broken rule, and `Fails` that there is one.
-/

namespace ExprCompiler

/-- The tokens before the first end. -/
def untilEnd (tokens : List Token) : List Token :=
  tokens.takeWhile fun token => !token.isEnd

theorem untilEnd_cons {token : Token} (h : token.isEnd = false) (rest : List Token) :
    untilEnd (token :: rest) = token :: untilEnd rest := by
  rw [untilEnd, List.takeWhile_cons, if_pos (by simp [h])]
  rfl

theorem untilEnd_cons_end {token : Token} (h : token.isEnd = true) (rest : List Token) :
    untilEnd (token :: rest) = [] := by
  rw [untilEnd, List.takeWhile_cons, if_neg (by simp [h])]

/-- Tokens without an end all stand before the first end. -/
theorem untilEnd_append {tokens : List Token} (h : ∀ token ∈ tokens, token.isEnd = false)
    (rest : List Token) : untilEnd (tokens ++ rest) = tokens ++ untilEnd rest :=
  List.takeWhile_append_of_pos (by simpa using h)

theorem untilEnd_append_end {tokens : List Token} {ending : Token} (rest : List Token)
    (htokens : ∀ token ∈ tokens, token.isEnd = false) (hending : ending.isEnd = true) :
    untilEnd (tokens ++ ending :: rest) = tokens := by
  rw [untilEnd_append htokens, untilEnd_cons_end hending, List.append_nil]

theorem untilEnd_eq_self {tokens : List Token} (h : ∀ token ∈ tokens, token.isEnd = false) :
    untilEnd tokens = tokens := by
  have happend := untilEnd_append h []
  rw [List.append_nil] at happend
  exact happend.trans (List.append_nil tokens)

/-- What stands at the front of the tokens before the first end stands at the front of the list. -/
theorem exists_append_of_untilEnd {tokens front rest : List Token}
    (h : untilEnd tokens = front ++ rest) :
    ∃ after, tokens = front ++ after ∧ untilEnd after = rest := by
  obtain ⟨after, rfl⟩ : front <+: tokens :=
    (List.prefix_append front rest).trans (h ▸ List.takeWhile_prefix _)
  have hends : ∀ token ∈ untilEnd (front ++ after), !token.isEnd :=
    List.all_eq_true.1 List.all_takeWhile
  have hfront : ∀ token ∈ front, token.isEnd = false := by
    intro token hmem
    simpa using hends token (h ▸ List.mem_append_left rest hmem)
  rw [untilEnd_append hfront] at h
  exact ⟨after, rfl, List.append_cancel_left h⟩

namespace TokenReader

/-- A reader whose next tokens, up to an end token or the end of an unbroken stream, are `tokens`,
and that is inside of `depth` brackets. -/
structure Awaits (p : TokenReader) (depth : Nat) (tokens : List Token) : Prop where
  /-- No fetch will fail. -/
  unbroken : p.stream.error? = none
  /-- The tokens before the first end. -/
  upcoming : untilEnd (p.current :: p.stream.tokens) = tokens
  /-- The brackets that are open. -/
  opened : p.bracketDepth = depth

/-- A step's outcome has the property `post`, if it has a result, and else breaks a rule of the
grammar with the property `blame`. -/
def Settles {α : Type} (post : α → TokenReader → Prop) (blame : ParseError → TokenReader → Prop) :
    EStateM.Result ParseFailure TokenReader α → Prop
  | .ok a q => post a q
  | .error failure q => ∃ error, failure = .grammatical error ∧ blame error q

/-- A step's outcome has the property `post`, if it has a result, and else is a broken rule of the
grammar. -/
def Ensures {α : Type} (post : α → TokenReader → Prop) :
    EStateM.Result ParseFailure TokenReader α → Prop
  | .ok a q => post a q
  | .error failure _ => ∃ error, failure = .grammatical error

/-- A step has no result, and the rule of the grammar that it breaks has the property `blame`. -/
def Fails {α : Type} (blame : ParseError → Prop) :
    EStateM.Result ParseFailure TokenReader α → Prop :=
  Settles (fun _ _ => False) fun error _ => blame error

/-! ## Steps in a row -/

section Bind

variable {α β : Type} {x : Parse α} {f : α → Parse β} {p q : TokenReader} {a : α}

theorem bind_of_ok (h : x p = .ok a q) : (x >>= f) p = f a q := by
  change EStateM.bind x f p = _
  simp only [EStateM.bind, h]

theorem bind_of_error {failure : ParseFailure} (h : x p = .error failure q) :
    (x >>= f) p = .error failure q := by
  change EStateM.bind x f p = _
  simp only [EStateM.bind, h]

section Settles

variable {post : α → TokenReader → Prop} {post' : β → TokenReader → Prop}
  {blame blame' : ParseError → TokenReader → Prop}
  {outcome : EStateM.Result ParseFailure TokenReader α}

/-- The second step starts with what the first settles. -/
theorem Settles.bind (hx : Settles post blame (x p))
    (hf : ∀ a q, post a q → Settles post' blame (f a q)) : Settles post' blame ((x >>= f) p) := by
  cases hres : x p with
  | ok a q =>
    rw [hres] at hx
    rw [bind_of_ok hres]
    exact hf a q hx
  | error failure q =>
    rw [hres] at hx
    rw [bind_of_error hres]
    exact hx

theorem Settles.mono {post' : α → TokenReader → Prop} (h : Settles post blame outcome)
    (hpost : ∀ a q, post a q → post' a q) (hblame : ∀ error q, blame error q → blame' error q) :
    Settles post' blame' outcome := by
  cases outcome with
  | ok a q => exact hpost a q h
  | error failure q =>
    obtain ⟨error, hfailure, herror⟩ := h
    exact ⟨error, hfailure, hblame error q herror⟩

theorem Settles.mono_blame (h : Settles post blame outcome)
    (hblame : ∀ error q, blame error q → blame' error q) : Settles post blame' outcome :=
  h.mono (fun _ _ hpost => hpost) hblame

theorem settles_fail {fault : ParseFault} {found : Token}
    (h : blame { fault, found, source := p.source } p) :
    Settles post blame (fail fault found p) :=
  ⟨_, rfl, h⟩

theorem ensures_iff_settles : Ensures post outcome ↔ Settles post (fun _ _ => True) outcome := by
  cases outcome <;> simp only [Ensures, Settles, and_true]

/-- The second step starts with what the first ensures. -/
theorem Ensures.bind (hx : Ensures post (x p)) (hf : ∀ a q, post a q → Ensures post' (f a q)) :
    Ensures post' ((x >>= f) p) :=
  ensures_iff_settles.2
    ((ensures_iff_settles.1 hx).bind fun a q h => ensures_iff_settles.1 (hf a q h))

theorem Ensures.mono {post' : α → TokenReader → Prop} (h : Ensures post outcome)
    (himp : ∀ a q, post a q → post' a q) : Ensures post' outcome :=
  ensures_iff_settles.2 ((ensures_iff_settles.1 h).mono himp fun _ _ h => h)

theorem ensures_fail (fault : ParseFault) (found : Token) (p : TokenReader) :
    Ensures post (fail fault found p) :=
  ⟨_, rfl⟩

end Settles

theorem Fails.bind {blame : ParseError → Prop} (h : Fails blame (x p)) :
    Fails blame ((x >>= f) p) :=
  Settles.bind h fun _ _ hfalse => hfalse.elim

theorem fails_fail {blame : ParseError → Prop} {fault : ParseFault} {found : Token}
    (h : blame { fault, found, source := p.source }) :
    Fails blame (fail fault found p : EStateM.Result ParseFailure TokenReader α) :=
  settles_fail h

end Bind

/-! ## What a reader awaits -/

section Steps

variable {p : TokenReader} {depth : Nat} {token : Token} {tokens rest : List Token}

theorem Awaits.isEnd_current_eq_false (h : p.Awaits depth (token :: rest)) :
    p.current.isEnd = false := by
  cases hend : p.current.isEnd with
  | false => rfl
  | true =>
    have hupcoming := h.upcoming
    rw [untilEnd_cons_end hend] at hupcoming
    simp at hupcoming

theorem Awaits.current_eq (h : p.Awaits depth (token :: rest)) : p.current = token := by
  have hupcoming := h.upcoming
  rw [untilEnd_cons h.isEnd_current_eq_false] at hupcoming
  exact (List.cons.inj hupcoming).1

theorem Awaits.isEnd_eq_false (h : p.Awaits depth (token :: rest)) : token.isEnd = false :=
  h.current_eq ▸ h.isEnd_current_eq_false

/-- A reader that does not look at an end awaits the token it looks at. -/
theorem Awaits.eq_cons (h : p.Awaits depth tokens) (hend : p.current.isEnd = false) :
    ∃ rest, tokens = p.current :: rest := by
  refine ⟨untilEnd p.stream.tokens, ?_⟩
  rw [← h.upcoming, untilEnd_cons hend]

theorem Awaits.isEnd_current (h : p.Awaits depth []) : p.current.isEnd = true := by
  cases hend : p.current.isEnd with
  | true => rfl
  | false =>
    obtain ⟨rest, hrest⟩ := h.eq_cons hend
    simp at hrest

theorem Awaits.eq_nil (h : p.Awaits depth tokens) (hend : p.current.isEnd = true) :
    tokens = [] := by
  rw [← h.upcoming, untilEnd_cons_end hend]

theorem Awaits.eq_cons_of_kind {kind : TokenKind} (h : p.Awaits depth tokens)
    (hkind : p.current.kind = kind) (hend : kind ≠ .exprEnd) :
    ∃ rest, tokens = p.current :: rest := by
  refine h.eq_cons ?_
  simp [Token.isEnd, hkind, hend]

theorem tokens_ofList (tokens : List Token) :
    (TokenStream.ofList tokens).tokens = tokens ∧ (TokenStream.ofList tokens).error? = none := by
  induction tokens with
  | nil => exact ⟨rfl, rfl⟩
  | cons token rest ih =>
    exact ⟨congrArg (List.cons token) ih.1, ih.2⟩

/-- What is fetched from an unbroken stream is its first token, or an end. -/
theorem fetch_unbroken {stream : TokenStream} (source : Option String)
    (h : stream.error? = none) :
    ∃ current rest, fetch source stream = .ok (current, rest) ∧ rest.error? = none ∧
      untilEnd (current :: rest.tokens) = untilEnd stream.tokens := by
  cases stream with
  | done => exact ⟨_, _, rfl, rfl, rfl⟩
  | broken error => simp [TokenStream.error?] at h
  | cons token rest => exact ⟨token, rest, rfl, h, rfl⟩

/-- A reader of a list of tokens starts with the tokens before the first end. -/
theorem start_ofList (tokens : List Token) (source : Option String) :
    ∃ p, start (.ofList tokens) source = .ok p ∧ p.Awaits 0 (untilEnd tokens) := by
  obtain ⟨htokens, herror⟩ := tokens_ofList tokens
  obtain ⟨current, rest, hfetch, hrest, hupcoming⟩ := fetch_unbroken source herror
  rw [htokens] at hupcoming
  refine ⟨{ current, stream := rest, source }, ?_, hrest, hupcoming, rfl⟩
  rw [start, hfetch]
  rfl

theorem Awaits.moveOn (h : p.Awaits depth (token :: rest)) :
    ∃ q, moveOn p = .ok () q ∧ q.Awaits depth rest := by
  obtain ⟨current, stream, hfetch, hstream, hupcoming⟩ := fetch_unbroken p.source h.unbroken
  refine ⟨{ p with current, stream }, ?_, hstream, ?_, h.opened⟩
  · rw [TokenReader.moveOn, hfetch]
  · have htail := h.upcoming
    rw [untilEnd_cons h.isEnd_current_eq_false] at htail
    rw [hupcoming, (List.cons.inj htail).2]

theorem Awaits.consume (h : p.Awaits depth (token :: rest)) {wanted : TokenKind}
    (hkind : token.kind = wanted) :
    ∃ q, consume wanted p = .ok token q ∧ q.Awaits depth rest := by
  obtain ⟨q, hmove, hq⟩ := h.moveOn
  refine ⟨q, ?_, hq⟩
  have hcurrent := h.current_eq
  rw [TokenReader.consume, if_pos (hcurrent ▸ hkind), hcurrent, h.isEnd_eq_false]
  simp only [Bool.false_eq_true, if_false]
  exact bind_of_ok hmove

/-- What is consumed is the first awaited token, and it is of the wanted kind. -/
theorem Awaits.ensures_consume (h : p.Awaits depth tokens) {wanted : TokenKind}
    (hwanted : wanted ≠ .exprEnd) :
    Ensures (fun token q => ∃ rest, tokens = token :: rest ∧ token.kind = wanted ∧
      q.Awaits depth rest) (TokenReader.consume wanted p) := by
  by_cases hkind : p.current.kind = wanted
  · obtain ⟨rest, rfl⟩ := h.eq_cons_of_kind hkind hwanted
    obtain ⟨q, hconsume, hq⟩ := h.consume hkind
    rw [hconsume]
    exact ⟨rest, rfl, hkind, hq⟩
  · rw [TokenReader.consume, if_neg hkind]
    exact ensures_fail _ _ _

/-! ## The pieces of the rules -/

theorem Awaits.literal (h : p.Awaits depth (token :: rest)) (hkind : token.kind = .number)
    (hpoints : token.lexeme.toList.count '.' ≤ 1) :
    ∃ q, literal p = .ok { expr := .number token.lexeme, depth := 0 } q ∧
      q.Awaits depth rest := by
  obtain ⟨q, hconsume, hq⟩ := h.consume hkind
  refine ⟨q, ?_, hq⟩
  rw [TokenReader.literal, if_neg (by rw [h.current_eq]; omega)]
  exact bind_of_ok hconsume

theorem Awaits.ensures_literal (h : p.Awaits depth tokens) :
    Ensures (fun tree q => ∃ token rest, tokens = token :: rest ∧ token.kind = .number ∧
      token.lexeme.toList.count '.' ≤ 1 ∧ tree = { expr := .number token.lexeme, depth := 0 } ∧
      q.Awaits depth rest) (TokenReader.literal p) := by
  unfold TokenReader.literal
  split
  · exact ensures_fail _ _ _
  · rename_i hpoints
    refine (h.ensures_consume (by decide)).bind ?_
    rintro token q ⟨rest, rfl, hkind, hq⟩
    rw [h.current_eq] at hpoints
    exact ⟨token, rest, rfl, hkind, by omega, rfl, hq⟩

theorem Awaits.enter (h : p.Awaits depth (token :: rest)) (hkind : token.kind = .bracketOpen)
    (hdepth : depth < maxBracketDepth) :
    ∃ q, enter p = .ok () q ∧ q.Awaits (depth + 1) rest := by
  obtain ⟨q, hconsume, hq⟩ := h.consume hkind
  refine ⟨{ q with bracketDepth := q.bracketDepth + 1 }, ?_, hq.unbroken, hq.upcoming, ?_⟩
  · rw [TokenReader.enter, if_neg (by rw [h.opened]; omega)]
    exact bind_of_ok hconsume
  · rw [hq.opened]

/-- Entering takes an opening bracket, and there is one bracket more, within the limit. -/
theorem Awaits.ensures_enter (h : p.Awaits depth tokens) :
    Ensures (fun _ q => ∃ opening rest, tokens = opening :: rest ∧
      opening.kind = .bracketOpen ∧ depth + 1 ≤ maxBracketDepth ∧ q.Awaits (depth + 1) rest)
      (TokenReader.enter p) := by
  unfold TokenReader.enter
  split
  · exact ensures_fail _ _ _
  · rename_i hdepth
    refine (h.ensures_consume (by decide)).bind ?_
    rintro opening q ⟨rest, rfl, hkind, hq⟩
    rw [h.opened] at hdepth
    refine ⟨opening, rest, rfl, hkind, by omega, hq.unbroken, hq.upcoming, ?_⟩
    simp only [hq.opened]

theorem Awaits.leave (h : p.Awaits (depth + 1) (token :: rest))
    (hkind : token.kind = .bracketClose) : ∃ q, leave p = .ok () q ∧ q.Awaits depth rest := by
  obtain ⟨q, hconsume, hq⟩ := h.consume hkind
  refine ⟨{ q with bracketDepth := q.bracketDepth - 1 }, ?_, hq.unbroken, hq.upcoming, ?_⟩
  · rw [TokenReader.leave, if_neg (by rw [h.current_eq, h.isEnd_eq_false]; decide)]
    exact bind_of_ok hconsume
  · simp only [hq.opened, Nat.add_sub_cancel]

theorem Awaits.ensures_leave (h : p.Awaits (depth + 1) tokens) :
    Ensures (fun _ q => ∃ closing rest, tokens = closing :: rest ∧
      closing.kind = .bracketClose ∧ q.Awaits depth rest) (TokenReader.leave p) := by
  unfold TokenReader.leave
  split
  · exact ensures_fail _ _ _
  · refine (h.ensures_consume (by decide)).bind ?_
    rintro closing q ⟨rest, rfl, hkind, hq⟩
    refine ⟨closing, rest, rfl, hkind, hq.unbroken, hq.upcoming, ?_⟩
    simp only [hq.opened, Nat.add_sub_cancel]

end Steps

theorem join_of_le {op : BinaryOp} {sign : Token} {left right : Subtree} (p : TokenReader)
    (h : max left.depth right.depth + 1 ≤ maxOperationDepth) :
    join op sign left right p =
      .ok { expr := .binary op left.expr right.expr, depth := max left.depth right.depth + 1 }
        p := by
  rw [join, if_neg (Nat.not_lt.2 h)]
  rfl

/-- Joining takes no token, and the depth of the result is within the limit. -/
theorem ensures_join (op : BinaryOp) (sign : Token) (left right : Subtree) (p : TokenReader) :
    Ensures (fun tree q => q = p ∧ max left.depth right.depth + 1 ≤ maxOperationDepth ∧
      tree = { expr := .binary op left.expr right.expr, depth := max left.depth right.depth + 1 })
      (join op sign left right p) := by
  by_cases h : max left.depth right.depth + 1 ≤ maxOperationDepth
  · rw [join_of_le p h]
    exact ⟨rfl, h, rfl⟩
  · rw [join, if_pos (Nat.lt_of_not_le h)]
    exact ensures_fail _ _ _

end TokenReader

end ExprCompiler
