import ExprCompiler.Proofs.Expr.Acceptance
import ExprCompiler.Proofs.Expr.Place

/-!
# Which token crosses a limit

Tokens that form an expression are refused only because of a limit. An opening bracket counts when
it is reached, a sign when the last token of its right operand has been read; `LimitEvents` lists
all of this in order. A reader fails at the first of these tokens that crosses its limit
(`Expr.tooDeep_of_derives`), and there is one exactly if the brackets or the operations nest too
deep.
-/

namespace ExprCompiler

/-- A bracket or sign that counts towards a limit. -/
structure LimitEvent where
  /-- The bracket or sign. -/
  token : Token
  /-- The index of the token at which it counts. -/
  readAt : Nat
  /-- The index of the first token of the part that it opens or joins. -/
  startsAt : Nat
  /-- Whether the limit is crossed. -/
  crosses : Bool
  deriving DecidableEq, Repr

/-- An event comes before another if it counts at an earlier token, or at the same token for a part
further in. -/
def LimitEvent.Before (event other : LimitEvent) : Prop :=
  event.readAt < other.readAt ∨ (event.readAt = other.readAt ∧ other.startsAt < event.startsAt)

/-- `LimitEvents rule index opened tokens tree events`: the tokens form a part that the rule
describes, with this tree; they start at `index`, inside of `opened` brackets, and these are the
events in them. -/
inductive LimitEvents : Rule → Nat → Nat → List Token → Expr → List LimitEvent → Prop where
  /-- A number counts for nothing. -/
  | number {index opened : Nat} {token : Token} (hkind : token.kind = .number) :
      LimitEvents .factor index opened [token] (.number token.lexeme) []
  /-- An opening bracket counts when it is reached, and crosses the limit if 100 are open. -/
  | brackets {index opened : Nat} {opening closing : Token} {inner : List Token} {tree : Expr}
      {events : List LimitEvent} (hopening : opening.kind = .bracketOpen)
      (hinner : LimitEvents .expr (index + 1) (opened + 1) inner tree events)
      (hclosing : closing.kind = .bracketClose) :
      LimitEvents .factor index opened (opening :: (inner ++ [closing])) tree
        ({ token := opening, readAt := index, startsAt := index,
           crosses := maxBracketDepth ≤ opened } :: events)
  /-- An operand counts as it does on its own. -/
  | single {rule operand : Rule} {index opened : Nat} {tokens : List Token} {tree : Expr}
      {events : List LimitEvent} (hrule : rule.ChainOf operand)
      (htokens : LimitEvents operand index opened tokens tree events) :
      LimitEvents rule index opened tokens tree events
  /-- A sign counts behind its right operand, and crosses the limit if its tree is too deep. -/
  | chain {rule operand : Rule} {index opened : Nat} {left right : List Token} {sign : Token}
      {op : BinaryOp} {a b : Expr} {before after : List LimitEvent} (hrule : rule.ChainOf operand)
      (hleft : LimitEvents rule index opened left a before) (hsign : rule.Joins sign.kind op)
      (hright : LimitEvents operand (index + left.length + 1) opened right b after) :
      LimitEvents rule index opened (left ++ sign :: right) (.binary op a b)
        (before ++ after ++ [{ token := sign, readAt := index + left.length + right.length,
                               startsAt := index,
                               crosses := maxOperationDepth < (Expr.binary op a b).depth }])

namespace LimitEvents

variable {rule : Rule} {index opened : Nat} {tokens : List Token} {tree : Expr}
  {events : List LimitEvent}

theorem derives (h : LimitEvents rule index opened tokens tree events) :
    Derives rule tokens tree := by
  induction h with
  | number hkind => exact .number hkind
  | brackets hopening _ hclosing ih => exact .brackets hopening ih hclosing
  | single hrule _ ih => exact .single hrule ih
  | chain hrule _ hsign _ ihleft ihright => exact .chain hrule ihleft hsign ihright

theorem exists_of_derives (h : Derives rule tokens tree) (index opened : Nat) :
    ∃ events, LimitEvents rule index opened tokens tree events := by
  induction h generalizing index opened with
  | number hkind => exact ⟨_, .number hkind⟩
  | brackets hopening _ hclosing ih =>
    obtain ⟨events, hinner⟩ := ih (index + 1) (opened + 1)
    exact ⟨_, .brackets hopening hinner hclosing⟩
  | single hrule _ ih =>
    obtain ⟨events, htokens⟩ := ih index opened
    exact ⟨events, .single hrule htokens⟩
  | @chain rule operand left right sign op a b hrule _ hsign _ ihleft ihright =>
    obtain ⟨before, hleft⟩ := ihleft index opened
    obtain ⟨after, hright⟩ := ihright (index + left.length + 1) opened
    exact ⟨_, .chain hrule hleft hsign hright⟩

/-! ## The order of events -/

/-- An event counts at a token of the part, and concerns tokens up to there. -/
theorem bounds (h : LimitEvents rule index opened tokens tree events) :
    ∀ event ∈ events, index ≤ event.startsAt ∧ event.startsAt ≤ event.readAt ∧
      event.readAt < index + tokens.length := by
  induction h with
  | number _ => simp
  | brackets _ _ _ ih =>
    refine List.forall_mem_cons.2 ⟨?_, fun event hmem => ?_⟩
    · simp
    · have hbounds := ih event hmem
      simp only [List.length_cons, List.length_append, List.length_nil]
      omega
  | single _ _ ih => exact ih
  | chain _ _ _ hright ihleft ihright =>
    have hpos := hright.derives.length_pos
    simp only [List.length_append, List.length_cons]
    intro event hmem
    rcases List.mem_append.1 hmem with hmem | hmem
    · rcases List.mem_append.1 hmem with hmem | hmem
      · have hbounds := ihleft event hmem
        omega
      · have hbounds := ihright event hmem
        omega
    · obtain rfl := List.mem_singleton.1 hmem
      simp only
      omega

/-- The events are listed in their order. -/
theorem pairwise_before (h : LimitEvents rule index opened tokens tree events) :
    events.Pairwise LimitEvent.Before := by
  induction h with
  | number _ => exact .nil
  | brackets _ hinner _ ih =>
    refine List.pairwise_cons.2 ⟨fun event hmem => .inl ?_, ih⟩
    have hbounds := hinner.bounds event hmem
    simp only
    omega
  | single _ _ ih => exact ih
  | @chain rule operand index opened left right _ _ _ _ _ _ _ hleft _ hright ihleft ihright =>
    refine List.pairwise_append.2 ⟨List.pairwise_append.2 ⟨ihleft, ihright, ?_⟩,
      List.pairwise_singleton _ _, ?_⟩
    · intro event hmem other hother
      have hbounds := hleft.bounds event hmem
      have hbounds' := hright.bounds other hother
      left
      omega
    · intro event hmem other hother
      obtain rfl := List.mem_singleton.1 hother
      have hpos := hright.derives.length_pos
      rcases List.mem_append.1 hmem with hmem | hmem
      · have hbounds := hleft.bounds event hmem
        left
        simp only
        omega
      · -- An operation of the right operand may end with it, but starts behind the sign.
        have hbounds := hright.bounds event hmem
        rcases Nat.lt_or_ge event.readAt (index + left.length + right.length) with hlt | hge
        · exact .inl hlt
        · right
          simp only
          omega

/-! ## Limits that are kept -/

/-- Nothing crosses a limit exactly if the part keeps both. -/
theorem forall_crosses_iff (h : LimitEvents rule index opened tokens tree events)
    (hopened : opened ≤ maxBracketDepth) :
    (∀ event ∈ events, event.crosses = false) ↔
      bracketNesting opened tokens ≤ maxBracketDepth ∧ tree.depth ≤ maxOperationDepth := by
  induction h with
  | @number index opened token hkind =>
    rw [bracketNesting_cons_of_ne (by simp [hkind]) (by simp [hkind])]
    simp [bracketNesting, Expr.depth, hopened]
  | @brackets index opened opening closing inner tree events hopening hinner hclosing ih =>
    have hle := le_bracketNesting (opened + 1) inner
    rw [List.forall_mem_cons, hinner.derives.bracketNesting_brackets hopening hclosing]
    by_cases hlimit : opened + 1 ≤ maxBracketDepth
    · have hfits : ¬ maxBracketDepth ≤ opened := by omega
      simp only [hfits, decide_false, true_and]
      exact ih hlimit
    · -- This bracket alone nests too deep, whatever is in it.
      have hfull : maxBracketDepth ≤ opened := by omega
      simp only [hfull, decide_true, Bool.true_eq_false, false_and, false_iff]
      omega
  | single _ _ ih => exact ih hopened
  | @chain rule operand index opened left right sign op a b before after _ hleft hsign _ ihleft
      ihright =>
    rw [List.forall_mem_append, List.forall_mem_append, List.forall_mem_singleton, ihleft hopened,
      ihright hopened, hleft.derives.bracketNesting_chain hsign]
    rw [decide_eq_false_iff_not, Expr.depth]
    omega

theorem find?_eq_none_iff (h : LimitEvents rule index opened tokens tree events)
    (hopened : opened ≤ maxBracketDepth) :
    events.find? LimitEvent.crosses = none ↔
      bracketNesting opened tokens ≤ maxBracketDepth ∧ tree.depth ≤ maxOperationDepth := by
  rw [← h.forall_crosses_iff hopened, List.find?_eq_none]
  simp only [Bool.not_eq_true]

/-- Without a crossing, the part keeps all limits if its numbers do. -/
theorem keepsLimits (h : LimitEvents rule index opened tokens tree events)
    (hopened : opened ≤ maxBracketDepth) (hpoints : WellPointed tokens)
    (hnone : events.find? LimitEvent.crosses = none) : KeepsLimits opened tokens tree :=
  have hlimits := (h.find?_eq_none_iff hopened).1 hnone
  ⟨hpoints, hlimits.1, hlimits.2⟩

end LimitEvents

/-! ## Reading up to the first crossing -/

namespace TokenReader

/-- A step fails because the token crosses a limit. -/
def TooDeepAt (token : Token) {α : Type} :
    EStateM.Result ParseFailure TokenReader α → Prop :=
  Fails fun error => error.kind = .tooDeep ∧ error.found = token

/-- An opening bracket crosses the limit if as many are open as the limit admits. -/
theorem Awaits.tooDeepAt_enter {p : TokenReader} {opened : Nat} {token : Token} {rest : List Token}
    (hp : p.Awaits opened (token :: rest))
    (hfull : maxBracketDepth ≤ opened) : TooDeepAt token (TokenReader.enter p) := by
  rw [TokenReader.enter, if_pos (by rw [hp.opened]; exact hfull), hp.current_eq]
  exact fails_fail ⟨rfl, rfl⟩

/-- A sign crosses the limit, when its right operand has been read, if its tree is too deep. -/
theorem Awaits.tooDeepAt_extend {p : TokenReader} {opened : Nat} {sign : Token}
    {afterSign rest : List Token} {rule operand : Rule} {op : BinaryOp} {a b : Expr}
    (hp : p.Awaits opened (sign :: afterSign)) (hrule : rule.ChainOf operand)
    (hsign : rule.Joins sign.kind op)
    (hoperand : ∀ q : TokenReader, q.Awaits opened afterSign →
      ∃ r, read operand q = .ok (.ofExpr b) r ∧ r.Awaits opened rest)
    (hdeep : maxOperationDepth < (Expr.binary op a b).depth) :
    TooDeepAt sign (extend rule (.ofExpr a) p) := by
  obtain ⟨r, hextend, -⟩ := hp.extend_eq_join hrule hsign hoperand (.ofExpr a)
  have hlimit : maxOperationDepth < max (Subtree.ofExpr a).depth (Subtree.ofExpr b).depth + 1 :=
    hdeep
  have hjoin : TooDeepAt sign (join op sign (.ofExpr a) (.ofExpr b) r) := by
    rw [join, if_pos hlimit]
    exact fails_fail ⟨rfl, rfl⟩
  rw [hextend]
  exact hjoin.bind

/-- Tokens that form a part of an expression are read up to the first of them that crosses a limit.
The chain of a lower rule must not go on behind them. -/
theorem tooDeepAt_read {rule : Rule} {index opened : Nat} {tokens : List Token} {tree : Expr}
    {events : List LimitEvent} (h : LimitEvents rule index opened tokens tree events) :
    ∀ {event : LimitEvent} {rest : List Token} {p : TokenReader},
      events.find? LimitEvent.crosses = some event → WellPointed tokens →
      opened ≤ maxBracketDepth → (rule = .expr → Stops .term rest) →
      p.Awaits opened (tokens ++ rest) → TooDeepAt event.token (read rule p) := by
  induction h with
  | number _ =>
    intro event rest p hfirst
    simp at hfirst
  | @brackets index opened opening closing inner tree events hopening hinner hclosing ih =>
    intro event rest p hfirst hpoints hopened _ hp
    rw [List.cons_append, List.append_assoc] at hp
    rw [read_factor, hp.current_eq, hopening]
    change TooDeepAt _ ((TokenReader.enter >>= _) p)
    by_cases hfull : maxBracketDepth ≤ opened
    · simp only [List.find?_cons, hfull, decide_true, Option.some.injEq] at hfirst
      subst hfirst
      exact (hp.tooDeepAt_enter hfull).bind
    · simp only [List.find?_cons, hfull, decide_false] at hfirst
      obtain ⟨q, henter, hq⟩ := hp.enter hopening (Nat.lt_of_not_le hfull)
      rw [bind_of_ok henter]
      have hstops : Stops .term ([closing] ++ rest) := by
        intro token hhead
        obtain rfl := Option.some.inj hhead
        rw [hclosing]
        rfl
      have hinside : WellPointed inner := fun token hmem => hpoints token (by simp [hmem])
      exact (ih hfirst hinside (by omega) (fun _ => hstops) hq).bind
  | @single rule operand index opened tokens tree events hrule _ ih =>
    intro event rest p hfirst hpoints hopened _ hp
    rw [read_chain hrule.ne_factor, hrule.operand_eq]
    exact (ih hfirst hpoints hopened (fun h => absurd h hrule.operand_ne_expr) hp).bind
  | @chain rule operand index opened left right sign op a b before after hrule hleft hsign hright
      ihleft ihright =>
    -- The first crossing is in the left part, or else in the right operand, or else at the sign; what
    -- comes before it is read.
    intro event rest p hfirst hpoints hopened hstops hp
    rw [List.append_assoc, List.cons_append] at hp
    have hpointsLeft : WellPointed left := fun token hmem => hpoints token (by simp [hmem])
    have hpointsRight : WellPointed right := fun token hmem => hpoints token (by simp [hmem])
    have hsigned : rule = .expr → Stops .term (sign :: (right ++ rest)) := by
      rintro rfl
      exact stops_cons_of_joins hsign (by decide)
    rw [List.find?_append, List.find?_append] at hfirst
    cases hbefore : before.find? LimitEvent.crosses with
    | some first =>
      rw [hbefore, Option.some_or, Option.some_or, Option.some.injEq] at hfirst
      subst hfirst
      exact ihleft hbefore hpointsLeft hopened hsigned hp
    | none =>
      rw [hbefore, Option.none_or] at hfirst
      obtain ⟨p₁, hread, hp₁⟩ := read_of_derives hleft.derives
        (hleft.keepsLimits hopened hpointsLeft hbefore) hsigned hp
      rw [hread]
      cases hafter : after.find? LimitEvent.crosses with
      | some first =>
        rw [hafter, Option.some_or, Option.some.injEq] at hfirst
        subst hfirst
        exact hp₁.fails_extend hrule hsign (fun q hq => ihright hafter hpointsRight hopened
          (fun h => absurd h hrule.operand_ne_expr) hq) _
      | none =>
        rw [hafter, Option.none_or] at hfirst
        have hlimits := hright.keepsLimits hopened hpointsRight hafter
        have hoperand : ∀ q : TokenReader, q.Awaits opened (right ++ rest) →
            ∃ r, read operand q = .ok (.ofExpr b) r ∧ r.Awaits opened rest :=
          fun q hq => read_operand_of_derives hrule hright.derives hlimits hstops hq
        have hcrosses := List.find?_some hfirst
        obtain rfl := List.mem_singleton.1 (List.mem_of_find?_eq_some hfirst)
        exact hp₁.tooDeepAt_extend hrule hsign hoperand (decide_eq_true_iff.1 hcrosses)

end TokenReader

/-! ## Lists of tokens -/

namespace Expr

variable {tokens : List Token} {tree : Expr} {events : List LimitEvent}

theorem ofTokens_of_find?_eq_none (source : Option String)
    (h : LimitEvents .expr 0 0 (untilEnd tokens) tree events)
    (hpoints : WellPointed (untilEnd tokens)) (hnone : events.find? LimitEvent.crosses = none) :
    ofTokens tokens source = .ok tree :=
  ofTokens_of_sentence ⟨h.keepsLimits (Nat.zero_le _) hpoints hnone, h.derives⟩

/-- Tokens that form an expression and of which some cross a limit are refused at the first of
these. -/
theorem ofTokens_of_find?_eq_some (source : Option String)
    (h : LimitEvents .expr 0 0 (untilEnd tokens) tree events)
    (hpoints : WellPointed (untilEnd tokens)) {event : LimitEvent}
    (hfirst : events.find? LimitEvent.crosses = some event) :
    ∃ error, ofTokens tokens source = .error (.grammatical error) ∧ error.kind = .tooDeep ∧
      error.found = event.token := by
  refine ofTokens_of_fails fun p hp => ?_
  rw [← List.append_nil (untilEnd tokens)] at hp
  exact TokenReader.tooDeepAt_read h hfirst hpoints (Nat.zero_le _)
    (fun _ => by simp [TokenReader.Stops]) hp

/-- Tokens that form an expression, whose numbers have one point at most, are refused exactly if
their brackets nest more than 100 deep or the operations of its tree more than 180. It is always
because of a limit, and at the first of the brackets and signs that crosses it, where a bracket
counts when it is reached and a sign when its right operand has been read, inner ones first. -/
theorem tooDeep_of_derives {source : Option String} (h : Derives .expr (untilEnd tokens) tree)
    (hpoints : ∀ token ∈ untilEnd tokens, token.kind = .number →
      token.lexeme.toList.count '.' ≤ 1) :
    ((∃ failure, ofTokens tokens source = .error failure) ↔
      100 < bracketNesting 0 (untilEnd tokens) ∨ 180 < tree.depth) ∧
    (∃ events, LimitEvents .expr 0 0 (untilEnd tokens) tree events) ∧
    ∀ events, LimitEvents .expr 0 0 (untilEnd tokens) tree events →
      events.Pairwise LimitEvent.Before ∧
      ∀ failure, ofTokens tokens source = .error failure →
        ∃ error event, failure = .grammatical error ∧ error.kind = .tooDeep ∧
          events.find? LimitEvent.crosses = some event ∧ error.found = event.token := by
  have hexists := LimitEvents.exists_of_derives h 0 0
  refine ⟨?_, hexists, fun events hevents => ⟨hevents.pairwise_before, fun failure hfailure => ?_⟩⟩
  · obtain ⟨events, hevents⟩ := hexists
    have hlimits : events.find? LimitEvent.crosses = none ↔
        bracketNesting 0 (untilEnd tokens) ≤ 100 ∧ tree.depth ≤ 180 :=
      hevents.find?_eq_none_iff (Nat.zero_le _)
    cases hfirst : events.find? LimitEvent.crosses with
    | none =>
      have hkept := hlimits.1 hfirst
      rw [ofTokens_of_find?_eq_none source hevents hpoints hfirst]
      simp only [reduceCtorEq, exists_false, false_iff]
      omega
    | some event =>
      obtain ⟨error, herror, -⟩ := ofTokens_of_find?_eq_some source hevents hpoints hfirst
      refine ⟨fun _ => ?_, fun _ => ⟨_, herror⟩⟩
      rw [hfirst] at hlimits
      simp only [reduceCtorEq, false_iff] at hlimits
      omega
  · cases hfirst : events.find? LimitEvent.crosses with
    | none =>
      rw [ofTokens_of_find?_eq_none source hevents hpoints hfirst] at hfailure
      simp at hfailure
    | some event =>
      obtain ⟨error, herror, hkind, hfound⟩ :=
        ofTokens_of_find?_eq_some source hevents hpoints hfirst
      rw [herror, Except.error.injEq] at hfailure
      exact ⟨error, event, hfailure.symm, hkind, rfl, hfound⟩

theorem tooDeep_of_derives_brackets :
    ∃ tokens tree events error event, Derives .expr (untilEnd tokens) tree ∧
      LimitEvents .expr 0 0 (untilEnd tokens) tree events ∧
      ofTokens tokens none = .error (.grammatical error) ∧ error.kind = .tooDeep ∧
      events.find? LimitEvent.crosses = some event ∧ error.found = event.token := by
  let tokens := List.replicate 101 TokenKind.bracketOpen.sample ++
    TokenKind.number.sample :: Place.closings 101
  obtain ⟨tree, htree⟩ : ∃ tree, Derives .expr (untilEnd tokens) tree :=
    exists_derives_iff.2 (by decide +kernel)
  have hpoints : ∀ token ∈ untilEnd tokens, token.kind = .number →
      token.lexeme.toList.count '.' ≤ 1 := by decide +kernel
  have hnesting : 100 < bracketNesting 0 (untilEnd tokens) := by decide +kernel
  obtain ⟨hfails, ⟨events, hevents⟩, hblames⟩ := @tooDeep_of_derives _ _ none htree hpoints
  obtain ⟨failure, hfailure⟩ := hfails.2 (.inl hnesting)
  obtain ⟨error, event, rfl, hkind, hfirst, hfound⟩ := (hblames events hevents).2 failure hfailure
  exact ⟨tokens, tree, events, error, event, htree, hevents, hfailure, hkind, hfirst, hfound⟩

end Expr

end ExprCompiler
