import ExprCompiler.Proofs.Expr.Acceptance
import ExprCompiler.Proofs.Expr.Consumption
import ExprCompiler.Proofs.Token.Spelling

/-!
# How deep calls nest

Reading a rule is a call that is in progress while other calls read the parts of the rule, so calls
nest. `readWithin` reads as `read` does, but has for each rule a number of calls that may be in
progress at once, and gives up where it needs one more.

Only brackets make a rule start anew inside of itself, and they are limited. So 101 calls of each rule
are enough, whatever state a reader is in (`readWithin_eq_read`), and behind 100 opening brackets no
fewer are (`readWithin_eq_none`).
-/

namespace ExprCompiler.TokenReader

/-- What becomes of a step that may give up: nothing, if it does. -/
abbrev Capped (α : Type) (bound : Nat) := Option (Bounded α bound)

namespace Capped

variable {α β : Type} {m n : Nat}

/-- Goes on from a result, knowing how many tokens are left. -/
def andThen (o : Capped α m) (f : (a : α) → (q : TokenReader) → q.remaining < m → Capped β n) :
    Capped β n :=
  match o with
  | none => none
  | some ⟨.ok a q, h⟩ => f a q h
  | some ⟨.error failure q, _⟩ => some ⟨.error failure q, trivial⟩

theorem andThen_eq_some {o : Bounded α m}
    {f : (a : α) → (q : TokenReader) → q.remaining < m → Capped β n}
    {g : (a : α) → (q : TokenReader) → q.remaining < m → Bounded β n}
    (h : ∀ a q hq, o.val = .ok a q → f a q hq = some (g a q hq)) :
    andThen (some o) f = some (o.andThen g) := by
  obtain ⟨_ | _, ho⟩ := o
  · exact h _ _ ho rfl
  · rfl

theorem andThen_eq_none {o : Bounded α m} {a : α} {q : TokenReader}
    {f : (a : α) → (q : TokenReader) → q.remaining < m → Capped β n} (ho : o.val = .ok a q)
    (h : ∀ hq, f a q hq = none) : andThen (some o) f = none := by
  obtain ⟨_, hq⟩ := o
  subst ho
  exact h hq

end Capped

/-! ## Reading with few calls -/

/-- A call of a rule, counted by rules. -/
def callOf (rule other : Rule) : Nat :=
  if other = rule then 1 else 0

/-- The calls that may still be made inside of a call. -/
def inside (room : Rule → Nat) (rule : Rule) : Rule → Nat :=
  fun other => room other - callOf rule other

/-- Goes on with a chain, whose operands are read by a step that may give up. -/
def extendWith (operand : (q : TokenReader) → Capped Subtree q.remaining) (rule : Rule)
    (left : Subtree) (p : TokenReader) : Capped Subtree (p.remaining + 1) :=
  match _hop : rule.operator? p.current.kind with
  | none => some ⟨.ok left p, Nat.lt_succ_self _⟩
  | some op =>
    have hend : p.current.kind ≠ .exprEnd := (Rule.joins_iff.2 _hop).kind_ne.2.2.2
    Capped.andThen (some ⟨consume p.current.kind p, consume_leavesFewer hend⟩) fun sign p₁ h₁ =>
      (operand p₁).andThen fun right p₂ h₂ =>
        Capped.andThen (some ⟨join op sign left right p₂, join_leavesFewer op sign left right p₂⟩)
          fun tree p₃ h₃ =>
            have hlt : p₃.remaining < p.remaining :=
              Nat.lt_of_le_of_lt (Nat.le_of_lt_succ h₃) (Nat.lt_trans h₂ h₁)
            (extendWith operand rule tree p₃).map
              (·.weaken (Nat.succ_le_succ (Nat.le_of_lt hlt)))
termination_by p.remaining
decreasing_by exact hlt

theorem inside_lt {room : Rule → Nat} {rule : Rule} (h : room rule ≠ 0) :
    inside room rule .expr + inside room rule .term + inside room rule .factor <
      room .expr + room .term + room .factor := by
  simp only [inside, callOf]
  cases rule <;> simp <;> omega

/-- Reads the part that a rule describes, with `room other` calls of each rule `other` in progress at
once at most. -/
def readWithin (room : Rule → Nat) (rule : Rule) (p : TokenReader) : Capped Subtree p.remaining :=
  if _hroom : room rule = 0 then none
  else if _hrule : rule = .factor then
    match p.current.kind with
    | .number => some ⟨literal p, literal_leavesFewer p⟩
    | .bracketOpen =>
      Capped.andThen (some ⟨enter p, enter_leavesFewer p⟩) fun _ p₁ h₁ =>
        (readWithin (inside room rule) .expr p₁).andThen fun tree p₂ h₂ =>
          Capped.andThen (some ⟨leave p₂, leave_leavesFewer p₂⟩) fun _ p₃ h₃ =>
            some ⟨.ok tree p₃, Nat.lt_trans h₃ (Nat.lt_trans h₂ h₁)⟩
    | _ => some ⟨fail .missingOperand p.current p, trivial⟩
  else
    (readWithin (inside room rule) rule.operand p).andThen fun left p₁ h₁ =>
      (extendWith (fun q => readWithin (inside room rule) rule.operand q) rule left p₁).map
        (·.weaken h₁)
termination_by room .expr + room .term + room .factor
decreasing_by all_goals exact inside_lt _hroom

/-- Reads a whole expression, after which nothing may follow, with calls as for `readWithin`. -/
def parseWithin (room : Rule → Nat) (p : TokenReader) :
    Option (EStateM.Result ParseFailure TokenReader Expr) :=
  match readWithin room .expr p with
  | none => none
  | some ⟨.ok tree q, _⟩ =>
    some (if q.current.isEnd then .ok tree.expr q else fail .trailingToken q.current q)
  | some ⟨.error failure q, _⟩ => some (.error failure q)

/-! ## Brackets that are left again -/

section Brackets

variable {p q : TokenReader}

theorem bracketDepth_of_consume {wanted : TokenKind} {token : Token}
    (h : consume wanted p = .ok token q) : q.bracketDepth = p.bracketDepth := by
  unfold consume at h
  split at h
  · split at h
    · obtain ⟨-, rfl⟩ := EStateM.Result.ok.inj h
      rfl
    · obtain ⟨_, p', hmove, hreturn⟩ := exists_of_bind_eq_ok h
      obtain ⟨-, rfl⟩ := EStateM.Result.ok.inj hreturn
      unfold moveOn at hmove
      split at hmove
      · obtain ⟨-, rfl⟩ := EStateM.Result.ok.inj hmove
        rfl
      · cases hmove
  · cases h

theorem bracketDepth_of_literal {tree : Subtree} (h : literal p = .ok tree q) :
    q.bracketDepth = p.bracketDepth := by
  unfold literal at h
  split at h
  · cases h
  · obtain ⟨token, p', hconsume, hreturn⟩ := exists_of_bind_eq_ok h
    obtain ⟨-, rfl⟩ := EStateM.Result.ok.inj hreturn
    exact bracketDepth_of_consume hconsume

theorem bracketDepth_of_enter {u : Unit} (h : enter p = .ok u q) :
    q.bracketDepth = p.bracketDepth + 1 ∧ p.bracketDepth < maxBracketDepth := by
  unfold enter at h
  split at h
  · cases h
  · rename_i hdepth
    obtain ⟨opening, p', hconsume, hmodify⟩ := exists_of_bind_eq_ok h
    obtain ⟨-, rfl⟩ := EStateM.Result.ok.inj hmodify
    exact ⟨congrArg (· + 1) (bracketDepth_of_consume hconsume), Nat.lt_of_not_le hdepth⟩

theorem bracketDepth_of_leave {u : Unit} (h : leave p = .ok u q) :
    q.bracketDepth = p.bracketDepth - 1 := by
  unfold leave at h
  split at h
  · cases h
  · obtain ⟨closing, p', hconsume, hmodify⟩ := exists_of_bind_eq_ok h
    obtain ⟨-, rfl⟩ := EStateM.Result.ok.inj hmodify
    exact congrArg (· - 1) (bracketDepth_of_consume hconsume)

/-- What has a result is outside of all brackets that were entered for it. -/
structure LeavesBrackets (p : TokenReader) : Prop where
  /-- A rule is read. -/
  read {rule : Rule} {tree : Subtree} {q : TokenReader} (h : read rule p = .ok tree q) :
    q.bracketDepth = p.bracketDepth
  /-- A chain goes on. -/
  extend {rule : Rule} {left tree : Subtree} {q : TokenReader} (h : extend rule left p = .ok tree q) :
    q.bracketDepth = p.bracketDepth

section LeavesBrackets

variable {tree : Subtree}
  (ih : ∀ p' : TokenReader, p'.remaining < p.remaining → LeavesBrackets p')

include ih

theorem bracketDepth_of_read_factor (h : read .factor p = .ok tree q) :
    q.bracketDepth = p.bracketDepth := by
  rw [read_factor] at h
  split at h
  · exact bracketDepth_of_literal h
  · obtain ⟨_, p₁, henter, hafter⟩ := exists_of_bind_eq_ok h
    obtain ⟨hp₁, -⟩ := bracketDepth_of_enter henter
    have hlt : p₁.remaining < p.remaining := (enter_leavesFewer p).remaining_lt henter
    obtain ⟨tree', p₂, hread, hafter⟩ := exists_of_bind_eq_ok hafter
    have hp₂ := (ih p₁ hlt).read hread
    obtain ⟨_, p₃, hleave, hreturn⟩ := exists_of_bind_eq_ok hafter
    obtain ⟨-, rfl⟩ := EStateM.Result.ok.inj hreturn
    rw [bracketDepth_of_leave hleave, hp₂, hp₁, Nat.add_sub_cancel]
  · cases h

theorem bracketDepth_of_extend {rule : Rule} {left : Subtree}
    (h : extend rule left p = .ok tree q) : q.bracketDepth = p.bracketDepth := by
  rw [extend_eq] at h
  split at h
  · obtain ⟨-, rfl⟩ := EStateM.Result.ok.inj h
    rfl
  · rename_i op hop
    have hend : p.current.kind ≠ .exprEnd := (Rule.joins_iff.2 hop).kind_ne.2.2.2
    obtain ⟨sign, p₁, hconsume, hafter⟩ := exists_of_bind_eq_ok h
    have hlt₁ : p₁.remaining < p.remaining := (consume_leavesFewer hend).remaining_lt hconsume
    obtain ⟨right, p₂, hread, hafter⟩ := exists_of_bind_eq_ok hafter
    have hlt₂ : p₂.remaining < p₁.remaining := (read_leavesFewer _ p₁).remaining_lt hread
    obtain ⟨tree', p₃, hjoin, hextend⟩ := exists_of_bind_eq_ok hafter
    obtain ⟨rfl, -, -⟩ := eq_of_join hjoin
    rw [(ih p₃ (Nat.lt_trans hlt₂ hlt₁)).extend hextend, (ih p₁ hlt₁).read hread,
      bracketDepth_of_consume hconsume]

theorem bracketDepth_of_read_chain {rule operand : Rule} (hrule : rule.ChainOf operand)
    (hoperand : ∀ {tree q}, read operand p = .ok tree q → q.bracketDepth = p.bracketDepth)
    (h : read rule p = .ok tree q) : q.bracketDepth = p.bracketDepth := by
  rw [read_chain hrule.ne_factor, hrule.operand_eq] at h
  obtain ⟨left, p₁, hread, hextend⟩ := exists_of_bind_eq_ok h
  have hlt : p₁.remaining < p.remaining := (read_leavesFewer _ p).remaining_lt hread
  rw [(ih p₁ hlt).extend hextend, hoperand hread]

end LeavesBrackets

theorem leavesBrackets (p : TokenReader) : LeavesBrackets p := by
  -- A nested part and the rest of a chain are read behind a consumed token.
  induction hn : p.remaining using Nat.strongRecOn generalizing p with
  | _ n hfewer =>
    have ih : ∀ p' : TokenReader, p'.remaining < p.remaining → LeavesBrackets p' := by
      intro p' hlt
      exact hfewer p'.remaining (hn ▸ hlt) p' rfl
    have hfactor : ∀ {tree q}, read .factor p = .ok tree q → q.bracketDepth = p.bracketDepth :=
      bracketDepth_of_read_factor ih
    have hterm : ∀ {tree q}, read .term p = .ok tree q → q.bracketDepth = p.bracketDepth :=
      bracketDepth_of_read_chain ih .term hfactor
    constructor
    · intro rule tree q h
      cases rule with
      | expr => exact bracketDepth_of_read_chain ih .expr hterm h
      | term => exact hterm h
      | factor => exact hfactor h
    · exact bracketDepth_of_extend ih

end Brackets

/-! ## How many calls are enough -/

/-- How many calls of a rule are nested in a call that reads a part inside of which brackets nest
`nesting` deep: for each pair of brackets all rules are called once more. -/
def callsIn (rule : Rule) (nesting : Nat) (other : Rule) : Nat :=
  nesting + if other.level ≤ rule.level then 1 else 0

/-- A call of a chain is one call more than that of its operand. -/
theorem callsIn_operand {rule : Rule} (h : rule ≠ .factor) (nesting : Nat) (other : Rule) :
    callsIn rule nesting other = callsIn rule.operand nesting other + callOf rule other := by
  cases rule <;> cases other <;> first | rfl | exact absurd rfl h

/-- A call that reads brackets is one call more than that of the expression in them. -/
theorem callsIn_brackets (nesting : Nat) (other : Rule) :
    callsIn .factor (nesting + 1) other = callsIn .expr nesting other + callOf .factor other := by
  cases other <;> rfl

/-- An expression calls all rules. -/
theorem callsIn_expr (nesting : Nat) (other : Rule) : callsIn .expr nesting other = nesting + 1 := by
  cases other <;> rfl

theorem callsIn_pos (rule : Rule) (nesting : Nat) : 0 < callsIn rule nesting rule := by
  simp [callsIn]

/-- A chain whose operands are all read does not give up. -/
theorem extendWith_eq {operand : (q : TokenReader) → Capped Subtree q.remaining} {rule : Rule}
    {p : TokenReader} (left : Subtree)
    (h : ∀ q : TokenReader, q.bracketDepth = p.bracketDepth →
      operand q = some (readRule rule.operand q)) :
    extendWith operand rule left p = some (extendChain rule left p) := by
  fun_induction extendWith operand rule left p with
  | case1 left p hop =>
    rw [extendChain]
    split
    · rfl
    · rename_i op hop'
      cases hop.symm.trans hop'
  | case2 left p op hop hend ih =>
    rw [extendChain]
    split
    · rename_i hop'
      cases hop.symm.trans hop'
    · rename_i op' hop'
      obtain rfl := Option.some.inj (hop.symm.trans hop')
      refine Capped.andThen_eq_some fun sign p₁ h₁ hconsume => ?_
      have hp₁ : p₁.bracketDepth = p.bracketDepth := bracketDepth_of_consume hconsume
      rw [h p₁ hp₁]
      refine Capped.andThen_eq_some fun right p₂ h₂ hread => ?_
      have hp₂ : p₂.bracketDepth = p₁.bracketDepth := (leavesBrackets p₁).read hread
      refine Capped.andThen_eq_some fun tree p₃ h₃ hjoin => ?_
      obtain ⟨rfl, -, -⟩ := eq_of_join hjoin
      have hp₃ : p₃.bracketDepth = p.bracketDepth := hp₂.trans hp₁
      rw [ih p₁ h₁ p₃ h₂ tree p₃ h₃ fun q hq => h q (hq.trans hp₃)]
      rfl

/-- What is left of the limit on brackets is enough, and one call more of the rules up to the one
that is read. -/
theorem readWithin_eq_read {room : Rule → Nat} {rule : Rule} {p : TokenReader}
    (h : ∀ other, callsIn rule (maxBracketDepth - p.bracketDepth) other ≤ room other) :
    readWithin room rule p = some (readRule rule p) := by
  fun_induction readWithin room rule p with
  | case1 room rule p hroom =>
    have hpos := callsIn_pos rule (maxBracketDepth - p.bracketDepth)
    have hself := h rule
    omega
  | case2 room p hkind hroom => rw [readRule, dif_pos rfl, hkind]
  | case3 room p hkind hroom ih =>
    rw [readRule, dif_pos rfl, hkind]
    refine Capped.andThen_eq_some fun _ p₁ h₁ henter => ?_
    obtain ⟨hp₁, hlt⟩ := bracketDepth_of_enter henter
    -- Entering has used up one of the brackets that are left.
    have hnesting : maxBracketDepth - p.bracketDepth = maxBracketDepth - p₁.bracketDepth + 1 := by
      omega
    have hroom₁ : ∀ other,
        callsIn .expr (maxBracketDepth - p₁.bracketDepth) other ≤ inside room .factor other := by
      intro other
      have hle := h other
      rw [hnesting, callsIn_brackets] at hle
      exact Nat.le_sub_of_add_le hle
    rw [ih p₁ hroom₁]
    refine Capped.andThen_eq_some fun tree p₂ h₂ _ => ?_
    exact Capped.andThen_eq_some fun _ p₃ h₃ _ => rfl
  | case4 room p hnumber hopen hroom =>
    rw [readRule, dif_pos rfl]
    split
    · rename_i hkind
      exact absurd hkind hnumber
    · rename_i hkind
      exact absurd hkind hopen
    · rfl
  | case5 room rule p hroom hrule ih ihq =>
    -- All operands of a chain are read inside of the same brackets, and so with the same calls.
    have hoperand : ∀ q : TokenReader, q.bracketDepth = p.bracketDepth →
        readWithin (inside room rule) rule.operand q = some (readRule rule.operand q) := by
      intro q hq
      refine ihq q fun other => ?_
      have hle := h other
      rw [callsIn_operand hrule, ← hq] at hle
      exact Nat.le_sub_of_add_le hle
    rw [readRule, dif_neg hrule, hoperand p rfl]
    refine Capped.andThen_eq_some fun left p₁ h₁ hread => ?_
    have hp₁ : p₁.bracketDepth = p.bracketDepth := (leavesBrackets p).read hread
    rw [extendWith_eq left fun q hq => hoperand q (hq.trans hp₁)]
    rfl

theorem parseWithin_eq_parse {room : Rule → Nat} {p : TokenReader}
    (h : readWithin room .expr p = some (readRule .expr p)) :
    parseWithin room p = some (parse p) := by
  have hread : read .expr p = (readRule .expr p).val := rfl
  rw [parseWithin, h]
  cases hrule : readRule .expr p with
  | mk outcome hfewer =>
    rw [hrule] at hread
    cases outcome with
    | ok tree q => rw [parse_of_read hread]
    | error failure q =>
      have hparse : parse p = .error failure q := bind_of_error hread
      rw [hparse]

theorem depth_le_of_parse {p q : TokenReader} {tree : Expr} (h : parse p = .ok tree q) :
    tree.depth ≤ maxOperationDepth := by
  obtain ⟨subtree, p₁, hread, -⟩ := exists_of_bind_eq_ok h
  rw [parse_of_read hread] at h
  split at h
  · obtain ⟨rfl, -⟩ := EStateM.Result.ok.inj h
    obtain ⟨consumed, hreads⟩ := readsTokens_of_read hread
    exact hreads.depth_eq ▸ hreads.depth_le
  · cases h

/-! ## No fewer calls are enough -/

/-- If there are too few calls for a part and for the call that it is in, there are too few for the
part inside of the call. -/
theorem inside_lt_of_lt {room : Rule → Nat} {rule other : Rule} {calls : Nat}
    (hrule : room rule ≠ 0) (h : room other < calls + callOf rule other) :
    inside room rule other < calls := by
  rw [inside]
  by_cases hother : other = rule
  · subst hother
    rw [callOf, if_pos rfl] at h ⊢
    omega
  · rw [callOf, if_neg hother] at h ⊢
    exact h

/-- One call is enough for a factor that is no brackets. -/
theorem exists_opening {room : Rule → Nat} {other : Rule} {p : TokenReader} {depth : Nat}
    {openings rest : List Token} (hp : p.Awaits depth (openings ++ rest))
    (hopenings : ∀ token ∈ openings, token.kind = .bracketOpen) (hroom : room .factor ≠ 0)
    (h : room other < callsIn .factor openings.length other) :
    ∃ opening others, openings = opening :: others ∧ p.current.kind = .bracketOpen := by
  cases openings with
  | nil =>
    cases other with
    | factor => exact absurd h (Nat.not_lt.2 (Nat.one_le_iff_ne_zero.2 hroom))
    | _ => exact absurd h (Nat.not_lt_zero _)
  | cons opening others =>
    refine ⟨opening, others, rfl, ?_⟩
    rw [hp.current_eq]
    exact hopenings opening List.mem_cons_self

/-- Behind opening brackets, within the limit, all these calls are needed. -/
theorem readWithin_eq_none {room : Rule → Nat} {rule other : Rule} {p : TokenReader} {depth : Nat}
    {openings rest : List Token} (hp : p.Awaits depth (openings ++ rest))
    (hopenings : ∀ token ∈ openings, token.kind = .bracketOpen)
    (hdepth : depth + openings.length ≤ maxBracketDepth)
    (h : room other < callsIn rule openings.length other) : readWithin room rule p = none := by
  fun_induction readWithin room rule p generalizing depth openings with
  | case1 room rule p hroom => rfl
  | case2 room p hkind hroom =>
    obtain ⟨-, -, -, hopen⟩ := exists_opening hp hopenings hroom h
    cases hkind.symm.trans hopen
  | case3 room p hkind hroom ih =>
    obtain ⟨opening, others, rfl, -⟩ := exists_opening hp hopenings hroom h
    rw [List.length_cons] at h hdepth
    rw [callsIn_brackets] at h
    obtain ⟨p₁, henter, hp₁⟩ := hp.enter (hopenings opening List.mem_cons_self) (by omega)
    have hothers : ∀ token ∈ others, token.kind = .bracketOpen :=
      fun token hmem => hopenings token (List.mem_cons_of_mem opening hmem)
    refine Capped.andThen_eq_none henter fun _ => ?_
    rw [ih p₁ hp₁ hothers (by omega) (inside_lt_of_lt hroom h)]
    rfl
  | case4 room p hnumber hopen hroom =>
    obtain ⟨-, -, -, hkind⟩ := exists_opening hp hopenings hroom h
    exact absurd hkind hopen
  | case5 room rule p hroom hrule ih ihq =>
    rw [callsIn_operand hrule] at h
    rw [ih hp hopenings hdepth (inside_lt_of_lt hroom h)]
    rfl

/-- With fewer calls, a list of opening brackets is too much. -/
theorem exists_parseWithin_eq_none {room : Rule → Nat} {rule : Rule}
    (h : room rule ≤ maxBracketDepth) :
    ∃ tokens p, start (.ofList tokens) none = .ok p ∧ parseWithin room p = none := by
  let openings := List.replicate maxBracketDepth TokenKind.bracketOpen.sample
  have hopenings : ∀ token ∈ openings, token.kind = .bracketOpen := by
    intro token hmem
    rw [List.eq_of_mem_replicate hmem]
    rfl
  have hlength : openings.length = maxBracketDepth := List.length_replicate
  obtain ⟨p, hstart, hp⟩ := start_ofList openings none
  rw [untilEnd_eq_self fun token hmem => by simp [Token.isEnd, hopenings token hmem],
    ← List.append_nil openings] at hp
  have hroom : room rule < callsIn .expr openings.length rule := by
    rw [callsIn_expr, hlength]
    exact Nat.lt_succ_of_le h
  have hread : readWithin room .expr p = none :=
    readWithin_eq_none hp hopenings (by omega) hroom
  refine ⟨openings, p, hstart, ?_⟩
  rw [parseWithin, hread]

end ExprCompiler.TokenReader
