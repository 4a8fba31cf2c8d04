import ExprCompiler.Proofs.Expr.Lockstep

/-!
# What has been consumed

What a part of an expression was read from follows from its success alone, whatever state the reader
was in before, where its tokens come from, and whether or not a later fetch would fail: the tokens that
the reader has consumed form the part, and the depth that was counted on the way is that of the tree
(`readsTokens_of_read`).
-/

namespace ExprCompiler.TokenReader

/-- The tokens that a reader can get to: those before the first end, as far as they can be fetched. -/
def upcoming (p : TokenReader) : List Token :=
  untilEnd (p.current :: p.stream.tokens)

/-- `ReadsTokens rule p consumed tree q`: from one state to the other a part of an expression was read,
and these tokens were consumed for it. -/
structure ReadsTokens (rule : Rule) (p : TokenReader) (consumed : List Token) (tree : Subtree)
    (q : TokenReader) : Prop where
  /-- What was upcoming is consumed or still upcoming. -/
  upcoming_eq : p.upcoming = consumed ++ q.upcoming
  /-- The consumed tokens form the part. -/
  derives : Derives rule consumed tree.expr
  /-- The depth is that of the tree. -/
  depth_eq : tree.depth = tree.expr.depth
  /-- It is within the limit. -/
  depth_le : tree.depth ≤ maxOperationDepth

/-! ## Single steps -/

section Steps

variable {p q : TokenReader}

/-- Steps in a row have a result if each of them has. -/
theorem exists_of_bind_eq_ok {α β : Type} {x : Parse α} {f : α → Parse β} {b : β}
    (h : (x >>= f) p = .ok b q) : ∃ a p', x p = .ok a p' ∧ f a p' = .ok b q := by
  cases hx : x p with
  | ok a p' =>
    rw [bind_of_ok hx] at h
    exact ⟨a, p', rfl, h⟩
  | error failure p' =>
    rw [bind_of_error hx] at h
    cases h

/-- What is fetched is taken from the stream, unless it is an end behind it. -/
theorem untilEnd_of_fetch {source : Option String} {stream rest : TokenStream} {token : Token}
    (h : fetch source stream = .ok (token, rest)) :
    untilEnd (token :: rest.tokens) = untilEnd stream.tokens := by
  cases stream with
  | done =>
    obtain ⟨rfl, rfl⟩ := Prod.mk.inj (Except.ok.inj h)
    rfl
  | broken error => cases h
  | cons token rest =>
    obtain ⟨rfl, rfl⟩ := Prod.mk.inj (Except.ok.inj h)
    rfl

theorem upcoming_of_moveOn {u : Unit} (h : moveOn p = .ok u q) :
    q.upcoming = untilEnd p.stream.tokens := by
  unfold moveOn at h
  split at h
  · rename_i token rest hfetch
    obtain ⟨-, rfl⟩ := EStateM.Result.ok.inj h
    exact untilEnd_of_fetch hfetch
  · cases h

/-- What is consumed was the first upcoming token. -/
theorem upcoming_of_consume {wanted : TokenKind} {token : Token} (h : consume wanted p = .ok token q)
    (hwanted : wanted ≠ .exprEnd) : token.kind = wanted ∧ p.upcoming = token :: q.upcoming := by
  refine ⟨kind_of_consume h, ?_⟩
  rw [consume] at h
  split at h
  · rename_i hkind
    have hend : p.current.isEnd = false := by simp [Token.isEnd, hkind, hwanted]
    rw [hend] at h
    obtain ⟨_, p', hmove, hreturn⟩ := exists_of_bind_eq_ok h
    obtain ⟨rfl, rfl⟩ := EStateM.Result.ok.inj hreturn
    rw [upcoming, untilEnd_cons hend, upcoming_of_moveOn hmove]
  · cases h

theorem upcoming_of_literal {tree : Subtree} (h : literal p = .ok tree q) :
    ∃ token, token.kind = .number ∧ p.upcoming = token :: q.upcoming ∧
      tree = { expr := .number token.lexeme, depth := 0 } := by
  unfold literal at h
  split at h
  · cases h
  · obtain ⟨token, p', hconsume, hreturn⟩ := exists_of_bind_eq_ok h
    obtain ⟨rfl, rfl⟩ := EStateM.Result.ok.inj hreturn
    obtain ⟨hkind, hupcoming⟩ := upcoming_of_consume hconsume (by decide)
    exact ⟨token, hkind, hupcoming, rfl⟩

theorem upcoming_of_enter {u : Unit} (h : enter p = .ok u q) :
    ∃ opening, opening.kind = .bracketOpen ∧ p.upcoming = opening :: q.upcoming := by
  unfold enter at h
  split at h
  · cases h
  · obtain ⟨opening, p', hconsume, hmodify⟩ := exists_of_bind_eq_ok h
    obtain ⟨-, rfl⟩ := EStateM.Result.ok.inj hmodify
    obtain ⟨hkind, hupcoming⟩ := upcoming_of_consume hconsume (by decide)
    exact ⟨opening, hkind, hupcoming⟩

theorem upcoming_of_leave {u : Unit} (h : leave p = .ok u q) :
    ∃ closing, closing.kind = .bracketClose ∧ p.upcoming = closing :: q.upcoming := by
  unfold leave at h
  split at h
  · cases h
  · obtain ⟨closing, p', hconsume, hmodify⟩ := exists_of_bind_eq_ok h
    obtain ⟨-, rfl⟩ := EStateM.Result.ok.inj hmodify
    obtain ⟨hkind, hupcoming⟩ := upcoming_of_consume hconsume (by decide)
    exact ⟨closing, hkind, hupcoming⟩

theorem eq_of_join {op : BinaryOp} {sign : Token} {left right tree : Subtree}
    (h : join op sign left right p = .ok tree q) :
    q = p ∧ max left.depth right.depth + 1 ≤ maxOperationDepth ∧
      tree = { expr := .binary op left.expr right.expr,
               depth := max left.depth right.depth + 1 } := by
  have hjoin := ensures_join op sign left right p
  rwa [h] at hjoin

end Steps

/-! ## The rules -/

/-- A chain whose part up to here was formed by the tokens `before` goes on as a chain. -/
def ExtendsTokens (rule : Rule) (before : List Token) (p : TokenReader) (tree : Subtree)
    (q : TokenReader) : Prop :=
  ∃ after, p.upcoming = after ++ q.upcoming ∧ Derives rule (before ++ after) tree.expr ∧
    tree.depth = tree.expr.depth ∧ tree.depth ≤ maxOperationDepth

/-- Whatever is read from a state has consumed the tokens that form it. -/
structure TracksTokens (p : TokenReader) : Prop where
  /-- A rule is read from its tokens. -/
  read {rule : Rule} {tree : Subtree} {q : TokenReader} (h : read rule p = .ok tree q) :
    ∃ consumed, ReadsTokens rule p consumed tree q
  /-- A chain goes on. -/
  extend {rule operand : Rule} {before : List Token} {left tree : Subtree} {q : TokenReader}
    (hrule : rule.ChainOf operand) (hbefore : Derives rule before left.expr)
    (hdepth : left.depth = left.expr.depth) (hle : left.depth ≤ maxOperationDepth)
    (h : extend rule left p = .ok tree q) : ExtendsTokens rule before p tree q

section TracksTokens

variable {p q : TokenReader} {tree : Subtree}
  (ih : ∀ p' : TokenReader, p'.upcoming.length < p.upcoming.length → TracksTokens p')

include ih

theorem readsTokens_of_read_factor (h : read .factor p = .ok tree q) :
    ∃ consumed, ReadsTokens .factor p consumed tree q := by
  rw [read_factor] at h
  split at h
  · obtain ⟨token, hkind, hupcoming, rfl⟩ := upcoming_of_literal h
    exact ⟨[token], hupcoming, .number hkind, rfl, Nat.zero_le _⟩
  · obtain ⟨_, p₁, henter, hafter⟩ := exists_of_bind_eq_ok h
    obtain ⟨opening, hopening, hp⟩ := upcoming_of_enter henter
    obtain ⟨tree', p₂, hread, hafter⟩ := exists_of_bind_eq_ok hafter
    have hlt : p₁.upcoming.length < p.upcoming.length := by rw [hp]; exact Nat.lt_succ_self _
    obtain ⟨inner, hinner⟩ := (ih p₁ hlt).read hread
    obtain ⟨_, p₃, hleave, hreturn⟩ := exists_of_bind_eq_ok hafter
    obtain ⟨closing, hclosing, hp₂⟩ := upcoming_of_leave hleave
    obtain ⟨rfl, rfl⟩ := EStateM.Result.ok.inj hreturn
    refine ⟨opening :: (inner ++ [closing]), ?_, ?_, hinner.depth_eq, hinner.depth_le⟩
    · rw [hp, hinner.upcoming_eq, hp₂]
      simp only [List.cons_append, List.append_assoc, List.nil_append]
    · exact .brackets hopening hinner.derives hclosing
  · cases h

theorem extendsTokens_of_extend {rule operand : Rule} {before : List Token} {left : Subtree}
    (hrule : rule.ChainOf operand) (hbefore : Derives rule before left.expr)
    (hdepth : left.depth = left.expr.depth) (hle : left.depth ≤ maxOperationDepth)
    (h : extend rule left p = .ok tree q) : ExtendsTokens rule before p tree q := by
  rw [extend_eq] at h
  split at h
  · obtain ⟨rfl, rfl⟩ := EStateM.Result.ok.inj h
    refine ⟨[], rfl, ?_, hdepth, hle⟩
    rwa [List.append_nil]
  · rename_i op hop
    have hsign := Rule.joins_iff.2 hop
    rw [hrule.operand_eq] at h
    obtain ⟨sign, p₁, hconsume, hafter⟩ := exists_of_bind_eq_ok h
    obtain ⟨hkind, hp⟩ := upcoming_of_consume hconsume hsign.kind_ne.2.2.2
    obtain ⟨right, p₂, hread, hafter⟩ := exists_of_bind_eq_ok hafter
    have hlt₁ : p₁.upcoming.length < p.upcoming.length := by rw [hp]; exact Nat.lt_succ_self _
    obtain ⟨front, hfront⟩ := (ih p₁ hlt₁).read hread
    obtain ⟨tree', p₃, hjoin, hextend⟩ := exists_of_bind_eq_ok hafter
    obtain ⟨rfl, hlimit, rfl⟩ := eq_of_join hjoin
    rw [← hkind] at hsign
    -- What stands before the sign and the operand behind it are a longer chain, which goes on.
    have hchain := Derives.chain hrule hbefore hsign hfront.derives
    have hp₁ := hfront.upcoming_eq
    have hlt₂ : p₃.upcoming.length < p.upcoming.length := by
      rw [hp, hp₁, List.length_cons, List.length_append]
      omega
    have hdepth' : max left.depth right.depth + 1 =
        (Expr.binary op left.expr right.expr).depth := by
      rw [Expr.depth, hdepth, hfront.depth_eq]
    obtain ⟨after, hafter, hderives, hlimits⟩ :=
      (ih p₃ hlt₂).extend hrule hchain hdepth' hlimit hextend
    refine ⟨sign :: (front ++ after), ?_, ?_, hlimits⟩
    · rw [hp, hp₁, hafter, List.cons_append, List.append_assoc]
    · rwa [List.append_assoc, List.cons_append] at hderives

/-- A chain consumes what its first operand and the rest of it consume. -/
theorem readsTokens_of_read_chain {rule operand : Rule} (hrule : rule.ChainOf operand)
    (hoperand : ∀ {tree q}, read operand p = .ok tree q →
      ∃ consumed, ReadsTokens operand p consumed tree q)
    (h : read rule p = .ok tree q) : ∃ consumed, ReadsTokens rule p consumed tree q := by
  rw [read_chain hrule.ne_factor, hrule.operand_eq] at h
  obtain ⟨left, p₁, hread, hextend⟩ := exists_of_bind_eq_ok h
  obtain ⟨front, hfront⟩ := hoperand hread
  have hp := hfront.upcoming_eq
  have hpos := hfront.derives.length_pos
  have hlt : p₁.upcoming.length < p.upcoming.length := by
    rw [hp, List.length_append]
    omega
  obtain ⟨after, hafter, hderives, hdepth, hle⟩ :=
    (ih p₁ hlt).extend hrule (.single hrule hfront.derives) hfront.depth_eq hfront.depth_le hextend
  refine ⟨front ++ after, ?_, hderives, hdepth, hle⟩
  rw [hp, hafter, List.append_assoc]

end TracksTokens

theorem tracksTokens (p : TokenReader) : TracksTokens p := by
  -- A nested part and the rest of a chain are read behind a consumed token, so the induction is on
  -- how many tokens are upcoming.
  induction hn : p.upcoming.length using Nat.strongRecOn generalizing p with
  | _ n hshorter =>
    have ih : ∀ p' : TokenReader, p'.upcoming.length < p.upcoming.length → TracksTokens p' := by
      intro p' hlt
      exact hshorter p'.upcoming.length (hn ▸ hlt) p' rfl
    have hfactor : ∀ {tree q}, read .factor p = .ok tree q →
        ∃ consumed, ReadsTokens .factor p consumed tree q := readsTokens_of_read_factor ih
    have hterm : ∀ {tree q}, read .term p = .ok tree q →
        ∃ consumed, ReadsTokens .term p consumed tree q :=
      readsTokens_of_read_chain ih .term hfactor
    constructor
    · intro rule tree q h
      cases rule with
      | expr => exact readsTokens_of_read_chain ih .expr hterm h
      | term => exact hterm h
      | factor => exact hfactor h
    · intro rule operand before left tree q hrule hbefore hdepth hle h
      exact extendsTokens_of_extend ih hrule hbefore hdepth hle h

/-- The tokens that were consumed for a part of an expression form it, and its depth is that of its
tree, within the limit. -/
theorem readsTokens_of_read {rule : Rule} {p q : TokenReader} {tree : Subtree}
    (h : read rule p = .ok tree q) : ∃ consumed, ReadsTokens rule p consumed tree q :=
  (tracksTokens p).read h

end ExprCompiler.TokenReader
