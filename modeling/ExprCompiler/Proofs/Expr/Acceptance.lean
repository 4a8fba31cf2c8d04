import ExprCompiler.Proofs.Expr.ReaderState
import ExprCompiler.Proofs.Expr.Unambiguity

/-!
# Which tokens are read as an expression

A list of tokens is read as the tree that the grammar gives it, provided that it keeps the limits
(`Sentence`), and every other list is refused with an error of the grammar
(`ofTokens_eq_ok_iff_derives`). One direction is an induction over what the reader does, the other an
induction over derivations.
-/

namespace ExprCompiler

/-- Every number has at most one point. -/
def WellPointed (tokens : List Token) : Prop :=
  ∀ token ∈ tokens, token.kind = .number → token.lexeme.toList.count '.' ≤ 1

/-- Tokens with a tree that keep all limits, where `opened` brackets are open around them. -/
structure KeepsLimits (opened : Nat) (tokens : List Token) (tree : Expr) : Prop where
  /-- Every number literal has at most one point. -/
  numbers : ∀ token ∈ tokens, token.kind = .number → token.lexeme.toList.count '.' ≤ 1
  /-- No bracket is too many. -/
  brackets : bracketNesting opened tokens ≤ maxBracketDepth
  /-- No operation is too many. -/
  operations : tree.depth ≤ maxOperationDepth

/-- Tokens that form a part of an expression and keep all limits. -/
structure Sentence (rule : Rule) (opened : Nat) (tokens : List Token) (tree : Expr) : Prop
    extends KeepsLimits opened tokens tree where
  /-- The grammar admits them. -/
  derives : Derives rule tokens tree

namespace KeepsLimits

variable {rule : Rule} {opened : Nat} {left right inner : List Token} {sign : Token}
  {op : BinaryOp} {a b tree : Expr}

/-- What is in brackets keeps the limits too, one bracket further in. -/
theorem of_brackets {opening closing : Token} (hinner : Derives .expr inner tree)
    (hopening : opening.kind = .bracketOpen) (hclosing : closing.kind = .bracketClose)
    (h : KeepsLimits opened (opening :: (inner ++ [closing])) tree) :
    KeepsLimits (opened + 1) inner tree where
  numbers token hmem := h.numbers token (by simp [hmem])
  brackets := by
    rw [← hinner.bracketNesting_brackets hopening hclosing]
    exact h.brackets
  operations := h.operations

/-- The part of a chain before a sign keeps the limits too. -/
theorem of_left (hleft : Derives rule left a) (hsign : rule.Joins sign.kind op)
    (h : KeepsLimits opened (left ++ sign :: right) (.binary op a b)) :
    KeepsLimits opened left a where
  numbers token hmem := h.numbers token (by simp [hmem])
  brackets := by
    have hboth := h.brackets
    rw [hleft.bracketNesting_chain hsign] at hboth
    exact (Nat.max_le.1 hboth).1
  operations := by
    have hboth := h.operations
    rw [Expr.depth] at hboth
    omega

theorem of_right (hleft : Derives rule left a) (hsign : rule.Joins sign.kind op)
    (h : KeepsLimits opened (left ++ sign :: right) (.binary op a b)) :
    KeepsLimits opened right b where
  numbers token hmem := h.numbers token (by simp [hmem])
  brackets := by
    have hboth := h.brackets
    rw [hleft.bracketNesting_chain hsign] at hboth
    exact (Nat.max_le.1 hboth).2
  operations := by
    have hboth := h.operations
    rw [Expr.depth] at hboth
    omega

end KeepsLimits

namespace Sentence

variable {rule operand : Rule} {opened : Nat} {tokens left right : List Token} {tree a b : Expr}

theorem number {token : Token} (hkind : token.kind = .number)
    (hpoints : token.lexeme.toList.count '.' ≤ 1) (hopened : opened ≤ maxBracketDepth) :
    Sentence .factor opened [token] (.number token.lexeme) where
  derives := .number hkind
  numbers := by simpa using fun _ => hpoints
  brackets := by
    rw [bracketNesting_cons_of_ne (by simp [hkind]) (by simp [hkind])]
    exact hopened
  operations := Nat.zero_le _

/-- A sentence in brackets is one outside of them. -/
theorem enclose {opening closing : Token} (h : Sentence .expr (opened + 1) tokens tree)
    (hopening : opening.kind = .bracketOpen) (hclosing : closing.kind = .bracketClose) :
    Sentence .factor opened (opening :: (tokens ++ [closing])) tree where
  derives := .brackets hopening h.derives hclosing
  numbers := by
    intro token hmem hkind
    simp only [List.mem_cons, List.mem_append, List.not_mem_nil, or_false] at hmem
    rcases hmem with rfl | hmem | rfl
    · simp [hopening] at hkind
    · exact h.numbers token hmem hkind
    · simp [hclosing] at hkind
  brackets := by
    rw [h.derives.bracketNesting_brackets hopening hclosing]
    exact h.brackets
  operations := h.operations

theorem single (hrule : rule.ChainOf operand) (h : Sentence operand opened tokens tree) :
    Sentence rule opened tokens tree where
  derives := .single hrule h.derives
  numbers := h.numbers
  brackets := h.brackets
  operations := h.operations

/-- A chain of sentences is one if its tree is not too deep. -/
theorem chain {sign : Token} {op : BinaryOp} (hrule : rule.ChainOf operand)
    (hleft : Sentence rule opened left a) (hsign : rule.Joins sign.kind op)
    (hright : Sentence operand opened right b)
    (hdepth : (Expr.binary op a b).depth ≤ maxOperationDepth) :
    Sentence rule opened (left ++ sign :: right) (.binary op a b) where
  derives := .chain hrule hleft.derives hsign hright.derives
  numbers := by
    intro token hmem hkind
    rcases List.mem_append.1 hmem with hmem | hmem
    · exact hleft.numbers token hmem hkind
    · rcases List.mem_cons.1 hmem with rfl | hmem
      · exact absurd hkind hsign.kind_ne.1
      · exact hright.numbers token hmem hkind
  brackets := by
    rw [hleft.derives.bracketNesting_chain hsign]
    exact Nat.max_le.2 ⟨hleft.brackets, hright.brackets⟩
  operations := hdepth

end Sentence

/-- A part of an expression together with its depth. -/
def Subtree.ofExpr (tree : Expr) : Subtree :=
  { expr := tree, depth := tree.depth }

namespace TokenReader

/-! ## What is read is a sentence -/

/-- The result of reading `tokens`: the front of them is a sentence with the tree that was read, and
the reader awaits the rest. -/
def ReadsSentence (rule : Rule) (depth : Nat) (tokens : List Token) (tree : Subtree)
    (q : TokenReader) : Prop :=
  ∃ front rest, tokens = front ++ rest ∧ Sentence rule depth front tree.expr ∧
    tree.depth = tree.expr.depth ∧ q.Awaits depth rest

/-- From the given tokens only sentences are read. The part of a chain that was read `before`
belongs to the sentence. -/
structure ReadsOnlySentences (tokens : List Token) : Prop where
  /-- A rule is read as a sentence. -/
  read {rule : Rule} {depth : Nat} {p : TokenReader} (hdepth : depth ≤ maxBracketDepth)
    (hp : p.Awaits depth tokens) : Ensures (ReadsSentence rule depth tokens) (read rule p)
  /-- A chain that is a sentence goes on as one. -/
  extend {rule operand : Rule} {left : Subtree} {depth : Nat} {before : List Token}
    {p : TokenReader} (hrule : rule.ChainOf operand) (hbefore : Sentence rule depth before left.expr)
    (hleft : left.depth = left.expr.depth) (hdepth : depth ≤ maxBracketDepth)
    (hp : p.Awaits depth tokens) :
    Ensures (ReadsSentence rule depth (before ++ tokens)) (extend rule left p)

section ReadsOnlySentences

variable {tokens : List Token} {depth : Nat} {p : TokenReader}
  (ih : ∀ rest, rest.length < tokens.length → ReadsOnlySentences rest)

include ih

/-- A factor is a sentence if only sentences are read from what follows its first token. -/
theorem ensures_read_factor (hdepth : depth ≤ maxBracketDepth) (hp : p.Awaits depth tokens) :
    Ensures (ReadsSentence .factor depth tokens) (read .factor p) := by
  rw [read_factor]
  split
  · refine hp.ensures_literal.mono ?_
    rintro tree q ⟨token, rest, rfl, hkind, hpoints, rfl, hq⟩
    exact ⟨[token], rest, rfl, .number hkind hpoints hdepth, rfl, hq⟩
  · refine hp.ensures_enter.bind ?_
    rintro - p₁ ⟨opening, afterOpening, rfl, hopening, hdepth₁, hp₁⟩
    refine ((ih afterOpening (Nat.lt_succ_self _)).read hdepth₁ hp₁).bind ?_
    rintro tree p₂ ⟨inner, afterInner, rfl, hinner, htree, hp₂⟩
    refine hp₂.ensures_leave.bind ?_
    rintro - p₃ ⟨closing, rest, rfl, hclosing, hp₃⟩
    refine ⟨opening :: (inner ++ [closing]), rest, ?_, hinner.enclose hopening hclosing, htree, hp₃⟩
    simp only [List.cons_append, List.append_assoc, List.nil_append]
  · exact ensures_fail _ _ _

/-- A chain goes on as a sentence if only sentences are read from what follows its next sign. -/
theorem ensures_extend {rule operand : Rule} {left : Subtree} {before : List Token}
    (hrule : rule.ChainOf operand) (hbefore : Sentence rule depth before left.expr)
    (hleft : left.depth = left.expr.depth) (hdepth : depth ≤ maxBracketDepth)
    (hp : p.Awaits depth tokens) :
    Ensures (ReadsSentence rule depth (before ++ tokens)) (extend rule left p) := by
  rw [extend_eq]
  split
  · exact ⟨before, tokens, rfl, hbefore, hleft, hp⟩
  · rename_i op hop
    have hsign := Rule.joins_iff.2 hop
    refine (hp.ensures_consume hsign.kind_ne.2.2.2).bind ?_
    rintro sign p₁ ⟨afterSign, rfl, hkind, hp₁⟩
    rw [← hkind] at hsign
    rw [hrule.operand_eq]
    refine ((ih afterSign (Nat.lt_succ_self _)).read hdepth hp₁).bind ?_
    rintro right p₂ ⟨front, rest, rfl, hfront, hright, hp₂⟩
    refine (ensures_join op sign left right p₂).bind ?_
    rintro tree p₃ ⟨rfl, hjoin, rfl⟩
    have hchain : Sentence rule depth (before ++ sign :: front)
        (.binary op left.expr right.expr) := by
      refine .chain hrule hbefore hsign hfront ?_
      rw [Expr.depth, ← hleft, ← hright]
      exact hjoin
    have hrest : rest.length < (sign :: (front ++ rest)).length := by
      simp only [List.length_cons, List.length_append]
      omega
    have hsplit : before ++ sign :: (front ++ rest) = (before ++ sign :: front) ++ rest := by
      rw [List.append_assoc, List.cons_append]
    rw [hsplit]
    exact (ih rest hrest).extend hrule hchain (by simp only [Expr.depth, hleft, hright]) hdepth hp₂

/-- A chain is a sentence if its first operand is, and what follows is read as a continuation. -/
theorem ensures_read_chain {rule operand : Rule} (hrule : rule.ChainOf operand)
    (hoperand : Ensures (ReadsSentence operand depth tokens) (read operand p))
    (hdepth : depth ≤ maxBracketDepth) :
    Ensures (ReadsSentence rule depth tokens) (read rule p) := by
  rw [read_chain hrule.ne_factor, hrule.operand_eq]
  refine hoperand.bind ?_
  rintro left p₁ ⟨front, rest, rfl, hfront, hleft, hp₁⟩
  have hrest : rest.length < (front ++ rest).length := by
    have hpos := hfront.derives.length_pos
    rw [List.length_append]
    omega
  exact (ih rest hrest).extend hrule (hfront.single hrule) hleft hdepth hp₁

end ReadsOnlySentences

theorem readsOnlySentences (tokens : List Token) : ReadsOnlySentences tokens := by
  induction hn : tokens.length using Nat.strongRecOn generalizing tokens with
  | _ n hshorter =>
    have ih : ∀ rest, rest.length < tokens.length → ReadsOnlySentences rest := by
      intro rest hlt
      exact hshorter rest.length (hn ▸ hlt) rest rfl
    constructor
    · intro rule depth p hdepth hp
      have hfactor := ensures_read_factor ih hdepth hp
      have hterm := ensures_read_chain ih .term hfactor hdepth
      cases rule with
      | expr => exact ensures_read_chain ih .expr hterm hdepth
      | term => exact hterm
      | factor => exact hfactor
    · intro rule operand left depth before p hrule hbefore hleft hdepth hp
      exact ensures_extend ih hrule hbefore hleft hdepth hp

/-! ## Every sentence is read -/

/-- A list of tokens does not go on with a sign of a rule. -/
def Stops (rule : Rule) (tokens : List Token) : Prop :=
  ∀ token, tokens.head? = some token → rule.operator? token.kind = none

theorem stops_factor (tokens : List Token) : Stops .factor tokens :=
  fun _ _ => rfl

theorem stops_cons_of_joins {rule other : Rule} {sign : Token} {op : BinaryOp} {rest : List Token}
    (hsign : rule.Joins sign.kind op) (hne : other ≠ rule) : Stops other (sign :: rest) := by
  intro token hhead
  obtain rfl := Option.some.inj hhead
  cases hop : other.operator? sign.kind with
  | none => rfl
  | some op' => exact absurd ((Rule.joins_iff.2 hop).unique hsign).1 hne

/-- Where a chain of a rule ends, and below an expression no chain goes on, the last operand ends. -/
theorem stops_operand {rule operand : Rule} {rest : List Token} (hrule : rule.ChainOf operand)
    (h : rule = .expr → Stops .term rest) : Stops operand rest := by
  cases hrule with
  | expr => exact h rfl
  | term => exact stops_factor rest

/-- A chain ends where no sign of its rule follows. -/
theorem Awaits.extend_of_stops {p : TokenReader} {depth : Nat} {rest : List Token} {rule : Rule}
    (hp : p.Awaits depth rest) (hstops : Stops rule rest) (left : Subtree) :
    extend rule left p = .ok left p := by
  have hop : rule.operator? p.current.kind = none := by
    cases rest with
    | nil =>
      have hend := hp.isEnd_current
      rw [Token.isEnd, beq_iff_eq] at hend
      rw [hend, Rule.operator?_exprEnd]
    | cons token rest =>
      rw [hp.current_eq]
      exact hstops token rfl
  rw [extend_eq]
  simp only [hop]

/-- A chain goes on over a sign with the operand behind it. -/
theorem Awaits.extend_eq_read {p : TokenReader} {depth : Nat} {sign : Token} {rest : List Token}
    {rule operand : Rule} {op : BinaryOp} (hp : p.Awaits depth (sign :: rest))
    (hrule : rule.ChainOf operand) (hsign : rule.Joins sign.kind op) (left : Subtree) :
    ∃ q, q.Awaits depth rest ∧
      extend rule left p =
        (do
          let right ← read operand
          let tree ← join op sign left right
          extend rule tree : Parse Subtree) q := by
  obtain ⟨q, hconsume, hq⟩ := hp.consume rfl
  have hop := Rule.joins_iff.1 hsign
  rw [← hp.current_eq] at hop
  refine ⟨q, hq, ?_⟩
  rw [extend_eq, hop, hp.current_eq, hrule.operand_eq]
  exact bind_of_ok hconsume

/-- If the operand can be read, it is joined next. -/
theorem Awaits.extend_eq_join {p : TokenReader} {depth : Nat} {sign : Token}
    {afterSign rest : List Token} {rule operand : Rule} {op : BinaryOp} {b : Expr}
    (hp : p.Awaits depth (sign :: afterSign)) (hrule : rule.ChainOf operand)
    (hsign : rule.Joins sign.kind op)
    (hright : ∀ q : TokenReader, q.Awaits depth afterSign →
      ∃ r, read operand q = .ok (.ofExpr b) r ∧ r.Awaits depth rest) (left : Subtree) :
    ∃ r, extend rule left p = (join op sign left (.ofExpr b) >>= extend rule) r ∧
      r.Awaits depth rest := by
  obtain ⟨q, hq, hextend⟩ := hp.extend_eq_read hrule hsign left
  obtain ⟨r, hread, hr⟩ := hright q hq
  exact ⟨r, hextend.trans (bind_of_ok hread), hr⟩

theorem Awaits.extend_of_joins {p : TokenReader} {depth : Nat} {sign : Token}
    {afterSign rest : List Token} {rule operand : Rule} {op : BinaryOp} {a b : Expr}
    (hp : p.Awaits depth (sign :: afterSign)) (hrule : rule.ChainOf operand)
    (hsign : rule.Joins sign.kind op) (hdepth : (Expr.binary op a b).depth ≤ maxOperationDepth)
    (hright : ∀ q : TokenReader, q.Awaits depth afterSign →
      ∃ r, read operand q = .ok (.ofExpr b) r ∧ r.Awaits depth rest) :
    ∃ r, extend rule (.ofExpr a) p = extend rule (.ofExpr (.binary op a b)) r ∧
      r.Awaits depth rest := by
  obtain ⟨r, hextend, hr⟩ := hp.extend_eq_join hrule hsign hright (.ofExpr a)
  have hjoin : join op sign (.ofExpr a) (.ofExpr b) r = .ok (.ofExpr (.binary op a b)) r :=
    join_of_le r hdepth
  exact ⟨r, hextend.trans (bind_of_ok hjoin), hr⟩

/-- Tokens that form a part of an expression and keep all limits are read as the part's tree, and
the chain of the rule goes on after them. A lower chain must not go on there. -/
theorem read_of_derives {rule : Rule} {tokens : List Token} {tree : Expr}
    (h : Derives rule tokens tree) :
    ∀ {depth : Nat} {rest : List Token} {p : TokenReader}, KeepsLimits depth tokens tree →
      (rule = .expr → Stops .term rest) → p.Awaits depth (tokens ++ rest) →
      ∃ q, read rule p = extend rule (.ofExpr tree) q ∧ q.Awaits depth rest := by
  induction h with
  | @number token hkind =>
    intro depth rest p hlimits _ hp
    obtain ⟨q, hliteral, hq⟩ := hp.literal hkind (hlimits.numbers token (by simp) hkind)
    refine ⟨q, ?_, hq⟩
    rw [read_factor, hp.current_eq, hkind, hq.extend_of_stops (stops_factor rest)]
    exact hliteral
  | @brackets opening closing inner tree hopening hinner hclosing ih =>
    intro depth rest p hlimits _ hp
    have hlimits' := hlimits.of_brackets hinner hopening hclosing
    have hdepth : depth < maxBracketDepth :=
      Nat.lt_of_succ_le (Nat.le_trans (le_bracketNesting (depth + 1) inner) hlimits'.brackets)
    rw [List.cons_append, List.append_assoc] at hp
    obtain ⟨p₁, henter, hp₁⟩ := hp.enter hopening hdepth
    have hstops : ∀ rule, Stops rule ([closing] ++ rest) := by
      intro rule token hhead
      obtain rfl := Option.some.inj hhead
      cases rule <;> simp [Rule.operator?, hclosing]
    obtain ⟨p₂, hread, hp₂⟩ := ih hlimits' (fun _ => hstops .term) hp₁
    rw [hp₂.extend_of_stops (hstops .expr)] at hread
    obtain ⟨p₃, hleave, hp₃⟩ := hp₂.leave hclosing
    refine ⟨p₃, ?_, hp₃⟩
    rw [read_factor, hp.current_eq, hopening, hp₃.extend_of_stops (stops_factor rest)]
    change (TokenReader.enter >>= _) p = _
    rw [bind_of_ok henter, bind_of_ok hread, bind_of_ok hleave]
    rfl
  | @single rule operand tokens tree hrule hoperand ih =>
    intro depth rest p hlimits hstops hp
    obtain ⟨q, hread, hq⟩ := ih hlimits (fun h => absurd h hrule.operand_ne_expr) hp
    rw [hq.extend_of_stops (stops_operand hrule hstops)] at hread
    refine ⟨q, ?_, hq⟩
    rw [read_chain hrule.ne_factor, hrule.operand_eq, bind_of_ok hread]
  | @chain rule operand left right sign op a b hrule hleft hsign hright ihleft ihright =>
    intro depth rest p hlimits hstops hp
    rw [List.append_assoc, List.cons_append] at hp
    have hsigned : rule = .expr → Stops .term (sign :: (right ++ rest)) := by
      rintro rfl
      exact stops_cons_of_joins hsign (by decide)
    obtain ⟨p₁, hread, hp₁⟩ := ihleft (hlimits.of_left hleft hsign) hsigned hp
    have hoperand : ∀ q : TokenReader, q.Awaits depth (right ++ rest) →
        ∃ r, read operand q = .ok (.ofExpr b) r ∧ r.Awaits depth rest := by
      intro q hq
      obtain ⟨r, hread, hr⟩ := ihright (hlimits.of_right hleft hsign)
        (fun h => absurd h hrule.operand_ne_expr) hq
      rw [hr.extend_of_stops (stops_operand hrule hstops)] at hread
      exact ⟨r, hread, hr⟩
    obtain ⟨p₂, hextend, hp₂⟩ := hp₁.extend_of_joins hrule hsign hlimits.operations hoperand
    exact ⟨p₂, hread.trans hextend, hp₂⟩

/-- The operand of a rule is read up to where its own chain ends. -/
theorem read_operand_of_derives {rule operand : Rule} {depth : Nat} {tokens rest : List Token}
    {tree : Expr} (hrule : rule.ChainOf operand) (h : Derives operand tokens tree)
    (hlimits : KeepsLimits depth tokens tree) (hstops : rule = .expr → Stops .term rest)
    {p : TokenReader} (hp : p.Awaits depth (tokens ++ rest)) :
    ∃ q, read operand p = .ok (.ofExpr tree) q ∧ q.Awaits depth rest := by
  obtain ⟨q, hread, hq⟩ :=
    read_of_derives h hlimits (fun hexpr => absurd hexpr hrule.operand_ne_expr) hp
  rw [hq.extend_of_stops (stops_operand hrule hstops)] at hread
  exact ⟨q, hread, hq⟩

theorem parse_of_read {p q : TokenReader} {tree : Subtree} (h : read .expr p = .ok tree q) :
    parse p =
      if q.current.isEnd then .ok tree.expr q else fail .trailingToken q.current q := by
  change (read .expr >>= _) p = _
  rw [bind_of_ok h]
  change (if q.current.isEnd then pure tree.expr else fail .trailingToken q.current :
    Parse Expr) q = _
  split <;> rfl

/-- A reader that awaits a sentence reads it, and looks at the end then. -/
theorem Awaits.read_of_sentence {p : TokenReader} {depth : Nat} {tokens : List Token} {tree : Expr}
    (hp : p.Awaits depth tokens) (h : Sentence .expr depth tokens tree) :
    ∃ q, read .expr p = .ok (.ofExpr tree) q ∧ q.Awaits depth [] := by
  rw [← List.append_nil tokens] at hp
  have hstops : ∀ rule, Stops rule [] := by simp [Stops]
  obtain ⟨q, hread, hq⟩ :=
    read_of_derives h.derives h.toKeepsLimits (fun _ => hstops .term) hp
  rw [hq.extend_of_stops (hstops .expr)] at hread
  exact ⟨q, hread, hq⟩

theorem Awaits.parse_of_sentence {p : TokenReader} {tokens : List Token} {tree : Expr}
    (hp : p.Awaits 0 tokens) (h : Sentence .expr 0 tokens tree) : ∃ q, parse p = .ok tree q := by
  obtain ⟨q, hread, hq⟩ := hp.read_of_sentence h
  refine ⟨q, ?_⟩
  rw [parse_of_read hread, if_pos hq.isEnd_current]
  rfl

/-- What is read as a whole expression are all awaited tokens, and they are a sentence. -/
theorem Awaits.ensures_parse {p : TokenReader} {tokens : List Token} (hp : p.Awaits 0 tokens) :
    Ensures (fun tree _ => Sentence .expr 0 tokens tree) (parse p) := by
  have hread : Ensures (ReadsSentence .expr 0 tokens) (read .expr p) :=
    (readsOnlySentences tokens).read (Nat.zero_le _) hp
  cases hres : read .expr p with
  | error failure q =>
    rw [hres] at hread
    change Ensures _ ((read .expr >>= _) p)
    rw [bind_of_error hres]
    exact hread
  | ok tree q =>
    rw [hres] at hread
    obtain ⟨front, rest, rfl, hfront, -, hq⟩ := hread
    rw [parse_of_read hres]
    split
    · rename_i hend
      rw [hq.eq_nil hend, List.append_nil]
      exact hfront
    · exact ensures_fail _ _ _

/-! ## Failures pass through the rules -/

section Fails

variable {p : TokenReader} {rule operand : Rule} {blame : ParseError → Prop}

theorem Fails.of_operand (hrule : rule.ChainOf operand) (h : Fails blame (read operand p)) :
    Fails blame (read rule p) := by
  rw [read_chain hrule.ne_factor, hrule.operand_eq]
  exact h.bind

theorem Fails.of_factor (rule : Rule) (h : Fails blame (read .factor p)) :
    Fails blame (read rule p) := by
  cases rule with
  | expr => exact (h.of_operand .term).of_operand .expr
  | term => exact h.of_operand .term
  | factor => exact h

/-- A chain fails as the operand behind its next sign does. -/
theorem Awaits.fails_extend {depth : Nat} {sign : Token} {rest : List Token} {op : BinaryOp}
    (hp : p.Awaits depth (sign :: rest)) (hrule : rule.ChainOf operand)
    (hsign : rule.Joins sign.kind op)
    (hoperand : ∀ q : TokenReader, q.Awaits depth rest → Fails blame (read operand q))
    (left : Subtree) : Fails blame (extend rule left p) := by
  obtain ⟨q, hq, hextend⟩ := hp.extend_eq_read hrule hsign left
  rw [hextend]
  exact (hoperand q hq).bind

end Fails

end TokenReader

/-! ## Lists of tokens -/

namespace Expr

variable {tokens : List Token} {source : Option String}

theorem ofTokens_of_sentence {tree : Expr} (h : Sentence .expr 0 (untilEnd tokens) tree) :
    ofTokens tokens source = .ok tree := by
  obtain ⟨p, hstart, hp⟩ := TokenReader.start_ofList tokens source
  obtain ⟨q, hparse⟩ := hp.parse_of_sentence h
  simp only [ofTokens, hstart, hparse]

theorem ofTokens_of_fails {blame : ParseError → Prop}
    (h : ∀ p : TokenReader, p.Awaits 0 (untilEnd tokens) →
      TokenReader.Fails blame (TokenReader.read .expr p)) :
    ∃ error, ofTokens tokens source = .error (.grammatical error) ∧ blame error := by
  obtain ⟨p, hstart, hp⟩ := TokenReader.start_ofList tokens source
  have hparse : TokenReader.Fails blame (TokenReader.parse p) := (h p hp).bind
  cases hres : TokenReader.parse p with
  | ok tree q =>
    rw [hres] at hparse
    exact hparse.elim
  | error failure q =>
    rw [hres] at hparse
    obtain ⟨error, rfl, herror⟩ := hparse
    exact ⟨error, by simp only [ofTokens, hstart, hres], herror⟩

/-- Tokens that describe a tree are a sentence, and all others break a rule of the grammar. -/
theorem ofTokens_cases (tokens : List Token) (source : Option String) :
    (∃ tree, ofTokens tokens source = .ok tree ∧ Sentence .expr 0 (untilEnd tokens) tree) ∨
      ∃ error, ofTokens tokens source = .error (.grammatical error) := by
  obtain ⟨p, hstart, hp⟩ := TokenReader.start_ofList tokens source
  have hparse := hp.ensures_parse
  cases hres : TokenReader.parse p with
  | ok tree q =>
    rw [hres] at hparse
    refine .inl ⟨tree, ?_, hparse⟩
    simp only [ofTokens, hstart, hres]
  | error failure q =>
    rw [hres] at hparse
    obtain ⟨error, rfl⟩ := hparse
    refine .inr ⟨error, ?_⟩
    simp only [ofTokens, hstart, hres]

theorem sentence_of_ofTokens {tree : Expr} (h : ofTokens tokens source = .ok tree) :
    Sentence .expr 0 (untilEnd tokens) tree := by
  rcases ofTokens_cases tokens source with ⟨tree', hok, hsentence⟩ | ⟨error, herror⟩
  · rw [h] at hok
    obtain rfl := Except.ok.inj hok
    exact hsentence
  · rw [h] at herror
    simp at herror

/-- A list of tokens describes a tree exactly if the tokens before the first end derive from the
grammar with this tree, no number among them has two points, their brackets nest to 100 at most and
the operations of the tree to 180. There is at most one tree that they derive with, and every other
list breaks a rule of the grammar. -/
theorem ofTokens_eq_ok_iff_derives (tokens : List Token) (source : Option String) :
    (∀ tree, ofTokens tokens source = .ok tree ↔
      Derives .expr (untilEnd tokens) tree ∧
      (∀ token ∈ untilEnd tokens, token.kind = .number → token.lexeme.toList.count '.' ≤ 1) ∧
      bracketNesting 0 (untilEnd tokens) ≤ 100 ∧ tree.depth ≤ 180) ∧
    (∀ tree tree', Derives .expr (untilEnd tokens) tree → Derives .expr (untilEnd tokens) tree' →
      tree = tree') ∧
    ((∃ tree, ofTokens tokens source = .ok tree) ∨
      ∃ error, ofTokens tokens source = .error (.grammatical error)) := by
  refine ⟨?_, ?_, ?_⟩
  · intro tree
    constructor
    · intro h
      have hsentence := sentence_of_ofTokens h
      exact ⟨hsentence.derives, hsentence.numbers, hsentence.brackets, hsentence.operations⟩
    · rintro ⟨hderives, hnumbers, hbrackets, hoperations⟩
      have hlimits : KeepsLimits 0 (untilEnd tokens) tree := ⟨hnumbers, hbrackets, hoperations⟩
      exact ofTokens_of_sentence ⟨hlimits, hderives⟩
  · intro tree tree' h h'
    exact h.unique h'
  · rcases ofTokens_cases tokens source with ⟨tree, hok, -⟩ | herror
    · exact .inl ⟨tree, hok⟩
    · exact .inr herror

end Expr

end ExprCompiler
