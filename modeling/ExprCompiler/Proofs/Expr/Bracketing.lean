import ExprCompiler.Expr.Artifact
import ExprCompiler.Proofs.Expr.Limits

/-!
# Brackets around a node

`HasSpan` says which tokens a node of a tree is read from. Brackets leave no node, so the tokens of a
node may be taken with the brackets around them or without. A part of a chain that is no operand of
it, such as the first sum in `1 + 2 + 3`, has tokens as well, since the chain is read from the left.

One more pair of brackets around these tokens makes them a factor, which can stand wherever they
stood (`HasSpan.derives_bracketed`). So the tree stays as it is, and only the limit on brackets is in
the way (`Expr.ofTokens_bracketed`).
-/

namespace ExprCompiler

/-- One of the two operands of an operation. -/
inductive Side where
  /-- The operand before the sign. -/
  | left
  /-- The operand behind the sign. -/
  | right
  deriving DecidableEq, Repr

namespace Expr

/-- An operand of the operation at the root. -/
def operand? : Expr → Side → Option Expr
  | .binary _ a _, .left => some a
  | .binary _ _ b, .right => some b
  | _, _ => none

/-- The node that is reached from the root over these operands. -/
def node? (tree : Expr) (path : List Side) : Option Expr :=
  path.foldlM operand? tree

end Expr

/-- `HasSpan rule tree path before span after`: the tokens before, in and after the span form a part
that the rule describes, with this tree, and the node at `path` is read from those in the span. -/
inductive HasSpan : Rule → Expr → List Side → List Token → List Token → List Token → Prop where
  /-- The root is read from all tokens. -/
  | whole {rule : Rule} {tokens : List Token} {tree : Expr} (htokens : Derives rule tokens tree) :
      HasSpan rule tree [] [] tokens []
  /-- A node is in brackets. -/
  | brackets {opening closing : Token} {tree : Expr} {path : List Side}
      {before span after : List Token} (hopening : opening.kind = .bracketOpen)
      (hinner : HasSpan .expr tree path before span after)
      (hclosing : closing.kind = .bracketClose) :
      HasSpan .factor tree path (opening :: before) span (after ++ [closing])
  /-- A node is in the only operand of a chain. -/
  | single {rule operand : Rule} {tree : Expr} {path : List Side} {before span after : List Token}
      (hrule : rule.ChainOf operand) (htokens : HasSpan operand tree path before span after) :
      HasSpan rule tree path before span after
  /-- A node is before the last sign of a chain. -/
  | left {rule operand : Rule} {path : List Side} {before span after right : List Token}
      {sign : Token} {op : BinaryOp} {a b : Expr} (hrule : rule.ChainOf operand)
      (hleft : HasSpan rule a path before span after) (hsign : rule.Joins sign.kind op)
      (hright : Derives operand right b) :
      HasSpan rule (.binary op a b) (.left :: path) before span (after ++ sign :: right)
  /-- A node is in the last operand of a chain. -/
  | right {rule operand : Rule} {path : List Side} {left before span after : List Token}
      {sign : Token} {op : BinaryOp} {a b : Expr} (hrule : rule.ChainOf operand)
      (hleft : Derives rule left a) (hsign : rule.Joins sign.kind op)
      (hright : HasSpan operand b path before span after) :
      HasSpan rule (.binary op a b) (.right :: path) (left ++ sign :: before) span after

/-- Every node of a tree is read from some of the tokens. -/
theorem Derives.exists_hasSpan {rule : Rule} {tokens : List Token} {tree : Expr}
    (h : Derives rule tokens tree) {path : List Side} {node : Expr}
    (hnode : tree.node? path = some node) :
    ∃ before span after, tokens = before ++ (span ++ after) ∧
      HasSpan rule tree path before span after := by
  induction h generalizing path with
  | number hkind =>
    cases path with
    | nil => exact ⟨[], _, [], (List.append_nil _).symm, .whole (.number hkind)⟩
    | cons side path => simp [Expr.node?, Expr.operand?] at hnode
  | @brackets opening closing inner tree hopening _ hclosing ih =>
    obtain ⟨before, span, after, rfl, hspan⟩ := ih hnode
    exact ⟨opening :: before, span, after ++ [closing], by simp, .brackets hopening hspan hclosing⟩
  | single hrule _ ih =>
    obtain ⟨before, span, after, htokens, hspan⟩ := ih hnode
    exact ⟨before, span, after, htokens, .single hrule hspan⟩
  | @chain rule operand left right sign op a b hrule hleft hsign hright ihleft ihright =>
    cases path with
    | nil => exact ⟨[], _, [], (List.append_nil _).symm, .whole (.chain hrule hleft hsign hright)⟩
    | cons side path =>
      cases side with
      | left =>
        obtain ⟨before, span, after, rfl, hspan⟩ := ihleft hnode
        exact ⟨before, span, after ++ sign :: right, by simp, .left hrule hspan hsign hright⟩
      | right =>
        obtain ⟨before, span, after, rfl, hspan⟩ := ihright hnode
        exact ⟨left ++ sign :: before, span, after, by simp, .right hrule hleft hsign hspan⟩

namespace HasSpan

variable {rule : Rule} {tree : Expr} {path : List Side} {before span after : List Token}

/-- Some rule describes the tokens of a node, and all that it describes with the same tree can take
their place. -/
theorem exists_context (h : HasSpan rule tree path before span after) :
    ∃ node inner, tree.node? path = some node ∧ Derives inner span node ∧
      ∀ part, Derives inner part node → Derives rule (before ++ (part ++ after)) tree := by
  induction h with
  | @whole rule tokens tree htokens =>
    exact ⟨tree, rule, rfl, htokens, fun part hpart => by simpa using hpart⟩
  | brackets hopening _ hclosing ih =>
    obtain ⟨node, inner, hnode, hspan, hcontext⟩ := ih
    refine ⟨node, inner, hnode, hspan, fun part hpart => ?_⟩
    simpa using Derives.brackets hopening (hcontext part hpart) hclosing
  | single hrule _ ih =>
    obtain ⟨node, inner, hnode, hspan, hcontext⟩ := ih
    exact ⟨node, inner, hnode, hspan, fun part hpart => .single hrule (hcontext part hpart)⟩
  | left hrule _ hsign hright ih =>
    obtain ⟨node, inner, hnode, hspan, hcontext⟩ := ih
    refine ⟨node, inner, hnode, hspan, fun part hpart => ?_⟩
    simpa using Derives.chain hrule (hcontext part hpart) hsign hright
  | right hrule hleft hsign _ ih =>
    obtain ⟨node, inner, hnode, hspan, hcontext⟩ := ih
    refine ⟨node, inner, hnode, hspan, fun part hpart => ?_⟩
    simpa using Derives.chain hrule hleft hsign (hcontext part hpart)

/-- The tokens of a node are an expression of their own. -/
theorem exists_node (h : HasSpan rule tree path before span after) :
    ∃ node, tree.node? path = some node ∧ Derives .expr span node := by
  obtain ⟨node, inner, hnode, hspan, -⟩ := h.exists_context
  exact ⟨node, hnode, hspan.to_expr⟩

theorem derives (h : HasSpan rule tree path before span after) :
    Derives rule (before ++ (span ++ after)) tree := by
  obtain ⟨node, inner, -, hspan, hcontext⟩ := h.exists_context
  exact hcontext span hspan

/-- One more pair of brackets around the tokens of a node leaves the tree as it is. They make a factor
of the tokens, and every rule describes a factor. -/
theorem derives_bracketed (h : HasSpan rule tree path before span after) {opening closing : Token}
    (hopening : opening.kind = .bracketOpen) (hclosing : closing.kind = .bracketClose) :
    Derives rule (before ++ opening :: (span ++ closing :: after)) tree := by
  obtain ⟨node, inner, -, hspan, hcontext⟩ := h.exists_context
  have hfactor := Derives.brackets hopening hspan.to_expr hclosing
  simpa using hcontext _ (hfactor.of_factor inner)

end HasSpan

/-! ## Lists of tokens -/

theorem WellPointed.bracketed {before span after : List Token} {opening closing : Token}
    (h : WellPointed (before ++ (span ++ after))) (hopening : opening.kind = .bracketOpen)
    (hclosing : closing.kind = .bracketClose) :
    WellPointed (before ++ opening :: (span ++ closing :: after)) := by
  obtain ⟨hbefore, hrest⟩ := List.forall_mem_append.1 h
  obtain ⟨hspan, hafter⟩ := List.forall_mem_append.1 hrest
  refine List.forall_mem_append.2 ⟨hbefore, List.forall_mem_cons.2 ⟨?_, ?_⟩⟩
  · simp [hopening]
  · refine List.forall_mem_append.2 ⟨hspan, List.forall_mem_cons.2 ⟨?_, hafter⟩⟩
    simp [hclosing]

namespace Expr

variable {tokens : List Token} {source : Option String} {tree : Expr}

/-- An expression whose brackets nest too deep is refused because of a limit. -/
theorem ofTokens_of_lt_bracketNesting (h : Derives .expr (untilEnd tokens) tree)
    (hpoints : WellPointed (untilEnd tokens))
    (hbrackets : maxBracketDepth < bracketNesting 0 (untilEnd tokens)) :
    ∃ error, ofTokens tokens source = .error (.grammatical error) ∧ error.kind = .tooDeep := by
  obtain ⟨events, hevents⟩ := LimitEvents.exists_of_derives h 0 0
  cases hfirst : events.find? LimitEvent.crosses with
  | none =>
    have hkept := (hevents.find?_eq_none_iff (Nat.zero_le _)).1 hfirst
    exact absurd hkept.1 (Nat.not_le_of_lt hbrackets)
  | some event =>
    obtain ⟨error, herror, hkind, -⟩ := ofTokens_of_find?_eq_some source hevents hpoints hfirst
    exact ⟨error, herror, hkind⟩

/-- Every node of a tree that was read has tokens that it was read from, with or without the brackets
around them. One more pair of brackets there, and the same tree is read, which has the same artifact,
unless brackets nest more than 100 deep then; that is refused because of the limit. -/
theorem ofTokens_bracketed (h : ofTokens tokens source = .ok tree) :
    (∀ path node, tree.node? path = some node →
      ∃ before span after, tokens = before ++ (span ++ after) ∧
        HasSpan .expr tree path before span (untilEnd after)) ∧
    ∀ path before span after, tokens = before ++ (span ++ after) →
      HasSpan .expr tree path before span (untilEnd after) →
      (∃ node, tree.node? path = some node ∧ Derives .expr span node) ∧
      ∀ (opening closing : Token) (bracketed : List Token) (source' : Option String),
        opening.kind = .bracketOpen → closing.kind = .bracketClose →
        bracketed = before ++ opening :: (span ++ closing :: after) →
        (bracketNesting 0 (untilEnd bracketed) ≤ 100 →
          ofTokens bracketed source' = .ok tree ∧
          (ofTokens bracketed source').map artifact = (ofTokens tokens source).map artifact) ∧
        (100 < bracketNesting 0 (untilEnd bracketed) →
          ∃ error, ofTokens bracketed source' = .error (.grammatical error) ∧
            error.kind = .tooDeep) := by
  have hsentence := sentence_of_ofTokens h
  refine ⟨fun path node hnode => ?_, ?_⟩
  · obtain ⟨before, span, rest, htokens, hspan⟩ := hsentence.derives.exists_hasSpan hnode
    rw [← List.append_assoc] at htokens
    obtain ⟨after, rfl, rfl⟩ := exists_append_of_untilEnd htokens
    exact ⟨before, span, after, List.append_assoc _ _ _, hspan⟩
  · rintro path before span after rfl hspan
    refine ⟨hspan.exists_node, ?_⟩
    rintro opening closing _ source' hopening hclosing rfl
    -- An end may stand behind the span only, so the new brackets come before the first end as well.
    obtain ⟨hbefore, hrest⟩ := List.forall_mem_append.1 hspan.derives.isEnd_eq_false
    obtain ⟨hinside, -⟩ := List.forall_mem_append.1 hrest
    have huntil : untilEnd (before ++ (span ++ after)) = before ++ (span ++ untilEnd after) := by
      rw [untilEnd_append hbefore, untilEnd_append hinside]
    have huntil' : untilEnd (before ++ opening :: (span ++ closing :: after)) =
        before ++ opening :: (span ++ closing :: untilEnd after) := by
      rw [untilEnd_append hbefore, untilEnd_cons (by simp [Token.isEnd, hopening]),
        untilEnd_append hinside, untilEnd_cons (by simp [Token.isEnd, hclosing])]
    have hderives := huntil' ▸ hspan.derives_bracketed hopening hclosing
    have hpoints : WellPointed (untilEnd (before ++ opening :: (span ++ closing :: after))) :=
      huntil' ▸ WellPointed.bracketed (huntil ▸ hsentence.numbers) hopening hclosing
    constructor
    · intro hbrackets
      have hlimits : KeepsLimits 0 _ tree := ⟨hpoints, hbrackets, hsentence.operations⟩
      have hok : ofTokens _ source' = .ok tree := ofTokens_of_sentence ⟨hlimits, hderives⟩
      exact ⟨hok, by rw [hok, h]⟩
    · exact ofTokens_of_lt_bracketNesting hderives hpoints

theorem ofTokens_bracketed_difference :
    ∃ before span after tree, HasSpan .expr tree [.left] before span after ∧
      (before ++ (span ++ after)).map Token.lexeme = ["1", "-", "2", "-", "3"] ∧
      ofTokens (before ++ (span ++ after)) none = .ok tree ∧
      span.map Token.lexeme = ["1", "-", "2"] ∧
      ∃ bracketed, bracketed.map Token.lexeme = ["(", "1", "-", "2", ")", "-", "3"] ∧
        ofTokens bracketed none = .ok tree := by
  let first : List Token := [⟨.number, "1", 0⟩, ⟨.minus, "-", 1⟩, ⟨.number, "2", 2⟩]
  let rest : List Token := [⟨.minus, "-", 3⟩, ⟨.number, "3", 4⟩]
  let tree : Expr := .binary .sub (.binary .sub (.number "1") (.number "2")) (.number "3")
  have hone : Derives .expr [⟨.number, "1", 0⟩] (.number "1") := (Derives.number rfl).of_factor _
  have htwo : Derives .term [⟨.number, "2", 2⟩] (.number "2") := (Derives.number rfl).of_factor _
  have hthree : Derives .term [⟨.number, "3", 4⟩] (.number "3") := (Derives.number rfl).of_factor _
  have hspan : HasSpan .expr tree [.left] [] first rest :=
    .left .expr (.whole (.chain .expr hone .sub htwo)) .sub hthree
  have hlimits : KeepsLimits 0 (untilEnd (first ++ rest)) tree :=
    ⟨by decide, by decide, by decide⟩
  have h : ofTokens (first ++ rest) none = .ok tree :=
    ofTokens_of_sentence ⟨hlimits, hspan.derives⟩
  have hbracketed := ((ofTokens_bracketed h).2 [.left] [] first rest rfl hspan).2
    TokenKind.bracketOpen.sample TokenKind.bracketClose.sample _ none rfl rfl rfl
  exact ⟨[], first, rest, tree, hspan, rfl, h, rfl, _, rfl, (hbracketed.1 (by decide)).1⟩

end Expr

end ExprCompiler
