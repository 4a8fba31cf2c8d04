import ExprCompiler.Expr.Stepwise
import ExprCompiler.Proofs.Expr.ListReader
import ExprCompiler.Proofs.Expr.Unambiguity
import ExprCompiler.Proofs.Runs

/-!
# Counting brackets over many steps

A reader is not reset when it fails, so the brackets that it is in come from everything that it was
asked for before. Still each step changes their number by just the brackets among the tokens that the
step consumes, and a step that fails stops at the token that it blames, or, if an operation is nested
too deep, behind the right operand of that operation (`counts_performEach`).
-/

namespace ExprCompiler

/-- `Spans tokens index part index'`: from `index` up to `index'` the list has the tokens `part`. -/
structure Spans (tokens : List Token) (index : Nat) (part : List Token) (index' : Nat) : Prop where
  stands : part <+: tokens.drop index
  index_eq : index' = index + part.length

namespace Spans

variable {tokens part part' : List Token} {token : Token} {index index' index'' : Nat}

theorem nil (tokens : List Token) (index : Nat) : Spans tokens index [] index :=
  ⟨List.nil_prefix, rfl⟩

theorem trans (h : Spans tokens index part index') (h' : Spans tokens index' part' index'') :
    Spans tokens index (part ++ part') index'' := by
  obtain ⟨rest, hrest⟩ := h.stands
  obtain ⟨rest', hrest'⟩ := h'.stands
  have hdrop : tokens.drop index' = rest := by
    rw [h.index_eq, ← List.drop_drop, ← hrest, List.drop_left]
  refine ⟨⟨rest', ?_⟩, ?_⟩
  · rw [List.append_assoc, hrest', hdrop, hrest]
  · rw [h'.index_eq, h.index_eq, List.length_append, Nat.add_assoc]

theorem single (h : tokens[index]? = some token) : Spans tokens index [token] (index + 1) := by
  obtain ⟨hlt, htoken⟩ := List.getElem?_eq_some_iff.1 h
  refine ⟨⟨tokens.drop (index + 1), ?_⟩, rfl⟩
  rw [List.drop_eq_getElem_cons hlt, htoken]
  rfl

theorem of_kind {source : Option String} {kind : TokenKind}
    (hkind : (TokenReader.tokenAt tokens source index).kind = kind) (hend : kind ≠ .exprEnd) :
    Spans tokens index [TokenReader.tokenAt tokens source index] (index + 1) := by
  have hisEnd : (TokenReader.tokenAt tokens source index).isEnd = false := by
    simp [Token.isEnd, hkind, hend]
  exact single (TokenReader.getElem?_of_tokenAt hisEnd)

/-- Behind a token of a list, less of the list is left. -/
theorem left_lt (h : Spans tokens index part index') (hpart : 0 < part.length) :
    tokens.length - index' < tokens.length - index := by
  have hle := h.stands.length_le
  have heq := h.index_eq
  rw [List.length_drop] at hle
  omega

end Spans

theorem ParseError.kind_ne_tooDeep {error : ParseError} (h : error.fault = .missingOperand) :
    error.kind ≠ .tooDeep := by
  unfold kind
  simp only [h]
  split <;> decide

namespace TokenReader

/-- `LeftBy consumed q error`: where a step leaves its reader that has consumed the given tokens and
failed with the error. -/
inductive LeftBy (consumed : List Token) (q : TokenReader) (error : ParseError) : Prop where
  /-- It looks at the token that it blames. -/
  | found (hcurrent : q.current = error.found)
      (hkind : error.kind = .tooDeep → error.found.kind = .bracketOpen)
  /-- It blames the sign of an operation, and stands right behind the operation's right operand. -/
  | operand {before right : List Token} {rule operand : Rule} {op : BinaryOp} {b : Expr}
      (hkind : error.kind = .tooDeep) (hrule : rule.ChainOf operand)
      (hsign : rule.Joins error.found.kind op)
      (hconsumed : consumed = before ++ error.found :: right) (hright : Derives operand right b)
      (hstops : operand.operator? q.current.kind = none)

/-- `Counts request depth consumed depth' done`: what a step does that starts inside of `depth`
brackets, consumes the given tokens and ends inside of `depth'` brackets. -/
structure Counts (request : ParseRequest) (depth : Nat) (consumed : List Token) (depth' : Nat)
    (done : ParseStep) : Prop where
  /-- There are never too many brackets. -/
  le_max : depth' ≤ maxBracketDepth
  /-- Reading a part counts the brackets that it consumes. -/
  of_part : (∀ kind, request ≠ .token kind) → (depth' : Int) = depth + bracketBalance consumed
  /-- Consuming one token counts nothing. -/
  of_token : ∀ kind, request = .token kind → depth' = depth
  /-- A result is outside of all brackets that were entered for it. -/
  of_ok : ∀ reply, done.result = .ok reply → depth' = depth
  /-- A failure leaves none of the brackets that were there before. -/
  of_error : ∀ failure, done.result = .error failure →
    depth ≤ depth' ∧ ∃ error, failure = .grammatical error ∧ LeftBy consumed done.after error

/-- The step starts at some place of the list, and counts the brackets up to the place where it
ends. -/
def KeepsCount (tokens : List Token) (source : Option String) (p : TokenReader)
    (request : ParseRequest) (done : ParseStep) : Prop :=
  ∃ index depth consumed index' depth', p = readerAt tokens source index depth ∧
    Spans tokens index consumed index' ∧ done.after = readerAt tokens source index' depth' ∧
    Counts request depth consumed depth' done

/-! ## Where reading gets to -/

/-- A part was read from `index` on, and no chain of its rule goes on behind it. -/
def ReadsSpan (tokens : List Token) (source : Option String) (rule : Rule) (index depth : Nat)
    (q : TokenReader) : Prop :=
  ∃ part tree index', Spans tokens index part index' ∧ Derives rule part tree ∧
    q = readerAt tokens source index' depth ∧ rule.operator? q.current.kind = none

/-- Reading from `index` on failed, behind tokens that open at least as many brackets as they
close. -/
def FailsSpan (tokens : List Token) (source : Option String) (index depth : Nat) (error : ParseError)
    (q : TokenReader) : Prop :=
  ∃ consumed index' depth', Spans tokens index consumed index' ∧
    q = readerAt tokens source index' depth' ∧ (depth' : Int) = depth + bracketBalance consumed ∧
    depth ≤ depth' ∧ depth' ≤ maxBracketDepth ∧ LeftBy consumed q error

section Spans

variable {tokens front : List Token} {source : Option String} {index index₁ depth depth₁ : Nat}
  {error : ParseError} {q : TokenReader}

theorem LeftBy.append {consumed : List Token} (front : List Token) (h : LeftBy consumed q error) :
    LeftBy (front ++ consumed) q error := by
  cases h with
  | found hcurrent hkind => exact .found hcurrent hkind
  | @operand before right rule operand op b hkind hrule hsign hconsumed hright hstops =>
    have hfront : front ++ consumed = (front ++ before) ++ error.found :: right := by
      rw [hconsumed, List.append_assoc]
    exact .operand hkind hrule hsign hfront hright hstops

/-- What fails without consuming a token looks at the token that it blames. -/
theorem FailsSpan.here (hdepth : depth ≤ maxBracketDepth)
    (hfound : error.found = tokenAt tokens source index)
    (hkind : error.kind = .tooDeep → error.found.kind = .bracketOpen) :
    FailsSpan tokens source index depth error (readerAt tokens source index depth) := by
  refine ⟨[], index, depth, .nil tokens index, rfl, ?_, Nat.le_refl _, hdepth, ?_⟩
  · rw [bracketBalance, Int.add_zero]
  · exact .found hfound.symm hkind

/-- What fails behind some tokens fails behind them and all that it has consumed. -/
theorem FailsSpan.trans (hspan : Spans tokens index front index₁)
    (hbalance : (depth₁ : Int) = depth + bracketBalance front) (hle : depth ≤ depth₁)
    (h : FailsSpan tokens source index₁ depth₁ error q) :
    FailsSpan tokens source index depth error q := by
  obtain ⟨consumed, index', depth', hconsumed, hq, hdepth, hle', hmax, hleft⟩ := h
  refine ⟨front ++ consumed, index', depth', hspan.trans hconsumed, hq, ?_, ?_, hmax, ?_⟩
  · rw [bracketBalance_append]
    omega
  · exact Nat.le_trans hle hle'
  · exact hleft.append front

/-- Behind a part and a sign, as many brackets are open as before them. -/
theorem FailsSpan.behind_sign {rule : Rule} {left : List Token} {a : Expr} {sign : Token}
    {op : BinaryOp} (hspan : Spans tokens index (left ++ [sign]) index₁) (hleft : Derives rule left a)
    (hsign : rule.Joins sign.kind op) (h : FailsSpan tokens source index₁ depth error q) :
    FailsSpan tokens source index depth error q := by
  refine h.trans hspan ?_ (Nat.le_refl _)
  rw [hleft.bracketBalance_chain hsign, bracketBalance, Int.add_zero]

end Spans

/-! ## The pieces of the rules -/

section Pieces

variable {tokens : List Token} {source : Option String} {index depth : Nat}

theorem settles_literal_readerAt (hkind : (tokenAt tokens source index).kind = .number)
    (hdepth : depth ≤ maxBracketDepth) :
    Settles (fun _ => ReadsSpan tokens source .factor index depth)
      (FailsSpan tokens source index depth) (literal (readerAt tokens source index depth)) := by
  unfold literal
  split
  · exact settles_fail (.here hdepth rfl (by simp [ParseError.kind]))
  · show Settles _ _ ((consume .number >>= _) _)
    rw [bind_of_ok (consume_readerAt hkind (by decide))]
    exact ⟨_, _, _, .of_kind hkind (by decide), .number hkind, rfl, rfl⟩

/-- Brackets are entered only below the limit. -/
theorem settles_enter_readerAt (hkind : (tokenAt tokens source index).kind = .bracketOpen)
    (hdepth : depth ≤ maxBracketDepth) :
    Settles (fun _ q => q = readerAt tokens source (index + 1) (depth + 1) ∧
        depth + 1 ≤ maxBracketDepth)
      (FailsSpan tokens source index depth) (enter (readerAt tokens source index depth)) := by
  unfold enter
  split
  · exact settles_fail (.here hdepth rfl fun _ => hkind)
  · rename_i hlt
    show Settles _ _ ((consume .bracketOpen >>= _) _)
    rw [bind_of_ok (consume_readerAt hkind (by decide))]
    exact ⟨rfl, Nat.lt_of_not_le hlt⟩

theorem settles_leave_readerAt (hdepth : depth ≤ maxBracketDepth) :
    Settles (fun _ q => (tokenAt tokens source index).kind = .bracketClose ∧
        q = readerAt tokens source (index + 1) (depth - 1))
      (FailsSpan tokens source index depth) (leave (readerAt tokens source index depth)) := by
  unfold leave
  split
  · exact settles_fail (.here hdepth rfl (by simp [ParseError.kind]))
  · by_cases hkind : (tokenAt tokens source index).kind = .bracketClose
    · show Settles _ _ ((consume .bracketClose >>= _) _)
      rw [bind_of_ok (consume_readerAt hkind (by decide))]
      exact ⟨hkind, rfl⟩
    · show Settles _ _ ((consume .bracketClose >>= _) _)
      rw [bind_of_error (consume_readerAt_of_ne hkind)]
      exact settles_fail (.here hdepth rfl (by simp [ParseError.kind]))

/-- Consuming a token that is asked for gets behind it, or leaves the reader as it is. -/
theorem settles_consume_readerAt (hdepth : depth ≤ maxBracketDepth) (wanted : TokenKind) :
    Settles (fun _ q => ∃ consumed index', Spans tokens index consumed index' ∧
        q = readerAt tokens source index' depth)
      (fun error q => FailsSpan tokens source index depth error q ∧ q.bracketDepth = depth)
      (consume wanted (readerAt tokens source index depth)) := by
  by_cases hkind : (tokenAt tokens source index).kind = wanted
  · by_cases hend : wanted = .exprEnd
    · have hisEnd : (tokenAt tokens source index).isEnd = true := by simp [Token.isEnd, hkind, hend]
      have hstay : consume wanted (readerAt tokens source index depth) =
          .ok (tokenAt tokens source index) (readerAt tokens source index depth) :=
        (if_pos hkind).trans (if_pos hisEnd)
      rw [hstay]
      exact ⟨[], index, .nil tokens index, rfl⟩
    · rw [consume_readerAt hkind hend]
      exact ⟨_, _, .of_kind hkind hend, rfl⟩
  · rw [consume_readerAt_of_ne hkind]
    exact settles_fail ⟨.here hdepth rfl (by simp [ParseError.kind]), rfl⟩

/-- An operation that is nested too deep is blamed at its sign, and nothing is consumed then. -/
theorem settles_join_sign (op : BinaryOp) (sign : Token) (left right : Subtree) (p : TokenReader) :
    Settles (fun _ q => q = p) (fun error q => q = p ∧ error.kind = .tooDeep ∧ error.found = sign)
      (join op sign left right p) := by
  by_cases hdepth : max left.depth right.depth + 1 ≤ maxOperationDepth
  · rw [join_of_le p hdepth]
    exact rfl
  · rw [join, if_pos (Nat.lt_of_not_le hdepth)]
    exact settles_fail ⟨rfl, rfl, rfl⟩

end Pieces

/-! ## The rules -/

/-- Reading from the token at `index` on keeps count of the brackets. A chain that goes on there has
started with the tokens `before`. -/
structure CountsFrom (tokens : List Token) (source : Option String) (index : Nat) : Prop where
  /-- A rule is read. -/
  read (rule : Rule) {depth : Nat} (hdepth : depth ≤ maxBracketDepth) :
    Settles (fun _ => ReadsSpan tokens source rule index depth)
      (FailsSpan tokens source index depth) (read rule (readerAt tokens source index depth))
  /-- A chain goes on. -/
  extend {rule operand : Rule} {before : List Token} {a : Expr} {start depth : Nat}
    (hrule : rule.ChainOf operand) (hbefore : Derives rule before a)
    (hspan : Spans tokens start before index) (hdepth : depth ≤ maxBracketDepth) (left : Subtree) :
    Settles (fun _ => ReadsSpan tokens source rule start depth)
      (FailsSpan tokens source start depth) (extend rule left (readerAt tokens source index depth))

section Rules

variable {tokens : List Token} {source : Option String} {index : Nat}
  (ih : ∀ index', tokens.length - index' < tokens.length - index → CountsFrom tokens source index')

include ih

theorem settles_factor_readerAt {depth : Nat} (hdepth : depth ≤ maxBracketDepth) :
    Settles (fun _ => ReadsSpan tokens source .factor index depth)
      (FailsSpan tokens source index depth)
      (read .factor (readerAt tokens source index depth)) := by
  rw [read_factor]
  split
  · rename_i hkind
    exact settles_literal_readerAt hkind hdepth
  · rename_i hcurrent
    have hkind : (tokenAt tokens source index).kind = .bracketOpen := hcurrent
    have hopening := Spans.of_kind hkind (by decide)
    refine (settles_enter_readerAt hkind hdepth).bind ?_
    rintro - p₁ ⟨rfl, hdepth₁⟩
    have hinner := (ih (index + 1) (hopening.left_lt (by simp))).read .expr hdepth₁
    -- One bracket further in, whatever fails has the opening bracket among the tokens before it.
    have hbalance : ((depth + 1 : Nat) : Int) =
        depth + bracketBalance [tokenAt tokens source index] := by
      rw [bracketBalance_cons_open hkind]
      simp [bracketBalance]
    refine (hinner.mono_blame fun _ _ h =>
      h.trans hopening hbalance (Nat.le_succ _)).bind ?_
    rintro tree p₂ ⟨inner, expr, index₂, hspan, hderives, rfl, -⟩
    have hinside := hopening.trans hspan
    have hbalance' : ((depth + 1 : Nat) : Int) =
        depth + bracketBalance ([tokenAt tokens source index] ++ inner) := by
      rw [bracketBalance_append, hderives.bracketBalance_eq_zero, Int.add_zero]
      exact hbalance
    refine ((settles_leave_readerAt hdepth₁).mono_blame fun _ _ h =>
      h.trans hinside hbalance' (Nat.le_succ _)).bind ?_
    rintro - p₃ ⟨hclosing, rfl⟩
    have hwhole := hinside.trans (.of_kind hclosing (by decide))
    rw [List.append_assoc] at hwhole
    exact ⟨_, expr, _, hwhole, .brackets hkind hderives hclosing, rfl, rfl⟩
  · exact settles_fail (.here hdepth rfl fun h => absurd h (ParseError.kind_ne_tooDeep rfl))

theorem settles_extend_readerAt {rule operand : Rule} {before : List Token} {a : Expr}
    {start depth : Nat} (hrule : rule.ChainOf operand) (hbefore : Derives rule before a)
    (hspan : Spans tokens start before index) (hdepth : depth ≤ maxBracketDepth) (left : Subtree) :
    Settles (fun _ => ReadsSpan tokens source rule start depth)
      (FailsSpan tokens source start depth)
      (extend rule left (readerAt tokens source index depth)) := by
  rw [extend_eq]
  split
  · rename_i hop
    exact ⟨before, a, index, hspan, hbefore, rfl, hop⟩
  · rename_i op hop
    have hsign : rule.Joins (tokenAt tokens source index).kind op := Rule.joins_iff.2 hop
    obtain ⟨hnumber, hopen, hclose, hnoEnd⟩ := hsign.kind_ne
    have hone := Spans.of_kind rfl hnoEnd
    have hsigned := hspan.trans hone
    show Settles _ _ ((consume (tokenAt tokens source index).kind >>= _) _)
    rw [bind_of_ok (consume_readerAt rfl hnoEnd), hrule.operand_eq]
    have hoperand := (ih (index + 1) (hone.left_lt (by simp))).read operand hdepth
    refine (hoperand.mono_blame fun _ _ h => h.behind_sign hsigned hbefore hsign).bind ?_
    rintro right p₂ ⟨part, b, index₂, hpart, hright, rfl, hstops⟩
    have hchain := hsigned.trans hpart
    rw [List.append_assoc] at hchain
    have hderives := Derives.chain hrule hbefore hsign hright
    refine ((settles_join_sign op _ left right _).mono_blame ?_).bind ?_
    · rintro error q ⟨rfl, hkind, hfound⟩
      refine ⟨_, index₂, depth, hchain, rfl, ?_, Nat.le_refl _, hdepth, ?_⟩
      · rw [List.singleton_append, hderives.bracketBalance_eq_zero, Int.add_zero]
      · rw [← hfound] at hsign
        exact .operand hkind hrule hsign (by rw [hfound]; rfl) hright hstops
    · rintro tree p₃ rfl
      have hlt : tokens.length - index₂ < tokens.length - index :=
        (hone.trans hpart).left_lt (by simp)
      exact (ih index₂ hlt).extend hrule hderives hchain hdepth tree

theorem settles_chain_readerAt {rule operand : Rule} {depth : Nat} (hrule : rule.ChainOf operand)
    (hdepth : depth ≤ maxBracketDepth)
    (hoperand : Settles (fun _ => ReadsSpan tokens source operand index depth)
      (FailsSpan tokens source index depth)
      (read operand (readerAt tokens source index depth))) :
    Settles (fun _ => ReadsSpan tokens source rule index depth)
      (FailsSpan tokens source index depth) (read rule (readerAt tokens source index depth)) := by
  rw [read_chain hrule.ne_factor, hrule.operand_eq]
  refine hoperand.bind ?_
  rintro left p₁ ⟨part, a, index₁, hspan, hderives, rfl, -⟩
  have hlt := hspan.left_lt hderives.length_pos
  exact (ih index₁ hlt).extend hrule (.single hrule hderives) hspan hdepth left

end Rules

theorem countsFrom (tokens : List Token) (source : Option String) (index : Nat) :
    CountsFrom tokens source index := by
  -- A nested part and the rest of a chain are read further on in the list, so the induction is on
  -- how much of the list is left.
  induction hn : tokens.length - index using Nat.strongRecOn generalizing index with
  | _ n hfewer =>
    have ih : ∀ index', tokens.length - index' < tokens.length - index →
        CountsFrom tokens source index' := by
      intro index' hlt
      exact hfewer (tokens.length - index') (hn ▸ hlt) index' rfl
    constructor
    · intro rule depth hdepth
      have hfactor := settles_factor_readerAt ih hdepth
      have hterm := settles_chain_readerAt ih .term hdepth hfactor
      cases rule with
      | expr => exact settles_chain_readerAt ih .expr hdepth hterm
      | term => exact hterm
      | factor => exact hfactor
    · intro rule operand before a start depth hrule hbefore hspan hdepth left
      exact settles_extend_readerAt ih hrule hbefore hspan hdepth left

/-! ## Requests -/

section Requests

variable (tokens : List Token) (source : Option String) (index : Nat) {depth : Nat}
  (hdepth : depth ≤ maxBracketDepth)

include hdepth

/-- A whole expression is read as the part that it is, and a token behind it is blamed where it
stands. -/
theorem settles_parse_readerAt :
    Settles (fun _ => ReadsSpan tokens source .expr index depth)
      (FailsSpan tokens source index depth) (parse (readerAt tokens source index depth)) := by
  refine ((countsFrom tokens source index).read .expr hdepth).bind ?_
  rintro tree q ⟨part, expr, index₁, hspan, hderives, rfl, hstops⟩
  show Settles _ _ ((if (tokenAt tokens source index₁).isEnd then pure tree.expr
    else fail .trailingToken (tokenAt tokens source index₁) : Parse Expr) _)
  split
  · exact ⟨part, expr, index₁, hspan, hderives, rfl, hstops⟩
  · refine settles_fail (FailsSpan.trans hspan ?_ (Nat.le_refl _) (.here hdepth rfl ?_))
    · rw [hderives.bracketBalance_eq_zero, Int.add_zero]
    · simp [ParseError.kind]

/-- Whatever is asked for, the reader gets to another place of the list. A part has as many opening as
closing brackets, and the brackets of a single token do not count. -/
theorem settles_answer_readerAt (request : ParseRequest) :
    Settles (fun _ q => ∃ consumed index', Spans tokens index consumed index' ∧
        q = readerAt tokens source index' depth ∧
        ((∀ kind, request ≠ .token kind) → bracketBalance consumed = 0))
      (fun error q => FailsSpan tokens source index depth error q ∧
        ∀ kind, request = .token kind → q.bracketDepth = depth)
      (answer request (readerAt tokens source index depth)) := by
  cases request with
  | whole =>
    have hparse := settles_parse_readerAt tokens source index hdepth
    refine (hparse.mono_blame fun _ _ h => ⟨h, by simp⟩).bind ?_
    rintro tree q ⟨part, expr, index', hspan, hderives, hq, -⟩
    exact ⟨part, index', hspan, hq, fun _ => hderives.bracketBalance_eq_zero⟩
  | part rule =>
    have hread := (countsFrom tokens source index).read rule hdepth
    refine (hread.mono_blame fun _ _ h => ⟨h, by simp⟩).bind ?_
    rintro tree q ⟨part, expr, index', hspan, hderives, hq, -⟩
    exact ⟨part, index', hspan, hq, fun _ => hderives.bracketBalance_eq_zero⟩
  | token kind =>
    have hconsume : Settles _ _ (consume kind (readerAt tokens source index depth)) :=
      settles_consume_readerAt hdepth kind
    refine (hconsume.mono_blame fun _ _ h => ⟨h.1, fun _ _ => h.2⟩).bind ?_
    rintro token q ⟨consumed, index', hspan, hq⟩
    exact ⟨consumed, index', hspan, hq, fun hpart => absurd rfl (hpart kind)⟩

theorem keepsCount_perform (request : ParseRequest) :
    KeepsCount tokens source (readerAt tokens source index depth) request
      ((readerAt tokens source index depth).perform request) := by
  have hanswer := settles_answer_readerAt tokens source index hdepth request
  unfold perform
  cases hres : answer request (readerAt tokens source index depth) with
  | ok reply after =>
    rw [hres] at hanswer
    obtain ⟨consumed, index', hspan, rfl, hbalance⟩ := hanswer
    refine ⟨index, depth, consumed, index', depth, rfl, hspan, rfl, hdepth, ?_, ?_, ?_, ?_⟩
    · intro hpart
      rw [hbalance hpart, Int.add_zero]
    · exact fun _ _ => rfl
    · exact fun _ _ => rfl
    · exact fun _ h => by simp at h
  | error failure after =>
    rw [hres] at hanswer
    obtain ⟨error, rfl, ⟨consumed, index', depth', hspan, rfl, hdepth', hle, hmax, hleft⟩, htoken⟩ :=
      hanswer
    refine ⟨index, depth, consumed, index', depth', rfl, hspan, rfl, hmax, ?_, ?_, ?_, ?_⟩
    · exact fun _ => hdepth'
    · exact htoken
    · exact fun _ h => by simp at h
    · intro failure h
      obtain rfl := Except.error.inj h
      exact ⟨hle, error, rfl, hleft⟩

end Requests

/-- A reader of a list starts outside of all brackets, and keeps count of them in every step that it
is asked for, also behind failures. -/
theorem counts_performEach (tokens : List Token) (source : Option String)
    (requests : List ParseRequest) :
    start (.ofList tokens) source = .ok (readerAt tokens source 0 0) ∧
      EachStep ParseStep.after (KeepsCount tokens source) (readerAt tokens source 0 0) requests
        ((readerAt tokens source 0 0).performEach requests) := by
  refine ⟨start_ofList_eq tokens source, ?_⟩
  have hstep : ∀ request ∈ requests, ∀ p,
      (∃ index depth, p = readerAt tokens source index depth ∧ depth ≤ maxBracketDepth) →
      KeepsCount tokens source p request (p.perform request) ∧
        ∃ index depth, (p.perform request).after = readerAt tokens source index depth ∧
          depth ≤ maxBracketDepth := by
    rintro request - p ⟨index, depth, rfl, hdepth⟩
    have hkeeps := keepsCount_perform tokens source index hdepth request
    obtain ⟨_, _, _, index', depth', _, _, hafter, hcounts⟩ := id hkeeps
    exact ⟨hkeeps, index', depth', hafter, hcounts.le_max⟩
  exact EachStep.of_invariant (fun _ => rfl) (fun _ _ _ => rfl) hstep
    ⟨0, 0, rfl, Nat.zero_le _⟩

end TokenReader

end ExprCompiler
