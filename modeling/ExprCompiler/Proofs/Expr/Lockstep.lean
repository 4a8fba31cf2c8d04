import ExprCompiler.Expr.Stepwise
import ExprCompiler.Proofs.Expr.Grammar
import ExprCompiler.Proofs.Expr.ReaderState
import Mathlib.Data.List.Forall2

/-!
# Readers in lockstep

What a reader does follows from a few things only: the kind of the token it looks at, the lexeme if
this is a number, the brackets it is in, and what it gets when it moves on. A `Lockstep` is a relation
between readers that agree in these. Of two readers in such a relation each does what the other does,
whichever part of an expression they read (`Lockstep.readsBoth`, `Lockstep.both_parse`), and in
whichever order they are asked for parts (`Lockstep.both_performEach`).
-/

namespace ExprCompiler.TokenReader

/-- The outcomes of two steps correspond: both have results, or both fail. -/
def Corresponds {α : Type} (Value : α → α → Prop) (Related : TokenReader → TokenReader → Prop)
    (Failed : ParseFailure → TokenReader → ParseFailure → TokenReader → Prop) :
    EStateM.Result ParseFailure TokenReader α → EStateM.Result ParseFailure TokenReader α → Prop
  | .ok a p, .ok b q => Value a b ∧ Related p q
  | .error failure p, .error failure' q => Failed failure p failure' q
  | _, _ => False

/-- A relation between readers that single steps keep. -/
structure Lockstep where
  /-- The readers are in step. -/
  Related : TokenReader → TokenReader → Prop
  /-- The tokens that they look at are alike. -/
  Alike : Token → Token → Prop
  /-- The failures, and the readers after them, correspond. -/
  Failed : ParseFailure → TokenReader → ParseFailure → TokenReader → Prop
  /-- Tokens that are alike have the same kind. -/
  kind_eq {token token' : Token} (h : Alike token token') : token.kind = token'.kind
  /-- Numbers that are alike have the same lexeme. -/
  lexeme_eq {token token' : Token} (h : Alike token token') (hkind : token.kind = .number) :
    token.lexeme = token'.lexeme
  /-- Readers in step look at tokens that are alike. -/
  alike_current {p q : TokenReader} (h : Related p q) : Alike p.current q.current
  /-- They are in as many brackets. -/
  bracketDepth_eq {p q : TokenReader} (h : Related p q) : p.bracketDepth = q.bracketDepth
  /-- They are so in any other number of brackets too. -/
  related_bracketDepth {p q : TokenReader} (h : Related p q) (depth : Nat) :
    Related { p with bracketDepth := depth } { q with bracketDepth := depth }
  /-- They can move on together. -/
  both_moveOn {p q : TokenReader} (h : Related p q) (hend : p.current.isEnd = false) :
    Corresponds Eq Related Failed (moveOn p) (moveOn q)
  /-- They can fail at tokens that are alike. -/
  failed_fail {p q : TokenReader} (h : Related p q) {token token' : Token}
    (halike : Alike token token') (fault : ParseFault) :
    Failed (.grammatical { fault, found := token, source := p.source }) p
      (.grammatical { fault, found := token', source := q.source }) q

/-- What is consumed is of the wanted kind. -/
theorem kind_of_consume {wanted : TokenKind} {p q : TokenReader} {token : Token}
    (h : consume wanted p = .ok token q) : token.kind = wanted := by
  by_cases hwanted : p.current.kind = wanted
  · rw [consume, if_pos hwanted] at h
    cases hend : p.current.isEnd with
    | true =>
      simp only [hend, if_true] at h
      obtain ⟨rfl, -⟩ := EStateM.Result.ok.inj h
      exact hwanted
    | false =>
      simp only [hend, Bool.false_eq_true, if_false] at h
      cases hmove : moveOn p with
      | ok _ p' =>
        rw [bind_of_ok hmove] at h
        obtain ⟨rfl, -⟩ := EStateM.Result.ok.inj h
        exact hwanted
      | error failure p' =>
        rw [bind_of_error hmove] at h
        simp at h
  · rw [consume, if_neg hwanted] at h
    simp [fail] at h

theorem LeavesFewer.remaining_lt {α : Type} {n : Nat} {x : Parse α} {p q : TokenReader} {a : α}
    (h : LeavesFewer n (x p)) (hx : x p = .ok a q) : q.remaining < n := by
  rwa [hx] at h

namespace Lockstep

/-- The outcomes correspond, and results are related by `Value`. -/
def Both (L : Lockstep) {α : Type} (Value : α → α → Prop) :
    EStateM.Result ParseFailure TokenReader α → EStateM.Result ParseFailure TokenReader α → Prop :=
  Corresponds Value L.Related L.Failed

section Bind

variable (L : Lockstep) {α β : Type} {x y : Parse α} {f g : α → Parse β} {p q : TokenReader}
  {Value : α → α → Prop} {Value' : β → β → Prop}

theorem both_bind (hx : L.Both Value (x p) (y q))
    (hf : ∀ a b p' q', x p = .ok a p' → Value a b → L.Related p' q' →
      L.Both Value' (f a p') (g b q')) : L.Both Value' ((x >>= f) p) ((y >>= g) q) := by
  cases hp : x p with
  | ok a p' =>
    rw [hp] at hx
    cases hq : y q with
    | ok b q' =>
      rw [hq] at hx
      rw [bind_of_ok hp, bind_of_ok hq]
      exact hf a b p' q' hp hx.1 hx.2
    | error failure q' =>
      rw [hq] at hx
      exact hx.elim
  | error failure p' =>
    rw [hp] at hx
    cases hq : y q with
    | ok b q' =>
      rw [hq] at hx
      exact hx.elim
    | error failure' q' =>
      rw [hq] at hx
      rw [bind_of_error hp, bind_of_error hq]
      exact hx

end Bind

section Steps

variable (L : Lockstep) {p q : TokenReader}

theorem isEnd_eq (h : L.Related p q) : p.current.isEnd = q.current.isEnd := by
  rw [Token.isEnd, Token.isEnd, L.kind_eq (L.alike_current h)]

theorem both_fail {α : Type} {Value : α → α → Prop} (h : L.Related p q) {token token' : Token}
    (halike : L.Alike token token') (fault : ParseFault) :
    L.Both Value (fail fault token p) (fail fault token' q) :=
  L.failed_fail h halike fault

theorem both_consume (h : L.Related p q) (wanted : TokenKind) :
    L.Both L.Alike (consume wanted p) (consume wanted q) := by
  have halike := L.alike_current h
  have hkind := L.kind_eq halike
  by_cases hwanted : p.current.kind = wanted
  · have hwanted' : q.current.kind = wanted := hkind ▸ hwanted
    rw [consume, consume, if_pos hwanted, if_pos hwanted', ← L.isEnd_eq h]
    cases hend : p.current.isEnd with
    | true => exact ⟨halike, h⟩
    | false =>
      simp only [Bool.false_eq_true, if_false]
      refine L.both_bind (L.both_moveOn h hend) ?_
      intro _ _ p' q' _ _ hmoved
      exact ⟨halike, hmoved⟩
  · have hwanted' : q.current.kind ≠ wanted := hkind ▸ hwanted
    rw [consume, consume, if_neg hwanted, if_neg hwanted']
    exact L.both_fail h halike (.mismatch wanted)

theorem both_literal (h : L.Related p q) (hkind : p.current.kind = .number) :
    L.Both Eq (literal p) (literal q) := by
  have halike := L.alike_current h
  have hlexeme := L.lexeme_eq halike hkind
  by_cases hpoints : 1 < p.current.lexeme.toList.count '.'
  · rw [literal, literal, if_pos hpoints, if_pos (hlexeme ▸ hpoints)]
    exact L.both_fail h halike .malformedNumber
  · rw [literal, literal, if_neg hpoints, if_neg (hlexeme ▸ hpoints)]
    refine L.both_bind (L.both_consume h .number) ?_
    intro token token' p' q' hconsume halike' hrest
    refine ⟨?_, hrest⟩
    rw [L.lexeme_eq halike' (kind_of_consume hconsume)]

theorem both_enter (h : L.Related p q) : L.Both Eq (enter p) (enter q) := by
  have hdepth := L.bracketDepth_eq h
  by_cases hmax : maxBracketDepth ≤ p.bracketDepth
  · rw [enter, enter, if_pos hmax, if_pos (hdepth ▸ hmax)]
    exact L.both_fail h (L.alike_current h) .tooManyBrackets
  · rw [enter, enter, if_neg hmax, if_neg (hdepth ▸ hmax)]
    refine L.both_bind (L.both_consume h .bracketOpen) ?_
    intro _ _ p' q' _ _ hrest
    refine ⟨rfl, ?_⟩
    simp only [L.bracketDepth_eq hrest]
    exact L.related_bracketDepth hrest _

theorem both_leave (h : L.Related p q) : L.Both Eq (leave p) (leave q) := by
  rw [leave, leave, ← L.isEnd_eq h]
  cases hend : p.current.isEnd with
  | true => exact L.both_fail h (L.alike_current h) .unclosedBracket
  | false =>
    simp only [Bool.false_eq_true, if_false]
    refine L.both_bind (L.both_consume h .bracketClose) ?_
    intro _ _ p' q' _ _ hrest
    refine ⟨rfl, ?_⟩
    simp only [L.bracketDepth_eq hrest]
    exact L.related_bracketDepth hrest _

theorem both_join (h : L.Related p q) (op : BinaryOp) {sign sign' : Token}
    (halike : L.Alike sign sign') (left right : Subtree) :
    L.Both Eq (join op sign left right p) (join op sign' left right q) := by
  by_cases hdepth : maxOperationDepth < max left.depth right.depth + 1
  · rw [join, join, if_pos hdepth, if_pos hdepth]
    exact L.both_fail h halike .tooManyOperations
  · rw [join, join, if_neg hdepth, if_neg hdepth]
    exact ⟨rfl, h⟩

end Steps

/-! ## The rules -/

/-- Readers in step stay so, whichever part they read. -/
structure ReadsBoth (L : Lockstep) (p q : TokenReader) : Prop where
  /-- A rule is read. -/
  read (rule : Rule) : L.Both Eq (read rule p) (read rule q)
  /-- A chain goes on. -/
  extend (rule : Rule) (left : Subtree) : L.Both Eq (extend rule left p) (extend rule left q)

section ReadsBoth

variable (L : Lockstep) {p q : TokenReader}
  (ih : ∀ p' q', p'.remaining < p.remaining → L.Related p' q' → L.ReadsBoth p' q')

include ih

theorem both_read_factor (h : L.Related p q) : L.Both Eq (read .factor p) (read .factor q) := by
  rw [read_factor, read_factor, ← L.kind_eq (L.alike_current h)]
  split
  · rename_i hkind
    exact L.both_literal h hkind
  · refine L.both_bind (L.both_enter h) ?_
    intro _ _ p₁ q₁ henter _ h₁
    have hlt := (enter_leavesFewer p).remaining_lt henter
    refine L.both_bind ((ih p₁ q₁ hlt h₁).read .expr) ?_
    rintro tree _ p₂ q₂ - rfl h₂
    refine L.both_bind (L.both_leave h₂) ?_
    intro _ _ p₃ q₃ _ _ h₃
    exact ⟨rfl, h₃⟩
  · exact L.both_fail h (L.alike_current h) .missingOperand

theorem both_extend (h : L.Related p q) (rule : Rule) (left : Subtree) :
    L.Both Eq (extend rule left p) (extend rule left q) := by
  rw [extend_eq, extend_eq, ← L.kind_eq (L.alike_current h)]
  split
  · exact ⟨rfl, h⟩
  · rename_i op hop
    have hend := (Rule.joins_iff.2 hop).kind_ne.2.2.2
    refine L.both_bind (L.both_consume h _) ?_
    intro sign sign' p₁ q₁ hconsume halike h₁
    have hlt₁ := (consume_leavesFewer hend).remaining_lt hconsume
    refine L.both_bind ((ih p₁ q₁ hlt₁ h₁).read rule.operand) ?_
    rintro right _ p₂ q₂ hread rfl h₂
    have hlt₂ := (read_leavesFewer rule.operand p₁).remaining_lt hread
    refine L.both_bind (L.both_join h₂ op halike left right) ?_
    rintro tree _ p₃ q₃ hjoin rfl h₃
    have hlt₃ := (join_leavesFewer op sign left right p₂).remaining_lt hjoin
    exact (ih p₃ q₃ (by omega) h₃).extend rule tree

theorem both_read_chain {rule operand : Rule} (hrule : rule.ChainOf operand)
    (hoperand : L.Both Eq (read operand p) (read operand q)) :
    L.Both Eq (read rule p) (read rule q) := by
  rw [read_chain hrule.ne_factor, hrule.operand_eq]
  refine L.both_bind hoperand ?_
  rintro left _ p₁ q₁ hread rfl h₁
  have hlt := (read_leavesFewer operand p).remaining_lt hread
  exact (ih p₁ q₁ hlt h₁).extend rule left

end ReadsBoth

theorem readsBoth (L : Lockstep) {p q : TokenReader} (h : L.Related p q) : L.ReadsBoth p q := by
  -- A nested part and the rest of a chain are read behind a consumed token, so the induction is on
  -- how many tokens are left.
  induction hn : p.remaining using Nat.strongRecOn generalizing p q with
  | _ n hfewer =>
    have ih : ∀ p' q', p'.remaining < p.remaining → L.Related p' q' → L.ReadsBoth p' q' := by
      intro p' q' hlt h'
      exact hfewer p'.remaining (hn ▸ hlt) h' rfl
    have hfactor := L.both_read_factor ih h
    have hterm := L.both_read_chain ih .term hfactor
    constructor
    · intro rule
      cases rule with
      | expr => exact L.both_read_chain ih .expr hterm
      | term => exact hterm
      | factor => exact hfactor
    · intro rule left
      exact L.both_extend ih h rule left

/-- Readers in step read the same expression, or fail in corresponding ways. -/
theorem both_parse (L : Lockstep) {p q : TokenReader} (h : L.Related p q) :
    L.Both Eq (parse p) (parse q) := by
  refine L.both_bind ((L.readsBoth h).read .expr) ?_
  rintro tree _ p₁ q₁ - rfl h₁
  have hend := L.isEnd_eq h₁
  change L.Both Eq
    ((if p₁.current.isEnd then pure tree.expr else fail .trailingToken p₁.current : Parse Expr) p₁)
    ((if q₁.current.isEnd then pure tree.expr else fail .trailingToken q₁.current : Parse Expr) q₁)
  by_cases hp : p₁.current.isEnd = true
  · rw [if_pos hp, if_pos (hend ▸ hp)]
    exact ⟨rfl, h₁⟩
  · rw [if_neg hp, if_neg (hend ▸ hp)]
    exact L.both_fail h₁ (L.alike_current h₁) .trailingToken

/-! ## Requests -/

/-- What two readers give is the same, up to tokens that are alike. -/
inductive AlikeReply (L : Lockstep) : ParseReply → ParseReply → Prop where
  | whole (expr : Expr) : AlikeReply L (.whole expr) (.whole expr)
  | part (tree : Subtree) : AlikeReply L (.part tree) (.part tree)
  | token {token token' : Token} (h : L.Alike token token') :
      AlikeReply L (.token token) (.token token')

/-- Two steps correspond: both give something, or both fail. -/
def BothDone (L : Lockstep) (done done' : ParseStep) : Prop :=
  match done.result, done'.result with
  | .ok reply, .ok reply' => L.AlikeReply reply reply' ∧ L.Related done.after done'.after
  | .error failure, .error failure' => L.Failed failure done.after failure' done'.after
  | _, _ => False

/-- After failures that correspond the readers are still in step. -/
def Resumes (L : Lockstep) : Prop :=
  ∀ failure p failure' q, L.Failed failure p failure' q → L.Related p q

section Requests

variable (L : Lockstep) {p q : TokenReader}

theorem both_answer (h : L.Related p q) (request : ParseRequest) :
    L.Both L.AlikeReply (answer request p) (answer request q) := by
  cases request with
  | whole =>
    refine L.both_bind (L.both_parse h) ?_
    rintro expr _ p' q' - rfl h'
    exact ⟨.whole expr, h'⟩
  | part rule =>
    refine L.both_bind ((L.readsBoth h).read rule) ?_
    rintro tree _ p' q' - rfl h'
    exact ⟨.part tree, h'⟩
  | token kind =>
    refine L.both_bind (L.both_consume h kind) ?_
    intro token token' p' q' _ halike h'
    exact ⟨.token halike, h'⟩

theorem both_perform (h : L.Related p q) (request : ParseRequest) :
    L.BothDone (p.perform request) (q.perform request) := by
  have hanswer := L.both_answer h request
  unfold perform
  cases hp : answer request p <;> cases hq : answer request q
  all_goals
    rw [hp, hq] at hanswer
    exact hanswer

theorem BothDone.related {L : Lockstep} (hresumes : L.Resumes) {done done' : ParseStep}
    (h : L.BothDone done done') : L.Related done.after done'.after := by
  unfold BothDone at h
  split at h
  · exact h.2
  · exact hresumes _ _ _ _ h
  · exact h.elim

/-- Readers in step do the same, whatever they are asked for and however often they fail. -/
theorem both_performEach (hresumes : L.Resumes) (h : L.Related p q)
    (requests : List ParseRequest) :
    List.Forall₂ L.BothDone (p.performEach requests) (q.performEach requests) := by
  induction requests generalizing p q with
  | nil => exact .nil
  | cons request rest ih =>
    have hdone := L.both_perform h request
    exact .cons hdone (ih (hdone.related hresumes))

end Requests

end Lockstep

end ExprCompiler.TokenReader
