import Mathlib
import ExprCompiler.Proofs.Expr.Acceptance
import ExprCompiler.Proofs.Expr.Place

/-!
# Where tokens are refused

A reader that fails because of a token, and not because of a limit or a malformed number, fails at
the first token that cannot go on from what it has consumed (`Expr.refusal_of_ofTokens`): up to
there the tokens begin a sentence, with that token they no longer do, and the class of the error
follows from the place. The induction follows the reader from place to place.
-/

namespace ExprCompiler

/-- A token cannot stand at its place. -/
def ParseError.IsMisplaced (error : ParseError) : Prop :=
  error.kind ∈ [.unexpectedToken, .emptyFactor, .unclosedParenthesis]

namespace Place

/-- `Leads place tokens place' rest`: the tokens before `rest` lead from place to place. -/
def Leads (place : Place) (tokens : List Token) (place' : Place) (rest : List Token) : Prop :=
  ∃ front, tokens = front ++ rest ∧ WellPointed front ∧
    place.after? (front.map Token.kind) = some place'

/-- `Refuses place fault kind`: at the place, a token of this kind breaks a rule of the grammar. -/
inductive Refuses : Place → ParseFault → TokenKind → Prop where
  /-- An operand is due. -/
  | missingOperand {n : Nat} {kind : TokenKind} (hnumber : kind ≠ .number)
      (hopen : kind ≠ .bracketOpen) : Refuses (.beforeOperand n) .missingOperand kind
  /-- The tokens end in brackets. -/
  | unclosedBracket {n : Nat} : Refuses (.afterOperand (n + 1)) .unclosedBracket .exprEnd
  /-- In brackets, a sign or the closing bracket is due. -/
  | mismatch {n : Nat} {kind : TokenKind} (hnext : (afterOperand (n + 1)).next? kind = none)
      (hend : kind ≠ .exprEnd) : Refuses (.afterOperand (n + 1)) (.mismatch .bracketClose) kind
  /-- Outside of brackets, a sign or the end is due. -/
  | trailingToken {kind : TokenKind} (hnext : (afterOperand 0).next? kind = none)
      (hend : kind ≠ .exprEnd) : Refuses (.afterOperand 0) .trailingToken kind

section Leads

variable {place place' place'' : Place} {token : Token} {tokens rest rest' : List Token}

theorem Leads.refl (place : Place) (tokens : List Token) : place.Leads tokens place tokens :=
  ⟨[], rfl, by simp [WellPointed], rfl⟩

theorem Leads.trans (h : place.Leads tokens place' rest) (h' : place'.Leads rest place'' rest') :
    place.Leads tokens place'' rest' := by
  obtain ⟨front, rfl, hpoints, hafter⟩ := h
  obtain ⟨front', rfl, hpoints', hafter'⟩ := h'
  refine ⟨front ++ front', (List.append_assoc ..).symm, ?_, ?_⟩
  · exact List.forall_mem_append.2 ⟨hpoints, hpoints'⟩
  · rw [List.map_append, after?_append_of_eq hafter, hafter']

theorem Leads.of_next (h : place.next? token.kind = some place')
    (hpoints : token.kind = .number → token.lexeme.toList.count '.' ≤ 1) :
    place.Leads (token :: rest) place' rest := by
  refine ⟨[token], rfl, List.forall_mem_singleton.2 hpoints, ?_⟩
  rw [List.map_singleton, after?_cons, h, Option.bind_some, after?_nil]

theorem Leads.length_le (h : place.Leads tokens place' rest) : rest.length ≤ tokens.length := by
  obtain ⟨front, rfl, -⟩ := h
  rw [List.length_append]
  exact Nat.le_add_left _ _

/-- To get to another place takes a token. -/
theorem Leads.length_lt (h : place.Leads tokens place' rest) (hne : place ≠ place') :
    rest.length < tokens.length := by
  obtain ⟨front, rfl, -, hafter⟩ := h
  cases front with
  | nil => exact absurd (Option.some.inj hafter) hne
  | cons token front =>
    simp only [List.cons_append, List.length_cons, List.length_append]
    omega

theorem Refuses.next?_eq_none {place : Place} {fault : ParseFault} {kind : TokenKind}
    (h : place.Refuses fault kind) : place.next? kind = none := by
  cases h with
  | missingOperand hnumber hopen => cases kind <;> simp_all [next?]
  | unclosedBracket => rfl
  | mismatch hnext _ => exact hnext
  | trailingToken hnext _ => exact hnext

end Leads

end Place

namespace TokenReader

open Place

/-! ## Where a reader gets to -/

/-- No chain of the rule or of a lower one goes on here. -/
def IsComplete (rule : Rule) (tokens : List Token) : Prop :=
  ∀ lower : Rule, lower.level ≤ rule.level → Stops lower tokens

/-- The result of reading a part: it leads to a complete operand behind which no chain of the part
goes on. -/
def ReadsPart (rule : Rule) (place : Place) (tokens : List Token) (q : TokenReader) : Prop :=
  ∃ rest, place.Leads tokens (.afterOperand place.opened) rest ∧ q.Awaits place.opened rest ∧
    IsComplete rule rest

/-- A misplaced token is refused at the place that the tokens before it lead to, and the reader
looks at it. -/
def BlamesPlace (place : Place) (tokens : List Token) (error : ParseError) (q : TokenReader) :
    Prop :=
  error.IsMisplaced → ∃ place' rest, place.Leads tokens place' rest ∧ q.Awaits place'.opened rest ∧
    q.current = error.found ∧ place'.Refuses error.fault error.found.kind

section Places

variable {place place' : Place} {rule operand : Rule} {n : Nat} {token : Token}
  {tokens rest : List Token} {p q : TokenReader}

theorem isComplete_factor (tokens : List Token) : IsComplete .factor tokens := by
  intro lower hle
  cases lower with
  | factor => exact stops_factor tokens
  | term => simp [Rule.level] at hle
  | expr => simp [Rule.level] at hle

theorem IsComplete.chain (hrule : rule.ChainOf operand) (h : IsComplete operand tokens)
    (hstops : Stops rule tokens) : IsComplete rule tokens := by
  intro lower hle
  cases hrule with
  | expr =>
    cases lower with
    | expr => exact hstops
    | term => exact h .term (by decide)
    | factor => exact h .factor (by decide)
  | term =>
    cases lower with
    | expr => simp [Rule.level] at hle
    | term => exact hstops
    | factor => exact h .factor (by decide)

/-- Behind a complete expression, nothing but a closing bracket can stand. -/
theorem IsComplete.next?_eq_none (h : IsComplete .expr (token :: rest))
    (hclose : token.kind = .bracketClose → n = 0) : (afterOperand n).next? token.kind = none := by
  refine Option.eq_none_iff_forall_ne_some.2 fun place' hnext => ?_
  rcases next?_eq_some hnext with ⟨_, hplace, -⟩ | ⟨_, hplace, -⟩ | ⟨_, rule, op, -, hsign, -⟩ |
    ⟨m, hplace, hkind, -⟩
  · simp at hplace
  · simp at hplace
  · have hstops := h rule (by cases rule <;> decide) token rfl
    rw [Rule.joins_iff.1 hsign] at hstops
    simp at hstops
  · rw [hclose hkind] at hplace
    simp at hplace

theorem ReadsPart.trans (h : ReadsPart rule place' rest q)
    (hlead : place.Leads tokens place' rest) (hopened : place'.opened = place.opened) :
    ReadsPart rule place tokens q := by
  obtain ⟨rest', hlead', hq, hcomplete⟩ := h
  rw [hopened] at hlead' hq
  exact ⟨rest', hlead.trans hlead', hq, hcomplete⟩

theorem BlamesPlace.trans {error : ParseError} (h : BlamesPlace place' rest error q)
    (hlead : place.Leads tokens place' rest) : BlamesPlace place tokens error q := by
  intro hmisplaced
  obtain ⟨place'', rest', hlead', hq⟩ := h hmisplaced
  exact ⟨place'', rest', hlead.trans hlead', hq⟩

theorem Settles.trans {α : Type} {outcome : EStateM.Result ParseFailure TokenReader α}
    (hlead : place.Leads tokens place' rest) (hopened : place'.opened = place.opened)
    (h : Settles (fun _ => ReadsPart rule place' rest) (BlamesPlace place' rest) outcome) :
    Settles (fun _ => ReadsPart rule place tokens) (BlamesPlace place tokens) outcome :=
  h.mono (fun _ _ hreads => hreads.trans hlead hopened) fun _ _ hblames => hblames.trans hlead

/-! ## The pieces of the rules -/

theorem Awaits.settles_literal (hp : p.Awaits n (token :: rest)) (hkind : token.kind = .number) :
    Settles (fun _ => ReadsPart .factor (.beforeOperand n) (token :: rest))
      (BlamesPlace (.beforeOperand n) (token :: rest)) (TokenReader.literal p) := by
  by_cases hpoints : token.lexeme.toList.count '.' ≤ 1
  · obtain ⟨q, hliteral, hq⟩ := hp.literal hkind hpoints
    rw [hliteral]
    refine ⟨rest, .of_next ?_ fun _ => hpoints, hq, isComplete_factor rest⟩
    rw [hkind]
    rfl
  · rw [TokenReader.literal, if_pos (by rw [hp.current_eq]; omega)]
    exact settles_fail (by simp [BlamesPlace, ParseError.IsMisplaced, ParseError.kind])

theorem Awaits.settles_enter (hp : p.Awaits n (token :: rest)) (hkind : token.kind = .bracketOpen) :
    Settles (fun _ q => q.Awaits (n + 1) rest) (BlamesPlace (.beforeOperand n) (token :: rest))
      (TokenReader.enter p) := by
  by_cases hdepth : n < maxBracketDepth
  · obtain ⟨q, henter, hq⟩ := hp.enter hkind hdepth
    rw [henter]
    exact hq
  · rw [TokenReader.enter, if_pos (by rw [hp.opened]; omega)]
    exact settles_fail (by simp [BlamesPlace, ParseError.IsMisplaced, ParseError.kind])

/-- Behind a complete expression in brackets, the closing bracket is consumed or the next token
refused. -/
theorem Awaits.settles_leave (hp : p.Awaits (n + 1) tokens) (hcomplete : IsComplete .expr tokens) :
    Settles (fun _ q => ∃ closing rest, tokens = closing :: rest ∧ closing.kind = .bracketClose ∧
      q.Awaits n rest) (BlamesPlace (.afterOperand (n + 1)) tokens) (TokenReader.leave p) := by
  cases tokens with
  | nil =>
    have hend := hp.isEnd_current
    rw [TokenReader.leave, if_pos hend]
    refine settles_fail fun _ => ⟨_, [], .refl _ _, hp, rfl, ?_⟩
    rw [Token.isEnd, beq_iff_eq] at hend
    simp only [hend]
    exact .unclosedBracket
  | cons token rest =>
    by_cases hkind : token.kind = .bracketClose
    · obtain ⟨q, hleave, hq⟩ := hp.leave hkind
      rw [hleave]
      exact ⟨token, rest, rfl, hkind, hq⟩
    · have hcurrent := hp.current_eq
      have hend := hp.isEnd_eq_false
      have hfail : TokenReader.leave p = fail (.mismatch .bracketClose) p.current p := by
        rw [TokenReader.leave, if_neg (by simp [hcurrent, hend])]
        exact bind_of_error (by rw [TokenReader.consume, if_neg (by rwa [hcurrent])]; rfl)
      rw [hfail]
      refine settles_fail fun _ => ⟨_, token :: rest, .refl _ _, hp, rfl, ?_⟩
      rw [hcurrent]
      exact .mismatch (hcomplete.next?_eq_none fun h => absurd h hkind)
        (by simpa [Token.isEnd] using hend)

theorem settles_join (op : BinaryOp) (sign : Token) (left right : Subtree) (p : TokenReader) :
    Settles (fun _ q => q = p) (BlamesPlace place tokens) (join op sign left right p) := by
  by_cases hdepth : max left.depth right.depth + 1 ≤ maxOperationDepth
  · rw [join_of_le p hdepth]
    exact rfl
  · rw [join, if_pos (Nat.lt_of_not_le hdepth)]
    exact settles_fail (by simp [BlamesPlace, ParseError.IsMisplaced, ParseError.kind])

end Places

/-! ## The rules -/

/-- Reading the given tokens gets to a complete part, or a misplaced token is refused at its
place. -/
structure SettlesParts (tokens : List Token) : Prop where
  /-- A rule is read from where an operand is due. -/
  read {rule : Rule} {n : Nat} {p : TokenReader} (hp : p.Awaits n tokens) :
    Settles (fun _ => ReadsPart rule (.beforeOperand n) tokens)
      (BlamesPlace (.beforeOperand n) tokens) (read rule p)
  /-- A chain goes on behind a complete operand. -/
  extend {rule operand : Rule} {left : Subtree} {n : Nat} {p : TokenReader}
    (hrule : rule.ChainOf operand) (hcomplete : IsComplete operand tokens) (hp : p.Awaits n tokens) :
    Settles (fun _ => ReadsPart rule (.afterOperand n) tokens)
      (BlamesPlace (.afterOperand n) tokens) (extend rule left p)

section SettlesParts

variable {tokens : List Token} {n : Nat} {p : TokenReader}
  (ih : ∀ rest, rest.length < tokens.length → SettlesParts rest)

include ih

theorem settles_read_factor (hp : p.Awaits n tokens) :
    Settles (fun _ => ReadsPart .factor (.beforeOperand n) tokens)
      (BlamesPlace (.beforeOperand n) tokens) (read .factor p) := by
  rw [read_factor]
  split
  · rename_i hkind
    obtain ⟨rest, rfl⟩ := hp.eq_cons_of_kind hkind (by decide)
    exact hp.settles_literal hkind
  · rename_i hkind
    obtain ⟨rest, rfl⟩ := hp.eq_cons_of_kind hkind (by decide)
    have hopen : Leads (.beforeOperand n) (p.current :: rest) (.beforeOperand (n + 1)) rest :=
      .of_next (by rw [hkind]; rfl) (by simp [hkind])
    refine (hp.settles_enter hkind).bind fun _ p₁ hp₁ => ?_
    have hread := ((ih rest (Nat.lt_succ_self _)).read hp₁ : Settles _ _ (read .expr p₁))
    refine (hread.mono (fun _ _ h => h) fun _ _ h => h.trans hopen).bind ?_
    rintro tree p₂ ⟨afterInner, hinner, hp₂, hcomplete⟩
    have hinside := hopen.trans hinner
    refine ((hp₂.settles_leave hcomplete).mono (fun _ _ h => h) fun _ _ h => h.trans hinside).bind ?_
    rintro - p₃ ⟨closing, rest', rfl, hclosing, hp₃⟩
    refine ⟨rest', hinside.trans (.of_next ?_ (by simp [hclosing])), hp₃, isComplete_factor rest'⟩
    rw [hclosing]
    rfl
  · rename_i hnumber hopen
    exact settles_fail fun _ => ⟨_, tokens, .refl _ _, hp, rfl, .missingOperand hnumber hopen⟩

theorem settles_extend {rule operand : Rule} {left : Subtree} (hrule : rule.ChainOf operand)
    (hcomplete : IsComplete operand tokens) (hp : p.Awaits n tokens) :
    Settles (fun _ => ReadsPart rule (.afterOperand n) tokens)
      (BlamesPlace (.afterOperand n) tokens) (extend rule left p) := by
  rw [extend_eq]
  split
  · rename_i hop
    refine ⟨tokens, .refl _ _, hp, hcomplete.chain hrule fun token hhead => ?_⟩
    obtain ⟨rest, rfl⟩ := List.head?_eq_some_iff.1 hhead
    rwa [hp.current_eq] at hop
  · rename_i op hop
    have hsign := Rule.joins_iff.2 hop
    obtain ⟨rest, rfl⟩ := hp.eq_cons_of_kind rfl hsign.kind_ne.2.2.2
    have hnext : Leads (.afterOperand n) (p.current :: rest) (.beforeOperand n) rest :=
      .of_next (next?_of_joins hsign n) fun h => absurd h hsign.kind_ne.1
    obtain ⟨p₁, hconsume, hp₁⟩ := hp.consume rfl
    change Settles _ _ ((TokenReader.consume p.current.kind >>= _) p)
    rw [bind_of_ok hconsume, hrule.operand_eq]
    have hread := ((ih rest (Nat.lt_succ_self _)).read hp₁ : Settles _ _ (read operand p₁))
    refine (hread.mono (fun _ _ h => h) fun _ _ h => h.trans hnext).bind ?_
    rintro right p₂ ⟨rest', hright, hp₂, hcomplete'⟩
    refine (settles_join op p.current left right p₂).bind ?_
    rintro tree p₃ rfl
    have hlt : rest'.length < (p.current :: rest).length := Nat.lt_succ_of_le hright.length_le
    exact ((ih rest' hlt).extend hrule hcomplete' hp₂).trans (hnext.trans hright) rfl

theorem settles_read_chain {rule operand : Rule} (hrule : rule.ChainOf operand)
    (hoperand : Settles (fun _ => ReadsPart operand (.beforeOperand n) tokens)
      (BlamesPlace (.beforeOperand n) tokens) (read operand p)) :
    Settles (fun _ => ReadsPart rule (.beforeOperand n) tokens)
      (BlamesPlace (.beforeOperand n) tokens) (read rule p) := by
  rw [read_chain hrule.ne_factor, hrule.operand_eq]
  refine hoperand.bind ?_
  rintro left p₁ ⟨rest, hleft, hp₁, hcomplete⟩
  exact ((ih rest (hleft.length_lt (by simp))).extend hrule hcomplete hp₁).trans hleft rfl

end SettlesParts

theorem settlesParts (tokens : List Token) : SettlesParts tokens := by
  -- An operand in brackets or behind a sign, and the rest of a chain, start further on in the
  -- tokens, so the induction is on how many there are.
  induction hn : tokens.length using Nat.strongRecOn generalizing tokens with
  | _ n hshorter =>
    have ih : ∀ rest, rest.length < tokens.length → SettlesParts rest := by
      intro rest hlt
      exact hshorter rest.length (hn ▸ hlt) rest rfl
    constructor
    · intro rule n p hp
      -- A rule reads its operand from the same tokens, so the rules are taken from the lowest up.
      have hfactor := settles_read_factor ih hp
      have hterm := settles_read_chain ih .term hfactor
      cases rule with
      | expr => exact settles_read_chain ih .expr hterm
      | term => exact hterm
      | factor => exact hfactor
    · intro rule operand left n p hrule hcomplete hp
      exact settles_extend ih hrule hcomplete hp

/-- A reader of a whole expression refuses a misplaced token at the place that the tokens before it
lead to. -/
theorem Awaits.settles_parse {p : TokenReader} {tokens : List Token} (hp : p.Awaits 0 tokens) :
    Settles (fun _ _ => True) (BlamesPlace .start tokens) (parse p) := by
  have hread : Settles _ _ (read .expr p) := (settlesParts tokens).read hp
  refine hread.bind ?_
  rintro tree q ⟨rest, hlead, hq, hcomplete⟩
  change Settles _ _ ((if q.current.isEnd then pure tree.expr else fail .trailingToken q.current :
    Parse Expr) q)
  split
  · trivial
  · rename_i hend
    refine settles_fail fun _ => ⟨_, rest, hlead, hq, rfl, ?_⟩
    obtain ⟨rest', rfl⟩ := hq.eq_cons (by simpa using hend)
    exact .trailingToken (hcomplete.next?_eq_none fun _ => rfl) (by simpa [Token.isEnd] using hend)

end TokenReader

/-! ## Lists of tokens -/

/-- `RefusedAfter tokens source before error`: a reader of the tokens fails with the error when it
has consumed `before` and looks at the token that the error is about. -/
def RefusedAfter (tokens : List Token) (source : Option String) (before : List Token)
    (error : ParseError) : Prop :=
  ∃ p q, TokenReader.start (.ofList tokens) source = .ok p ∧
    TokenReader.parse p = .error (.grammatical error) q ∧ q.current = error.found ∧
    untilEnd tokens = before ++ untilEnd (q.current :: q.stream.tokens)

theorem RefusedAfter.ofTokens_eq {tokens before : List Token} {source : Option String}
    {error : ParseError} (h : RefusedAfter tokens source before error) :
    Expr.ofTokens tokens source = .error (.grammatical error) := by
  obtain ⟨p, q, hstart, hparse, -⟩ := h
  simp only [Expr.ofTokens, hstart, hparse]

namespace Expr

open Place

variable {tokens : List Token} {source : Option String} {error : ParseError}

/-- A misplaced token is refused at the place that the tokens before it lead to. -/
theorem exists_refusal (h : ofTokens tokens source = .error (.grammatical error))
    (hmisplaced : error.IsMisplaced) :
    ∃ before place, RefusedAfter tokens source before error ∧ WellPointed before ∧
      start.after? (before.map Token.kind) = some place ∧
      place.Refuses error.fault error.found.kind := by
  obtain ⟨p, hstart, hp⟩ := TokenReader.start_ofList tokens source
  have hparse := hp.settles_parse
  simp only [ofTokens, hstart] at h
  cases hres : TokenReader.parse p with
  | ok tree q => simp [hres] at h
  | error failure q =>
    simp only [hres, Except.error.injEq] at h
    subst h
    rw [hres] at hparse
    obtain ⟨error', herror, hblame⟩ := hparse
    obtain rfl := ParseFailure.grammatical.inj herror
    obtain ⟨place, rest, ⟨before, hsplit, hpoints, hafter⟩, hq, hfound, hrefuses⟩ :=
      hblame hmisplaced
    refine ⟨before, place, ⟨p, q, hstart, hres, hfound, ?_⟩, hpoints, hafter, hrefuses⟩
    rw [hsplit, hq.upcoming]

end Expr

namespace Place.Refuses

variable {place : Place} {fault : ParseFault} {kind : TokenKind} {error : ParseError} {n : Nat}

/-- Where an operand is due, the end of the tokens or of brackets makes an empty factor. -/
theorem kind_beforeOperand (h : (beforeOperand n).Refuses error.fault error.found.kind) :
    error.kind =
      if error.found.kind ∈ [.exprEnd, .bracketClose] then .emptyFactor else .unexpectedToken := by
  obtain ⟨fault, ⟨kind, lexeme, position⟩, source⟩ := error
  cases h
  cases kind <;> rfl

/-- Behind an operand, the end of the tokens makes an unclosed bracket. -/
theorem kind_afterOperand (h : (afterOperand n).Refuses error.fault error.found.kind) :
    error.kind =
      if error.found.kind = .exprEnd then .unclosedParenthesis else .unexpectedToken := by
  obtain ⟨fault, ⟨kind, lexeme, position⟩, source⟩ := error
  cases h with
  | unclosedBracket => rfl
  | mismatch _ hend => exact (if_neg hend).symm
  | trailingToken _ hend => exact (if_neg hend).symm

/-- The end is refused only where an operand is due or a bracket is open. -/
theorem opened_pos (h : (afterOperand n).Refuses fault .exprEnd) : 0 < n := by
  cases h with
  | unclosedBracket => exact Nat.succ_pos _
  | mismatch _ hend => exact absurd rfl hend
  | trailingToken _ hend => exact absurd rfl hend

end Place.Refuses

/-- When a token is refused as misplaced, what was consumed before it begins a sentence, but does not
with this token, nor is it a sentence itself if the token is the end. The class of the error follows
from whether an operand was due: then it is an empty factor at the end of the tokens or of brackets;
otherwise it is an unclosed bracket at the end of the tokens, where some bracket is indeed open; and
everything else is an unexpected token. -/
theorem Expr.refusal_of_ofTokens {tokens : List Token} {source : Option String} {error : ParseError}
    (h : ofTokens tokens source = .error (.grammatical error))
    (hkind : error.kind ∈ [.unexpectedToken, .emptyFactor, .unclosedParenthesis]) :
    ∃ before, RefusedAfter tokens source before error ∧
      (∃ rest, IsSentence (before.map Token.kind ++ rest)) ∧
      (∀ rest, ¬ IsSentence (before.map Token.kind ++ error.found.kind :: rest)) ∧
      (error.found.kind = .exprEnd → ¬ IsSentence (before.map Token.kind)) ∧
      ((∀ last, (before.map Token.kind).getLast? = some last → last ∈ Place.operandOpeners) →
        error.kind = if error.found.kind ∈ [.exprEnd, .bracketClose] then .emptyFactor
          else .unexpectedToken) ∧
      ((∃ last, (before.map Token.kind).getLast? = some last ∧ last ∈ Place.operandClosers) →
        error.kind = (if error.found.kind = .exprEnd then .unclosedParenthesis
          else .unexpectedToken) ∧
        (error.found.kind = .exprEnd → 0 < bracketBalance before)) := by
  obtain ⟨before, place, hrefused, -, hplace, hrefuses⟩ := exists_refusal h hkind
  refine ⟨before, hrefused, exists_isSentence_append_iff.2 ⟨place, hplace⟩, ?_, ?_, ?_⟩
  · intro rest hsentence
    rw [isSentence_iff, Place.after?_append_of_eq hplace, Place.after?_cons,
      hrefuses.next?_eq_none] at hsentence
    simp at hsentence
  · intro hend hsentence
    rw [isSentence_iff, hplace] at hsentence
    obtain rfl := Option.some.inj hsentence
    rw [hend] at hrefuses
    exact Nat.lt_irrefl 0 hrefuses.opened_pos
  rcases Place.last_of_after? hplace with ⟨n, rfl, hopener⟩ | ⟨n, rfl, last, hlast, hcloser⟩
  · refine ⟨fun _ => hrefuses.kind_beforeOperand, ?_⟩
    rintro ⟨last, hlast, hcloser⟩
    exact absurd hcloser (Place.not_mem_operandClosers (hopener last hlast))
  · refine ⟨fun hopener => absurd hcloser (Place.not_mem_operandClosers (hopener last hlast)), ?_⟩
    refine fun _ => ⟨hrefuses.kind_afterOperand, fun hend => ?_⟩
    rw [hend] at hrefuses
    have hopened := Place.opened_of_after? hplace
    have hpos := hrefuses.opened_pos
    simp only [Place.opened, Place.start] at hopened
    omega

theorem Expr.refusal_of_ofTokens_star :
    ofTokens ([.bracketOpen, .number, .plus, .star].map TokenKind.sample) none =
        .error (.grammatical
          { fault := .missingOperand, found := TokenKind.star.sample, source := none }) ∧
      ∃ before, RefusedAfter ([.bracketOpen, .number, .plus, .star].map TokenKind.sample) none
          before { fault := .missingOperand, found := TokenKind.star.sample, source := none } ∧
        (∃ rest, IsSentence (before.map Token.kind ++ rest)) ∧
        ∀ rest, ¬ IsSentence (before.map Token.kind ++ .star :: rest) := by
  have h : ofTokens ([.bracketOpen, .number, .plus, .star].map TokenKind.sample) none =
      .error (.grammatical
        { fault := .missingOperand, found := TokenKind.star.sample, source := none }) := by cbv
  obtain ⟨before, hrefused, hbegins, hstops, -⟩ := refusal_of_ofTokens h (by decide)
  exact ⟨h, before, hrefused, hbegins, hstops⟩

end ExprCompiler
