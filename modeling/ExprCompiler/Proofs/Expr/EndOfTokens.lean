import ExprCompiler.Proofs.Expr.ListReader
import ExprCompiler.Proofs.Expr.OnDemand

/-!
# The end of a list of tokens

A reader never gets past the first end of its list. So nothing that it is asked for shows what stands
behind that end, nor whether a list that has no end was given one (`answersTo_untilEnd`). The two
readers that are compared are followed in lockstep (`abreast`): they have consumed as many tokens, and
not the end. At the end itself a reader stays, and finds no part of an expression there.
-/

namespace ExprCompiler.TokenReader

/-- What is seen of a reader: the token that it looks at, and the number of brackets that it is in. -/
def outlook (p : TokenReader) : Token × Nat :=
  (p.current, p.bracketDepth)

/-- What a reader of a list shows when it starts and after each step, with the step's result. -/
def answersTo (tokens : List Token) (source : Option String) (requests : List ParseRequest) :
    Except LexError ((Token × Nat) × List (Except ParseFailure ParseReply × Token × Nat)) := do
  let (p, steps) ← startEach (.ofList tokens) source requests
  return (p.outlook, steps.map fun step => (step.result, step.after.outlook))

/-- The reader after it was asked for one thing after the other. -/
def afterEach (p : TokenReader) : List ParseRequest → TokenReader
  | [] => p
  | request :: rest => (p.perform request).after.afterEach rest

theorem performEach_append (p : TokenReader) (before later : List ParseRequest) :
    p.performEach (before ++ later) =
      p.performEach before ++ (p.afterEach before).performEach later := by
  induction before generalizing p with
  | nil => rfl
  | cons request rest ih => exact congrArg (List.cons _) (ih _)

/-! ## Lists that are the same up to an end -/

/-- Both lists have the same tokens up to an end at the index `stop`. -/
structure SameUntil (tokens tokens' : List Token) (source : Option String) (stop : Nat) :
    Prop where
  /-- The tokens are the same. -/
  same : ∀ index ≤ stop, tokenAt tokens source index = tokenAt tokens' source index
  /-- The last of them is an end. -/
  isEnd_stop : (tokenAt tokens source stop).isEnd = true

section Abreast

variable {tokens tokens' : List Token} {source : Option String} {stop : Nat}

/-- Readers of two lists have consumed as many tokens, and are not past `stop`. -/
def Abreast (tokens tokens' : List Token) (source : Option String) (stop : Nat)
    (p q : TokenReader) : Prop :=
  ∃ index depth, index ≤ stop ∧ p = readerAt tokens source index depth ∧
    q = readerAt tokens' source index depth

/-- Readers of lists that are the same up to an end stay abreast, also when they fail. -/
def abreast (h : SameUntil tokens tokens' source stop) : Lockstep where
  Related := Abreast tokens tokens' source stop
  Alike := Eq
  Failed failure p failure' q := failure = failure' ∧ Abreast tokens tokens' source stop p q
  kind_eq htoken := congrArg Token.kind htoken
  lexeme_eq htoken _ := congrArg Token.lexeme htoken
  alike_current := by
    rintro _ _ ⟨index, depth, hle, rfl, rfl⟩
    exact h.same index hle
  bracketDepth_eq := by
    rintro _ _ ⟨index, depth, -, rfl, rfl⟩
    rfl
  related_bracketDepth := by
    rintro _ _ ⟨index, _, hle, rfl, rfl⟩ depth
    exact ⟨index, depth, hle, rfl, rfl⟩
  both_moveOn := by
    rintro _ _ ⟨index, depth, hle, rfl, rfl⟩ hend
    -- An end is not consumed, so a reader that moves on was before `stop`.
    have hne : index ≠ stop := by
      rintro rfl
      have hstop : (readerAt tokens source index depth).current.isEnd = true := h.isEnd_stop
      rw [hend] at hstop
      simp at hstop
    have hlt : index + 1 ≤ stop := by omega
    rw [moveOn_readerAt, moveOn_readerAt]
    exact ⟨rfl, index + 1, depth, hlt, rfl, rfl⟩
  failed_fail := by
    rintro _ _ ⟨index, depth, hle, rfl, rfl⟩ token _ rfl fault
    exact ⟨rfl, index, depth, hle, rfl, rfl⟩

theorem Abreast.outlook_eq (h : SameUntil tokens tokens' source stop) {p q : TokenReader}
    (hpq : Abreast tokens tokens' source stop p q) : p.outlook = q.outlook := by
  have hcurrent : p.current = q.current := (abreast h).alike_current hpq
  have hdepth := (abreast h).bracketDepth_eq hpq
  rw [outlook, outlook, hcurrent, hdepth]

theorem result_eq_of_bothDone (h : SameUntil tokens tokens' source stop) {done done' : ParseStep}
    (hdone : (abreast h).BothDone done done') : done.result = done'.result := by
  unfold Lockstep.BothDone at hdone
  split at hdone
  · rename_i reply reply' hok hok'
    rw [hok, hok']
    cases hdone.1 with
    | whole expr => rfl
    | part tree => rfl
    | token htoken =>
      obtain rfl := htoken
      rfl
  · rename_i failure failure' herror herror'
    rw [herror, herror', hdone.1]
  · exact hdone.elim

/-- Readers of lists that are the same up to an end answer the same. -/
theorem SameUntil.answersTo_eq (h : SameUntil tokens tokens' source stop)
    (requests : List ParseRequest) :
    answersTo tokens source requests = answersTo tokens' source requests := by
  have hresumes : (abreast h).Resumes := fun _ _ _ _ hfailed => hfailed.2
  have hstart : (abreast h).Related (readerAt tokens source 0 0) (readerAt tokens' source 0 0) :=
    ⟨0, 0, Nat.zero_le _, rfl, rfl⟩
  have hsteps := (abreast h).both_performEach hresumes hstart requests
  have hanswers : ((readerAt tokens source 0 0).performEach requests).map
        (fun step => (step.result, step.after.outlook)) =
      ((readerAt tokens' source 0 0).performEach requests).map
        (fun step => (step.result, step.after.outlook)) := by
    rw [← List.forall₂_eq_eq_eq, List.forall₂_map_left_iff, List.forall₂_map_right_iff]
    refine hsteps.imp fun done done' hdone => ?_
    rw [result_eq_of_bothDone h hdone, Abreast.outlook_eq h (hdone.related hresumes)]
  rw [answersTo, answersTo, startEach_eq_ok (start_ofList_eq tokens source) requests,
    startEach_eq_ok (start_ofList_eq tokens' source) requests]
  show Except.ok (_, _) = Except.ok (_, _)
  rw [hanswers, Abreast.outlook_eq h hstart]

end Abreast

section Ends

variable (tokens : List Token) (source : Option String)

theorem isEnd_tokenAt_untilEnd :
    (tokenAt tokens source (untilEnd tokens).length).isEnd = true := by
  induction tokens with
  | nil => rfl
  | cons token rest ih =>
    cases hend : token.isEnd with
    | true =>
      rw [untilEnd_cons_end hend]
      exact hend
    | false =>
      rw [untilEnd_cons hend]
      exact ih

/-- Behind the first end a list can be cut off. -/
theorem sameUntil_take :
    SameUntil tokens (tokens.take ((untilEnd tokens).length + 1)) source
      (untilEnd tokens).length := by
  refine ⟨fun index hle => ?_, isEnd_tokenAt_untilEnd tokens source⟩
  rw [tokenAt, tokenAt, List.getElem?_take_of_lt (Nat.lt_succ_of_le hle)]

variable {tokens}

/-- A list without an end can be given one. -/
theorem sameUntil_append_end (h : ∀ token ∈ tokens, token.isEnd = false) :
    SameUntil tokens (tokens ++ [.endAt (source.elim 0 fun text => text.length)]) source
      tokens.length := by
  have hisEnd := isEnd_tokenAt_untilEnd tokens source
  rw [untilEnd_eq_self h] at hisEnd
  refine ⟨fun index hle => ?_, hisEnd⟩
  rw [tokenAt, tokenAt]
  rcases Nat.lt_or_eq_of_le hle with hlt | rfl
  · rw [List.getElem?_append_left hlt]
  · rw [List.getElem?_concat_length, List.getElem?_eq_none (Nat.le_refl _)]
    rfl

end Ends

/-! ## At an end -/

/-- What a step does that starts at an end: it stays there, and finds no part of an expression. -/
structure StaysAt (p : TokenReader) (request : ParseRequest) (done : ParseStep) : Prop where
  after_eq : done.after = p
  of_part : (∀ kind, request ≠ .token kind) → ∃ error,
    done.result = .error (.grammatical error) ∧ error.kind = .emptyFactor ∧
      error.found = p.current

section AtEnd

variable {p : TokenReader} (h : p.current.isEnd = true)

include h

/-- No part of an expression begins at an end. -/
theorem read_of_isEnd (rule : Rule) : read rule p = fail .missingOperand p.current p := by
  have hkind : p.current.kind = .exprEnd := by simpa [Token.isEnd] using h
  have hfactor : read .factor p = fail .missingOperand p.current p := by
    rw [read_factor, hkind]
  have hterm : read .term p = fail .missingOperand p.current p := by
    rw [read_chain (by decide)]
    exact bind_of_error hfactor
  cases rule with
  | expr =>
    rw [read_chain (by decide)]
    exact bind_of_error hterm
  | term => exact hterm
  | factor => exact hfactor

theorem staysAt_perform (request : ParseRequest) : StaysAt p request (p.perform request) := by
  have hkind : p.current.kind = .exprEnd := by simpa [Token.isEnd] using h
  have hempty : ParseError.kind { fault := .missingOperand, found := p.current, source := p.source } =
      .emptyFactor := by
    rw [ParseError.kind, hkind]
  cases request with
  | whole =>
    have hanswer : answer .whole p = fail .missingOperand p.current p :=
      bind_of_error (bind_of_error (read_of_isEnd h .expr))
    rw [perform, hanswer]
    exact ⟨rfl, fun _ => ⟨_, rfl, hempty, rfl⟩⟩
  | part rule =>
    have hanswer : answer (.part rule) p = fail .missingOperand p.current p :=
      bind_of_error (read_of_isEnd h rule)
    rw [perform, hanswer]
    exact ⟨rfl, fun _ => ⟨_, rfl, hempty, rfl⟩⟩
  | token wanted =>
    refine ⟨?_, fun hpart => absurd rfl (hpart wanted)⟩
    by_cases hwanted : p.current.kind = wanted
    · have hconsume : consume wanted p = .ok p.current p := (if_pos hwanted).trans (if_pos h)
      have hanswer : answer (.token wanted) p = .ok (.token p.current) p := bind_of_ok hconsume
      rw [perform, hanswer]
    · have hconsume : consume wanted p = fail (.mismatch wanted) p.current p := if_neg hwanted
      have hanswer : answer (.token wanted) p = fail (.mismatch wanted) p.current p :=
        bind_of_error hconsume
      rw [perform, hanswer]
      rfl

theorem staysAt_performEach (requests : List ParseRequest) :
    List.Forall₂ (StaysAt p) requests (p.performEach requests) := by
  induction requests with
  | nil => exact .nil
  | cons request rest ih =>
    have hstays := staysAt_perform h request
    refine .cons hstays ?_
    rw [hstays.after_eq]
    exact ih

end AtEnd

/-- Whatever a reader of a list is asked for, it answers as if the list were cut off behind its first
end, and as if a list without an end had one where the text ends. Once it has got to an end it stays
there, and no part of an expression is found any more. -/
theorem answersTo_untilEnd (tokens : List Token) (source : Option String)
    (requests : List ParseRequest) :
    answersTo tokens source requests =
        answersTo (tokens.take ((untilEnd tokens).length + 1)) source requests ∧
      ((∀ token ∈ tokens, token.isEnd = false) →
        answersTo tokens source requests =
          answersTo (tokens ++ [.endAt (source.elim 0 fun text => text.length)]) source
            requests) ∧
      ∃ p, start (.ofList tokens) source = .ok p ∧
        ∀ before later, requests = before ++ later → (p.afterEach before).current.isEnd = true →
          ∃ steps, p.performEach requests = p.performEach before ++ steps ∧
            List.Forall₂ (StaysAt (p.afterEach before)) later steps := by
  refine ⟨(sameUntil_take tokens source).answersTo_eq requests, ?_, ?_⟩
  · intro hends
    exact (sameUntil_append_end source hends).answersTo_eq requests
  · refine ⟨readerAt tokens source 0 0, start_ofList_eq tokens source, ?_⟩
    rintro before later rfl hend
    exact ⟨_, performEach_append _ before later, staysAt_performEach hend later⟩

/-- A list of one number, and what its reader does behind the number. -/
theorem answersTo_untilEnd_number :
    answersTo [⟨.number, "1", 0⟩] none [.token .number, .whole] =
        answersTo [⟨.number, "1", 0⟩, .endAt 0] none [.token .number, .whole] ∧
      ∃ p steps, start (.ofList [⟨.number, "1", 0⟩]) none = .ok p ∧
        p.performEach [.token .number, .whole] = p.performEach [.token .number] ++ steps ∧
        List.Forall₂ (StaysAt (p.afterEach [.token .number])) [.whole] steps := by
  obtain ⟨-, hends, p, hstart, hstays⟩ :=
    answersTo_untilEnd [⟨.number, "1", 0⟩] none [.token .number, .whole]
  refine ⟨hends (by decide), ?_⟩
  obtain rfl := Except.ok.inj hstart
  obtain ⟨steps, hsteps, hforall⟩ := hstays [.token .number] [.whole] rfl (by decide)
  exact ⟨_, steps, hstart, hsteps, hforall⟩

end ExprCompiler.TokenReader
