import ExprCompiler.Proofs.Expr.Readable

/-!
# Reading artifacts back

The artifact of an expression has a pair of brackets for each operation, so its brackets nest as deep
as the operations do. Up to the limit on brackets it is read as the expression it came from, with a
point in every literal; beyond it, reading fails at the first bracket that is too many
(`Expr.ofText_artifact`).
-/

namespace ExprCompiler

/-- The kind of an operation's sign. -/
def BinaryOp.signKind : BinaryOp → TokenKind
  | add => .plus
  | sub => .minus
  | mul => .star
  | div => .slash

/-- The rule whose chains an operation belongs to. -/
def BinaryOp.rule : BinaryOp → Rule
  | add => .expr
  | sub => .expr
  | mul => .term
  | div => .term

/-- `Bracketed tree tokens`: the tokens spell the tree, with brackets around each operation. -/
inductive Bracketed : Expr → List Token → Prop where
  /-- A literal is one token. -/
  | number {token : Token} (hkind : token.kind = .number) :
      Bracketed (.number token.lexeme) [token]
  /-- An operation stands in brackets. -/
  | binary {op : BinaryOp} {a b : Expr} {opening sign closing : Token} {left right : List Token}
      (hopening : opening.kind = .bracketOpen) (hleft : Bracketed a left)
      (hsign : sign.kind = op.signKind) (hright : Bracketed b right)
      (hclosing : closing.kind = .bracketClose) :
      Bracketed (.binary op a b) (opening :: (left ++ sign :: (right ++ [closing])))

namespace BinaryOp

theorem ofSign?_sign (op : BinaryOp) : TokenKind.ofSign? op.sign = some op.signKind := by
  cases op <;> rfl

theorem joins_signKind (op : BinaryOp) : op.rule.Joins op.signKind op := by
  cases op <;> constructor

theorem isInNumber_sign (op : BinaryOp) : isInNumber op.sign = false := by
  cases op <;> decide

theorem rule_ne_factor (op : BinaryOp) : op.rule ≠ .factor := by
  cases op <;> decide

end BinaryOp

/-! ## Scanning an artifact -/

/-- The stream that yields some tokens first. -/
def TokenStream.prepend (tokens : List Token) (stream : TokenStream) : TokenStream :=
  tokens.foldr .cons stream

theorem TokenStream.prepend_properties (tokens : List Token) (stream : TokenStream) :
    (prepend tokens stream).tokens = tokens ++ stream.tokens ∧
      (prepend tokens stream).error? = stream.error? := by
  induction tokens with
  | nil => exact ⟨rfl, rfl⟩
  | cons token rest ih => exact ⟨congrArg (List.cons token) ih.1, ih.2⟩

/-- A sign in front of a text is a token in front of its stream. -/
theorem Lexes.exists_sign {source : String} {offset : Nat} {rest : List Char}
    {stream : TokenStream} (h : Lexes source (offset + 1) rest stream) {c : Char}
    {kind : TokenKind} (hkind : TokenKind.ofSign? c = some kind) :
    ∃ token, token.kind = kind ∧ Lexes source offset (c :: rest) (.cons token stream) :=
  ⟨_, rfl, .sign hkind h⟩

/-- The artifact of a readable expression is cut into bracketed tokens, where no number goes on
behind it. -/
theorem Expr.IsReadable.exists_lexes {source : String} {tree : Expr} (h : tree.IsReadable) :
    ∀ {offset : Nat} {rest : List Char} {stream : TokenStream}, EndsNumber rest →
      Lexes source (offset + tree.spelled.length) rest stream →
      ∃ tokens, Bracketed tree.pointed tokens ∧
        Lexes source offset (tree.spelled ++ rest) (stream.prepend tokens) := by
  induction tree with
  | number text =>
    intro offset rest stream hends hrest
    obtain ⟨first, run, htext, hfirst, hrun⟩ := (IsNumberText.pointed h).toList_eq_cons
    have hlexeme : pointedText text = .ofList (first :: run) := by
      rw [← htext, String.ofList_toList]
    rw [spelled, htext] at hrest ⊢
    let token : Token := { kind := .number, lexeme := .ofList (first :: run), position := offset }
    refine ⟨[token], ?_, .number hfirst hrun hends hrest⟩
    rw [Expr.pointed, hlexeme]
    exact @Bracketed.number token rfl
  | binary op left right ihleft ihright =>
    intro offset rest stream hends hrest
    have hlength : offset + (binary op left right).spelled.length =
        offset + 1 + left.spelled.length + 1 + right.spelled.length + 1 := by
      simp only [spelled, List.length_cons, List.length_append, List.length_nil]
      omega
    rw [hlength] at hrest
    have hbracketClose : TokenKind.ofSign? ')' = some .bracketClose := rfl
    have hbracketOpen : TokenKind.ofSign? '(' = some .bracketOpen := rfl
    obtain ⟨closing, hclosing, hrest'⟩ := hrest.exists_sign hbracketClose
    obtain ⟨after, hafter, hright⟩ := ihright h.2 (endsNumber_cons (by decide)) hrest'
    obtain ⟨sign, hsign, hright'⟩ := hright.exists_sign op.ofSign?_sign
    obtain ⟨before, hbefore, hleft⟩ := ihleft h.1 (endsNumber_cons op.isInNumber_sign) hright'
    obtain ⟨opening, hopening, hlexes⟩ := hleft.exists_sign hbracketOpen
    refine ⟨_, .binary hopening hbefore hsign hafter hclosing, ?_⟩
    simpa only [spelled, TokenStream.prepend, List.cons_append, List.append_assoc, List.nil_append,
      List.foldr_cons, List.foldr_append, List.foldr_nil] using hlexes
  | raw _ => exact h.elim

/-- The tokens of an artifact are bracketed, and the end follows them. -/
theorem Expr.IsReadable.exists_tokensOf {tree : Expr} (h : tree.IsReadable) :
    ∃ tokens ending, Bracketed tree.pointed tokens ∧ ending.isEnd = true ∧
      tokensOf (.ofList tree.spelled) = .ok (tokens ++ [ending]) := by
  have hends : EndsNumber [] := by simp [EndsNumber]
  obtain ⟨tokens, hbracketed, hlexes⟩ :=
    @IsReadable.exists_lexes (.ofList tree.spelled) _ h 0 [] _ hends .finish
  rw [List.append_nil] at hlexes
  obtain ⟨htokens, herror⟩ :=
    TokenStream.prepend_properties tokens (.cons (.endAt (0 + tree.spelled.length : Nat)) .done)
  refine ⟨tokens, .endAt (0 + tree.spelled.length : Nat), hbracketed, rfl, ?_⟩
  refine tokensOf_eq_ok_iff.2 ⟨_, ?_, herror, htokens⟩
  rw [String.toList_ofList]
  exact hlexes

/-! ## Bracketed tokens in the grammar -/

namespace Bracketed

variable {tree : Expr} {tokens : List Token}

/-- Bracketed tokens are a factor with the tree that they spell. -/
theorem derives (h : Bracketed tree tokens) : Derives .factor tokens tree := by
  induction h with
  | number hkind => exact .number hkind
  | @binary op a b opening sign closing left right hopening _ hsign _ hclosing ihleft ihright =>
    have hjoins : op.rule.Joins sign.kind op := hsign ▸ op.joins_signKind
    have hinner : Derives .expr (left ++ sign :: right) (.binary op a b) := by
      cases op with
      | add => exact .chain .expr (ihleft.of_factor _) hjoins (ihright.of_factor _)
      | sub => exact .chain .expr (ihleft.of_factor _) hjoins (ihright.of_factor _)
      | mul => exact .single .expr (.chain .term (ihleft.of_factor _) hjoins ihright)
      | div => exact .single .expr (.chain .term (ihleft.of_factor _) hjoins ihright)
    have hbrackets := Derives.brackets hopening hinner hclosing
    rwa [List.append_assoc, List.cons_append] at hbrackets

theorem wellPointed (h : Bracketed tree tokens) (hreadable : tree.IsReadable) : WellPointed tokens :=
  fun token hmem hkind => (h.derives.forall_isNumberText hreadable token hmem hkind).points

theorem untilEnd_append (h : Bracketed tree tokens) {ending : Token} (hending : ending.isEnd = true) :
    untilEnd (tokens ++ [ending]) = tokens :=
  untilEnd_append_end [] h.derives.isEnd_eq_false hending

/-- The brackets nest as deep as the operations. -/
theorem bracketNesting_eq (h : Bracketed tree tokens) (opened : Nat) :
    bracketNesting opened tokens = opened + tree.depth := by
  induction h generalizing opened with
  | number hkind =>
    rw [bracketNesting_cons_of_ne (by simp [hkind]) (by simp [hkind])]
    rfl
  | @binary op a b opening sign closing left right hopening hleft hsign hright hclosing ihleft
      ihright =>
    obtain ⟨-, hopen, hclose, -⟩ := op.joins_signKind.kind_ne
    rw [← hsign] at hopen hclose
    rw [bracketNesting_cons_open hopening, hleft.derives.bracketNesting_append,
      bracketNesting_cons_of_ne hopen hclose, hright.derives.bracketNesting_append,
      bracketNesting_cons_close hclosing, ihleft, ihright, Expr.depth]
    simp only [bracketNesting, Nat.add_sub_cancel]
    omega

end Bracketed

/-! ## One bracket too many -/

namespace TokenReader

/-- A step fails at an opening bracket that is one too many. -/
def RefusesBracket {α : Type} : EStateM.Result ParseFailure TokenReader α → Prop
  | .ok _ _ => False
  | .error failure _ => ∃ error, failure = .grammatical error ∧ error.fault = .tooManyBrackets ∧
      error.found.kind = .bracketOpen

section Refusal

variable {p : TokenReader} {token : Token} {rest : List Token}

theorem refusesBracket_iff_fails {α : Type} {outcome : EStateM.Result ParseFailure TokenReader α} :
    RefusesBracket outcome ↔
      Fails (fun error => error.fault = .tooManyBrackets ∧ error.found.kind = .bracketOpen)
        outcome := by
  cases outcome <;> rfl

theorem Awaits.refuses_enter (hp : p.Awaits maxBracketDepth (token :: rest))
    (hkind : token.kind = .bracketOpen) : RefusesBracket (TokenReader.enter p) := by
  have hcurrent := hp.current_eq
  rw [TokenReader.enter, if_pos (Nat.le_of_eq hp.opened.symm)]
  exact ⟨_, rfl, rfl, hcurrent ▸ hkind⟩

end Refusal

end TokenReader

namespace Bracketed

open TokenReader

variable {tree : Expr} {tokens : List Token}

/-- An operation is refused in brackets if one of its operands is, where `depth` brackets are open
around it. -/
theorem refuses_chain {op : BinaryOp} {a : Expr} (b : Expr) {sign : Token}
    {left right rest : List Token} {depth : Nat} {p : TokenReader} (hleft : Bracketed a left)
    (hreadable : a.IsReadable) (hsign : sign.kind = op.signKind)
    (hdeep : maxBracketDepth < depth + max a.depth b.depth)
    (hp : p.Awaits depth (left ++ sign :: (right ++ rest)))
    (ihleft : ∀ q : TokenReader, maxBracketDepth < depth + a.depth →
      q.Awaits depth (left ++ sign :: (right ++ rest)) → RefusesBracket (read .factor q))
    (ihright : ∀ q : TokenReader, maxBracketDepth < depth + b.depth →
      q.Awaits depth (right ++ rest) → RefusesBracket (read .factor q)) :
    RefusesBracket (read .expr p) := by
  have hjoins : op.rule.Joins sign.kind op := hsign ▸ op.joins_signKind
  have hchain := Rule.chainOf_operand op.rule_ne_factor
  rw [refusesBracket_iff_fails]
  suffices h : Fails _ (read op.rule p) by
    cases op with
    | add => exact h
    | sub => exact h
    | mul => exact h.of_operand .expr
    | div => exact h.of_operand .expr
  by_cases hfits : maxBracketDepth < depth + a.depth
  · exact (refusesBracket_iff_fails.1 (ihleft p hfits hp)).of_factor _
  · have hlimits : KeepsLimits depth left a := by
      refine ⟨hleft.wellPointed hreadable, ?_, ?_⟩
      · rw [hleft.bracketNesting_eq]
        omega
      · have hlimit : maxBracketDepth ≤ maxOperationDepth := by decide
        omega
    have hstops : op.rule = .expr → Stops .term (sign :: (right ++ rest)) := by
      intro hrule
      exact stops_cons_of_joins hjoins (by simp [hrule])
    obtain ⟨q, hread, hq⟩ := read_of_derives (hleft.derives.of_factor op.rule) hlimits hstops hp
    rw [hread]
    refine hq.fails_extend hchain hjoins (fun r hr => ?_) _
    exact (refusesBracket_iff_fails.1 (ihright r (by omega) hr)).of_factor _

/-- Bracketed tokens that nest too deep are refused at a bracket. -/
theorem refuses_read (h : Bracketed tree tokens) :
    ∀ {depth : Nat} {rest : List Token} {p : TokenReader}, tree.IsReadable →
      depth ≤ maxBracketDepth → maxBracketDepth < depth + tree.depth →
      p.Awaits depth (tokens ++ rest) → RefusesBracket (read .factor p) := by
  induction h with
  | number _ =>
    intro depth rest p _ hdepth hdeep _
    simp only [Expr.depth] at hdeep
    omega
  | @binary op a b opening sign closing left right hopening hleft hsign _ _ ihleft ihright =>
    intro depth rest p hreadable hdepth hdeep hp
    rw [List.cons_append, List.append_assoc, List.cons_append, List.append_assoc] at hp
    rw [Expr.depth] at hdeep
    rw [read_factor, hp.current_eq, hopening, refusesBracket_iff_fails]
    change Fails _ ((TokenReader.enter >>= _) p)
    rcases Nat.eq_or_lt_of_le hdepth with rfl | hlt
    · exact (refusesBracket_iff_fails.1 (hp.refuses_enter hopening)).bind
    · obtain ⟨q, henter, hq⟩ := hp.enter hopening hlt
      rw [bind_of_ok henter]
      refine (refusesBracket_iff_fails.1 ?_).bind
      refine refuses_chain b hleft hreadable.1 hsign ?_ hq ?_ ?_
      · omega
      · exact fun r hdeep hr => ihleft hreadable.1 hlt hdeep hr
      · exact fun r hdeep hr => ihright hreadable.2 hlt hdeep hr

end Bracketed

/-! ## Whole artifacts -/

namespace Expr

theorem IsReadable.ofText_of_le {tree : Expr} (h : tree.IsReadable)
    (hdepth : tree.depth ≤ maxBracketDepth) :
    ofText (.ofList tree.spelled) = .ok tree.pointed := by
  obtain ⟨tokens, ending, hbracketed, hending, htokens⟩ := h.exists_tokensOf
  rw [← depth_pointed] at hdepth
  have hlimit : maxBracketDepth ≤ maxOperationDepth := by decide
  have hsentence : Sentence .expr 0 (untilEnd (tokens ++ [ending])) tree.pointed := by
    rw [hbracketed.untilEnd_append hending]
    refine ⟨⟨hbracketed.wellPointed h.pointed, ?_, ?_⟩, hbracketed.derives.of_factor .expr⟩
    · rw [hbracketed.bracketNesting_eq, Nat.zero_add]
      exact hdepth
    · exact Nat.le_trans hdepth hlimit
  simp only [ofText, htokens, ofTokens_of_sentence hsentence]

theorem IsReadable.ofText_of_lt {tree : Expr} (h : tree.IsReadable)
    (hdepth : maxBracketDepth < tree.depth) :
    ∃ error, ofText (.ofList tree.spelled) = .error (.grammatical error) ∧
      error.fault = .tooManyBrackets ∧ error.found.kind = .bracketOpen := by
  obtain ⟨tokens, ending, hbracketed, hending, htokens⟩ := h.exists_tokensOf
  rw [← depth_pointed] at hdepth
  simp only [ofText, htokens]
  refine ofTokens_of_fails fun p hp => ?_
  rw [hbracketed.untilEnd_append hending, ← List.append_nil tokens] at hp
  have hread := hbracketed.refuses_read h.pointed (Nat.zero_le _) (by omega) hp
  exact (TokenReader.refusesBracket_iff_fails.1 hread).of_factor .expr

/-- The artifact of a readable expression is read as the expression with a point in every literal,
whose artifact is the same text, as long as its operations nest to 100 at most. The artifact of a
deeper one is refused as nested too deep, at an opening bracket. -/
theorem ofText_artifact (tree : Expr) (h : tree.IsReadable) :
    ∃ text, tree.artifact = .ok text ∧
      (tree.depth ≤ 100 → ofText text = .ok tree.pointed ∧ tree.pointed.artifact = .ok text) ∧
      (100 < tree.depth → ∃ error, ofText text = .error (.grammatical error) ∧
        error.kind = .tooDeep ∧ error.found.kind = .bracketOpen) := by
  refine ⟨_, h.artifact_eq, ?_, ?_⟩
  · intro hdepth
    refine ⟨h.ofText_of_le hdepth, ?_⟩
    rw [h.pointed.artifact_eq, spelled_pointed]
  · intro hdepth
    obtain ⟨error, herror, hfault, hfound⟩ := h.ofText_of_lt hdepth
    exact ⟨error, herror, by rw [ParseError.kind, hfault], hfound⟩

theorem ofText_artifact_of_quotient :
    (binary .div (number "007") (binary .sub (number "5.") (number "2.50"))).IsReadable ∧
      (binary .div (number "007") (binary .sub (number "5.") (number "2.50"))).artifact =
        .ok "(007.0/(5.-2.50))" ∧
      ofText "(007.0/(5.-2.50))" =
        .ok (binary .div (number "007.0") (binary .sub (number "5.") (number "2.50"))) := by
  have hseven : IsNumberText "007" := ⟨⟨'0', rfl, rfl⟩, by simp, by decide⟩
  have hfive : IsNumberText "5." := ⟨⟨'5', rfl, rfl⟩, by simp, by decide⟩
  have htwo : IsNumberText "2.50" := ⟨⟨'2', rfl, rfl⟩, by simp, by decide⟩
  have hartifact : (binary .div (number "007") (binary .sub (number "5.") (number "2.50"))).artifact =
      .ok "(007.0/(5.-2.50))" := by cbv
  obtain ⟨text, htext, hread, -⟩ := ofText_artifact
    (binary .div (number "007") (binary .sub (number "5.") (number "2.50"))) ⟨hseven, hfive, htwo⟩
  obtain rfl := Except.ok.inj (hartifact.symm.trans htext)
  have hpointed : (binary .div (number "007") (binary .sub (number "5.") (number "2.50"))).pointed =
      binary .div (number "007.0") (binary .sub (number "5.") (number "2.50")) := by decide
  refine ⟨⟨hseven, hfive, htwo⟩, hartifact, ?_⟩
  rw [← hpointed]
  exact (hread (by decide)).1

end Expr

end ExprCompiler
