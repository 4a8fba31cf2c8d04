import ExprCompiler.Proofs.Expr.Unambiguity
import ExprCompiler.Proofs.Token.Spelling

/-!
# Places in an expression

Of the tokens up to a point, only two things matter for what may follow: whether an operand is due,
and how many brackets are open. Together they are a `Place`, and `Place.next?` is the place behind
one more token, if the token can stand there at all.

Places decide the grammar: tokens form an expression exactly if they lead from `Place.start` to a
complete operand outside all brackets (`exists_derives_iff`). So a sequence of kinds begins a
sentence exactly if there is a place behind it (`exists_isSentence_append_iff`).
-/

namespace ExprCompiler

/-- What the tokens up to a point leave open. -/
inductive Place where
  /-- An operand is due, inside of `opened` brackets. -/
  | beforeOperand (opened : Nat)
  /-- An operand is complete, inside of `opened` brackets. -/
  | afterOperand (opened : Nat)
  deriving DecidableEq, Repr

namespace Place

/-- The place at which an expression starts. -/
def start : Place := beforeOperand 0

/-- The number of brackets that are open. -/
def opened : Place → Nat
  | beforeOperand n => n
  | afterOperand n => n

/-- The place behind a token, if a token of this kind can stand here. -/
def next? : Place → TokenKind → Option Place
  | beforeOperand n, .number => some (afterOperand n)
  | beforeOperand n, .bracketOpen => some (beforeOperand (n + 1))
  | afterOperand n, .plus => some (beforeOperand n)
  | afterOperand n, .minus => some (beforeOperand n)
  | afterOperand n, .star => some (beforeOperand n)
  | afterOperand n, .slash => some (beforeOperand n)
  | afterOperand (n + 1), .bracketClose => some (afterOperand n)
  | _, _ => none

/-- The place behind tokens of the given kinds. -/
def after? (place : Place) (kinds : List TokenKind) : Option Place :=
  kinds.foldlM next? place

end Place

/-- The kinds of the tokens of some expression, where no limit counts. -/
def IsSentence (kinds : List TokenKind) : Prop :=
  ∃ tokens tree, tokens.map Token.kind = kinds ∧ Derives .expr tokens tree

namespace Place

variable {place place' : Place} {kind : TokenKind} {kinds rest : List TokenKind} {n : Nat}

@[simp]
theorem after?_nil (place : Place) : place.after? [] = some place :=
  rfl

@[simp]
theorem after?_cons (place : Place) (kind : TokenKind) (rest : List TokenKind) :
    place.after? (kind :: rest) = (place.next? kind).bind fun place' => place'.after? rest :=
  List.foldlM_cons

theorem after?_append (place : Place) (kinds rest : List TokenKind) :
    place.after? (kinds ++ rest) = (place.after? kinds).bind fun place' => place'.after? rest :=
  List.foldlM_append

theorem after?_append_of_eq (h : place.after? kinds = some place') :
    place.after? (kinds ++ rest) = place'.after? rest := by
  rw [after?_append, h, Option.bind_some]

/-- There is a place behind every front of tokens behind which there is one. -/
theorem exists_after?_of_append (h : place.after? (kinds ++ rest) = some place') :
    ∃ middle, place.after? kinds = some middle ∧ middle.after? rest = some place' := by
  rw [after?_append] at h
  exact Option.bind_eq_some_iff.1 h

/-- A sign stands behind an operand, and an operand is due after it. -/
theorem next?_of_joins {rule : Rule} {op : BinaryOp} (h : rule.Joins kind op) (n : Nat) :
    (afterOperand n).next? kind = some (beforeOperand n) := by
  cases h <;> rfl

/-- All that can stand at a place, and where it leads. -/
theorem next?_eq_some (h : place.next? kind = some place') :
    (∃ n, place = beforeOperand n ∧ kind = .number ∧ place' = afterOperand n) ∨
    (∃ n, place = beforeOperand n ∧ kind = .bracketOpen ∧ place' = beforeOperand (n + 1)) ∨
    (∃ n rule op, place = afterOperand n ∧ Rule.Joins rule kind op ∧ place' = beforeOperand n) ∨
    (∃ n, place = afterOperand (n + 1) ∧ kind = .bracketClose ∧ place' = afterOperand n) := by
  unfold next? at h
  split at h
  case h_1 n => exact .inl ⟨n, rfl, rfl, (Option.some.inj h).symm⟩
  case h_2 n => exact .inr (.inl ⟨n, rfl, rfl, (Option.some.inj h).symm⟩)
  case h_3 n => exact .inr (.inr (.inl ⟨n, _, _, rfl, .add, (Option.some.inj h).symm⟩))
  case h_4 n => exact .inr (.inr (.inl ⟨n, _, _, rfl, .sub, (Option.some.inj h).symm⟩))
  case h_5 n => exact .inr (.inr (.inl ⟨n, _, _, rfl, .mul, (Option.some.inj h).symm⟩))
  case h_6 n => exact .inr (.inr (.inl ⟨n, _, _, rfl, .div, (Option.some.inj h).symm⟩))
  case h_7 n => exact .inr (.inr (.inr ⟨n, rfl, rfl, (Option.some.inj h).symm⟩))
  case h_8 => simp at h

/-- Behind tokens, as many brackets more are open as the tokens open and do not close. -/
theorem opened_of_after? {tokens : List Token}
    (h : place.after? (tokens.map Token.kind) = some place') :
    (place'.opened : Int) = place.opened + bracketBalance tokens := by
  induction tokens generalizing place with
  | nil =>
    obtain rfl := Option.some.inj h
    simp [bracketBalance]
  | cons token rest ih =>
    rw [List.map_cons, after?_cons, Option.bind_eq_some_iff] at h
    obtain ⟨middle, hnext, hrest⟩ := h
    have hrest' := ih hrest
    rcases next?_eq_some hnext with ⟨n, rfl, hkind, rfl⟩ | ⟨n, rfl, hkind, rfl⟩ |
      ⟨n, rule, op, rfl, hsign, rfl⟩ | ⟨n, rfl, hkind, rfl⟩
    · rw [bracketBalance_cons_of_ne (by simp [hkind]) (by simp [hkind])]
      exact hrest'
    · rw [bracketBalance_cons_open hkind]
      simp only [opened] at hrest' ⊢
      omega
    · rw [bracketBalance_cons_of_ne hsign.kind_ne.2.1 hsign.kind_ne.2.2.1]
      exact hrest'
    · rw [bracketBalance_cons_close hkind]
      simp only [opened] at hrest' ⊢
      omega

/-- The kinds after which an operand is due. -/
def operandOpeners : List TokenKind := [.plus, .minus, .star, .slash, .bracketOpen]

/-- The kinds after which an operand is complete. -/
def operandClosers : List TokenKind := [.number, .bracketClose]

theorem not_mem_operandClosers {kind : TokenKind} (h : kind ∈ operandOpeners) :
    kind ∉ operandClosers := by
  revert h
  cases kind <;> decide

/-- The kind that leads to a place tells whether an operand is due there. -/
theorem mem_of_next? (h : place.next? kind = some place') :
    (∃ n, place' = beforeOperand n ∧ kind ∈ operandOpeners) ∨
    (∃ n, place' = afterOperand n ∧ kind ∈ operandClosers) := by
  rcases next?_eq_some h with ⟨n, -, rfl, rfl⟩ | ⟨n, -, rfl, rfl⟩ | ⟨n, rule, op, -, hsign, rfl⟩ |
    ⟨n, -, rfl, rfl⟩
  · exact .inr ⟨n, rfl, by decide⟩
  · exact .inl ⟨n + 1, rfl, by decide⟩
  · exact .inl ⟨n, rfl, by cases hsign <;> decide⟩
  · exact .inr ⟨n, rfl, by decide⟩

/-- What was read last tells whether an operand is due. -/
theorem last_of_after? (h : start.after? kinds = some place) :
    (∃ n, place = beforeOperand n ∧ ∀ last, kinds.getLast? = some last → last ∈ operandOpeners) ∨
    (∃ n, place = afterOperand n ∧ ∃ last, kinds.getLast? = some last ∧ last ∈ operandClosers) := by
  rcases List.eq_nil_or_concat kinds with rfl | ⟨front, last, rfl⟩
  · obtain rfl := Option.some.inj h
    exact .inl ⟨0, rfl, by simp⟩
  · rw [List.concat_eq_append] at h
    obtain ⟨middle, -, hlast⟩ := exists_after?_of_append h
    rw [after?_cons, Option.bind_eq_some_iff] at hlast
    obtain ⟨place', hnext, hplace⟩ := hlast
    obtain rfl := Option.some.inj hplace
    rcases mem_of_next? hnext with ⟨n, rfl, hmem⟩ | ⟨n, rfl, hmem⟩
    · exact .inl ⟨n, rfl, by simpa using hmem⟩
    · exact .inr ⟨n, rfl, last, by simp, hmem⟩

end Place

/-! ## Expressions lead from a due operand to a complete one -/

theorem Derives.after?_eq {rule : Rule} {tokens : List Token} {tree : Expr}
    (h : Derives rule tokens tree) (n : Nat) :
    (Place.beforeOperand n).after? (tokens.map Token.kind) = some (.afterOperand n) := by
  induction h generalizing n with
  | number hkind => simp [hkind, Place.next?]
  | brackets hopening _ hclosing ih =>
    simp only [List.map_cons, List.map_append, List.map_nil, Place.after?_cons, hopening,
      Place.next?, Option.bind_some, Place.after?_append_of_eq (ih (n + 1)), hclosing,
      Place.after?_nil]
  | single _ _ ih => exact ih n
  | chain _ _ hsign _ ihleft ihright =>
    rw [List.map_append, List.map_cons, Place.after?_append_of_eq (ihleft n), Place.after?_cons,
      Place.next?_of_joins hsign, Option.bind_some, ihright]

/-! ## Tokens that lead to a complete operand are an expression -/

/-- An expression goes on with any sign and a factor. -/
theorem Derives.exists_extend {tokens right : List Token} {sign : Token} {rule : Rule}
    {op : BinaryOp} {a b : Expr} (h : Derives .expr tokens a) (hsign : rule.Joins sign.kind op)
    (hright : Derives .factor right b) : ∃ tree, Derives .expr (tokens ++ sign :: right) tree := by
  cases rule with
  | expr => exact ⟨_, .chain .expr h hsign (.single .term hright)⟩
  | term =>
    -- The factor belongs to the last term of the expression.
    cases h with
    | single hrule hterm =>
      cases hrule
      exact ⟨_, .single .expr (.chain .term hterm hsign hright)⟩
    | @chain _ _ left last sign' op' a' b' hrule hleft hsign' hlast =>
      cases hrule
      refine ⟨.binary op' a' (.binary op b' b), ?_⟩
      rw [List.append_assoc, List.cons_append]
      exact .chain .expr hleft hsign' (.chain .term hlast hsign hright)
  | factor => cases hsign

/-- Tokens after which an operand of an expression is due: none, or an expression and a sign. -/
inductive AwaitsOperand : List Token → Prop where
  /-- The first operand. -/
  | first : AwaitsOperand []
  /-- The operand behind a sign. -/
  | next {tokens : List Token} {sign : Token} {rule : Rule} {op : BinaryOp} {tree : Expr}
      (h : Derives .expr tokens tree) (hsign : rule.Joins sign.kind op) :
      AwaitsOperand (tokens ++ [sign])

/-- The tokens up to the innermost of some open brackets: in front of each, an operand is due. -/
inductive OpensBrackets : Nat → List Token → Prop where
  /-- No bracket is open. -/
  | none : OpensBrackets 0 []
  /-- One more bracket is. -/
  | more {n : Nat} {outer inner : List Token} {opening : Token} (houter : OpensBrackets n outer)
      (hinner : AwaitsOperand inner) (hopening : opening.kind = .bracketOpen) :
      OpensBrackets (n + 1) (outer ++ (inner ++ [opening]))

/-- The tokens in front of a place, cut at the innermost open bracket. -/
inductive Reaches : Place → List Token → Prop where
  /-- An operand is due. -/
  | beforeOperand {n : Nat} {outer inner : List Token} (houter : OpensBrackets n outer)
      (hinner : AwaitsOperand inner) : Reaches (.beforeOperand n) (outer ++ inner)
  /-- An operand is complete. -/
  | afterOperand {n : Nat} {outer inner : List Token} {tree : Expr}
      (houter : OpensBrackets n outer) (hinner : Derives .expr inner tree) :
      Reaches (.afterOperand n) (outer ++ inner)

theorem AwaitsOperand.exists_derives {tokens factor : List Token} {tree : Expr}
    (h : AwaitsOperand tokens) (hfactor : Derives .factor factor tree) :
    ∃ whole, Derives .expr (tokens ++ factor) whole := by
  cases h with
  | first => exact ⟨tree, .single .expr (.single .term hfactor)⟩
  | next hleft hsign =>
    rw [List.append_assoc, List.singleton_append]
    exact hleft.exists_extend hsign hfactor

/-- One more token leads from place to place. -/
theorem Reaches.next {place place' : Place} {tokens : List Token} {token : Token}
    (h : Reaches place tokens) (hnext : place.next? token.kind = some place') :
    Reaches place' (tokens ++ [token]) := by
  rcases Place.next?_eq_some hnext with ⟨n, rfl, hkind, rfl⟩ | ⟨n, rfl, hkind, rfl⟩ |
    ⟨n, rule, op, rfl, hsign, rfl⟩ | ⟨n, rfl, hkind, rfl⟩
  · obtain ⟨houter, hinner⟩ := h
    obtain ⟨tree, hwhole⟩ := hinner.exists_derives (.number hkind)
    rw [List.append_assoc]
    exact .afterOperand houter hwhole
  · obtain ⟨houter, hinner⟩ := h
    rw [← List.append_nil (_ ++ [token]), List.append_assoc _ _ [token]]
    exact .beforeOperand (.more houter hinner hkind) .first
  · obtain _ | ⟨houter, hinner⟩ := h
    rw [List.append_assoc]
    exact .beforeOperand houter (.next hinner hsign)
  · -- The bracket that is closed and what is in it are a factor, and complete the part around it.
    obtain _ | @⟨_, outer, inner, tree, houter, hinner⟩ := h
    cases houter with
    | @more _ outer' before opening houter hbefore hopening =>
      obtain ⟨whole, hwhole⟩ := hbefore.exists_derives (.brackets hopening hinner hkind)
      have hsplit : outer' ++ (before ++ [opening]) ++ inner ++ [token] =
          outer' ++ (before ++ opening :: (inner ++ [token])) := by
        simp only [List.append_assoc, List.cons_append, List.nil_append]
      rw [hsplit]
      exact .afterOperand houter hwhole

theorem Reaches.run {place place' : Place} {tokens rest : List Token} (h : Reaches place tokens)
    (hrun : place.after? (rest.map Token.kind) = some place') : Reaches place' (tokens ++ rest) := by
  induction rest generalizing place tokens with
  | nil =>
    obtain rfl := Option.some.inj hrun
    rwa [List.append_nil]
  | cons token rest ih =>
    rw [List.map_cons, Place.after?_cons, Option.bind_eq_some_iff] at hrun
    obtain ⟨middle, hnext, hrest⟩ := hrun
    rw [← List.singleton_append, ← List.append_assoc]
    exact ih (h.next hnext) hrest

theorem Place.reaches_of_after? {place : Place} {tokens : List Token}
    (h : start.after? (tokens.map Token.kind) = some place) : Reaches place tokens := by
  have hstart : Reaches start ([] ++ []) := .beforeOperand .none .first
  have hrun := hstart.run h
  rwa [List.nil_append, List.nil_append] at hrun

/-- Tokens form an expression exactly if they lead from the start to a complete operand outside all
brackets. -/
theorem exists_derives_iff {tokens : List Token} :
    (∃ tree, Derives .expr tokens tree) ↔
      Place.start.after? (tokens.map Token.kind) = some (.afterOperand 0) := by
  constructor
  · rintro ⟨tree, h⟩
    exact h.after?_eq 0
  · intro h
    cases Place.reaches_of_after? h with
    | afterOperand houter hinner =>
      cases houter
      exact ⟨_, hinner⟩

/-! ## Sentences -/

theorem map_kind_sample (kinds : List TokenKind) :
    (kinds.map TokenKind.sample).map Token.kind = kinds := by
  rw [List.map_map]
  exact List.map_id kinds

/-- Kinds are those of a sentence exactly if they lead from the start to a complete operand outside
all brackets. -/
theorem isSentence_iff {kinds : List TokenKind} :
    IsSentence kinds ↔ Place.start.after? kinds = some (.afterOperand 0) := by
  constructor
  · rintro ⟨tokens, tree, rfl, h⟩
    exact h.after?_eq 0
  · intro h
    rw [← map_kind_sample kinds, ← exists_derives_iff] at h
    obtain ⟨tree, htree⟩ := h
    exact ⟨_, tree, map_kind_sample kinds, htree⟩

namespace Place

/-- Closing brackets. -/
def closings (n : Nat) : List Token :=
  List.replicate n TokenKind.bracketClose.sample

/-- The shortest way from a place to the end of a sentence: an operand, if one is due, and a closing
bracket for each that is open. -/
def ending : Place → List Token
  | beforeOperand n => TokenKind.number.sample :: closings n
  | afterOperand n => closings n

theorem after?_closings (n : Nat) :
    (afterOperand n).after? ((closings n).map Token.kind) = some (afterOperand 0) := by
  induction n with
  | zero => rfl
  | succ n ih =>
    rw [closings, List.replicate_succ, List.map_cons, after?_cons]
    exact ih

theorem after?_ending (place : Place) :
    place.after? (place.ending.map Token.kind) = some (afterOperand 0) := by
  cases place with
  | beforeOperand n =>
    rw [ending, List.map_cons, after?_cons]
    exact after?_closings n
  | afterOperand n => exact after?_closings n

end Place

/-- Kinds begin a sentence exactly if there is a place behind them. -/
theorem exists_isSentence_append_iff {kinds : List TokenKind} :
    (∃ rest, IsSentence (kinds ++ rest)) ↔ ∃ place, Place.start.after? kinds = some place := by
  constructor
  · rintro ⟨rest, h⟩
    obtain ⟨place, hplace, -⟩ := Place.exists_after?_of_append (isSentence_iff.1 h)
    exact ⟨place, hplace⟩
  · rintro ⟨place, h⟩
    refine ⟨place.ending.map Token.kind, isSentence_iff.2 ?_⟩
    rw [Place.after?_append_of_eq h, place.after?_ending]

end ExprCompiler
