import ExprCompiler.Crosscheck.Exclusion
import ExprCompiler.Proofs.Expr.Place
import ExprCompiler.Proofs.Expr.RoundTrip
import ExprCompiler.Proofs.Script.NumberText

/-!
# No expression is left out of the comparison

The four patterns that keep a text from being compared are patterns in the usual sense: a text is
searched for a stretch that one of them describes (`Pattern.OccursIn`), and `excludedPatterns` says
for each of them whether there is one (`excludedPatterns_iff`).

None of them occurs in a text that can be read as an expression (`isExcluded_of_ofText`): where
two signs would have to follow one another, or a minus an opening bracket, an operand is due, and a
point stands in a number only, behind a digit or another point.
-/

namespace ExprCompiler.Crosscheck

/-! ## Patterns -/

/-- The characters behind which a point would lead a number: all but digits of any script and
points. -/
def precedesLeadingPoint (c : Char) : Bool :=
  !(isDecimalDigit c || c = '.')

/-- A description of stretches of text. -/
inductive Pattern where
  /-- Nothing, where the text starts. -/
  | start
  /-- One character of a class. -/
  | one (ofClass : Char → Bool)
  /-- Any number of characters of a class. -/
  | many (ofClass : Char → Bool)
  /-- One stretch, and another right behind it. -/
  | seq (first second : Pattern)
  /-- A stretch of one kind or of another. -/
  | either (first second : Pattern)

namespace Pattern

/-- `pattern.Matches before stretch`: the pattern describes the stretch, which stands behind
`before`. -/
def Matches : Pattern → List Char → List Char → Prop
  | start, before, stretch => before = [] ∧ stretch = []
  | one ofClass, _, stretch => ∃ c, stretch = [c] ∧ ofClass c = true
  | many ofClass, _, stretch => ∀ c ∈ stretch, ofClass c = true
  | seq first second, before, stretch => ∃ front rest, stretch = front ++ rest ∧
      first.Matches before front ∧ second.Matches (before ++ front) rest
  | either first second, before, stretch =>
      first.Matches before stretch ∨ second.Matches before stretch

/-- The text holds a stretch that the pattern describes. -/
def OccursIn (pattern : Pattern) (text : List Char) : Prop :=
  ∃ before stretch after, text = before ++ (stretch ++ after) ∧ pattern.Matches before stretch

/-- A sign, up to blanks. -/
def blanksAndSign (sign : Char) : Pattern :=
  seq (many isBlank) (one (· = sign))

/-- A sign, up to blanks, behind a character of a class. -/
def signBehind (ofClass : Char → Bool) (sign : Char) : Pattern :=
  seq (one ofClass) (blanksAndSign sign)

/-- The patterns that keep a text from being compared: a doubled star; a doubled slash; a point at the
start or behind something that is neither a digit of any script nor a point; and a minus at the start
or behind an opening bracket or a sign. Between signs there may be blanks. -/
def excluded : List Pattern :=
  [signBehind (· = '*') '*',
   signBehind (· = '/') '/',
   seq (either start (one precedesLeadingPoint)) (one (· = '.')),
   seq (either start (one precedesSign)) (blanksAndSign '-')]

end Pattern

/-! ## Searching for a sign -/

/-- Whether a sign stands in a text, up to blanks, behind a character of a class. -/
def hasSignBehind (ofClass : Char → Bool) (sign : Char) : List Char → Bool
  | [] => false
  | c :: rest => (ofClass c && startsWithSign sign rest) || hasSignBehind ofClass sign rest

theorem hasDoubledSign_eq (sign : Char) (text : List Char) :
    hasDoubledSign sign text = hasSignBehind (· = sign) sign text := by
  induction text with
  | nil => rfl
  | cons c rest ih => rw [hasDoubledSign, hasSignBehind, ih]

theorem hasMinusSign_go_eq (text : List Char) :
    hasMinusSign.go text = hasSignBehind precedesSign '-' text := by
  induction text with
  | nil => rfl
  | cons c rest ih => rw [hasMinusSign.go, hasSignBehind, ih]

section Sign

variable {ofClass : Char → Bool} {sign c : Char} {text before rest : List Char}

theorem startsWithSign_cons_blank (hblank : isBlank c = true) :
    startsWithSign sign (c :: rest) = startsWithSign sign rest := by
  rw [startsWithSign, startsWithSign, List.dropWhile_cons_of_pos hblank]

theorem startsWithSign_cons_of_not_blank (hblank : isBlank c = false) :
    startsWithSign sign (c :: rest) = decide (c = sign) := by
  rw [startsWithSign, List.dropWhile_cons_of_neg (by simp [hblank]), List.head?_cons]
  simp

theorem startsWithSign_iff (hsign : isBlank sign = false) :
    startsWithSign sign text = true ↔
      ∃ blanks after, text = blanks ++ sign :: after ∧ ∀ c ∈ blanks, isBlank c = true := by
  rw [startsWithSign, decide_eq_true_eq]
  constructor
  · intro h
    obtain ⟨after, hafter⟩ := List.head?_eq_some_iff.1 h
    refine ⟨text.takeWhile isBlank, after, ?_, List.all_eq_true.1 List.all_takeWhile⟩
    rw [← hafter, List.takeWhile_append_dropWhile]
  · rintro ⟨blanks, after, rfl, hblanks⟩
    have hstop : ∀ c, (sign :: after).head? = some c → isBlank c = false := by
      intro c hc
      rw [← Option.some.inj hc]
      exact hsign
    rw [dropWhile_run hblanks hstop, List.head?_cons]

theorem hasSignBehind_iff :
    hasSignBehind ofClass sign text = true ↔
      ∃ before c rest, text = before ++ c :: rest ∧ ofClass c = true ∧
        startsWithSign sign rest = true := by
  induction text with
  | nil => simp [hasSignBehind]
  | cons d text ih =>
    rw [hasSignBehind, Bool.or_eq_true, Bool.and_eq_true, ih]
    constructor
    · rintro (⟨hclass, hstarts⟩ | ⟨before, c, rest, rfl, hclass, hstarts⟩)
      · exact ⟨[], d, text, rfl, hclass, hstarts⟩
      · exact ⟨d :: before, c, rest, rfl, hclass, hstarts⟩
    · rintro ⟨_ | ⟨e, before⟩, c, rest, htext, hclass, hstarts⟩
      · obtain ⟨rfl, rfl⟩ := List.cons.inj htext
        exact .inl ⟨hclass, hstarts⟩
      · obtain ⟨rfl, rfl⟩ := List.cons.inj htext
        exact .inr ⟨before, c, rest, rfl, hclass, hstarts⟩

/-- Characters of other classes can be passed over. -/
theorem hasSignBehind_append (h : ∀ c ∈ before, ofClass c = false) :
    hasSignBehind ofClass sign (before ++ rest) = hasSignBehind ofClass sign rest := by
  induction before with
  | nil => rfl
  | cons c before ih =>
    obtain ⟨hclass, hbefore⟩ := List.forall_mem_cons.1 h
    rw [List.cons_append, hasSignBehind, hclass, ih hbefore, Bool.false_and, Bool.false_or]

/-- What is in front of the end of a text is a sign, up to blanks. -/
theorem matches_blanksAndSign_iff (hsign : isBlank sign = false) :
    (∃ stretch after, text = stretch ++ after ∧
        (Pattern.blanksAndSign sign).Matches before stretch) ↔
      startsWithSign sign text = true := by
  rw [startsWithSign_iff hsign]
  constructor
  · rintro ⟨_, after, rfl, blanks, _, rfl, hblanks, c, rfl, hc⟩
    obtain rfl : c = sign := by simpa using hc
    exact ⟨blanks, after, by simp, hblanks⟩
  · rintro ⟨blanks, after, rfl, hblanks⟩
    exact ⟨blanks ++ [sign], after, by simp, blanks, [sign], rfl, hblanks, sign, rfl, by simp⟩

end Sign

/-! ## Searching for a point -/

theorem hasLeadingPoint_go_iff (leading : Bool) (text : List Char) :
    hasLeadingPoint.go leading text = true ↔
      (leading = true ∧ text.head? = some '.') ∨
      ∃ before c after, text = before ++ c :: '.' :: after ∧ precedesLeadingPoint c = true := by
  induction text generalizing leading with
  | nil => simp [hasLeadingPoint.go]
  | cons d text ih =>
    rw [hasLeadingPoint.go, Bool.or_eq_true, ih]
    constructor
    · rintro (hpoint | ⟨hclass, hhead⟩ | ⟨before, c, after, rfl, hclass⟩)
      · exact .inl (by simpa using hpoint)
      · obtain ⟨after, rfl⟩ := List.head?_eq_some_iff.1 hhead
        exact .inr ⟨[], d, after, rfl, hclass⟩
      · exact .inr ⟨d :: before, c, after, rfl, hclass⟩
    · rintro (hpoint | ⟨_ | ⟨e, before⟩, c, after, htext, hclass⟩)
      · exact .inl (by simpa using hpoint)
      · obtain ⟨rfl, rfl⟩ := List.cons.inj htext
        exact .inr (.inl ⟨hclass, rfl⟩)
      · obtain ⟨rfl, rfl⟩ := List.cons.inj htext
        exact .inr (.inr ⟨before, c, after, rfl, hclass⟩)

/-! ## The search decides which patterns occur -/

namespace Pattern

variable {first second pattern : Pattern} {ofClass ofClass' : Char → Bool} {sign : Char}
  {text : List Char}

theorem occursIn_seq_either :
    (seq (either first second) pattern).OccursIn text ↔
      (seq first pattern).OccursIn text ∨ (seq second pattern).OccursIn text := by
  constructor
  · rintro ⟨before, _, after, rfl, front, rest, rfl, hfirst | hsecond, hrest⟩
    · exact .inl ⟨before, _, after, rfl, front, rest, rfl, hfirst, hrest⟩
    · exact .inr ⟨before, _, after, rfl, front, rest, rfl, hsecond, hrest⟩
  · rintro (⟨before, _, after, rfl, front, rest, rfl, hfront, hrest⟩ |
      ⟨before, _, after, rfl, front, rest, rfl, hfront, hrest⟩)
    · exact ⟨before, _, after, rfl, front, rest, rfl, .inl hfront, hrest⟩
    · exact ⟨before, _, after, rfl, front, rest, rfl, .inr hfront, hrest⟩

theorem occursIn_seq_start :
    (seq start pattern).OccursIn text ↔
      ∃ stretch after, text = stretch ++ after ∧ pattern.Matches [] stretch := by
  constructor
  · rintro ⟨_, _, after, rfl, _, rest, rfl, ⟨rfl, rfl⟩, hrest⟩
    exact ⟨rest, after, rfl, hrest⟩
  · rintro ⟨stretch, after, rfl, hstretch⟩
    exact ⟨[], stretch, after, rfl, [], stretch, rfl, ⟨rfl, rfl⟩, hstretch⟩

theorem occursIn_seq_one :
    (seq (one ofClass) pattern).OccursIn text ↔
      ∃ before c rest, text = before ++ c :: rest ∧ ofClass c = true ∧
        ∃ stretch after, rest = stretch ++ after ∧ pattern.Matches (before ++ [c]) stretch := by
  constructor
  · rintro ⟨before, _, after, rfl, _, rest, rfl, ⟨c, rfl, hclass⟩, hrest⟩
    exact ⟨before, c, rest ++ after, by simp, hclass, rest, after, rfl, hrest⟩
  · rintro ⟨before, c, _, rfl, hclass, stretch, after, rfl, hstretch⟩
    exact ⟨before, c :: stretch, after, rfl, [c], stretch, rfl, ⟨c, rfl, hclass⟩, hstretch⟩

/-- A single character in front of the end of a text. -/
theorem matches_one_iff {before : List Char} :
    (∃ stretch after, text = stretch ++ after ∧ (one (· = sign)).Matches before stretch) ↔
      text.head? = some sign := by
  rw [List.head?_eq_some_iff]
  constructor
  · rintro ⟨_, after, rfl, c, rfl, hc⟩
    obtain rfl : c = sign := by simpa using hc
    exact ⟨after, rfl⟩
  · rintro ⟨after, rfl⟩
    exact ⟨[sign], after, rfl, sign, rfl, by simp⟩

theorem occursIn_signBehind_iff (hsign : isBlank sign = false) :
    (signBehind ofClass sign).OccursIn text ↔ hasSignBehind ofClass sign text = true := by
  rw [signBehind, occursIn_seq_one, hasSignBehind_iff]
  simp only [matches_blanksAndSign_iff hsign]

end Pattern

theorem hasLeadingPoint_iff (text : List Char) :
    hasLeadingPoint text = true ↔
      (Pattern.seq (.either .start (.one precedesLeadingPoint)) (.one (· = '.'))).OccursIn text := by
  rw [Pattern.occursIn_seq_either, Pattern.occursIn_seq_start, Pattern.occursIn_seq_one,
    hasLeadingPoint, hasLeadingPoint_go_iff]
  simp only [Pattern.matches_one_iff, true_and]
  refine or_congr Iff.rfl ?_
  constructor
  · rintro ⟨before, c, after, rfl, hclass⟩
    exact ⟨before, c, _, rfl, hclass, rfl⟩
  · rintro ⟨before, c, rest, rfl, hclass, hhead⟩
    obtain ⟨after, rfl⟩ := List.head?_eq_some_iff.1 hhead
    exact ⟨before, c, after, rfl, hclass⟩

theorem hasMinusSign_iff (text : List Char) :
    hasMinusSign text = true ↔
      (Pattern.seq (.either .start (.one precedesSign)) (.blanksAndSign '-')).OccursIn text := by
  have hminus : isBlank '-' = false := by decide
  rw [Pattern.occursIn_seq_either, Pattern.occursIn_seq_start,
    matches_blanksAndSign_iff hminus, ← Pattern.signBehind,
    Pattern.occursIn_signBehind_iff hminus, hasMinusSign, hasMinusSign_go_eq, Bool.or_eq_true]

/-- For each of the four patterns, `excludedPatterns` says whether it occurs in a text. -/
theorem excludedPatterns_iff (code : String) :
    List.Forall₂ (fun pattern found => found = true ↔ pattern.OccursIn code.toList)
      Pattern.excluded (excludedPatterns code) := by
  have hstar : isBlank '*' = false := by decide
  have hslash : isBlank '/' = false := by decide
  refine .cons ?_ (.cons ?_ (.cons ?_ (.cons ?_ .nil)))
  · rw [hasDoubledSign_eq, Pattern.occursIn_signBehind_iff hstar]
  · rw [hasDoubledSign_eq, Pattern.occursIn_signBehind_iff hslash]
  · exact hasLeadingPoint_iff code.toList
  · exact hasMinusSign_iff code.toList

/-! ## Texts that can be read -/

/-- A character of a lexeme, or between lexemes, is of this class only if it is a sign behind which an
operand is due. -/
def OpensOperands (ofClass : Char → Bool) : Prop :=
  ∀ c, ofClass c = true → ∃ kind ∈ Place.operandOpeners, TokenKind.ofSign? c = some kind

section Texts

variable {source : String} {offset n : Nat} {chars : List Char} {stream : TokenStream}
  {place place' : Place} {ofClass : Char → Bool} {sign : Char}

theorem OpensOperands.eq_false (h : OpensOperands ofClass) {c : Char}
    (hsign : TokenKind.ofSign? c = none) : ofClass c = false := by
  rw [Bool.eq_false_iff]
  intro hclass
  obtain ⟨kind, -, hkind⟩ := h c hclass
  rw [hsign] at hkind
  simp at hkind

theorem precedesLeadingPoint_of_isInNumber {c : Char} (h : isInNumber c = true) :
    precedesLeadingPoint c = false := by
  rcases isInNumber_iff.1 h with hdigit | rfl
  · have hall : ∀ n : Fin 10, precedesLeadingPoint (Char.ofNat (48 + n)) = false := by decide
    obtain ⟨n, rfl⟩ := exists_of_isDigit hdigit
    exact hall n
  · decide

/-- The places of a text that goes on with a sign are those behind the sign and then those of the
rest. -/
theorem after?_sign {c : Char} {kind : TokenKind} {position : Int}
    (hkind : TokenKind.ofSign? c = some kind)
    (h : place.after? ((untilEnd (TokenStream.cons { kind, lexeme := .singleton c, position }
      stream).tokens).map Token.kind) = some place') :
    ∃ behind, place.next? kind = some behind ∧
      behind.after? ((untilEnd stream.tokens).map Token.kind) = some place' := by
  have hne := (TokenKind.ne_of_ofSign? hkind).2
  rw [TokenStream.tokens, untilEnd_cons (by simp [Token.isEnd, hne]), List.map_cons,
    Place.after?_cons] at h
  exact Option.bind_eq_some_iff.1 h

/-- Where an operand is due, a text that can be read does not go on with the sign of an operation. -/
theorem startsWithSign_eq_false_of_lexes {rule : Rule} {kind : TokenKind} {op : BinaryOp}
    (hkind : TokenKind.ofSign? sign = some kind) (hjoins : rule.Joins kind op)
    (h : Lexes source offset chars stream) (herror : stream.error? = none)
    (hplace : (Place.beforeOperand n).after? ((untilEnd stream.tokens).map Token.kind) =
      some place) : startsWithSign sign chars = false := by
  induction h with
  | finish => rfl
  | blank hblank _ ih =>
    rw [startsWithSign_cons_blank hblank]
    exact ih herror hplace
  | @number offset first run rest stream hfirst _ _ _ _ =>
    have hne : first ≠ sign := by
      rintro rfl
      rw [(TokenKind.isDigit_of_ofSign? hkind).1] at hfirst
      simp at hfirst
    rw [startsWithSign_cons_of_not_blank (isBlank_of_isDigit hfirst)]
    simpa using hne
  | @sign offset c kind' rest stream hkind' _ _ =>
    have hne : c ≠ sign := by
      rintro rfl
      obtain rfl := Option.some.inj (hkind.symm.trans hkind')
      obtain ⟨behind, hnext, -⟩ := after?_sign hkind' hplace
      cases hjoins <;> simp [Place.next?] at hnext
    rw [startsWithSign_cons_of_not_blank (TokenKind.isDigit_of_ofSign? hkind').2]
    simpa using hne
  | stray _ _ _ => simp [TokenStream.error?] at herror

/-- A text that can be read has the sign of an operation nowhere behind a character that opens an
operand. -/
theorem hasSignBehind_eq_false_of_lexes {rule : Rule} {kind : TokenKind} {op : BinaryOp}
    (hkind : TokenKind.ofSign? sign = some kind) (hjoins : rule.Joins kind op)
    (hopens : OpensOperands ofClass) (h : Lexes source offset chars stream)
    (herror : stream.error? = none)
    (hplace : place.after? ((untilEnd stream.tokens).map Token.kind) = some place') :
    hasSignBehind ofClass sign chars = false := by
  induction h generalizing place with
  | finish => rfl
  | @blank offset c rest stream hblank _ ih =>
    have hclass : ofClass c = false := by
      refine hopens.eq_false (Option.eq_none_iff_forall_ne_some.2 fun kind' hkind' => ?_)
      rw [(TokenKind.isDigit_of_ofSign? hkind').2] at hblank
      simp at hblank
    rw [hasSignBehind, hclass, ih herror hplace, Bool.false_and, Bool.false_or]
  | @number offset first run rest stream hfirst hrun _ _ ih =>
    have hclass : ∀ c ∈ first :: run, ofClass c = false := by
      refine List.forall_mem_cons.2 ⟨?_, fun c hc => ?_⟩
      · exact hopens.eq_false (ofSign?_of_isInNumber (isInNumber_iff.2 (.inl hfirst)))
      · exact hopens.eq_false (ofSign?_of_isInNumber (hrun c hc))
    rw [← List.cons_append, hasSignBehind_append hclass]
    rw [TokenStream.tokens, untilEnd_cons rfl, List.map_cons, Place.after?_cons] at hplace
    obtain ⟨behind, -, hrest⟩ := Option.bind_eq_some_iff.1 hplace
    exact ih herror hrest
  | @sign offset c kind' rest stream hkind' hlexes ih =>
    obtain ⟨behind, hnext, hrest⟩ := after?_sign hkind' hplace
    rw [hasSignBehind, ih herror hrest, Bool.or_false]
    cases hclass : ofClass c with
    | false => rfl
    | true =>
      obtain ⟨kind'', hmem, hkind''⟩ := hopens c hclass
      obtain rfl := Option.some.inj (hkind'.symm.trans hkind'')
      rcases Place.mem_of_next? hnext with ⟨n, rfl, -⟩ | ⟨n, rfl, hcloser⟩
      · exact startsWithSign_eq_false_of_lexes hkind hjoins hlexes herror hrest
      · exact absurd hcloser (Place.not_mem_operandClosers hmem)
  | stray _ _ _ => simp [TokenStream.error?] at herror

/-- In a number no point leads, so none does behind it if none does in what follows. -/
theorem hasLeadingPoint_go_append {run rest : List Char} (hrun : ∀ c ∈ run, isInNumber c = true)
    (hrest : hasLeadingPoint.go false rest = false) :
    hasLeadingPoint.go false (run ++ rest) = false := by
  induction run with
  | nil => exact hrest
  | cons c run ih =>
    obtain ⟨hc, hrun⟩ := List.forall_mem_cons.1 hrun
    have hclass : (!(isDecimalDigit c || decide (c = '.'))) = false :=
      precedesLeadingPoint_of_isInNumber hc
    rw [List.cons_append, hasLeadingPoint.go, hclass, ih hrun, Bool.false_and, Bool.false_or]

/-- Every point of a text without stray characters stands in a number, and not at its start. -/
theorem hasLeadingPoint_go_eq_false_of_lexes (h : Lexes source offset chars stream)
    (herror : stream.error? = none) (leading : Bool) : hasLeadingPoint.go leading chars = false := by
  induction h generalizing leading with
  | finish => rfl
  | @blank offset c rest stream hblank _ ih =>
    have hne : c ≠ '.' := by
      rintro rfl
      revert hblank
      decide
    rw [hasLeadingPoint.go, ih herror, decide_eq_false hne, Bool.and_false, Bool.false_or]
  | @number offset first run rest stream hfirst hrun _ _ ih =>
    have hne : first ≠ '.' := by
      rintro rfl
      revert hfirst
      decide
    have hclass : (!(isDecimalDigit first || decide (first = '.'))) = false :=
      precedesLeadingPoint_of_isInNumber (isInNumber_iff.2 (.inl hfirst))
    rw [hasLeadingPoint.go, hclass, hasLeadingPoint_go_append hrun (ih herror false),
      decide_eq_false hne, Bool.and_false, Bool.false_or]
  | @sign offset c kind rest stream hkind _ ih =>
    have hne : c ≠ '.' := by
      rintro rfl
      simp [TokenKind.ofSign?] at hkind
    rw [hasLeadingPoint.go, ih herror, decide_eq_false hne, Bool.and_false, Bool.false_or]
  | stray _ _ _ => simp [TokenStream.error?] at herror

end Texts

/-- A text that can be read has an unbroken stream, and its tokens lead from the start to a complete
operand. -/
theorem exists_lexes_of_ofText {code : String} {tree : Expr} (h : Expr.ofText code = .ok tree) :
    ∃ stream, Lexes code 0 code.toList stream ∧ stream.error? = none ∧
      Place.start.after? ((untilEnd stream.tokens).map Token.kind) = some (.afterOperand 0) := by
  obtain ⟨tokens, htokens, hsentence⟩ := Expr.sentence_of_ofText h
  obtain ⟨stream, hlexes, herror, rfl⟩ := (tokensOf_eq_ok_iff_tokenizes.1 htokens).lexes code
  exact ⟨stream, hlexes, herror, hsentence.derives.after?_eq 0⟩

/-- None of the patterns is found in a text that can be read as an expression. -/
theorem excludedPatterns_eq_of_ofText {code : String} {tree : Expr}
    (h : Expr.ofText code = .ok tree) : excludedPatterns code = [false, false, false, false] := by
  obtain ⟨stream, hlexes, herror, hplace⟩ := exists_lexes_of_ofText h
  have hstar : OpensOperands (· = '*') := by
    intro c hc
    obtain rfl : c = '*' := by simpa using hc
    exact ⟨.star, by decide, rfl⟩
  have hslash : OpensOperands (· = '/') := by
    intro c hc
    obtain rfl : c = '/' := by simpa using hc
    exact ⟨.slash, by decide, rfl⟩
  have hsigns : OpensOperands precedesSign := by
    intro c hc
    simp only [precedesSign, Bool.or_eq_true, decide_eq_true_eq] at hc
    rcases hc with (((rfl | rfl) | rfl) | rfl) | rfl
    · exact ⟨.bracketOpen, by decide, rfl⟩
    · exact ⟨.plus, by decide, rfl⟩
    · exact ⟨.minus, by decide, rfl⟩
    · exact ⟨.star, by decide, rfl⟩
    · exact ⟨.slash, by decide, rfl⟩
  have hnoStars : hasSignBehind (· = '*') '*' code.toList = false :=
    hasSignBehind_eq_false_of_lexes rfl .mul hstar hlexes herror hplace
  have hnoSlashes : hasSignBehind (· = '/') '/' code.toList = false :=
    hasSignBehind_eq_false_of_lexes rfl .div hslash hlexes herror hplace
  have hnoPoint : hasLeadingPoint code.toList = false :=
    hasLeadingPoint_go_eq_false_of_lexes hlexes herror true
  have hnoFirst : startsWithSign '-' code.toList = false :=
    startsWithSign_eq_false_of_lexes rfl .sub hlexes herror hplace
  have hnoMinus : hasSignBehind precedesSign '-' code.toList = false :=
    hasSignBehind_eq_false_of_lexes rfl .sub hsigns hlexes herror hplace
  simp only [excludedPatterns, hasDoubledSign_eq, hasMinusSign, hasMinusSign_go_eq, hnoStars,
    hnoSlashes, hnoPoint, hnoFirst, hnoMinus, Bool.or_false]

/-- No text that can be read as an expression is left out of the comparison: none of the patterns
occurs in it, and the search for them says so. -/
theorem isExcluded_of_ofText {code : String} {tree : Expr} (h : Expr.ofText code = .ok tree) :
    (∀ pattern ∈ Pattern.excluded, ¬ pattern.OccursIn code.toList) ∧
      excludedPatterns code = [false, false, false, false] ∧ isExcluded code = false := by
  have hnone := excludedPatterns_eq_of_ofText h
  have hsearch := excludedPatterns_iff code
  rw [hnone] at hsearch
  simp only [Pattern.excluded, List.forall₂_cons, Bool.false_eq_true, false_iff] at hsearch
  obtain ⟨hstars, hslashes, hpoint, hminus, -⟩ := hsearch
  refine ⟨?_, hnone, ?_⟩
  · simp only [Pattern.excluded, List.forall_mem_cons]
    exact ⟨hstars, hslashes, hpoint, hminus, by simp⟩
  · rw [isExcluded, hnone]
    rfl

theorem isExcluded_of_ofText_minus :
    Expr.ofText "((2.5-1.)*3.0)" = .ok (.binary .mul
        (.binary .sub (.number "2.5") (.number "1.")) (.number "3.0")) ∧
      (∀ pattern ∈ Pattern.excluded, ¬ pattern.OccursIn "((2.5-1.)*3.0)".toList) ∧
      isExcluded "((2.5-1.)*3.0)" = false := by
  have hleft : IsNumberText "2.5" := ⟨⟨'2', rfl, rfl⟩, by simp, by decide⟩
  have hright : IsNumberText "1." := ⟨⟨'1', rfl, rfl⟩, by simp, by decide⟩
  have hfactor : IsNumberText "3.0" := ⟨⟨'3', rfl, rfl⟩, by simp, by decide⟩
  have hreadable : (Expr.binary .mul (.binary .sub (.number "2.5") (.number "1."))
      (.number "3.0")).IsReadable := ⟨⟨hleft, hright⟩, hfactor⟩
  have hcode : Expr.ofText "((2.5-1.)*3.0)" = .ok (.binary .mul
      (.binary .sub (.number "2.5") (.number "1.")) (.number "3.0")) :=
    hreadable.ofText_of_le (by decide)
  obtain ⟨hpatterns, -, hexcluded⟩ := isExcluded_of_ofText hcode
  exact ⟨hcode, hpatterns, hexcluded⟩

end ExprCompiler.Crosscheck
