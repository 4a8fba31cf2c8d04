import ExprCompiler.Expr.Artifact
import ExprCompiler.Proofs.Expr.Acceptance
import ExprCompiler.Proofs.Token.Tokenization

/-!
# Expressions that a text can stand for

The literals of an expression that was read are numbers as the scanner cuts them out, with one point
at most (`IsReadable`), and no tree that was put together by hand has more to offer. The artifact of
such a tree always exists, and `spelled` lists its characters.
-/

namespace ExprCompiler

/-- A text that can stand as a literal. -/
structure IsNumberText (text : String) : Prop where
  /-- The first character is a digit. -/
  starts : ∃ first, text.toList.head? = some first ∧ first.isDigit = true
  /-- All others are digits or points. -/
  characters : ∀ c ∈ text.toList, c.isDigit = true ∨ c = '.'
  /-- There is one point at most. -/
  points : text.toList.count '.' ≤ 1

/-- A text without a point gets one, with a zero after it. -/
def pointedText (text : String) : String :=
  if '.' ∈ text.toList then text else text ++ ".0"

namespace Expr

/-- An expression whose literals can all stand in a text. -/
def IsReadable : Expr → Prop
  | number text => IsNumberText text
  | binary _ left right => left.IsReadable ∧ right.IsReadable
  | raw _ => False

/-- The expression with a point in every literal. -/
def pointed : Expr → Expr
  | number text => number (pointedText text)
  | binary op left right => binary op left.pointed right.pointed
  | raw value => raw value

/-- The characters of an expression's artifact. -/
def spelled : Expr → List Char
  | number text => (pointedText text).toList
  | binary op left right => '(' :: (left.spelled ++ op.sign :: (right.spelled ++ [')']))
  | raw _ => []

end Expr

/-! ## Literals -/

theorem point_mem_pointedText (text : String) : '.' ∈ (pointedText text).toList := by
  unfold pointedText
  split
  · assumption
  · simp

theorem pointedText_pointedText (text : String) :
    pointedText (pointedText text) = pointedText text := by
  rw [pointedText, if_pos (point_mem_pointedText text)]

theorem literalArtifact_eq (text : String) : literalArtifact text = pointedText text := by
  simp only [literalArtifact, pointedText, List.contains_iff_mem]

/-- A text that can stand as a literal can do so with a point. -/
theorem IsNumberText.pointed {text : String} (h : IsNumberText text) :
    IsNumberText (pointedText text) := by
  obtain ⟨⟨first, hhead, hfirst⟩, hcharacters, hpoints⟩ := h
  unfold pointedText
  split
  · exact ⟨⟨first, hhead, hfirst⟩, hcharacters, hpoints⟩
  · rename_i hnone
    refine ⟨⟨first, ?_, hfirst⟩, ?_, ?_⟩
    · rw [String.toList_append, List.head?_append, hhead]
      rfl
    · intro c hc
      rw [String.toList_append, List.mem_append] at hc
      rcases hc with hc | hc
      · exact hcharacters c hc
      · have hc' : c = '.' ∨ c = '0' := by simpa using hc
        rcases hc' with rfl | rfl
        · exact .inr rfl
        · exact .inl rfl
    · rw [String.toList_append, List.count_append, List.count_eq_zero.2 hnone]
      decide

/-- A text that can stand as a literal is a digit and a run of digits and points. -/
theorem IsNumberText.toList_eq_cons {text : String} (h : IsNumberText text) :
    ∃ first run, text.toList = first :: run ∧ first.isDigit = true ∧
      ∀ c ∈ run, isInNumber c = true := by
  obtain ⟨⟨first, hhead, hfirst⟩, hcharacters, -⟩ := h
  cases htext : text.toList with
  | nil => simp [htext] at hhead
  | cons c run =>
    rw [htext, List.head?_cons, Option.some.injEq] at hhead
    subst hhead
    refine ⟨c, run, rfl, hfirst, fun d hd => isInNumber_iff.2 (hcharacters d ?_)⟩
    rw [htext]
    exact List.mem_cons_of_mem c hd

/-! ## Trees -/

namespace Expr

theorem depth_pointed (tree : Expr) : tree.pointed.depth = tree.depth := by
  induction tree with
  | number _ => rfl
  | binary _ left right ihleft ihright => simp only [pointed, depth, ihleft, ihright]
  | raw _ => rfl

theorem spelled_pointed (tree : Expr) : tree.pointed.spelled = tree.spelled := by
  induction tree with
  | number text => simp only [pointed, spelled, pointedText_pointedText]
  | binary _ left right ihleft ihright => simp only [pointed, spelled, ihleft, ihright]
  | raw _ => rfl

theorem IsReadable.pointed {tree : Expr} (h : tree.IsReadable) : tree.pointed.IsReadable := by
  induction tree with
  | number text => exact IsNumberText.pointed h
  | binary _ left right ihleft ihright => exact ⟨ihleft h.1, ihright h.2⟩
  | raw _ => exact h

/-- The artifact of an operation is spelled if those of its operands are. -/
theorem artifact_binary_eq {left right : Expr} (hleft : left.artifact = .ok (.ofList left.spelled))
    (hright : right.artifact = .ok (.ofList right.spelled)) (op : BinaryOp) :
    (binary op left right).artifact = .ok (.ofList (binary op left right).spelled) := by
  have htext : "(" ++ .ofList left.spelled ++ .singleton op.sign ++ .ofList right.spelled ++ ")" =
      String.ofList (binary op left right).spelled := by
    rw [← String.toList_inj]
    simp [spelled]
  rw [artifact, hleft, hright, ← htext]
  rfl

theorem artifact_number_eq (text : String) :
    (number text).artifact = .ok (.ofList (number text).spelled) := by
  rw [artifact, spelled, literalArtifact_eq, String.ofList_toList]

theorem IsReadable.artifact_eq {tree : Expr} (h : tree.IsReadable) :
    tree.artifact = .ok (.ofList tree.spelled) := by
  induction tree with
  | number text => exact artifact_number_eq text
  | binary op left right ihleft ihright => exact artifact_binary_eq (ihleft h.1) (ihright h.2) op
  | raw _ => exact h.elim

end Expr

/-! ## Expressions that were read -/

/-- A tree whose literals come from lexemes that can stand as literals is readable. -/
theorem Derives.isReadable {rule : Rule} {tokens : List Token} {tree : Expr}
    (h : Derives rule tokens tree)
    (hnumbers : ∀ token ∈ tokens, token.kind = .number → IsNumberText token.lexeme) :
    tree.IsReadable := by
  induction h with
  | number hkind => exact hnumbers _ List.mem_cons_self hkind
  | brackets _ _ _ ih => exact ih fun token hmem => hnumbers token (by simp [hmem])
  | single _ _ ih => exact ih hnumbers
  | chain _ _ _ _ ihleft ihright =>
    exact ⟨ihleft fun token hmem => hnumbers token (by simp [hmem]),
      ihright fun token hmem => hnumbers token (by simp [hmem])⟩

/-- The lexemes of the numbers of a readable tree can stand as literals. -/
theorem Derives.forall_isNumberText {rule : Rule} {tokens : List Token} {tree : Expr}
    (h : Derives rule tokens tree) (hreadable : tree.IsReadable) :
    ∀ token ∈ tokens, token.kind = .number → IsNumberText token.lexeme := by
  induction h with
  | number _ => exact List.forall_mem_singleton.2 fun _ => hreadable
  | brackets hopening _ hclosing ih =>
    refine List.forall_mem_cons.2 ⟨by simp [hopening], ?_⟩
    exact List.forall_mem_append.2 ⟨ih hreadable, by simp [hclosing]⟩
  | single _ _ ih => exact ih hreadable
  | chain _ _ hsign _ ihleft ihright =>
    refine List.forall_mem_append.2 ⟨ihleft hreadable.1, List.forall_mem_cons.2 ⟨?_, ?_⟩⟩
    · exact fun hkind => absurd hkind hsign.kind_ne.1
    · exact ihright hreadable.2

/-- The lexeme of a number is a digit and a run of digits and points. -/
theorem IsLexeme.isNumberText {offset : Nat} {chars : List Char} {token : Token}
    (h : IsLexeme offset chars token) (hkind : token.kind = .number)
    (hpoints : token.lexeme.toList.count '.' ≤ 1) : IsNumberText token.lexeme := by
  cases h with
  | @number before run after first hchars hfirst hrun hafter =>
    refine ⟨⟨first, ?_, hfirst⟩, ?_, hpoints⟩
    · rw [String.toList_ofList, List.head?_cons]
    · intro c hc
      rw [String.toList_ofList, List.mem_cons] at hc
      rcases hc with rfl | hc
      · exact .inl hfirst
      · exact hrun c hc
  | sign _ hsign => exact absurd hkind (TokenKind.ne_of_ofSign? (mem_signs_iff.1 hsign)).1

/-- A text that describes a tree has tokens that are a sentence with this tree. -/
theorem Expr.sentence_of_ofText {code : String} {tree : Expr} (h : ofText code = .ok tree) :
    ∃ tokens, tokensOf code = .ok tokens ∧ Sentence .expr 0 (untilEnd tokens) tree := by
  unfold ofText at h
  split at h
  · simp at h
  · rename_i tokens htokens
    exact ⟨tokens, htokens, sentence_of_ofTokens h⟩

/-- The expression that a text describes is readable, and its operations nest to the limit at
most. -/
theorem Expr.isReadable_of_ofText {code : String} {tree : Expr} (h : ofText code = .ok tree) :
    tree.IsReadable ∧ tree.depth ≤ maxOperationDepth := by
  obtain ⟨tokens, htokens, hsentence⟩ := sentence_of_ofText h
  have htokenizes := tokensOf_eq_ok_iff_tokenizes.1 htokens
  refine ⟨hsentence.derives.isReadable ?_, hsentence.operations⟩
  intro token hmem hkind
  have hmem' : token ∈ tokens := (List.takeWhile_prefix _).mem hmem
  have hlexeme := htokenizes.lexemes token hmem' (by simp [hkind])
  exact hlexeme.isNumberText hkind (hsentence.numbers token hmem hkind)

end ExprCompiler
