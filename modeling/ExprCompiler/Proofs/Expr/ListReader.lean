import ExprCompiler.Proofs.Expr.ReaderState

/-!
# Readers of lists

A reader that is fed from a list is determined by two numbers: how many tokens of the list it has
consumed, and how many brackets it is in (`readerAt`). Behind the list there are only ends. Fetching
from a list never fails, so single steps of such a reader are equations.
-/

namespace ExprCompiler.TokenReader

/-- The token at an index of a list; behind the list there is an end, where the text ends. -/
def tokenAt (tokens : List Token) (source : Option String) (index : Nat) : Token :=
  tokens[index]?.getD (.endAt (source.elim 0 fun text => text.length))

/-- The reader of a list that has consumed its first `index` tokens, inside of `depth` brackets. -/
def readerAt (tokens : List Token) (source : Option String) (index depth : Nat) : TokenReader where
  current := tokenAt tokens source index
  stream := .ofList (tokens.drop (index + 1))
  bracketDepth := depth
  source

section List

variable (tokens : List Token) (source : Option String) (index depth : Nat)

theorem fetch_ofList_drop :
    fetch source (.ofList (tokens.drop index)) =
      .ok (tokenAt tokens source index, .ofList (tokens.drop (index + 1))) := by
  rw [← List.drop_drop, tokenAt]
  have hhead : tokens[index]? = (tokens.drop index)[0]? := by
    rw [List.getElem?_drop, Nat.add_zero]
  rw [hhead]
  cases tokens.drop index <;> rfl

theorem start_ofList_eq :
    start (.ofList tokens) source = .ok (readerAt tokens source 0 0) := by
  have hfetch := fetch_ofList_drop tokens source 0
  rw [List.drop_zero] at hfetch
  rw [start, hfetch]
  rfl

theorem moveOn_readerAt :
    moveOn (readerAt tokens source index depth) =
      .ok () (readerAt tokens source (index + 1) depth) := by
  have hfetch := fetch_ofList_drop tokens source (index + 1)
  rw [moveOn, readerAt, hfetch]
  rfl

variable {tokens source index depth}

/-- Before the end of a list, a token stands in the list. -/
theorem getElem?_of_tokenAt (h : (tokenAt tokens source index).isEnd = false) :
    tokens[index]? = some (tokenAt tokens source index) := by
  rw [tokenAt] at h ⊢
  cases hindex : tokens[index]? with
  | some token => rfl
  | none =>
    rw [hindex] at h
    simp [Token.endAt, Token.isEnd] at h

/-- Consuming a token other than the end gets behind it. -/
theorem consume_readerAt {wanted : TokenKind}
    (hkind : (tokenAt tokens source index).kind = wanted) (hend : wanted ≠ .exprEnd) :
    consume wanted (readerAt tokens source index depth) =
      .ok (tokenAt tokens source index) (readerAt tokens source (index + 1) depth) := by
  have hcurrent : (readerAt tokens source index depth).current = tokenAt tokens source index := rfl
  have hisEnd : (tokenAt tokens source index).isEnd = false := by simp [Token.isEnd, hkind, hend]
  rw [consume, if_pos (hcurrent ▸ hkind), hcurrent, hisEnd]
  simp only [Bool.false_eq_true, if_false]
  exact bind_of_ok (moveOn_readerAt tokens source index depth)

theorem consume_readerAt_of_ne {wanted : TokenKind}
    (hkind : (tokenAt tokens source index).kind ≠ wanted) :
    consume wanted (readerAt tokens source index depth) =
      fail (.mismatch wanted) (tokenAt tokens source index) (readerAt tokens source index depth) :=
  if_neg hkind

end List

end ExprCompiler.TokenReader
