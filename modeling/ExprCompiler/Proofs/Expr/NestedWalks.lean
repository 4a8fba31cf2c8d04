import ExprCompiler.Proofs.Expr.FirstFailure
import ExprCompiler.Proofs.Expr.NestedCalls
import ExprCompiler.Proofs.Expr.Rendering
import ExprCompiler.Proofs.Script.NumberText

/-!
# How deep walks over a tree nest

A walk calls itself on both operands of an operation, so one call is in progress for each level of the
tree (`Walk.runWithin_of_depth_lt`), and no fewer are enough for a walk that does not fail
(`Walk.runWithin_eq_none`). Emitting and evaluating are such walks. With the limits on brackets and
operations that reading keeps, no part of a compilation nests its calls without bound
(`nested_calls_of_parse`).
-/

namespace ExprCompiler

/-- What a walk over trees does at each kind of node, for an operation with what its operands came
to. -/
structure Walk (ε α : Type) where
  /-- At a literal. -/
  number (text : String) : Except ε α
  /-- At an operation. -/
  binary (op : BinaryOp) (left right : α) : Except ε α
  /-- At a value that is no expression. -/
  raw (value : RawValue) : Except ε α

namespace Walk

variable {ε α : Type}

/-- Walks over a tree, through operands from left to right. -/
def run (walk : Walk ε α) : Expr → Except ε α
  | .number text => walk.number text
  | .binary op left right => do
    let x ← walk.run left
    let y ← walk.run right
    walk.binary op x y
  | .raw value => walk.raw value

/-- Walks over a tree with `room` calls in progress at once at most, and gives up where one more is
needed. -/
def runWithin (walk : Walk ε α) : Nat → Expr → ExceptT ε Option α
  | 0, _ => ExceptT.mk none
  | _ + 1, .number text => ExceptT.mk (some (walk.number text))
  | room + 1, .binary op left right => do
    let x ← walk.runWithin room left
    let y ← walk.runWithin room right
    ExceptT.mk (some (walk.binary op x y))
  | _ + 1, .raw value => ExceptT.mk (some (walk.raw value))

variable {walk : Walk ε α} {tree left right : Expr} {room : Nat} {x y : α}

theorem runWithin_binary (hleft : (walk.runWithin room left).run = some (.ok x)) (op : BinaryOp) :
    (walk.runWithin (room + 1) (.binary op left right)).run =
      (do let y ← walk.runWithin room right; ExceptT.mk (some (walk.binary op x y)) :
        ExceptT ε Option α).run := by
  rw [runWithin, ExceptT.run_bind, hleft]
  rfl

/-- One call for each level of the tree is enough. -/
theorem runWithin_of_depth_lt (h : tree.depth < room) :
    (walk.runWithin room tree).run = some (walk.run tree) := by
  induction tree generalizing room with
  | number text =>
    cases room with
    | zero => omega
    | succ room => rfl
  | raw value =>
    cases room with
    | zero => omega
    | succ room => rfl
  | binary op left right ihleft ihright =>
    cases room with
    | zero => omega
    | succ room =>
      rw [Expr.depth] at h
      have hleft : (walk.runWithin room left).run = some (walk.run left) := ihleft (by omega)
      have hright : (walk.runWithin room right).run = some (walk.run right) := ihright (by omega)
      rw [run]
      cases hx : walk.run left with
      | error error =>
        rw [hx] at hleft
        rw [runWithin, ExceptT.run_bind, hleft]
        rfl
      | ok x =>
        rw [hx] at hleft
        rw [runWithin_binary hleft, ExceptT.run_bind, hright]
        cases walk.run right <;> rfl

theorem run_binary_eq_ok {op : BinaryOp} {z : α} (h : walk.run (.binary op left right) = .ok z) :
    (∃ x, walk.run left = .ok x) ∧ ∃ y, walk.run right = .ok y := by
  rw [run] at h
  cases hx : walk.run left with
  | error error =>
    rw [hx] at h
    cases h
  | ok x =>
    cases hy : walk.run right with
    | error error =>
      rw [hx, hy] at h
      cases h
    | ok y => exact ⟨⟨x, rfl⟩, y, rfl⟩

/-- If the walk does not fail, no fewer are enough. -/
theorem runWithin_eq_none (hx : walk.run tree = .ok x) (h : room ≤ tree.depth) :
    (walk.runWithin room tree).run = none := by
  induction tree generalizing room x with
  | number text =>
    obtain rfl := Nat.le_zero.1 h
    rfl
  | raw value =>
    obtain rfl := Nat.le_zero.1 h
    rfl
  | binary op left right ihleft ihright =>
    obtain ⟨⟨a, ha⟩, b, hb⟩ := run_binary_eq_ok hx
    cases room with
    | zero => rfl
    | succ room =>
      rw [Expr.depth] at h
      -- The right operand is reached only if there are enough calls for the left one.
      by_cases hdepth : left.depth < room
      · have hleft : (walk.runWithin room left).run = some (walk.run left) :=
          runWithin_of_depth_lt hdepth
        rw [ha] at hleft
        rw [runWithin_binary hleft, ExceptT.run_bind, ihright hb (by omega)]
        rfl
      · rw [runWithin, ExceptT.run_bind, ihleft ha (by omega)]
        rfl

end Walk

/-! ## The walks of a compilation -/

/-- Emitting an expression. -/
def emission : Walk ArtifactError String where
  number text := .ok (literalArtifact text)
  binary op left right := .ok ("(" ++ left ++ .singleton op.sign ++ right ++ ")")
  raw value := .error (.unexpectedNode value)

/-- Evaluating an expression. -/
def evaluation : Walk EvalError Float where
  number text :=
    match readFloat? text with
    | some value => .ok value
    | none => .error (.unreadableNumber text)
  binary op x y :=
    match op.onFloats? x y with
    | some value => .ok value
    | none => .error .divisionByZero
  raw value := .error (.unexpectedNode value)

theorem run_emission (tree : Expr) : emission.run tree = tree.artifact := by
  induction tree with
  | number text => rfl
  | raw value => rfl
  | binary op left right ihleft ihright =>
    rw [Walk.run, Expr.artifact, ihleft, ihright]
    rfl

theorem run_evaluation (tree : Expr) : evaluation.run tree = tree.evaluate := by
  induction tree with
  | number text => rfl
  | raw value => rfl
  | binary op left right ihleft ihright =>
    rw [Walk.run, Expr.evaluate, ihleft, ihright]
    rfl

/-! ## Deep expressions -/

/-- So many additions, each the left operand of the next. -/
def additions : Nat → Expr
  | 0 => .number "1"
  | n + 1 => .binary .add (additions n) (.number "1")

theorem isNumberText_one : IsNumberText "1" :=
  ⟨⟨'1', rfl, rfl⟩, by simp, by decide⟩

theorem isReadable_additions (n : Nat) : (additions n).IsReadable := by
  induction n with
  | zero => exact isNumberText_one
  | succ n ih => exact ⟨ih, isNumberText_one⟩

theorem depth_additions (n : Nat) : (additions n).depth = n := by
  induction n with
  | zero => rfl
  | succ n ih => rw [additions, Expr.depth, ih, Expr.depth, Nat.max_zero]

/-- Additions in a row need no brackets. -/
theorem requiredNesting_additions (n : Nat) : (additions n).requiredNesting = 0 := by
  induction n with
  | zero => rfl
  | succ n ih =>
    rw [additions, Expr.requiredNesting, ih]
    cases n <;> rfl

theorem exists_evaluate_additions (n : Nat) : ∃ x, (additions n).evaluate = .ok x := by
  obtain ⟨one, hone, -⟩ := isNumberText_one.exists_float
  have hnumber : (Expr.number "1").evaluate = .ok one := by rw [Expr.evaluate, hone]
  induction n with
  | zero => exact ⟨one, hnumber⟩
  | succ n ih =>
    obtain ⟨x, hx⟩ := ih
    exact ⟨x + one, Expr.evaluate_binary hx hnumber .add⟩

open TokenReader

/-- Whatever state a reader is in, also that of a new one for any list of tokens, it needs at most 101
calls of each rule in progress at once to read an expression, and for what it has read, emitting and
evaluating need at most 181 calls. For some lists of tokens and some texts no fewer calls will do. -/
theorem nested_calls_of_parse :
    (∀ p : TokenReader, parseWithin (fun _ => 101) p = some (parse p)) ∧
    (∀ (p q : TokenReader) (tree : Expr), parse p = .ok tree q →
      (emission.runWithin 181 tree).run = some tree.artifact ∧
      (evaluation.runWithin 181 tree).run = some tree.evaluate) ∧
    (∀ room : Rule → Nat, (∃ rule, room rule < 101) →
      ∃ tokens p, start (.ofList tokens) none = .ok p ∧ parseWithin room p = none) ∧
    ∀ room < 181, ∃ code tree, Expr.ofText code = .ok tree ∧
      (emission.runWithin room tree).run = none ∧ (evaluation.runWithin room tree).run = none := by
  refine ⟨?_, ?_, ?_, ?_⟩
  · intro p
    refine parseWithin_eq_parse (readWithin_eq_read fun other => ?_)
    rw [callsIn_expr]
    exact Nat.succ_le_succ (Nat.sub_le maxBracketDepth p.bracketDepth)
  · intro p q tree h
    have hdepth : tree.depth < 181 := Nat.lt_succ_of_le (depth_le_of_parse h)
    rw [← run_emission, ← run_evaluation]
    exact ⟨Walk.runWithin_of_depth_lt hdepth, Walk.runWithin_of_depth_lt hdepth⟩
  · rintro room ⟨rule, hrule⟩
    exact exists_parseWithin_eq_none (Nat.le_of_lt_succ hrule)
  · intro room hroom
    have hreadable := isReadable_additions 180
    have hdepth : room ≤ (additions 180).depth := by
      rw [depth_additions]
      exact Nat.le_of_lt_succ hroom
    have hbrackets : (additions 180).requiredNesting ≤ maxBracketDepth := by
      rw [requiredNesting_additions]
      exact Nat.zero_le _
    have hcode := hreadable.ofText_spelledOut (Nat.le_of_eq (depth_additions 180)) hbrackets
    obtain ⟨x, hx⟩ := exists_evaluate_additions 180
    refine ⟨_, _, hcode, ?_, ?_⟩
    · exact Walk.runWithin_eq_none ((run_emission _).trans hreadable.artifact_eq) hdepth
    · exact Walk.runWithin_eq_none ((run_evaluation _).trans hx) hdepth

theorem nested_calls_of_difference :
    let difference : Expr := .binary .sub (.number "8.0") (.number "3.0")
    ∃ tokens p q, tokensOf "(8.0-3.0)" = .ok tokens ∧ start (.ofList tokens) none = .ok p ∧
      parse p = .ok difference q ∧ parseWithin (fun _ => 101) p = some (.ok difference q) ∧
      (emission.runWithin 181 difference).run = some (.ok "(8.0-3.0)") := by
  intro difference
  have hreadable : difference.IsReadable :=
    ⟨⟨⟨'8', rfl, rfl⟩, by simp, by decide⟩, ⟨⟨'3', rfl, rfl⟩, by simp, by decide⟩⟩
  have hartifact : difference.artifact = .ok "(8.0-3.0)" := hreadable.artifact_eq
  have hcode : Expr.ofText "(8.0-3.0)" = .ok difference := hreadable.ofText_of_le (by decide)
  obtain ⟨tokens, htokens, hsentence⟩ := Expr.sentence_of_ofText hcode
  obtain ⟨p, hstart, hp⟩ := start_ofList tokens none
  obtain ⟨q, hparse⟩ := hp.parse_of_sentence hsentence
  obtain ⟨hemitted, -⟩ := nested_calls_of_parse.2.1 p q difference hparse
  have hwithin := nested_calls_of_parse.1 p
  rw [hparse] at hwithin
  rw [hartifact] at hemitted
  exact ⟨tokens, p, q, htokens, hstart, hparse, hwithin, hemitted⟩

end ExprCompiler
