import ExprCompiler.Expr.Artifact
import ExprCompiler.Expr.Evaluation
import ExprCompiler.Proofs.Decimal.Zero

/-!
# Which node fails first

Evaluating a tree and emitting it are both walks that take operands from left to right and their
operation behind them (`WalksUp`). Such a walk fails exactly if some node fails on its own account, and
with the error of the first such node (`WalksUp.eq_error_iff`). A node of unknown kind fails in both
walks, so what cannot be emitted has no value (`first_failure`).
-/

namespace ExprCompiler

/-- The double is zero, with either sign. -/
def IsZero (x : Float) : Prop :=
  x = 0.0 ∨ x = -0.0

/-- `op.Yields x y z`: the operation on `x` and `y` has the result `z`. -/
inductive BinaryOp.Yields : BinaryOp → Float → Float → Float → Prop where
  /-- A sum. -/
  | add (x y : Float) : Yields .add x y (x + y)
  /-- A difference. -/
  | sub (x y : Float) : Yields .sub x y (x - y)
  /-- A product. -/
  | mul (x y : Float) : Yields .mul x y (x * y)
  /-- A quotient, by anything but zero. -/
  | div (x : Float) {y : Float} (hy : ¬ IsZero y) : Yields .div x y (x / y)

namespace BinaryOp

variable {op : BinaryOp} {x y z : Float}

theorem yields_iff :
    op.Yields x y z ↔ op.onFloats? x y = some z := by
  constructor
  · intro h
    cases h with
    | add x y => rfl
    | sub x y => rfl
    | mul x y => rfl
    | div x hy => rw [onFloats?, if_neg (fun h => hy (beq_zero_iff.1 h))]
  · intro h
    cases op with
    | add =>
      obtain rfl := Option.some.inj h
      exact .add x y
    | sub =>
      obtain rfl := Option.some.inj h
      exact .sub x y
    | mul =>
      obtain rfl := Option.some.inj h
      exact .mul x y
    | div =>
      rw [onFloats?] at h
      split at h
      · simp at h
      · rename_i hy
        obtain rfl := Option.some.inj h
        exact .div x fun hzero => hy (beq_zero_iff.2 hzero)

theorem onFloats?_eq_none_iff :
    op.onFloats? x y = none ↔ op = .div ∧ IsZero y := by
  cases op with
  | div =>
    rw [onFloats?, IsZero, ← beq_zero_iff]
    cases y == 0.0 <;> simp
  | _ => simp [onFloats?]

end BinaryOp

namespace Expr

/-- `tree.HasValue x`: the literals of the tree are numbers, and the tree describes `x`. -/
inductive HasValue : Expr → Float → Prop where
  /-- A literal has the value that its text is read as. -/
  | number {text : String} {x : Float} (h : readFloat? text = some x) : HasValue (.number text) x
  /-- An operation has the value that it yields on the values of its operands. -/
  | binary {op : BinaryOp} {left right : Expr} {x y z : Float} (hleft : HasValue left x)
      (hright : HasValue right y) (hop : op.Yields x y z) : HasValue (.binary op left right) z

/-- `node.FailsOnValues error`: the node fails once its operands have values. -/
inductive FailsOnValues : Expr → EvalError → Prop where
  /-- A literal fails that cannot be read as a double. -/
  | number {text : String} (h : readFloat? text = none) :
      FailsOnValues (.number text) (.unreadableNumber text)
  /-- A value in the place of an expression fails. -/
  | raw (value : RawValue) : FailsOnValues (.raw value) (.unexpectedNode value)
  /-- A division by zero fails. -/
  | div {left right : Expr} {x y : Float} (hleft : HasValue left x) (hright : HasValue right y)
      (hzero : IsZero y) : FailsOnValues (.binary .div left right) .divisionByZero

/-- `node.IsUnemittable error`: nothing can be emitted for the node. -/
inductive IsUnemittable : Expr → ArtifactError → Prop where
  /-- A value stands in the place of an expression. -/
  | raw (value : RawValue) : IsUnemittable (.raw value) (.unexpectedNode value)

/-- The nodes of a tree, each with all that is below it: operands from left to right, and their
operation behind them. -/
def postorder : Expr → List Expr
  | number text => [number text]
  | binary op left right => left.postorder ++ right.postorder ++ [binary op left right]
  | raw value => [raw value]

/-- The values that stand in the place of expressions, from left to right. -/
def rawValues : Expr → List RawValue
  | number _ => []
  | binary _ left right => left.rawValues ++ right.rawValues
  | raw value => [value]

/-- The value that stands in the place of an expression. -/
def rawValue? : Expr → Option RawValue
  | raw value => some value
  | _ => none

/-- `FirstFails Fails nodes error`: one of the nodes fails, and the first to do so has this error. -/
inductive FirstFails {ε : Type} (Fails : Expr → ε → Prop) : List Expr → ε → Prop where
  /-- The first node fails. -/
  | here {node : Expr} {rest : List Expr} {error : ε} (h : Fails node error) :
      FirstFails Fails (node :: rest) error
  /-- The first node does not fail, and a later one does. -/
  | later {node : Expr} {rest : List Expr} {error : ε} (hpasses : ∀ other, ¬ Fails node other)
      (h : FirstFails Fails rest error) : FirstFails Fails (node :: rest) error

/-- A walk over trees that takes the operands of an operation from left to right, then the operation,
and stops at the first node that fails. -/
structure WalksUp {ε α : Type} (walk : Expr → Except ε α) (Fails : Expr → ε → Prop) : Prop where
  number (text : String) (error : ε) :
    walk (.number text) = .error error ↔ Fails (.number text) error
  raw (value : RawValue) (error : ε) : walk (.raw value) = .error error ↔ Fails (.raw value) error
  binary (op : BinaryOp) (left right : Expr) (error : ε) :
    walk (.binary op left right) = .error error ↔
      walk left = .error error ∨ (∃ x, walk left = .ok x) ∧
        (walk right = .error error ∨
          (∃ y, walk right = .ok y) ∧ Fails (.binary op left right) error)

/-! ## The first of some nodes -/

section FirstFails

variable {ε : Type} {Fails : Expr → ε → Prop} {node : Expr} {nodes others : List Expr} {error : ε}

theorem firstFails_singleton : FirstFails Fails [node] error ↔ Fails node error := by
  constructor
  · intro h
    cases h with
    | here h => exact h
    | later _ h => cases h
  · exact .here

theorem firstFails_cons_of_passes (hpasses : ∀ other, ¬ Fails node other) :
    FirstFails Fails (node :: nodes) error ↔ FirstFails Fails nodes error := by
  constructor
  · intro h
    cases h with
    | here h => exact absurd h (hpasses error)
    | later _ h => exact h
  · exact .later hpasses

theorem exists_firstFails_iff :
    (∃ error, FirstFails Fails nodes error) ↔ ∃ node ∈ nodes, ∃ error, Fails node error := by
  constructor
  · rintro ⟨error, h⟩
    induction h with
    | here h => exact ⟨_, List.mem_cons_self, _, h⟩
    | later _ _ ih =>
      obtain ⟨node, hmem, hfails⟩ := ih
      exact ⟨node, List.mem_cons_of_mem _ hmem, hfails⟩
  · rintro ⟨node, hmem, hfails⟩
    induction nodes with
    | nil => simp at hmem
    | cons first rest ih =>
      by_cases hfirst : ∃ error, Fails first error
      · obtain ⟨error, h⟩ := hfirst
        exact ⟨error, .here h⟩
      · have hrest : node ∈ rest := by
          rcases List.mem_cons.1 hmem with rfl | hrest
          · exact absurd hfails hfirst
          · exact hrest
        obtain ⟨error, h⟩ := ih hrest
        exact ⟨error, .later (fun other hother => hfirst ⟨other, hother⟩) h⟩

/-- Of two lists, the second is looked at if no node of the first fails. -/
theorem firstFails_append :
    FirstFails Fails (nodes ++ others) error ↔
      FirstFails Fails nodes error ∨
        (¬ ∃ other, FirstFails Fails nodes other) ∧ FirstFails Fails others error := by
  induction nodes with
  | nil =>
    have hnone : ∀ other, ¬ FirstFails Fails [] other := fun _ h => by cases h
    simp [hnone]
  | cons first rest ih =>
    rw [List.cons_append]
    constructor
    · intro h
      cases h with
      | here h => exact .inl (.here h)
      | later hpasses h =>
        rcases ih.1 h with hrest | ⟨hnone, hothers⟩
        · exact .inl (.later hpasses hrest)
        · refine .inr ⟨?_, hothers⟩
          rintro ⟨other, hother⟩
          cases hother with
          | here hfails => exact hpasses other hfails
          | later _ hrest => exact hnone ⟨other, hrest⟩
    · rintro (h | ⟨hnone, hothers⟩)
      · cases h with
        | here h => exact .here h
        | later hpasses hrest => exact .later hpasses (ih.2 (.inl hrest))
      · have hpasses : ∀ other, ¬ Fails first other := fun other h => hnone ⟨other, .here h⟩
        have hrest : ¬ ∃ other, FirstFails Fails rest other := by
          rintro ⟨other, h⟩
          exact hnone ⟨other, .later hpasses h⟩
        exact .later hpasses (ih.2 (.inr ⟨hrest, hothers⟩))

end FirstFails

/-! ## Walks -/

section WalksUp

variable {ε α : Type} {walk : Expr → Except ε α} {Fails : Expr → ε → Prop}

theorem exists_ok_iff {result : Except ε α} :
    (∃ x, result = .ok x) ↔ ¬ ∃ error, result = .error error := by
  cases result <;> simp

/-- A walk fails with the error of the first node that fails. -/
theorem WalksUp.eq_error_iff (h : WalksUp walk Fails) (tree : Expr) (error : ε) :
    walk tree = .error error ↔ FirstFails Fails tree.postorder error := by
  induction tree generalizing error with
  | number text => rw [h.number, postorder, firstFails_singleton]
  | raw value => rw [h.raw, postorder, firstFails_singleton]
  | binary op left right ihleft ihright =>
    -- What stands behind an operand is looked at only if the operand has a result, so if no node of
    -- the operand fails.
    rw [h.binary, postorder, List.append_assoc, firstFails_append, firstFails_append,
      firstFails_singleton, exists_ok_iff, exists_ok_iff]
    simp only [ihleft, ihright]

theorem WalksUp.exists_error_iff (h : WalksUp walk Fails) (tree : Expr) :
    (∃ error, walk tree = .error error) ↔ ∃ node ∈ tree.postorder, ∃ error, Fails node error := by
  rw [← exists_firstFails_iff]
  simp only [h.eq_error_iff]

end WalksUp

/-! ## Evaluating -/

section Evaluate

variable {tree left right : Expr} {x y z : Float}

theorem evaluate_binary (hleft : left.evaluate = .ok x) (hright : right.evaluate = .ok y)
    (op : BinaryOp) :
    (binary op left right).evaluate =
      match op.onFloats? x y with
      | some z => .ok z
      | none => .error .divisionByZero := by
  rw [evaluate, hleft, hright]
  rfl

theorem evaluate_binary_eq_ok_iff {op : BinaryOp} :
    (binary op left right).evaluate = .ok z ↔
      ∃ x y, left.evaluate = .ok x ∧ right.evaluate = .ok y ∧ op.onFloats? x y = some z := by
  constructor
  · intro h
    cases hleft : left.evaluate with
    | error error => simp [evaluate, hleft, bind, Except.bind] at h
    | ok x =>
      cases hright : right.evaluate with
      | error error => simp [evaluate, hleft, hright, bind, Except.bind] at h
      | ok y =>
        rw [evaluate_binary hleft hright] at h
        cases hop : op.onFloats? x y with
        | none => simp [hop] at h
        | some z' =>
          simp only [hop, Except.ok.injEq] at h
          exact ⟨x, y, rfl, rfl, hop.trans (congrArg some h)⟩
  · rintro ⟨x, y, hleft, hright, hop⟩
    rw [evaluate_binary hleft hright, hop]

/-- Evaluating finds the value that a tree has. -/
theorem evaluate_eq_ok_iff : tree.evaluate = .ok z ↔ tree.HasValue z := by
  constructor
  · intro h
    induction tree generalizing z with
    | number text =>
      rw [evaluate] at h
      split at h
      · rename_i x hread
        obtain rfl := Except.ok.inj h
        exact .number hread
      · simp at h
    | raw value => simp [evaluate] at h
    | binary op left right ihleft ihright =>
      obtain ⟨x, y, hleft, hright, hop⟩ := evaluate_binary_eq_ok_iff.1 h
      exact .binary (ihleft hleft) (ihright hright) (BinaryOp.yields_iff.2 hop)
  · intro h
    induction h with
    | number hread => simp only [evaluate, hread]
    | binary _ _ hop ihleft ihright =>
      exact evaluate_binary_eq_ok_iff.2 ⟨_, _, ihleft, ihright, BinaryOp.yields_iff.1 hop⟩

/-- Where both operands have values, an operation fails if it divides by zero. -/
theorem evaluate_binary_eq_error_iff (hleft : left.evaluate = .ok x) (hright : right.evaluate = .ok y)
    {op : BinaryOp} {error : EvalError} :
    (binary op left right).evaluate = .error error ↔
      (binary op left right).FailsOnValues error := by
  rw [evaluate_binary hleft hright]
  constructor
  · intro h
    cases hop : op.onFloats? x y with
    | some z => simp [hop] at h
    | none =>
      obtain ⟨rfl, hzero⟩ := BinaryOp.onFloats?_eq_none_iff.1 hop
      simp only [hop, Except.error.injEq] at h
      subst h
      exact .div (evaluate_eq_ok_iff.1 hleft) (evaluate_eq_ok_iff.1 hright) hzero
  · intro h
    cases h with
    | div _ hright' hzero =>
      obtain rfl := Except.ok.inj (hright.symm.trans (evaluate_eq_ok_iff.2 hright'))
      rw [BinaryOp.onFloats?_eq_none_iff.2 ⟨rfl, hzero⟩]

theorem walksUp_evaluate : WalksUp evaluate FailsOnValues where
  number text error := by
    rw [evaluate]
    cases hread : readFloat? text with
    | some x =>
      refine ⟨fun h => by simp at h, fun h => ?_⟩
      cases h with
      | number hnone => simp [hread] at hnone
    | none =>
      constructor
      · intro h
        obtain rfl := Except.error.inj h
        exact .number hread
      · intro h
        cases h with
        | number _ => rfl
  raw value error := by
    rw [evaluate]
    constructor
    · intro h
      obtain rfl := Except.error.inj h
      exact .raw value
    · intro h
      cases h with
      | raw _ => rfl
  binary op left right error := by
    cases hleft : left.evaluate with
    | error error' => simp [evaluate, hleft, bind, Except.bind]
    | ok x =>
      cases hright : right.evaluate with
      | error error' => simp [evaluate, hleft, hright, bind, Except.bind]
      | ok y =>
        rw [evaluate_binary_eq_error_iff hleft hright]
        simp

end Evaluate

/-! ## Emitting -/

theorem walksUp_artifact : WalksUp artifact IsUnemittable where
  number text error := by
    refine ⟨fun h => by simp [artifact] at h, fun h => ?_⟩
    cases h
  raw value error := by
    rw [artifact]
    constructor
    · intro h
      obtain rfl := Except.error.inj h
      exact .raw value
    · intro h
      cases h with
      | raw _ => rfl
  binary op left right error := by
    have hnever : ¬ (binary op left right).IsUnemittable error := fun h => by cases h
    cases hleft : left.artifact with
    | error error' => simp [artifact, hleft, bind, Except.bind]
    | ok text =>
      cases hright : right.artifact with
      | error error' => simp [artifact, hleft, hright, bind, Except.bind]
      | ok text' => simp [artifact, hleft, hright, bind, Except.bind, pure, Except.pure, hnever]

/-- Among the nodes of a tree, its values stand from left to right. -/
theorem filterMap_postorder (tree : Expr) : tree.postorder.filterMap rawValue? = tree.rawValues := by
  induction tree with
  | number _ => rfl
  | raw _ => rfl
  | binary op left right ihleft ihright =>
    rw [postorder, rawValues, List.filterMap_append, List.filterMap_append, ihleft, ihright]
    exact List.append_nil _

/-- The first node that cannot be emitted is the first value. -/
theorem firstFails_isUnemittable_iff {nodes : List Expr} {error : ArtifactError} :
    FirstFails IsUnemittable nodes error ↔
      ∃ value, (nodes.filterMap rawValue?).head? = some value ∧ error = .unexpectedNode value := by
  induction nodes with
  | nil =>
    constructor
    · intro h
      cases h
    · rintro ⟨value, hhead, -⟩
      simp at hhead
  | cons node rest ih =>
    cases node with
    | raw value =>
      constructor
      · intro h
        cases h with
        | here h =>
          cases h with
          | raw _ => exact ⟨value, rfl, rfl⟩
        | later hpasses _ => exact absurd (.raw value) (hpasses _)
      · rintro ⟨value', hhead, rfl⟩
        obtain rfl : value = value' := Option.some.inj hhead
        exact .here (.raw value)
    | number text =>
      rw [firstFails_cons_of_passes (fun _ h => by cases h), ih]
      rfl
    | binary op left right =>
      rw [firstFails_cons_of_passes (fun _ h => by cases h), ih]
      rfl

/-- A tree cannot be emitted if it holds a value in the place of an expression, and the error is about
the leftmost one. -/
theorem artifact_eq_error_iff {tree : Expr} {error : ArtifactError} :
    tree.artifact = .error error ↔
      ∃ value, tree.rawValues.head? = some value ∧ error = .unexpectedNode value := by
  rw [walksUp_artifact.eq_error_iff, firstFails_isUnemittable_iff, filterMap_postorder]

theorem exists_artifact_eq_error_iff {tree : Expr} :
    (∃ error, tree.artifact = .error error) ↔ tree.rawValues ≠ [] := by
  simp only [artifact_eq_error_iff]
  cases tree.rawValues <;> simp

theorem raw_mem_postorder {tree : Expr} {value : RawValue} (h : value ∈ tree.rawValues) :
    raw value ∈ tree.postorder := by
  rw [← filterMap_postorder, List.mem_filterMap] at h
  obtain ⟨node, hmem, hnode⟩ := h
  cases node with
  | raw value' =>
    obtain rfl := Option.some.inj hnode
    exact hmem
  | number _ => simp [rawValue?] at hnode
  | binary _ _ _ => simp [rawValue?] at hnode

/-- Evaluating a tree fails exactly if some node fails once its operands have values: a literal that is
no number, a value in the place of an expression, or a division by a zero of either sign. The error
is that of the first such node, where operands come from left to right before their operation; a tree
without such nodes has the value that is found. Emitting fails exactly if a value stands in the place
of an expression, and the error is about the leftmost one; then evaluating fails too. -/
theorem first_failure (tree : Expr) :
    ((∃ error, tree.evaluate = .error error) ↔
        ∃ node ∈ tree.postorder, ∃ error, node.FailsOnValues error) ∧
      (∀ error, tree.evaluate = .error error ↔
        FirstFails FailsOnValues tree.postorder error) ∧
      (∀ x, tree.evaluate = .ok x ↔ tree.HasValue x) ∧
      ((∃ error, tree.artifact = .error error) ↔ tree.rawValues ≠ []) ∧
      (∀ error, tree.artifact = .error error ↔
        ∃ value, tree.rawValues.head? = some value ∧ error = .unexpectedNode value) ∧
      ((∃ error, tree.artifact = .error error) → ∃ error, tree.evaluate = .error error) := by
  refine ⟨walksUp_evaluate.exists_error_iff tree, walksUp_evaluate.eq_error_iff tree,
    fun _ => evaluate_eq_ok_iff, exists_artifact_eq_error_iff, fun _ => artifact_eq_error_iff, ?_⟩
  rintro ⟨error, herror⟩
  obtain ⟨value, hhead, -⟩ := artifact_eq_error_iff.1 herror
  have hmem := raw_mem_postorder (List.mem_of_head? hhead)
  exact (walksUp_evaluate.exists_error_iff tree).2 ⟨_, hmem, _, .raw value⟩

/-- A division by a zero comes before the value that stands in the place of the second operand, but
only the value keeps the tree from being emitted. -/
theorem first_failure_sum :
    let tree := binary .add (binary .div (number "1") (number "-0.0")) (raw (.int 2))
    tree.artifact = .error (.unexpectedNode (.int 2)) ∧ (∃ error, tree.evaluate = .error error) ∧
      FirstFails FailsOnValues tree.postorder .divisionByZero := by
  intro tree
  have hartifact : tree.artifact = .error (.unexpectedNode (.int 2)) := rfl
  have hevaluate : tree.evaluate = .error .divisionByZero := by decide +kernel
  obtain ⟨-, hfirst, -, -, -, hfails⟩ := first_failure tree
  exact ⟨hartifact, hfails ⟨_, hartifact⟩, (hfirst _).1 hevaluate⟩

end Expr

end ExprCompiler
