/-!
# Runs of steps

Readers of tokens, scanners and sessions are asked for one thing after the other, and each step
starts from the state that the one before has left. `EachStep` says of such a run what holds of every
step of it; it follows from an invariant of the states (`EachStep.of_invariant`).
-/

namespace ExprCompiler

/-- `EachStep after Step state inputs dones`: the first step starts from `state`, every other one
from the state after the one before, and `Step` holds of each with what it was asked for. -/
inductive EachStep {σ ι δ : Type} (after : δ → σ) (Step : σ → ι → δ → Prop) :
    σ → List ι → List δ → Prop where
  | nil {state : σ} : EachStep after Step state [] []
  | cons {state : σ} {input : ι} {done : δ} {inputs : List ι} {dones : List δ}
      (hstep : Step state input done) (hrest : EachStep after Step (after done) inputs dones) :
      EachStep after Step state (input :: inputs) (done :: dones)

/-- If single steps do something from all states with a property, and keep the property, then each
step of a run does so. -/
theorem EachStep.of_invariant {σ ι δ : Type} {after : δ → σ} {Step : σ → ι → δ → Prop}
    {step : σ → ι → δ} {run : σ → List ι → List δ} (hnil : ∀ state, run state [] = [])
    (hcons : ∀ state input rest,
      run state (input :: rest) = step state input :: run (after (step state input)) rest)
    {Inv : σ → Prop} {inputs : List ι} {state : σ}
    (hstep : ∀ input ∈ inputs, ∀ state, Inv state →
      Step state input (step state input) ∧ Inv (after (step state input)))
    (h : Inv state) : EachStep after Step state inputs (run state inputs) := by
  induction inputs generalizing state with
  | nil =>
    rw [hnil]
    exact .nil
  | cons input rest ih =>
    obtain ⟨hfirst, hafter⟩ := hstep input List.mem_cons_self state h
    have hlater : ∀ input ∈ rest, ∀ state, Inv state →
        Step state input (step state input) ∧ Inv (after (step state input)) :=
      fun input hmem => hstep input (List.mem_cons_of_mem _ hmem)
    rw [hcons]
    exact .cons hfirst (ih hlater hafter)

end ExprCompiler
