import Mathlib.Data.List.Induction

/-! # Runs of partial deterministic machines

A machine is a step function `σ → ι → Option σ`; a step without a result ends
the run. The invariant rules reduce a property of every state that a run visits to
one step: `run_invariant` keeps an invariant along a run, `throughout_of_eachStep`
along the runs whose steps are all allowed, and `throughout_iff_eachStep` decides
exactly which runs keep it.
-/

namespace YedMQ.Semantics

variable {σ : Type u} {ι : Type v}

/-- Feed a list of inputs to a machine, stopping at the first failing step. -/
def run (step : σ → ι → Option σ) (state : σ) : List ι → Option σ
  | [] => some state
  | input :: inputs => (step state input).bind fun next => run step next inputs

variable {step : σ → ι → Option σ}
variable (state : σ)

@[simp] theorem run_nil : run step state [] = some state := rfl

theorem run_cons (input : ι) (inputs : List ι) :
    run step state (input :: inputs) =
      (step state input).bind fun next => run step next inputs := rfl

theorem run_append (first second : List ι) :
    run step state (first ++ second) =
      (run step state first).bind fun middle => run step middle second := by
  induction first generalizing state with
  | nil => rfl
  | cons input inputs induction =>
    simp only [run_cons, Option.bind_assoc]
    exact congrArg _ (funext induction)

theorem run_concat (inputs : List ι) (input : ι) :
    run step state (inputs ++ [input]) =
      (run step state inputs).bind fun middle => step middle input := by
  rw [run_append]
  simp [run_cons]

variable {Invariant : σ → Prop} {state : σ} {inputs : List ι}

theorem run_invariant (preserves : ∀ state input next, Invariant state →
      step state input = some next → Invariant next) {final : σ} (initial : Invariant state)
    (runs : run step state inputs = some final) : Invariant final := by
  induction inputs generalizing state with
  | nil =>
    cases runs
    exact initial
  | cons input inputs induction =>
    rcases Option.bind_eq_some_iff.mp runs with ⟨next, stepped, rest⟩
    exact induction (preserves state input next initial stepped) rest

/-- `Throughout step Invariant state inputs`: every state that the run visits
satisfies the invariant, the initial one included. -/
def Throughout (step : σ → ι → Option σ) (Invariant : σ → Prop) (state : σ)
    (inputs : List ι) : Prop :=
  ∀ visited, visited <+: inputs →
    ∀ reached, run step state visited = some reached → Invariant reached

/-- `EachStep step Allowed state inputs`: every input of the run that leads to a
next state is allowed in the state where it is consumed. -/
def EachStep (step : σ → ι → Option σ) (Allowed : σ → ι → Prop) (state : σ)
    (inputs : List ι) : Prop :=
  ∀ visited input, visited ++ [input] <+: inputs →
    ∀ reached next, run step state visited = some reached →
      step reached input = some next → Allowed reached input

theorem exists_consumed {final : σ} (runs : run step state inputs = some final) {input : ι}
    (member : input ∈ inputs) :
    ∃ visited reached next, visited ++ [input] <+: inputs ∧
      run step state visited = some reached ∧ step reached input = some next := by
  rcases List.append_of_mem member with ⟨visited, rest, split⟩
  subst split
  rw [run_append] at runs
  rcases Option.bind_eq_some_iff.mp runs with ⟨reached, earlier, later⟩
  rcases Option.bind_eq_some_iff.mp later with ⟨next, stepped, _⟩
  refine ⟨visited, reached, next, ?_, earlier, stepped⟩
  exact ⟨rest, (List.append_cons visited input rest).symm⟩

variable {Allowed : σ → ι → Prop}

theorem eachStep_nil (state : σ) : EachStep step Allowed state [] := by
  intro visited input isPrefix
  have empty := List.prefix_nil.mp isPrefix
  simp at empty

theorem EachStep.cons {input : ι} (first : Allowed state input)
    (rest : ∀ next, step state input = some next → EachStep step Allowed next inputs) :
    EachStep step Allowed state (input :: inputs) := by
  intro visited last isPrefix reached next runs stepped
  cases visited with
  | nil =>
    cases runs
    rw [List.nil_append, List.cons_prefix_cons] at isPrefix
    rw [isPrefix.1]
    exact first
  | cons head visited =>
    rw [List.cons_append, List.cons_prefix_cons] at isPrefix
    rcases isPrefix with ⟨same, tail⟩
    subst same
    rcases Option.bind_eq_some_iff.mp runs with ⟨middle, headStep, later⟩
    exact rest middle headStep visited last tail reached next later stepped

variable {first second : List ι}

theorem EachStep.before (each : EachStep step Allowed state (first ++ second)) :
    EachStep step Allowed state first := by
  intro visited input isPrefix
  exact each visited input (isPrefix.trans (List.prefix_append first second))

theorem EachStep.after {middle : σ} (each : EachStep step Allowed state (first ++ second))
    (runs : run step state first = some middle) : EachStep step Allowed middle second := by
  intro visited input isPrefix reached next later stepped
  apply each (first ++ visited) input _ reached next _ stepped
  · rw [List.append_assoc]
    exact (List.prefix_append_right_inj first).mpr isPrefix
  · rw [run_append, runs, Option.bind_some, later]

def allowedSteps (step : σ → ι → Option σ) (Allowed : σ → ι → Prop)
    [∀ state input, Decidable (Allowed state input)] : σ → List ι → Bool
  | _, [] => true
  | state, input :: inputs =>
    match step state input with
    | some next => decide (Allowed state input) && allowedSteps step Allowed next inputs
    | none => true

theorem eachStep_of_allowedSteps [∀ state input, Decidable (Allowed state input)]
    (allowed : allowedSteps step Allowed state inputs = true) :
    EachStep step Allowed state inputs := by
  induction inputs generalizing state with
  | nil => exact eachStep_nil state
  | cons input inputs induction =>
    rw [allowedSteps] at allowed
    cases stepped : step state input with
    | none =>
      -- No step, so nothing of the rest is consumed either.
      intro visited last isPrefix reached next runs lastStep
      cases visited with
      | nil =>
        cases runs
        rw [List.nil_append, List.cons_prefix_cons] at isPrefix
        rw [isPrefix.1, stepped] at lastStep
        cases lastStep
      | cons =>
        rw [List.cons_append, List.cons_prefix_cons] at isPrefix
        rw [isPrefix.1, run_cons, stepped] at runs
        cases runs
    | some =>
      simp only [stepped, Bool.and_eq_true, decide_eq_true_eq] at allowed
      apply EachStep.cons allowed.1
      intro next reached
      rw [stepped] at reached
      cases reached
      exact induction allowed.2

theorem throughout_of_eachStep
    (preserves : ∀ state input next, Invariant state → Allowed state input →
      step state input = some next → Invariant next) (initial : Invariant state)
    (allowed : EachStep step Allowed state inputs) :
    Throughout step Invariant state inputs := by
  intro visited
  -- Induction from the end of the visited inputs: the last step is the one
  -- whose target is in question.
  induction visited using List.reverseRecOn with
  | nil =>
    intro _ reached runs
    cases runs
    exact initial
  | append_singleton visited input induction =>
    intro isPrefix reached runs
    rw [run_concat] at runs
    rcases Option.bind_eq_some_iff.mp runs with ⟨middle, earlier, stepped⟩
    apply preserves middle input reached _ _ stepped
    · exact induction ((List.prefix_append _ _).trans isPrefix) middle earlier
    · exact allowed visited input isPrefix middle reached earlier stepped

theorem Throughout.mono {Property : σ → Prop} (throughout : Throughout step Invariant state inputs)
    (implies : ∀ reached, Invariant reached → Property reached) :
    Throughout step Property state inputs := by
  intro visited isPrefix reached runs
  exact implies reached (throughout visited isPrefix reached runs)

/-- If one step from a good state leads to a good state exactly when it is
allowed, the good runs are those whose steps are all allowed. -/
theorem throughout_iff_eachStep
    (exact : ∀ state input next, Invariant state → step state input = some next →
      (Invariant next ↔ Allowed state input)) (initial : Invariant state) (inputs : List ι) :
    Throughout step Invariant state inputs ↔ EachStep step Allowed state inputs := by
  constructor
  · intro throughout visited input isPrefix reached next runs stepped
    have before : Invariant reached :=
      throughout visited ((List.prefix_append _ _).trans isPrefix) reached runs
    have after : Invariant next := by
      apply throughout (visited ++ [input]) isPrefix
      rw [run_concat, runs, Option.bind_some, stepped]
    exact (exact reached input next before stepped).mp after
  · apply throughout_of_eachStep _ initial
    intro state input next before allowed stepped
    exact (exact state input next before stepped).mpr allowed

end YedMQ.Semantics
