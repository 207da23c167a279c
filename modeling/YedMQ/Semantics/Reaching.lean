import YedMQ.Semantics.Actor

/-! # Futures that are polled alone

`Reaches` says that a future gets to another one, and the shared state with it, when it is
polled again and again and nothing else happens in between. Such a sequence of polls is a
run of the whole system, wherever the future stands and whatever else is in progress.
-/

namespace YedMQ.Semantics

open Future

variable {Op : Type} {Answer Choice : Op → Type} {σ κ ε α β : Type}

/-- A future can be polled until it is `final`. -/
inductive Reaches (behaviour : Behaviour Answer Choice σ κ ε) (id : Nat) :
    Future Answer α → σ → Future Answer α → σ → Prop where
  | refl (future : Future Answer α) (shared : σ) : Reaches behaviour id future shared future shared
  | poll {op : Op} {resume : Answer op → Future Answer α} {shared next after : σ}
      {answer : Answer op} {final : Future Answer α} (choice : Choice op)
      (performed : behaviour.perform id shared op choice = some (next, answer))
      (rest : Reaches behaviour id (resume answer) next final after) :
      Reaches behaviour id (await op resume) shared final after

namespace Reaches

variable {behaviour : Behaviour Answer Choice σ κ ε} {id : Nat} {shared next after : σ}

variable {final : Future Answer α}

theorem trans {first middle : Future Answer α}
    (reaches : Reaches behaviour id first shared middle next)
    (goesOn : Reaches behaviour id middle next final after) :
    Reaches behaviour id first shared final after := by
  induction reaches with
  | refl => exact goesOn
  | poll choice performed _ induction => exact .poll choice performed (induction goesOn)

variable {future : Future Answer α} {continuation : α → Future Answer β}

theorem bind (reaches : Reaches behaviour id future shared final next) :
    Reaches behaviour id (future >>= continuation) shared (final >>= continuation) next := by
  induction reaches with
  | refl => exact .refl _ _
  | poll choice performed _ induction => exact .poll choice performed induction

/-- Run a future to its end and go on with its result. -/
theorem andThen {value : α} {final : Future Answer β}
    (reaches : Reaches behaviour id future shared (done value) next)
    (goesOn : Reaches behaviour id (continuation value) next final after) :
    Reaches behaviour id (future >>= continuation) shared final after :=
  reaches.bind.trans goesOn

end Reaches

/-- A future can be polled until the shared state is `after`, before or at its end. -/
def Attains (behaviour : Behaviour Answer Choice σ κ ε) (id : Nat) (future : Future Answer α)
    (shared after : σ) : Prop :=
  ∃ final, Reaches behaviour id future shared final after

section Attains

variable {behaviour : Behaviour Answer Choice σ κ ε} {id : Nat} {shared next after : σ}

theorem attains_here (future : Future Answer α) (shared : σ) :
    Attains behaviour id future shared shared :=
  ⟨future, .refl future shared⟩

theorem attains_poll {op : Op} {resume : Answer op → Future Answer α} {answer : Answer op}
    (choice : Choice op)
    (performed : behaviour.perform id shared op choice = some (next, answer))
    (rest : Attains behaviour id (resume answer) next after) :
    Attains behaviour id (await op resume) shared after := by
  rcases rest with ⟨final, reaches⟩
  exact ⟨final, .poll choice performed reaches⟩

variable {future : Future Answer α} {continuation : α → Future Answer β}

theorem Attains.bind (attains : Attains behaviour id future shared after) :
    Attains behaviour id (future >>= continuation) shared after := by
  rcases attains with ⟨_, reaches⟩
  exact ⟨_, reaches.bind⟩

/-- Run a future to its end and attain the state in what follows. -/
theorem Reaches.attains {value : α} (reaches : Reaches behaviour id future shared (done value) next)
    (rest : Attains behaviour id (continuation value) next after) :
    Attains behaviour id (future >>= continuation) shared after := by
  rcases rest with ⟨final, goesOn⟩
  exact ⟨final, reaches.andThen goesOn⟩

end Attains

namespace System

variable {behaviour : Behaviour Answer Choice σ κ ε} {system : System Answer σ κ}
  {place : Place} {before after : List (Task Answer κ)} {task : Task Answer κ}

theorem Turn.taskAt (turn : Turn behaviour system place before task after) :
    system.taskAt behaviour place = some task := by
  have may : system.mayPoll behaviour place = true := by
    rcases place with ⟨mode, index⟩
    cases mode with
    | wait =>
      have first : index = 0 := by
        rw [show index = before.length from turn.index, turn.top rfl]
        rfl
      simp [mayPoll, turn.running, first]
    | spawn => simp [mayPoll, turn.running, turn.alone rfl]
    | detach => rfl
  rw [System.taskAt, if_pos may, turn.listed, turn.index]
  simp

variable {shared : σ}

section

variable (turn : Turn behaviour system place before task after)

include turn

theorem Turn.resume
    (running : behaviour.running shared = behaviour.running system.shared) (other : Task Answer κ) :
    Turn behaviour ((system.setTasks place.mode (before ++ other :: after)).setShared shared)
      place before other after where
  listed := by rw [tasks_setShared, tasks_setTasks_self]
  index := turn.index
  top := turn.top
  alone := by
    intro spawns
    rw [tasks_setShared, tasks_setTasks_of_ne system (by rw [spawns]; decide)]
    exact turn.alone spawns
  running := by
    intro attached
    exact running.trans (turn.running attached)

theorem Turn.step_poll {op : Op}
    {resume : Answer op → Future Answer κ} (suspended : task.current = .await op resume)
    {choose : (op : Op) → Choice op} {answer : Answer op}
    (performed : behaviour.perform task.id system.shared op (choose op) = some (shared, answer)) :
    ∃ resumed : Task Answer κ, resumed.id = task.id ∧ resumed.current = resume answer ∧
      system.step behaviour (.poll place choose) =
        some ((system.setTasks place.mode (before ++ resumed :: after)).setShared shared) := by
  refine ⟨task.resume suspended answer, rfl, rfl, ?_⟩
  rw [step, turn.taskAt, Option.bind_some, poll]
  split
  · rename_i ended
    rw [suspended] at ended
    cases ended
  · rename_i _ _ current
    have same := suspended.symm.trans current
    cases same
    rw [performed, Option.map_some]
    dsimp only
    rw [turn.set]

theorem Turn.step_finish {value : κ} (ended : task.current = .done value) :
    system.step behaviour (.finish place) =
      some ({ system.setTasks place.mode (before ++ after) with
        shared := (behaviour.complete task.id value system.shared).1
        finished := task :: system.finished }.startAll
          (behaviour.complete task.id value system.shared).2) := by
  rw [step, turn.taskAt, Option.bind_some, finish]
  split
  · rename_i current
    rw [ended] at current
    cases current
  · rename_i result current
    rw [ended] at current
    cases current
    rw [turn.eraseIdx]
    rfl

end

theorem Turn.exists_run (base : (op : Op) → Choice op) (stays : ∀ {id shared op choice next answer},
      behaviour.perform id shared op choice = some (next, answer) →
        behaviour.running next = behaviour.running shared)
    (turn : Turn behaviour system place before task after) {final : Future Answer κ}
    (reaches : Reaches behaviour task.id task.current system.shared final shared) :
    ∃ (inputs : List (ActorInput Choice ε)) (reached : Task Answer κ),
      (∀ input ∈ inputs, input.isOwn = true) ∧ reached.id = task.id ∧
      reached.current = final ∧
      behaviour.running shared = behaviour.running system.shared ∧
      run (step behaviour) system inputs =
        some ((system.setTasks place.mode (before ++ reached :: after)).setShared shared) := by
  classical
  generalize number : task.id = id at reaches
  generalize current : task.current = future at reaches
  generalize here : system.shared = start at reaches
  induction reaches generalizing system task with
  | refl future shared =>
    refine ⟨[], task, by simp, number, current, rfl, ?_⟩
    have same : system.setTasks place.mode (before ++ task :: after) = system := by
      rw [setTasks, ← turn.listed, Function.update_eq_self]
    rw [same, ← here]
    rfl
  | poll choice performed rest induction =>
    rename_i op resume shared next last answer final
    have chosen : Function.update base op choice op = choice := Function.update_self _ _ _
    have performs : behaviour.perform task.id system.shared op
        (Function.update base op choice op) = some (next, answer) := by
      rw [chosen, number, here]
      exact performed
    rcases turn.step_poll current performs with ⟨resumed, same, goesOn, stepped⟩
    have running : behaviour.running next = behaviour.running system.shared := by
      rw [here]
      exact stays performed
    rcases induction (turn.resume running resumed) (same.trans number) goesOn rfl with
      ⟨inputs, reached, own, stays, final, live, runs⟩
    refine ⟨.poll place (Function.update base op choice) :: inputs, reached, ?_,
      stays, final, live.trans (running.trans (by rw [here])), ?_⟩
    · intro input member
      rcases List.mem_cons.mp member with first | later
      · rw [first]
        rfl
      · exact own input later
    · rw [run_cons, stepped, Option.bind_some, runs]
      simp [setTasks, setShared]

end System

end YedMQ.Semantics
