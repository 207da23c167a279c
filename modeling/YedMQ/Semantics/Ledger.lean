import YedMQ.Semantics.Actor
import Mathlib.Algebra.BigOperators.Group.List.Basic
import Mathlib.Tactic.Abel

/-! # What the futures of an actor have done together

A quantity of the shared state that only operations change, each by what it earns for its
future, is the sum of what all futures have earned so far.
-/

namespace YedMQ.Semantics

open Future

variable {Op : Type} {Answer Choice : Op → Type} {σ κ ε A : Type} [AddCancelCommMonoid A]

def Task.earned (gain : Nat → Event Answer → A) (task : Task Answer κ) : A :=
  (task.events.map (gain task.id)).sum

namespace System

/-- A weight added up over all futures that have been started. -/
def total (weigh : Task Answer κ → A) (system : System Answer σ κ) : A :=
  ((system.tasks .wait).map weigh).sum + ((system.tasks .spawn).map weigh).sum +
    ((system.tasks .detach).map weigh).sum + (system.finished.map weigh).sum

variable {weigh : Task Answer κ → A} {system : System Answer σ κ}

theorem total_setTasks (mode : Mode) (tasks : List (Task Answer κ)) :
    (system.setTasks mode tasks).total weigh + ((system.tasks mode).map weigh).sum =
      system.total weigh + (tasks.map weigh).sum := by
  have finished : (system.setTasks mode tasks).finished = system.finished := rfl
  cases mode with
  | wait | spawn | detach =>
    rw [total, total, tasks_setTasks_self, tasks_setTasks_of_ne system (by decide),
      tasks_setTasks_of_ne system (by decide), finished]
    abel

/-- Replace tasks of one kind by others that weigh more. -/
theorem total_setTasks_of_sum {mode : Mode} {tasks : List (Task Answer κ)} {more : A}
    (sum : (tasks.map weigh).sum = ((system.tasks mode).map weigh).sum + more) :
    (system.setTasks mode tasks).total weigh = system.total weigh + more := by
  have set : (system.setTasks mode tasks).total weigh +
      ((system.tasks mode).map weigh).sum = system.total weigh + (tasks.map weigh).sum :=
    total_setTasks mode tasks
  rw [sum] at set
  apply add_right_cancel (b := ((system.tasks mode).map weigh).sum)
  rw [set]
  abel

theorem total_drop {mode : Mode} {before after : List (Task Answer κ)} {task : Task Answer κ}
    (listed : system.tasks mode = before ++ task :: after) :
    (system.setTasks mode (before ++ after)).total weigh + weigh task = system.total weigh := by
  have set : (system.setTasks mode (before ++ after)).total weigh +
      ((system.tasks mode).map weigh).sum =
        system.total weigh + ((before ++ after).map weigh).sum :=
    total_setTasks mode (before ++ after)
  rw [listed] at set
  simp only [List.map_append, List.map_cons, List.sum_append, List.sum_cons] at set
  apply add_right_cancel (b := (before.map weigh).sum + (after.map weigh).sum)
  rw [← set]
  abel

theorem total_start (start : Start Answer κ) :
    (system.start start).total weigh =
      system.total weigh + weigh (Task.start system.nextId start.future) := by
  rcases start with ⟨mode, future⟩
  cases mode with
  | wait =>
    change (system.setTasks .wait (Task.start system.nextId future ::
      system.tasks .wait)).total weigh = _
    apply total_setTasks_of_sum
    rw [List.map_cons, List.sum_cons, add_comm]
  | spawn =>
    change (system.setTasks .spawn (system.tasks .spawn ++
      [Task.start system.nextId future])).total weigh = _
    apply total_setTasks_of_sum
    simp
  | detach =>
    change (system.setTasks .detach (system.tasks .detach ++
      [Task.start system.nextId future])).total weigh = _
    apply total_setTasks_of_sum
    simp

theorem total_startAll {starts : List (Start Answer κ)}
    (fresh : ∀ id future, weigh (Task.start id future) = 0) :
    (system.startAll starts).total weigh = system.total weigh := by
  induction starts generalizing system with
  | nil => rfl
  | cons start rest induction =>
    rw [startAll, List.foldl_cons, ← startAll, induction, total_start, fresh, add_zero]

theorem total_idle (idle : system.Idle) : system.total weigh = (system.finished.map weigh).sum := by
  rw [total, idle, idle, idle]
  simp

end System

/-- Only operations change the quantity, each by what it earns. -/
structure Ledger (behaviour : Behaviour Answer Choice σ κ ε) (quantity : σ → A)
    (gain : Nat → Event Answer → A) : Prop where
  perform : ∀ {id shared op choice next answer},
    behaviour.perform id shared op choice = some (next, answer) →
      quantity next = quantity shared + gain id ⟨op, answer⟩
  park : ∀ {id shared op next}, behaviour.park id shared op = some next →
    quantity next = quantity shared
  receive : ∀ {shared next starts}, behaviour.receive shared = some (next, starts) →
    quantity next = quantity shared
  complete : ∀ id value shared, quantity (behaviour.complete id value shared).1 = quantity shared
  environment : ∀ {shared event next}, behaviour.environment shared event = some next →
    quantity next = quantity shared

namespace Ledger

variable {behaviour : Behaviour Answer Choice σ κ ε} {quantity : σ → A}
  {gain : Nat → Event Answer → A} {system next : System Answer σ κ}

theorem earned_start (id : Nat) (future : Future Answer κ) :
    (Task.start id future).earned gain = 0 := rfl

theorem earned_resume {task : Task Answer κ} {op : Op} {resume : Answer op → Future Answer κ}
    (suspended : task.current = .await op resume) (answer : Answer op) :
    (task.resume suspended answer).earned gain =
      task.earned gain + gain task.id ⟨op, answer⟩ := by
  simp [Task.earned, Task.resume]

theorem new (_ledger : Ledger behaviour quantity gain) (shared : σ)
    (starts : List (Start Answer κ)) :
    quantity ((System.new shared).startAll starts).shared = quantity shared +
      ((System.new shared).startAll starts).total (Task.earned gain) := by
  rw [System.total_startAll earned_start]
  simp [System.new, System.total]

theorem step (ledger : Ledger behaviour quantity gain) {base : A}
    (balanced : quantity system.shared = base + system.total (Task.earned gain))
    {input : ActorInput Choice ε} (stepped : system.step behaviour input = some next) :
    quantity next.shared = base + next.total (Task.earned gain) := by
  cases input with
  | receive =>
    rcases System.step_receive stepped with ⟨shared, starts, _, _, received, result⟩
    subst result
    rw [System.shared_startAll, System.total_startAll earned_start]
    exact (ledger.receive received).trans balanced
  | poll place =>
    rcases System.step_poll stepped with ⟨before, task, after, op, resume, shared, answer,
      suspended, _, turn, performed, result⟩
    subst result
    have grown : (system.setTasks place.mode (before ++ task.resume suspended answer ::
        after)).total (Task.earned gain) =
          system.total (Task.earned gain) + gain task.id ⟨op, answer⟩ := by
      apply System.total_setTasks_of_sum
      rw [turn.listed]
      simp only [List.map_append, List.map_cons, List.sum_append, List.sum_cons, earned_resume]
      abel
    change quantity shared = base + (system.setTasks place.mode (before ++
      task.resume suspended answer :: after)).total (Task.earned gain)
    rw [grown, ledger.perform performed, balanced]
    abel
  | finish place =>
    rcases System.step_finish stepped with ⟨before, task, after, value, shared, _, _, _,
      turn, completed, result⟩
    subst result
    rw [System.shared_startAll, System.total_startAll earned_start]
    have moved : ({ system.setTasks place.mode (before ++ after) with
        shared := shared, finished := task :: system.finished } :
          System Answer σ κ).total (Task.earned gain) = system.total (Task.earned gain) := by
      rw [← System.total_drop turn.listed]
      simp only [System.total]
      change _ + (task.earned gain + ((system.setTasks place.mode (before ++
        after)).finished.map (Task.earned gain)).sum) = _
      abel
    rw [moved, ← balanced]
    have kept := ledger.complete task.id value system.shared
    rw [completed] at kept
    exact kept
  | park =>
    rcases System.step_park stepped with ⟨_, _, _, _, _, _, _, _, parked, result⟩
    subst result
    exact (ledger.park parked).trans balanced
  | environment =>
    rcases System.step_environment stepped with ⟨_, changed, result⟩
    subst result
    exact (ledger.environment changed).trans balanced

end Ledger

end YedMQ.Semantics
