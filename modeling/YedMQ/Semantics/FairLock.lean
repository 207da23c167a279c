import Mathlib.Data.List.Basic

/-! # A lock that is handed on in turn

A task that finds the lock taken is put at the end of a queue. When the lock is given back,
it is handed to the first task of the queue at once, before this task is polled again. A
task that has the lock either uses it and gives it back in one go, or takes a guard and
keeps it.
-/

namespace YedMQ.Semantics

structure FairLock where
  /-- The task that keeps the guard. -/
  keeper : Option Nat
  /-- The task that the lock was handed to and that has not been polled since. -/
  handed : Option Nat
  queue : List Nat
deriving DecidableEq, Repr

namespace FairLock

def free : FairLock where
  keeper := none
  handed := none
  queue := []

variable (task : Nat) (lock : FairLock)

def holder : Option Nat :=
  lock.keeper.or lock.handed

/-- The task has the lock or waits for its turn. -/
def Engages : Prop :=
  lock.holder = some task ∨ task ∈ lock.queue

instance : Decidable (lock.Engages task) :=
  inferInstanceAs (Decidable (_ ∨ _))

/-- The task may take a guard. -/
def opens : Bool :=
  lock.keeper.isNone && lock.handed.all (· == task)

/-- The task keeps the guard or may take one. -/
def admits : Bool :=
  lock.keeper == some task || lock.opens task

def pass : FairLock where
  keeper := none
  handed := lock.queue.head?
  queue := lock.queue.tail

/-- Use the lock and give it back, unless the task keeps the guard. -/
def use : FairLock :=
  if lock.keeper = some task then lock else lock.pass

def take : FairLock :=
  { lock with keeper := some task, handed := none }

def release : FairLock :=
  if lock.keeper = some task then lock.pass else lock

def enqueue : FairLock :=
  { lock with queue := lock.queue ++ [task] }

/-- Nobody but the task is interested in the lock. -/
def Uncontended : Prop :=
  lock = free ∨ lock = free.take task

variable {task other : Nat} {lock}

theorem opens_eq_false (has : lock.holder = some other) (different : other ≠ task) :
    lock.opens task = false := by
  rw [holder] at has
  cases keeps : lock.keeper with
  | none =>
    rw [keeps, Option.none_or] at has
    simp [opens, has, different]
  | some => simp [opens, keeps]

theorem admits_eq_false (has : lock.holder = some other) (different : other ≠ task) :
    lock.admits task = false := by
  have keeps : lock.keeper ≠ some task := by
    intro same
    rw [holder, same] at has
    exact different (Option.some.inj has).symm
  simp [admits, keeps, opens_eq_false has different]

theorem not_engages_free (task : Nat) : ¬ free.Engages task := by
  simp [Engages, holder, free]

theorem Engages.of_pass (engages : lock.pass.Engages task) : lock.Engages task := by
  right
  rcases engages with handed | queued
  · exact List.mem_of_mem_head? handed
  · exact List.mem_of_mem_tail queued

theorem Engages.of_use (engages : (lock.use other).Engages task) : lock.Engages task := by
  rw [use] at engages
  split at engages
  · exact engages
  · exact engages.of_pass

theorem Engages.of_release (engages : (lock.release other).Engages task) : lock.Engages task := by
  rw [release] at engages
  split at engages
  · exact engages.of_pass
  · exact engages

theorem Engages.of_take (engages : (lock.take other).Engages task) :
    task = other ∨ lock.Engages task := by
  rcases engages with keeps | queued
  · exact .inl (Option.some.inj keeps).symm
  · exact .inr (.inr queued)

theorem Engages.of_enqueue (engages : (lock.enqueue other).Engages task) :
    task = other ∨ lock.Engages task := by
  rcases engages with has | queued
  · exact .inr (.inl has)
  · rcases List.mem_append.mp queued with old | new
    · exact .inr (.inr old)
    · exact .inl (List.mem_singleton.mp new)

namespace Uncontended

theorem admits (uncontended : lock.Uncontended task) : lock.admits task = true := by
  rcases uncontended with free | keeps
  · rw [free]
    rfl
  · rw [keeps]
    simp [FairLock.admits, take]

theorem use (uncontended : lock.Uncontended task) : lock.use task = lock := by
  rcases uncontended with free | keeps
  · rw [free]
    rfl
  · rw [keeps]
    exact if_pos rfl

theorem release (uncontended : lock.Uncontended task) : lock.release task = free := by
  rcases uncontended with free | keeps
  · rw [free]
    rfl
  · rw [keeps]
    exact if_pos rfl

end Uncontended

end FairLock

end YedMQ.Semantics
