import YedMQ.Semantics.Actor

/-! # What futures have performed before

A future may depend on what it did before: it writes only what it was allowed to write.
`Guarded` says of a future that every operation it comes to is permitted by what it has
performed so far. `System.Performed` collects what all futures of an actor have performed.
-/

namespace YedMQ.Semantics

variable {Op : Type} {Answer Choice : Op → Type} {σ κ ε α β : Type}

namespace Future

/-- Every operation that a future comes to is permitted by what was performed before. -/
def Guarded (Permits : List (Event Answer) → Op → Prop) :
    List (Event Answer) → Future Answer α → Prop
  | _, done _ => True
  | past, await op resume =>
    Permits past op ∧ ∀ answer, Guarded Permits (past ++ [⟨op, answer⟩]) (resume answer)

variable {Permits : List (Event Answer) → Op → Prop} {past : List (Event Answer)}

theorem Guarded.perform {op : Op} {next : Answer op → Future Answer β} (permitted : Permits past op)
    (rest : ∀ answer, Guarded Permits (past ++ [⟨op, answer⟩]) (next answer)) :
    Guarded Permits past (Future.perform op >>= next) :=
  ⟨permitted, rest⟩

variable {future : Future Answer α}

theorem Guarded.bind {next : α → Future Answer β} (first : Guarded Permits past future)
    (rest : future.Always fun events value => Guarded Permits (past ++ events) (next value)) :
    Guarded Permits past (future >>= next) := by
  induction future generalizing past with
  | done value =>
    rw [Always, List.append_nil] at rest
    exact rest
  | await op resume induction =>
    refine ⟨first.1, ?_⟩
    intro answer
    apply induction answer (first.2 answer)
    simp only [List.append_assoc]
    exact rest answer

theorem Guarded.finish {result : α → β} (guarded : Guarded Permits past future) :
    Guarded Permits past (future >>= fun value => done (result value)) :=
  guarded.bind (always_of_forall future fun _ _ => trivial)

/-- Operations that are permitted by something that stays true. -/
theorem guarded_of_only (Cleared : List (Event Answer) → Prop) {Free : Op → Prop}
    (only : future.Only Free) (permitted : ∀ past op, Cleared past → Free op → Permits past op)
    (stays : ∀ past event, Cleared past → Cleared (past ++ [event])) (cleared : Cleared past) :
    Guarded Permits past future := by
  induction future generalizing past with
  | done value => trivial
  | await op resume induction =>
    refine ⟨permitted past op cleared only.1, ?_⟩
    intro answer
    exact induction answer (only.2 answer) (stays past _ cleared)

theorem guarded_forEach {items : List α} {body : α → Future Answer Unit}
    (each : ∀ item ∈ items, ∀ more, Guarded Permits (past ++ more) (body item)) :
    Guarded Permits past (forEach items body) := by
  induction items generalizing past with
  | nil => trivial
  | cons item rest induction =>
    have first := each item List.mem_cons_self []
    rw [List.append_nil] at first
    apply first.bind
    apply always_of_forall
    intro events _
    apply induction
    intro other member more
    rw [List.append_assoc]
    exact each other (List.mem_cons_of_mem _ member) (events ++ more)

theorem guarded_collect {items : List α} {body : α → Future Answer (Option β)}
    (each : ∀ item ∈ items, ∀ more, Guarded Permits (past ++ more) (body item)) :
    Guarded Permits past (collect items body) := by
  induction items generalizing past with
  | nil => trivial
  | cons item rest induction =>
    have first := each item List.mem_cons_self []
    rw [List.append_nil] at first
    apply first.bind
    apply always_of_forall
    intro events _
    apply Guarded.bind
    · apply induction
      intro other member more
      rw [List.append_assoc]
      exact each other (List.mem_cons_of_mem _ member) (events ++ more)
    · apply always_of_forall
      intro _ _
      trivial

theorem Guarded.follows {first final : Future Answer α} {events : List (Event Answer)}
    (guarded : Guarded Permits [] first) (follows : Follows first events final) :
    Guarded Permits events final := by
  induction follows with
  | refl => exact guarded
  | step answer before induction => exact induction.2 answer

end Future

namespace System

open Future

variable {behaviour : Behaviour Answer Choice σ κ ε} {system next : System Answer σ κ}

def Performed (system : System Answer σ κ) (event : Event Answer) : Prop :=
  ∃ task : Task Answer κ, ((∃ mode, task ∈ system.tasks mode) ∨ task ∈ system.finished) ∧
    event ∈ task.events

variable {task : Task Answer κ}

theorem mem_startAll_of_mem {mode : Mode} (member : task ∈ system.tasks mode)
    (starts : List (Start Answer κ)) :
    task ∈ (system.startAll starts).tasks mode := by
  induction starts generalizing system with
  | nil => exact member
  | cons start rest induction => exact induction (mem_start.mpr (.inl member))

variable {event : Event Answer}

theorem performed_startAll {starts : List (Start Answer κ)} :
    (system.startAll starts).Performed event ↔ system.Performed event := by
  constructor
  · intro performed
    rcases performed with ⟨task, ⟨mode, live⟩ | finished, member⟩
    · rcases mem_startAll live with old | ⟨_, _, _, _, _, new⟩
      · exact ⟨task, .inl ⟨mode, old⟩, member⟩
      · rw [new] at member
        cases member
    · rw [finished_startAll] at finished
      exact ⟨task, .inr finished, member⟩
  · intro performed
    rcases performed with ⟨task, ⟨mode, live⟩ | finished, member⟩
    · exact ⟨task, .inl ⟨mode, mem_startAll_of_mem live starts⟩, member⟩
    · refine ⟨task, .inr ?_, member⟩
      rw [finished_startAll]
      exact finished

variable {input : ActorInput Choice ε}

/-- Nothing that was performed is forgotten. -/
theorem Performed.step (performed : system.Performed event)
    (stepped : system.step behaviour input = some next) :
    next.Performed event := by
  cases input with
  | receive =>
    rcases step_receive stepped with ⟨shared, starts, _, _, _, result⟩
    rw [result, performed_startAll]
    exact performed
  | poll place =>
    rcases step_poll stepped with ⟨before, task, after, _, resume, shared, answer,
      suspended, _, turn, _, result⟩
    rcases performed with ⟨other, ⟨mode, live⟩ | finished, member⟩
    · rw [result]
      rcases turn.tasks_keep [task.resume suspended answer] live with here | kept
      · subst here
        refine ⟨other.resume suspended answer, .inl ⟨place.mode, ?_⟩,
          List.mem_append_left _ member⟩
        rw [tasks_setShared, tasks_setTasks_self]
        exact List.mem_append_right _ List.mem_cons_self
      · exact ⟨other, .inl ⟨mode, kept⟩, member⟩
    · refine ⟨other, .inr ?_, member⟩
      rw [result]
      exact finished
  | finish place =>
    rcases step_finish stepped with ⟨before, task, after, _, shared, _, _, _, turn,
      _, result⟩
    rw [result, performed_startAll]
    rcases performed with ⟨other, ⟨mode, live⟩ | finished, member⟩
    · rcases turn.tasks_keep [] live with here | kept
      · subst here
        exact ⟨other, .inr List.mem_cons_self, member⟩
      · exact ⟨other, .inl ⟨mode, kept⟩, member⟩
    · exact ⟨other, .inr (List.mem_cons_of_mem _ finished), member⟩
  | park =>
    rcases step_park stepped with ⟨_, _, _, _, _, _, _, _, _, result⟩
    rw [result]
    exact performed
  | environment =>
    rcases step_environment stepped with ⟨_, _, result⟩
    rw [result]
    exact performed

theorem performed_or_of_step (performed : next.Performed event)
    (stepped : system.step behaviour input = some next) :
    system.Performed event ∨ ∃ place choose task op resume answer,
      input = .poll place choose ∧ system.taskAt behaviour place = some task ∧
      task.current = .await op resume ∧
      behaviour.perform task.id system.shared op (choose op) = some (next.shared, answer) ∧
      event = ⟨op, answer⟩ := by
  cases input with
  | receive =>
    rcases step_receive stepped with ⟨shared, starts, _, _, _, result⟩
    rw [result, performed_startAll] at performed
    exact .inl performed
  | poll place choose =>
    rcases step_poll stepped with ⟨before, task, after, op, resume, shared, answer,
      suspended, found, turn, does, result⟩
    subst result
    rcases performed with ⟨other, ⟨mode, live⟩ | finished, member⟩
    · rcases turn.tasks_replace live with old | ⟨same, new⟩
      · exact .inl ⟨other, .inl ⟨mode, old⟩, member⟩
      · subst same new
        rcases List.mem_append.mp member with earlier | now
        · exact .inl ⟨task, .inl ⟨place.mode, turn.mem⟩, earlier⟩
        · exact .inr ⟨place, choose, task, op, resume, answer, rfl, found, suspended, does,
            List.mem_singleton.mp now⟩
    · exact .inl ⟨other, .inr finished, member⟩
  | finish place =>
    rcases step_finish stepped with ⟨_, _, _, _, shared, _, _, _, turn,
      _, result⟩
    rw [result, performed_startAll] at performed
    left
    rcases performed with ⟨other, ⟨mode, live⟩ | finished, member⟩
    · exact ⟨other, .inl ⟨mode, turn.tasks_drop live⟩, member⟩
    · rcases List.mem_cons.mp finished with here | later
      · subst here
        exact ⟨other, .inl ⟨place.mode, turn.mem⟩, member⟩
      · exact ⟨other, .inr later, member⟩
  | park =>
    rcases step_park stepped with ⟨_, _, _, _, _, _, _, _, _, result⟩
    rw [result] at performed
    exact .inl performed
  | environment =>
    rcases step_environment stepped with ⟨_, _, result⟩
    rw [result] at performed
    exact .inl performed

end System

end YedMQ.Semantics
