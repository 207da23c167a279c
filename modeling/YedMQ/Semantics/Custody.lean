import YedMQ.Semantics.Actor
import Mathlib.Algebra.BigOperators.Group.List.Basic
import Mathlib.Algebra.Group.Pi.Basic
import Mathlib.Algebra.Order.Group.Multiset

/-! # Resources in the custody of futures

An invariant of an actor may depend on what its futures are about to do: a future has
taken something from the shared state and will put it back, or has noted something that
must stay true until the future uses it. Here each future carries a resource from a
commutative monoid, and the invariant relates the shared state to the resources that the
futures of each kind carry together. An operation may change the shared state and the
resource of the future that performs it, for whatever the other futures carry.

Some resources belong to one task, such as a lock that it keeps. Such a resource is marked
with the number of the task, and no other task carries one with that number.

`Custody.Sound` lists what is to be shown of the actor: that messages, results and events
keep the invariant, and that every future that is started keeps it too.
`Kept.step` then gives the invariant for every step of the whole system.
-/

namespace YedMQ.Semantics

open Future

variable {Op : Type} {Answer Choice : Op → Type} {σ κ ε M α β : Type} [AddCommMonoid M]

/-- An invariant over the shared state and the resources of the futures of each kind, the
operations that may be performed, the results with which a future may end, and the numbers
with which a resource is marked. -/
structure Custody (Choice : Op → Type) (σ κ M : Type) [AddCommMonoid M] where
  holds : σ → (Mode → M) → Prop
  allowed : Nat → σ → (op : Op) → Choice op → Prop
  settled : Nat → κ → M → Prop
  marks : M →+ Multiset Nat := 0

namespace Custody

variable (custody : Custody Choice σ κ M) (behaviour : Behaviour Answer Choice σ κ ε)
  (mode : Mode) (id : Nat)

def Marked (carried : M) : Prop :=
  ∀ mark ∈ custody.marks carried, mark = id

/-- An operation of one future that turns the resource `carried` into one of those that
`After` gives for the answer. A spawned future is polled only when no other is waited
for. -/
def Performs (op : Op) (carried : M) (After : Answer op → M → Prop) : Prop :=
  ∀ (shared : σ) (others : Mode → M) (choice : Choice op) (next : σ) (answer : Answer op),
    (mode = .spawn → others .wait = 0) →
    (∀ other, id ∉ custody.marks (others other)) →
    custody.Marked id carried →
    custody.holds shared (others + Pi.single mode carried) →
    custody.allowed id shared op choice →
    behaviour.perform id shared op choice = some (next, answer) →
    ∃ left, custody.holds next (others + Pi.single mode left) ∧ custody.Marked id left ∧
      After answer left

/-- A future that starts with the resource `carried` keeps the invariant at each operation
and ends as `Post` says. -/
def Keeps (Post : α → M → Prop) : Future Answer α → M → Prop
  | done value, carried => Post value carried
  | await op resume, carried =>
    custody.Performs behaviour mode id op carried fun answer left =>
      Keeps Post (resume answer) left

variable {custody behaviour mode id}

variable {Post : α → M → Prop} {carried : M}

theorem keeps_done {value : α} (post : Post value carried) :
    custody.Keeps behaviour mode id Post (done value) carried := post

theorem Performs.mono {op : Op} {Strong Weak : Answer op → M → Prop}
    (performs : custody.Performs behaviour mode id op carried Strong)
    (weaker : ∀ answer left, Strong answer left → Weak answer left) :
    custody.Performs behaviour mode id op carried Weak := by
  intro shared others choice next answer turn foreign marked holds allowed performed
  rcases performs shared others choice next answer turn foreign marked holds allowed
    performed with ⟨left, kept, ours, strong⟩
  exact ⟨left, kept, ours, weaker answer left strong⟩

variable {future : Future Answer α}

theorem Keeps.bind {Middle : α → M → Prop} {Post : β → M → Prop} {next : α → Future Answer β}
    (first : custody.Keeps behaviour mode id Middle future carried)
    (rest : ∀ value left, Middle value left →
      custody.Keeps behaviour mode id Post (next value) left) :
    custody.Keeps behaviour mode id Post (future >>= next) carried := by
  induction future generalizing carried with
  | done value => exact rest value carried first
  | await op resume induction =>
    exact first.mono fun answer _ kept => induction answer kept

theorem Keeps.mono {Strong Weak : α → M → Prop}
    (keeps : custody.Keeps behaviour mode id Strong future carried)
    (weaker : ∀ value left, Strong value left → Weak value left) :
    custody.Keeps behaviour mode id Weak future carried := by
  induction future generalizing carried with
  | done value => exact weaker value carried keeps
  | await op resume induction =>
    exact Performs.mono keeps fun answer _ kept => induction answer kept

variable (custody behaviour id) in
/-- An operation that keeps the invariant whatever the futures carry. -/
def Neutral (op : Op) : Prop :=
  ∀ shared total choice next answer, custody.holds shared total →
    custody.allowed id shared op choice →
    behaviour.perform id shared op choice = some (next, answer) →
    custody.holds next total

theorem Neutral.performs {op : Op} (neutral : custody.Neutral behaviour id op) (carried : M) :
    custody.Performs behaviour mode id op carried fun _ left => left = carried := by
  intro shared others choice next answer _ _ marked holds allowed performed
  exact ⟨carried, neutral shared _ choice next answer holds allowed performed, marked, rfl⟩

theorem keeps_of_neutral {Returned : α → Prop}
    (neutral : future.Only (custody.Neutral behaviour id))
    (returns : future.Always fun _ => Returned) (carried : M) :
    custody.Keeps behaviour mode id (fun value left => Returned value ∧ left = carried) future
      carried := by
  induction future with
  | done value => exact ⟨returns, rfl⟩
  | await op resume induction =>
    apply (neutral.1.performs carried).mono
    intro answer left same
    subst same
    exact induction answer (neutral.2 answer) (returns answer)

/-! ## All futures of an actor -/

variable (custody behaviour)

/-- The futures of one kind keep the invariant and together carry `total`. -/
def Carries (mode : Mode) : List (Task Answer κ) → M → Prop
  | [], total => total = 0
  | task :: rest, total =>
    ∃ own others, (custody.Keeps behaviour mode task.id (custody.settled task.id)
      task.current own ∧ custody.Marked task.id own) ∧ Carries mode rest others ∧
        total = own + others

/-- Futures that are about to be started keep the invariant, and they together carry
`gained`, which has no marks yet. -/
def StartsKeep : List (Start Answer κ) → (Mode → M) → Prop
  | [], gained => gained = 0
  | start :: rest, gained =>
    ∃ own more, ((∀ id, custody.Keeps behaviour start.mode id (custody.settled id)
      start.future own) ∧ custody.marks own = 0) ∧ StartsKeep rest more ∧
        gained = Pi.single start.mode own + more

/-- The invariant of the whole system. -/
structure Kept (system : System Answer σ κ) : Prop where
  numbered : system.Numbered
  carried : ∃ total : Mode → M, custody.holds system.shared total ∧
    ∀ mode, custody.Carries behaviour mode (system.tasks mode) (total mode)

structure Sound (Admitted : System Answer σ κ → ActorInput Choice ε → Prop) : Prop where
  poll : ∀ {system place choose task op resume}, Admitted system (.poll place choose) →
    system.taskAt behaviour place = some task → task.current = .await op resume →
    custody.allowed task.id system.shared op (choose op)
  receive : ∀ {system : System Answer σ κ} {total : Mode → M} {shared starts},
    Admitted system .receive → custody.holds system.shared total → total .wait = 0 →
    behaviour.receive system.shared = some (shared, starts) →
    ∃ gained, custody.StartsKeep behaviour starts gained ∧ custody.holds shared (total + gained)
  finish : ∀ {system : System Answer σ κ} {place task value own} {others : Mode → M}
    {shared starts},
    Admitted system (.finish place) → system.taskAt behaviour place = some task →
    task.current = .done value → custody.settled task.id value own →
    custody.Marked task.id own → (∀ other, task.id ∉ custody.marks (others other)) →
    custody.holds system.shared (others + Pi.single place.mode own) →
    (place.mode = .spawn → others .wait = 0) →
    behaviour.complete task.id value system.shared = (shared, starts) →
    ∃ gained, custody.StartsKeep behaviour starts gained ∧ custody.holds shared (others + gained)
  park : ∀ {id op shared next total}, custody.holds shared total →
    behaviour.park id shared op = some next → custody.holds next total
  environment : ∀ {system event shared total}, Admitted system (.environment event) →
    custody.holds system.shared total →
    behaviour.environment system.shared event = some shared → custody.holds shared total

variable {custody behaviour}

theorem marked_of_unmarked {id : Nat} (unmarked : custody.marks carried = 0) :
    custody.Marked id carried := by
  intro mark member
  rw [unmarked] at member
  exact absurd member (Multiset.notMem_zero mark)

variable {starts : List (Start Answer κ)}

/-- Futures that start without a resource. -/
theorem startsKeep_zero (each : ∀ start ∈ starts, ∀ id,
      custody.Keeps behaviour start.mode id (custody.settled id) start.future 0) :
    custody.StartsKeep behaviour starts 0 := by
  induction starts with
  | nil => exact rfl
  | cons start rest induction =>
    refine ⟨0, 0, ⟨each start List.mem_cons_self, map_zero _⟩, ?_, ?_⟩
    · exact induction fun other member => each other (List.mem_cons_of_mem _ member)
    · rw [Pi.single_zero, add_zero]

theorem carries_append {mode : Mode} {first second : List (Task Answer κ)} {total : M} :
    custody.Carries behaviour mode (first ++ second) total ↔
      ∃ left right, custody.Carries behaviour mode first left ∧
        custody.Carries behaviour mode second right ∧ total = left + right := by
  induction first generalizing total with
  | nil =>
    constructor
    · intro carries
      exact ⟨0, total, rfl, carries, (zero_add total).symm⟩
    · intro ⟨left, right, empty, carries, sum⟩
      have none : left = 0 := empty
      rw [sum, none, zero_add]
      exact carries
  | cons task rest induction =>
    constructor
    · intro ⟨own, others, keeps, carries, sum⟩
      rcases induction.mp carries with ⟨left, right, first, second, split⟩
      exact ⟨own + left, right, ⟨own, left, keeps, first, rfl⟩, second,
        by rw [sum, split, add_assoc]⟩
    · intro ⟨left, right, ⟨own, others, keeps, first, split⟩, second, sum⟩
      exact ⟨own, others + right, keeps, induction.mpr ⟨others, right, first, second, rfl⟩,
        by rw [sum, split, add_assoc]⟩

variable {before after : List (Task Answer κ)} {task : Task Answer κ}

theorem carries_middle {mode : Mode} {total : M} :
    custody.Carries behaviour mode (before ++ task :: after) total ↔
      ∃ own rest, (custody.Keeps behaviour mode task.id (custody.settled task.id)
          task.current own ∧ custody.Marked task.id own) ∧
        custody.Carries behaviour mode (before ++ after) rest ∧ total = rest + own := by
  rw [carries_append]
  constructor
  · intro ⟨left, _, first, ⟨own, right, keeps, second, split⟩, sum⟩
    exact ⟨own, left + right, keeps, carries_append.mpr ⟨left, right, first, second, rfl⟩,
      by rw [sum, split, add_assoc, add_comm right own]⟩
  · intro ⟨own, rest, keeps, carries, sum⟩
    rcases carries_append.mp carries with ⟨left, right, first, second, split⟩
    exact ⟨left, own + right, first, ⟨own, right, keeps, second, rfl⟩,
      by rw [sum, split, add_assoc, add_comm right own]⟩

variable {tasks : List (Task Answer κ)}

theorem Carries.mem_ids {mode : Mode} {total : M}
    (carries : custody.Carries behaviour mode tasks total) {mark : Nat}
    (marked : mark ∈ custody.marks total) : mark ∈ tasks.map Task.id := by
  induction tasks generalizing total with
  | nil =>
    have none : total = 0 := carries
    rw [none, map_zero] at marked
    exact absurd marked (Multiset.notMem_zero mark)
  | cons task rest induction =>
    rcases carries with ⟨own, others, ⟨_, ours⟩, carries, sum⟩
    rw [sum, map_add] at marked
    rcases Multiset.mem_add.mp marked with here | later
    · rw [ours mark here]
      exact List.mem_cons_self
    · exact List.mem_cons_of_mem _ (induction carries later)

variable {system : System Answer σ κ} {total : Mode → M}

theorem carries_start {start : Start Answer κ} {own : M}
    (carries : ∀ mode, custody.Carries behaviour mode (system.tasks mode) (total mode))
    (keeps : ∀ id, custody.Keeps behaviour start.mode id (custody.settled id) start.future
      own) (unmarked : custody.marks own = 0) (mode : Mode) :
    custody.Carries behaviour mode ((system.start start).tasks mode)
      ((total + Pi.single start.mode own : Mode → M) mode) := by
  rcases start with ⟨startMode, future⟩
  rcases eq_or_ne mode startMode with same | different
  · subst same
    have keepsOwn : custody.Keeps behaviour mode system.nextId
          (custody.settled system.nextId) future own ∧ custody.Marked system.nextId own :=
      ⟨keeps system.nextId, marked_of_unmarked unmarked⟩
    have alone : custody.Carries behaviour mode ([] ++ Task.start system.nextId future ::
        system.tasks mode) (total mode + own) :=
      carries_middle.mpr ⟨own, total mode, keepsOwn, carries mode, rfl⟩
    have last : custody.Carries behaviour mode (system.tasks mode ++
        Task.start system.nextId future :: []) (total mode + own) := by
      apply carries_middle.mpr
      exact ⟨own, total mode, keepsOwn, by rw [List.append_nil]; exact carries mode, rfl⟩
    cases mode with
    | wait => exact alone
    | spawn | detach => exact last
  · rw [Pi.add_apply, Pi.single_eq_of_ne different, add_zero]
    have kept : (system.start ⟨startMode, future⟩).tasks mode = system.tasks mode :=
      Function.update_of_ne different _ _
    rw [kept]
    exact carries mode

theorem carries_startAll {gained : Mode → M}
    (carries : ∀ mode, custody.Carries behaviour mode (system.tasks mode) (total mode))
    (keep : custody.StartsKeep behaviour starts gained) (mode : Mode) :
    custody.Carries behaviour mode ((system.startAll starts).tasks mode)
      ((total + gained) mode) := by
  induction starts generalizing system total gained with
  | nil =>
    have none : gained = 0 := keep
    rw [none, add_zero]
    exact carries mode
  | cons start rest induction =>
    rcases keep with ⟨own, more, ⟨keeps, unmarked⟩, keep, sum⟩
    rw [sum, ← add_assoc]
    exact induction (carries_start carries keeps unmarked) keep

/-- Set apart what one task of a kind carries. -/
theorem split_total {mode : Mode} {remaining own : M} (sum : total mode = remaining + own) :
    total = Function.update total mode remaining + Pi.single mode own := by
  funext other
  rcases eq_or_ne other mode with same | different
  · subst same
    rw [Pi.add_apply, Function.update_self, Pi.single_eq_same, sum]
  · rw [Pi.add_apply, Function.update_of_ne different, Pi.single_eq_of_ne different, add_zero]

/-- Replace the tasks of one kind, keeping those of the others. -/
theorem carries_setTasks {others : Mode → M} {mode : Mode}
    (carries : ∀ other, custody.Carries behaviour other (system.tasks other) (total other))
    (same : ∀ other, other ≠ mode → others other = total other)
    (changed : custody.Carries behaviour mode tasks (others mode)) (other : Mode) :
    custody.Carries behaviour other ((system.setTasks mode tasks).tasks other) (others other) := by
  rcases eq_or_ne other mode with equal | different
  · subst equal
    rw [System.tasks_setTasks_self]
    exact changed
  · rw [System.tasks_setTasks_of_ne system different, same other different]
    exact carries other

theorem Kept.turn {place : Place} (kept : custody.Kept behaviour system)
    (turn : System.Turn behaviour system place before task after) :
    ∃ (own : M) (others : Mode → M),
      custody.Keeps behaviour place.mode task.id (custody.settled task.id) task.current own ∧
      custody.Marked task.id own ∧
      custody.holds system.shared (others + Pi.single place.mode own) ∧
      (place.mode = .spawn → others .wait = 0) ∧
      (∀ mode, task.id ∉ custody.marks (others mode)) ∧
      ∀ mode, custody.Carries behaviour mode
        ((system.setTasks place.mode (before ++ after)).tasks mode) (others mode) := by
  rcases kept with ⟨numbered, total, holds, carries⟩
  have listed := carries place.mode
  rw [turn.listed] at listed
  rcases carries_middle.mp listed with ⟨own, remaining, ⟨keeps, marked⟩, carried, sum⟩
  refine ⟨own, Function.update total place.mode remaining, keeps, marked, ?_, ?_, ?_, ?_⟩
  · rw [← split_total sum]
    exact holds
  · intro spawns
    have waiting := carries .wait
    rw [turn.alone spawns] at waiting
    rw [Function.update_of_ne (by rw [spawns]; decide)]
    exact waiting
  · intro mode foreign
    rcases eq_or_ne mode place.mode with same | different
    · -- Another task of the same kind would have the same number.
      subst same
      rw [Function.update_self] at foreign
      have known := numbered.distinct place.mode
      rw [System.ids, turn.listed, List.map_append, List.map_cons,
        List.perm_middle.nodup_iff, List.nodup_cons, ← List.map_append] at known
      exact known.1 (carried.mem_ids foreign)
    · rw [Function.update_of_ne different] at foreign
      exact different (numbered.apart mode place.mode task.id ((carries mode).mem_ids foreign)
        turn.mem_ids)
  · apply carries_setTasks carries
    · intro other different
      exact Function.update_of_ne different _ _
    · rw [Function.update_self]
      exact carried

variable {Admitted : System Answer σ κ → ActorInput Choice ε → Prop}

theorem Kept.step (sound : custody.Sound behaviour Admitted) {next : System Answer σ κ}
    {input : ActorInput Choice ε} (kept : custody.Kept behaviour system)
    (admitted : Admitted system input) (stepped : system.step behaviour input = some next) :
    custody.Kept behaviour next := by
  refine ⟨kept.numbered.step stepped, ?_⟩
  cases input with
  | receive =>
    rcases System.step_receive stepped with ⟨shared, starts, _, none, received, result⟩
    rcases kept.carried with ⟨total, holds, carries⟩
    have idle : total .wait = 0 := by
      have waiting := carries .wait
      rw [none] at waiting
      exact waiting
    rcases sound.receive admitted holds idle received with ⟨gained, keep, after⟩
    subst result
    refine ⟨total + gained, ?_, carries_startAll carries keep⟩
    rw [System.shared_startAll]
    exact after
  | poll place choose =>
    rcases System.step_poll stepped with ⟨before, task, rest, op, _, shared, answer,
      suspended, found, turn, performed, result⟩
    rcases kept.turn turn with ⟨own, others, keeps, marked, holds, idle, foreign, carries⟩
    rw [suspended] at keeps
    rcases keeps system.shared _ (choose op) shared answer idle foreign marked holds
      (sound.poll admitted found suspended) performed with ⟨left, after, ours, goesOn⟩
    subst result
    refine ⟨_, after, ?_⟩
    intro mode
    have others := carries mode
    rw [System.tasks_setShared, Pi.add_apply]
    rcases eq_or_ne mode place.mode with same | different
    · subst same
      rw [System.tasks_setTasks_self] at others
      rw [System.tasks_setTasks_self, Pi.single_eq_same]
      exact carries_middle.mpr ⟨left, _, ⟨goesOn, ours⟩, others, rfl⟩
    · rw [System.tasks_setTasks_of_ne system different] at others
      rw [System.tasks_setTasks_of_ne system different, Pi.single_eq_of_ne different, add_zero]
      exact others
  | finish =>
    rcases System.step_finish stepped with ⟨_, _, _, _, shared, _,
      ended, found, turn, completed, result⟩
    rcases kept.turn turn with ⟨_, others, keeps, marked, holds, idle, foreign, carries⟩
    rw [ended] at keeps
    rcases sound.finish admitted found ended keeps marked foreign holds idle completed with
      ⟨gained, keep, after⟩
    subst result
    refine ⟨others + gained, ?_, ?_⟩
    · rw [System.shared_startAll]
      exact after
    · exact carries_startAll carries keep
  | park =>
    rcases System.step_park stepped with ⟨_, _, _, _, _, _, _, _, parked, result⟩
    rcases kept.carried with ⟨total, holds, carries⟩
    subst result
    exact ⟨total, sound.park holds parked, carries⟩
  | environment =>
    rcases System.step_environment stepped with ⟨_, changed, result⟩
    rcases kept.carried with ⟨total, holds, carries⟩
    subst result
    exact ⟨total, sound.environment admitted holds changed, carries⟩

theorem Kept.run (sound : custody.Sound behaviour Admitted) {final : System Answer σ κ}
    {inputs : List (ActorInput Choice ε)} (kept : custody.Kept behaviour system)
    (admitted : EachStep (System.step behaviour) Admitted system inputs)
    (runs : Semantics.run (System.step behaviour) system inputs = some final) :
    custody.Kept behaviour final := by
  have throughout : Throughout (System.step behaviour) (custody.Kept behaviour) system
      inputs := by
    apply throughout_of_eachStep _ kept admitted
    intro reached input next kept allowed stepped
    exact kept.step sound allowed stepped
  exact throughout inputs (List.prefix_refl inputs) final runs

theorem kept_new {shared : σ} (holds : custody.holds shared 0) :
    custody.Kept behaviour (System.new shared) :=
  ⟨System.numbered_new shared, 0, holds, fun _ => rfl⟩

theorem carries_zero {mode : Mode}
    (each : ∀ task ∈ tasks, custody.Keeps behaviour mode task.id (custody.settled task.id)
      task.current 0) : custody.Carries behaviour mode tasks 0 := by
  induction tasks with
  | nil => exact rfl
  | cons task rest induction =>
    refine ⟨0, 0, ⟨each task List.mem_cons_self, ?_⟩, ?_, (add_zero 0).symm⟩
    · exact marked_of_unmarked (map_zero _)
    · exact induction fun other member => each other (List.mem_cons_of_mem _ member)

/-- Futures that are in progress without a resource. -/
theorem kept_zero (numbered : system.Numbered) (holds : custody.holds system.shared 0)
    (each : ∀ mode, ∀ task ∈ system.tasks mode,
      custody.Keeps behaviour mode task.id (custody.settled task.id) task.current 0) :
    custody.Kept behaviour system :=
  ⟨numbered, 0, holds, fun mode => carries_zero (each mode)⟩

end Custody

end YedMQ.Semantics
