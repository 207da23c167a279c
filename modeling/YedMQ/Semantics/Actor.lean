import YedMQ.Semantics.Future
import YedMQ.Semantics.Run

/-! # Actors and their futures

An actor handles its messages one at a time and starts futures while it does so. The
futures of an actor are of three kinds. Those that it waits for stand on a stack: while
there is one, only the last of them is polled, and the actor handles no message. The
futures that it spawns are polled in between, when there is nothing to wait for. Detached
futures run on their own. When a future is done, the actor handles its result like a
message.

Polls of different futures interleave at single operations. A task keeps the operations
that it has performed, with their answers.
-/

namespace YedMQ.Semantics

open Future

variable {Op : Type} {Answer Choice : Op → Type} {σ κ ε : Type}

inductive Mode where
  | wait
  | spawn
  | detach
deriving DecidableEq, Repr

structure Start (Answer : Op → Type) (κ : Type) where
  mode : Mode
  future : Future Answer κ

/-- A future that was started: what it was, what it has performed, and what is left. -/
structure Task (Answer : Op → Type) (κ : Type) where
  id : Nat
  program : Future Answer κ
  events : List (Event Answer)
  current : Future Answer κ
  follows : Follows program events current

namespace Task

def start (id : Nat) (program : Future Answer κ) : Task Answer κ where
  id := id
  program := program
  events := []
  current := program
  follows := .refl program

def resume (task : Task Answer κ) {op : Op} {rest : Answer op → Future Answer κ}
    (suspended : task.current = .await op rest) (answer : Answer op) : Task Answer κ where
  id := task.id
  program := task.program
  events := task.events ++ [⟨op, answer⟩]
  current := rest answer
  follows := .step answer (suspended ▸ task.follows)

end Task

/-- What the futures of an actor do to the state that they share with it, and what the
actor does with messages and with the results of its futures. -/
structure Behaviour (Answer Choice : Op → Type) (σ κ ε : Type) where
  perform : Nat → σ → (op : Op) → Choice op → Option (σ × Answer op)
  /-- A future is polled and has to wait for the operation. -/
  park : Nat → σ → Op → Option σ
  complete : Nat → κ → σ → σ × List (Start Answer κ)
  receive : σ → Option (σ × List (Start Answer κ))
  environment : σ → ε → Option σ
  running : σ → Bool

/-- The state that the actor shares with its futures, and those of each kind that are not
finished. The waiting ones are a stack with its top first. -/
structure System (Answer : Op → Type) (σ κ : Type) where
  shared : σ
  tasks : Mode → List (Task Answer κ)
  finished : List (Task Answer κ)
  nextId : Nat

/-- Where a task stands. -/
structure Place where
  mode : Mode
  index : Nat
deriving DecidableEq, Repr

inductive ActorInput (Choice : Op → Type) (ε : Type) where
  | receive
  | poll (place : Place) (choose : (op : Op) → Choice op)
  | park (place : Place)
  | finish (place : Place)
  | environment (event : ε)

def ActorInput.isOwn : ActorInput Choice ε → Bool
  | .environment _ => false
  | _ => true

namespace System

def new (shared : σ) : System Answer σ κ where
  shared := shared
  tasks := fun _ => []
  finished := []
  nextId := 0

variable (system : System Answer σ κ)

def Idle : Prop :=
  ∀ mode, system.tasks mode = []

def setShared (shared : σ) : System Answer σ κ :=
  { system with shared := shared }

def setTasks (mode : Mode) (tasks : List (Task Answer κ)) :
    System Answer σ κ :=
  { system with tasks := Function.update system.tasks mode tasks }

def start (start : Start Answer κ) : System Answer σ κ :=
  let task := Task.start system.nextId start.future
  { system.setTasks start.mode (match start.mode with
        | .wait => task :: system.tasks .wait
        | mode => system.tasks mode ++ [task]) with
    nextId := system.nextId + 1 }

def startAll (starts : List (Start Answer κ)) :
    System Answer σ κ :=
  starts.foldl start system

variable (behaviour : Behaviour Answer Choice σ κ ε)
variable (system : System Answer σ κ)

/-- The top of the stack is polled while the actor runs, spawned futures while there is
nothing to wait for, and detached ones always. -/
def mayPoll : Place → Bool
  | ⟨.wait, index⟩ => behaviour.running system.shared && index == 0
  | ⟨.spawn, _⟩ => behaviour.running system.shared && (system.tasks .wait).isEmpty
  | ⟨.detach, _⟩ => true

def taskAt (place : Place) : Option (Task Answer κ) :=
  if system.mayPoll behaviour place then (system.tasks place.mode)[place.index]? else none

def poll (place : Place) (choose : (op : Op) → Choice op) (task : Task Answer κ) :
    Option (System Answer σ κ) :=
  match suspended : task.current with
  | .done _ => none
  | .await op _ =>
    (behaviour.perform task.id system.shared op (choose op)).map fun (shared, answer) =>
      (system.setTasks place.mode ((system.tasks place.mode).set place.index
        (task.resume suspended answer))).setShared shared

def park (task : Task Answer κ) : Option (System Answer σ κ) :=
  match task.current with
  | .done _ => none
  | .await op _ =>
    (behaviour.park task.id system.shared op).map fun shared => system.setShared shared

def finish (place : Place) (task : Task Answer κ) : Option (System Answer σ κ) :=
  match task.current with
  | .await _ _ => none
  | .done value =>
    let (shared, starts) := behaviour.complete task.id value system.shared
    let dropped := system.setTasks place.mode ((system.tasks place.mode).eraseIdx place.index)
    some ({ dropped with
      shared := shared
      finished := task :: dropped.finished }.startAll starts)

def step : ActorInput Choice ε → Option (System Answer σ κ)
  | .receive =>
    if behaviour.running system.shared && (system.tasks .wait).isEmpty then
      (behaviour.receive system.shared).map fun (shared, starts) =>
        (system.setShared shared).startAll starts
    else
      none
  | .poll place choose =>
    (system.taskAt behaviour place).bind fun task =>
      system.poll behaviour place choose task
  | .park place => (system.taskAt behaviour place).bind fun task => system.park behaviour task
  | .finish place =>
    (system.taskAt behaviour place).bind fun task => system.finish behaviour place task
  | .environment event =>
    (behaviour.environment system.shared event).map fun shared => system.setShared shared

/-! ## What a step does -/

variable {behaviour : Behaviour Answer Choice σ κ ε} {system next : System Answer σ κ}

@[simp] theorem tasks_setShared (system : System Answer σ κ) (shared : σ) :
    (system.setShared shared).tasks = system.tasks := rfl

@[simp] theorem tasks_setTasks_self (system : System Answer σ κ) (mode : Mode)
    (tasks : List (Task Answer κ)) : (system.setTasks mode tasks).tasks mode = tasks :=
  Function.update_self _ _ _

variable {mode : Mode}

theorem tasks_setTasks_of_ne (system : System Answer σ κ) {other : Mode} (different : other ≠ mode)
    (tasks : List (Task Answer κ)) :
    (system.setTasks mode tasks).tasks other = system.tasks other :=
  Function.update_of_ne different _ _

structure Turn (behaviour : Behaviour Answer Choice σ κ ε) (system : System Answer σ κ)
    (place : Place) (before : List (Task Answer κ)) (task : Task Answer κ)
    (after : List (Task Answer κ)) : Prop where
  listed : system.tasks place.mode = before ++ task :: after
  index : place.index = before.length
  top : place.mode = .wait → before = []
  alone : place.mode = .spawn → system.tasks .wait = []
  running : place.mode ≠ .detach → behaviour.running system.shared = true

variable {place : Place} {task : Task Answer κ}

theorem exists_turn (found : system.taskAt behaviour place = some task) :
    ∃ before after, Turn behaviour system place before task after := by
  rw [taskAt] at found
  split at found
  · rename_i may
    rcases List.getElem?_eq_some_iff.mp found with ⟨bound, read⟩
    refine ⟨(system.tasks place.mode).take place.index,
      (system.tasks place.mode).drop (place.index + 1), ?_, ?_, ?_, ?_, ?_⟩
    · rw [← read, List.getElem_cons_drop, List.take_append_drop]
    · rw [List.length_take, Nat.min_eq_left (Nat.le_of_lt bound)]
    · intro waits
      rcases place with ⟨mode, index⟩
      subst waits
      simp only [mayPoll, Bool.and_eq_true, beq_iff_eq] at may
      rw [may.2, List.take_zero]
    · intro spawns
      rcases place with ⟨mode, index⟩
      subst spawns
      simp only [mayPoll, Bool.and_eq_true, List.isEmpty_iff] at may
      exact may.2
    · intro attached
      rcases place with ⟨mode, _⟩
      cases mode with
      | wait | spawn =>
        simp only [mayPoll, Bool.and_eq_true] at may
        exact may.1
      | detach => exact absurd rfl attached
  · cases found

variable {before after : List (Task Answer κ)} {member : Task Answer κ}

variable (turn : Turn behaviour system place before task after)

include turn

theorem Turn.set (other : Task Answer κ) :
    (system.tasks place.mode).set place.index other = before ++ other :: after := by
  rw [turn.listed, turn.index, List.set_append_right _ _ (Nat.le_refl _), Nat.sub_self]
  rfl

theorem Turn.eraseIdx : (system.tasks place.mode).eraseIdx place.index = before ++ after := by
  rw [turn.listed, turn.index, List.eraseIdx_append_of_length_le (Nat.le_refl _), Nat.sub_self]
  rfl

theorem Turn.mem : task ∈ system.tasks place.mode := by
  rw [turn.listed]
  exact List.mem_append_right _ List.mem_cons_self

/-- The tasks after the one whose turn it is has made room for others. -/
theorem Turn.tasks_change (others : List (Task Answer κ))
    (listed : member ∈ (system.setTasks place.mode (before ++ (others ++ after))).tasks mode) :
    member ∈ system.tasks mode ∨ mode = place.mode ∧ member ∈ others := by
  rcases eq_or_ne mode place.mode with same | different
  · subst same
    rw [tasks_setTasks_self, List.mem_append, List.mem_append] at listed
    rw [turn.listed, List.mem_append, List.mem_cons]
    rcases listed with first | new | last
    · exact .inl (.inl first)
    · exact .inr ⟨rfl, new⟩
    · exact .inl (.inr (.inr last))
  · rw [tasks_setTasks_of_ne system different] at listed
    exact .inl listed

theorem Turn.tasks_replace {other : Task Answer κ}
    (listed : member ∈ (system.setTasks place.mode (before ++ other :: after)).tasks mode) :
    member ∈ system.tasks mode ∨ mode = place.mode ∧ member = other := by
  rw [← List.mem_singleton (a := member)]
  exact turn.tasks_change [other] listed

theorem Turn.tasks_drop
    (listed : member ∈ (system.setTasks place.mode (before ++ after)).tasks mode) :
    member ∈ system.tasks mode :=
  (turn.tasks_change [] listed).resolve_right fun new => nomatch new.2

theorem Turn.tasks_keep (others : List (Task Answer κ)) (listed : member ∈ system.tasks mode) :
    member = task ∨
      member ∈ (system.setTasks place.mode (before ++ (others ++ after))).tasks mode := by
  rcases eq_or_ne mode place.mode with same | different
  · subst same
    rw [turn.listed, List.mem_append, List.mem_cons] at listed
    rw [tasks_setTasks_self, List.mem_append, List.mem_append]
    rcases listed with first | here | last
    · exact .inr (.inl first)
    · exact .inl here
    · exact .inr (.inr (.inr last))
  · rw [tasks_setTasks_of_ne system different]
    exact .inr listed

omit turn

theorem step_receive (stepped : system.step behaviour .receive = some next) :
    ∃ shared starts, behaviour.running system.shared = true ∧ system.tasks .wait = [] ∧
      behaviour.receive system.shared = some (shared, starts) ∧
      next = (system.setShared shared).startAll starts := by
  simp only [step] at stepped
  split at stepped
  · rename_i ready
    simp only [Bool.and_eq_true, List.isEmpty_iff] at ready
    rcases Option.map_eq_some_iff.mp stepped with ⟨⟨shared, starts⟩, received, started⟩
    exact ⟨shared, starts, ready.1, ready.2, received, started.symm⟩
  · cases stepped

theorem step_poll {choose : (op : Op) → Choice op}
    (stepped : system.step behaviour (.poll place choose) = some next) :
    ∃ before task after op resume shared answer, ∃ suspended : task.current = .await op resume,
        system.taskAt behaviour place = some task ∧
        Turn behaviour system place before task after ∧
        behaviour.perform task.id system.shared op (choose op) = some (shared, answer) ∧
        next = (system.setTasks place.mode
          (before ++ task.resume suspended answer :: after)).setShared shared := by
  rcases Option.bind_eq_some_iff.mp stepped with ⟨task, found, polled⟩
  rcases exists_turn found with ⟨before, after, turn⟩
  rw [poll] at polled
  split at polled
  · cases polled
  · rename_i op resume suspended
    rcases Option.map_eq_some_iff.mp polled with ⟨⟨shared, answer⟩, performed, resumed⟩
    simp only [turn.set] at resumed
    exact ⟨before, task, after, op, resume, shared, answer, suspended, found, turn, performed,
      resumed.symm⟩

theorem step_park (stepped : system.step behaviour (.park place) = some next) :
    ∃ before task after op resume shared, task.current = .await op resume ∧
      Turn behaviour system place before task after ∧
      behaviour.park task.id system.shared op = some shared ∧
      next = system.setShared shared := by
  rcases Option.bind_eq_some_iff.mp stepped with ⟨task, found, parked⟩
  rcases exists_turn found with ⟨before, after, turn⟩
  rw [park] at parked
  split at parked
  · cases parked
  · rename_i op resume suspended
    rcases Option.map_eq_some_iff.mp parked with ⟨shared, changed, set⟩
    exact ⟨before, task, after, op, resume, shared, suspended, turn, changed, set.symm⟩

theorem step_finish (stepped : system.step behaviour (.finish place) = some next) :
    ∃ before task after value shared starts, task.current = .done value ∧
      system.taskAt behaviour place = some task ∧
      Turn behaviour system place before task after ∧
      behaviour.complete task.id value system.shared = (shared, starts) ∧
      next = { system.setTasks place.mode (before ++ after) with
        shared := shared
        finished := task :: system.finished }.startAll starts := by
  rcases Option.bind_eq_some_iff.mp stepped with ⟨task, found, finished⟩
  rcases exists_turn found with ⟨before, after, turn⟩
  rw [finish] at finished
  split at finished
  · cases finished
  · rename_i value current
    rw [turn.eraseIdx] at finished
    exact ⟨before, task, after, value, _, _, current, found, turn, rfl,
      (Option.some.inj finished).symm⟩

theorem step_environment {event : ε}
    (stepped : system.step behaviour (.environment event) = some next) :
    ∃ shared, behaviour.environment system.shared event = some shared ∧
      next = system.setShared shared := by
  rcases Option.map_eq_some_iff.mp stepped with ⟨shared, changed, set⟩
  exact ⟨shared, changed, set.symm⟩

@[simp] theorem shared_startAll (system : System Answer σ κ) (starts : List (Start Answer κ)) :
    (system.startAll starts).shared = system.shared := by
  induction starts generalizing system with
  | nil => rfl
  | cons start rest induction => exact induction (system.start start)

theorem mem_start {start : Start Answer κ} : task ∈ (system.start start).tasks mode ↔
    task ∈ system.tasks mode ∨
      start.mode = mode ∧ task = Task.start system.nextId start.future := by
  rcases start with ⟨startMode, future⟩
  rcases eq_or_ne mode startMode with same | different
  · subst same
    change task ∈ Function.update system.tasks mode _ mode ↔ _
    rw [Function.update_self, and_iff_right rfl]
    cases mode with
    | wait => rw [List.mem_cons, or_comm]
    | spawn | detach => rw [List.mem_append, List.mem_singleton]
  · have kept : (system.start ⟨startMode, future⟩).tasks mode = system.tasks mode :=
      Function.update_of_ne different _ _
    simp [kept, different.symm]

theorem nextId_le_startAll (system : System Answer σ κ) (starts : List (Start Answer κ)) :
    system.nextId ≤ (system.startAll starts).nextId := by
  induction starts generalizing system with
  | nil => exact Nat.le_refl _
  | cons start rest induction =>
    have later : system.nextId + 1 ≤ ((system.start start).startAll rest).nextId :=
      induction (system.start start)
    exact Nat.le_of_succ_le later

variable {starts : List (Start Answer κ)}

theorem mem_startAll (member : task ∈ (system.startAll starts).tasks mode) :
    task ∈ system.tasks mode ∨ ∃ start ∈ starts, ∃ id, system.nextId ≤ id ∧
      start.mode = mode ∧ task = Task.start id start.future := by
  induction starts generalizing system with
  | nil => exact .inl member
  | cons start rest induction =>
    rcases induction member with earlier | ⟨other, listed, id, bound, same, new⟩
    · rcases mem_start.mp earlier with old | ⟨same, new⟩
      · exact .inl old
      · exact .inr ⟨start, List.mem_cons_self, system.nextId, Nat.le_refl _, same, new⟩
    · have later : system.nextId + 1 ≤ id := bound
      exact .inr ⟨other, List.mem_cons_of_mem _ listed, id, Nat.le_of_succ_le later, same, new⟩

/-! ## The programs of the tasks -/

/-- Every future that was ever started is one of those that `Program` lists, and those that
are finished are done. -/
structure Programs (Program : Start Answer κ → Prop) (system : System Answer σ κ) : Prop where
  live : ∀ mode, ∀ task ∈ system.tasks mode, Program ⟨mode, task.program⟩
  finished : ∀ task ∈ system.finished, ∃ mode value,
    Program ⟨mode, task.program⟩ ∧ task.current = .done value

variable {Program : Start Answer κ → Prop}

theorem programs_new (shared : σ) : (new shared : System Answer σ κ).Programs Program where
  live := by
    intro mode task member
    cases member
  finished := by
    intro task member
    cases member

theorem finished_startAll (system : System Answer σ κ) (starts : List (Start Answer κ)) :
    (system.startAll starts).finished = system.finished := by
  induction starts generalizing system with
  | nil => rfl
  | cons start rest induction => exact induction (system.start start)

theorem Programs.startAll (programs : system.Programs Program)
    (listed : ∀ start ∈ starts, Program start) :
    (system.startAll starts).Programs Program where
  live := by
    intro mode task member
    rcases mem_startAll member with old | ⟨start, new, _, _, same, built⟩
    · exact programs.live mode task old
    · subst same built
      exact listed start new
  finished := by
    rw [finished_startAll]
    exact programs.finished

variable {input : ActorInput Choice ε}

theorem Programs.step (programs : system.Programs Program)
    (receives : ∀ {shared starts}, behaviour.receive system.shared = some (shared, starts) →
      ∀ start ∈ starts, Program start)
    (completes : ∀ id value, ∀ start ∈ (behaviour.complete id value system.shared).2,
      Program start) (stepped : system.step behaviour input = some next) :
    next.Programs Program := by
  cases input with
  | receive =>
    rcases step_receive stepped with ⟨shared, starts, _, _, received, result⟩
    subst result
    apply Programs.startAll _ (receives received)
    exact ⟨programs.live, programs.finished⟩
  | poll place =>
    rcases step_poll stepped with ⟨before, task, after, _, _, shared, _, _, _, turn, _, result⟩
    subst result
    refine ⟨?_, programs.finished⟩
    intro mode other member
    rcases turn.tasks_replace member with old | ⟨same, new⟩
    · exact programs.live mode other old
    · subst same new
      exact programs.live place.mode task turn.mem
  | finish place =>
    rcases step_finish stepped with ⟨_, task, _, value, shared, _, ended, _,
      turn, completed, result⟩
    have known := completes task.id value
    rw [completed] at known
    subst result
    apply Programs.startAll _ known
    constructor
    · intro mode other member
      exact programs.live mode other (turn.tasks_drop member)
    · intro other member
      rcases List.mem_cons.mp member with new | old
      · subst new
        exact ⟨place.mode, value, programs.live place.mode other turn.mem, ended⟩
      · exact programs.finished other old
  | park =>
    rcases step_park stepped with ⟨_, _, _, _, _, _, _, _, _, result⟩
    subst result
    exact ⟨programs.live, programs.finished⟩
  | environment =>
    rcases step_environment stepped with ⟨_, _, result⟩
    subst result
    exact ⟨programs.live, programs.finished⟩

/-! ## The numbers of the tasks -/

def ids (system : System Answer σ κ) (mode : Mode) : List Nat :=
  (system.tasks mode).map Task.id

/-- No two tasks share a number, and no number is to be given again. -/
structure Numbered (system : System Answer σ κ) : Prop where
  below : ∀ mode, ∀ id ∈ system.ids mode, id < system.nextId
  apart : ∀ mode other, ∀ id ∈ system.ids mode, id ∈ system.ids other → mode = other
  distinct : ∀ mode, (system.ids mode).Nodup

theorem numbered_new (shared : σ) : (new shared : System Answer σ κ).Numbered where
  below := by
    intro mode id member
    cases member
  apart := by
    intro mode other id member
    cases member
  distinct := by
    intro mode
    exact List.nodup_nil

theorem Numbered.of_sublist (numbered : system.Numbered)
    (fewer : ∀ mode, (next.ids mode).Sublist (system.ids mode))
    (same : next.nextId = system.nextId) : next.Numbered where
  below := by
    intro mode id member
    rw [same]
    exact numbered.below mode id ((fewer mode).mem member)
  apart := by
    intro mode other id member otherMember
    exact numbered.apart mode other id ((fewer mode).mem member) ((fewer other).mem otherMember)
  distinct := by
    intro mode
    exact (fewer mode).nodup (numbered.distinct mode)

/-- A number from before futures were started belongs to a task from before. -/
theorem mem_ids_of_startAll {id : Nat} (member : id ∈ (system.startAll starts).ids mode)
    (bound : id < system.nextId) :
    id ∈ system.ids mode := by
  rcases List.mem_map.mp member with ⟨task, listed, named⟩
  rcases mem_startAll listed with old | ⟨_, _, number, _, _, new⟩
  · exact List.mem_map.mpr ⟨task, old, named⟩
  · subst new
    have same : number = id := named
    omega

theorem mem_ids_start {start : Start Answer κ} {id : Nat} :
    id ∈ (system.start start).ids mode ↔
      id ∈ system.ids mode ∨ mode = start.mode ∧ id = system.nextId := by
  simp only [ids, List.mem_map, mem_start]
  constructor
  · rintro ⟨task, old | ⟨same, new⟩, named⟩
    · exact .inl ⟨task, old, named⟩
    · subst new
      exact .inr ⟨same.symm, named.symm⟩
  · rintro (⟨task, old, named⟩ | ⟨same, named⟩)
    · exact ⟨task, .inl old, named⟩
    · exact ⟨_, .inr ⟨same.symm, rfl⟩, named.symm⟩

theorem Numbered.start (numbered : system.Numbered) (start : Start Answer κ) :
    (system.start start).Numbered where
  below := by
    intro mode id member
    change id < system.nextId + 1
    rcases mem_ids_start.mp member with old | ⟨_, new⟩
    · have bound := numbered.below mode id old
      omega
    · omega
  apart := by
    intro mode other id member otherMember
    rcases mem_ids_start.mp member with old | ⟨same, _⟩ <;>
      rcases mem_ids_start.mp otherMember with otherOld | ⟨otherSame, _⟩
    · exact numbered.apart mode other id old otherOld
    · have bound := numbered.below mode id old
      omega
    · have bound := numbered.below other id otherOld
      omega
    · rw [same, otherSame]
  distinct := by
    intro mode
    rcases start with ⟨startMode, future⟩
    rcases eq_or_ne mode startMode with same | different
    · subst same
      have fresh : system.nextId ∉ system.ids mode := by
        intro member
        exact Nat.lt_irrefl _ (numbered.below mode _ member)
      have known := numbered.distinct mode
      change ((Function.update system.tasks mode _ mode).map Task.id).Nodup
      rw [Function.update_self]
      cases mode with
      | wait => exact List.nodup_cons.mpr ⟨fresh, known⟩
      | spawn | detach =>
        rw [List.map_append, List.perm_append_comm.nodup_iff]
        exact List.nodup_cons.mpr ⟨fresh, known⟩
    · have kept : (system.start ⟨startMode, future⟩).tasks mode = system.tasks mode :=
        Function.update_of_ne different _ _
      rw [ids, kept]
      exact numbered.distinct mode

theorem Numbered.startAll (numbered : system.Numbered) (starts : List (Start Answer κ)) :
    (system.startAll starts).Numbered := by
  induction starts generalizing system with
  | nil => exact numbered
  | cons start rest induction => exact induction (numbered.start start)

include turn

theorem Turn.ids_resume {op : Op}
    {resume : Answer op → Future Answer κ} (suspended : task.current = .await op resume)
    (answer : Answer op) (shared : σ) (mode : Mode) :
    ((system.setTasks place.mode
      (before ++ task.resume suspended answer :: after)).setShared shared).ids mode =
        system.ids mode := by
  rcases eq_or_ne mode place.mode with same | different
  · subst same
    rw [ids, ids, tasks_setShared, tasks_setTasks_self, turn.listed]
    simp only [List.map_append]
    rfl
  · rw [ids, ids, tasks_setShared, tasks_setTasks_of_ne system different]

/-- The numbers of the tasks after one of them is gone. -/
theorem Turn.ids_drop (shared : σ) (finished : List (Task Answer κ)) (mode : Mode) :
    (System.ids { system.setTasks place.mode (before ++ after) with
      shared := shared, finished := finished } mode).Sublist (system.ids mode) := by
  rcases eq_or_ne mode place.mode with same | different
  · subst same
    change (((system.setTasks place.mode (before ++ after)).tasks place.mode).map Task.id).Sublist _
    rw [tasks_setTasks_self, ids, turn.listed]
    apply List.Sublist.map
    exact (List.Sublist.refl before).append (List.sublist_cons_self task after)
  · change (((system.setTasks place.mode (before ++ after)).tasks mode).map Task.id).Sublist _
    rw [tasks_setTasks_of_ne system different]
    exact List.Sublist.refl _

theorem Turn.mem_ids :
    task.id ∈ system.ids place.mode :=
  List.mem_map_of_mem turn.mem

theorem Turn.notMem_ids_drop (numbered : system.Numbered) (shared : σ)
    (finished : List (Task Answer κ)) : task.id ∉ System.ids
      { system.setTasks place.mode (before ++ after) with
        shared := shared, finished := finished } mode := by
  intro member
  have same := numbered.apart mode place.mode task.id
    ((turn.ids_drop shared finished mode).mem member) turn.mem_ids
  subst same
  have distinct := numbered.distinct place.mode
  rw [ids, turn.listed, List.map_append, List.map_cons] at distinct
  change task.id ∈ ((system.setTasks place.mode (before ++ after)).tasks place.mode).map Task.id
    at member
  rw [tasks_setTasks_self, List.map_append] at member
  exact (List.nodup_cons.mp (List.perm_middle.nodup_iff.mp distinct)).1 member

omit turn

/-- A step drops tasks and starts others. -/
theorem step_ids (stepped : system.step behaviour input = some next) :
    ∃ middle starts, next = startAll middle starts ∧ middle.nextId = system.nextId ∧
      ∀ mode, (middle.ids mode).Sublist (system.ids mode) := by
  cases input with
  | receive =>
    rcases step_receive stepped with ⟨shared, starts, _, _, _, result⟩
    exact ⟨_, starts, result, rfl, fun _ => List.Sublist.refl _⟩
  | poll =>
    rcases step_poll stepped with ⟨before, task, after, _, _, shared, _, _, _, turn, _, result⟩
    refine ⟨next, [], rfl, result ▸ rfl, fun mode => ?_⟩
    rw [result, turn.ids_resume]
  | finish =>
    rcases step_finish stepped with ⟨_, _, _, _, shared, starts, _, _, turn, _, result⟩
    exact ⟨_, starts, result, rfl, turn.ids_drop shared _⟩
  | park =>
    rcases step_park stepped with ⟨_, _, _, _, _, _, _, _, _, result⟩
    exact ⟨_, [], result, rfl, fun _ => List.Sublist.refl _⟩
  | environment =>
    rcases step_environment stepped with ⟨_, _, result⟩
    exact ⟨_, [], result, rfl, fun _ => List.Sublist.refl _⟩

theorem Numbered.step (numbered : system.Numbered)
    (stepped : system.step behaviour input = some next) : next.Numbered := by
  rcases step_ids stepped with ⟨middle, starts, rfl, same, fewer⟩
  exact (numbered.of_sublist fewer same).startAll starts

theorem nextId_le_step (stepped : system.step behaviour input = some next) :
    system.nextId ≤ next.nextId := by
  rcases step_ids stepped with ⟨middle, starts, rfl, same, _⟩
  rw [← same]
  exact nextId_le_startAll middle starts

/-- A number that was given before a step belongs to a task from before. -/
theorem mem_ids_of_step (stepped : system.step behaviour input = some next) {id : Nat}
    (member : id ∈ next.ids mode) (bound : id < system.nextId) : id ∈ system.ids mode := by
  rcases step_ids stepped with ⟨middle, starts, rfl, same, fewer⟩
  rw [← same] at bound
  exact (fewer mode).mem (mem_ids_of_startAll member bound)

end System

end YedMQ.Semantics
