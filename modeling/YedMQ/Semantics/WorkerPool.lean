import YedMQ.Semantics.Future
import YedMQ.Semantics.Run

/-! # Pools of workers

Any number of workers run futures over one shared state, and their operations interleave.
An operation may start further workers, and so may an event of the environment, which may
also end workers at any point of their futures.

What a worker has found out about the shared state is only of use to it if the others
leave it true. A discipline says what each kind of worker relies on. A worker respects the
discipline if each of its operations keeps the invariant and what the other kinds rely on,
given that they have done the same in between. A discipline also says what is true while
no worker of a kind runs, which is what the next one can build on.
-/

namespace YedMQ.Semantics

open Future

variable {Op : Type} {Answer Choice : Op → Type} {σ κ ω ε : Type}

structure Worker (Answer : Op → Type) (κ ω : Type) where
  kind : ω
  future : Future Answer κ

/-- What the workers and the environment do to the shared state. -/
structure WorkerBehaviour (Answer Choice : Op → Type) (σ κ ω ε : Type) where
  perform : ω → σ → (op : Op) → Choice op → Option (σ × Answer op × List (Worker Answer κ ω))
  finish : ω → κ → σ → σ
  environment : σ → ε → Option (σ × List (Worker Answer κ ω))
  survives : ε → ω → Bool

structure Pool (Answer : Op → Type) (σ κ ω : Type) where
  shared : σ
  workers : Nat → Option (Worker Answer κ ω)
  nextId : Nat

inductive PoolInput (Choice : Op → Type) (ε : Type) where
  | poll (id : Nat) (choose : (op : Op) → Choice op)
  | finish (id : Nat)
  | environment (event : ε)

namespace Pool

def new (shared : σ) : Pool Answer σ κ ω where
  shared := shared
  workers := fun _ => none
  nextId := 0

variable (pool : Pool Answer σ κ ω)

def startAll (starts : List (Worker Answer κ ω)) : Pool Answer σ κ ω where
  shared := pool.shared
  workers := fun id => if id < pool.nextId then pool.workers id else starts[id - pool.nextId]?
  nextId := pool.nextId + starts.length

def advance (id : Nat) (shared : σ) (worker : Option (Worker Answer κ ω)) : Pool Answer σ κ ω where
  shared := shared
  workers := Function.update pool.workers id worker
  nextId := pool.nextId

def interrupt (shared : σ) (survives : ω → Bool) : Pool Answer σ κ ω where
  shared := shared
  workers := fun id => (pool.workers id).filter fun worker => survives worker.kind
  nextId := pool.nextId

def step (behaviour : WorkerBehaviour Answer Choice σ κ ω ε) (pool : Pool Answer σ κ ω) :
    PoolInput Choice ε → Option (Pool Answer σ κ ω)
  | .poll id choose =>
    match pool.workers id with
    | some ⟨kind, .await op resume⟩ =>
      (behaviour.perform kind pool.shared op (choose op)).map fun (shared, answer, starts) =>
        (pool.advance id shared (some ⟨kind, resume answer⟩)).startAll starts
    | _ => none
  | .finish id =>
    match pool.workers id with
    | some ⟨kind, .done value⟩ =>
      some (pool.advance id (behaviour.finish kind value pool.shared) none)
    | _ => none
  | .environment event =>
    (behaviour.environment pool.shared event).map fun (shared, starts) =>
      (pool.interrupt shared (behaviour.survives event)).startAll starts

/-! ## What a step does -/

variable {behaviour : WorkerBehaviour Answer Choice σ κ ω ε} {pool next : Pool Answer σ κ ω}

variable {starts : List (Worker Answer κ ω)} {id : Nat} {worker : Worker Answer κ ω}

theorem of_workers_startAll (present : (pool.startAll starts).workers id = some worker) :
    (id < pool.nextId ∧ pool.workers id = some worker) ∨
      (pool.nextId ≤ id ∧ starts[id - pool.nextId]? = some worker) := by
  by_cases earlier : id < pool.nextId
  · left
    simp only [startAll, earlier] at present
    exact ⟨earlier, present⟩
  · right
    simp only [startAll, earlier] at present
    exact ⟨Nat.le_of_not_lt earlier, present⟩

theorem of_workers_advance {other : Nat} {shared : σ} {changed : Option (Worker Answer κ ω)}
    (present : (pool.advance id shared changed).workers other = some worker) :
    (other = id ∧ changed = some worker) ∨ (other ≠ id ∧ pool.workers other = some worker) := by
  by_cases same : other = id
  · left
    subst same
    simp only [advance, Function.update_self] at present
    exact ⟨rfl, present⟩
  · right
    simp only [advance, Function.update_of_ne same] at present
    exact ⟨same, present⟩

theorem of_workers_interrupt {shared : σ} {survives : ω → Bool}
    (present : (pool.interrupt shared survives).workers id = some worker) :
    pool.workers id = some worker ∧ survives worker.kind = true := by
  exact Option.filter_eq_some_iff.mp present

theorem step_poll {choose : (op : Op) → Choice op}
    (stepped : step behaviour pool (.poll id choose) = some next) :
    ∃ (kind : ω) (op : Op) (resume : Answer op → Future Answer κ) (shared : σ)
      (answer : Answer op) (starts : List (Worker Answer κ ω)),
      pool.workers id = some ⟨kind, .await op resume⟩ ∧
      behaviour.perform kind pool.shared op (choose op) = some (shared, answer, starts) ∧
      next = (pool.advance id shared (some ⟨kind, resume answer⟩)).startAll starts := by
  simp only [step] at stepped
  split at stepped
  · rename_i kind op resume present
    rcases Option.map_eq_some_iff.mp stepped with ⟨⟨shared, answer, starts⟩, performed, same⟩
    exact ⟨kind, op, resume, shared, answer, starts, present, performed, same.symm⟩
  · cases stepped

theorem step_finish (stepped : step behaviour pool (.finish id) = some next) :
    ∃ (kind : ω) (value : κ), pool.workers id = some ⟨kind, .done value⟩ ∧
      next = pool.advance id (behaviour.finish kind value pool.shared) none := by
  simp only [step] at stepped
  split at stepped
  · rename_i kind value present
    cases stepped
    exact ⟨kind, value, present, rfl⟩
  · cases stepped

theorem step_environment {event : ε}
    (stepped : step behaviour pool (.environment event) = some next) :
    ∃ (shared : σ) (starts : List (Worker Answer κ ω)),
      behaviour.environment pool.shared event = some (shared, starts) ∧
      next = (pool.interrupt shared (behaviour.survives event)).startAll starts := by
  rcases Option.map_eq_some_iff.mp stepped with ⟨⟨shared, starts⟩, happened, same⟩
  exact ⟨shared, starts, happened, same.symm⟩

def Together (Compatible : ω → ω → Prop) (pool : Pool Answer σ κ ω) : Prop :=
  ∀ first second one other, first ≠ second → pool.workers first = some one →
    pool.workers second = some other → Compatible one.kind other.kind

def Free (kind : ω) (pool : Pool Answer σ κ ω) : Prop :=
  ∀ id worker, pool.workers id = some worker → worker.kind ≠ kind

def vacant (kinds : ω → Bool) (pool : Pool Answer σ κ ω) : Bool :=
  (List.range pool.nextId).all fun id => (pool.workers id).all fun worker => !kinds worker.kind

theorem kind_of_vacant {kinds : ω → Bool}
    (bounded : ∀ id worker, pool.workers id = some worker → id < pool.nextId)
    (vacant : pool.vacant kinds = true) (present : pool.workers id = some worker) :
    kinds worker.kind = false := by
  have earlier := List.mem_range.mpr (bounded id worker present)
  have none := List.all_eq_true.mp vacant id earlier
  rw [present, Option.all_some, Bool.not_eq_true'] at none
  exact none

theorem bounded_startAll (bounded : ∀ id worker, pool.workers id = some worker → id < pool.nextId)
    (id : Nat) (worker : Worker Answer κ ω)
    (present : (pool.startAll starts).workers id = some worker) :
    id < (pool.startAll starts).nextId := by
  rcases of_workers_startAll present with ⟨_, old⟩ | ⟨_, started⟩
  · exact Nat.lt_add_right _ (bounded id worker old)
  · have index := (List.getElem?_eq_some_iff.mp started).1
    simp only [startAll]
    omega

theorem Free.of_startAll {kind : ω} (free : Free kind (pool.startAll starts))
    (bounded : ∀ id worker, pool.workers id = some worker → id < pool.nextId) :
    Free kind pool := by
  intro id worker present
  apply free id worker
  simp only [startAll, bounded id worker present]
  exact present

section Together

variable {Compatible : ω → ω → Prop}

theorem together_new (shared : σ) : (new shared : Pool Answer σ κ ω).Together Compatible := by
  intro first second one other different present
  cases present

theorem Together.advance (together : pool.Together Compatible) {id : Nat} (shared : σ)
    {worker : Worker Answer κ ω} (changed : Option (Worker Answer κ ω))
    (present : pool.workers id = some worker)
    (same : ∀ new, changed = some new → new.kind = worker.kind) :
    (pool.advance id shared changed).Together Compatible := by
  intro first second one other different isOne isOther
  rcases of_workers_advance isOne with ⟨rfl, isChanged⟩ | ⟨_, isOld⟩
  · rcases of_workers_advance isOther with ⟨again, _⟩ | ⟨_, isOld⟩
    · exact absurd again.symm different
    · rw [same one isChanged]
      exact together first second worker other different present isOld
  · rcases of_workers_advance isOther with ⟨rfl, isChanged⟩ | ⟨_, isOther⟩
    · rw [same other isChanged]
      exact together first second one worker different isOld present
    · exact together first second one other different isOld isOther

theorem Together.interrupt (together : pool.Together Compatible) (shared : σ)
    (survives : ω → Bool) : (pool.interrupt shared survives).Together Compatible := by
  intro first second one other different isOne isOther
  exact together first second one other different (of_workers_interrupt isOne).1
    (of_workers_interrupt isOther).1

theorem Together.startAll (together : pool.Together Compatible)
    {starts : List (Worker Answer κ ω)} (atMostOne : starts.length ≤ 1)
    (fits : ∀ id worker, pool.workers id = some worker → ∀ start ∈ starts,
      Compatible worker.kind start.kind ∧ Compatible start.kind worker.kind) :
    (pool.startAll starts).Together Compatible := by
  intro first second one other different isOne isOther
  rcases of_workers_startAll isOne with ⟨_, oldOne⟩ | ⟨_, newOne⟩
  · rcases of_workers_startAll isOther with ⟨_, oldOther⟩ | ⟨_, newOther⟩
    · exact together first second one other different oldOne oldOther
    · exact (fits first one oldOne other (List.mem_of_getElem? newOther)).1
  · rcases of_workers_startAll isOther with ⟨_, oldOther⟩ | ⟨_, newOther⟩
    · exact (fits second other oldOther one (List.mem_of_getElem? newOne)).2
    · have firstIndex := (List.getElem?_eq_some_iff.mp newOne).1
      have secondIndex := (List.getElem?_eq_some_iff.mp newOther).1
      exact absurd (by omega) different

end Together

end Pool

/-! ## Disciplines -/

/-- What is always true of the shared state, what each kind of worker relies on the others
to do at most, what is true while no worker of a kind runs, which kinds may run at the same
time, which outcomes of operations and which events are reckoned with, and which workers
may be started. -/
structure Discipline (behaviour : WorkerBehaviour Answer Choice σ κ ω ε) where
  Holds : σ → Prop
  Relies : ω → σ → σ → Prop
  Rests : ω → σ → Prop
  Compatible : ω → ω → Prop
  Permits : ω → σ → (op : Op) → Choice op → Prop
  Admits : σ → ε → Prop
  Launches : Worker Answer κ ω → σ → Prop
  unchanged : ∀ kind state, Relies kind state state
  trans : ∀ kind first second third, Relies kind first second → Relies kind second third →
    Relies kind first third

namespace Discipline

variable {behaviour : WorkerBehaviour Answer Choice σ κ ω ε}

/-- The step keeps the invariant, what the other kinds rely on, and what is true while they
do not run. -/
structure Keeps (discipline : Discipline behaviour) (kind : ω) (before after : σ) : Prop where
  holds : discipline.Holds after
  others : ∀ other, discipline.Compatible kind other → discipline.Relies other before after
  rests : ∀ other, other ≠ kind → discipline.Rests other before → discipline.Rests other after

/-- From the state on, and whatever the others do that it relies on, a future of a worker
keeps the discipline. -/
def Respects (discipline : Discipline behaviour) (kind : ω) (state : σ) : Future Answer κ → Prop
  | .done value => ∀ current, discipline.Relies kind state current → discipline.Holds current →
      discipline.Keeps kind current (behaviour.finish kind value current) ∧
        discipline.Rests kind (behaviour.finish kind value current)
  | .await op resume => ∀ current, discipline.Relies kind state current →
      discipline.Holds current → ∀ choice after answer starts,
      discipline.Permits kind current op choice →
      behaviour.perform kind current op choice = some (after, answer, starts) →
      discipline.Keeps kind current after ∧ (∀ start ∈ starts, discipline.Launches start after) ∧
        discipline.Respects kind after (resume answer)

/-- Whatever the others do meanwhile, a worker keeps the discipline with every answer, knowing
what the answer tells. -/
def Continues (discipline : Discipline behaviour) (kind : ω) (state : σ) {α : Type}
    (next : α → Future Answer κ) (Tells : σ → α → Prop) : Prop :=
  ∀ answer after, discipline.Relies kind state after → Tells after answer →
    discipline.Respects kind after (next answer)

variable {discipline : Discipline behaviour} {kind : ω} {state : σ}

/-- A worker does not notice what it relies on the others to do. -/
theorem Respects.later {future : Future Answer κ} {next : σ}
    (respects : discipline.Respects kind state future)
    (relied : discipline.Relies kind state next) : discipline.Respects kind next future := by
  cases future with
  | done | await =>
    intro current more
    exact respects current (discipline.trans kind _ _ _ relied more)

/-- Every worker that may be started respects the discipline, and the events that are
reckoned with keep it. A worker that runs alone in its kind begins where the kind rests. -/
structure Sound (discipline : Discipline behaviour) : Prop where
  launched : ∀ start state, discipline.Holds state → discipline.Launches start state →
    (¬ discipline.Compatible start.kind start.kind → discipline.Rests start.kind state) →
    discipline.Respects start.kind state start.future
  event : ∀ state event after starts, discipline.Holds state → discipline.Admits state event →
    behaviour.environment state event = some (after, starts) →
    discipline.Holds after ∧
      (∀ kind, behaviour.survives event kind = true → discipline.Relies kind state after) ∧
      (∀ kind, (behaviour.survives event kind = true → discipline.Rests kind state) →
        discipline.Rests kind after) ∧
      ∀ start ∈ starts, discipline.Launches start after

/-- The outcome of the next operation of a worker, or the event, is reckoned with, and
afterwards the workers still go together. -/
structure Allows (discipline : Discipline behaviour) (pool : Pool Answer σ κ ω)
    (input : PoolInput Choice ε) : Prop where
  permits : ∀ id choose kind op resume, input = .poll id choose →
    pool.workers id = some ⟨kind, .await op resume⟩ →
    discipline.Permits kind pool.shared op (choose op)
  admits : ∀ event, input = .environment event → discipline.Admits pool.shared event
  together : ∀ next, Pool.step behaviour pool input = some next →
    next.Together discipline.Compatible

/-- The invariant holds, the workers go together and respect the discipline, and the kinds
that do not run rest. -/
structure Kept (discipline : Discipline behaviour) (pool : Pool Answer σ κ ω) : Prop where
  holds : discipline.Holds pool.shared
  together : pool.Together discipline.Compatible
  bounded : ∀ id worker, pool.workers id = some worker → id < pool.nextId
  rests : ∀ kind, pool.Free kind → discipline.Rests kind pool.shared
  respects : ∀ id worker, pool.workers id = some worker →
    discipline.Respects worker.kind pool.shared worker.future

variable {start : Worker Answer κ ω}

theorem kept_start {shared : σ} (holds : discipline.Holds shared)
    (rests : ∀ kind, discipline.Rests kind shared)
    (respects : discipline.Respects start.kind shared start.future) :
    discipline.Kept ((Pool.new shared).startAll [start]) where
  holds := holds
  together := by
    refine Pool.Together.startAll (Pool.together_new shared) (Nat.le_refl 1) ?_
    intro id worker present
    cases present
  bounded := by
    apply Pool.bounded_startAll
    intro id worker present
    cases present
  rests := fun kind _ => rests kind
  respects := by
    intro id worker present
    rcases Pool.of_workers_startAll present with ⟨_, old⟩ | ⟨_, started⟩
    · cases old
    · rw [List.mem_singleton.mp (List.mem_of_getElem? started)]
      exact respects

variable {pool next : Pool Answer σ κ ω}

variable {id : Nat}

/-- A step of one worker lets the others go on. -/
theorem Kept.others (kept : discipline.Kept pool) {worker : Worker Answer κ ω} {shared : σ}
    (present : pool.workers id = some worker)
    (keeps : discipline.Keeps worker.kind pool.shared shared) {other : Nat}
    {neighbour : Worker Answer κ ω} (different : other ≠ id)
    (beside : pool.workers other = some neighbour) :
    discipline.Respects neighbour.kind shared neighbour.future := by
  have compatible := kept.together id other worker neighbour different.symm present beside
  exact (kept.respects other neighbour beside).later (keeps.others neighbour.kind compatible)

/-- A worker that was started by a step and runs alone in its kind: nobody of the kind ran
before. -/
theorem free_of_started {before : Pool Answer σ κ ω} {starts : List (Worker Answer κ ω)}
    {Compatible : ω → ω → Prop} (together : (before.startAll starts).Together Compatible)
    (bounded : ∀ id worker, before.workers id = some worker → id < before.nextId)
    (later : before.nextId ≤ id) (started : starts[id - before.nextId]? = some start)
    (alone : ¬ Compatible start.kind start.kind) : before.Free start.kind := by
  intro other worker present same
  have earlier := bounded other worker present
  have one : (before.startAll starts).workers other = some worker := by
    simp only [Pool.startAll, earlier]
    exact present
  have two : (before.startAll starts).workers id = some start := by
    simp only [Pool.startAll, Nat.not_lt.mpr later]
    exact started
  have compatible := together other id worker start (by omega) one two
  rw [same] at compatible
  exact alone compatible

theorem Sound.step_poll (sound : discipline.Sound) (kept : discipline.Kept pool)
    {choose : (op : Op) → Choice op} (allowed : discipline.Allows pool (.poll id choose))
    (stepped : Pool.step behaviour pool (.poll id choose) = some next) :
    discipline.Kept next := by
  have together := allowed.together next stepped
  rcases Pool.step_poll stepped with ⟨kind, op, resume, shared, answer, starts, present,
    performed, rfl⟩
  have permitted := allowed.permits id choose kind op resume rfl present
  have respects := kept.respects id _ present pool.shared
    (discipline.unchanged kind pool.shared) kept.holds (choose op) shared answer starts permitted
    performed
  rcases respects with ⟨keeps, launches, rest⟩
  have advanced : (pool.advance id shared (some ⟨kind, resume answer⟩)).workers id =
      some ⟨kind, resume answer⟩ := Function.update_self _ _ _
  have bounded : ∀ other worker, (pool.advance id shared
      (some ⟨kind, resume answer⟩)).workers other = some worker → other < pool.nextId := by
    intro other worker beside
    rcases Pool.of_workers_advance beside with ⟨rfl, _⟩ | ⟨_, unchanged⟩
    · exact kept.bounded other _ present
    · exact kept.bounded other worker unchanged
  -- A kind that does not run after the step did not run before it either.
  have rests : ∀ free, (pool.advance id shared (some ⟨kind, resume answer⟩)).Free free →
      discipline.Rests free shared := by
    intro free isFree
    have different : free ≠ kind := fun same => isFree id _ advanced same.symm
    apply keeps.rests free different
    apply kept.rests free
    intro other worker beside
    by_cases same : other = id
    · subst same
      rw [present] at beside
      cases beside
      exact different.symm
    · apply isFree other worker
      simp only [Pool.advance, Function.update_of_ne same]
      exact beside
  refine ⟨keeps.holds, together, Pool.bounded_startAll bounded, ?_, ?_⟩
  · intro free isFree
    exact rests free (isFree.of_startAll bounded)
  · intro other worker beside
    rcases Pool.of_workers_startAll beside with ⟨_, old⟩ | ⟨later, started⟩
    · rcases Pool.of_workers_advance old with ⟨_, same⟩ | ⟨different, unchanged⟩
      · cases same
        exact rest
      · exact kept.others present keeps different unchanged
    · apply sound.launched worker _ keeps.holds
      · exact launches worker (List.mem_of_getElem? started)
      · intro alone
        exact rests worker.kind (free_of_started together bounded later started alone)

theorem Kept.step_finish (kept : discipline.Kept pool)
    (allowed : discipline.Allows pool (.finish id))
    (stepped : Pool.step behaviour pool (.finish id) = some next) : discipline.Kept next := by
  have together := allowed.together next stepped
  rcases Pool.step_finish stepped with ⟨kind, _, present, rfl⟩
  rcases kept.respects id _ present pool.shared (discipline.unchanged kind pool.shared)
    kept.holds with ⟨keeps, rested⟩
  refine ⟨keeps.holds, together, ?_, ?_, ?_⟩
  · intro other worker beside
    rcases Pool.of_workers_advance beside with ⟨_, gone⟩ | ⟨_, unchanged⟩
    · cases gone
    · exact kept.bounded other worker unchanged
  · intro free isFree
    by_cases same : free = kind
    · subst same
      exact rested
    · apply keeps.rests free same
      apply kept.rests free
      intro other worker beside
      by_cases own : other = id
      · subst own
        rw [present] at beside
        cases beside
        exact fun equal => same equal.symm
      · apply isFree other worker
        simp only [Pool.advance, Function.update_of_ne own]
        exact beside
  · intro other worker beside
    rcases Pool.of_workers_advance beside with ⟨_, gone⟩ | ⟨different, unchanged⟩
    · cases gone
    · exact kept.others present keeps different unchanged

theorem Sound.step_environment (sound : discipline.Sound) (kept : discipline.Kept pool)
    {event : ε} (allowed : discipline.Allows pool (.environment event))
    (stepped : Pool.step behaviour pool (.environment event) = some next) :
    discipline.Kept next := by
  have together := allowed.together next stepped
  rcases Pool.step_environment stepped with ⟨shared, starts, happened, rfl⟩
  rcases sound.event pool.shared event shared starts kept.holds (allowed.admits event rfl)
    happened with ⟨holds, relied, rested, launches⟩
  have bounded : ∀ id worker, (pool.interrupt shared (behaviour.survives event)).workers id =
      some worker → id < pool.nextId := by
    intro id worker beside
    exact kept.bounded id worker (Pool.of_workers_interrupt beside).1
  have rests : ∀ free, (pool.interrupt shared (behaviour.survives event)).Free free →
      discipline.Rests free shared := by
    intro free isFree
    apply rested free
    intro survives
    apply kept.rests free
    intro id worker present same
    apply isFree id worker _ same
    simp [Pool.interrupt, present, same, survives]
  refine ⟨holds, together, Pool.bounded_startAll bounded, ?_, ?_⟩
  · intro free isFree
    exact rests free (isFree.of_startAll bounded)
  · intro other worker beside
    rcases Pool.of_workers_startAll beside with ⟨_, old⟩ | ⟨later, started⟩
    · rcases Pool.of_workers_interrupt old with ⟨present, survives⟩
      exact (kept.respects other worker present).later (relied worker.kind survives)
    · apply sound.launched worker shared holds
      · exact launches worker (List.mem_of_getElem? started)
      · intro alone
        exact rests worker.kind (free_of_started together bounded later started alone)

theorem Sound.step (sound : discipline.Sound) (kept : discipline.Kept pool)
    {input : PoolInput Choice ε} (allowed : discipline.Allows pool input)
    (stepped : Pool.step behaviour pool input = some next) : discipline.Kept next := by
  cases input with
  | poll => exact sound.step_poll kept allowed stepped
  | finish => exact kept.step_finish allowed stepped
  | environment => exact sound.step_environment kept allowed stepped

end Discipline

end YedMQ.Semantics
