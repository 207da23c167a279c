import YedMQ.Raft.StateMachine
import YedMQ.Semantics.Replay

/-! # Position and membership under replay

A restored snapshot has the log position and the membership that its builder copied.
Applying the entries after that position leads to the position and the membership of
the whole log, whatever the restored state is. A `SnapshotBuild` is a log together with
the moments at which a builder is made and reads the state.
-/

namespace YedMQ.Raft

open Semantics

namespace StateMachineData

variable {Reading State Request Output Error : Type*}
  {handler : RequestHandler Reading State Request Output Error} {nothing : Output}

def position (data : StateMachineData State) : SnapshotMeta :=
  data.getSnapshotBuilder

def advance (input : Entry Request × Reading) (position : SnapshotMeta) : SnapshotMeta where
  lastLogId := some input.1.logId
  lastMembership :=
    match input.1.payload with
    | .membership membership =>
      { logId := some input.1.logId, membership := membership }
    | _ => position.lastMembership

variable {data : StateMachineData State}

theorem position_step {next : StateMachineData State} {input : Entry Request × Reading}
    (stepped : step handler nothing data input = some next) :
    next.position = advance input data.position := by
  rcases step_eq_some stepped with ⟨logId, changes⟩
  simp only [position, getSnapshotBuilder, advance, logId, SnapshotMeta.mk.injEq, true_and]
  cases payload : input.1.payload with
  | blank | membership =>
    simp only [payload] at changes
    exact changes.2
  | normal =>
    simp only [payload] at changes
    exact changes.1

variable {final : StateMachineData State} {inputs : List (Entry Request × Reading)}

theorem position_run (runs : run (step handler nothing) data inputs = some final) :
    final.position = effect advance inputs data.position :=
  read_run position (fun _ => True) (fun _ _ _ _ _ _ => trivial)
    (fun _ _ _ _ _ stepped => position_step stepped) trivial runs

theorem ext_position {left right : StateMachineData State}
    (samePosition : left.position = right.position) (sameState : left.state = right.state) :
    left = right := by
  cases right
  cases samePosition
  cases sameState
  rfl

variable (builder : StateMachineData State)

def restored (shared : State) :
    StateMachineData State :=
  updateStateMachine (buildSnapshot builder.getSnapshotBuilder shared)

@[simp] theorem position_restored (shared : State) :
    (builder.restored shared).position = builder.position := rfl

@[simp] theorem state_restored (shared : State) : (builder.restored shared).state = shared := rfl

/-- Replaying entries on a restored machine ends in the same data as the log if it ends
in the same state. -/
theorem eq_of_replay {builder other : StateMachineData State} {shared : State}
    (logged : run (step handler nothing) builder inputs = some final)
    (replayed : run (step handler nothing) (builder.restored shared) inputs = some other)
    (sameState : other.state = final.state) : other = final := by
  apply ext_position
  · rw [position_run replayed, position_run logged, position_restored]
  · exact sameState

theorem exists_run (total : ∀ input ∈ inputs, ∀ data : StateMachineData State,
      ∃ next, step handler nothing data input = some next) (data : StateMachineData State) :
    ∃ final, run (step handler nothing) data inputs = some final := by
  induction inputs generalizing data with
  | nil => exact ⟨data, rfl⟩
  | cons input inputs induction =>
    rcases total input List.mem_cons_self data with ⟨next, stepped⟩
    rcases induction (fun other member => total other (List.mem_cons_of_mem _ member))
      next with ⟨final, runs⟩
    refine ⟨final, ?_⟩
    rw [run_cons, stepped]
    exact runs

end StateMachineData

/-! ## Building a snapshot while the log is applied -/

def entriesAfter (lastLogId : Option LogId) (log : List (Entry Request × Reading)) :
    List (Entry Request × Reading) :=
  log.filter fun input => lastLogId.all fun logId => decide (logId.index < input.1.logId.index)

/-- The log of a replica, cut at the moments of a snapshot build: `earlier` entries are
applied when `get_snapshot_builder` is called, those of `window` before the builder reads
the state, those of `during` while it reads and those of `later` afterwards. -/
structure SnapshotBuild {State Request Reading : Type*}
    (step : StateMachineData State → Entry Request × Reading →
      Option (StateMachineData State)) (initial : StateMachineData State) where
  earlier : List (Entry Request × Reading)
  window : List (Entry Request × Reading)
  during : List (Entry Request × Reading)
  later : List (Entry Request × Reading)
  builder : StateMachineData State
  start : StateMachineData State
  final : StateMachineData State
  made : run step initial earlier = some builder
  reads : run step builder window = some start
  logged : run step builder (window ++ during ++ later) = some final
  ordered : (earlier ++ (window ++ during ++ later)).Pairwise fun left right =>
    left.1.logId.index < right.1.logId.index

namespace SnapshotBuild

variable {State Request Reading : Type*}
  {step : StateMachineData State → Entry Request × Reading →
    Option (StateMachineData State)} {initial : StateMachineData State}

def log (build : SnapshotBuild step initial) : List (Entry Request × Reading) :=
  build.earlier ++ (build.window ++ build.during ++ build.later)

def restart (build : SnapshotBuild step initial) (shared : State) :
    Option (StateMachineData State) :=
  run step (updateStateMachine (buildSnapshot build.builder.getSnapshotBuilder shared))
    (entriesAfter build.builder.getSnapshotBuilder.lastLogId build.log)

end SnapshotBuild

section Generic

variable {Reading State Request Output Error : Type*}
  {handler : RequestHandler Reading State Request Output Error} {nothing : Output}
  {state : State}

theorem lastAppliedLogId_run {data final : StateMachineData State}
    {inputs : List (Entry Request × Reading)}
    (runs : run (StateMachineData.step handler nothing) data inputs = some final) :
    final.lastAppliedLogId =
      (inputs.getLast?.map fun input => input.1.logId).or data.lastAppliedLogId := by
  induction inputs using List.reverseRecOn with
  | nil =>
    cases runs
    rfl
  | append_singleton inputs input =>
    rw [run_concat] at runs
    rcases Option.bind_eq_some_iff.mp runs with ⟨_, _, stepped⟩
    rw [(StateMachineData.step_eq_some stepped).1]
    simp

/-- The entries after the position of the builder are those applied since. -/
theorem SnapshotBuild.entriesAfter_log
    (build : SnapshotBuild (StateMachineData.step handler nothing) (.new state)) :
    entriesAfter build.builder.getSnapshotBuilder.lastLogId build.log =
      build.window ++ build.during ++ build.later := by
  have ordered := List.pairwise_append.mp build.ordered
  have position := lastAppliedLogId_run build.made
  rw [entriesAfter, log, List.filter_append]
  cases last : build.earlier.getLast? with
  | none =>
    have empty := List.getLast?_eq_none_iff.mp last
    simp [StateMachineData.getSnapshotBuilder, position, empty, StateMachineData.new]
  | some input =>
    rw [last] at position
    have isLast := List.getLast?_eq_some_iff.mp last
    have done : build.earlier.filter (fun other =>
        build.builder.getSnapshotBuilder.lastLogId.all fun logId =>
          decide (logId.index < other.1.logId.index)) = [] := by
      rw [List.filter_eq_nil_iff]
      intro other member
      simp only [StateMachineData.getSnapshotBuilder, position]
      rcases isLast with ⟨_, split⟩
      rw [split] at member
      have sorted := ordered.1
      rw [split, List.pairwise_append] at sorted
      rcases List.mem_append.mp member with inFront | isInput
      · have before := sorted.2.2 other inFront input List.mem_cons_self
        simp
        omega
      · rw [List.mem_singleton.mp isInput]
        simp
    have kept : (build.window ++ build.during ++ build.later).filter (fun other =>
        build.builder.getSnapshotBuilder.lastLogId.all fun logId =>
          decide (logId.index < other.1.logId.index)) =
        build.window ++ build.during ++ build.later := by
      rw [List.filter_eq_self]
      intro other member
      have after := ordered.2.2 input (List.mem_of_getLast? last) other member
      simp [StateMachineData.getSnapshotBuilder, position, after]
    rw [done, kept, List.nil_append]

end Generic

end YedMQ.Raft
