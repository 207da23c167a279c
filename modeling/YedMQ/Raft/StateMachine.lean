import YedMQ.Raft.Entry
import YedMQ.Semantics.Run

/-! # Replicated state machines and their snapshots

The three replicated machines of the broker keep the same bookkeeping around their
own state: the last applied log identifier and the last membership. Applying an
entry is generic in what the machine does with a request. A request may read the
replica's surroundings, fail, and produce an output.

A snapshot builder is a copy of the state machine store. The copy owns its log
position and membership, but shares the state behind a lock, so `buildSnapshot`
reads the state as it is when the build runs.
-/

namespace YedMQ.Raft

open Semantics

/-- How a raft write ends: committed and acknowledged, never committed, or committed
while its sender gets an error. -/
inductive WriteOutcome where
  | committed
  | lost
  | unacknowledged
deriving DecidableEq, Repr

structure StateMachineData (State : Type u) where
  lastAppliedLogId : Option LogId
  lastMembership : StoredMembership
  state : State
deriving DecidableEq

/-- What a machine does with one request: from the replica's reading, the log
identifier of the entry and the current state to a new state and an output. -/
abbrev RequestHandler (Reading State Request Output Error : Type*) :=
  Reading → LogId → State → Request → Except Error (State × Output)

namespace StateMachineData

variable {Reading State Request Output Error : Type*}

def new (state : State) : StateMachineData State where
  lastAppliedLogId := none
  lastMembership := StoredMembership.default
  state := state

def applyEntry (handler : RequestHandler Reading State Request Output Error)
    (nothing : Output) (reading : Reading) (entry : Entry Request)
    (data : StateMachineData State) :
    Except Error (StateMachineData State × Output) :=
  let data := { data with lastAppliedLogId := some entry.logId }
  match entry.payload with
  | .blank => .ok (data, nothing)
  | .normal request =>
    match handler reading entry.logId data.state request with
    | .ok (state, output) => .ok ({ data with state := state }, output)
    | .error error => .error error
  | .membership membership =>
    .ok ({ data with
        lastMembership := { logId := some entry.logId, membership := membership } },
      nothing)

def apply (handler : RequestHandler Reading State Request Output Error)
    (nothing : Output) (data : StateMachineData State) :
    List (Entry Request × Reading) → Except Error (StateMachineData State × List Output)
  | [] => .ok (data, [])
  | (entry, reading) :: rest =>
    match data.applyEntry handler nothing reading entry with
    | .error error => .error error
    | .ok (next, reply) =>
      match apply handler nothing next rest with
      | .error error => .error error
      | .ok (final, replies) => .ok (final, reply :: replies)

def step (handler : RequestHandler Reading State Request Output Error)
    (nothing : Output) (data : StateMachineData State)
    (input : Entry Request × Reading) : Option (StateMachineData State) :=
  (data.applyEntry handler nothing input.2 input.1).toOption.map Prod.fst

variable {handler : RequestHandler Reading State Request Output Error}
  {nothing : Output}

/-- A batch returns `Ok` exactly when the run of its entries does not stop, and
leaves the state that the run reaches. -/
theorem run_step_eq_apply (data : StateMachineData State)
    (inputs : List (Entry Request × Reading)) :
    run (step handler nothing) data inputs =
      (data.apply handler nothing inputs).toOption.map Prod.fst := by
  induction inputs generalizing data with
  | nil => rfl
  | cons input inputs induction =>
    rw [run_cons, apply]
    cases applied : data.applyEntry handler nothing input.2 input.1 with
    | error => simp [step, applied, Except.toOption]
    | ok outcome =>
      have rest := induction outcome.1
      simp only [step, applied, Except.toOption, Option.map_some, Option.bind_some]
      rw [rest]
      cases outcome.1.apply handler nothing inputs <;> rfl

/-- A batch returns `Ok` if its first entry is applied and the rest of it does. -/
theorem apply_cons_ok_iff (data : StateMachineData State)
    (input : Entry Request × Reading) (inputs : List (Entry Request × Reading)) :
    (∃ outcome, data.apply handler nothing (input :: inputs) = .ok outcome) ↔
      ∃ next reply, data.applyEntry handler nothing input.2 input.1 = .ok (next, reply) ∧
        ∃ outcome, next.apply handler nothing inputs = .ok outcome := by
  rw [apply]
  cases applied : data.applyEntry handler nothing input.2 input.1 with
  | error => simp
  | ok outcome =>
    rcases outcome with ⟨next, _⟩
    cases rest : next.apply handler nothing inputs with
    | error => simp [rest]
    | ok outcome =>
      rcases outcome with ⟨_, _⟩
      simp [rest]

theorem length_replies {data final : StateMachineData State}
    {inputs : List (Entry Request × Reading)} {replies : List Output}
    (applied : data.apply handler nothing inputs = .ok (final, replies)) :
    replies.length = inputs.length := by
  induction inputs generalizing data replies with
  | nil =>
    cases applied
    rfl
  | cons input inputs induction =>
    rw [apply] at applied
    split at applied
    · cases applied
    · split at applied
      · cases applied
      · rename_i later
        cases applied
        simp [induction later]

/-- What a step does to the state: one request, or nothing. -/
theorem step_eq_some {data next : StateMachineData State}
    {input : Entry Request × Reading}
    (stepped : step handler nothing data input = some next) :
    next.lastAppliedLogId = some input.1.logId ∧
      match input.1.payload with
      | .normal request =>
        next.lastMembership = data.lastMembership ∧
          ∃ output, handler input.2 input.1.logId data.state request = .ok (next.state, output)
      | .membership membership =>
        next.state = data.state ∧
          next.lastMembership = { logId := some input.1.logId, membership := membership }
      | .blank =>
        next.state = data.state ∧ next.lastMembership = data.lastMembership := by
  unfold step applyEntry at stepped
  cases payload : input.1.payload with
  | blank | membership =>
    simp only [payload] at stepped
    cases stepped
    exact ⟨rfl, rfl, rfl⟩
  | normal request =>
    simp only [payload] at stepped
    cases handled : handler input.2 input.1.logId data.state request with
    | error => simp [handled, Except.toOption] at stepped
    | ok outcome =>
      simp only [handled] at stepped
      cases stepped
      exact ⟨rfl, rfl, outcome.2, handled⟩

end StateMachineData

/-! ## Snapshots -/

structure SnapshotMeta where
  lastLogId : Option LogId
  lastMembership : StoredMembership
deriving DecidableEq

structure Snapshot (State : Type u) where
  snapshotMeta : SnapshotMeta
  data : State

def StateMachineData.getSnapshotBuilder {State : Type u}
    (data : StateMachineData State) : SnapshotMeta where
  lastLogId := data.lastAppliedLogId
  lastMembership := data.lastMembership

def buildSnapshot {State : Type u} (builder : SnapshotMeta) (shared : State) : Snapshot State where
  snapshotMeta := builder
  data := shared

def updateStateMachine {State : Type u} (snapshot : Snapshot State) : StateMachineData State where
  lastAppliedLogId := snapshot.snapshotMeta.lastLogId
  lastMembership := snapshot.snapshotMeta.lastMembership
  state := snapshot.data

end YedMQ.Raft
