import YedMQ.Raft.SessionState.ReferenceCounts
import YedMQ.Session.ForgetTimes

/-! # The committed log and its states

The committed log of a cluster determines the session state at every index, up to the
times in the inflight items. `stateAt` is the state of a replica whose clock stands
still; every replica that has applied the same entries is in that state once its times
are forgotten. The keys that an entry frees, and the keys held afterwards, do not depend
on the replica.
-/

namespace YedMQ.Raft.SessionState

open Foundation Semantics YedMQ SessionStateStorage StateMachineData SessionState Inflight

def stopped : Reading where
  now := 0
  payload := fun _ => none

theorem effect_forgetTimes (request : SessionStateRequest) (now : Nat)
    (place : Option SessionState) :
    request.effect 0 (place.map YedMQ.SessionState.forgetTimes) =
      (request.effect now place).map YedMQ.SessionState.forgetTimes := by
  cases place with
  | none =>
    cases request with
    | deleteSessionState _ _ expected => cases expected <;> rfl
    | subscribeTopic _ _ _ qos =>
      simp only [SessionStateRequest.effect, SessionStateRequest.update]
      cases QoS.fromU8 qos <;> rfl
    | _ => rfl
  | some state =>
    cases request with
    | deleteSessionState _ _ expected =>
      cases expected with
      | none => rfl
      | some expected =>
        simp only [SessionStateRequest.effect, Option.filter_some,
          apply_ite (Option.map YedMQ.SessionState.forgetTimes)]
        rfl
    | inflightRegisterRxPacket | inflightNextState =>
      simp only [SessionStateRequest.effect, Option.map_some, inflight_forgetTimes,
        forgetTimes_registerWithRxPacket now, forgetTimes_nextState now]
      rfl
    | inflightRegisterTxPacket _ _ packetId qos packetKey =>
      simp only [SessionStateRequest.effect, Option.map_some, registerTx, inflight_forgetTimes,
        forgetTimes_registerWithTxPacket now]
      cases state.inflight.registerWithTxPacket now packetId qos packetKey with
      | error => rfl
      | ok =>
        simp only [Except.map, Prod.map_fst, forgetTimes_setDeliveryStarted]
        rfl
    | inflightStartDelivery | inflightDiscardUnsent | inflightCleanFinishItems =>
      simp only [SessionStateRequest.effect, SessionStateRequest.update, Option.map_some,
        inflight_forgetTimes, forgetTimes_markDeliveryStarted, forgetTimes_discardUnsent,
        forgetTimes_cleanFinishedItems]
      rfl
    | subscribeTopic _ _ _ qos =>
      simp only [SessionStateRequest.effect, SessionStateRequest.update]
      cases QoS.fromU8 qos <;> rfl
    | updateSessionConnectionState _ _ _ update => cases update <;> rfl
    | _ => rfl

theorem claims_forgetTimes (request : SessionStateRequest) (now : Nat) (state : SessionState) :
    request.claims 0 state.forgetTimes = request.claims now state := by
  cases request with
  | deleteSessionState | inflightRegisterRxPacket | inflightDiscardUnsent
  | inflightCleanFinishItems =>
    simp only [SessionStateRequest.claims, inflight_forgetTimes, getAllPacketKeys_forgetTimes,
      forgetTimes_registerWithRxPacket now, forgetTimes_discardUnsent,
      forgetTimes_cleanFinishedItems]
    rfl
  | inflightRegisterTxPacket _ _ packetId qos packetKey =>
    simp only [SessionStateRequest.claims, inflight_forgetTimes,
      forgetTimes_registerWithTxPacket now]
    cases state.inflight.registerWithTxPacket now packetId qos packetKey <;> rfl
  | _ => rfl

/-- A replica whose clock stands still does the same, apart from the times. -/
theorem applyRequest_forgetTimes {reading : Reading} {logId : LogId}
    {storage next : SessionStateStorage} {request : SessionStateRequest} {output : Applied}
    (applied : applyRequest reading logId storage request = .ok (next, output)) :
    ∃ reply, applyRequest stopped logId storage.forgetTimes request =
      .ok (next.forgetTimes, ⟨output.freed, reply⟩) := by
  rcases exists_applyRequest applied stopped logId storage.forgetTimes with
    ⟨⟨seen, freed, reply⟩, result⟩
  rcases (applyRequest_describes result).eq_view (applyRequest_describes applied)
    (effect_forgetTimes request reading.now _)
    (fun state _ => claims_forgetTimes request reading.now state) with ⟨same, sameFreed⟩
  cases same
  cases sameFreed
  exact ⟨reply, result⟩

def forgetTimes (data : StateMachineData SessionStateStorage) :
    StateMachineData SessionStateStorage :=
  { data with state := data.state.forgetTimes }

theorem applyEntry_forgetTimes {reading : Reading} {entry : Entry SessionStateRequest}
    {data next : StateMachineData SessionStateStorage} {output : Applied}
    (outcome : data.applyEntry applyRequest ⟨0, .none⟩ reading entry = .ok (next, output)) :
    ∃ reply, (forgetTimes data).applyEntry applyRequest ⟨0, .none⟩ stopped entry =
      .ok (forgetTimes next, ⟨output.freed, reply⟩) := by
  rw [applyEntry] at outcome ⊢
  cases payload : entry.payload with
  | blank | membership =>
    simp only [payload] at outcome
    cases outcome
    exact ⟨_, rfl⟩
  | normal request =>
    simp only [payload] at outcome
    cases applied : applyRequest reading entry.logId data.state request with
    | error =>
      simp only [applied] at outcome
      cases outcome
    | ok =>
      simp only [applied] at outcome
      cases outcome
      rcases applyRequest_forgetTimes applied with ⟨reply, result⟩
      simp only [forgetTimes, result]
      exact ⟨reply, rfl⟩

def nextIndex (data : StateMachineData SessionStateStorage) : Nat :=
  (data.lastAppliedLogId.map fun logId => logId.index + 1).getD 0

structure CommittedLog where
  entry : Nat → Entry SessionStateRequest
  index_entry : ∀ index, (entry index).logId.index = index

namespace CommittedLog

/-- The state after the first entries. There is none once an entry panics. -/
def stateAt (log : CommittedLog) : Nat → Option (StateMachineData SessionStateStorage)
  | 0 => some initial
  | index + 1 => (log.stateAt index).bind fun data => step data (log.entry index, stopped)

def freedAt (log : CommittedLog) (index : Nat) : Multiset String :=
  (((log.stateAt index).bind fun data =>
      (data.applyEntry applyRequest ⟨0, .none⟩ stopped (log.entry index)).toOption).map
    fun outcome => outcome.2.freed).getD 0

/-- A key is not registered again once an entry has freed it. -/
def NoReuse (log : CommittedLog) : Prop :=
  ∀ ⦃freed later : Nat⦄, freed < later → ∀ key ∈ log.freedAt freed,
    SessionState.registeredKey (log.entry later) ≠ some key

def Holds (log : CommittedLog) (data : StateMachineData SessionStateStorage) : Prop :=
  log.stateAt (nextIndex data) = some (forgetTimes data)

variable {log : CommittedLog}

theorem holds_initial : log.Holds initial := rfl

variable {data next : StateMachineData SessionStateStorage}

theorem Holds.applyEntry {applied : Applied} {reading : Reading} (holds : log.Holds data)
    (outcome : data.applyEntry applyRequest ⟨0, .none⟩ reading
      (log.entry (nextIndex data)) = .ok (next, applied)) :
    log.Holds next ∧ nextIndex next = nextIndex data + 1 ∧
      applied.freed = log.freedAt (nextIndex data) := by
  rcases applyEntry_forgetTimes outcome with ⟨_, stoppedOutcome⟩
  have advanced : nextIndex next = nextIndex data + 1 := by
    have stepped : step data (log.entry (nextIndex data), reading) = some next := by
      simp [step, StateMachineData.step, outcome, Except.toOption]
    have position := (step_eq_some stepped).1
    rw [nextIndex, position, Option.map_some, Option.getD_some, log.index_entry]
  refine ⟨?_, advanced, ?_⟩
  · rw [Holds, advanced, stateAt, holds, Option.bind_some, step, StateMachineData.step,
      stoppedOutcome]
    rfl
  · rw [freedAt, holds, Option.bind_some, stoppedOutcome]
    rfl

/-! ## Keys along the log -/

variable {index : Nat}

/-- What one entry does to the held keys: it adds at most the key that it registers,
and it keeps none of those that it frees. -/
theorem keys_succ (before : log.stateAt index = some data)
    (after : log.stateAt (index + 1) = some next) (covering : data.state.CoveringCounts) :
    next.state.CoveringCounts ∧ (∀ key ∈ next.state.heldKeys, key ∈ data.state.heldKeys ∨
        SessionState.registeredKey (log.entry index) = some key) ∧
      ∀ key ∈ log.freedAt index, key ∉ next.state.heldKeys := by
  rw [stateAt, before] at after
  have effect := (step_eq_some after).2
  have freed : log.freedAt index =
      (((data.applyEntry applyRequest ⟨0, .none⟩ stopped (log.entry index)).toOption).map
        fun outcome => outcome.2.freed).getD 0 := by
    rw [freedAt, before, Option.bind_some]
  rw [applyEntry] at freed
  rw [SessionState.registeredKey]
  cases payload : (log.entry index).payload with
  | blank | membership =>
    simp only [payload, Except.toOption] at freed effect
    rw [effect.1, freed]
    exact ⟨covering, fun key held => .inl held, by simp⟩
  | normal =>
    simp only [payload] at freed effect
    rcases effect.2 with ⟨_, applied⟩
    rw [applied] at freed
    have accounted := accounted_applyRequest applied
    have covered := accounted.coveringCounts covering
    refine ⟨covered.1, ?_, ?_⟩
    · intro key held
      simpa using accounted.mem_heldKeys held
    · rw [freed]
      exact covered.2

theorem coveringCounts_stateAt (reached : log.stateAt index = some data) :
    data.state.CoveringCounts := by
  induction index generalizing data with
  | zero =>
    cases reached
    exact coveringCounts_new
  | succ index induction =>
    rcases Option.bind_eq_some_iff.mp reached with ⟨_, earlier, _⟩
    exact (keys_succ earlier reached (induction earlier)).1

theorem notMem_heldKeys_of_freedAt (noReuse : log.NoReuse) {freed : Nat} {key : String}
    (member : key ∈ log.freedAt freed) (later : freed < index)
    (reached : log.stateAt index = some data) : key ∉ data.state.heldKeys := by
  induction index generalizing data with
  | zero => omega
  | succ index induction =>
    rcases Option.bind_eq_some_iff.mp reached with ⟨_, earlier, _⟩
    have keys := (keys_succ earlier reached (coveringCounts_stateAt earlier)).2
    rcases Nat.lt_succ_iff_lt_or_eq.mp later with farther | same
    · intro held
      rcases keys.1 key held with kept | registered
      · exact induction farther earlier kept
      · exact noReuse farther key member registered
    · subst same
      exact keys.2 key member

theorem mem_heldKeys_succ (reached : log.stateAt (index + 1) = some next) {key : String}
    (held : key ∈ next.state.heldKeys) :
    (∃ data, log.stateAt index = some data ∧ key ∈ data.state.heldKeys) ∨
      SessionState.registeredKey (log.entry index) = some key := by
  rcases Option.bind_eq_some_iff.mp reached with ⟨data, earlier, _⟩
  have keys := (keys_succ earlier reached (coveringCounts_stateAt earlier)).2.1
  rcases keys key held with kept | registered
  · exact .inl ⟨data, earlier, kept⟩
  · exact .inr registered

end CommittedLog

end YedMQ.Raft.SessionState
