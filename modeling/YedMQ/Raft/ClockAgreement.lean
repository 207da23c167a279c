import YedMQ.Raft.SessionActorMap.StateMachine
import YedMQ.Raft.SessionState.ReferenceCounts

/-! # Replicas with different clocks

Two replicas apply the same log, each with its own readings of the system clock. Some
entries write a reading into the replicated state: registrations and advances of
inflight exchanges write `lastModified`, registrations and renewals of leases write
`expirationTimestamp`. The replicas agree along a log exactly when their clocks agree
whenever a reading is written and not overwritten within the same entry.
-/

namespace YedMQ.Raft

open Foundation Semantics YedMQ SessionStateStorage SessionActorMapStorage Inflight

def lockstep {σ : Type u} {Request : Type v} {Reading : Type w}
    (first second : σ → Entry Request × Reading → Option σ) (pair : σ × σ)
    (input : Entry Request × Reading × Reading) : Option (σ × σ) :=
  (first pair.1 (input.1, input.2.1)).bind fun left =>
    (second pair.2 (input.1, input.2.2)).map fun right => (left, right)

def Agree {σ : Type u} (pair : σ × σ) : Prop :=
  pair.1 = pair.2

theorem Agree.refl {σ : Type u} (state : σ) : Agree (state, state) := rfl

theorem lockstep_eq_some {σ : Type u} {Request : Type v} {Reading : Type w}
    {first second : σ → Entry Request × Reading → Option σ} {pair next : σ × σ}
    {input : Entry Request × Reading × Reading}
    (stepped : lockstep first second pair input = some next) :
    first pair.1 (input.1, input.2.1) = some next.1 ∧
      second pair.2 (input.1, input.2.2) = some next.2 := by
  rcases Option.bind_eq_some_iff.mp stepped with ⟨_, leftStep, rest⟩
  rcases Option.map_eq_some_iff.mp rest with ⟨_, rightStep, equal⟩
  subst equal
  exact ⟨leftStep, rightStep⟩

/-- Replicas that agreed and applied the same entry differ only in the state that
their request handlers leave. -/
theorem agree_step {State Request Reading Output Error : Type*}
    {first second : RequestHandler Reading State Request Output Error}
    {nothing : Output} {data : StateMachineData State}
    {input : Entry Request × Reading × Reading}
    {next : StateMachineData State × StateMachineData State} (Clocks : Request → Prop)
    (stepped : lockstep (StateMachineData.step first nothing)
      (StateMachineData.step second nothing) (data, data) input = some next)
    (decides : ∀ request left right,
      first input.2.1 input.1.logId data.state request = .ok left →
        second input.2.2 input.1.logId data.state request = .ok right →
          (left.1 = right.1 ↔ Clocks request)) :
    Agree next ↔ ∀ request, input.1.payload = .normal request → Clocks request := by
  rcases lockstep_eq_some stepped with ⟨leftStep, rightStep⟩
  have leftEffect := StateMachineData.step_eq_some leftStep
  have rightEffect := StateMachineData.step_eq_some rightStep
  rcases next with ⟨⟨leftLog, leftMembers, leftState⟩, rightLog, rightMembers, rightState⟩
  have sameLog : leftLog = rightLog := leftEffect.1.trans rightEffect.1.symm
  rw [Agree]
  cases payload : input.1.payload with
  | blank | membership =>
    simp only [payload] at leftEffect rightEffect
    simp [sameLog, leftEffect.2, rightEffect.2]
  | normal request =>
    simp only [payload] at leftEffect rightEffect
    rcases leftEffect.2 with ⟨leftMembership, _, leftApplied⟩
    rcases rightEffect.2 with ⟨rightMembership, _, rightApplied⟩
    have decided := decides request _ _ leftApplied rightApplied
    simpa [sameLog, leftMembership, rightMembership] using decided

namespace SessionState

def stampedItem (storage : SessionStateStorage) :
    SessionStateRequest → Option (String × String × UInt16)
  | .inflightRegisterRxPacket tenantId clientId packetId qos _ =>
    if (storage.getSessionState tenantId clientId).isSome ∧ Inflight.Tracked qos then
      some (tenantId, clientId, packetId)
    else
      none
  | .inflightRegisterTxPacket tenantId clientId packetId qos _ _ =>
    if (storage.getSessionState tenantId clientId).isSome ∧
        ¬ storage.packetIdUsed tenantId clientId packetId ∧ Inflight.Tracked qos then
      some (tenantId, clientId, packetId)
    else
      none
  | .inflightNextState tenantId clientId packetIdentifier =>
    if storage.packetIdUsed tenantId clientId packetIdentifier then
      some (tenantId, clientId, packetIdentifier)
    else
      none
  | _ => none

def timestampAt (tenantId clientId : String) (packetId : UInt16)
    (storage : SessionStateStorage) : Option Nat :=
  (storage.getSessionState tenantId clientId).bind fun state =>
    state.inflight.timestamp packetId

@[simp] theorem timestamp_setDeliveryStarted (packetId : UInt16) (started : Bool)
    (inflight : Inflight) :
    (setDeliveryStarted packetId started inflight).timestamp
      packetId = inflight.timestamp packetId := by
  simp only [timestamp, setDeliveryStarted, HashMap.lookup_modify_self, Option.map_map]
  rfl

variable {storage : SessionStateStorage} {request : SessionStateRequest}

theorem timestampAt_of_stampedItem {reading : Reading} {logId : LogId} {next : SessionStateStorage}
    {output : Applied} {tenantId clientId : String} {packetId : UInt16}
    (stamped : stampedItem storage request = some (tenantId, clientId, packetId))
    (applied : applyRequest reading logId storage request = .ok (next, output)) :
    timestampAt tenantId clientId packetId next = some reading.now := by
  have here := (applyRequest_describes applied).here
  cases request with
  | inflightRegisterRxPacket =>
    simp only [stampedItem] at stamped
    split at stamped
    case isFalse => cases stamped
    case isTrue condition =>
      cases stamped
      rcases Option.isSome_iff_exists.mp condition.1 with ⟨state, present⟩
      simp only [SessionStateRequest.target, present] at here
      rw [timestampAt, here]
      exact timestamp_registerWithRxPacket condition.2 _ _ _ _
  | inflightRegisterTxPacket tenant client identifier qos packetKey =>
    simp only [stampedItem] at stamped
    split at stamped
    case isFalse => cases stamped
    case isTrue condition =>
      cases stamped
      rcases condition with ⟨exists_, free, tracked⟩
      rcases Option.isSome_iff_exists.mp exists_ with ⟨state, present⟩
      simp only [packetIdUsed, present] at free
      simp only [SessionStateRequest.target, SessionStateRequest.effect, present, Option.map_some,
        registerTx] at here
      cases outcome : state.inflight.registerWithTxPacket reading.now packetId qos packetKey with
      | error error =>
        exact absurd (registerWithTxPacket_eq_error_iff.mp ⟨error, outcome⟩) free
      | ok =>
        simp only [outcome] at here
        rw [timestampAt, here, Option.bind_some, timestamp_setDeliveryStarted]
        exact timestamp_registerWithTxPacket tracked outcome
  | inflightNextState =>
    simp only [stampedItem] at stamped
    split at stamped
    case isFalse => cases stamped
    case isTrue used =>
      cases stamped
      cases present : storage.getSessionState tenantId clientId with
      | none => simp [packetIdUsed, present] at used
      | some =>
        simp only [packetIdUsed, present] at used
        simp only [SessionStateRequest.target, present] at here
        rw [timestampAt, here]
        exact timestamp_nextState used reading.now
  | createSessionState | deleteSessionState | inflightStartDelivery | inflightDiscardUnsent
  | inflightGetCurrentPacket | inflightCleanFinishItems | appendToPendingQueue
  | popFromPendingQueue | subscribeTopic | unsubscribeTopic | updateSessionConnectionState =>
    cases stamped

/-- The state that a request leaves depends on the reading only through the clock,
and on the clock only if the request stamps an item. -/
theorem applyRequest_state_eq {first second : Reading} (logId : LogId)
    (agree : (stampedItem storage request).isSome → first.now = second.now) :
    (applyRequest first logId storage request).map Prod.fst =
      (applyRequest second logId storage request).map Prod.fst := by
  cases request with
  | inflightRegisterRxPacket tenantId clientId packetId qos =>
    cases present : storage.getSessionState tenantId clientId with
    | none =>
      simp [applyRequest, inflightRegisterRxPacket, present]
    | some =>
      by_cases tracked : Inflight.Tracked qos
      · have sameNow := agree (by simp [stampedItem, present, tracked])
        simp [applyRequest, sameNow]
      · simp [applyRequest, inflightRegisterRxPacket, present,
          registerWithRxPacket_of_not_tracked tracked]
  | inflightRegisterTxPacket tenantId clientId packetId qos =>
    cases present : storage.getSessionState tenantId clientId with
    | none =>
      simp [applyRequest, inflightRegisterTxPacket, present]
    | some state =>
      by_cases stamps : ¬ state.inflight.packetIdExists packetId = true ∧ Inflight.Tracked qos
      · have sameNow := agree (by
          simp [stampedItem, present, packetIdUsed, stamps])
        simp [applyRequest, sameNow]
      · simp [applyRequest, inflightRegisterTxPacket, present,
          registerWithTxPacket_now stamps first.now second.now]
  | inflightNextState tenantId clientId packetIdentifier =>
    by_cases used : storage.packetIdUsed tenantId clientId packetIdentifier = true
    · have sameNow := agree (by simp [stampedItem, used])
      simp [applyRequest, sameNow]
    · cases present : storage.getSessionState tenantId clientId with
      | none =>
        simp [applyRequest, inflightNextState, modifySessionState, present]
      | some =>
        simp only [packetIdUsed, present] at used
        simp [applyRequest, inflightNextState, modifySessionState, present,
          nextState_of_unused used]
  | createSessionState | deleteSessionState | inflightStartDelivery | inflightDiscardUnsent
  | inflightGetCurrentPacket | inflightCleanFinishItems | appendToPendingQueue
  | popFromPendingQueue | subscribeTopic | unsubscribeTopic | updateSessionConnectionState =>
    rfl

def ClocksAgree (pair : StateMachineData SessionStateStorage × StateMachineData SessionStateStorage)
    (input : Entry SessionStateRequest × Reading × Reading) : Prop :=
  match input.1.payload with
  | .normal request =>
    (stampedItem pair.1.state request).isSome → input.2.1.now = input.2.2.now
  | _ => True

theorem agree_step_iff
    (pair : StateMachineData SessionStateStorage × StateMachineData SessionStateStorage)
    (input : Entry SessionStateRequest × Reading × Reading)
    (next : StateMachineData SessionStateStorage × StateMachineData SessionStateStorage)
    (agree : Agree pair) (stepped : lockstep step step pair input = some next) :
    Agree next ↔ ClocksAgree pair input := by
  rcases pair with ⟨data, _⟩
  cases agree
  rw [agree_step (fun request =>
    (stampedItem data.state request).isSome → input.2.1.now = input.2.2.now) stepped, ClocksAgree]
  · cases input.1.payload <;> simp
  intro request left right leftApplied rightApplied
  constructor
  · intro sameState stamped
    rcases Option.isSome_iff_exists.mp stamped with ⟨⟨tenant, client, id⟩, address⟩
    have leftTime := timestampAt_of_stampedItem address leftApplied
    have rightTime := timestampAt_of_stampedItem address rightApplied
    rw [sameState, rightTime] at leftTime
    exact (Option.some.inj leftTime).symm
  · intro clocks
    have same := applyRequest_state_eq input.1.logId clocks
    rw [leftApplied, rightApplied] at same
    exact Except.ok.inj same

end SessionState

namespace SessionActorMap

variable (storage : SessionActorMapStorage)

/-- The clock readings that decide the state a request leaves: the one of a
registration, and for each session the one of its last renewal by its owner. -/
def ReadingsAgree (first second : Reading) : SessionActorMapRequest → Prop
  | .registerSession _ _ _ => first 0 = second 0
  | .sessionLeaseRenewRequest sessions =>
    ∀ tenantId sessionId entry last, storage.getSessionActorMap tenantId sessionId = some entry →
        lastRenewal tenantId sessionId entry.instanceId 0
          sessions = some last → first last = second last
  | .unregisterSession _ _ _ => True
  | .cleanExpiredSessions _ => True

theorem sessionLeaseRenew_eq_iff
    (first second : Reading) (sessions : List RenewSession) (sessionTtl : Nat) :
    storage.sessionLeaseRenew first sessions sessionTtl =
        storage.sessionLeaseRenew second sessions sessionTtl ↔
      ReadingsAgree storage first second (.sessionLeaseRenewRequest sessions) := by
  unfold sessionLeaseRenew
  constructor
  · intro equal tenantId sessionId entry last present renewed
    have entries := congrArg (getSessionActorMap tenantId sessionId) equal
    rw [getSessionActorMap_renewFrom, getSessionActorMap_renewFrom, present] at entries
    simpa [renewedEntry, renewed] using entries
  · intro agree
    apply ext_getSessionActorMap
    · intro tenantId
      rw [hasOuter_renewFrom, hasOuter_renewFrom]
    · intro tenantId sessionId
      rw [getSessionActorMap_renewFrom, getSessionActorMap_renewFrom]
      cases present : storage.getSessionActorMap tenantId sessionId with
      | none => rfl
      | some entry =>
        simp only [Option.map_some, renewedEntry]
        cases renewed : lastRenewal tenantId sessionId entry.instanceId 0 sessions with
        | none => rfl
        | some last =>
          dsimp only
          rw [agree tenantId sessionId entry last present renewed]

theorem registerSessionActor_eq_iff
    (first second : Reading) (tenantId sessionId : String) (nodeId : NodeId)
    (instanceId : SessionInstanceId) (sessionTtl : Nat) :
    (storage.registerSessionActor first tenantId sessionId nodeId instanceId sessionTtl).1 =
      (storage.registerSessionActor second tenantId sessionId nodeId instanceId
        sessionTtl).1 ↔ first 0 = second 0 := by
  constructor
  · intro equal
    have entries := congrArg (getSessionActorMap tenantId sessionId) equal
    simpa [registerSessionActor, getSessionActorMap] using entries
  · intro same
    simp [registerSessionActor, same]

def ClocksAgree (pair : StateMachineData SessionActorMapStorage ×
      StateMachineData SessionActorMapStorage)
    (input : Entry SessionActorMapRequest × Reading × Reading) : Prop :=
  match input.1.payload with
  | .normal request => ReadingsAgree pair.1.state input.2.1 input.2.2 request
  | _ => True

/-- Two replicas with the same lease time, on any two nodes. -/
theorem agree_step_iff (sessionTtl : Nat) (leftNode rightNode : NodeId)
    (pair : StateMachineData SessionActorMapStorage × StateMachineData SessionActorMapStorage)
    (input : Entry SessionActorMapRequest × Reading × Reading)
    (next : StateMachineData SessionActorMapStorage × StateMachineData SessionActorMapStorage)
    (agree : Agree pair)
    (stepped : lockstep (step ⟨leftNode, sessionTtl⟩) (step ⟨rightNode, sessionTtl⟩)
      pair input = some next) :
    Agree next ↔ ClocksAgree pair input := by
  rcases pair with ⟨data, _⟩
  cases agree
  rw [agree_step (ReadingsAgree data.state input.2.1 input.2.2) stepped, ClocksAgree]
  · cases input.1.payload <;> simp
  intro request left right leftApplied rightApplied
  cases request with
  | registerSession =>
    cases leftApplied
    cases rightApplied
    exact registerSessionActor_eq_iff _ _ _ _ _ _ _ _
  | unregisterSession | cleanExpiredSessions =>
    cases leftApplied
    cases rightApplied
    exact iff_of_true rfl trivial
  | sessionLeaseRenewRequest =>
    cases leftApplied
    cases rightApplied
    exact sessionLeaseRenew_eq_iff _ _ _ _ _

end SessionActorMap

/-- Along a log, two replicas of either machine agree in every state exactly when
their clocks agree at every entry that writes the clock. -/
theorem replicas_agree_iff
    (stateLog : List (Entry SessionState.SessionStateRequest × SessionState.Reading ×
      SessionState.Reading))
    (sessionTtl : Nat) (leftNode rightNode : NodeId)
    (mapLog : List (Entry SessionActorMap.SessionActorMapRequest ×
      SessionActorMap.Reading × SessionActorMap.Reading)) :
    (Throughout (lockstep SessionState.step SessionState.step) Agree
        (SessionState.initial, SessionState.initial) stateLog ↔
      EachStep (lockstep SessionState.step SessionState.step)
        SessionState.ClocksAgree (SessionState.initial, SessionState.initial) stateLog) ∧
    (Throughout (lockstep (SessionActorMap.step ⟨leftNode, sessionTtl⟩)
        (SessionActorMap.step ⟨rightNode, sessionTtl⟩)) Agree
        (SessionActorMap.initial, SessionActorMap.initial) mapLog ↔
      EachStep (lockstep (SessionActorMap.step ⟨leftNode, sessionTtl⟩)
        (SessionActorMap.step ⟨rightNode, sessionTtl⟩))
        SessionActorMap.ClocksAgree
        (SessionActorMap.initial, SessionActorMap.initial) mapLog) :=
  ⟨throughout_iff_eachStep SessionState.agree_step_iff (Agree.refl _) stateLog,
    throughout_iff_eachStep
      (SessionActorMap.agree_step_iff sessionTtl leftNode rightNode) (Agree.refl _) mapLog⟩

/-- One registration, applied at time 100 by one replica and at time 200 by the
other; and one inflight registration likewise. -/
theorem replicas_disagree :
    (∃ pair, run (lockstep (SessionActorMap.step ⟨1, 60⟩) (SessionActorMap.step ⟨2, 60⟩))
        (SessionActorMap.initial, SessionActorMap.initial)
        [({ logId := { leaderId := { term := 1, nodeId := 1 }, index := 1 }
            payload := .normal (.registerSession "public" "client" 1) },
          fun _ => 100, fun _ => 200)] = some pair ∧
      pair.1.state.getAllExpiredSessions 200 =
        {{ tenantId := "public", sessionId := "client", nodeId := 1,
           sessionInstanceId := { logIndex := 1 } }} ∧
      pair.2.state.getAllExpiredSessions 200 = 0) ∧
    ∃ pair, run (lockstep SessionState.step SessionState.step)
        (SessionState.initial, SessionState.initial)
        [({ logId := { leaderId := { term := 1, nodeId := 1 }, index := 1 }
            payload := .normal (.createSessionState "public" "client" 10 none none) },
          ⟨100, fun _ => none⟩, ⟨200, fun _ => none⟩),
         ({ logId := { leaderId := { term := 1, nodeId := 1 }, index := 2 }
            payload := .normal (.inflightRegisterRxPacket "public" "client" 1 2 "key") },
          ⟨100, fun _ => none⟩, ⟨200, fun _ => none⟩)] = some pair ∧
      SessionState.timestampAt "public" "client" 1 pair.1.state = some 100 ∧
      SessionState.timestampAt "public" "client" 1 pair.2.state = some 200 :=
  ⟨⟨_, rfl, by decide, by decide⟩, ⟨_, rfl, by decide, by decide⟩⟩

end YedMQ.Raft
