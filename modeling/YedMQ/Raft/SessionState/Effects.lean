import YedMQ.Raft.SessionState.StateMachine
import YedMQ.Session.ExchangeTable

/-! # What a request does

Every request is about one session. `effect` is what it does to that session's state,
`claims` what it does to the references to payloads, and `exchangeUpdate` what it does to
the session's table of exchanges. Apart from making sure of the tenant, applying a request
does nothing else.
-/

namespace YedMQ.Raft.SessionState

open Foundation YedMQ SessionStateStorage Inflight ExchangeUpdate SessionState

def SessionStateRequest.target : SessionStateRequest → String × String
  | createSessionState tenantId clientId _ _ _ | deleteSessionState tenantId clientId _
  | inflightRegisterRxPacket tenantId clientId _ _ _
  | inflightRegisterTxPacket tenantId clientId _ _ _ _
  | inflightStartDelivery tenantId clientId _ _ | inflightDiscardUnsent tenantId clientId _ _
  | inflightGetCurrentPacket tenantId clientId _ | inflightNextState tenantId clientId _
  | inflightCleanFinishItems tenantId clientId | appendToPendingQueue tenantId clientId _
  | popFromPendingQueue tenantId clientId | subscribeTopic tenantId clientId _ _ _ _
  | unsubscribeTopic tenantId clientId _ | updateSessionConnectionState tenantId clientId _ _ =>
    (tenantId, clientId)

def SessionStateRequest.update : SessionStateRequest → Option SessionState → Option SessionState
  | createSessionState _ _ inflightDurationSecs protocolVersion sessionExpiryInterval =>
    fun _ => some (newWithOptions inflightDurationSecs protocolVersion sessionExpiryInterval)
  | deleteSessionState _ _ _ => fun _ => none
  | inflightStartDelivery _ _ packetId packetKey => Option.map fun state =>
    { state with
      inflight := (state.inflight.markDeliveryStarted packetId packetKey).1 }
  | inflightDiscardUnsent _ _ packetId packetKey => Option.map fun state =>
    { state with inflight := (state.inflight.discardUnsent packetId packetKey).1 }
  | inflightCleanFinishItems _ _ => Option.map fun state =>
    { state with inflight := state.inflight.cleanFinishedItems.1 }
  | subscribeTopic _ _ topic qos noLocal retainAsPublished =>
    match QoS.fromU8 qos with
    | some level => Option.map fun state =>
      { state with
        subscriptions := state.subscriptions.insert topic
          { qos := level
            noLocal := noLocal
            retainAsPublished := retainAsPublished } }
    | none => id
  | unsubscribeTopic _ _ topic => Option.map fun state =>
    { state with subscriptions := state.subscriptions.erase topic }
  | updateSessionConnectionState _ _ disconnectedAt sessionExpiryIntervalUpdate =>
    Option.map (updateConnectionState disconnectedAt sessionExpiryIntervalUpdate)
  | _ => id

def registerTx (now : Nat) (packetId : UInt16) (qos : UInt8) (packetKey : String)
    (deferred : Bool) (state : SessionState) : SessionState :=
  match state.inflight.registerWithTxPacket now packetId qos packetKey with
  | .ok (inflight, _) =>
    { state with
      inflight := setDeliveryStarted packetId (!deferred) inflight }
  | .error _ => state

def SessionStateRequest.effect (now : Nat) :
    SessionStateRequest → Option SessionState → Option SessionState
  | deleteSessionState _ _ (some expected) => Option.filter fun state =>
    state.disconnectedAt != some expected
  | inflightRegisterRxPacket _ _ packetId qos packetKey => Option.map fun state =>
    { state with
      inflight := (state.inflight.registerWithRxPacket now packetId qos packetKey).1 }
  | inflightRegisterTxPacket _ _ packetId qos packetKey deferred =>
    Option.map (registerTx now packetId qos packetKey deferred)
  | inflightNextState _ _ packetIdentifier => Option.map fun state =>
    { state with inflight := (state.inflight.nextState now packetIdentifier).1 }
  | appendToPendingQueue _ _ packetKey => Option.map fun state =>
    { state with pendingMessages := state.pendingMessages ++ [packetKey] }
  | popFromPendingQueue _ _ => Option.map fun state =>
    { state with pendingMessages := state.pendingMessages.dropLast }
  | request => request.update

def SessionStateRequest.ensuresTenant : SessionStateRequest → Bool
  | createSessionState .. | inflightRegisterRxPacket .. | inflightRegisterTxPacket ..
  | appendToPendingQueue .. | subscribeTopic .. => true
  | _ => false

def SessionStateRequest.claims (now : Nat) :
    SessionStateRequest → SessionState → Option String × Multiset String
  | deleteSessionState _ _ expected => fun state =>
    if expected.all fun expected => state.disconnectedAt == some expected then
      (none, state.pendingMessages + state.inflight.getAllPacketKeys)
    else
      (none, 0)
  | inflightRegisterRxPacket _ _ packetId qos packetKey => fun state =>
    (some packetKey, (state.inflight.registerWithRxPacket now packetId qos packetKey).2.toList)
  | inflightRegisterTxPacket _ _ packetId qos packetKey _ => fun state =>
    match state.inflight.registerWithTxPacket now packetId qos packetKey with
    | .ok (_, oldKey) => (some packetKey, oldKey.toList)
    | .error _ => (none, 0)
  | inflightDiscardUnsent _ _ packetId packetKey => fun state =>
    (none, (state.inflight.discardUnsent packetId packetKey).2.toList)
  | inflightCleanFinishItems _ _ => fun state => (none, state.inflight.cleanFinishedItems.2)
  | appendToPendingQueue _ _ packetKey => fun _ => (some packetKey, 0)
  | popFromPendingQueue _ _ => fun state => (none, state.pendingMessages.getLast?.toList)
  | _ => fun _ => (none, 0)

def exchangeRefs (claims : Option String × Multiset String) (counts : RefCounts String) :
    RefCounts String × Multiset String :=
  RefCounts.decrementAll claims.2 (claims.1.elim counts fun key => counts.increment key)

structure Affects (target : String × String) (effect : Option SessionState → Option SessionState)
    (storage next : SessionStateStorage) : Prop where
  here : next.getSessionState target.1 target.2 = effect (storage.getSessionState target.1 target.2)
  elsewhere : ∀ tenantId clientId, (tenantId, clientId) ≠ target →
    next.getSessionState tenantId clientId = storage.getSessionState tenantId clientId

variable {reading : Reading} {logId : LogId} {storage middle next : SessionStateStorage}
  {request : SessionStateRequest} {output : Applied}

structure Describes (target : String × String)
    (effect : Option SessionState → Option SessionState) (ensures : Bool)
    (claims : SessionState → Option String × Multiset String)
    (storage next : SessionStateStorage) (freed : Multiset String) : Prop
    extends Affects target effect storage next where
  tenants : ∀ tenantId, next.inner.hasOuter tenantId =
    (ensures && decide (tenantId = target.1) || storage.inner.hasOuter tenantId)
  counts : exchangeRefs ((storage.getSessionState target.1 target.2).elim (none, 0) claims)
    storage.refCounts = (next.refCounts, freed)

variable {tenantId clientId : String} {effect : Option SessionState → Option SessionState}
  {ensures : Bool} {claims : SessionState → Option String × Multiset String}
  {freed : Multiset String} {state updated : SessionState}

/-- There is nothing to change, except that the tenant may be new. -/
theorem describes_of_same (nothing : effect (storage.getSessionState tenantId clientId) =
      storage.getSessionState tenantId clientId)
    (silent : ∀ state ∈ storage.getSessionState tenantId clientId, claims state = (none, 0)) :
    Describes (tenantId, clientId) effect ensures claims storage
      (bif ensures then storage.ensureTenant tenantId else storage) 0 := by
  have reads : ∀ tenant client,
      (bif ensures then storage.ensureTenant tenantId else storage).getSessionState tenant client =
        storage.getSessionState tenant client := by
    intro tenant client
    cases ensures with
    | true => exact storage.getSessionState_ensureTenant tenantId tenant client
    | false => rfl
  refine ⟨⟨?_, fun tenant client _ => reads tenant client⟩, ?_, ?_⟩
  · rw [reads, nothing]
  · intro tenant
    cases ensures with
    | true => exact NestedMap.hasOuter_ensureOuter tenantId storage.inner tenant
    | false => simp
  · have unclaimed : (storage.getSessionState tenantId clientId).elim (none, 0) claims =
        (none, 0) := by
      cases present : storage.getSessionState tenantId clientId with
      | none => rfl
      | some state => exact silent state present
    rw [unclaimed]
    cases ensures <;> rfl

theorem describes_of_absent (absent : storage.getSessionState tenantId clientId = none)
    (nothing : effect none = none) :
    Describes (tenantId, clientId) effect ensures claims storage
      (bif ensures then storage.ensureTenant tenantId else storage) 0 := by
  apply describes_of_same
  · rw [absent, nothing]
  · simp [absent]

theorem describes_of_set (written : effect (storage.getSessionState tenantId clientId) =
      some updated)
    (known : ensures = true ∨ (storage.getSessionState tenantId clientId).isSome = true)
    (inner : next.inner = storage.inner.setAt tenantId clientId updated)
    (counts : exchangeRefs ((storage.getSessionState tenantId clientId).elim (none, 0) claims)
      storage.refCounts = (next.refCounts, freed)) :
    Describes (tenantId, clientId) effect ensures claims storage next freed := by
  refine ⟨⟨?_, ?_⟩, ?_, counts⟩
  · rw [written, getSessionState, inner, NestedMap.getAt_setAt_self]
  · intro tenant client other
    rw [getSessionState, inner, NestedMap.getAt_setAt_of_ne other]
    rfl
  · intro tenant
    rw [inner, NestedMap.hasOuter_setAt]
    rcases known with new | present
    · rw [new, Bool.true_and]
    · rcases Option.isSome_iff_exists.mp present with ⟨_, found⟩
      by_cases here : tenant = tenantId
      · simp [here, NestedMap.hasOuter_of_getAt found]
      · simp [here]

/-- A session is written and the reference to at most one key given up. -/
theorem describes_of_release {gained key : Option String}
    (present : storage.getSessionState tenantId clientId = some state)
    (written : effect (some state) = some updated)
    (claimed : claims state = (gained, (key.toList : Multiset String)))
    (inner : middle.inner = storage.inner.setAt tenantId clientId updated)
    (counts : middle.refCounts = gained.elim storage.refCounts fun key =>
      storage.refCounts.increment key) :
    Describes (tenantId, clientId) effect ensures claims storage (middle.decRefOption key).1
      ((middle.decRefOption key).2.toList : Multiset String) := by
  apply describes_of_set
  · rw [present, written]
  · simp [present]
  · rw [← inner]
    cases key <;> rfl
  · rw [present, Option.elim_some, claimed, exchangeRefs, ← counts]
    cases key with
    | none => rfl
    | some =>
      rw [Option.toList_some, Multiset.coe_singleton, ← Multiset.cons_zero,
        RefCounts.decrementAll_cons]
      simp [RefCounts.release, decRefOption, decRef]

theorem describes_modify (ensures : Bool) (update : SessionState → SessionState)
    (silent : ∀ state, claims state = (none, 0)) :
    Describes (tenantId, clientId) (Option.map update) ensures claims storage
      ((bif ensures then storage.ensureTenant tenantId else storage).modifySessionState tenantId
        clientId update) 0 := by
  rw [modifySessionState]
  have reads : (bif ensures then storage.ensureTenant tenantId else storage).getSessionState
      tenantId clientId = storage.getSessionState tenantId clientId := by
    cases ensures <;> simp
  rw [reads]
  cases present : storage.getSessionState tenantId clientId with
  | none => exact describes_of_absent present rfl
  | some state =>
    apply describes_of_set
    · rw [present]
      rfl
    · simp [present]
    · cases ensures with
      | true => exact NestedMap.setAt_ensureOuter tenantId clientId (update state) storage.inner
      | false => rfl
    · rw [present, Option.elim_some, silent]
      cases ensures <;> rfl

theorem describes_delete (present : storage.getSessionState tenantId clientId = some state)
    (deleted : effect (some state) = none) {keys : Multiset String}
    (claimed : claims state = (none, keys)) :
    Describes (tenantId, clientId) effect false claims storage
      { inner := storage.inner.alterAt tenantId clientId fun _ => none
        refCounts := (storage.refCounts.decrementAll keys).1 }
      (storage.refCounts.decrementAll keys).2 := by
  refine ⟨⟨?_, ?_⟩, ?_, ?_⟩
  · rw [present, deleted]
    exact (NestedMap.getAt_alterAt_self tenantId clientId _ storage.inner).trans
      (Option.bind_fun_none _)
  · intro tenant client other
    exact NestedMap.getAt_alterAt_of_ne other _ storage.inner
  · simp
  · rw [present, Option.elim_some, claimed]
    rfl

/-- What applying a request does, and that it does nothing else. -/
theorem applyRequest_describes
    (handled : applyRequest reading logId storage request = .ok (next, output)) :
    Describes request.target (request.effect reading.now) request.ensuresTenant
      (request.claims reading.now) storage next output.freed := by
  cases request with
  | createSessionState tenantId clientId =>
    cases handled
    apply describes_of_set
    · rfl
    · exact .inl rfl
    · rfl
    · cases storage.getSessionState tenantId clientId <;> rfl
  | deleteSessionState tenantId clientId expected =>
    cases expected with
    | none =>
      cases handled
      cases present : storage.getSessionState tenantId clientId with
      | none => exact describes_of_absent present rfl
      | some => exact describes_delete present rfl rfl
    | some expected =>
      simp only [applyRequest, shouldDelete, deleteSessionState] at handled
      cases present : storage.getSessionState tenantId clientId with
      | none =>
        simp only [present] at handled
        cases handled
        exact describes_of_absent present rfl
      | some state =>
        simp only [present] at handled
        split at handled
        · rename_i matching
          cases handled
          refine describes_delete present ?_ (if_pos matching)
          simp [SessionStateRequest.effect, eq_of_beq matching]
        · rename_i different
          cases handled
          apply describes_of_same
          · rw [present]
            simpa [SessionStateRequest.effect] using different
          · simp only [present, Option.mem_some_iff, forall_eq']
            exact if_neg different
  | inflightRegisterRxPacket tenantId clientId packetId qos packetKey =>
    cases handled
    simp only [getSessionState_ensureTenant]
    cases present : storage.getSessionState tenantId clientId with
    | none => exact describes_of_absent present rfl
    | some =>
      apply describes_of_release present
      · rfl
      · rfl
      · exact NestedMap.setAt_ensureOuter tenantId clientId _ storage.inner
      · rfl
  | inflightRegisterTxPacket tenantId clientId packetId qos packetKey deferred =>
    simp only [applyRequest, inflightRegisterTxPacket, getSessionState_ensureTenant] at handled
    cases present : storage.getSessionState tenantId clientId with
    | none =>
      simp only [present] at handled
      cases handled
      exact describes_of_absent present rfl
    | some state =>
      cases outcome : state.inflight.registerWithTxPacket reading.now packetId qos packetKey with
      | error =>
        simp only [present, outcome] at handled
        cases handled
        apply describes_of_same
        · rw [present]
          simp [SessionStateRequest.effect, registerTx, outcome]
        · simp [present, SessionStateRequest.claims, outcome]
      | ok =>
        simp only [present, outcome] at handled
        cases handled
        apply describes_of_release present
        · simp only [SessionStateRequest.effect, Option.map_some, registerTx, outcome]
          rfl
        · simp only [SessionStateRequest.claims, outcome]
          rfl
        · exact NestedMap.setAt_ensureOuter tenantId clientId _ storage.inner
        · rfl
  | inflightDiscardUnsent tenantId clientId | popFromPendingQueue tenantId clientId =>
    cases handled
    cases present : storage.getSessionState tenantId clientId with
    | none => exact describes_of_absent present rfl
    | some => exact describes_of_release present rfl rfl rfl rfl
  | inflightGetCurrentPacket =>
    cases handled
    exact describes_of_same rfl fun _ _ => rfl
  | inflightCleanFinishItems tenantId clientId =>
    cases handled
    cases present : storage.getSessionState tenantId clientId with
    | none => exact describes_of_absent present rfl
    | some =>
      apply describes_of_set
      · rw [present]
        rfl
      · simp [present]
      · rfl
      · rw [present]
        rfl
  | appendToPendingQueue tenantId clientId =>
    cases handled
    simp only [appendToPendingQueue, getSessionState_ensureTenant]
    cases present : storage.getSessionState tenantId clientId with
    | none => exact describes_of_absent present rfl
    | some =>
      apply describes_of_set
      · rw [present]
        rfl
      · exact .inl rfl
      · exact NestedMap.setAt_ensureOuter tenantId clientId _ storage.inner
      · rw [present]
        rfl
  | subscribeTopic tenantId clientId topic qos =>
    rw [applyRequest] at handled
    split at handled
    · rename_i valid
      cases handled
      rw [SessionStateRequest.effect, SessionStateRequest.update, valid]
      · exact describes_modify true _ fun _ => rfl
      all_goals nofun
    · cases handled
  | inflightStartDelivery | inflightNextState | unsubscribeTopic | updateSessionConnectionState =>
    cases handled
    exact describes_modify false _ fun _ => rfl

theorem exists_applyRequest {outcome : SessionStateStorage × Applied}
    (handled : applyRequest reading logId storage request = .ok outcome) (other : Reading)
    (position : LogId) (start : SessionStateStorage) :
    ∃ result, applyRequest other position start request = .ok result := by
  cases request with
  | subscribeTopic =>
    rw [applyRequest] at handled ⊢
    split
    · exact ⟨_, rfl⟩
    · rename_i invalid
      rw [invalid] at handled
      cases handled
  | inflightRegisterTxPacket | deleteSessionState =>
    rw [applyRequest]
    split <;> exact ⟨_, rfl⟩
  | _ => exact ⟨_, rfl⟩

/-- Two requests that agree on one session up to a view of the states leave storages that
agree up to this view. -/
theorem Describes.eq_view {target : String × String}
    {seenEffect : Option SessionState → Option SessionState}
    {seenClaims : SessionState → Option String × Multiset String} {seen : SessionStateStorage}
    {seenFreed : Multiset String} {view : SessionState → SessionState}
    (first : Describes target seenEffect ensures seenClaims
      { storage with inner := storage.inner.mapRecords view } seen seenFreed)
    (second : Describes target effect ensures claims storage next freed)
    (effects : seenEffect ((storage.getSessionState target.1 target.2).map view) =
      (effect (storage.getSessionState target.1 target.2)).map view)
    (sameClaims : ∀ state ∈ storage.getSessionState target.1 target.2,
      seenClaims (view state) = claims state) :
    seen = { next with inner := next.inner.mapRecords view } ∧ seenFreed = freed := by
  have reads := NestedMap.getAt_mapRecords view storage.inner
  have inner : seen.inner = next.inner.mapRecords view := by
    apply NestedMap.ext_getAt
    · intro tenantId
      rw [first.tenants, NestedMap.hasOuter_mapRecords, NestedMap.hasOuter_mapRecords,
        second.tenants]
    · intro tenantId clientId
      rw [NestedMap.getAt_mapRecords]
      by_cases here : (tenantId, clientId) = target
      · subst here
        exact (first.here.trans (congrArg seenEffect (reads _ _))).trans
          (effects.trans (congrArg (Option.map view) second.here.symm))
      · exact (first.elsewhere _ _ here).trans ((reads _ _).trans
          (congrArg (Option.map view) (second.elsewhere _ _ here).symm))
  have counts : (seen.refCounts, seenFreed) = (next.refCounts, freed) := by
    rw [← first.counts, ← second.counts, getSessionState, reads]
    congr 1
    cases present : storage.getSessionState target.1 target.2 with
    | none => exact congrArg (fun state => Option.elim (Option.map view state) _ _) present
    | some state =>
      exact (congrArg (fun state => Option.elim (Option.map view state) _ _) present).trans
        (sameClaims state present)
  rcases seen with ⟨_, _⟩
  cases inner
  cases counts
  exact ⟨rfl, rfl⟩

/-! ## Tables of exchanges -/

def SessionStateRequest.exchangeUpdate : SessionStateRequest → ExchangeUpdate
  | inflightRegisterRxPacket _ _ packetId qos packetKey => .receive packetId qos packetKey
  | inflightRegisterTxPacket _ _ packetId qos packetKey deferred =>
    .send packetId qos packetKey (!deferred)
  | inflightStartDelivery _ _ packetId packetKey => .markDeliveryStarted packetId packetKey
  | inflightDiscardUnsent _ _ packetId packetKey => .discardUnsent packetId packetKey
  | inflightNextState _ _ packetIdentifier => .advance packetIdentifier
  | inflightCleanFinishItems _ _ => .clean
  | _ => .keep

def SessionStateRequest.isLifecycle : SessionStateRequest → Bool
  | createSessionState .. => true
  | deleteSessionState .. => true
  | _ => false

theorem table_registerTx (now : Nat) (packetId : UInt16) (qos : UInt8) (packetKey : String)
    (deferred : Bool) (state : SessionState) :
    (registerTx now packetId qos packetKey deferred state).inflight.table =
      (send packetId qos packetKey (!deferred)).apply state.inflight.table := by
  rw [registerTx]
  split
  · rename_i inflight oldKey registered
    rcases table_registerWithTxPacket registered with ⟨inserted, free⟩
    rw [table_setDeliveryStarted, inserted]
    funext id
    simp only [apply, act]
    split
    · rename_i here
      subst here
      rw [free, Exchange.sent, Exchange.sent]
      split
      · rfl
      · split <;> rfl
    · rfl
  · rename_i error refused
    have used := registerWithTxPacket_eq_error_iff.mp ⟨error, refused⟩
    rw [packetIdExists_eq] at used
    rcases Option.isSome_iff_exists.mp used with ⟨_, present⟩
    funext id
    simp only [apply, act]
    split
    · rename_i here
      subst here
      rw [present, Option.some_or]
    · rfl

theorem table_effect (stays : request.isLifecycle = false) (now : Nat)
    (present : Option SessionState) :
    (request.effect now present).map (fun state => state.inflight.table) =
      present.map fun state => request.exchangeUpdate.apply state.inflight.table := by
  cases present with
  | none =>
    cases request with
    | createSessionState | deleteSessionState => cases stays
    | subscribeTopic tenantId clientId topic qos =>
      simp only [SessionStateRequest.effect, SessionStateRequest.update]
      cases QoS.fromU8 qos <;> rfl
    | _ => rfl
  | some state =>
    cases request with
    | createSessionState | deleteSessionState => cases stays
    | inflightRegisterRxPacket =>
      exact congrArg some (table_registerWithRxPacket state.inflight)
    | inflightRegisterTxPacket tenantId clientId packetId qos packetKey deferred =>
      exact congrArg some (table_registerTx now packetId qos packetKey deferred state)
    | inflightStartDelivery =>
      exact congrArg some (table_markDeliveryStarted state.inflight)
    | inflightDiscardUnsent =>
      exact congrArg some (table_discardUnsent state.inflight)
    | inflightNextState =>
      exact congrArg some (table_nextState state.inflight)
    | inflightCleanFinishItems =>
      exact congrArg some (table_cleanFinishedItems state.inflight)
    | subscribeTopic tenantId clientId topic qos =>
      simp only [SessionStateRequest.effect, SessionStateRequest.update]
      cases QoS.fromU8 qos <;> rfl
    | updateSessionConnectionState tenantId clientId disconnectedAt interval =>
      cases interval <;> rfl
    | _ => rfl

end YedMQ.Raft.SessionState
