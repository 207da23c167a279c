import YedMQ.Raft.SessionState.Effects

/-! # Reference counts along the log

Which logs keep the table of payload reference counts exact. Two kinds of request
break it: creating a session over one that still holds payload keys, and
registering a packet whose QoS leaves no inflight item. All others keep it.
-/

namespace YedMQ.Raft.SessionState

open Foundation Semantics YedMQ SessionStateStorage SessionState Inflight

/-- The condition on a request, in the storage it meets, under which the counts
stay exact. -/
def KeepsCounts (storage : SessionStateStorage) : SessionStateRequest → Prop
  | .createSessionState tenantId clientId _ _ _ =>
    storage.replacedKeys tenantId clientId = 0
  | .inflightRegisterRxPacket tenantId clientId _ qos _ =>
    storage.getSessionState tenantId clientId = none ∨ Inflight.Tracked qos
  | .inflightRegisterTxPacket tenantId clientId packetId qos _ _ =>
    storage.getSessionState tenantId clientId = none ∨
      storage.packetIdUsed tenantId clientId packetId = true ∨ Inflight.Tracked qos
  | _ => True

/-- The books of a request at the session it is about. It gains a claim only on the key that
it registers, it never loses more claims than held keys, and it loses equally many exactly
when `exact`. -/
structure Balanced (claims : Option String × Multiset String) (offered : Option String)
    (before after : Multiset String) (exact : Prop) : Prop where
  within : (claims.1.toList : Multiset String) ≤ offered.toList
  covered : claims.2 + after ≤ claims.1.toList + before
  exact : claims.2 + after = claims.1.toList + before ↔ exact

variable {lost before after freed : Multiset String} {offered : Option String} {key : String}
  {exact : Prop}

theorem Balanced.loses (equal : lost + after = 0 + before) (holds : exact) :
    Balanced (none, lost) offered before after exact :=
  ⟨Multiset.zero_le _, equal.le, iff_of_true equal holds⟩

theorem Balanced.gains (equal : lost + after = {key} + before) (holds : exact) :
    Balanced (some key, lost) (some key) before after exact :=
  ⟨le_refl _, equal.le, iff_of_true equal holds⟩

/-- A packet that leaves no inflight item is counted without being held. -/
theorem Balanced.unheld (fails : ¬ exact) :
    Balanced (some key, 0) (some key) before before exact := by
  have surplus : 0 + before < {key} + before := by
    simpa using Multiset.lt_cons_self before key
  exact ⟨le_refl _, surplus.le, iff_of_false surplus.ne fails⟩

variable {claims : Option String × Multiset String}

/-- The books of one place are those of all places. -/
theorem Balanced.spread
    (balanced : Balanced claims offered before after exact) {held heldAfter : Multiset String}
    (exchanged : before + heldAfter = after + held) :
    Balanced claims offered held heldAfter exact := by
  have shifted : before + (claims.2 + heldAfter) = claims.2 + after + held := by
    rw [add_left_comm, exchanged, add_assoc]
  have base : before + (claims.1.toList + held) = claims.1.toList + before + held := by
    rw [add_left_comm, add_assoc]
  refine ⟨balanced.within, ?_, ?_⟩
  · rw [← add_le_add_iff_left before, shifted, base, add_le_add_iff_right]
    exact balanced.covered
  · rw [← add_right_inj before, shifted, base, add_left_inj]
    exact balanced.exact

def keysAt (place : Option SessionState) : Multiset String :=
  (place.map keys).getD 0

variable {request : SessionStateRequest} {state : SessionState} {storage : SessionStateStorage}

theorem balanced_registerTx {tenantId clientId : String} (now : Nat) (packetId : UInt16)
    (qos : UInt8) (packetKey : String) (deferred : Bool)
    (present : storage.getSessionState tenantId clientId = some state) :
    Balanced ((SessionStateRequest.inflightRegisterTxPacket tenantId clientId packetId qos packetKey
        deferred).claims now state) (some packetKey) state.keys
      (registerTx now packetId qos packetKey deferred state).keys
      (storage.getSessionState tenantId clientId = none ∨
        storage.packetIdUsed tenantId clientId packetId = true ∨ Tracked qos) := by
  rw [packetIdUsed, present]
  simp only [SessionStateRequest.claims, registerTx]
  cases outcome : state.inflight.registerWithTxPacket now packetId qos packetKey with
  | error error =>
    exact .loses rfl (.inr (.inl (registerWithTxPacket_eq_error_iff.mp ⟨error, outcome⟩)))
  | ok registered =>
    by_cases tracked : Tracked qos
    · refine .gains (keys_moved_inflight ?_) (.inr (.inr tracked))
      rw [setDeliveryStarted_keys]
      exact registerWithTxPacket_keys tracked outcome
    · have free : ¬ state.inflight.packetIdExists packetId = true := by
        intro used
        rcases registerWithTxPacket_eq_error_iff.mpr used with ⟨_, refused⟩
        rw [refused] at outcome
        cases outcome
      rcases registerWithTxPacket_of_not_tracked tracked outcome with ⟨unchanged, nothing⟩
      have same : keys { state with
          inflight := setDeliveryStarted packetId (!deferred) registered.1 } = state.keys := by
        rw [keys_with_inflight, setDeliveryStarted_keys, unchanged]
        rfl
      dsimp only
      rw [same, nothing]
      apply Balanced.unheld
      simp [free, tracked]

theorem balanced_of_present (now : Nat)
    (present : storage.getSessionState request.target.1 request.target.2 = some state) :
    Balanced (request.claims now state) request.registeredKey state.keys
      (keysAt (request.effect now (some state))) (KeepsCounts storage request) := by
  cases request with
  | createSessionState tenantId clientId =>
    have replaced : storage.replacedKeys tenantId clientId = state.keys := congrArg keysAt present
    refine ⟨le_refl _, Multiset.zero_le _, ?_⟩
    rw [KeepsCounts, replaced]
    exact (Eq.congr_right (zero_add state.keys)).trans eq_comm
  | deleteSessionState _ _ expected =>
    cases expected with
    | none => exact .loses (add_comm state.keys 0) trivial
    | some expected =>
      by_cases matching : state.disconnectedAt = some expected
      · simp only [SessionStateRequest.claims, SessionStateRequest.effect, Option.filter_some,
          Option.all_some, matching, beq_self_eq_true, bne_self_eq_false, if_true]
        exact .loses (add_comm state.keys 0) trivial
      · simp only [SessionStateRequest.claims, SessionStateRequest.effect, Option.filter_some,
          Option.all_some, bne_iff_ne, beq_iff_eq, ne_eq, matching, not_false_eq_true, if_true,
          if_false]
        exact .loses rfl trivial
  | inflightRegisterRxPacket _ _ packetId qos packetKey =>
    by_cases tracked : Tracked qos
    · refine .gains (keys_moved_inflight ?_) (.inr tracked)
      exact registerWithRxPacket_keys tracked now packetId packetKey state.inflight
    · simp only [SessionStateRequest.claims, SessionStateRequest.effect, Option.map_some,
        registerWithRxPacket_of_not_tracked tracked]
      apply Balanced.unheld
      rintro (absent | tracks)
      · cases present.symm.trans absent
      · exact tracked tracks
  | inflightRegisterTxPacket _ _ packetId qos packetKey deferred =>
    exact balanced_registerTx now packetId qos packetKey deferred present
  | inflightStartDelivery _ _ packetId packetKey =>
    refine .loses (keys_moved_inflight ?_) trivial
    rw [markDeliveryStarted_keys]
  | inflightNextState _ _ packetIdentifier =>
    refine .loses (keys_moved_inflight ?_) trivial
    rw [nextState_keys]
  | inflightDiscardUnsent _ _ packetId packetKey =>
    refine .loses (keys_moved_inflight ?_) trivial
    rw [discardUnsent_keys, zero_add]
  | inflightCleanFinishItems =>
    refine .loses (keys_moved_inflight ?_) trivial
    rw [cleanFinishedItems_keys, zero_add]
  | appendToPendingQueue _ _ packetKey =>
    refine .gains ?_ trivial
    change 0 + (((state.pendingMessages ++ [packetKey] : List String) : Multiset String) + _) = _
    rw [zero_add, keys, ← Multiset.coe_add, Multiset.coe_singleton, add_right_comm, add_comm]
  | popFromPendingQueue =>
    refine .loses ?_ trivial
    change _ + ((state.pendingMessages.dropLast : Multiset String) + _) = _
    rw [zero_add, keys, ← add_assoc, getLast?_add_dropLast]
  | subscribeTopic _ _ _ qos =>
    simp only [SessionStateRequest.effect, SessionStateRequest.update]
    cases QoS.fromU8 qos <;> exact .loses rfl trivial
  | updateSessionConnectionState _ _ _ update =>
    cases update <;> exact .loses rfl trivial
  | inflightGetCurrentPacket | unsubscribeTopic => exact .loses rfl trivial

theorem balanced_of_absent (now : Nat)
    (absent : storage.getSessionState request.target.1 request.target.2 = none) :
    Balanced (none, 0) request.registeredKey 0 (keysAt (request.effect now none))
      (KeepsCounts storage request) := by
  cases request with
  | createSessionState => exact .loses rfl (congrArg keysAt absent)
  | deleteSessionState _ _ expected => cases expected <;> exact .loses rfl trivial
  | inflightRegisterRxPacket | inflightRegisterTxPacket => exact .loses rfl (.inl absent)
  | subscribeTopic _ _ _ qos =>
    simp only [SessionStateRequest.effect, SessionStateRequest.update]
    cases QoS.fromU8 qos <;> exact .loses rfl trivial
  | _ => exact .loses rfl trivial

variable {next : SessionStateStorage}

theorem accounts_of_exchangeRefs
    (exchanged : exchangeRefs claims storage.refCounts = (next.refCounts, freed)) :
    storage.Accounts next claims.1.toList claims.2 freed := by
  have counted : ∀ held, storage.refCounts.Represents held →
      (claims.1.elim storage.refCounts fun key => storage.refCounts.increment key).Represents
        (claims.1.toList + held) := by
    intro held represents
    cases claims.1 with
    | none => simpa using represents
    | some key => simpa using represents.increment key
  rcases Prod.ext_iff.mp exchanged with ⟨counts, frees⟩
  dsimp only at counts frees
  constructor
  · intro held represents
    rw [← counts]
    exact (counted held represents).decrementAll claims.2
  · intro held represents key member
    rw [← frees] at member
    exact (counted held represents).notMem_of_mem_freed member

theorem accounted_applyRequest {reading : Reading} {logId : LogId}
    {result : Applied}
    (applied : applyRequest reading logId storage request = .ok (next, result)) :
    storage.Accounted next request.registeredKey.toList result.freed
      (KeepsCounts storage request) := by
  have describes := applyRequest_describes applied
  -- The keys held at the session are exchanged for the new ones.
  have exchanged : keysAt (storage.getSessionState request.target.1 request.target.2) +
      next.heldKeys = keysAt (request.effect reading.now
        (storage.getSessionState request.target.1 request.target.2)) + storage.heldKeys := by
    rw [← describes.here]
    apply NestedMap.total_of_elsewhere keys (newWithOptions 0 none none)
    · intro tenantId other
      rw [describes.tenants]
      simp [other]
    · intro tenantId clientId other
      exact (describes.elsewhere tenantId clientId other).symm
  have balanced : Balanced ((storage.getSessionState request.target.1 request.target.2).elim
      (none, 0) (request.claims reading.now)) request.registeredKey
      (keysAt (storage.getSessionState request.target.1 request.target.2))
      (keysAt (request.effect reading.now
        (storage.getSessionState request.target.1 request.target.2)))
      (KeepsCounts storage request) := by
    cases present : storage.getSessionState request.target.1 request.target.2 with
    | some => exact balanced_of_present reading.now present
    | none => exact balanced_of_absent reading.now present
  have books := balanced.spread exchanged
  exact ⟨_, _, books.within, accounts_of_exchangeRefs describes.counts, books.covered, books.exact⟩

def EntryKeepsCounts (data : StateMachineData SessionStateStorage)
    (input : Entry SessionStateRequest × Reading) : Prop :=
  match input.1.payload with
  | .normal request => KeepsCounts data.state request
  | _ => True

theorem exactCounts_step_iff (data : StateMachineData SessionStateStorage)
    (input : Entry SessionStateRequest × Reading)
    (next : StateMachineData SessionStateStorage)
    (exact : data.state.ExactCounts) (stepped : step data input = some next) :
    next.state.ExactCounts ↔ EntryKeepsCounts data input := by
  have effect := (StateMachineData.step_eq_some stepped).2
  unfold EntryKeepsCounts
  cases payload : input.1.payload with
  | blank | membership =>
    simp only [payload] at effect
    simpa [effect.1] using exact
  | normal =>
    simp only [payload] at effect
    rcases effect.2 with ⟨_, applied⟩
    rcases accounted_applyRequest applied with
      ⟨_, _, _, accounts, covered, balanced⟩
    exact (accounts.exactCounts_iff exact covered).trans balanced

/-- The table of reference counts is exact in every state along a log exactly when
every entry keeps it exact. -/
theorem exactCounts_throughout_iff (log : List (Entry SessionStateRequest × Reading)) :
    Throughout step (fun data => data.state.ExactCounts) initial log ↔
      EachStep step EntryKeepsCounts initial log :=
  throughout_iff_eachStep exactCounts_step_iff exactCounts_new log

theorem coveringCounts_step (data : StateMachineData SessionStateStorage)
    (input : Entry SessionStateRequest × Reading) (next : StateMachineData SessionStateStorage)
    (covering : data.state.CoveringCounts) (stepped : step data input = some next) :
    next.state.CoveringCounts := by
  have effect := (StateMachineData.step_eq_some stepped).2
  cases payload : input.1.payload with
  | blank | membership =>
    simp only [payload] at effect
    rw [effect.1]
    exact covering
  | normal =>
    simp only [payload] at effect
    rcases effect.2 with ⟨_, applied⟩
    exact ((accounted_applyRequest applied).coveringCounts covering).1

/-- The counts may be too high, but never too low: along every log, a key that a request gives
free for collection is held by no session afterwards. -/
theorem freed_keys_unheld (log : List (Entry SessionStateRequest × Reading)) :
    Throughout step (fun data => ∀ reading logId request next applied,
      applyRequest reading logId data.state request = .ok (next, applied) →
        ∀ key ∈ applied.freed, key ∉ next.heldKeys) initial log := by
  intro visited _ data runs reading logId request next applied outcome
  have covering := run_invariant coveringCounts_step coveringCounts_new runs
  exact ((accounted_applyRequest outcome).coveringCounts covering).2

def committed (index : Nat) (request : SessionStateRequest) :
    Entry SessionStateRequest × Reading :=
  ({ logId := { leaderId := { term := 1, nodeId := 1 }, index := index }
     payload := .normal request },
    { now := 0, payload := fun _ => none })

def recreatedSession : List (Entry SessionStateRequest × Reading) :=
  [committed 1 (.createSessionState "public" "client" 10 none none),
    committed 2 (.appendToPendingQueue "public" "client" "key"),
    committed 3 (.createSessionState "public" "client" 10 none none)]

theorem recreatedSession_overcounts :
    ∃ data, run step initial recreatedSession = some data ∧
      data.state.refCounts.lookup "key" = some 1 ∧
      data.state.heldKeys.count "key" = 0 ∧ ¬ data.state.ExactCounts := by
  refine ⟨_, rfl, by decide, by decide, ?_⟩
  intro exact
  exact absurd (exact "key") (by decide)

end YedMQ.Raft.SessionState
