import YedMQ.Raft.SessionState.Effects
import YedMQ.Raft.SnapshotReplay

/-! # Snapshots of the session states

The snapshot builder reads the session states one by one under the read lock of the
storage, possibly after entries that its log position does not cover. Most requests may
be applied a second time when the snapshot is restored: they act on the place of one
session by an update that may be repeated, and the payload references that they release
are gone the second time. The queue operations, the registrations, `inflightNextState`
and the conditional deletion are not of this kind.
-/

namespace YedMQ.Raft.SessionState

open Foundation Semantics YedMQ SessionStateStorage StateMachineData SessionState

def SessionStateRequest.isRepeatable : SessionStateRequest → Bool
  | createSessionState .. => true
  | deleteSessionState _ _ expectedDisconnectedAt => expectedDisconnectedAt.isNone
  | inflightStartDelivery .. | inflightDiscardUnsent .. | inflightGetCurrentPacket ..
  | inflightCleanFinishItems .. | subscribeTopic .. | unsubscribeTopic ..
  | updateSessionConnectionState .. => true
  | inflightRegisterRxPacket .. | inflightRegisterTxPacket .. | inflightNextState ..
  | appendToPendingQueue .. | popFromPendingQueue .. => false

def isRepeatable (entry : Entry SessionStateRequest) : Bool :=
  match entry.payload with
  | .normal request => request.isRepeatable
  | _ => true

/-! ## What a request does to the place of one session -/

/-- A request updates the session by a repeatable update, deletes it or creates a fresh
one. -/
theorem update_cases (request : SessionStateRequest) :
    (∃ inside, SessionState.Repeats inside ∧ request.update = Option.map inside) ∨
      (request.update = fun _ => none) ∨
      ∃ inflightDuration protocolVersion sessionExpiryInterval,
        request.update = fun _ => some (newWithOptions inflightDuration
          protocolVersion sessionExpiryInterval) := by
  cases request with
  | createSessionState => exact .inr (.inr ⟨_, _, _, rfl⟩)
  | deleteSessionState => exact .inr (.inl rfl)
  | inflightStartDelivery _ _ packetId packetKey =>
    exact .inl ⟨_, repeats_startDelivery packetId packetKey, rfl⟩
  | inflightDiscardUnsent _ _ packetId packetKey =>
    exact .inl ⟨_, repeats_discardUnsent packetId packetKey, rfl⟩
  | inflightCleanFinishItems =>
    exact .inl ⟨_, repeats_cleanFinishedItems, rfl⟩
  | subscribeTopic _ _ topic =>
    rw [SessionStateRequest.update]
    split
    · exact .inl ⟨_, repeats_subscribe topic _, rfl⟩
    · exact .inl ⟨id, SessionState.Repeats.band.refl, Option.map_id.symm⟩
  | unsubscribeTopic _ _ topic =>
    exact .inl ⟨_, repeats_unsubscribe topic, rfl⟩
  | updateSessionConnectionState _ _ disconnectedAt sessionExpiryIntervalUpdate =>
    exact .inl ⟨_, repeats_updateConnectionState disconnectedAt sessionExpiryIntervalUpdate, rfl⟩
  | _ => exact .inl ⟨id, SessionState.Repeats.band.refl, Option.map_id.symm⟩

theorem within_update (request : SessionStateRequest) :
    Within SessionState.Repeats request.update := by
  rcases update_cases request with within | deletes | ⟨_, _, _, creates⟩
  · exact .inl within
  · exact .inr ⟨none, deletes⟩
  · exact .inr ⟨_, creates⟩

variable (tenantId clientId : String)

def sessionEffect (input : Entry SessionStateRequest × Reading) :
    Option SessionState → Option SessionState :=
  match input.1.payload with
  | .normal request => if request.target = (tenantId, clientId) then request.update else id
  | _ => id

theorem sessionEffect_cases (input : Entry SessionStateRequest × Reading) :
    sessionEffect tenantId clientId input = id ∨ ∃ request : SessionStateRequest,
        sessionEffect tenantId clientId input = request.update := by
  rw [sessionEffect]
  split
  · split
    · exact .inr ⟨_, rfl⟩
    · exact .inl rfl
  · exact .inl rfl

theorem within_sessionEffect (input : Entry SessionStateRequest × Reading) :
    Within SessionState.Repeats (sessionEffect tenantId clientId input) := by
  rcases sessionEffect_cases tenantId clientId input with unchanged | ⟨request, updates⟩
  · rw [unchanged]
    exact (Within.band SessionState.Repeats.band).refl
  · rw [updates]
    exact within_update request

def SessionStateRequest.ensuredTenant : SessionStateRequest → Option String
  | createSessionState tenantId _ _ _ _ => some tenantId
  | subscribeTopic tenantId _ _ _ _ _ => some tenantId
  | _ => none

def tenantEffect (tenantId : String) (input : Entry SessionStateRequest × Reading) :
    Bool → Bool :=
  match input.1.payload with
  | .normal request => raise (request.ensuredTenant = some tenantId)
  | _ => id

theorem overwrite_tenantEffect (tenantId : String) (input : Entry SessionStateRequest × Reading) :
    Overwrite (tenantEffect tenantId input) := by
  rw [tenantEffect]
  split
  · exact Overwrite.raise _
  · exact .inl rfl

/-! ## Steps and runs -/

/-- What a request does to the sessions and tenants of a storage. -/
structure ActsOn (target : String × String)
    (update : Option SessionState → Option SessionState) (ensured : Option String)
    (storage next : SessionStateStorage) : Prop where
  session : ∀ tenantId clientId, next.getSessionState tenantId clientId =
    (if target = (tenantId, clientId) then update else id)
      (storage.getSessionState tenantId clientId)
  tenant : ∀ tenantId, next.inner.hasOuter tenantId =
    raise (ensured = some tenantId) (storage.inner.hasOuter tenantId)

variable {storage : SessionStateStorage} {reading : Reading} {request : SessionStateRequest}

theorem effect_of_isRepeatable (repeatable : request.isRepeatable = true) (now : Nat) :
    request.effect now = request.update := by
  cases request with
  | deleteSessionState _ _ expected =>
    cases expected with
    | none => rfl
    | some => cases repeatable
  | inflightRegisterRxPacket | inflightRegisterTxPacket
  | inflightNextState | appendToPendingQueue | popFromPendingQueue => cases repeatable
  | _ => rfl

theorem applyRequest_actsOn {logId : LogId} {next : SessionStateStorage} {output : Applied}
    (repeatable : request.isRepeatable = true)
    (handled : applyRequest reading logId storage request = .ok (next, output)) :
    ActsOn request.target request.update request.ensuredTenant storage next := by
  have describes := applyRequest_describes handled
  rw [effect_of_isRepeatable repeatable] at describes
  constructor
  · intro tenantId clientId
    split
    · rename_i here
      rw [here] at describes
      exact describes.here
    · rename_i elsewhere
      exact describes.elsewhere tenantId clientId (Ne.symm elsewhere)
  · intro tenantId
    rw [describes.tenants, Bool.or_comm]
    congr 1
    cases request with
    | createSessionState | subscribeTopic =>
      exact decide_eq_decide.mpr (eq_comm.trans Option.some_inj.symm)
    | inflightRegisterRxPacket | inflightRegisterTxPacket | appendToPendingQueue => cases repeatable
    | _ => rfl

/-- A request to the session, and the clock when it is applied. -/
def requestTo (tenantId clientId : String) (input : Entry SessionStateRequest × Reading) :
    Option (SessionStateRequest × Nat) :=
  match input.1.payload with
  | .normal request =>
    if request.target = (tenantId, clientId) then some (request, input.2.now) else none
  | _ => none

/-- What becomes of a session depends on the requests to it alone, and on the clock readings
that they are applied with. -/
theorem session_isolated (tenantId clientId : String) :
    Isolated step (fun _ => True) (fun data => data.state.getSessionState tenantId clientId)
      (requestTo tenantId clientId) := by
  apply isolated_of_reads fun request => request.1.effect request.2
  · exact fun _ _ _ _ _ => trivial
  · intro input data next _ stepped
    have changes := (step_eq_some stepped).2
    rw [requestTo]
    cases payload : input.1.payload with
    | blank | membership =>
      simp only [payload] at changes
      exact congrArg (getSessionState tenantId clientId) changes.1
    | normal request =>
      simp only [payload] at changes
      rcases changes.2 with ⟨_, handled⟩
      have describes := applyRequest_describes handled
      by_cases here : request.target = (tenantId, clientId)
      · rw [here] at describes
        simpa [here] using describes.here
      · simpa [here] using describes.elsewhere tenantId clientId (Ne.symm here)

/-! ## References that a request releases -/

def SessionStateRequest.drops (packetIdentifier : UInt16) (item : InflightItem) :
    SessionStateRequest → Bool
  | deleteSessionState _ _ _ => true
  | inflightCleanFinishItems _ _ => item.state == .finish
  | inflightDiscardUnsent _ _ packetId packetKey =>
    packetIdentifier == packetId && item.isUnsent packetKey
  | _ => false

/-- A request finds no reference that it would release. -/
structure Quiet (request : SessionStateRequest) (state : SessionState) : Prop where
  pending : ∀ tenantId clientId expected,
    request = .deleteSessionState tenantId clientId expected → state.pendingMessages = []
  item : ∀ packetIdentifier item, state.inflight.inner.lookup packetIdentifier = some item →
      request.drops packetIdentifier item = true → item.packetKey = none

theorem Quiet.remains {state before : SessionState} (quiet : Quiet request before)
    (remains : state.Remains before) :
    Quiet request state := by
  constructor
  · intro tenantId clientId expected deletes
    rw [remains.pending]
    exact quiet.pending tenantId clientId expected deletes
  · intro packetId item found drops
    rcases remains.item packetId item found with ⟨old, present, same | started⟩
    · subst same
      exact quiet.item packetId item present drops
    · subst started
      apply quiet.item packetId old present
      cases request with
      | inflightDiscardUnsent =>
        simp [SessionStateRequest.drops, InflightItem.isUnsent, InflightItem.start] at drops
      | _ => exact drops

theorem quiet_newWithOptions (request : SessionStateRequest) (inflightDuration : Nat)
    (protocolVersion : Option ProtocolVersion) (sessionExpiryInterval : Option UInt32) :
    Quiet request (newWithOptions inflightDuration protocolVersion sessionExpiryInterval) := by
  refine ⟨fun _ _ _ _ => rfl, ?_⟩
  intro packetId item found
  cases found

variable {value : Option SessionState}

/-- Once quiet, a request stays quiet whatever is applied. -/
theorem Quiet.update (quiet : ∀ state ∈ value, Quiet request state) (later : SessionStateRequest) :
    ∀ state ∈ later.update value, Quiet request state := by
  intro state found
  rcases update_cases later with ⟨_, repeats, maps⟩ | deletes | ⟨_, _, _, creates⟩
  · rw [maps] at found
    rcases Option.mem_map.mp found with ⟨before, present, result⟩
    subst result
    exact (quiet before present).remains (repeats.remains before)
  · rw [deletes] at found
    cases found
  · rw [creates] at found
    cases found
    exact quiet_newWithOptions request _ _ _

/-- A request leaves nothing that it would release a second time. -/
theorem quiet_update (request : SessionStateRequest) (value : Option SessionState) :
    ∀ state ∈ request.update value, Quiet request state := by
  intro state found
  cases request with
  | deleteSessionState => cases found
  | inflightCleanFinishItems =>
    rcases Option.mem_map.mp found with ⟨before, _, result⟩
    subst result
    refine ⟨nofun, ?_⟩
    intro packetIdentifier item kept drops
    rw [Inflight.lookup_cleanFinishedItems] at kept
    have unfinished := (Option.filter_eq_some_iff.mp kept).2
    have finished : item.state = .finish := eq_of_beq drops
    simp [finished] at unfinished
  | inflightDiscardUnsent _ _ packetId =>
    rcases Option.mem_map.mp found with ⟨_, _, result⟩
    subst result
    refine ⟨nofun, ?_⟩
    intro packetIdentifier item kept drops
    rcases Bool.and_eq_true_iff.mp drops with ⟨here, unsent⟩
    have same : packetIdentifier = packetId := eq_of_beq here
    subst same
    rw [Inflight.lookup_discardUnsent, if_pos rfl] at kept
    have sent := (Option.filter_eq_some_iff.mp kept).2
    simp [unsent] at sent
  | _ => exact ⟨nofun, nofun⟩

theorem Quiet.filterMap_packetKey {state : SessionState} (quiet : Quiet request state)
    {items : Multiset InflightItem}
    (dropped : ∀ item ∈ items, item ∈ state.inflight.inner.values ∧
      ∀ packetId, request.drops packetId item = true) :
    items.filterMap InflightItem.packetKey = 0 := by
  apply Multiset.eq_zero_of_forall_notMem
  intro key member
  rcases (Multiset.mem_filterMap _ _).mp member with ⟨item, listed, hasKey⟩
  rcases dropped item listed with ⟨stored, drops⟩
  rcases HashMap.mem_values_iff.mp stored with ⟨packetId, found⟩
  rw [quiet.item packetId item found (drops packetId)] at hasKey
  cases hasKey

theorem Quiet.claims_eq {state : SessionState} (quiet : Quiet request state)
    (repeatable : request.isRepeatable = true) (now : Nat) :
    request.claims now state = (none, 0) := by
  cases request with
  | deleteSessionState _ _ expected =>
    have noKeys : state.inflight.getAllPacketKeys = 0 :=
      quiet.filterMap_packetKey fun item stored => ⟨stored, fun _ => rfl⟩
    simp only [SessionStateRequest.claims, quiet.pending _ _ _ rfl, noKeys]
    split <;> rfl
  | inflightDiscardUnsent _ _ packetId packetKey =>
    simp only [SessionStateRequest.claims, Inflight.discardUnsent]
    split
    · rename_i item found
      split
      · rfl
      · rename_i removed
        rw [quiet.item packetId item found]
        · rfl
        simp only [SessionStateRequest.drops, InflightItem.isUnsent, beq_self_eq_true]
        rw [Bool.eq_false_of_not_eq_true removed]
        rfl
    · rfl
  | inflightCleanFinishItems =>
    have noKeys : state.inflight.cleanFinishedItems.2 = 0 := by
      apply quiet.filterMap_packetKey
      intro item listed
      rcases Multiset.mem_filter.mp listed with ⟨stored, finished⟩
      exact ⟨stored, fun _ => beq_of_eq finished⟩
    simp [SessionStateRequest.claims, noKeys]
  | inflightRegisterRxPacket | inflightRegisterTxPacket
  | appendToPendingQueue | popFromPendingQueue => cases repeatable
  | _ => rfl

theorem refCounts_of_quiet {logId : LogId} {next : SessionStateStorage} {output : Applied}
    (repeatable : request.isRepeatable = true)
    (quiet : ∀ state ∈ storage.getSessionState request.target.1 request.target.2,
      Quiet request state)
    (handled : applyRequest reading logId storage request = .ok (next, output)) :
    next.refCounts = storage.refCounts := by
  have counts := (applyRequest_describes handled).counts
  cases present : storage.getSessionState request.target.1 request.target.2 with
  | none =>
    rw [present] at counts
    exact (congrArg Prod.fst counts).symm
  | some state =>
    rw [present, Option.elim_some, (quiet state present).claims_eq repeatable] at counts
    exact (congrArg Prod.fst counts).symm

theorem Quiet.sessionEffect (quiet : ∀ state ∈ value, Quiet request state)
    (tenantId clientId : String) (input : Entry SessionStateRequest × Reading) :
    ∀ state ∈ sessionEffect tenantId clientId input value, Quiet request state := by
  rcases sessionEffect_cases tenantId clientId input with unchanged | ⟨later, updates⟩
  · rw [unchanged]
    exact quiet
  · rw [updates]
    exact Quiet.update quiet later

theorem Quiet.effect (quiet : ∀ state ∈ value, Quiet request state) (tenantId clientId : String)
    (inputs : List (Entry SessionStateRequest × Reading)) :
    ∀ state ∈ effect (SessionState.sessionEffect tenantId clientId) inputs value,
      Quiet request state := by
  induction inputs generalizing value with
  | nil => exact quiet
  | cons input inputs induction =>
    exact induction (Quiet.sessionEffect quiet tenantId clientId input)

/-! ## Runs -/

variable {data next : StateMachineData SessionStateStorage}
  {input : Entry SessionStateRequest × Reading}

theorem actsOn_step (repeatable : isRepeatable input.1 = true)
    (stepped : step data input = some next) :
    (∀ tenantId clientId, next.state.getSessionState tenantId clientId =
        sessionEffect tenantId clientId input (data.state.getSessionState tenantId clientId)) ∧
      ∀ tenantId, next.state.inner.hasOuter tenantId =
        tenantEffect tenantId input (data.state.inner.hasOuter tenantId) := by
  have changes := (step_eq_some stepped).2
  rw [isRepeatable] at repeatable
  simp only [sessionEffect, tenantEffect]
  cases payload : input.1.payload with
  | blank | membership =>
    simp only [payload] at changes
    simp [changes.1]
  | normal =>
    simp only [payload] at changes repeatable
    rcases changes.2 with ⟨_, handled⟩
    have acts := applyRequest_actsOn repeatable handled
    exact ⟨acts.session, acts.tenant⟩

def Settled (inputs : List (Entry SessionStateRequest × Reading))
    (storage : SessionStateStorage) : Prop :=
  ∀ input ∈ inputs, ∀ request, input.1.payload = .normal request →
    ∀ state ∈ storage.getSessionState request.target.1 request.target.2, Quiet request state

variable {inputs : List (Entry SessionStateRequest × Reading)}

theorem settled_step (repeatable : isRepeatable input.1 = true)
    (settled : Settled inputs data.state) (stepped : step data input = some next) :
    Settled inputs next.state := by
  intro other member request payload state found
  rw [(actsOn_step repeatable stepped).1] at found
  exact Quiet.sessionEffect (settled other member request payload) _ _ input state found

theorem refCounts_step (member : input ∈ inputs) (repeatable : isRepeatable input.1 = true)
    (settled : Settled inputs data.state) (stepped : step data input = some next) :
    next.state.refCounts = data.state.refCounts := by
  have changes := (step_eq_some stepped).2
  rw [isRepeatable] at repeatable
  cases payload : input.1.payload with
  | blank | membership =>
    simp only [payload] at changes
    rw [changes.1]
  | normal request =>
    simp only [payload] at changes repeatable
    rcases changes.2 with ⟨_, handled⟩
    exact refCounts_of_quiet repeatable (settled input member request payload) handled

variable {final : StateMachineData SessionStateStorage}

/-- Entries that are all settled leave the reference counts alone. -/
theorem refCounts_run {done : List (Entry SessionStateRequest × Reading)}
    (repeatable : ∀ input ∈ inputs, isRepeatable input.1 = true)
    (within : ∀ input ∈ done, input ∈ inputs) (settled : Settled inputs data.state)
    (runs : run step data done = some final) :
    final.state.refCounts = data.state.refCounts := by
  induction done generalizing data with
  | nil =>
    cases runs
    rfl
  | cons input done induction =>
    rcases Option.bind_eq_some_iff.mp runs with ⟨_, stepped, rest⟩
    have member := within input List.mem_cons_self
    have isRepeatable := repeatable input member
    have later := induction
      (fun other otherMember => within other (List.mem_cons_of_mem _ otherMember))
      (settled_step isRepeatable settled stepped) rest
    rw [later, refCounts_step member isRepeatable settled stepped]

theorem session_run (repeatable : ∀ input ∈ inputs, isRepeatable input.1 = true)
    (runs : run step data inputs = some final) (tenantId clientId : String) :
    final.state.getSessionState tenantId clientId = effect (sessionEffect tenantId clientId) inputs
        (data.state.getSessionState tenantId clientId) := by
  refine read_run (fun data => data.state.getSessionState tenantId clientId)
    (fun _ => True) (fun _ _ _ _ _ _ => trivial) ?_ trivial runs
  intro input member state next _ stepped
  exact (actsOn_step (repeatable input member) stepped).1 tenantId clientId

theorem tenant_run (repeatable : ∀ input ∈ inputs, isRepeatable input.1 = true)
    (runs : run step data inputs = some final) (tenantId : String) :
    final.state.inner.hasOuter tenantId =
      effect (tenantEffect tenantId) inputs (data.state.inner.hasOuter tenantId) := by
  refine read_run (fun data => data.state.inner.hasOuter tenantId) (fun _ => True)
    (fun _ _ _ _ _ _ => trivial) ?_ trivial runs
  intro input member state next _ stepped
  exact (actsOn_step (repeatable input member) stepped).2 tenantId

/-- After a series of repeatable entries, each of them is quiet. -/
theorem quiet_effect (member : input ∈ inputs) (payload : input.1.payload = .normal request)
    (value : Option SessionState) :
    ∀ state ∈ effect (sessionEffect request.target.1 request.target.2) inputs value,
      Quiet request state := by
  induction inputs generalizing value with
  | nil => cases member
  | cons first inputs induction =>
    rcases List.mem_cons.mp member with same | later
    · subst same
      -- The entry makes itself quiet, and what follows keeps it quiet.
      have now : ∀ state ∈ sessionEffect request.target.1 request.target.2 input value,
          Quiet request state := by
        simp only [sessionEffect, payload]
        exact quiet_update request value
      exact Quiet.effect now _ _ inputs
    · exact induction later _

/-! ## Restoring a snapshot -/

/-- The requests that take only the read lock of the storage, which the snapshot builder
holds while it reads: a started delivery, and a conditional deletion that does not
apply. -/
def SessionStateRequest.sharesLock (storage : SessionStateStorage) : SessionStateRequest → Bool
  | inflightStartDelivery .. => true
  | deleteSessionState tenantId clientId expectedDisconnectedAt =>
    !shouldDelete tenantId clientId expectedDisconnectedAt storage
  | _ => false

def SharesLock (data : StateMachineData SessionStateStorage)
    (input : Entry SessionStateRequest × Reading) : Prop :=
  match input.1.payload with
  | .normal request => request.sharesLock data.state = true
  | _ => True

/-- What the snapshot builder may read while entries are applied: the tenants and the
reference counts under one lock, and each session at some moment of the reading. -/
structure ReadDuring (start : StateMachineData SessionStateStorage)
    (during : List (Entry SessionStateRequest × Reading)) (shared : SessionStateStorage) :
    Prop where
  sharesLock : EachStep step SharesLock start during
  refCounts : shared.refCounts = start.state.refCounts
  tenant : ∀ tenantId, shared.inner.hasOuter tenantId = start.state.inner.hasOuter tenantId
  session : ∀ tenantId clientId, ∃ seen moment, seen <+: during ∧
    run step start seen = some moment ∧ shared.getSessionState tenantId clientId =
        moment.state.getSessionState tenantId clientId

def isStartDelivery (entry : Entry SessionStateRequest) : Bool :=
  match entry.payload with
  | .normal (.inflightStartDelivery ..) => true
  | .normal _ => false
  | _ => true

theorem isStartDelivery_of_sharesLock (repeatable : isRepeatable input.1 = true)
    (shares : SharesLock data input) :
    isStartDelivery input.1 = true := by
  rw [isRepeatable] at repeatable
  rw [SharesLock] at shares
  rw [isStartDelivery]
  cases payload : input.1.payload with
  | blank | membership => rfl
  | normal request =>
    simp only [payload] at repeatable shares
    cases request with
    | inflightStartDelivery => rfl
    | deleteSessionState tenantId clientId expected =>
      cases expected with
      | none => cases shares
      | some => cases repeatable
    | _ => cases shares

/-- A started delivery never releases a reference. -/
theorem quiet_of_isStartDelivery {entry : Entry SessionStateRequest}
    (starts : isStartDelivery entry = true) (payload : entry.payload = .normal request)
    (state : SessionState) :
    Quiet request state := by
  rw [isStartDelivery, payload] at starts
  cases request with
  | inflightStartDelivery => exact ⟨nofun, nofun⟩
  | _ => cases starts

/-- Whether an entry can be applied does not depend on the state. -/
theorem exists_step_of_step (stepped : step data input = some next)
    (other : StateMachineData SessionStateStorage) :
    ∃ result, step other input = some result := by
  have changes := (step_eq_some stepped).2
  simp only [step, StateMachineData.step, applyEntry]
  cases payload : input.1.payload with
  | blank | membership => exact ⟨_, rfl⟩
  | normal request =>
    simp only [payload] at changes
    rcases changes.2 with ⟨_, handled⟩
    rcases exists_applyRequest handled input.2 input.1.logId other.state with ⟨_, applied⟩
    simp only [applied]
    exact ⟨_, rfl⟩

variable {builder start : StateMachineData SessionStateStorage}
  {window during : List (Entry SessionStateRequest × Reading)} {shared : SessionStateStorage}

/-- The session read at some moment contains the entries before the reading and some of
those during it. -/
theorem ReadDuring.session_eq (read : ReadDuring start during shared)
    (repeatable : ∀ input ∈ window ++ during, isRepeatable input.1 = true)
    (before : run step builder window = some start) (tenantId clientId : String) :
    ∃ seen, seen <+: during ∧ shared.getSessionState tenantId clientId =
      effect (sessionEffect tenantId clientId) (window ++ seen)
        (builder.state.getSessionState tenantId clientId) := by
  rcases read.session tenantId clientId with ⟨seen, _, seenFirst, reached, same⟩
  refine ⟨seen, seenFirst, ?_⟩
  rw [same, effect_append, session_run (fun input member => repeatable input
      (List.mem_append_right _ (seenFirst.subset member))) reached,
    session_run (fun input member => repeatable input (List.mem_append_left _ member)) before]

theorem ReadDuring.settled (read : ReadDuring start during shared)
    (repeatable : ∀ input ∈ window ++ during, isRepeatable input.1 = true)
    (before : run step builder window = some start)
    (starts : ∀ input ∈ during, isStartDelivery input.1 = true) :
    Settled (window ++ during) shared := by
  intro input member request payload state found
  rcases List.mem_append.mp member with inWindow | inDuring
  · rcases read.session_eq repeatable before request.target.1 request.target.2 with
      ⟨_, _, same⟩
    rw [same] at found
    exact quiet_effect (List.mem_append_left _ inWindow) payload _ state found
  · exact quiet_of_isStartDelivery (starts input inDuring) payload state

/-- A snapshot that was read after and during repeatable entries leads, once these
entries are replayed, to the state of the log. -/
theorem replay (repeatable : ∀ input ∈ window ++ during, isRepeatable input.1 = true)
    (before : run step builder window = some start) (read : ReadDuring start during shared)
    (seenFirst : window ++ during <+: inputs) (logged : run step builder inputs = some final) :
    run step (builder.restored shared) inputs = some final := by
  rcases seenFirst with ⟨_, split⟩
  subst split
  rw [run_append] at logged
  rcases Option.bind_eq_some_iff.mp logged with ⟨finished, covered, remaining⟩
  have during_runs : run step start during = some finished := by
    rw [run_append, before] at covered
    exact covered
  have starts : ∀ input ∈ during, isStartDelivery input.1 = true := by
    intro input member
    rcases exists_consumed during_runs member with
      ⟨visited, reached, next, isPrefix, runs, stepped⟩
    exact isStartDelivery_of_sharesLock (repeatable input (List.mem_append_right _ member))
      (read.sharesLock visited input isPrefix reached next runs stepped)
  have finishes : ∃ other, run step (builder.restored shared) (window ++ during) = some other := by
    apply exists_run
    intro input member data
    rcases exists_consumed covered member with ⟨_, _, _, _, _, stepped⟩
    exact exists_step_of_step stepped data
  rcases finishes with ⟨other, replayed⟩
  have same : other = finished := by
    apply eq_of_replay covered replayed
    have counts : other.state.refCounts = finished.state.refCounts := by
      rw [refCounts_run repeatable (fun _ member => member)
          (read.settled repeatable before starts) replayed,
        state_restored, read.refCounts]
      refine (refCounts_run (fun input member => repeatable input (List.mem_append_right _ member))
        (fun _ member => member) ?_ during_runs).symm
      intro input member request payload state _
      exact quiet_of_isStartDelivery (starts input member) payload state
    have inner : other.state.inner = finished.state.inner := by
      apply NestedMap.ext_getAt
      · intro tenantId
        rw [tenant_run repeatable replayed, tenant_run repeatable covered,
          state_restored, read.tenant,
          tenant_run (fun input member => repeatable input (List.mem_append_left _ member)) before]
        exact Overwrite.band.replay (List.prefix_append window during)
          (fun input _ => overwrite_tenantEffect tenantId input) _
      · intro tenantId clientId
        rcases read.session_eq repeatable before tenantId clientId with
          ⟨_, seenFirst, same⟩
        have replayedSession := session_run repeatable replayed tenantId clientId
        rw [state_restored, same] at replayedSession
        have loggedSession := session_run repeatable covered tenantId clientId
        have absorbed := (Within.band SessionState.Repeats.band).replay
          (List.prefix_append_right_inj window |>.mpr seenFirst)
          (fun input _ => within_sessionEffect tenantId clientId input)
          (builder.state.getSessionState tenantId clientId)
        exact replayedSession.trans (absorbed.trans loggedSession.symm)
    cases otherState : other.state
    cases finishedState : finished.state
    rw [otherState, finishedState] at counts inner
    cases counts
    cases inner
    rfl
  rw [run_append, replayed, same]
  exact remaining

end YedMQ.Raft.SessionState
