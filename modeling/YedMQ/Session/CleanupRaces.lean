import YedMQ.Session.ExpiredSessions

/-! # Cleanups that race with reconnecting clients

The delete command of a cleanup names the time of disconnection, so it deletes only a state
that is disconnected since then. The request to stop a session actor names the instance
that the actor map holds at the time of the lookup, which may be one that the client has
registered after the scan.

A cleanup spares the reconnected client in the runs in which the lookup finds an instance
from before the scan, no creation is under way during the scan, and the time of the
disconnection that was read is not written again.
-/

namespace YedMQ

/-! ## Lifetimes -/

namespace SessionState

variable {state other : SessionState} {now later legacyTtl disconnectedAt : Nat}

def lifetime (state : SessionState) : Option Nat × Option UInt32 × Option Nat :=
  (state.disconnectedAt, state.sessionExpiryInterval, state.expiresAt)

theorem expiredDisconnectedAt_congr (same : state.lifetime = other.lifetime) :
    state.expiredDisconnectedAt now legacyTtl = other.expiredDisconnectedAt now legacyTtl := by
  simp only [lifetime, Prod.mk.injEq] at same
  rcases same with ⟨disconnected, interval, expires⟩
  rw [expiredDisconnectedAt, expiredDisconnectedAt, disconnected, interval, expires]

/-- A session that is over stays so. -/
theorem expiredDisconnectedAt_mono (ordered : now ≤ later)
    (expired : state.expiredDisconnectedAt now legacyTtl = some disconnectedAt) :
    state.expiredDisconnectedAt later legacyTtl = some disconnectedAt := by
  rcases Option.bind_eq_some_iff.mp expired with ⟨_, disconnected, ended⟩
  rw [expiredDisconnectedAt, disconnected, Option.bind_some]
  split at ended
  · split at ended
    · cases ended
    · rename_i finite
      dsimp only at ended ⊢
      rw [if_neg finite]
      split at ended
      · rename_i reached
        rw [if_pos (Nat.le_trans reached ordered)]
        exact ended
      · cases ended
  · split at ended
    · rw [if_pos (by omega)]
      exact ended
    · cases ended

end SessionState

namespace Raft.SessionState

variable {now time : Nat} {request : SessionStateRequest} {present : Option SessionState}
  {after : SessionState}

def SessionStateRequest.disconnects : SessionStateRequest → Option Nat
  | updateSessionConnectionState _ _ disconnectedAt _ => disconnectedAt
  | _ => none

theorem lifetime_of_map {update : SessionState → SessionState}
    (keeps : ∀ state, (update state).lifetime = state.lifetime)
    (mapped : present.map update = some after) :
    ∃ before, present = some before ∧ before.lifetime = after.lifetime := by
  rcases Option.map_eq_some_iff.mp mapped with ⟨before, found, made⟩
  subst made
  exact ⟨before, found, (keeps before).symm⟩

/-- A disconnected session was so before, with the same lifetime, unless the request has
written the time of disconnection. -/
theorem lifetime_of_effect (effect : request.effect now present = some after)
    (disconnected : after.disconnectedAt = some time) :
    request.disconnects = some time ∨
      ∃ before, present = some before ∧ before.lifetime = after.lifetime := by
  cases request with
  | createSessionState =>
    cases effect
    cases disconnected
  | deleteSessionState tenantId clientId expected =>
    right
    cases expected with
    | none => cases effect
    | some => exact ⟨after, (Option.filter_eq_some_iff.mp effect).1, rfl⟩
  | inflightRegisterTxPacket =>
    apply Or.inr
    apply lifetime_of_map _ effect
    intro state
    rw [registerTx]
    split <;> rfl
  | inflightGetCurrentPacket => exact .inr ⟨after, effect, rfl⟩
  | subscribeTopic tenantId clientId topic qos =>
    right
    simp only [SessionStateRequest.effect, SessionStateRequest.update] at effect
    cases valid : QoS.fromU8 qos with
    | none =>
      rw [valid] at effect
      exact ⟨after, effect, rfl⟩
    | some =>
      rw [valid] at effect
      apply lifetime_of_map _ effect
      intro state
      rfl
  | updateSessionConnectionState =>
    left
    rcases Option.map_eq_some_iff.mp effect with ⟨_, _, made⟩
    subst made
    exact disconnected
  | _ =>
    apply Or.inr
    apply lifetime_of_map _ effect
    intro state
    rfl

end Raft.SessionState

namespace SessionManager

open Foundation Raft Semantics SessionState
open SessionState (SessionStateRequest)

/-! ## Undisturbed cleanups -/

def Scan.Knows (instanceId : SessionInstanceId) (scan : Scan) : Prop :=
  ∃ last ∈ scan.lastApplied, instanceId.logIndex ≤ last.index

def Progress.underway : Progress → Bool
  | .deleting _ | .recovering _ _ | .deletingExpired _ _ | .creating _ | .checking _ _ _ => true
  | _ => false

/-- A handler reads no time before that of an earlier scan, a scan finds no creation under
way, a lookup finds an instance from before the scan, and the time that a scan has found is
not written again. -/
def Undisturbed (client : Client) (cluster : Cluster) : ClusterInput → Prop
  | .node _ (.answer _ now _) => cluster.clock ≤ now
  | .node _ (.sessionStateRequest _ _ request) =>
    request.target = (client.tenantId, client.clientId) →
      ∀ cleanup ∈ cluster.cleanups, request.disconnects ≠ some cleanup.disconnectedAt
  | .scan _ => ∀ nodeId ∈ cluster.nodes, ∀ creation ∈ cluster.creations nodeId,
      creation.progress.underway = false
  | .lookUp number (some age) => ∀ cleanup ∈ cluster.cleanups[number]?,
      ∀ actorMap ∈ cluster.pastMaps[age]?,
        ∀ entry ∈ actorMap.getSessionActorMap client.tenantId client.clientId,
          cleanup.Knows entry.instanceId
  | _ => True

instance (instanceId : SessionInstanceId) (scan : Scan) : Decidable (scan.Knows instanceId) :=
  inferInstanceAs (Decidable (∃ last ∈ scan.lastApplied, _))

instance (client : Client) (cluster : Cluster) (input : ClusterInput) :
    Decidable (Undisturbed client cluster input) := by
  unfold Undisturbed
  split <;> infer_instance

/-! ## Session states after a scan -/

variable {client : Client} {scan : Scan}

def Scan.Superseded (client : Client) (storage : SessionStateStorage) (scan : Scan) : Prop :=
  ∀ state, storage.getSessionState client.tenantId client.clientId = some state →
    state.disconnectedAt ≠ some scan.disconnectedAt

/-- A state that is disconnected since the time that the scan has found was over when the
scan has read it. -/
def Scan.Justified (client : Client) (storage : SessionStateStorage) (scan : Scan) : Prop :=
  ∀ state, storage.getSessionState client.tenantId client.clientId = some state →
    state.disconnectedAt = some scan.disconnectedAt →
      state.expiredDisconnectedAt scan.now client.sessionTtl = some scan.disconnectedAt

def Scan.Outlasts (client : Client) (scan : Scan) (request : SessionStateRequest) : Prop :=
  request.target = (client.tenantId, client.clientId) →
    request.disconnects ≠ some scan.disconnectedAt

theorem Scan.outlasts_of_none {request : SessionStateRequest}
    (silent : request.disconnects = none) :
    scan.Outlasts client request := by
  intro _ written
  rw [silent] at written
  cases written

section Applied

variable {reading : SessionState.Reading} {logId : LogId}
  {storage next : SessionStateStorage} {request : SessionStateRequest}
  {output : SessionState.Applied}

theorem Scan.origin (quiet : scan.Outlasts client request)
    (applied : applyRequest reading logId storage request = .ok (next, output))
    {after : SessionState}
    (found : next.getSessionState client.tenantId client.clientId = some after)
    (disconnected : after.disconnectedAt = some scan.disconnectedAt) :
    ∃ before, storage.getSessionState client.tenantId client.clientId = some before ∧
      before.lifetime = after.lifetime := by
  have affects := (applyRequest_describes applied).toAffects
  by_cases own : request.target = (client.tenantId, client.clientId)
  · have here := affects.here
    rw [own] at here
    rw [here] at found
    rcases lifetime_of_effect found disconnected with written | before
    · exact absurd written (quiet own)
    · exact before
  · rw [affects.elsewhere _ _ (Ne.symm own)] at found
    exact ⟨after, found, rfl⟩

theorem Scan.Superseded.applied (superseded : scan.Superseded client storage)
    (quiet : scan.Outlasts client request)
    (applied : applyRequest reading logId storage request = .ok (next, output)) :
    scan.Superseded client next := by
  intro after found disconnected
  rcases Scan.origin quiet applied found disconnected with ⟨before, earlier, same⟩
  have sameTime : before.disconnectedAt = after.disconnectedAt := congrArg Prod.fst same
  exact superseded before earlier (sameTime.trans disconnected)

theorem Scan.Justified.applied (justified : scan.Justified client storage)
    (quiet : scan.Outlasts client request)
    (applied : applyRequest reading logId storage request = .ok (next, output)) :
    scan.Justified client next := by
  intro after found disconnected
  rcases Scan.origin quiet applied found disconnected with ⟨before, earlier, same⟩
  have sameTime : before.disconnectedAt = after.disconnectedAt := congrArg Prod.fst same
  rw [← expiredDisconnectedAt_congr same]
  exact justified before earlier (sameTime.trans disconnected)

theorem Scan.superseded_of_create {inflightDurationSecs : Nat}
    {protocolVersion : Option ProtocolVersion} {sessionExpiryInterval : Option UInt32}
    (applied : applyRequest reading logId storage
      (.createSessionState client.tenantId client.clientId inflightDurationSecs protocolVersion
        sessionExpiryInterval) = .ok (next, output)) :
    scan.Superseded client next := by
  have here := (applyRequest_describes applied).here
  intro state found disconnected
  have created : next.getSessionState client.tenantId client.clientId =
      some (newWithOptions inflightDurationSecs protocolVersion sessionExpiryInterval) := here
  rw [created] at found
  cases found
  cases disconnected

end Applied

/-! ## Creations after a scan -/

/-- What a handler has to know before it may start a session actor: its instance is later
than the scan, and a persistent session has left the state behind that the scan has
found. -/
def Creation.Safe (client : Client) (scan : Scan) (superseded : Prop) (creation : Creation) :
    Prop :=
  match creation.progress with
  | .deleting instanceId => ¬ scan.Knows instanceId ∧
      (creation.message.cleanSession = false → creation.message.cleanStart = true)
  | .recovering instanceId read => ¬ scan.Knows instanceId ∧
      ∀ state, read = some (some state) → superseded ∨
        ∃ disconnectedAt, state.expiredDisconnectedAt scan.now client.sessionTtl =
          some disconnectedAt
  | .deletingExpired instanceId _ | .creating instanceId => ¬ scan.Knows instanceId
  | .checking instanceId _ _ => ¬ scan.Knows instanceId ∧
      (creation.message.cleanSession = false → superseded)
  | _ => True

structure Guards (client : Client) (scan : Scan) (manager : Manager) : Prop where
  later : ∀ last ∈ scan.lastApplied, ∃ current ∈ manager.actorMap.lastAppliedLogId,
    last.index ≤ current.index
  justified : scan.Justified client manager.sessionStates
  safe : ∀ creation ∈ manager.creations,
    creation.Safe client scan (scan.Superseded client manager.sessionStates)

theorem Creation.Safe.mono {creation : Creation} {before after : Prop}
    (safe : creation.Safe client scan before) (keeps : before → after) :
    creation.Safe client scan after := by
  rcases creation with ⟨_, progress⟩
  cases progress with
  | recovering =>
    refine ⟨safe.1, ?_⟩
    intro state found
    exact (safe.2 state found).imp_left keeps
  | checking =>
    exact ⟨safe.1, fun persistent => keeps (safe.2 persistent)⟩
  | _ => exact safe

theorem mem_modify {α : Type} {change : α → α} {items : List α} {number : Nat} {item : α}
    (member : item ∈ items.modify number change) :
    item ∈ items ∨ ∃ before, items[number]? = some before ∧ item = change before := by
  rcases List.mem_iff_getElem?.mp member with ⟨_, found⟩
  rw [List.getElem?_modify] at found
  split at found
  · rename_i here
    subst here
    rcases Option.map_eq_some_iff.mp found with ⟨before, there, made⟩
    exact .inr ⟨before, there, made.symm⟩
  · rw [Option.map_eq_map, Option.map_id'] at found
    exact .inl (List.mem_of_getElem? found)

variable {manager next : Manager} {number : Nat} {creation : Creation}

variable {progress : Progress}

/-- A handler goes on to a safe place. -/
theorem Guards.setProgress (guards : Guards client scan manager)
    (found : manager.creations[number]? = some creation)
    (safe : Creation.Safe client scan (scan.Superseded client manager.sessionStates)
      { creation with progress := progress }) :
    Guards client scan (manager.setProgress number progress) := by
  refine { guards with safe := ?_ }
  intro other member
  rcases mem_modify member with old | ⟨_, here, made⟩
  · exact guards.safe other old
  · rw [found] at here
    cases here
    rw [made]
    exact safe

theorem Guards.setRegistry (guards : Guards client scan manager)
    (registry : SessionRegistry) : Guards client scan (manager.setRegistry registry) :=
  { guards with }

variable {context : Context} {now : Nat}

theorem Guards.commit {entry : Entry SessionActorMap.SessionActorMapRequest}
    (guards : Guards client scan manager)
    (committed : manager.commit context entry now = some next) :
    Guards client scan next ∧ next.sessionStates = manager.sessionStates ∧
      next.creations = manager.creations ∧ ¬ scan.Knows ⟨entry.logId.index⟩ := by
  rcases commit_eq_some committed with ⟨inOrder, lastApplied, _, creations, _⟩
  have sessionStates : next.sessionStates = manager.sessionStates := by
    rw [Manager.commit] at committed
    split at committed
    · rcases Option.map_eq_some_iff.mp committed with ⟨_, _, made⟩
      rw [← made]
    · cases committed
  have fresh : ∀ last ∈ scan.lastApplied, last.index < entry.logId.index := by
    intro last known
    rcases guards.later last known with ⟨current, present, bound⟩
    exact Nat.lt_of_le_of_lt bound (inOrder current present)
  refine ⟨⟨?_, ?_, ?_⟩, sessionStates, creations, ?_⟩
  · intro last known
    exact ⟨entry.logId, lastApplied, Nat.le_of_lt (fresh last known)⟩
  · rw [sessionStates]
    exact guards.justified
  · rw [sessionStates, creations]
    exact guards.safe
  · rintro ⟨last, known, bound⟩
    exact absurd (fresh last known) (Nat.not_lt.mpr bound)

variable {logId : LogId} {reading : SessionState.Reading} {request : SessionStateRequest}

theorem commitState_eq_some (committed : manager.commitState logId reading request = some next) :
    ∃ sessionStates output, applyRequest reading logId manager.sessionStates
      request = .ok (sessionStates, output) ∧
        next = { manager with sessionStates := sessionStates } := by
  rw [Manager.commitState] at committed
  split at committed
  · rename_i sessionStates output applied
    cases committed
    exact ⟨sessionStates, output, applied, rfl⟩
  · cases committed

theorem Guards.applied {sessionStates : SessionStateStorage} {output : SessionState.Applied}
    (guards : Guards client scan manager) (quiet : scan.Outlasts client request)
    (applied : applyRequest reading logId manager.sessionStates request =
      .ok (sessionStates, output)) :
    Guards client scan { manager with sessionStates := sessionStates } := by
  refine ⟨guards.later, guards.justified.applied quiet applied, ?_⟩
  intro creation member
  exact (guards.safe creation member).mono fun superseded => superseded.applied quiet applied

theorem Guards.commitState (guards : Guards client scan manager)
    (quiet : scan.Outlasts client request)
    (committed : manager.commitState logId reading request = some next) :
    Guards client scan next ∧ next.creations = manager.creations ∧
      (scan.Superseded client manager.sessionStates →
        scan.Superseded client next.sessionStates) := by
  rcases commitState_eq_some committed with ⟨sessionStates, _, applied, made⟩
  subst made
  exact ⟨guards.applied quiet applied, rfl, fun superseded => superseded.applied quiet applied⟩

/-! ## Steps of a node -/

variable {superseded : Prop} {instanceId : SessionInstanceId}

theorem safe_afterRegistration (message : CreateSessionMessage) (fresh : ¬ scan.Knows instanceId) :
    Creation.Safe client scan superseded ⟨message, afterRegistration message instanceId⟩ := by
  rw [afterRegistration]
  split
  · rename_i cleanStart
    exact ⟨fresh, fun _ => cleanStart⟩
  · split
    · refine ⟨fresh, ?_⟩
      intro state unread
      cases unread
    · rename_i clean
      refine ⟨fresh, ?_⟩
      intro persistent
      rw [persistent] at clean
      exact absurd rfl clean

variable {outcome : WriteOutcome}

theorem Guards.registerStep (guards : Guards client scan manager)
    (found : manager.creations[number]? = some creation)
    (stepped : registerStep context number logId now outcome creation manager = some next) :
    Guards client scan next ∧ next.sessionStates = manager.sessionStates := by
  unfold SessionManager.registerStep at stepped
  split at stepped
  · rcases Option.map_eq_some_iff.mp stepped with ⟨registered, committed, made⟩
    subst made
    rcases guards.commit committed with ⟨kept, sessionStates, creations, fresh⟩
    refine ⟨kept.setProgress (creations ▸ found) ?_, sessionStates⟩
    exact safe_afterRegistration creation.message fresh
  · rcases Option.map_eq_some_iff.mp stepped with ⟨_, committed, made⟩
    subst made
    rcases guards.commit committed with ⟨kept, sessionStates, creations, _⟩
    exact ⟨kept.setProgress (creations ▸ found) trivial, sessionStates⟩
  · cases stepped
    exact ⟨guards.setProgress found trivial, rfl⟩
  · cases stepped

variable {message : CreateSessionMessage}

/-- No command of a handler writes a time of disconnection. -/
theorem disconnects_awaitedCommand
    (awaited : awaitedCommand context message progress = some request) :
    request.disconnects = none := by
  cases progress with
  | deleting | deletingExpired | creating => cases awaited; rfl
  | _ => cases awaited

theorem safe_afterCommand (safe : creation.Safe client scan superseded)
    (created : outcome = .committed → ∀ instanceId, creation.progress = .creating instanceId →
      superseded) :
    Creation.Safe client scan superseded
      { creation with progress := afterCommand creation.message outcome creation.progress } := by
  rcases creation with ⟨_, progress⟩
  cases progress with
  | deleting =>
    rw [afterCommand, afterDelete]
    split
    · exact safe.1
    · rename_i notBoth
      refine ⟨safe.1, ?_⟩
      intro persistent
      have cleanStart := safe.2 persistent
      rw [persistent, cleanStart] at notBoth
      exact absurd rfl notBoth
  | deletingExpired => exact safe
  | creating instanceId =>
    rw [afterCommand]
    split
    · rename_i committed
      exact ⟨safe, fun _ => created committed instanceId rfl⟩
    · trivial
  | _ => exact safe

theorem Guards.commandStep {nodeId : NodeId} (guards : Guards client scan manager)
    (found : manager.creations[number]? = some creation)
    (stepped : commandStep (client.context nodeId) number logId reading outcome creation
      manager = some next) :
    Guards client scan next ∧ (scan.Superseded client manager.sessionStates →
        scan.Superseded client next.sessionStates) := by
  have safe := guards.safe creation (List.mem_of_getElem? found)
  rcases Option.bind_eq_some_iff.mp stepped with ⟨request, awaited, goesOn⟩
  split at goesOn
  · rename_i lost
    cases goesOn
    refine ⟨guards.setProgress found (safe_afterCommand safe ?_), id⟩
    intro committed
    rw [lost] at committed
    cases committed
  · rcases Option.map_eq_some_iff.mp goesOn with ⟨_, committed, made⟩
    subst made
    have quiet : scan.Outlasts client request :=
      Scan.outlasts_of_none (disconnects_awaitedCommand awaited)
    rcases guards.commitState quiet committed with ⟨kept, creations, keeps⟩
    refine ⟨kept.setProgress (creations ▸ found) (safe_afterCommand (safe.mono keeps) ?_), keeps⟩
    intro _ instanceId creates
    rw [creates] at awaited
    cases awaited
    rcases commitState_eq_some committed with ⟨_, _, applied, made⟩
    rw [made]
    exact Scan.superseded_of_create applied

theorem creationAt (found : manager.progressAt number = some progress) :
    ∃ creation, manager.creations[number]? = some creation ∧ creation.progress = progress :=
  Option.map_eq_some_iff.mp found

/-- What a handler reads after the scan is over for it, or has been left behind. -/
theorem Guards.linearized {nodeId : NodeId} {after : Progress} (guards : Guards client scan manager)
    (found : manager.creations[number]? = some creation)
    (fixed : linearized (client.context nodeId) manager creation.progress = some after) :
    Guards client scan (manager.setProgress number after) := by
  have safe := guards.safe creation (List.mem_of_getElem? found)
  apply guards.setProgress found
  rcases creation with ⟨_, progress⟩
  cases progress with
  | recovering instanceId read =>
    cases read with
    | some => cases fixed
    | none =>
      cases fixed
      refine ⟨safe.1, ?_⟩
      intro state known
      have here : manager.sessionStates.getSessionState client.tenantId client.clientId =
          some state := Option.some.inj known
      by_cases same : state.disconnectedAt = some scan.disconnectedAt
      · exact .inr ⟨_, guards.justified state here same⟩
      · left
        intro other there
        rw [here] at there
        cases there
        exact same
  | checking instanceId sessionPresent read =>
    cases read with
    | some => cases fixed
    | none =>
      cases fixed
      exact safe
  | rechecking instanceId sessionPresent replacedSession read =>
    cases read with
    | some => cases fixed
    | none =>
      cases fixed
      trivial
  | _ => cases fixed

theorem safe_afterRecovery {nodeId : NodeId} {read : Option SessionState} (ordered : scan.now ≤ now)
    (safe : Creation.Safe client scan superseded ⟨message, .recovering instanceId (some read)⟩) :
    Creation.Safe client scan superseded
      ⟨message, afterRecovery (client.context nodeId) now instanceId read⟩ := by
  cases read with
  | none => exact safe.1
  | some state =>
    rw [afterRecovery]
    split
    · exact safe.1
    · rename_i alive
      refine ⟨safe.1, ?_⟩
      intro _
      rcases safe.2 state rfl with superseded | ⟨_, expired⟩
      · exact superseded
      · have ended := expiredDisconnectedAt_mono ordered expired
        exact absurd (ended.symm.trans alive) (Option.some_ne_none _)

theorem Guards.afterRead {nodeId : NodeId} {failed : Bool} (ordered : scan.now ≤ now)
    (guards : Guards client scan manager) (found : manager.creations[number]? = some creation)
    (stepped : afterRead (client.context nodeId) number now manager creation.progress failed =
      some next) :
    Guards client scan next ∧ next.sessionStates = manager.sessionStates := by
  have safe := guards.safe creation (List.mem_of_getElem? found)
  rcases creation with ⟨_, _⟩
  dsimp only at stepped
  unfold SessionManager.afterRead at stepped
  split at stepped
  · cases stepped
    exact ⟨guards.setProgress found (safe_afterRecovery ordered safe), rfl⟩
  · cases stepped
    exact ⟨guards.setProgress found trivial, rfl⟩
  · split at stepped
    · cases stepped
      exact ⟨(guards.setRegistry _).setProgress found trivial, rfl⟩
    · cases stepped
      exact ⟨guards.setProgress found trivial, rfl⟩
  · cases stepped
    exact ⟨guards.setProgress found trivial, rfl⟩
  · split at stepped
    · cases stepped
      exact ⟨guards.setProgress found trivial, rfl⟩
    · cases stepped
      exact ⟨(guards.setRegistry _).setProgress found trivial, rfl⟩
  · cases stepped
    exact ⟨(guards.setRegistry _).setProgress found trivial, rfl⟩
  · cases stepped

def Scan.Permits (client : Client) (scan : Scan) : Input → Prop
  | .answer _ now _ => scan.now ≤ now
  | .sessionStateRequest _ _ request => request.target = (client.tenantId, client.clientId) →
      request.disconnects ≠ some scan.disconnectedAt
  | _ => True

variable {input : Input}

/-- A step of a node keeps what it knows about a scan, and never brings back the state that
the scan has found. -/
theorem Guards.step {nodeId : NodeId} (guards : Guards client scan manager)
    (permitted : scan.Permits client input)
    (stepped : step (client.context nodeId) manager input = some next) :
    Guards client scan next ∧ (scan.Superseded client manager.sessionStates →
        scan.Superseded client next.sessionStates) := by
  -- Most steps do not touch the session states.
  have unchanged : Guards client scan next ∧ next.sessionStates = manager.sessionStates →
      Guards client scan next ∧ (scan.Superseded client manager.sessionStates →
        scan.Superseded client next.sessionStates) := by
    intro ⟨kept, same⟩
    rw [same]
    exact ⟨kept, id⟩
  cases input with
  | create =>
    cases stepped
    refine unchanged ⟨⟨guards.later, guards.justified, ?_⟩, rfl⟩
    intro creation member
    rcases List.mem_append.mp member with old | new
    · exact guards.safe creation old
    · rw [List.mem_singleton.mp new]
      trivial
  | register =>
    rcases Option.bind_eq_some_iff.mp stepped with ⟨creation, found, goesOn⟩
    exact unchanged (guards.registerStep found goesOn)
  | command =>
    rcases Option.bind_eq_some_iff.mp stepped with ⟨creation, found, goesOn⟩
    exact guards.commandStep found goesOn
  | linearize =>
    rcases Option.bind_eq_some_iff.mp stepped with ⟨progress, found, goesOn⟩
    rcases Option.map_eq_some_iff.mp goesOn with ⟨_, fixed, made⟩
    rcases creationAt found with ⟨creation, there, same⟩
    subst same made
    exact unchanged ⟨guards.linearized there fixed, rfl⟩
  | answer =>
    rcases Option.bind_eq_some_iff.mp stepped with ⟨_, found, goesOn⟩
    rcases creationAt found with ⟨_, there, same⟩
    subst same
    exact unchanged (guards.afterRead permitted there goesOn)
  | actorMapEntry =>
    rcases guards.commit stepped with ⟨kept, sessionStates, _, _⟩
    exact unchanged ⟨kept, sessionStates⟩
  | sessionStateRequest =>
    rcases guards.commitState permitted stepped with ⟨kept, _, keeps⟩
    exact ⟨kept, keeps⟩
  | stop =>
    cases stepped
    exact unchanged ⟨guards.setRegistry _, rfl⟩
  | removeSession =>
    rw [SessionManager.step] at stepped
    split at stepped
    · cases stepped
      exact unchanged ⟨guards.setRegistry _, rfl⟩
    · cases stepped
      exact unchanged ⟨guards, rfl⟩

/-- A session actor that a handler starts is of a later instance, and a persistent one has
left the state behind that the scan has found. -/
theorem Guards.starting {started : StartedSession} (guards : Guards client scan manager)
    (starts : manager.starting number = some started) :
    ¬ scan.Knows started.instanceId ∧
      (started.persistent = true → scan.Superseded client manager.sessionStates) := by
  rcases Option.bind_eq_some_iff.mp starts with ⟨_, inserts, noted⟩
  rcases Option.map_eq_some_iff.mp noted with ⟨creation, found, made⟩
  have safe := guards.safe creation (List.mem_of_getElem? found)
  subst made
  rcases creation with ⟨_, _⟩
  rw [Manager.inserting, Manager.progressAt, found] at inserts
  split at inserts
  · rename_i known sessionPresent current same
    cases same
    split at inserts
    · cases inserts
      refine ⟨safe.1, ?_⟩
      intro persistent
      apply safe.2
      simpa using persistent
    · cases inserts
  · cases inserts

/-! ## Steps of the cluster -/

structure Watched (client : Client) (cluster : Cluster) (cleanup : Cleanup) : Prop where
  guards : ∀ nodeId ∈ cluster.nodes, Guards client cleanup.toScan (cluster.view nodeId)
  passed : cleanup.now ≤ cluster.clock
  target : ∀ entry, cleanup.target = some entry → cleanup.Knows entry.instanceId
  stopped : ∀ addr ∈ cleanup.stopped, cleanup.Knows addr.sessionInstanceId
  started : ∀ session ∈ cleanup.started, ¬ cleanup.Knows session.instanceId ∧
    (session.persistent = true → cleanup.Superseded client cluster.sessionStates)
  removal : ∀ removal, cleanup.removal = some removal →
    removal.disconnectedAt = some cleanup.disconnectedAt ∧ removal.reconnected = false

def AllWatched (client : Client) (cluster : Cluster) : Prop :=
  ∀ cleanup ∈ cluster.cleanups, Watched client cluster cleanup

variable {cluster after : Cluster} {cleanup : Cleanup} {nodeId : NodeId}

theorem Watched.spares (watched : Watched client cluster cleanup) : cleanup.Spares := by
  refine ⟨?_, watched.removal⟩
  intro addr stopped session started same
  have unknown := (watched.started session started).1
  rw [← same] at unknown
  exact unknown (watched.stopped addr stopped)

/-- A cleanup goes on, and the rest of the cluster stays as it is. -/
theorem AllWatched.setCleanup (all : AllWatched client cluster)
    (new : Watched client cluster cleanup) :
    AllWatched client (cluster.setCleanup number cleanup) := by
  intro kept member
  rcases mem_modify member with old | ⟨_, _, same⟩
  · have watched := all kept old
    exact { watched with }
  · rw [same]
    exact { new with }

theorem view_absorb_self (manager : Manager) :
    (cluster.absorb nodeId manager).view nodeId = manager := by
  rw [Cluster.view, Cluster.absorb]
  dsimp only
  rw [Function.update_self, Function.update_self]

/-- The machines are shared, so the other nodes have to know what the one has found out. -/
theorem Guards.absorb {other : NodeId} (guards : Guards client scan (cluster.view other))
    (own : Guards client scan manager)
    (keeps : scan.Superseded client cluster.sessionStates →
      scan.Superseded client manager.sessionStates) :
    Guards client scan ((cluster.absorb nodeId manager).view other) := by
  by_cases same : other = nodeId
  · subst same
    rw [view_absorb_self]
    exact own
  · refine ⟨own.later, own.justified, ?_⟩
    intro creation member
    rw [Cluster.view, Cluster.absorb] at member
    dsimp only at member
    rw [Function.update_of_ne same] at member
    exact (guards.safe creation member).mono keeps

theorem AllWatched.nodeStep (all : AllWatched client cluster)
    (permitted : ∀ cleanup ∈ cluster.cleanups, cleanup.Permits client input)
    (stepped : nodeStep client nodeId input cluster = some after) :
    AllWatched client after := by
  rw [SessionManager.nodeStep] at stepped
  split at stepped
  case isFalse => cases stepped
  rename_i isNode
  rcases Option.map_eq_some_iff.mp stepped with ⟨_, moved, made⟩
  subst made
  intro kept member
  rcases List.mem_map.mp member with ⟨cleanup, earlier, noted⟩
  subst noted
  have watched := all cleanup earlier
  have guards := watched.guards nodeId isNode
  rcases guards.step (permitted cleanup earlier) moved with ⟨own, keeps⟩
  constructor
  · intro other isOther
    exact (watched.guards other isOther).absorb own keeps
  · exact Nat.le_trans watched.passed (Nat.le_max_left _ _)
  · exact watched.target
  · exact watched.stopped
  · intro session member
    rcases List.mem_append.mp member with old | new
    · rcases watched.started session old with ⟨unknown, superseded⟩
      exact ⟨unknown, fun persistent => keeps (superseded persistent)⟩
    · have starts := Option.mem_toList.mp new
      cases input with
      | answer number now failed =>
        cases failed with
        | true => cases starts
        | false =>
          rcases guards.starting starts with ⟨unknown, superseded⟩
          exact ⟨unknown, fun persistent => keeps (superseded persistent)⟩
      | _ => cases starts
  · exact watched.removal

/-- A scan that finds no creation under way has nothing to fear from the creations. -/
theorem watched_scanned (quiet : ∀ nodeId ∈ cluster.nodes, ∀ creation ∈ cluster.creations nodeId,
      creation.progress.underway = false) (found : scanned client now cluster = some cleanup) :
    Watched client (cluster.noteClock now) cleanup := by
  rcases Option.bind_eq_some_iff.mp found with ⟨state, present, ended⟩
  rcases Option.map_eq_some_iff.mp ended with ⟨_, expired, made⟩
  subst made
  constructor
  · intro nodeId isNode
    constructor
    · intro last known
      exact ⟨last, known, Nat.le_refl _⟩
    · intro other there _
      have same : some state = some other := present.symm.trans there
      cases same
      exact expired
    · intro creation member
      have idle := quiet nodeId isNode creation member
      rcases creation with ⟨_, progress⟩
      cases progress with
      | registering | rechecking | returned => trivial
      | _ => cases idle
  · exact Nat.le_max_right _ _
  · intro entry missing
    cases missing
  · intro addr missing
    cases missing
  · intro session missing
    cases missing
  · intro removal missing
    cases missing

theorem allWatched_scan (all : AllWatched client cluster)
    (undisturbed : Undisturbed client cluster (.scan now))
    (stepped : cluster.step client (.scan now) = some after) : AllWatched client after := by
  rcases Option.map_eq_some_iff.mp stepped with ⟨_, found, made⟩
  subst made
  have new := watched_scanned undisturbed found
  intro kept member
  rcases List.mem_append.mp member with old | last
  · have watched := all kept old
    exact { watched with passed := Nat.le_trans watched.passed (Nat.le_max_left _ _) }
  · rw [List.mem_singleton.mp last]
    exact { new with }

/-- A lookup that finds an instance from before the scan makes it the target. -/
theorem Watched.lookUp {actorMap : SessionActorMapStorage}
    (watched : Watched client cluster cleanup)
    (known : ∀ entry ∈ actorMap.getSessionActorMap client.tenantId client.clientId,
      cleanup.Knows entry.instanceId) :
    Watched client cluster (cleanup.lookUp client actorMap) := by
  rw [Cleanup.lookUp]
  split
  · rename_i entry found
    refine { watched with target := ?_ }
    intro target same
    cases same
    exact known entry found
  · exact { watched with }

theorem Watched.forceStop {entry : SessionActorMapEntry} {registries : NodeId → SessionRegistry}
    (watched : Watched client cluster cleanup) (target : cleanup.target = some entry) :
    Watched client cluster (cleanup.forceStop client registries entry) := by
  refine { watched with stopped := ?_ }
  intro addr member
  rcases List.mem_append.mp member with old | new
  · exact watched.stopped addr old
  · rw [SessionRegistry.mem_forceStopWithSessionService new]
    exact watched.target entry target

theorem Watched.proceed (watched : Watched client cluster cleanup) (progress : CleanupProgress) :
    Watched client cluster { cleanup with progress := progress } :=
  { watched with }

section Delete

variable {reading : SessionState.Reading} {logId : LogId} {sessionStates : SessionStateStorage}
  {output : SessionState.Applied}

theorem Watched.applied {request : SessionStateRequest}
    (watched : Watched client cluster cleanup) (quiet : request.disconnects = none)
    (applied : applyRequest reading logId cluster.sessionStates request =
      .ok (sessionStates, output)) :
    Watched client { cluster with sessionStates := sessionStates } cleanup := by
  have unwritten : cleanup.Outlasts client request := Scan.outlasts_of_none quiet
  refine { watched with guards := ?_, started := ?_ }
  · intro nodeId isNode
    exact (watched.guards nodeId isNode).applied unwritten applied
  · intro session member
    rcases watched.started session member with ⟨unknown, superseded⟩
    exact ⟨unknown, fun persistent => (superseded persistent).applied unwritten applied⟩

/-- What the delete command of a cleanup removes was disconnected since the time that the
scan has found, so no persistent session was started in the meantime. -/
theorem Watched.removed (watched : Watched client cluster cleanup)
    (applied : applyRequest reading logId cluster.sessionStates
      (cleanup.deletion client) = .ok (sessionStates, output)) {removal : Removal}
    (removed : cleanup.removed (cluster.sessionState client)
      (sessionStates.getSessionState client.tenantId client.clientId) = some removal) :
    removal.disconnectedAt = some cleanup.disconnectedAt ∧ removal.reconnected = false := by
  unfold Cleanup.removed at removed
  split at removed
  · rename_i state before gone
    cases removed
    have here : sessionStates.getSessionState client.tenantId client.clientId =
        (cluster.sessionState client).filter fun state =>
          state.disconnectedAt != some cleanup.disconnectedAt :=
      (applyRequest_describes applied).here
    rw [gone, before] at here
    have disconnected : state.disconnectedAt = some cleanup.disconnectedAt := by
      simpa using Option.filter_eq_none_iff.mp here.symm state rfl
    refine ⟨disconnected, ?_⟩
    rw [List.any_eq_false]
    intro session member persistent
    exact (watched.started session member).2 persistent state before disconnected
  · exact watched.removal removal removed

theorem AllWatched.deleteStep {outcome : WriteOutcome} (all : AllWatched client cluster)
    (found : cluster.cleanups[number]? = some cleanup)
    (stepped : deleteStep client number logId reading outcome cleanup cluster = some after) :
    AllWatched client after := by
  have watched := all cleanup (List.mem_of_getElem? found)
  unfold SessionManager.deleteStep at stepped
  split at stepped
  · cases stepped
    exact all.setCleanup (watched.proceed .finished)
  · split at stepped
    · rename_i sessionStates output applied
      cases stepped
      have quiet : (cleanup.deletion client).disconnects = none := rfl
      have others : AllWatched client { cluster with sessionStates := sessionStates } := by
        intro kept member
        exact (all kept member).applied quiet applied
      have own := watched.applied quiet applied
      apply others.setCleanup
      refine { own with removal := ?_ }
      intro removal removed
      exact watched.removed applied removed
    · cases stepped
  · cases stepped

end Delete

theorem AllWatched.lookUpStep {age : Option Nat} (all : AllWatched client cluster)
    (undisturbed : Undisturbed client cluster (.lookUp number age))
    (found : cluster.cleanups[number]? = some cleanup)
    (stepped : lookUpStep client number age cleanup cluster = some after) :
    AllWatched client after := by
  have watched := all cleanup (List.mem_of_getElem? found)
  unfold SessionManager.lookUpStep at stepped
  split at stepped
  · rcases Option.map_eq_some_iff.mp stepped with ⟨actorMap, there, made⟩
    subst made
    exact all.setCleanup (watched.lookUp (undisturbed cleanup found actorMap there))
  · cases stepped
    exact all.setCleanup (watched.proceed .deleting)
  · cases stepped

theorem permits_of_undisturbed (all : AllWatched client cluster)
    (undisturbed : Undisturbed client cluster (.node nodeId input)) :
    ∀ cleanup ∈ cluster.cleanups, cleanup.Permits client input := by
  intro cleanup member
  cases input with
  | answer => exact Nat.le_trans (all cleanup member).passed undisturbed
  | sessionStateRequest =>
    intro own
    exact undisturbed own cleanup member
  | _ => trivial

theorem AllWatched.step {input : ClusterInput} (all : AllWatched client cluster)
    (undisturbed : Undisturbed client cluster input)
    (stepped : cluster.step client input = some after) : AllWatched client after := by
  cases input with
  | node =>
    exact all.nodeStep (permits_of_undisturbed all undisturbed) stepped
  | scan => exact allWatched_scan all undisturbed stepped
  | lookUp =>
    rcases Option.bind_eq_some_iff.mp stepped with ⟨cleanup, found, goesOn⟩
    exact all.lookUpStep undisturbed found goesOn
  | forceStop =>
    rcases Option.bind_eq_some_iff.mp stepped with ⟨cleanup, found, goesOn⟩
    rcases Option.map_eq_some_iff.mp goesOn with ⟨_, target, made⟩
    subst made
    have watched := all cleanup (List.mem_of_getElem? found)
    exact all.setCleanup (watched.forceStop target)
  | stopEnds =>
    rcases Option.bind_eq_some_iff.mp stepped with ⟨cleanup, found, goesOn⟩
    split at goesOn
    · cases goesOn
      have watched := all cleanup (List.mem_of_getElem? found)
      exact all.setCleanup (watched.proceed .deleting)
    · cases goesOn
  | delete =>
    rcases Option.bind_eq_some_iff.mp stepped with ⟨_, found, goesOn⟩
    exact all.deleteStep found goesOn

theorem allWatched_new (nodes : List NodeId) : AllWatched client (Cluster.new nodes) := by
  intro cleanup member
  cases member

/-- In every run whose steps are undisturbed, the cleanups spare the clients that reconnect
after the scan. -/
theorem cleanups_spare_reconnected (client : Client) (nodes : List NodeId)
    (inputs : List ClusterInput)
    (undisturbed : EachStep (Cluster.step client) (Undisturbed client) (Cluster.new nodes) inputs) :
    Throughout (Cluster.step client) SparesReconnected (Cluster.new nodes) inputs := by
  have start : AllWatched client (Cluster.new nodes) := allWatched_new nodes
  refine (throughout_of_eachStep ?_ start undisturbed).mono ?_
  · intro cluster input after all allowed stepped
    exact all.step allowed stepped
  · intro cluster all cleanup member
    exact (all cleanup member).spares

/-! ## Reconnecting in time, and too late -/

def briefClient : Client where
  tenantId := "tenant"
  clientId := "client"
  sessionTtl := 60
  inflightRetryIntervalSecs := 30

def logAt (index : Nat) : LogId := ⟨⟨1, 1⟩, index⟩

def readingAt (now : Nat) : SessionState.Reading := ⟨now, fun _ => none⟩

def recover (number logIndex now : Nat) : List Input :=
  [.create ⟨false, false, .v3_1_1, none⟩, .register number (logAt logIndex) now .committed,
    .linearize number, .answer number now false]

def checkAndStart (number now : Nat) : List Input :=
  [.linearize number, .answer number now false]

def connectionState (logIndex : Nat) (disconnectedAt : Option Nat) : Input :=
  .sessionStateRequest (logAt logIndex) (readingAt 0)
    (.updateSessionConnectionState "tenant" "client" disconnectedAt none)

def firstSession : List Input :=
  recover 0 1 10 ++ [.command 0 (logAt 1) (readingAt 10) .committed] ++ checkAndStart 0 10 ++
    [connectionState 2 none, connectionState 3 (some 100)]

def secondSession (now : Nat) : List Input :=
  recover 1 2 now ++ [.command 1 (logAt 4) (readingAt now) .committed,
    .command 1 (logAt 5) (readingAt now) .committed] ++ checkAndStart 1 now

def onNode (inputs : List Input) : List ClusterInput :=
  inputs.map (.node 1)

/-- The client reconnects after the scan, and the lookup reads an older copy of the actor
map. -/
def reconnectedInTime : List ClusterInput :=
  onNode firstSession ++ [.scan 200] ++ onNode (secondSession 200) ++
    [.lookUp 0 (some 7), .forceStop 0, .stopEnds 0, .delete 0 (logAt 6) (readingAt 200) .committed]

theorem reconnected_spared :
    ∃ final, run (Cluster.step briefClient) (.new [1]) reconnectedInTime = some final ∧
      final.cleanups.map (fun cleanup => (cleanup.progress, cleanup.target.isSome,
        cleanup.started)) = [(.finished, true, [⟨⟨2⟩, true⟩])] ∧
      (final.sessionState briefClient).isSome ∧ SparesReconnected final := by
  have observed : (run (Cluster.step briefClient) (.new [1]) reconnectedInTime).map
      (fun final => (final.cleanups.map (fun cleanup => (cleanup.progress,
        cleanup.target.isSome, cleanup.started)), (final.sessionState briefClient).isSome)) =
      some ([(.finished, true, [⟨⟨2⟩, true⟩])], true) := by
    decide +kernel
  rcases Option.map_eq_some_iff.mp observed with ⟨final, runs, seen⟩
  rw [Prod.mk.injEq] at seen
  refine ⟨final, runs, seen.1, seen.2, ?_⟩
  apply cleanups_spare_reconnected briefClient [1] reconnectedInTime _ reconnectedInTime
    List.prefix_rfl final runs
  exact eachStep_of_allowedSteps (by decide +kernel)

/-- The client reconnects between the scan and the lookup. -/
def reconnectedBeforeLookUp : List ClusterInput :=
  onNode firstSession ++ [.scan 200] ++ onNode (secondSession 200) ++
    [.lookUp 0 (some 0), .forceStop 0]

/-- The client comes back in time, but the cleanup's scan falls between the handler's read
of the session state and the start of the session actor. -/
def scannedDuringRecovery : List ClusterInput :=
  onNode (firstSession ++ recover 1 2 150) ++ [.scan 200] ++ onNode (checkAndStart 1 200) ++
    [.lookUp 0 none, .delete 0 (logAt 6) (readingAt 200) .committed]

/-- The client reconnects after the scan, and a write of the old disconnection is applied
after that. -/
def disconnectedLate : List ClusterInput :=
  onNode firstSession ++ [.scan 200] ++ onNode (secondSession 200 ++
    [connectionState 6 none, connectionState 7 (some 100)]) ++
    [.lookUp 0 none, .delete 0 (logAt 8) (readingAt 200) .committed]

/-- The cleanup of a session stops the session actor of the client that has reconnected in
the meantime, or deletes the state of its session. -/
theorem cleanup_hits_reconnected :
    (∃ final, run (Cluster.step briefClient) (.new [1]) reconnectedBeforeLookUp = some final ∧
      final.cleanups.map (fun cleanup => (cleanup.started, cleanup.stopped)) =
        [([⟨⟨2⟩, true⟩], [⟨⟨2⟩⟩])]) ∧
    (∃ final, run (Cluster.step briefClient) (.new [1]) scannedDuringRecovery = some final ∧
      final.cleanups.map (fun cleanup => (cleanup.started, cleanup.removal)) =
        [([⟨⟨2⟩, true⟩], some ⟨some 100, true⟩)]) ∧
    ∃ final, run (Cluster.step briefClient) (.new [1]) disconnectedLate = some final ∧
      final.cleanups.map (fun cleanup => (cleanup.started, cleanup.removal)) =
        [([⟨⟨2⟩, true⟩], some ⟨some 100, true⟩)] := by
  constructor
  · decide +kernel
  constructor
  · decide +kernel
  · decide +kernel

end SessionManager

end YedMQ
