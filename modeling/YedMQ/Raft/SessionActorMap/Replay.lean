import YedMQ.Raft.SessionActorMap.StateMachine
import YedMQ.Raft.SnapshotReplay

/-! # Snapshots of the session-actor map

The snapshot builder reads the map in one piece, but possibly after entries that its
log position does not cover. Replaying these entries is harmless: registrations carry
the log index of their entry as the instance that owns the session, and removals and
renewals act on a session only for the instance that they name.
-/

namespace YedMQ.Raft.SessionActorMap

open Foundation Semantics YedMQ SessionActorMapStorage StateMachineData NestedMap

/-- What becomes of an entry depends on its owner only: it is dropped, kept or
renewed. -/
def applyFate (fate : SessionInstanceId → Option (Option Nat))
    (entry : SessionActorMapEntry) : Option SessionActorMapEntry :=
  (fate entry.instanceId).map fun renewed =>
    { entry with expirationTimestamp := renewed.getD entry.expirationTimestamp }

def ByOwner (update : Option SessionActorMapEntry → Option SessionActorMapEntry) : Prop :=
  (∃ fate, update = fun current => current.bind (applyFate fate)) ∨ ∃ value, update = fun _ => value

def composeFate (first second : SessionInstanceId → Option (Option Nat))
    (owner : SessionInstanceId) : Option (Option Nat) :=
  (first owner).bind fun earlier => (second owner).map fun later => later.or earlier

theorem bind_applyFate (first second : SessionInstanceId → Option (Option Nat))
    (entry : SessionActorMapEntry) :
    (applyFate first entry).bind (applyFate second) =
      applyFate (composeFate first second) entry := by
  simp only [applyFate, composeFate]
  cases first entry.instanceId with
  | none => rfl
  | some =>
    simp only [Option.map_some, Option.bind_some, applyFate]
    cases second entry.instanceId with
    | none => rfl
    | some later => cases later <;> rfl

theorem composeFate_self (fate : SessionInstanceId → Option (Option Nat)) :
    composeFate fate fate = fate := by
  funext owner
  rw [composeFate]
  cases fate owner with
  | none => rfl
  | some renewed => cases renewed <;> rfl

theorem ByOwner.band : Band ByOwner := by
  apply Band.orOverwrite
  refine ⟨⟨fun _ => some none, ?_⟩, ?_, ?_⟩
  · funext current
    cases current <;> rfl
  · rintro _ _ ⟨earlier, rfl⟩ ⟨fate, rfl⟩
    refine ⟨composeFate earlier fate, ?_⟩
    funext current
    cases current with
    | none => rfl
    | some entry => exact bind_applyFate earlier fate entry
  · rintro _ ⟨fate, rfl⟩ value
    cases value with
    | none => rfl
    | some entry =>
      have twice := bind_applyFate fate fate entry
      rw [composeFate_self] at twice
      exact twice

/-! ## What an entry does to the place of one session -/

def dropOwned (instanceId : SessionInstanceId) (current : Option SessionActorMapEntry) :
    Option SessionActorMapEntry :=
  current.bind fun existing =>
    if existing.instanceId = instanceId then none else some existing

theorem ByOwner.dropOwned (instanceId : SessionInstanceId) : ByOwner (dropOwned instanceId) := by
  refine .inl ⟨fun owner => if owner = instanceId then none else some none, ?_⟩
  funext current
  cases current with
  | none => rfl
  | some =>
    simp only [SessionActorMap.dropOwned, Option.bind_some, applyFate]
    split <;> rfl

theorem ByOwner.renewedEntry (clock : Nat → Nat) (sessionTtl : Nat)
    (tenantId sessionId : String) (position : Nat) (sessions : List RenewSession) :
    ByOwner (Option.map (renewedEntry clock sessionTtl tenantId sessionId position sessions)) := by
  refine .inl ⟨fun owner => some ((lastRenewal tenantId sessionId owner position sessions).map
      fun last => clock last + sessionTtl), ?_⟩
  funext current
  cases current with
  | none => rfl
  | some entry =>
    simp only [Option.map_some, Option.bind_some, applyFate, SessionActorMapStorage.renewedEntry]
    cases SessionActorMapStorage.lastRenewal tenantId sessionId entry.instanceId
      position sessions <;> rfl

def dropExpired (tenantId sessionId : String) (sessions : List ExpiredSession)
    (current : Option SessionActorMapEntry) : Option SessionActorMapEntry :=
  effect (fun session : ExpiredSession =>
    if session.tenantId = tenantId ∧ session.sessionId = sessionId then
      dropOwned session.sessionInstanceId
    else
      id) sessions current

def entryEffect (replica : Replica) (tenantId sessionId : String)
    (input : Entry SessionActorMapRequest × Reading) :
    Option SessionActorMapEntry → Option SessionActorMapEntry :=
  match input.1.payload with
  | .normal (.registerSession otherTenant otherSession nodeId) =>
    if otherTenant = tenantId ∧ otherSession = sessionId then
      fun _ => some
        { nodeId := nodeId
          instanceId := { logIndex := input.1.logId.index }
          expirationTimestamp := input.2 0 + replica.sessionTtl }
    else
      id
  | .normal (.unregisterSession otherTenant otherSession sessionInstanceId) =>
    if otherTenant = tenantId ∧ otherSession = sessionId then
      dropOwned sessionInstanceId
    else
      id
  | .normal (.cleanExpiredSessions sessions) => dropExpired tenantId sessionId sessions
  | .normal (.sessionLeaseRenewRequest sessions) =>
    Option.map (renewedEntry input.2 replica.sessionTtl tenantId sessionId 0 sessions)
  | _ => id

theorem byOwner_entryEffect (replica : Replica) (tenantId sessionId : String)
    (input : Entry SessionActorMapRequest × Reading) :
    ByOwner (entryEffect replica tenantId sessionId input) := by
  rw [entryEffect]
  split
  · exact ByOwner.band.ite (.inr ⟨_, rfl⟩) _
  · exact ByOwner.band.ite (ByOwner.dropOwned _) _
  · apply ByOwner.band.effect_mem
    intro session _
    exact ByOwner.band.ite (ByOwner.dropOwned _) _
  · exact ByOwner.renewedEntry _ _ _ _ _ _
  · exact ByOwner.band.refl

def tenantEffect (tenantId : String) (input : Entry SessionActorMapRequest × Reading) :
    Bool → Bool :=
  match input.1.payload with
  | .normal (.registerSession otherTenant _ _) => raise (tenantId = otherTenant)
  | _ => id

theorem overwrite_tenantEffect (tenantId : String)
    (input : Entry SessionActorMapRequest × Reading) :
    Overwrite (tenantEffect tenantId input) := by
  rw [tenantEffect]
  split
  · exact Overwrite.raise _
  · exact .inl rfl

/-! ## Steps and runs -/

theorem getSessionActorMap_unregister (tenantId sessionId : String)
    (instanceId : SessionInstanceId) (storage : SessionActorMapStorage)
    (otherTenant otherSession : String) :
    (storage.unregisterSessionActor tenantId sessionId instanceId).getSessionActorMap
        otherTenant otherSession =
      (if tenantId = otherTenant ∧ sessionId = otherSession then dropOwned instanceId
        else id) (storage.getSessionActorMap otherTenant otherSession) := by
  split
  · rename_i here
    rcases here with ⟨sameTenant, sameSession⟩
    subst sameTenant sameSession
    exact getAt_alterAt_self tenantId sessionId _ _
  · rename_i elsewhere
    apply getAt_alterAt_of_ne
    intro same
    cases same
    exact elsewhere ⟨rfl, rfl⟩

theorem getSessionActorMap_cleanExpiredSessions (sessions : List ExpiredSession)
    (storage : SessionActorMapStorage) (tenantId sessionId : String) :
    (cleanExpiredSessions sessions storage).getSessionActorMap tenantId sessionId =
      dropExpired tenantId sessionId sessions (storage.getSessionActorMap tenantId sessionId) := by
  induction sessions generalizing storage with
  | nil => rfl
  | cons session sessions induction =>
    have rest := induction (storage.unregisterSessionActor session.tenantId
      session.sessionId session.sessionInstanceId)
    rw [getSessionActorMap_unregister] at rest
    exact rest

theorem hasOuter_cleanExpiredSessions (sessions : List ExpiredSession)
    (storage : SessionActorMapStorage) (tenantId : String) :
    (cleanExpiredSessions sessions storage).inner.hasOuter tenantId =
      storage.inner.hasOuter tenantId := by
  induction sessions generalizing storage with
  | nil => rfl
  | cons session sessions induction =>
    have rest := induction (storage.unregisterSessionActor session.tenantId
      session.sessionId session.sessionInstanceId)
    have first : (storage.unregisterSessionActor session.tenantId session.sessionId
        session.sessionInstanceId).inner.hasOuter tenantId = storage.inner.hasOuter tenantId :=
      hasOuter_alterAt _ _ _ _ _
    rw [first] at rest
    exact rest

variable {replica : Replica} {data next : StateMachineData SessionActorMapStorage}
  {input : Entry SessionActorMapRequest × Reading}

theorem effects_step (stepped : step replica data input = some next) :
    (∀ tenantId sessionId, next.state.getSessionActorMap tenantId sessionId =
      entryEffect replica tenantId sessionId input
        (data.state.getSessionActorMap tenantId sessionId)) ∧
    ∀ tenantId, next.state.inner.hasOuter tenantId =
      tenantEffect tenantId input (data.state.inner.hasOuter tenantId) := by
  have changes := (step_eq_some stepped).2
  generalize next.state = made at changes ⊢
  unfold entryEffect tenantEffect
  cases payload : input.1.payload with
  | blank | membership =>
    simp only [payload] at changes
    rw [changes.1]
    exact ⟨fun _ _ => rfl, fun _ => rfl⟩
  | normal request =>
    simp only [payload] at changes
    rcases changes.2 with ⟨_, handled⟩
    cases request with
    | registerSession =>
      cases handled
      constructor
      · intro tenantId sessionId
        apply (getAt_setAt _ _ _ _ _ _).trans
        dsimp only
        split <;> rfl
      · intro tenantId
        exact (hasOuter_setAt _ _ _ _ _).trans (Bool.or_comm _ _)
    | unregisterSession =>
      cases handled
      exact ⟨getSessionActorMap_unregister _ _ _ _, hasOuter_alterAt _ _ _ _⟩
    | cleanExpiredSessions =>
      cases handled
      exact ⟨getSessionActorMap_cleanExpiredSessions _ _, hasOuter_cleanExpiredSessions _ _⟩
    | sessionLeaseRenewRequest =>
      cases handled
      exact ⟨getSessionActorMap_renewFrom _ _ _ _ _, hasOuter_renewFrom _ _ _ _ _⟩

variable {final : StateMachineData SessionActorMapStorage}
  {inputs : List (Entry SessionActorMapRequest × Reading)}

theorem getSessionActorMap_run (runs : run (step replica) data inputs = some final)
    (tenantId sessionId : String) :
    final.state.getSessionActorMap tenantId sessionId =
      effect (entryEffect replica tenantId sessionId) inputs
        (data.state.getSessionActorMap tenantId sessionId) := by
  refine read_run (fun data => data.state.getSessionActorMap tenantId sessionId)
    (fun _ => True) (fun _ _ _ _ _ _ => trivial) ?_ trivial runs
  intro input _ state next _ stepped
  exact (effects_step stepped).1 tenantId sessionId

theorem hasOuter_run (runs : run (step replica) data inputs = some final) (tenantId : String) :
    final.state.inner.hasOuter tenantId =
      effect (tenantEffect tenantId) inputs (data.state.inner.hasOuter tenantId) := by
  refine read_run (fun data => data.state.inner.hasOuter tenantId) (fun _ => True)
    (fun _ _ _ _ _ _ => trivial) ?_ trivial runs
  intro input _ state next _ stepped
  exact (effects_step stepped).2 tenantId

theorem exists_step (replica : Replica) (data : StateMachineData SessionActorMapStorage)
    (input : Entry SessionActorMapRequest × Reading) :
    ∃ next, step replica data input = some next := by
  cases applied : data.applyEntry (applyRequest replica) ⟨.none, []⟩ input.2 input.1 with
  | error error => exact error.elim
  | ok outcome =>
    simp [step, StateMachineData.step, applied, Except.toOption]

/-- A snapshot whose state was read after some of the entries that follow its log
position leads, once these entries are replayed, to the state of the log. -/
theorem replay {builder shared : StateMachineData SessionActorMapStorage}
    {window : List (Entry SessionActorMapRequest × Reading)} (seenFirst : window <+: inputs)
    (read : run (step replica) builder window = some shared)
    (logged : run (step replica) builder inputs = some final) :
    run (step replica) (builder.restored shared.state) inputs = some final := by
  have finishes : ∃ other, run (step replica) (builder.restored shared.state) inputs = some other :=
    exists_run (fun input _ data => exists_step replica data input) _
  rcases finishes with ⟨_, replayed⟩
  rw [replayed]
  refine congrArg some (eq_of_replay logged replayed ?_)
  apply ext_getSessionActorMap
  · intro tenantId
    rw [hasOuter_run replayed, hasOuter_run logged, state_restored, hasOuter_run read]
    exact Overwrite.band.replay seenFirst (fun input _ => overwrite_tenantEffect tenantId input) _
  · intro tenantId sessionId
    rw [getSessionActorMap_run replayed, getSessionActorMap_run logged,
      state_restored, getSessionActorMap_run read]
    exact ByOwner.band.replay seenFirst
      (fun input _ => byOwner_entryEffect replica tenantId sessionId input) _

end YedMQ.Raft.SessionActorMap
