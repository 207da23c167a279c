import YedMQ.Raft.SessionActorMap.Replay
import YedMQ.Semantics.History
import YedMQ.Session.SessionRegistry

/-! # Who owns a session

A registration makes the log index of its entry the owner of a session. Every other
entry names the instance that it speaks for, so the log decides ownership by its order:
the last registration counts, until an entry takes away exactly that instance. The same
instance travels in the messages that stop session actors.
-/

namespace YedMQ.Raft.SessionActorMap

open Foundation Semantics YedMQ StateMachineData SessionActorMapStorage

def owner (tenantId clientId : String) (storage : SessionActorMapStorage) :
    Option SessionInstanceId :=
  (storage.getSessionActorMap tenantId clientId).map fun entry => entry.instanceId

def SessionActorMapRequest.Names (tenantId clientId : String)
    (instanceId : SessionInstanceId) : SessionActorMapRequest → Prop
  | .registerSession _ _ _ => False
  | .unregisterSession otherTenant otherClient sessionInstanceId =>
    otherTenant = tenantId ∧ otherClient = clientId ∧ sessionInstanceId = instanceId
  | .cleanExpiredSessions sessions =>
    ∃ session ∈ sessions, session.tenantId = tenantId ∧ session.sessionId = clientId ∧
      session.sessionInstanceId = instanceId
  | .sessionLeaseRenewRequest sessions =>
    ∃ renewal ∈ sessions, renewal.tenantId = tenantId ∧ renewal.sessionId = clientId ∧
      renewal.sessionInstanceId = instanceId

def SessionActorMapRequest.IsRenewal : SessionActorMapRequest → Prop
  | .sessionLeaseRenewRequest _ => True
  | _ => False

section Inputs

variable (tenantId clientId : String) (instanceId : SessionInstanceId)
  (input : Entry SessionActorMapRequest × Reading)

def Registers : Prop :=
  ∃ nodeId, input.1.payload = .normal (.registerSession tenantId clientId nodeId) ∧
    instanceId = { logIndex := input.1.logId.index }

def Names : Prop :=
  ∃ request, input.1.payload = .normal request ∧ request.Names tenantId clientId instanceId

def Unregisters : Prop :=
  ∃ request, input.1.payload = .normal request ∧
    request.Names tenantId clientId instanceId ∧ ¬ request.IsRenewal

def Supersedes : Prop :=
  (∃ other, Registers tenantId clientId other input) ∨
    Unregisters tenantId clientId instanceId input

end Inputs

variable {tenantId clientId : String} {instanceId : SessionInstanceId}
  {input : Entry SessionActorMapRequest × Reading}

/-! ## What an entry does to the owner -/

theorem dropExpired_cons (session : ExpiredSession) (sessions : List ExpiredSession)
    (current : Option SessionActorMapEntry) :
    dropExpired tenantId clientId (session :: sessions) current =
      dropExpired tenantId clientId sessions
        ((if session.tenantId = tenantId ∧ session.sessionId = clientId then
          dropOwned session.sessionInstanceId else id) current) := rfl

theorem dropExpired_none (sessions : List ExpiredSession) :
    dropExpired tenantId clientId sessions none = none := by
  induction sessions with
  | nil => rfl
  | cons session sessions induction =>
    rw [dropExpired_cons]
    split
    · exact induction
    · exact induction

theorem dropExpired_some_iff (sessions : List ExpiredSession) (entry other : SessionActorMapEntry) :
    dropExpired tenantId clientId sessions (some entry) = some other ↔
      other = entry ∧ ¬ (SessionActorMapRequest.cleanExpiredSessions sessions).Names
        tenantId clientId entry.instanceId := by
  induction sessions with
  | nil =>
    have kept : dropExpired tenantId clientId [] (some entry) = some entry := rfl
    simp [kept, SessionActorMapRequest.Names, eq_comm]
  | cons session sessions induction =>
    rw [dropExpired_cons]
    simp only [SessionActorMapRequest.Names, List.mem_cons, exists_eq_or_imp]
    by_cases here : session.tenantId = tenantId ∧ session.sessionId = clientId
    · rw [if_pos here]
      by_cases owned : entry.instanceId = session.sessionInstanceId
      · have dropped : dropOwned session.sessionInstanceId (some entry) = none := by
          simp [dropOwned, owned]
        rw [dropped, dropExpired_none]
        simp [here, owned]
      · have kept : dropOwned session.sessionInstanceId (some entry) = some entry := by
          simp [dropOwned, owned]
        rw [kept, induction]
        simp [SessionActorMapRequest.Names, Ne.symm owned]
    · rw [if_neg here, id, induction]
      have elsewhere : ¬ (session.tenantId = tenantId ∧ session.sessionId = clientId ∧
          session.sessionInstanceId = entry.instanceId) := by
        rintro ⟨sameTenant, sameClient, _⟩
        exact here ⟨sameTenant, sameClient⟩
      simp [SessionActorMapRequest.Names, elsewhere]

theorem lastRenewal_of_not_names {sessions : List RenewSession}
    (stale : ¬ (SessionActorMapRequest.sessionLeaseRenewRequest sessions).Names tenantId
      clientId instanceId) (position : Nat) :
    lastRenewal tenantId clientId instanceId position sessions =
      none := by
  induction sessions generalizing position with
  | nil => rfl
  | cons renewal sessions induction =>
    simp only [SessionActorMapRequest.Names, List.mem_cons, exists_eq_or_imp, not_or] at stale
    rw [lastRenewal, induction stale.2]
    exact if_neg stale.1

variable {replica : Replica}

/-- Entries that do not speak for the owner of a session leave it as it is, with its
lease. -/
theorem entryEffect_of_not_names {entry : SessionActorMapEntry}
    (noRegistration : ∀ other, ¬ Registers tenantId clientId other input)
    (stale : ¬ Names tenantId clientId entry.instanceId input) :
    entryEffect replica tenantId clientId input (some entry) = some entry := by
  have unnamed : ∀ request, input.1.payload = .normal request →
      ¬ request.Names tenantId clientId entry.instanceId := by
    intro request payload names
    exact stale ⟨request, payload, names⟩
  cases payload : input.1.payload with
  | blank | membership => simp [entryEffect, payload]
  | normal request =>
    have notNamed := unnamed request payload
    cases request with
    | registerSession otherTenant otherClient nodeId =>
      have elsewhere : ¬ (otherTenant = tenantId ∧ otherClient = clientId) := by
        rintro ⟨sameTenant, sameClient⟩
        subst sameTenant sameClient
        exact noRegistration _ ⟨nodeId, payload, rfl⟩
      simp [entryEffect, payload, elsewhere]
    | unregisterSession otherTenant otherClient sessionInstanceId =>
      simp only [entryEffect, payload]
      split
      · rename_i here
        have other : entry.instanceId ≠ sessionInstanceId := by
          intro owned
          exact notNamed ⟨here.1, here.2, owned.symm⟩
        simp [dropOwned, other]
      · rfl
    | cleanExpiredSessions sessions =>
      simp only [entryEffect, payload]
      exact (dropExpired_some_iff sessions entry entry).mpr ⟨rfl, notNamed⟩
    | sessionLeaseRenewRequest =>
      simp [entryEffect, payload, renewedEntry, lastRenewal_of_not_names notNamed]

theorem entryEffect_none (noRegistration : ∀ other, ¬ Registers tenantId clientId other input) :
    entryEffect replica tenantId clientId input none = none := by
  cases payload : input.1.payload with
  | blank | membership => simp [entryEffect, payload]
  | normal request =>
    cases request with
    | registerSession otherTenant otherClient nodeId =>
      have elsewhere : ¬ (otherTenant = tenantId ∧ otherClient = clientId) := by
        rintro ⟨sameTenant, sameClient⟩
        subst sameTenant sameClient
        exact noRegistration _ ⟨nodeId, payload, rfl⟩
      simp [entryEffect, payload, elsewhere]
    | unregisterSession =>
      simp only [entryEffect, payload]
      split <;> rfl
    | cleanExpiredSessions =>
      simp [entryEffect, payload, dropExpired_none]
    | sessionLeaseRenewRequest => simp [entryEffect, payload]

theorem instanceId_renewedEntry (clock : Nat → Nat) (sessionTtl position : Nat)
    (sessions : List RenewSession) (entry : SessionActorMapEntry) :
    (renewedEntry clock sessionTtl tenantId clientId position
      sessions entry).instanceId = entry.instanceId := by
  rw [renewedEntry]
  split <;> rfl

def Concerns (tenantId clientId : String) (input : Entry SessionActorMapRequest × Reading) : Prop :=
  ∃ instanceId, Registers tenantId clientId instanceId input ∨
    Names tenantId clientId instanceId input

open Classical in
/-- The owner of a session and its lease depend only on the entries that register an instance of
the session or speak for one. -/
theorem ownership_isolated (replica : Replica) (tenantId clientId : String) :
    Isolated (step replica) (fun _ => True)
      (fun data => data.state.getSessionActorMap tenantId clientId)
      (fun input => if Concerns tenantId clientId input then some input else none) := by
  apply isolated_of_reads (entryEffect replica tenantId clientId)
  · exact fun _ _ _ _ _ => trivial
  · intro input data next _ stepped
    rw [(effects_step stepped).1]
    split
    · rfl
    · rename_i silent
      have unregistered : ∀ instanceId, ¬ Registers tenantId clientId instanceId input :=
        fun instanceId registers => silent ⟨instanceId, .inl registers⟩
      cases data.state.getSessionActorMap tenantId clientId with
      | none => exact entryEffect_none unregistered
      | some => exact entryEffect_of_not_names unregistered fun names => silent ⟨_, .inr names⟩

theorem owner_entryEffect (replica : Replica) (current : Option SessionActorMapEntry) :
    (entryEffect replica tenantId clientId input current).map
        (fun entry => entry.instanceId) = some instanceId ↔
      Registers tenantId clientId instanceId input ∨
        (current.map (fun entry => entry.instanceId) = some instanceId ∧
          ¬ Supersedes tenantId clientId instanceId input) := by
  by_cases registration : ∃ other, Registers tenantId clientId other input
  · have superseded : Supersedes tenantId clientId instanceId input := .inl registration
    rcases registration with ⟨other, _, payload, _⟩
    simp only [entryEffect, superseded]
    simp [Registers, payload, eq_comm]
  · have notRegistered : ¬ Registers tenantId clientId instanceId input := by
      intro registers
      exact registration ⟨instanceId, registers⟩
    have noRegistration : ∀ other, ¬ Registers tenantId clientId other input := by
      intro other registers
      exact registration ⟨other, registers⟩
    simp only [notRegistered, false_or, Supersedes, registration]
    cases current with
    | none =>
      simp [entryEffect_none noRegistration]
    | some entry =>
      by_cases named : Names tenantId clientId entry.instanceId input
      · rcases named with ⟨request, payload, names⟩
        have unregisters : Unregisters tenantId clientId instanceId input ↔
            request.Names tenantId clientId instanceId ∧ ¬ request.IsRenewal := by
          simp [Unregisters, payload]
        rw [unregisters]
        cases request with
        | registerSession => exact names.elim
        | unregisterSession =>
          rcases names with ⟨sameTenant, sameClient, owned⟩
          subst sameTenant sameClient owned
          simp [entryEffect, payload, dropOwned, SessionActorMapRequest.Names,
            SessionActorMapRequest.IsRenewal]
        | cleanExpiredSessions sessions =>
          have dropped : dropExpired tenantId clientId sessions (some entry) = none := by
            rw [Option.eq_none_iff_forall_not_mem]
            intro other kept
            exact ((dropExpired_some_iff sessions entry other).mp kept).2 names
          simp only [entryEffect, payload, dropped, Option.map_none,
            SessionActorMapRequest.IsRenewal]
          simp only [reduceCtorEq, Option.map_some, Option.some.injEq, false_iff, not_and]
          intro owned
          rw [← owned]
          simpa using names
        | sessionLeaseRenewRequest =>
          simp [entryEffect, payload, instanceId_renewedEntry, SessionActorMapRequest.IsRenewal]
      · rw [entryEffect_of_not_names noRegistration named]
        simp only [Option.map_some, Option.some.injEq]
        constructor
        · intro owned
          subst owned
          refine ⟨rfl, ?_⟩
          rintro ⟨request, payload, names, _⟩
          exact named ⟨request, payload, names⟩
        · exact fun owned => owned.1

variable {final : StateMachineData SessionActorMapStorage}
  {inputs : List (Entry SessionActorMapRequest × Reading)}

theorem owner_run (runs : run (step replica) initial inputs = some final) :
    owner tenantId clientId final.state = some instanceId ↔
      LastStores (Registers tenantId clientId instanceId)
        (Supersedes tenantId clientId instanceId) inputs := by
  induction inputs using List.reverseRecOn generalizing final with
  | nil =>
    cases runs
    have empty : owner tenantId clientId initial.state = none := rfl
    simp [empty, not_lastStores_nil]
  | append_singleton inputs input induction =>
    rw [run_concat] at runs
    rcases Option.bind_eq_some_iff.mp runs with ⟨_, earlier, stepped⟩
    rw [lastStores_concat, ← induction earlier, owner,
      (effects_step stepped).1, owner_entryEffect]
    rfl

/-! ## Stop messages -/

def SessionManagerMessage.sessionInstanceId : SessionManagerMessage → SessionInstanceId
  | .forceStopWithSessionService _ _ sessionInstanceId
  | .removeExpiredSession _ _ sessionInstanceId => sessionInstanceId

/-- The session manager handles a message: the registry afterwards, and the session
actors that it tells to stop. -/
def SessionManagerMessage.handle (registry : SessionRegistry) :
    SessionManagerMessage → SessionRegistry × SessionRegistry.Stopped
  | .forceStopWithSessionService tenantId clientId sessionInstanceId =>
    (registry, registry.forceStopWithSessionService tenantId clientId sessionInstanceId)
  | .removeExpiredSession tenantId clientId sessionInstanceId =>
    match registry.removeExpiredSession tenantId clientId sessionInstanceId with
    | .ok outcome => outcome
    | .error _ => (registry, [])

/-- A stop message acts only on the instance that it carries. -/
theorem SessionManagerMessage.handle_only (message : SessionManagerMessage)
    (registry : SessionRegistry) :
    (∀ addr ∈ (message.handle registry).2, addr.sessionInstanceId = message.sessionInstanceId) ∧
      ∀ tenantId clientId wrapper, registry.get tenantId clientId = some wrapper →
        wrapper.sessionInstanceId ≠ message.sessionInstanceId →
          (message.handle registry).1.get tenantId clientId = some wrapper := by
  cases message with
  | forceStopWithSessionService =>
    constructor
    · intro addr stopped
      exact SessionRegistry.mem_forceStopWithSessionService stopped
    · intro _ _ _ found _
      exact found
  | removeExpiredSession tenantId clientId sessionInstanceId =>
    rw [handle]
    cases handled : registry.removeExpiredSession tenantId clientId sessionInstanceId with
    | error => exact ⟨by simp, fun _ _ _ found _ => found⟩
    | ok => exact SessionRegistry.removeExpiredSession_ok handled

variable {message : SessionManagerMessage}

theorem SessionManagerMessage.get_of_handle {registry : SessionRegistry}
    {tenantId clientId : String} {wrapper : SessionActorRecipientWrapper}
    (kept : (message.handle registry).1.get tenantId clientId = some wrapper) :
    registry.get tenantId clientId = some wrapper := by
  cases message with
  | forceStopWithSessionService => exact kept
  | removeExpiredSession =>
    rw [handle, SessionRegistry.removeExpiredSession] at kept
    split at kept
    · rename_i outcome handled
      split at handled
      · split at handled
        · cases handled
        · split at handled
          · cases handled
            exact kept
          · cases handled
            exact SessionRegistry.get_of_removeIf kept
      · cases handled
    · exact kept

/-- Where the instance of a stop message comes from: the entry names it, or the entry
registers a session that it owned before. -/
def Causes (storage : SessionActorMapStorage) (input : Entry SessionActorMapRequest × Reading)
    (stopped : SessionInstanceId) : Prop :=
  ∃ tenantId clientId, Names tenantId clientId stopped input ∨
    ∃ instanceId, Registers tenantId clientId instanceId input ∧
      owner tenantId clientId storage = some stopped ∧ stopped ≠ instanceId

variable {data next : StateMachineData SessionActorMapStorage} {output : Applied}

theorem causes_sent (applied : data.applyEntry (applyRequest replica) ⟨.none, []⟩ input.2 input.1 =
      .ok (next, output)) (sent : message ∈ output.sent) :
    Causes data.state input message.sessionInstanceId := by
  cases payload : input.1.payload with
  | blank | membership =>
    simp only [applyEntry, payload, Except.ok.injEq, Prod.mk.injEq] at applied
    rw [← applied.2] at sent
    simp at sent
  | normal request =>
    cases request with
    | registerSession tenantId clientId nodeId =>
      simp only [applyEntry, payload, applyRequest, registerSessionActor, Except.ok.injEq,
        Prod.mk.injEq] at applied
      rw [← applied.2] at sent
      cases previous : data.state.getSessionActorMap tenantId clientId with
      | none => simp [previous] at sent
      | some =>
        simp only [previous] at sent
        split at sent
        · rename_i replaced
          cases List.mem_singleton.mp sent
          refine ⟨tenantId, clientId, .inr ⟨_, ⟨nodeId, payload, rfl⟩, ?_, replaced.2⟩⟩
          rw [owner, previous]
          rfl
        · cases sent
    | unregisterSession =>
      simp only [applyEntry, payload, applyRequest, Except.ok.injEq, Prod.mk.injEq] at applied
      rw [← applied.2] at sent
      simp at sent
    | cleanExpiredSessions =>
      simp only [applyEntry, payload, applyRequest, Except.ok.injEq, Prod.mk.injEq] at applied
      rw [← applied.2] at sent
      rcases List.mem_map.mp sent with ⟨session, member, rfl⟩
      refine ⟨session.tenantId, session.sessionId, .inl ⟨_, payload, session, ?_⟩⟩
      exact ⟨(List.mem_filter.mp member).1, rfl, rfl, rfl⟩
    | sessionLeaseRenewRequest =>
      simp only [applyEntry, payload, applyRequest, Except.ok.injEq, Prod.mk.injEq] at applied
      rw [← applied.2] at sent
      simp at sent

/-! ## Instances of registrations -/

theorem registered_logIndex
    (applied : data.applyEntry (applyRequest replica) ⟨.none, []⟩ input.2 input.1 =
      .ok (next, output)) (registered : output.reply = .registered instanceId) :
    instanceId.logIndex = input.1.logId.index := by
  rw [applyEntry] at applied
  split at applied
  · cases applied
    cases registered
  · rename_i request payload
    cases request <;> cases applied <;> cases registered
    rfl
  · cases applied
    cases registered

variable {outputs : List Applied}

theorem exists_registration
    (applied : data.apply (applyRequest replica) ⟨.none, []⟩ inputs = .ok (final, outputs))
    (member : output ∈ outputs) (registered : output.reply = .registered instanceId) :
    ∃ input ∈ inputs, instanceId.logIndex = input.1.logId.index := by
  induction inputs generalizing data outputs with
  | nil =>
    cases applied
    cases member
  | cons input inputs induction =>
    rw [apply] at applied
    split at applied
    · cases applied
    · rename_i next first here
      split at applied
      · cases applied
      · rename_i last replies later
        cases applied
        rcases List.mem_cons.mp member with same | rest
        · subst same
          exact ⟨input, List.mem_cons_self, registered_logIndex here registered⟩
        · rcases induction later rest with ⟨source, inRest, index⟩
          exact ⟨source, List.mem_cons_of_mem _ inRest, index⟩

theorem pairwise_registered (increasing : inputs.Pairwise fun earlier later =>
      earlier.1.logId.index < later.1.logId.index)
    (applied : data.apply (applyRequest replica) ⟨.none, []⟩ inputs = .ok (final, outputs)) :
    outputs.Pairwise fun earlier later => ∀ instanceId,
      earlier.reply = .registered instanceId → later.reply ≠ .registered instanceId := by
  induction inputs generalizing data outputs with
  | nil =>
    cases applied
    exact List.Pairwise.nil
  | cons input inputs induction =>
    rw [apply] at applied
    split at applied
    · cases applied
    · rename_i next first here
      split at applied
      · cases applied
      · rename_i last replies later
        cases applied
        rw [List.pairwise_cons] at increasing
        refine List.Pairwise.cons ?_ (induction increasing.2 later)
        intro output member instanceId firstReply laterReply
        have firstIndex := registered_logIndex here firstReply
        rcases exists_registration later member laterReply with ⟨source, inRest, _⟩
        have larger := increasing.1 source inRest
        omega

/-- The log decides who owns a session. -/
theorem lastRegistration_owns (replica : Replica)
    (inputs : List (Entry SessionActorMapRequest × Reading))
    (increasing : inputs.Pairwise fun earlier later =>
      earlier.1.logId.index < later.1.logId.index)
    (final : StateMachineData SessionActorMapStorage) (outputs : List Applied)
    (applied : initial.apply (applyRequest replica) ⟨.none, []⟩ inputs = .ok (final, outputs)) :
    -- The owner is the last registration that no later entry takes away by name.
    (∀ tenantId clientId instanceId, owner tenantId clientId final.state = some instanceId ↔
        LastStores (Registers tenantId clientId instanceId)
          (Supersedes tenantId clientId instanceId) inputs) ∧
    -- Entries that speak for other instances keep the owner and its lease.
    (∀ visited input, visited ++ [input] <+: inputs →
      ∀ reached next, run (step replica) initial visited = some reached →
        step replica reached input = some next → ∀ tenantId clientId entry,
            reached.state.getSessionActorMap tenantId clientId = some entry →
            (∀ instanceId, ¬ Registers tenantId clientId instanceId input) →
            ¬ Names tenantId clientId entry.instanceId input →
              next.state.getSessionActorMap tenantId clientId = some entry) ∧
    -- A stop message stops nothing but the instance for which it was sent.
    (∀ visited input, visited ++ [input] <+: inputs →
      ∀ reached next output, run (step replica) initial visited = some reached →
        reached.applyEntry (applyRequest replica) ⟨.none, []⟩ input.2 input.1 = .ok (next, output) →
          ∀ message ∈ output.sent, Causes reached.state input message.sessionInstanceId ∧
            ∀ registry : SessionRegistry, (∀ addr ∈ (message.handle registry).2,
                addr.sessionInstanceId = message.sessionInstanceId) ∧
              ∀ tenantId clientId wrapper, registry.get tenantId clientId = some wrapper →
                wrapper.sessionInstanceId ≠ message.sessionInstanceId →
                  (message.handle registry).1.get tenantId clientId = some wrapper) ∧
    -- Instances are given out once.
    outputs.Pairwise fun earlier later => ∀ instanceId,
      earlier.reply = .registered instanceId → later.reply ≠ .registered instanceId := by
  have runs : run (step replica) initial inputs = some final := by
    rw [step, run_step_eq_apply, applied]
    rfl
  refine ⟨?_, ?_, ?_, pairwise_registered increasing applied⟩
  · intro tenantId clientId instanceId
    exact owner_run runs
  · intro visited input _ reached next _ stepped tenantId clientId entry found noRegistration stale
    rw [(effects_step stepped).1, found]
    exact entryEffect_of_not_names noRegistration stale
  · intro visited input _ reached next output _ handled message sent
    exact ⟨causes_sent handled sent, message.handle_only⟩

/-- A client connects twice to one node; then the first instance expires and is also
unregistered and renewed. -/
def takeover : List (Entry SessionActorMapRequest × Reading) :=
  [(.registerSession "tenant" "client" 1 : SessionActorMapRequest),
    .registerSession "tenant" "client" 1,
    .cleanExpiredSessions [⟨"tenant", "client", 1, ⟨0⟩⟩],
    .unregisterSession "tenant" "client" ⟨0⟩,
    .sessionLeaseRenewRequest [⟨"tenant", "client", ⟨0⟩⟩]].zipIdx.map fun (request, index) =>
        (⟨⟨⟨1, 1⟩, index⟩, .normal request⟩, fun _ => index)

theorem lastRegistration_owns_takeover :
    ∃ final outputs, initial.apply (applyRequest ⟨1, 60⟩) ⟨.none, []⟩ takeover =
        .ok (final, outputs) ∧
      owner "tenant" "client" final.state = some ⟨1⟩ ∧
      LastStores (Registers "tenant" "client" ⟨1⟩) (Supersedes "tenant" "client" ⟨1⟩)
        takeover := by
  refine ⟨_, _, rfl, rfl, ?_⟩
  have decided := (lastRegistration_owns ⟨1, 60⟩ takeover (by decide) _ _ rfl).1
  exact (decided "tenant" "client" ⟨1⟩).mp rfl

end YedMQ.Raft.SessionActorMap
