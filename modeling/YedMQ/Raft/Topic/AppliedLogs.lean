import YedMQ.Raft.Topic.Effects

/-! # The logs that the topic machine applies

An entry acts on the storage like its request, so the storage stays consistent. A retained
publication stops the machine if its topic name is not valid or its tenant is not known.
-/

namespace YedMQ.Raft.Topic

open Semantics YedMQ.Topic StateMachineData TopicStorage

variable {data next : StateMachineData TopicStorage} {input : Entry TopicRequest × Unit}

/-- An entry acts on the storage like its request, or leaves it alone. -/
theorem step_actsOn (consistent : Consistent data.state) (stepped : step data input = some next) :
    (∃ request, input.1.payload = .normal request ∧ ActsOn request data.state next.state) ∨
      (∀ request, input.1.payload ≠ .normal request) ∧ next.state = data.state := by
  have changes := (step_eq_some stepped).2
  cases payload : input.1.payload with
  | blank | membership =>
    simp only [payload] at changes
    exact .inr ⟨nofun, changes.1⟩
  | normal request =>
    simp only [payload] at changes
    rcases changes.2 with ⟨_, handled⟩
    exact .inl ⟨request, rfl, applyRequest_actsOn consistent handled⟩

theorem consistent_step (consistent : Consistent data.state) (stepped : step data input = some next)
    : Consistent next.state := by
  rcases step_actsOn consistent stepped with ⟨_, _, acts⟩ | ⟨_, same⟩
  · exact acts.consistent consistent
  · rw [same]
    exact consistent

theorem consistent_initial : Consistent initial.state := by
  refine (actsOn_createTenant "public" _).consistent ⟨fun _ => rfl, fun _ => rfl, ?_, ?_⟩
  · intro tenantId clientId topic stored isRecorded
    cases isRecorded
  · intro tenantId topic isRecorded
    cases isRecorded

def createdTenant (entry : Entry TopicRequest) : Option String :=
  match entry.payload with
  | .normal request => request.createdTenant
  | _ => none

theorem containsTenant_step (consistent : Consistent data.state)
    (stepped : step data input = some next) (tenantId : String) :
    next.state.containsTenant tenantId = true ↔
      data.state.containsTenant tenantId = true ∨ createdTenant input.1 = some tenantId := by
  rw [createdTenant]
  rcases step_actsOn consistent stepped with ⟨_, payload, acts⟩ | ⟨other, same⟩
  · rw [payload, acts.tenant, raise, Bool.or_eq_true, decide_eq_true_iff]
  · rw [same]
    split
    · rename_i request payload
      exact absurd payload (other request)
    · simp

/-! ## Which logs are applied -/

/-- A retained publication has a valid topic name and a known tenant. Every other
entry is acceptable. -/
def Acceptable (known : String → Prop) (entry : Entry TopicRequest) : Prop :=
  match entry.payload with
  | .normal (.registerRetainPublishPacket tenantId _ (.publish publish)) =>
    testTopic publish.topicName = true ∧ known tenantId
  | _ => True

/-- The tenants that exist after some entries of a log: the default one and those that
an entry created. -/
def KnownTenant (earlier : List (Entry TopicRequest)) (tenantId : String) : Prop :=
  tenantId = "public" ∨ ∃ entry ∈ earlier, createdTenant entry = some tenantId

theorem applyEntry_ok_iff (entry : Entry TopicRequest) (data : StateMachineData TopicStorage) :
    (∃ outcome, data.applyEntry applyRequest () () entry = .ok outcome) ↔
      Acceptable (fun tenantId => data.state.containsTenant tenantId = true) entry := by
  unfold applyEntry Acceptable
  rcases entry with ⟨_, payload⟩
  cases payload with
  | blank | membership => simp
  | normal request =>
    cases request with
    | registerRetainPublishPacket tenantId sourceClientId publishPacket =>
      cases publishPacket with
      | publish publish =>
        have outcomes := registerRetainPublishPacket_publish tenantId
        simp only [applyRequest]
        rw [← outcomes]
        cases data.state.registerRetainPublishPacket tenantId
            sourceClientId (.publish publish) with
        | error => simp
        | ok => simp
      | _ => simp [applyRequest, registerRetainPublishPacket]
    | _ => simp [applyRequest]

/-- Applying a log from a consistent state succeeds exactly if every retained publication
finds its tenant in that state or among those created before it. -/
theorem apply_ok_iff_acceptable (entries : List (Entry TopicRequest))
    (consistent : Consistent data.state) :
    (∃ outcome, data.apply applyRequest () (entries.map (·, ())) = .ok outcome) ↔
      ∀ earlier entry later, entries = earlier ++ entry :: later →
        Acceptable (fun tenantId => data.state.containsTenant tenantId = true ∨
          ∃ created ∈ earlier, createdTenant created = some tenantId) entry := by
  induction entries generalizing data with
  | nil => simp [apply]
  | cons first rest induction =>
    rw [List.map_cons, apply_cons_ok_iff]
    have steps : ∀ next reply, data.applyEntry applyRequest () () first = .ok (next, reply) →
        step data (first, ()) = some next := by
      intro next reply applied
      simp [step, StateMachineData.step, applied, Except.toOption]
    -- The tenants known later in the log are those of the next state and those
    -- created after the first entry.
    have known : ∀ next reply, data.applyEntry applyRequest () () first =
        .ok (next, reply) → ∀ earlier : List (Entry TopicRequest), (fun tenantId =>
          data.state.containsTenant tenantId = true ∨
            ∃ created ∈ first :: earlier, createdTenant created = some tenantId) =
          fun tenantId => next.state.containsTenant tenantId = true ∨
            ∃ created ∈ earlier, createdTenant created = some tenantId := by
      intro next reply applied earlier
      funext tenantId
      rw [containsTenant_step consistent (steps next reply applied)]
      simp [or_assoc]
    constructor
    · rintro ⟨next, reply, applied, restOk⟩ earlier entry later split
      cases earlier with
      | nil =>
        cases split
        have accepted := (applyEntry_ok_iff first data).mp ⟨_, applied⟩
        simpa using accepted
      | cons head earlier =>
        cases split
        rw [known next reply applied]
        have kept := consistent_step consistent (steps next reply applied)
        exact (induction kept).mp restOk earlier entry later rfl
    · intro acceptable
      have accepted := acceptable [] first rest rfl
      simp only [List.not_mem_nil, false_and, exists_false, or_false] at accepted
      rcases (applyEntry_ok_iff first data).mpr accepted with ⟨⟨next, reply⟩, applied⟩
      have kept := consistent_step consistent (steps next reply applied)
      refine ⟨next, reply, applied, (induction kept).mpr ?_⟩
      intro earlier entry later split
      rw [← known next reply applied]
      exact acceptable (first :: earlier) entry later (by rw [split]; rfl)

/-- The machine applies a whole log, with one reply for each entry, if and only if
every retained publication in it has a valid topic name and a tenant that already
exists. -/
theorem apply_ok_iff (entries : List (Entry TopicRequest)) : (∃ final replies,
      initial.apply applyRequest () (entries.map (·, ())) = .ok (final, replies) ∧
        replies.length = entries.length) ↔
      ∀ earlier entry later, entries = earlier ++ entry :: later →
        Acceptable (KnownTenant earlier) entry := by
  have known : ∀ earlier : List (Entry TopicRequest), KnownTenant earlier =
      fun tenantId => initial.state.containsTenant tenantId = true ∨
        ∃ created ∈ earlier, createdTenant created = some tenantId := by
    intro earlier
    funext tenantId
    rw [KnownTenant, ← containsTenant_new]
    rfl
  simp only [known]
  rw [← apply_ok_iff_acceptable entries consistent_initial]
  constructor
  · rintro ⟨final, replies, applied, _⟩
    exact ⟨_, applied⟩
  · rintro ⟨⟨final, replies⟩, applied⟩
    refine ⟨final, replies, applied, ?_⟩
    rw [length_replies applied, List.length_map]

def retained (index : Nat) (tenantId topicName : String) : Entry TopicRequest where
  logId := { leaderId := { term := 1, nodeId := 1 }, index := index }
  payload := .normal (.registerRetainPublishPacket tenantId "client" (.publish
      { protocolVersion := .v5_0
        topicName := topicName
        payload := [0]
        qos := 0
        retain := true
        dup := false
        packetIdentifier := none
        messageExpiryInterval := none
        expiresAtUnixSecs := none }))

/-- An invalid topic name and a tenant without subscriptions both stop the machine,
and the valid entry after them is not applied. -/
theorem retained_stops : initial.apply applyRequest () [(retained 1 "public" "a/#/b", ()),
      (retained 2 "public" "a", ())] = .error (.invalidTopicFilter "a/#/b") ∧
    initial.apply applyRequest () [(retained 1 "other" "a", ()),
      (retained 2 "public" "a", ())] = .error (.tenantNotFound "other") := by
  constructor <;> rfl

end YedMQ.Raft.Topic
