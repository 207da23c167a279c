import YedMQ.Raft.Topic.StateMachine
import YedMQ.Semantics.Replay
import YedMQ.Topic.StorageCells

/-! # What a topic request does to each cell

Every request acts on the cells of the storage one by one: it raises flags for tenants
and nodes, and it overwrites, fills, empties or filters the other cells. Refused
requests do the same as accepted ones wherever there is nothing to do, because a
recorder never lists what has no node; `Consistent` says so.
-/

namespace YedMQ.Raft.Topic

open Foundation Semantics YedMQ.Topic TopicStorage NestedMap

namespace TopicRequest

def createdPath : TopicRequest → Option (String × List String)
  | subscribeTopic tenantId _ topic _ _ _ =>
    some (tenantId, (acceptedFilter topic).elim [] fun stored => levels stored.topicFilter)
  | registerRetainPublishPacket tenantId _ (.publish publish) =>
    some (tenantId, levels publish.topicName)
  | createTenant tenantId => some (tenantId, [])
  | _ => none

variable (tenantId : String)
variable (path : List String)

def creates (request : TopicRequest) : Bool :=
  request.createdPath.any fun created =>
    decide (tenantId = created.1 ∧ path <+: created.2)

def onSubscription (key : String) : TopicRequest → Option Subscription → Option Subscription
  | subscribeTopic tenant clientIdentifier topic qos noLocal retainAsPublished =>
    (acceptedFilter topic).elim id fun stored =>
      let subscription :=
        subscriptionOf clientIdentifier stored qos noLocal retainAsPublished
      if tenantId = tenant ∧ path = levels stored.topicFilter ∧ key = subscription.nodeKey then
        fun _ => some subscription
      else
        id
  | unsubscribeTopic tenant clientIdentifier topic =>
    (parseFilter topic).toOption.elim id fun stored =>
      if tenantId = tenant ∧ path = levels stored.topicFilter then
        Option.filter fun subscription =>
          !removes (nodeKeys clientIdentifier stored.sharedGroup)
            clientIdentifier stored.sharedGroup key subscription
      else
        id
  | _ => id

def onRetained : TopicRequest → Option Packet → Option Packet
  | registerRetainPublishPacket tenant _ (.publish publish) =>
    if tenantId = tenant ∧ path = levels publish.topicName then
      fun _ => some (.publish publish)
    else
      id
  | cleanRetainPublishPacket tenant topicFilter =>
    if tenantId = tenant ∧ path = levels topicFilter then fun _ => none else id
  | _ => id

def onRecorded (tenantId key : String) : TopicRequest → Option UInt8 → Option UInt8
  | subscribeTopic tenant clientIdentifier topic qos _ _ =>
    (acceptedFilter topic).elim id fun _ =>
      if tenantId = tenant ∧ key = generateKey clientIdentifier topic then
        fun recorded => some (recorded.getD qos)
      else
        id
  | unsubscribeTopic tenant clientIdentifier topic =>
    (parseFilter topic).toOption.elim id fun _ =>
      if tenantId = tenant ∧ key = generateKey clientIdentifier topic then
        fun _ => none
      else
        id
  | _ => id

def onRecordedRetained (tenantId topic : String) :
    TopicRequest → Option (String × UInt8) → Option (String × UInt8)
  | registerRetainPublishPacket tenant sourceClientIdentifier (.publish publish) =>
    if tenantId = tenant ∧ topic = publish.topicName then
      fun _ => some (sourceClientIdentifier, publish.qos)
    else
      id
  | cleanRetainPublishPacket tenant topicFilter =>
    if tenantId = tenant ∧ topic = topicFilter then fun _ => none else id
  | _ => id

theorem dropping_onSubscription (key : String)
    (request : TopicRequest) : Dropping (request.onSubscription tenantId path key) := by
  cases request with
  | subscribeTopic =>
    exact Dropping.band.elim (fun _ => Dropping.band.ite (.inr ⟨_, rfl⟩) _) _
  | unsubscribeTopic =>
    exact Dropping.band.elim (fun _ => Dropping.band.ite (.inl ⟨_, rfl⟩) _) _
  | _ => exact Dropping.band.refl

theorem overwrite_onRetained
    (request : TopicRequest) : Overwrite (request.onRetained tenantId path) := by
  cases request with
  | registerRetainPublishPacket tenant sourceClientId publishPacket =>
    cases publishPacket with
    | publish => exact Overwrite.band.ite (.inr ⟨_, rfl⟩) _
    | _ => exact .inl rfl
  | cleanRetainPublishPacket => exact Overwrite.band.ite (.inr ⟨_, rfl⟩) _
  | _ => exact .inl rfl

theorem filling_onRecorded (tenantId key : String) (request : TopicRequest) :
    Filling (request.onRecorded tenantId key) := by
  cases request with
  | subscribeTopic =>
    exact Filling.band.elim (fun _ => Filling.band.ite (.inr (.inl ⟨_, rfl⟩)) _) _
  | unsubscribeTopic =>
    exact Filling.band.elim (fun _ => Filling.band.ite (.inr (.inr ⟨_, rfl⟩)) _) _
  | _ => exact .inl rfl

theorem overwrite_onRecordedRetained (tenantId topic : String) (request : TopicRequest) :
    Overwrite (request.onRecordedRetained tenantId topic) := by
  cases request with
  | registerRetainPublishPacket tenant sourceClientId publishPacket =>
    cases publishPacket with
    | publish => exact Overwrite.band.ite (.inr ⟨_, rfl⟩) _
    | _ => exact .inl rfl
  | cleanRetainPublishPacket => exact Overwrite.band.ite (.inr ⟨_, rfl⟩) _
  | _ => exact .inl rfl

end TopicRequest

/-! ## Consistent storages -/

/-- The recorders know the tenants that have a tree, and list only what has a node. -/
structure Consistent (storage : TopicStorage) : Prop where
  infoTenant : ∀ tenantId,
    storage.topicInfoRecorder.hasOuter tenantId = storage.containsTenant tenantId
  retainTenant : ∀ tenantId,
    storage.retainMessageRecorder.hasOuter tenantId = storage.containsTenant tenantId
  recorded : ∀ tenantId clientIdentifier topic stored, (storage.topicInfoRecorder.getAt tenantId
      (generateKey clientIdentifier topic)).isSome = true →
    parseFilter topic = .ok stored → storage.hasNode tenantId (levels stored.topicFilter) = true
  recordedRetained : ∀ tenantId topic,
    (storage.retainMessageRecorder.getAt tenantId topic).isSome = true →
      storage.hasNode tenantId (levels topic) = true

structure ActsOn (request : TopicRequest) (storage next : TopicStorage) : Prop where
  tenant : ∀ tenantId, next.containsTenant tenantId =
    raise (request.createdTenant = some tenantId) (storage.containsTenant tenantId)
  infoTenant : ∀ tenantId, next.topicInfoRecorder.hasOuter tenantId =
    raise (request.createdTenant = some tenantId) (storage.topicInfoRecorder.hasOuter tenantId)
  retainTenant : ∀ tenantId, next.retainMessageRecorder.hasOuter tenantId =
    raise (request.createdTenant = some tenantId) (storage.retainMessageRecorder.hasOuter tenantId)
  node : ∀ tenantId path, next.hasNode tenantId path =
    raise (request.creates tenantId path = true) (storage.hasNode tenantId path)
  subscription : ∀ tenantId path key, (next.content tenantId path).subscriptions.lookup key =
      request.onSubscription tenantId path key
        ((storage.content tenantId path).subscriptions.lookup key)
  retained : ∀ tenantId path, (next.content tenantId path).retainPublishPacket =
    request.onRetained tenantId path (storage.content tenantId path).retainPublishPacket
  recorded : ∀ tenantId key, next.topicInfoRecorder.getAt tenantId key =
    request.onRecorded tenantId key (storage.topicInfoRecorder.getAt tenantId key)
  recordedRetained : ∀ tenantId topic, next.retainMessageRecorder.getAt tenantId topic =
    request.onRecordedRetained tenantId topic (storage.retainMessageRecorder.getAt tenantId topic)

variable {request : TopicRequest} {storage next : TopicStorage}

theorem ActsOn.consistent (acts : ActsOn request storage next) (consistent : Consistent storage) :
    Consistent next := by
  have grows : ∀ tenantId path, storage.hasNode tenantId path = true →
      next.hasNode tenantId path = true := by
    intro tenantId path found
    rw [acts.node, raise, found, Bool.true_or]
  have created : ∀ tenantId path, request.creates tenantId path = true →
      next.hasNode tenantId path = true := by
    intro tenantId path creates
    rw [acts.node, raise, decide_eq_true creates, Bool.or_true]
  refine ⟨?_, ?_, ?_, ?_⟩
  · intro tenantId
    rw [acts.infoTenant, acts.tenant, consistent.infoTenant]
  · intro tenantId
    rw [acts.retainTenant, acts.tenant, consistent.retainTenant]
  · intro tenantId clientId topic stored isRecorded parsed
    rw [acts.recorded] at isRecorded
    cases before : (storage.topicInfoRecorder.getAt tenantId
        (generateKey clientId topic)).isSome with
    | true =>
      exact grows _ _ (consistent.recorded _ _ _ _ before parsed)
    | false =>
      -- The line is new, so the request subscribed the client to this filter.
      rw [Option.isSome_eq_false_iff, Option.isNone_iff_eq_none] at before
      rw [before] at isRecorded
      apply created
      cases request with
      | subscribeTopic tenant client filter =>
        rw [TopicRequest.onRecorded] at isRecorded
        cases accepted : acceptedFilter filter with
        | none => simp [accepted] at isRecorded
        | some subscribed =>
          simp only [accepted] at isRecorded
          split at isRecorded
          · rename_i here
            have same := generateKey_injective here.2
            have sameFilter : subscribed = stored := by
              rw [acceptedFilter, ← same.2, parsed] at accepted
              simp only at accepted
              split at accepted
              · exact (Option.some.inj accepted).symm
              · cases accepted
            simp [TopicRequest.creates, TopicRequest.createdPath, accepted, here.1, sameFilter]
          · cases isRecorded
      | unsubscribeTopic tenant client filter =>
        rw [TopicRequest.onRecorded] at isRecorded
        cases parsedOther : (parseFilter filter).toOption with
        | none => simp [parsedOther] at isRecorded
        | some =>
          simp only [parsedOther] at isRecorded
          split at isRecorded <;> cases isRecorded
      | _ => cases isRecorded
  · intro tenantId topic isRecorded
    rw [acts.recordedRetained] at isRecorded
    cases before : (storage.retainMessageRecorder.getAt tenantId topic).isSome with
    | true => exact grows _ _ (consistent.recordedRetained _ _ before)
    | false =>
      rw [Option.isSome_eq_false_iff, Option.isNone_iff_eq_none] at before
      rw [before] at isRecorded
      apply created
      cases request with
      | registerRetainPublishPacket tenant client publishPacket =>
        cases publishPacket with
        | publish =>
          rw [TopicRequest.onRecordedRetained] at isRecorded
          split at isRecorded
          · rename_i here
            simp [TopicRequest.creates, TopicRequest.createdPath, here.1, here.2]
          · cases isRecorded
        | _ => cases isRecorded
      | cleanRetainPublishPacket =>
        rw [TopicRequest.onRecordedRetained] at isRecorded
        split at isRecorded <;> cases isRecorded
      | _ => cases isRecorded

/-! ## What the requests do -/

theorem actsOn_createTenant (tenant : String) (storage : TopicStorage) :
    ActsOn (.createTenant tenant) storage (storage.createTenant tenant) where
  tenant := by
    intro tenantId
    rw [Bool.eq_iff_iff, containsTenant_createTenant]
    simp only [raise, TopicRequest.createdTenant, Option.some.injEq, Bool.or_eq_true,
      decide_eq_true_eq]
    rw [or_comm, eq_comm (a := tenant)]
  infoTenant := by
    intro tenantId
    apply (storage.topicInfoRecorder.hasOuter_ensureOuter tenant tenantId).trans
    simp [raise, TopicRequest.createdTenant, Bool.or_comm, eq_comm]
  retainTenant := by
    intro tenantId
    apply (storage.retainMessageRecorder.hasOuter_ensureOuter tenant tenantId).trans
    simp [raise, TopicRequest.createdTenant, Bool.or_comm, eq_comm]
  node := by
    intro tenantId path
    rw [hasNode_createTenant]
    simp [raise, TopicRequest.creates, TopicRequest.createdPath]
  subscription := by
    intro tenantId path key
    rw [content_createTenant]
    rfl
  retained := by
    intro tenantId path
    rw [content_createTenant]
    rfl
  recorded := by
    intro tenantId key
    exact storage.topicInfoRecorder.getAt_ensureOuter tenant tenantId key
  recordedRetained := by
    intro tenantId topic
    exact storage.retainMessageRecorder.getAt_ensureOuter tenant tenantId topic

/-- Creating a tenant that exists does nothing to a consistent storage. -/
theorem createTenant_of_containsTenant {tenant : String} (consistent : Consistent storage)
    (present : storage.containsTenant tenant = true) :
    storage.createTenant tenant = storage := by
  have info := consistent.infoTenant tenant
  have retain := consistent.retainTenant tenant
  rw [present] at info retain
  rcases containsTenant_eq_true.mp present with ⟨_, found⟩
  rcases Option.isSome_iff_exists.mp info with ⟨_, infoFound⟩
  rcases Option.isSome_iff_exists.mp retain with ⟨_, retainFound⟩
  simp [createTenant, found, ensureOuter, infoFound, retainFound]

/-- A subscription creates its tenant first, and stores an accepted filter. -/
theorem actsOn_subscribe (consistent : Consistent storage) (tenant clientId topic : String)
    (qos : UInt8) (noLocal retainAsPublished : Bool) :
    ActsOn (.subscribeTopic tenant clientId topic qos noLocal retainAsPublished) storage
      (orUnchanged (storage.createTenant tenant)
        ((storage.createTenant tenant).subscribeWithOptions tenant clientId topic
          qos noLocal retainAsPublished)) := by
  have created := actsOn_createTenant tenant storage
  cases accepted : acceptedFilter topic with
  | none =>
    rcases subscribeWithOptions_of_refused accepted tenant clientId
      qos noLocal retainAsPublished (storage.createTenant tenant) with ⟨_, failed⟩
    rw [failed, orUnchanged]
    refine ⟨created.tenant, created.infoTenant, created.retainTenant, ?_, ?_,
      created.retained, ?_, created.recordedRetained⟩
    · simpa [TopicRequest.creates, TopicRequest.createdPath, accepted] using created.node
    · simpa [TopicRequest.onSubscription, accepted] using created.subscription
    · simpa [TopicRequest.onRecorded, accepted] using created.recorded
  | some stored =>
    have known : (storage.createTenant tenant).containsTenant tenant = true :=
      (containsTenant_createTenant tenant tenant storage).mpr (.inl rfl)
    have infoKnown := (created.consistent consistent).infoTenant tenant
    rw [known] at infoKnown
    rcases containsTenant_eq_true.mp known with ⟨tree, present⟩
    rcases subscribeWithOptions_of_accepted accepted present clientId
      qos noLocal retainAsPublished with ⟨_, succeeded, replaced, info, retain⟩
    rw [succeeded, orUnchanged]
    have changed := content_of_replaced present replaced (tree.contentOf_update _ _)
    refine ⟨?_, ?_, ?_, ?_, ?_, ?_, ?_, ?_⟩
    · intro tenantId
      rw [containsTenant_of_replaced present replaced]
      exact created.tenant tenantId
    · intro tenantId
      rw [info, hasOuter_alterInner]
      exact created.infoTenant tenantId
    · intro tenantId
      rw [retain]
      exact created.retainTenant tenantId
    · intro tenantId path
      rw [hasNode_of_replaced present replaced (tree.isSome_contentAt_update _ _), created.node]
      cases storage.hasNode tenantId path with
      | true => simp [raise]
      | false =>
        cases path with
        | nil | cons => simp [raise, TopicRequest.creates, TopicRequest.createdPath, accepted]
    · intro tenantId path key
      rw [changed, TopicRequest.onSubscription, accepted, Option.elim]
      split
      · rename_i here
        rw [NodeContent.addSubscription]
        split
        · rename_i atKey
          rw [atKey.2.2, Finmap.lookup_insert]
        · rename_i elsewhere
          have otherKey : key ≠ (subscriptionOf clientId stored qos
              noLocal retainAsPublished).nodeKey :=
            fun same => elsewhere ⟨here.1, here.2, same⟩
          rw [Finmap.lookup_insert_of_ne _ otherKey]
          exact created.subscription tenantId path key
      · rename_i elsewhere
        rw [if_neg (fun atKey => elsewhere ⟨atKey.1, atKey.2.1⟩)]
        exact created.subscription tenantId path key
    · intro tenantId path
      rw [changed]
      split <;> exact created.retained tenantId path
    · intro tenantId key
      rw [info, getAt_alterInner _ _ infoKnown, created.recorded, TopicRequest.onRecorded, accepted]
      rfl
    · intro tenantId topic
      rw [retain]
      exact created.recordedRetained tenantId topic

theorem raise_createdTenant (creates : request.createdTenant = none) (tenantId : String)
    (flag : Bool) :
    raise (request.createdTenant = some tenantId) flag = flag := by
  simp [raise, creates]

theorem raise_creates (creates : request.createdPath = none) (tenantId : String)
    (path : List String) (flag : Bool) :
    raise (request.creates tenantId path = true) flag = flag := by
  simp [raise, TopicRequest.creates, creates]

theorem actsOn_unsubscribe (consistent : Consistent storage)
    (tenant clientId topic : String) :
    ActsOn (.unsubscribeTopic tenant clientId topic) storage
      (orUnchanged storage (storage.unsubscribe tenant clientId topic)) := by
  cases outcome : storage.unsubscribe tenant clientId topic with
  | error error =>
    rw [orUnchanged]
    refine ⟨fun _ => (raise_createdTenant rfl _ _).symm,
      fun _ => (raise_createdTenant rfl _ _).symm,
      fun _ => (raise_createdTenant rfl _ _).symm,
      fun _ _ => (raise_creates rfl _ _ _).symm, ?_, fun _ _ => rfl, ?_, fun _ _ => rfl⟩
    · intro tenantId path key
      rw [TopicRequest.onSubscription]
      cases parsed : parseFilter topic with
      | error => rfl
      | ok =>
        simp only [Except.toOption, Option.elim]
        split
        · rename_i here
          rw [here.1, here.2, content_of_not_hasNode (hasNode_of_unsubscribe_error parsed outcome)]
          rfl
        · rfl
    · intro tenantId key
      rw [TopicRequest.onRecorded]
      cases parsed : parseFilter topic with
      | error => rfl
      | ok stored =>
        split
        · rename_i here
          rw [here.1, here.2]
          cases recorded : storage.topicInfoRecorder.getAt tenant
              (generateKey clientId topic) with
          | none => rfl
          | some qos =>
            have node := consistent.recorded tenant clientId topic stored
              (by rw [recorded]; rfl) parsed
            rw [hasNode_of_unsubscribe_error parsed outcome] at node
            cases node
        · rfl
  | ok next =>
    rcases unsubscribe_eq_ok outcome with
      ⟨_, tree, updated, parsed, present, removed, replaced, info, retain⟩
    have changed := content_of_replaced present replaced
      (TopicTree.contentOf_updateExisting removed)
    have infoKnown := consistent.infoTenant tenant
    rw [containsTenant_eq_true.mpr ⟨tree, present⟩] at infoKnown
    rw [orUnchanged]
    refine ⟨?_, ?_, ?_, ?_, ?_, ?_, ?_, ?_⟩
    · intro tenantId
      rw [raise_createdTenant rfl]
      exact containsTenant_of_replaced present replaced tenantId
    · intro tenantId
      rw [raise_createdTenant rfl, info, hasOuter_alterInner]
    · intro tenantId
      rw [raise_createdTenant rfl, retain]
    · intro tenantId path
      rw [raise_creates rfl]
      exact hasNode_of_same_nodes present replaced
        (TopicTree.isSome_contentAt_updateExisting removed) tenantId path
    · intro tenantId path key
      rw [changed, TopicRequest.onSubscription, parsed, Except.toOption, Option.elim]
      split
      · exact NodeContent.lookup_removeSubscriptions _ _ _ _ _
      · rfl
    · intro tenantId path
      rw [changed]
      split
      · exact NodeContent.retainPublishPacket_removeSubscriptions _ _ _ _
      · rfl
    · intro tenantId key
      rw [info, getAt_alterInner _ _ infoKnown, TopicRequest.onRecorded, parsed]
      rfl
    · intro tenantId topic
      rw [retain]
      rfl

theorem actsOn_clean (consistent : Consistent storage) (tenant topicFilter : String) :
    ActsOn (.cleanRetainPublishPacket tenant topicFilter) storage
      (orUnchanged storage (storage.cleanRetainPublishPacket tenant topicFilter)) := by
  cases outcome : storage.cleanRetainPublishPacket tenant topicFilter with
  | error =>
    have missing := hasNode_of_clean_error outcome
    rw [orUnchanged]
    refine ⟨fun _ => (raise_createdTenant rfl _ _).symm,
      fun _ => (raise_createdTenant rfl _ _).symm,
      fun _ => (raise_createdTenant rfl _ _).symm,
      fun _ _ => (raise_creates rfl _ _ _).symm, fun _ _ _ => rfl, ?_, fun _ _ => rfl, ?_⟩
    · intro tenantId path
      rw [TopicRequest.onRetained]
      split
      · rename_i here
        rw [here.1, here.2, content_of_not_hasNode missing]
        rfl
      · rfl
    · intro tenantId topic
      rw [TopicRequest.onRecordedRetained]
      split
      · rename_i here
        rw [here.1, here.2]
        cases recorded : storage.retainMessageRecorder.getAt tenant topicFilter with
        | none => rfl
        | some =>
          have node := consistent.recordedRetained tenant topicFilter (by rw [recorded]; rfl)
          rw [missing] at node
          cases node
      · rfl
  | ok next =>
    rcases cleanRetainPublishPacket_eq_ok outcome with
      ⟨tree, updated, present, cleaned, replaced, info, retain⟩
    have changed := content_of_replaced present replaced
      (TopicTree.contentOf_updateExisting cleaned)
    have retainKnown := consistent.retainTenant tenant
    rw [containsTenant_eq_true.mpr ⟨tree, present⟩] at retainKnown
    rw [orUnchanged]
    refine ⟨?_, ?_, ?_, ?_, ?_, ?_, ?_, ?_⟩
    · intro tenantId
      rw [raise_createdTenant rfl]
      exact containsTenant_of_replaced present replaced tenantId
    · intro tenantId
      rw [raise_createdTenant rfl, info]
    · intro tenantId
      rw [raise_createdTenant rfl, retain, hasOuter_alterInner]
    · intro tenantId path
      rw [raise_creates rfl]
      exact hasNode_of_same_nodes present replaced
        (TopicTree.isSome_contentAt_updateExisting cleaned) tenantId path
    · intro tenantId path key
      rw [changed]
      split <;> rfl
    · intro tenantId path
      rw [changed, TopicRequest.onRetained]
      split <;> rfl
    · intro tenantId key
      rw [info]
      rfl
    · intro tenantId topic
      rw [retain, getAt_alterInner _ _ retainKnown]
      rfl

theorem actsOn_register (consistent : Consistent storage) {tenant sourceClientId : String}
    {publishPacket : Packet}
    (succeeded : storage.registerRetainPublishPacket tenant sourceClientId
      publishPacket = .ok next) :
    ActsOn (.registerRetainPublishPacket tenant sourceClientId publishPacket)
      storage next := by
  cases publishPacket with
  | publish publish =>
    rcases registerRetainPublishPacket_eq_ok succeeded with
      ⟨_, tree, present, replaced, info, retain⟩
    have changed := content_of_replaced present replaced (tree.contentOf_update _ _)
    have retainKnown := consistent.retainTenant tenant
    rw [containsTenant_eq_true.mpr ⟨tree, present⟩] at retainKnown
    refine ⟨?_, ?_, ?_, ?_, ?_, ?_, ?_, ?_⟩
    · intro tenantId
      rw [raise_createdTenant rfl]
      exact containsTenant_of_replaced present replaced tenantId
    · intro tenantId
      rw [raise_createdTenant rfl, info]
    · intro tenantId
      rw [raise_createdTenant rfl, retain, hasOuter_alterInner]
    · intro tenantId path
      rw [hasNode_of_replaced present replaced (tree.isSome_contentAt_update _ _)]
      simp [raise, TopicRequest.creates, TopicRequest.createdPath]
    · intro tenantId path key
      rw [changed]
      split <;> rfl
    · intro tenantId path
      rw [changed, TopicRequest.onRetained]
      split <;> rfl
    · intro tenantId key
      rw [info]
      rfl
    · intro tenantId topic
      rw [retain, getAt_alterInner _ _ retainKnown]
      rfl
  | _ =>
    cases succeeded
    exact ⟨fun _ => (raise_createdTenant rfl _ _).symm, fun _ => (raise_createdTenant rfl _ _).symm,
      fun _ => (raise_createdTenant rfl _ _).symm,
      fun _ _ => (raise_creates rfl _ _ _).symm, fun _ _ _ => rfl, fun _ _ => rfl,
      fun _ _ => rfl, fun _ _ => rfl⟩

theorem applyRequest_actsOn {logId : LogId} (consistent : Consistent storage)
    (handled : applyRequest () logId storage request = .ok (next, ())) :
    ActsOn request storage next := by
  cases request with
  | subscribeTopic tenantId clientId topic qos noLocal retainAsPublished =>
    cases handled
    cases present : storage.containsTenant tenantId with
    | true =>
      have acts := actsOn_subscribe consistent tenantId clientId topic qos noLocal
        retainAsPublished
      rw [createTenant_of_containsTenant consistent present] at acts
      exact acts
    | false =>
      exact actsOn_subscribe consistent tenantId clientId topic qos noLocal
        retainAsPublished
  | unsubscribeTopic tenantId clientId topic =>
    cases handled
    exact actsOn_unsubscribe consistent tenantId clientId topic
  | cleanRetainPublishPacket tenantId topicFilter =>
    cases handled
    exact actsOn_clean consistent tenantId topicFilter
  | createTenant tenantId =>
    cases handled
    exact actsOn_createTenant tenantId storage
  | registerRetainPublishPacket =>
    rw [applyRequest] at handled
    split at handled
    · rename_i stored succeeded
      cases handled
      exact actsOn_register consistent succeeded
    · cases handled

end YedMQ.Raft.Topic
