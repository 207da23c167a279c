import YedMQ.Raft.SnapshotReplay
import YedMQ.Raft.Topic.AppliedLogs

/-! # Snapshots of the topic storage

The snapshot builder and the application of entries hold the same read lock, so entries
may be applied while the builder walks through the storage. It copies the recorder of
retained messages, then the recorder of subscriptions, and then visits the nodes of the
trees, each at some later moment. All requests act on the cells of the storage by
updates that may be repeated; what the walk must not meet is the creation of a tenant
between the copies of the recorders and the visit of the trees.
-/

namespace YedMQ.Raft.Topic

open Foundation Semantics YedMQ.Topic StateMachineData NestedMap TopicRequest

def onEntry (onRequest : TopicRequest → ν → ν) (input : Entry TopicRequest × Unit) :
    ν → ν :=
  match input.1.payload with
  | .normal request => onRequest request
  | _ => id

variable {onRequest : TopicRequest → ν → ν}

theorem onEntry_mem {Update : (ν → ν) → Prop} (band : Band Update)
    (acts : ∀ request, Update (onRequest request)) (input : Entry TopicRequest × Unit) :
    Update (onEntry onRequest input) := by
  rw [onEntry]
  split
  · exact acts _
  · exact band.refl

variable {input : Entry TopicRequest × Unit}

theorem onEntry_of_no_request (other : ∀ request, input.1.payload ≠ .normal request)
    (onRequest : TopicRequest → ν → ν) : onEntry onRequest input = id := by
  rw [onEntry]
  split
  · rename_i request payload
    exact absurd payload (other request)
  · rfl

/-! ## Steps and runs -/

variable {data next : StateMachineData TopicStorage}

variable {final : StateMachineData TopicStorage} {inputs : List (Entry TopicRequest × Unit)}

theorem consistent_run (consistent : Consistent data.state)
    (runs : run step data inputs = some final) : Consistent final.state := by
  have preserves : ∀ (state : StateMachineData TopicStorage) input next,
      Consistent state.state → step state input = some next → Consistent next.state :=
    fun _ _ _ before stepped => consistent_step before stepped
  exact run_invariant preserves consistent runs

theorem cell_run {read : TopicStorage → ν}
    (acts : ∀ {request storage next}, ActsOn request storage next →
      read next = onRequest request (read storage)) (consistent : Consistent data.state)
    (runs : run step data inputs = some final) :
    read final.state = effect (onEntry onRequest) inputs (read data.state) := by
  refine read_run (fun data => read data.state) (fun data => Consistent data.state)
    (fun _ _ _ _ before stepped => consistent_step before stepped) ?_ consistent runs
  intro input _ state next before stepped
  rcases step_actsOn before stepped with ⟨_, payload, acted⟩ | ⟨other, same⟩
  · rw [acts acted, onEntry, payload]
  · rw [same, onEntry_of_no_request other]
    rfl

theorem hasNode_run (consistent : Consistent data.state) (runs : run step data inputs = some final)
    {tenantId : String} {path : List String} (found : data.state.hasNode tenantId path = true) :
    final.state.hasNode tenantId path = true := by
  induction inputs generalizing data with
  | nil =>
    cases runs
    exact found
  | cons input inputs induction =>
    rcases Option.bind_eq_some_iff.mp runs with ⟨_, stepped, rest⟩
    apply induction (consistent_step consistent stepped) rest
    rcases step_actsOn consistent stepped with ⟨_, _, acts⟩ | ⟨_, same⟩
    · rw [acts.node, raise, found, Bool.true_or]
    · rw [same]
      exact found

/-- Entries that create no tenant leave the set of tenants alone. -/
theorem containsTenant_run
    (known : ∀ input ∈ inputs, ∀ tenantId, createdTenant input.1 = some tenantId →
      data.state.containsTenant tenantId = true) (consistent : Consistent data.state)
    (runs : run step data inputs = some final) (tenantId : String) :
    final.state.containsTenant tenantId = data.state.containsTenant tenantId := by
  induction inputs generalizing data with
  | nil =>
    cases runs
    rfl
  | cons input inputs induction =>
    rcases Option.bind_eq_some_iff.mp runs with ⟨next, stepped, rest⟩
    have unchanged : ∀ other,
        next.state.containsTenant other = data.state.containsTenant other := by
      intro other
      rw [Bool.eq_iff_iff, containsTenant_step consistent stepped]
      exact or_iff_left_of_imp (known input List.mem_cons_self other)
    have later := induction (fun other member tenant creates => by
        rw [unchanged]
        exact known other (List.mem_cons_of_mem _ member) tenant creates)
      (consistent_step consistent stepped) rest
    rw [later, unchanged]

/-! ## Which entries are applied -/

theorem Acceptable.mono {known others : String → Prop} {entry : Entry TopicRequest}
    (more : ∀ tenantId, known tenantId → others tenantId)
    (acceptable : Acceptable known entry) : Acceptable others entry := by
  rw [Acceptable] at acceptable ⊢
  split
  · rename_i payload
    rw [payload] at acceptable
    exact ⟨acceptable.1, more _ acceptable.2⟩
  · trivial

theorem exists_step_iff (data : StateMachineData TopicStorage) (input : Entry TopicRequest × Unit) :
    (∃ next, step data input = some next) ↔
      Acceptable (fun tenantId => data.state.containsTenant tenantId = true) input.1 := by
  rw [← applyEntry_ok_iff, step, StateMachineData.step]
  cases data.applyEntry applyRequest () input.2 input.1 with
  | error | ok => simp [Except.toOption]

/-- With more tenants at the start, no entry is refused that was applied before. -/
theorem exists_run_of_more_tenants {left right : StateMachineData TopicStorage}
    (leftConsistent : Consistent left.state) (rightConsistent : Consistent right.state)
    (more : ∀ tenantId, left.state.containsTenant tenantId = true →
      right.state.containsTenant tenantId = true) (runs : run step left inputs = some final) :
    ∃ other, run step right inputs = some other := by
  induction inputs generalizing left right with
  | nil => exact ⟨right, rfl⟩
  | cons input inputs induction =>
    rcases Option.bind_eq_some_iff.mp runs with ⟨next, stepped, rest⟩
    have acceptable := (exists_step_iff left input).mp ⟨next, stepped⟩
    rcases (exists_step_iff right input).mpr (acceptable.mono more) with
      ⟨otherNext, otherStepped⟩
    have stillMore : ∀ tenantId, next.state.containsTenant tenantId = true →
        otherNext.state.containsTenant tenantId = true := by
      intro tenantId
      rw [containsTenant_step leftConsistent stepped,
        containsTenant_step rightConsistent otherStepped]
      exact Or.imp_left (more tenantId)
    rcases induction (consistent_step leftConsistent stepped)
      (consistent_step rightConsistent otherStepped) stillMore rest with ⟨other, otherRuns⟩
    refine ⟨other, ?_⟩
    rw [run_cons, otherStepped]
    exact otherRuns

/-! ## Subscriptions under their own keys -/

/-- What is stored after a request was there before, or the request stores it. -/
theorem ActsOn.origin {request : TopicRequest} {storage next : TopicStorage}
    (acts : ActsOn request storage next) {tenantId key : String} {path : List String}
    {subscription : Subscription}
    (found : (next.content tenantId path).subscriptions.lookup key = some subscription) :
    (storage.content tenantId path).subscriptions.lookup key = some subscription ∨
      ∃ clientId topic stored qos noLocal retainAsPublished,
        request = .subscribeTopic tenantId clientId topic qos noLocal retainAsPublished ∧
        acceptedFilter topic = some stored ∧ subscription =
          TopicStorage.subscriptionOf clientId stored qos noLocal retainAsPublished ∧
        path = levels stored.topicFilter ∧ key = subscription.nodeKey := by
  rw [acts.subscription] at found
  cases request with
  | subscribeTopic tenant clientId topic =>
    rw [onSubscription] at found
    cases accepted : acceptedFilter topic with
    | none =>
      rw [accepted] at found
      exact .inl found
    | some stored =>
      simp only [accepted, Option.elim] at found
      split at found
      · rename_i here
        rcases here with ⟨rfl, filed⟩
        cases found
        exact .inr ⟨clientId, topic, stored, _, _, _, rfl, accepted, rfl, filed⟩
      · exact .inl found
  | unsubscribeTopic tenant clientId topic =>
    left
    rw [onSubscription] at found
    cases parsed : (parseFilter topic).toOption with
    | none =>
      rw [parsed] at found
      exact found
    | some =>
      simp only [parsed, Option.elim] at found
      split at found
      · exact (Option.filter_eq_some_iff.mp found).1
      · exact found
  | _ => exact .inl found

theorem ActsOn.wellFiled {request : TopicRequest} {storage next : TopicStorage}
    (acts : ActsOn request storage next) (wellFiled : storage.WellFiled) :
    next.WellFiled := by
  intro tenantId path key subscription found
  rcases acts.origin found with before | ⟨_, _, _, _, _, _, _, _, rfl, filed⟩
  · exact wellFiled tenantId path key subscription before
  · exact filed

theorem wellFiled_run (consistent : Consistent data.state) (wellFiled : data.state.WellFiled)
    (runs : run step data inputs = some final) :
    final.state.WellFiled := by
  have preserves : ∀ (state : StateMachineData TopicStorage) input next,
      Consistent state.state ∧ state.state.WellFiled → step state input = some next →
        Consistent next.state ∧ next.state.WellFiled := by
    intro state input next before stepped
    refine ⟨consistent_step before.1 stepped, ?_⟩
    rcases step_actsOn before.1 stepped with ⟨_, _, acts⟩ | ⟨_, same⟩
    · exact acts.wellFiled before.2
    · rw [same]
      exact before.2
  exact (run_invariant preserves ⟨consistent, wellFiled⟩ runs).2

/-! ## The tenants of a storage -/

/-- What the storage holds of a tenant: whether it is known, its nodes with their retained messages
and subscriptions, and its lines in the two recorders. -/
structure TenantView where
  known : Bool
  node : List String → Bool
  retained : List String → Option Packet
  subscription : List String → String → Option Subscription
  recorded : String → Option UInt8
  recordedRetained : String → Option (String × UInt8)

def tenantView (tenantId : String) (storage : TopicStorage) : TenantView where
  known := storage.containsTenant tenantId
  node := storage.hasNode tenantId
  retained path := (storage.content tenantId path).retainPublishPacket
  subscription path key := (storage.content tenantId path).subscriptions.lookup key
  recorded key := storage.topicInfoRecorder.getAt tenantId key
  recordedRetained topic := storage.retainMessageRecorder.getAt tenantId topic

namespace TopicRequest

def tenant : TopicRequest → String
  | subscribeTopic tenantId _ _ _ _ _ | unsubscribeTopic tenantId _ _
  | registerRetainPublishPacket tenantId _ _ | cleanRetainPublishPacket tenantId _
  | createTenant tenantId => tenantId

def onTenant (tenantId : String) (request : TopicRequest) (view : TenantView) : TenantView where
  known := raise (request.createdTenant = some tenantId) view.known
  node path := raise (request.creates tenantId path = true) (view.node path)
  retained path := request.onRetained tenantId path (view.retained path)
  subscription path key := request.onSubscription tenantId path key (view.subscription path key)
  recorded key := request.onRecorded tenantId key (view.recorded key)
  recordedRetained topic := request.onRecordedRetained tenantId topic (view.recordedRetained topic)

theorem onTenant_of_other {tenantId : String} {request : TopicRequest}
    (other : tenantId ≠ request.tenant) (view : TenantView) :
    request.onTenant tenantId view = view := by
  have ignored : ∀ {α β : Type} (found : Option α),
      found.elim id (fun _ => id) = (id : β → β) := by
    intro _ _ found
    cases found <;> rfl
  have different := other.symm
  cases request with
  | registerRetainPublishPacket _ _ packet =>
    cases packet <;> simp_all [onTenant, raise, createdTenant, creates, createdPath, onRetained,
      onSubscription, onRecorded, onRecordedRetained, tenant]
  | _ => simp_all [onTenant, raise, createdTenant, creates, createdPath, onRetained, onSubscription,
      onRecorded, onRecordedRetained, tenant]

end TopicRequest

def requestOf (tenantId : String) (input : Entry TopicRequest × Unit) : Option TopicRequest :=
  match input.1.payload with
  | .normal request => if request.tenant = tenantId then some request else none
  | _ => none

/-- What the storage holds of a tenant depends on the requests of that tenant alone. -/
theorem tenant_isolated (tenantId : String) :
    Isolated step (fun data => Consistent data.state) (fun data => tenantView tenantId data.state)
      (requestOf tenantId) := by
  apply isolated_of_reads (onTenant tenantId)
  · exact fun _ _ _ consistent stepped => consistent_step consistent stepped
  · intro input data next consistent stepped
    rw [requestOf]
    rcases step_actsOn consistent stepped with ⟨request, payload, acts⟩ | ⟨other, same⟩
    · have view : tenantView tenantId next.state =
          request.onTenant tenantId (tenantView tenantId data.state) := by
        simp only [tenantView, onTenant, ← acts.tenant, ← acts.node, ← acts.retained,
          ← acts.subscription, ← acts.recorded, ← acts.recordedRetained]
      rw [payload, view]
      by_cases own : request.tenant = tenantId
      · simp [own]
      · simp [own, onTenant_of_other (Ne.symm own)]
    · rw [same]
      cases payload : input.1.payload with
      | normal request => exact absurd payload (other request)
      | _ => rfl

def written (index : Nat) (request : TopicRequest) : Entry TopicRequest × Unit :=
  (⟨⟨⟨1, 1⟩, index⟩, .normal request⟩, ())

/-- Clients of two tenants subscribe to the same topic, and one of them leaves it. -/
def twoTenants : List (Entry TopicRequest × Unit) :=
  [written 1 (.createTenant "other"), written 2 (.subscribeTopic "public" "c" "a" 1 false false),
    written 3 (.subscribeTopic "other" "c" "a" 1 false false),
    written 4 (.unsubscribeTopic "other" "c" "a")]

def publicOnly : List (Entry TopicRequest × Unit) :=
  [written 1 (.subscribeTopic "public" "c" "a" 1 false false)]

theorem public_unaware : ∃ together alone, run step initial twoTenants = some together ∧
    run step initial publicOnly = some alone ∧
    tenantView "public" together.state = tenantView "public" alone.state ∧
    (tenantView "public" alone.state).recorded ≠ (tenantView "public" initial.state).recorded := by
  have runs : run step initial twoTenants = some _ := rfl
  have own : run step initial publicOnly = some _ := rfl
  refine ⟨_, _, runs, own, ?_, ?_⟩
  · exact tenant_isolated "public" consistent_initial consistent_initial rfl (by rfl) runs own
  · intro same
    have recorded := congrFun same (generateKey "c" "a")
    revert recorded
    decide +kernel

/-! ## Reading the storage while entries are applied -/

/-- A moment while entries are applied: some of them are done. -/
structure Moment (start : StateMachineData TopicStorage)
    (during : List (Entry TopicRequest × Unit)) where
  seen : List (Entry TopicRequest × Unit)
  data : StateMachineData TopicStorage
  within : seen <+: during
  reached : run step start seen = some data

/-- How the builder reads the storage: it copies the recorders one after the other and
then takes the lock of the trees, under which it serializes each node at a moment of its
own. `shared` is what is restored from the serialized storage. -/
structure SnapshotRead (start : StateMachineData TopicStorage)
    (during : List (Entry TopicRequest × Unit)) (shared : TopicStorage) where
  retainRead : Moment start during
  infoRead : Moment start during
  treeRead : Moment start during
  nodeRead : String → List String → Moment start during
  infoAfterRetain : retainRead.seen <+: infoRead.seen
  treeAfterInfo : infoRead.seen <+: treeRead.seen
  nodeAfterTree : ∀ tenantId path, treeRead.seen <+: (nodeRead tenantId path).seen
  retain : shared.retainMessageRecorder = retainRead.data.state.retainMessageRecorder
  info : shared.topicInfoRecorder = infoRead.data.state.topicInfoRecorder
  tenant : ∀ tenantId, shared.containsTenant tenantId = treeRead.data.state.containsTenant tenantId
  node : ∀ tenantId path, shared.hasNode tenantId path =
    (nodeRead tenantId path).data.state.hasNode tenantId path
  content : ∀ tenantId path, NodeContent.Restored
    ((nodeRead tenantId path).data.state.content tenantId path)
    (shared.content tenantId path)

def NoNewTenant (start : StateMachineData TopicStorage)
    (during : List (Entry TopicRequest × Unit)) : Prop :=
  ∀ input ∈ during, ∀ tenantId, createdTenant input.1 = some tenantId →
    start.state.containsTenant tenantId = true

/-- Two storages that hold the same. The order of leaves in a tree does not count. -/
structure Same (left right : TopicStorage) : Prop where
  retain : left.retainMessageRecorder = right.retainMessageRecorder
  info : left.topicInfoRecorder = right.topicInfoRecorder
  node : ∀ tenantId path, left.hasNode tenantId path = right.hasNode tenantId path
  content : ∀ tenantId path, left.content tenantId path = right.content tenantId path

section Replay

variable {builder start final other : StateMachineData TopicStorage}
  {shared : TopicStorage} {window during inputs : List (Entry TopicRequest × Unit)}

theorem Moment.containsTenant (moment : Moment start during)
    (consistent : Consistent start.state) (noNewTenant : NoNewTenant start during)
    (tenantId : String) :
    moment.data.state.containsTenant tenantId = start.state.containsTenant tenantId := by
  refine containsTenant_run ?_ consistent moment.reached tenantId
  intro input member
  exact noNewTenant input (moment.within.subset member)

theorem Moment.hasNode {earlier later : Moment start during}
    (consistent : Consistent start.state) (order : earlier.seen <+: later.seen)
    {tenantId : String} {path : List String}
    (found : earlier.data.state.hasNode tenantId path = true) :
    later.data.state.hasNode tenantId path = true := by
  rcases order with ⟨_, split⟩
  have reached := later.reached
  rw [← split, run_append, earlier.reached] at reached
  exact hasNode_run (consistent_run consistent earlier.reached) reached found

theorem Moment.reached_from (moment : Moment start during)
    (before : run step builder window = some start) :
    run step builder (window ++ moment.seen) = some moment.data := by
  rw [run_append, before]
  exact moment.reached

theorem cell_replay {read : TopicStorage → ν} {onRequest : TopicRequest → ν → ν}
    {Update : (ν → ν) → Prop} (band : Band Update)
    (repeats : ∀ request, Update (onRequest request))
    (acts : ∀ {request storage next}, ActsOn request storage next →
      read next = onRequest request (read storage))
    (consistent : Consistent builder.state) (sharedConsistent : Consistent shared)
    (before : run step builder window = some start) (seenFirst : window ++ during <+: inputs)
    (logged : run step builder inputs = some final)
    (replayed : run step (builder.restored shared) inputs = some other)
    (moment : Moment start during) (same : read shared = read moment.data.state) :
    read other.state = read final.state := by
  have fromShared := cell_run acts sharedConsistent replayed
  have toMoment := cell_run acts consistent (moment.reached_from before)
  have toFinal := cell_run acts consistent logged
  have seen : window ++ moment.seen <+: inputs :=
    ((List.prefix_append_right_inj window).mpr moment.within).trans seenFirst
  rw [fromShared, state_restored, same, toMoment, toFinal]
  exact band.replay seen (fun input _ => onEntry_mem band repeats input) _

theorem SnapshotRead.consistent (read : SnapshotRead start during shared)
    (startConsistent : Consistent start.state) (noNewTenant : NoNewTenant start during) :
    Consistent shared where
  infoTenant := by
    intro tenantId
    have atMoment := (consistent_run startConsistent read.infoRead.reached).infoTenant tenantId
    rw [read.info, atMoment, read.infoRead.containsTenant startConsistent noNewTenant,
      read.tenant, read.treeRead.containsTenant startConsistent noNewTenant]
  retainTenant := by
    intro tenantId
    have atMoment := (consistent_run startConsistent read.retainRead.reached).retainTenant tenantId
    rw [read.retain, atMoment, read.retainRead.containsTenant startConsistent noNewTenant,
      read.tenant, read.treeRead.containsTenant startConsistent noNewTenant]
  recorded := by
    intro tenantId clientId topic stored isRecorded parsed
    rw [read.info] at isRecorded
    have atMoment := (consistent_run startConsistent read.infoRead.reached).recorded
      tenantId clientId topic stored isRecorded parsed
    rw [read.node]
    exact Moment.hasNode startConsistent
      (read.treeAfterInfo.trans (read.nodeAfterTree tenantId _)) atMoment
  recordedRetained := by
    intro tenantId topic isRecorded
    rw [read.retain] at isRecorded
    have atMoment := (consistent_run startConsistent
      read.retainRead.reached).recordedRetained tenantId topic isRecorded
    rw [read.node]
    exact Moment.hasNode startConsistent (read.infoAfterRetain.trans
      (read.treeAfterInfo.trans (read.nodeAfterTree tenantId _))) atMoment

theorem SnapshotRead.content_eq (read : SnapshotRead start during shared)
    (startConsistent : Consistent start.state) (wellFiled : start.state.WellFiled)
    (tenantId : String) (path : List String) :
    shared.content tenantId path =
      (read.nodeRead tenantId path).data.state.content tenantId path := by
  apply (read.content tenantId path).eq
  intro key subscription found
  have atMoment := wellFiled_run startConsistent wellFiled (read.nodeRead tenantId path).reached
  exact (atMoment tenantId path key subscription found).2

/-- A snapshot that was read after some entries, and during others that create no tenant,
leads to the state of the log once all of them are replayed. -/
theorem replay (consistent : Consistent builder.state)
    (wellFiled : builder.state.WellFiled) (before : run step builder window = some start)
    (read : SnapshotRead start during shared) (noNewTenant : NoNewTenant start during)
    (seenFirst : window ++ during <+: inputs)
    (logged : run step builder inputs = some final) :
    ∃ other, run step (builder.restored shared) inputs = some other ∧
      other.position = final.position ∧ Same other.state final.state := by
  have startConsistent := consistent_run consistent before
  have startFiled := wellFiled_run consistent wellFiled before
  have sharedConsistent := read.consistent startConsistent noNewTenant
  -- The restored storage knows all tenants of the builder, so nothing is refused.
  have more : ∀ tenantId, builder.state.containsTenant tenantId = true →
      (builder.restored shared).state.containsTenant tenantId = true := by
    intro tenantId known
    rw [state_restored, read.tenant, ← TopicStorage.hasNode_root]
    rw [← TopicStorage.hasNode_root] at known
    exact hasNode_run consistent (read.treeRead.reached_from before) known
  rcases exists_run_of_more_tenants consistent sharedConsistent more logged with
    ⟨other, replayed⟩
  have otherConsistent : Consistent other.state := consistent_run sharedConsistent replayed
  have finalConsistent := consistent_run consistent logged
  have tenants : ∀ tenantId, other.state.containsTenant tenantId =
      final.state.containsTenant tenantId := by
    intro tenantId
    exact cell_replay Overwrite.band (fun request => Overwrite.raise _)
      (fun acts => acts.tenant tenantId) consistent sharedConsistent before seenFirst logged
      replayed read.treeRead (read.tenant tenantId)
  have contents := read.content_eq startConsistent startFiled
  refine ⟨other, replayed, ?_, ?_, ?_, ?_, ?_⟩
  · rw [position_run replayed, position_run logged, position_restored]
  · apply ext_getAt
    · intro tenantId
      rw [otherConsistent.retainTenant, finalConsistent.retainTenant, tenants]
    · intro tenantId topic
      exact cell_replay Overwrite.band (overwrite_onRecordedRetained tenantId topic)
        (fun acts => acts.recordedRetained tenantId topic) consistent sharedConsistent before
        seenFirst logged replayed read.retainRead (by rw [read.retain])
  · apply ext_getAt
    · intro tenantId
      rw [otherConsistent.infoTenant, finalConsistent.infoTenant, tenants]
    · intro tenantId key
      exact cell_replay Filling.band (filling_onRecorded tenantId key)
        (fun acts => acts.recorded tenantId key) consistent sharedConsistent before seenFirst
        logged replayed read.infoRead (by rw [read.info])
  · intro tenantId path
    exact cell_replay Overwrite.band (fun request => Overwrite.raise _)
      (fun acts => acts.node tenantId path) consistent sharedConsistent before seenFirst
      logged replayed (read.nodeRead tenantId path) (read.node tenantId path)
  · intro tenantId path
    have subscriptions : (other.state.content tenantId path).subscriptions =
        (final.state.content tenantId path).subscriptions := by
      apply Finmap.ext_lookup
      intro key
      exact cell_replay Dropping.band (dropping_onSubscription tenantId path key)
        (fun acts => acts.subscription tenantId path key) consistent sharedConsistent before
        seenFirst logged replayed (read.nodeRead tenantId path)
        (by rw [contents tenantId path])
    have retained : (other.state.content tenantId path).retainPublishPacket =
        (final.state.content tenantId path).retainPublishPacket :=
      cell_replay Overwrite.band (overwrite_onRetained tenantId path)
        (fun acts => acts.retained tenantId path) consistent sharedConsistent before
        seenFirst logged replayed (read.nodeRead tenantId path)
        (by rw [contents tenantId path])
    exact NodeContent.ext subscriptions retained

end Replay

end YedMQ.Raft.Topic
