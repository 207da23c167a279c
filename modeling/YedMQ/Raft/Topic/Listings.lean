import Mathlib.Data.List.TakeWhile
import YedMQ.Foundation.Serde
import YedMQ.Foundation.Utf8
import YedMQ.Raft.Topic.SubscriptionMap

/-! # Listings of subscriptions and retained messages

The administration interface reads its pages from the recorders, which are kept beside the
trie. The recorder of subscriptions keeps the QoS of the first subscription when a client
subscribes again.
-/

namespace YedMQ

namespace Topic

open Foundation

def rawFilter (stored : StoredFilter) : List Char :=
  match stored.sharedGroup with
  | none => stored.topicFilter.toList
  | some shareName =>
    "$share/".toList ++ (shareName.toList ++ '/' :: stored.topicFilter.toList)

variable {stored : StoredFilter}

theorem toList_parsed {raw : String} (parsed : parseFilter raw = .ok stored) :
    rawFilter stored = raw.toList := by
  unfold parseFilter parseSharedSubscriptionFilter at parsed
  split at parsed
  · cases parsed
  · rename_i shared outcome
    cases parsed
    split at outcome
    · rename_i shares
      rcases List.isPrefixOf_iff_prefix.mp shares with ⟨rest, whole⟩
      have dropped : raw.toList.drop "$share/".length = rest := by
        rw [← whole]
        exact List.drop_left
      simp only [dropped] at outcome
      split_ifs at outcome with slash
      cases outcome
      -- What follows the share name begins with the first slash.
      have nonempty : rest.dropWhile (· ≠ '/') ≠ [] := by
        intro empty
        simpa using List.dropWhile_eq_nil_iff.mp empty '/' (List.contains_iff_mem.mp slash)
      have head : (rest.dropWhile (· ≠ '/')).head nonempty = '/' := by
        simpa using List.head_dropWhile_not _ nonempty
      have opens := List.cons_head_tail nonempty
      rw [head] at opens
      simp only [rawFilter, String.toList_ofList]
      rw [← whole, opens, List.takeWhile_append_dropWhile]
    · cases outcome
  · cases parsed
    rfl

/-- Raw filters that are stored alike are the same. -/
theorem parseFilter_injective {left right : String}
    (leftParsed : parseFilter left = .ok stored) (rightParsed : parseFilter right = .ok stored) :
    left = right := by
  rw [← String.toList_inj, ← toList_parsed leftParsed, ← toList_parsed rightParsed]

/-- The client and the raw filter of a line in the recorder; nothing if the key was not made
by `generateKey`, where the code panics. -/
def extractInfoFromKey (key : String) : Option (String × String) := do
  let parts := key.toList.splitOn ':'
  let clientId ← (Base64.decodeBytes (parts.getD 0 [])).bind Utf8.decode
  let topic ← (Base64.decodeBytes (parts.getD 1 [])).bind Utf8.decode
  some (clientId, topic)

theorem extractInfoFromKey_generateKey (clientId topic : String) :
    extractInfoFromKey (generateKey clientId topic) = some (clientId, topic) := by
  have parts : (generateKey clientId topic).toList.splitOn ':' =
      [(Base64.encode clientId).toList, (Base64.encode topic).toList] := by
    have joined : (generateKey clientId topic).toList =
        [':'].intercalate [(Base64.encode clientId).toList, (Base64.encode topic).toList] := by
      simp [generateKey]
    rw [joined]
    apply List.splitOn_intercalate
    · simp [Base64.colon_notMem_encode]
    · simp
  have decoded (text : String) :
      (Base64.decodeBytes (Base64.encode text).toList).bind Utf8.decode = some text := by
    rw [← Base64.decode, Base64.decode_encode]
    exact Utf8.decode_encode text
  simp [extractInfoFromKey, parts, decoded]

namespace TopicStorage

def getTopicListWithPagination (iteration : Iteration String UInt8) (tenantId : String)
    (offset limit : Nat) (storage : TopicStorage) :
    Option (Except TopicStorageError (Nat × List (String × String × UInt8))) :=
  match storage.topicInfoRecorder.lookup tenantId with
  | none => some (.error (.tenantNotFound tenantId))
  | some items =>
    let lines := (((iteration.order items).drop offset).take limit).mapM fun line =>
      (extractInfoFromKey line.1).map fun info => (info.1, info.2, line.2)
    lines.map fun lines => .ok ((iteration.order items).length, lines)

def getRetainMessageListWithPagination (iteration : Iteration String (String × UInt8))
    (tenantId : String) (offset limit : Nat) (storage : TopicStorage) :
    Except TopicStorageError (Nat × List (String × String × UInt8)) :=
  match storage.retainMessageRecorder.lookup tenantId with
  | none => .error (.tenantNotFound tenantId)
  | some items =>
    .ok ((iteration.order items).length, ((iteration.order items).drop offset).take limit)

def subscribedQos (tenantId clientIdentifier topic : String) (storage : TopicStorage) :
    Option UInt8 :=
  (parseFilter topic).toOption.bind fun stored =>
    (Raft.Topic.held storage ⟨tenantId, clientIdentifier, stored⟩).map Subscription.qos

def recordedQos (tenantId clientIdentifier topic : String) (storage : TopicStorage) :
    Option UInt8 :=
  storage.topicInfoRecorder.getAt tenantId (generateKey clientIdentifier topic)

def retainedQos (tenantId topic : String) (storage : TopicStorage) : Option UInt8 :=
  match (storage.content tenantId (levels topic)).retainPublishPacket with
  | some (.publish publish) => some publish.qos
  | _ => none

end TopicStorage

end Topic

namespace Raft.Topic

open Foundation Semantics YedMQ.Topic TopicStorage

/-- Every page of a tenant is a window of one list. The list of subscriptions has one line
for each client and raw filter with a subscription in the trie, with the QoS of the trie, and
the list of retained messages has one line for each topic with a message in the trie. -/
structure Listed (infos : Iteration String UInt8) (retains : Iteration String (String × UInt8))
    (tenantId : String) (storage : TopicStorage) : Prop where
  subscriptions : ∃ lines : List (String × String × UInt8), lines.Nodup ∧
    (∀ offset limit, storage.getTopicListWithPagination infos tenantId offset limit =
      some (.ok (lines.length, (lines.drop offset).take limit))) ∧
    ∀ clientIdentifier topic qos, (clientIdentifier, topic, qos) ∈ lines ↔
      storage.subscribedQos tenantId clientIdentifier topic = some qos
  retained : ∃ lines : List (String × String × UInt8), lines.Nodup ∧
    (∀ offset limit, storage.getRetainMessageListWithPagination retains tenantId offset limit =
      .ok (lines.length, (lines.drop offset).take limit)) ∧
    ∀ topic qos, (∃ source, (topic, source, qos) ∈ lines) ↔
      storage.retainedQos tenantId topic = some qos

/-- A client that subscribes again asks for the QoS that it already has. -/
def KeepsQos (storage : TopicStorage) (request : TopicRequest) : Prop :=
  ∀ next entry subscription, request.call storage = .ok next → request.named = some entry →
    request.asked = some subscription → ∀ old ∈ held storage entry, old.qos = subscription.qos

/-- The recorders against the trie, the recorder of subscriptions apart from its keys. -/
structure Listable (storage : TopicStorage) : Prop where
  consistent : Consistent storage
  wellFiled : storage.WellFiled
  keyed : ∀ tenantId key qos, storage.topicInfoRecorder.getAt tenantId key = some qos →
    ∃ clientIdentifier topic stored, key = generateKey clientIdentifier topic ∧
      parseFilter topic = .ok stored
  retained : ∀ tenantId topic, (storage.retainMessageRecorder.getAt tenantId topic).map Prod.snd =
      storage.retainedQos tenantId topic

def Agrees (storage : TopicStorage) : Prop :=
  ∀ tenantId clientIdentifier topic stored, parseFilter topic = .ok stored →
    storage.recordedQos tenantId clientIdentifier topic =
      (held storage ⟨tenantId, clientIdentifier, stored⟩).map Subscription.qos

variable {request : TopicRequest} {storage next : TopicStorage} {topic : String}
  {stored : StoredFilter}

/-! ## What a call does to a line -/

theorem parseFilter_of_accepted (accepted : acceptedFilter topic = some stored) :
    parseFilter topic = .ok stored := by
  rw [acceptedFilter] at accepted
  split at accepted
  · rename_i parsed
    split at accepted <;> cases accepted
    exact parsed
  · cases accepted

theorem parseFilter_of_toOption (parsed : (parseFilter topic).toOption = some stored) :
    parseFilter topic = .ok stored := by
  cases outcome : parseFilter topic with
  | error => simp [outcome, Except.toOption] at parsed
  | ok => simpa [outcome, Except.toOption] using parsed

/-- The raw filters of a line and of a call agree if their stored filters do. -/
theorem sameLine_iff {tenantId tenant clientId client raw : String}
    {other : StoredFilter} (parsed : parseFilter topic = .ok stored)
    (rawParsed : parseFilter raw = .ok other) :
    (tenantId = tenant ∧ generateKey clientId topic = generateKey client raw) ↔
      SubscriptionEntry.mk tenant client other = ⟨tenantId, clientId, stored⟩ := by
  constructor
  · rintro ⟨rfl, same⟩
    rcases generateKey_injective same with ⟨rfl, rfl⟩
    rw [parsed] at rawParsed
    cases rawParsed
    rfl
  · intro same
    cases same
    cases parseFilter_injective parsed rawParsed
    exact ⟨rfl, rfl⟩

/-- The recorder follows the trie, except that it keeps the QoS of a line that it has. -/
theorem ActsOn.recordedQos_eq (acts : ActsOn request storage next)
    (parsed : parseFilter topic = .ok stored) (tenantId clientId : String) :
    next.recordedQos tenantId clientId topic =
      if request.named = some ⟨tenantId, clientId, stored⟩ then
        request.asked.map fun subscription =>
          (storage.recordedQos tenantId clientId topic).getD subscription.qos
      else
        storage.recordedQos tenantId clientId topic := by
  rw [recordedQos, acts.recorded]
  cases request with
  | subscribeTopic tenant client raw =>
    cases accepted : acceptedFilter raw with
    | none => simp [TopicRequest.onRecorded, TopicRequest.named, accepted, recordedQos]
    | some =>
      simp only [TopicRequest.onRecorded, TopicRequest.named, TopicRequest.asked, accepted,
        Option.map_some, Option.some.injEq,
        sameLine_iff parsed (parseFilter_of_accepted accepted)]
      split <;> rfl
  | unsubscribeTopic tenant client raw =>
    cases rawParsed : (parseFilter raw).toOption with
    | none => simp [TopicRequest.onRecorded, TopicRequest.named, rawParsed, recordedQos]
    | some =>
      simp only [TopicRequest.onRecorded, TopicRequest.named, rawParsed, Option.map_some,
        Option.some.injEq, sameLine_iff parsed (parseFilter_of_toOption rawParsed)]
      split <;> rfl
  | registerRetainPublishPacket | cleanRetainPublishPacket | createTenant => rfl

theorem ActsOn.keyed (acts : ActsOn request storage next) (listable : Listable storage)
    (tenantId key : String) (qos : UInt8)
    (found : next.topicInfoRecorder.getAt tenantId key = some qos) :
    ∃ clientId topic stored, key = generateKey clientId topic ∧
      parseFilter topic = .ok stored := by
  rw [acts.recorded] at found
  cases request with
  | subscribeTopic tenant client raw _ _ _ =>
    cases accepted : acceptedFilter raw with
    | none =>
      rw [TopicRequest.onRecorded, accepted] at found
      exact listable.keyed _ _ _ found
    | some stored =>
      simp only [TopicRequest.onRecorded, accepted] at found
      split at found
      · rename_i here
        exact ⟨client, raw, stored, here.2, parseFilter_of_accepted accepted⟩
      · exact listable.keyed _ _ _ found
  | unsubscribeTopic tenant client raw =>
    cases parsed : (parseFilter raw).toOption with
    | none =>
      rw [TopicRequest.onRecorded, parsed] at found
      exact listable.keyed _ _ _ found
    | some =>
      simp only [TopicRequest.onRecorded, parsed] at found
      split at found
      · cases found
      · exact listable.keyed _ _ _ found
  | registerRetainPublishPacket | cleanRetainPublishPacket | createTenant =>
    exact listable.keyed _ _ _ found

theorem ActsOn.retainedQos_eq (acts : ActsOn request storage next) (listable : Listable storage)
    (tenantId topic : String) :
    (next.retainMessageRecorder.getAt tenantId topic).map Prod.snd =
      next.retainedQos tenantId topic := by
  have before := listable.retained tenantId topic
  have samePath : ∀ other, levels topic = levels other ↔ topic = other :=
    fun _ => ⟨levels_injective, congrArg levels⟩
  rw [acts.recordedRetained, retainedQos, acts.retained]
  cases request with
  | registerRetainPublishPacket tenant source packet =>
    cases packet with
    | publish =>
      simp only [TopicRequest.onRecordedRetained, TopicRequest.onRetained, samePath]
      split
      · rfl
      · exact before
    | _ => exact before
  | cleanRetainPublishPacket =>
    simp only [TopicRequest.onRecordedRetained, TopicRequest.onRetained, samePath]
    split
    · rfl
    · exact before
  | subscribeTopic | unsubscribeTopic | createTenant => exact before

theorem Listable.call (listable : Listable storage) (succeeded : request.call storage = .ok next) :
    Listable next := by
  have acts := actsOn_call listable.consistent succeeded
  exact ⟨acts.consistent listable.consistent, acts.wellFiled listable.wellFiled,
    acts.keyed listable, acts.retainedQos_eq listable⟩

/-- After a call the QoS agree if the client did not change its QoS. -/
theorem agrees_call_iff (listable : Listable storage) (agrees : Agrees storage)
    (succeeded : request.call storage = .ok next) : Agrees next ↔ KeepsQos storage request := by
  have acts := actsOn_call listable.consistent succeeded
  constructor
  · intro after _ entry subscription _ named asked old found
    have parsed : ∃ topic, parseFilter topic = .ok entry.filter := by
      cases request with
      | subscribeTopic tenant client raw =>
        rcases Option.map_eq_some_iff.mp named with ⟨stored, accepted, same⟩
        cases same
        exact ⟨raw, parseFilter_of_accepted accepted⟩
      | _ => cases asked
    rcases parsed with ⟨topic, parsed⟩
    have line := after entry.tenantId entry.clientIdentifier topic entry.filter parsed
    rw [acts.recordedQos_eq parsed, acts.held_eq listable.wellFiled, if_pos named,
      if_pos named, asked, agrees _ _ _ _ parsed, show held storage entry = some old from found]
      at line
    exact Option.some.inj line
  · intro keeps tenantId clientId topic stored parsed
    have before := agrees tenantId clientId topic stored parsed
    rw [acts.recordedQos_eq parsed, acts.held_eq listable.wellFiled]
    split
    · rename_i named
      cases asked : request.asked with
      | none => rfl
      | some subscription =>
        rw [before]
        cases found : held storage ⟨tenantId, clientId, stored⟩ with
        | none => rfl
        | some old =>
          exact congrArg some (keeps next _ subscription succeeded named asked old found)
    · exact before

/-! ## The pages -/

variable {infos : Iteration String UInt8} {retains : Iteration String (String × UInt8)}
  {tenantId : String}

theorem subscribedQos_eq (parsed : parseFilter topic = .ok stored)
    (storage : TopicStorage) (clientId : String) :
    storage.subscribedQos tenantId clientId topic =
      (held storage ⟨tenantId, clientId, stored⟩).map Subscription.qos := by
  rw [subscribedQos, parsed]
  rfl

theorem mapM_eq_some {parse : α → Option β} {read : α → β} {lines : List α}
    (reads : ∀ line ∈ lines, parse line = some (read line)) :
    lines.mapM parse = some (lines.map read) := by
  induction lines with
  | nil => rfl
  | cons line lines induction =>
    rw [List.mapM_cons, reads line List.mem_cons_self,
      induction fun other member => reads other (List.mem_cons_of_mem _ member)]
    rfl

/-- The pages of the subscriptions are windows of one list, which lists the recorder. -/
theorem Listable.lines (listable : Listable storage) (infos : Iteration String UInt8)
    (known : storage.containsTenant tenantId = true) :
    ∃ lines : List (String × String × UInt8), lines.Nodup ∧
      (∀ offset limit, storage.getTopicListWithPagination infos tenantId offset limit =
        some (.ok (lines.length, (lines.drop offset).take limit))) ∧
      ∀ clientId topic qos, (clientId, topic, qos) ∈ lines ↔
        storage.recordedQos tenantId clientId topic = some qos := by
  rw [← listable.consistent.infoTenant] at known
  rcases Option.isSome_iff_exists.mp known with ⟨items, present⟩
  have found : ∀ key qos, (key, qos) ∈ infos.order items ↔
      storage.topicInfoRecorder.getAt tenantId key = some qos := by
    intro key qos
    rw [infos.mem, NestedMap.getAt, present]
    rfl
  let read := fun line : String × UInt8 =>
    let info := (extractInfoFromKey line.1).getD ("", "")
    (info.1, info.2, line.2)
  have keyed : ∀ line ∈ infos.order items, ∃ clientId topic,
      line = (generateKey clientId topic, line.2) ∧
        read line = (clientId, topic, line.2) := by
    rintro ⟨key, qos⟩ member
    rcases listable.keyed tenantId key qos ((found key qos).mp member) with
      ⟨client, topic, _, rfl, _⟩
    exact ⟨client, topic, rfl, by simp [read, extractInfoFromKey_generateKey]⟩
  refine ⟨(infos.order items).map read, ?_, ?_, ?_⟩
  · apply (infos.nodup items).map_on
    intro left leftMember right rightMember same
    rcases keyed left leftMember with ⟨client, topic, leftKey, leftRead⟩
    rcases keyed right rightMember with ⟨_, _, rightKey, rightRead⟩
    rw [leftRead, rightRead, Prod.mk.injEq, Prod.mk.injEq] at same
    rw [leftKey, rightKey, same.1, same.2.1, same.2.2]
  · intro offset limit
    rw [getTopicListWithPagination, present, ← List.map_drop, ← List.map_take, List.length_map]
    dsimp only
    rw [mapM_eq_some]
    · rfl
    · intro line member
      rcases keyed line (List.mem_of_mem_drop (List.mem_of_mem_take member)) with
        ⟨client, topic, key, reads⟩
      rw [reads, key, extractInfoFromKey_generateKey]
      rfl
  · intro clientId topic qos
    rw [recordedQos, ← found, List.mem_map]
    constructor
    · rintro ⟨line, member, same⟩
      rcases keyed line member with ⟨_, _, key, reads⟩
      rw [reads] at same
      cases same
      rw [← key]
      exact member
    · intro member
      exact ⟨_, member, by simp [read, extractInfoFromKey_generateKey]⟩

theorem Listed.recordedQos_eq (listed : Listed infos retains tenantId storage)
    (listable : Listable storage) (known : storage.containsTenant tenantId = true)
    (clientId topic : String) :
    storage.recordedQos tenantId clientId topic =
      storage.subscribedQos tenantId clientId topic := by
  rcases listable.lines infos known with ⟨lines, _, pages, recorded⟩
  rcases listed.subscriptions with ⟨others, _, otherPages, subscribed⟩
  -- The page that holds everything shows that the two lists are the same.
  have same := (pages 0 (lines.length + others.length)).symm.trans (otherPages 0 _)
  rw [List.drop_zero, List.drop_zero, List.take_of_length_le (Nat.le_add_right _ _),
    List.take_of_length_le (Nat.le_add_left _ _), Option.some.injEq, Except.ok.injEq,
    Prod.mk.injEq] at same
  apply Option.ext
  intro qos
  rw [← recorded, same.2, subscribed]

/-- All tenants are listed if the recorder agrees with the trie. -/
theorem listed_iff_agrees (listable : Listable storage) :
    (∀ tenantId, storage.containsTenant tenantId = true →
      Listed infos retains tenantId storage) ↔ Agrees storage := by
  constructor
  · intro listed tenantId clientId topic stored parsed
    cases known : storage.containsTenant tenantId with
    | true =>
      rw [← subscribedQos_eq parsed]
      exact (listed tenantId known).recordedQos_eq listable known clientId topic
    | false =>
      have missing := listable.consistent.infoTenant tenantId
      rw [known, NestedMap.hasOuter, Option.isSome_eq_false_iff, Option.isNone_iff_eq_none]
        at missing
      rw [containsTenant, Option.isSome_eq_false_iff, Option.isNone_iff_eq_none] at known
      rw [recordedQos, NestedMap.getAt, missing, held, content, known]
      rfl
  · intro agrees tenantId known
    rcases listable.lines infos known with ⟨lines, nodup, pages, listed⟩
    refine ⟨⟨lines, nodup, pages, ?_⟩, ?_⟩
    · intro clientId topic qos
      rw [listed]
      cases parsed : parseFilter topic with
      | ok => rw [subscribedQos_eq parsed, agrees tenantId clientId topic _ parsed]
      | error =>
        have notRecorded : storage.recordedQos tenantId clientId topic ≠ some qos := by
          intro recorded
          rcases listable.keyed tenantId _ qos recorded with ⟨_, _, _, same, ok⟩
          rw [← (generateKey_injective same).2, parsed] at ok
          cases ok
        simp [notRecorded, subscribedQos, parsed, Except.toOption]
    · have knownRetained := listable.consistent.retainTenant tenantId
      rw [known] at knownRetained
      rcases Option.isSome_iff_exists.mp knownRetained with ⟨items, present⟩
      refine ⟨retains.order items, retains.nodup items, ?_, ?_⟩
      · intro offset limit
        rw [getRetainMessageListWithPagination, present]
      · intro topic qos
        rw [← listable.retained tenantId topic, NestedMap.getAt, present, Option.bind_some,
          Option.map_eq_some_iff]
        simp only [retains.mem, Prod.exists, exists_eq_right]

theorem listable_new : Listable TopicStorage.new ∧ Agrees TopicStorage.new := by
  have empty : ∀ tenantId key, TopicStorage.new.topicInfoRecorder.getAt tenantId key = none :=
    NestedMap.getAt_ensureOuter "public" ∅
  have nothing : ∀ entry, held TopicStorage.new entry = none := by
    intro entry
    rw [held, content_new]
    rfl
  refine ⟨⟨consistent_initial, .new, ?_, ?_⟩, ?_⟩
  · intro tenantId key qos found
    rw [empty] at found
    cases found
  · intro tenantId topic
    rw [retainedQos, content_new]
    exact congrArg (Option.map Prod.snd) (NestedMap.getAt_ensureOuter "public" ∅ tenantId topic)
  · intro tenantId clientId topic stored parsed
    rw [recordedQos, empty, nothing]
    rfl

theorem listable_performed (calls : List TopicRequest) : Listable (performed calls).1 := by
  induction calls using List.reverseRecOn with
  | nil => exact listable_new.1
  | append_singleton calls request induction =>
    rw [performed_concat, perform]
    split
    · rename_i next succeeded
      exact induction.call succeeded
    · exact induction

/-- The listings agree with the trie along a history exactly if no client changes the QoS of
a subscription that it has. -/
theorem listings_agree_iff (infos : Iteration String UInt8)
    (retains : Iteration String (String × UInt8)) (calls : List TopicRequest) :
    (∀ visited, visited <+: calls → ∀ tenantId,
      (performed visited).1.containsTenant tenantId = true →
        Listed infos retains tenantId (performed visited).1) ↔
      ∀ visited request, visited ++ [request] <+: calls →
        KeepsQos (performed visited).1 request := by
  constructor
  · intro listed visited request isPrefix
    have before := (listed_iff_agrees (listable_performed visited)).mp
      (listed visited ((List.prefix_append _ _).trans isPrefix))
    have after := (listed_iff_agrees (listable_performed _)).mp (listed _ isPrefix)
    rw [performed_concat, perform] at after
    intro next entry subscription succeeded
    rw [succeeded] at after
    exact (agrees_call_iff (listable_performed visited) before succeeded).mp after next entry
      subscription succeeded
  · intro keeps visited isPrefix
    apply (listed_iff_agrees (listable_performed visited)).mpr
    induction visited using List.reverseRecOn with
    | nil => exact listable_new.2
    | append_singleton visited request induction =>
      have before := induction ((List.prefix_append _ _).trans isPrefix)
      rw [performed_concat, perform]
      split
      · rename_i next succeeded
        exact (agrees_call_iff (listable_performed visited) before succeeded).mpr
          (keeps visited request isPrefix)
      · exact before

def resubscribed : List TopicRequest :=
  [.subscribeTopic "public" "client" "a" 0 false false,
    .subscribeTopic "public" "client" "a" 1 false false]

theorem resubscribed_lists_old_qos :
    (performed resubscribed).1.recordedQos "public" "client" "a" = some 0 ∧
      (performed resubscribed).1.subscribedQos "public" "client" "a" = some 1 ∧
      ∀ infos retains, ¬ Listed infos retains "public" (performed resubscribed).1 := by
  have recorded : (performed resubscribed).1.recordedQos "public" "client" "a" = some 0 := by
    decide
  have subscribed : (performed resubscribed).1.subscribedQos "public" "client" "a" = some 1 := by
    decide
  refine ⟨recorded, subscribed, ?_⟩
  intro infos retains listed
  have same := listed.recordedQos_eq (listable_performed resubscribed) (by decide) "client" "a"
  cases same

end Raft.Topic

end YedMQ
