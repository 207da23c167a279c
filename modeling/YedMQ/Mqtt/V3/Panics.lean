import YedMQ.Mqtt.V3.Conversion
import YedMQ.Mqtt.V3.Framing

/-! # Where the codec panics

Parsing panics on an unknown packet type and nowhere else. What was parsed is encoded
again when it is written to a client: that panics on a topic whose lossy decoding has
become longer than a length of two bytes can say.
-/

namespace YedMQ.Mqtt.V3

open Foundation PublishPacket Nom

/-! ## Parsing -/

def KnownType (input : List UInt8) : Prop :=
  ∀ first, input.head? = some first → (PacketType.ofU8? (first >>> 4)).isSome

theorem FixHeader.calm_parseRemainingLength : FixHeader.parseRemainingLength.Calm := by
  apply (calm_takeWhileMN 0 3 continues).bind
  intro length
  exact (calm_take 1).map _

variable {input : List UInt8}

theorem FixHeader.parse_panics_iff :
    (∃ message, FixHeader.parse input = .error (.panic message)) ↔ ¬ KnownType input := by
  cases input with
  | nil =>
    constructor
    · rintro ⟨message, panics⟩
      cases panics
    · intro unknown
      exact absurd (fun first head => nomatch head) unknown
  | cons first rest =>
    have known : KnownType (first :: rest) ↔ (PacketType.ofU8? (first >>> 4)).isSome := by
      constructor
      · exact fun known => known first rfl
      · intro isSome other head
        cases head
        exact isSome
    rw [FixHeader.parse_cons, known]
    cases PacketType.ofU8? (first >>> 4) with
    | none => simp
    | some packetType =>
      have calm := FixHeader.calm_parseRemainingLength.map (FixHeader.ofFirstByte packetType first)
      constructor
      · rintro ⟨message, panics⟩
        exact absurd panics (calm rest message)
      · exact fun unknown => absurd rfl unknown

/-! Behind a known type no parser panics. -/

theorem calm_parseUtf8 : parseUtf8.Calm :=
  calm_u16.bind fun length => (calm_take length.toNat).map _

theorem calm_parseUtf8Complete : parseUtf8Complete.Calm :=
  calm_completeU16.bind fun length => (calm_completeTake length.toNat).map _

theorem ConnectPacket.calm_parseIf (flag : Bool) : (ConnectPacket.parseIf flag).Calm := by
  unfold ConnectPacket.parseIf
  split
  · exact calm_parseUtf8.map _
  · exact calm_pure _

theorem ConnectPacket.calm_parseVariableHeaderAndPayload :
    ConnectPacket.parseVariableHeaderAndPayload.Calm := by
  apply Nom.Calm.bind
  · apply calm_parseUtf8.bind
    intro protocolName
    apply calm_u8.bind
    intro protocolLevel
    apply calm_u8.bind
    intro flags
    exact calm_u16.map _
  · intro header
    apply Nom.Calm.map
    apply calm_parseUtf8.bind
    intro clientId
    apply (ConnectPacket.calm_parseIf _).bind
    intro willTopic
    apply (ConnectPacket.calm_parseIf _).bind
    intro willMessage
    apply (ConnectPacket.calm_parseIf _).bind
    intro username
    exact (ConnectPacket.calm_parseIf _).map _

theorem PublishPacket.calm_parseBody (header : FixHeader) : (parseBody header).Calm := by
  apply Nom.Calm.bind
  · apply calm_parseUtf8Complete.bind
    intro topicName
    split
    · exact calm_completeU16.map _
    · exact calm_pure _
  · exact fun _ => calm_rest.map _

theorem SubscribePacket.calm_parseBody : SubscribePacket.parseBody.Calm := by
  apply calm_u16.bind
  intro packetId
  apply Nom.Calm.map
  apply Nom.Calm.many0
  apply calm_parseUtf8Complete.bind
  exact fun _ => calm_completeU8.map _

theorem UnsubscribePacket.calm_parseBody : UnsubscribePacket.parseBody.Calm :=
  calm_u16.bind fun _ => calm_parseUtf8Complete.many0.map _

theorem SubackPacket.calm_parseBody : SubackPacket.parseBody.Calm :=
  calm_u16.bind fun _ => calm_completeU8.many0.map _

section Known

variable {input : List UInt8}

theorem parseFramed_calm {α β : Type} {fixedHeader : Nom FixHeader} {inner : FixHeader → Nom α}
    {build : FixHeader → α → β}
    (known : ∀ message, fixedHeader input ≠ .error (.panic message))
    (calm : ∀ header, (inner header).Calm) (message : String) :
    parseFramed fixedHeader inner build input ≠ .error (.panic message) := by
  intro panics
  rcases bind_eq_error.mp panics with failed | ⟨header, body, _, failed⟩
  · exact known message failed
  · apply Nom.Calm.map ?_ _ body message failed
    apply (calm_take header.remainingLength).mapRes
    exact fun bytes => calm header bytes

theorem parseOf_calm (known : ∀ message, FixHeader.parse input ≠ .error (.panic message))
    (maxMessageSize : Nat) (packetType : PacketType) (message : String) :
    MqttPacketV3.parseOf maxMessageSize packetType input ≠ .error (.panic message) := by
  cases packetType
  case connect =>
    exact map_ne_panic (parseFramed_calm known
      fun _ => ConnectPacket.calm_parseVariableHeaderAndPayload) message
  case connack =>
    exact map_ne_panic (parseFramed_calm known fun _ => calm_u8.bind fun _ => calm_u8.map _) message
  case publish =>
    exact map_ne_panic (parseFramed_calm (verify_ne_panic known) calm_parseBody) message
  case subscribe =>
    exact map_ne_panic (parseFramed_calm known fun _ => SubscribePacket.calm_parseBody) message
  case suback =>
    exact map_ne_panic (parseFramed_calm known fun _ => SubackPacket.calm_parseBody) message
  case unsubscribe =>
    exact map_ne_panic (parseFramed_calm known fun _ => UnsubscribePacket.calm_parseBody) message
  case pingreq | pingresp | disconnect => exact map_ne_panic (map_ne_panic known) message
  all_goals exact map_ne_panic (parseFramed_calm known fun _ => calm_u16) message

end Known

variable {maxMessageSize : Nat}

theorem parse_panics_iff :
    (∃ message, parse maxMessageSize input = .error (.panic message)) ↔ ¬ KnownType input := by
  rw [← FixHeader.parse_panics_iff, parse]
  cases parsed : FixHeader.parse input with
  | error => simp
  | ok found =>
    obtain ⟨header, body⟩ := found
    have calm := parseOf_calm (fun message panics => by cases parsed.symm.trans panics)
      maxMessageSize header.packetType
    simp only [reduceCtorEq, exists_false, iff_false, not_exists]
    intro message panics
    rw [consumed] at panics
    split at panics
    · cases panics
    · rename_i error failed
      cases panics
      exact calm message failed

/-! ## Writing -/

/-- The topics whose lengths are expected to fit when the packet is written. A packet with
a quality of service that is refused is not written. -/
def topicsToWrite : Packet → List String
  | .publish message => if message.qos ≤ 2 then [message.topicName] else []
  | .subscribe subscribe =>
    if subscribe.topics.all (·.qos ≤ 2) then subscribe.topics.map (·.topicFilter) else []
  | .unsubscribe unsubscribe => unsubscribe.topics
  | _ => []

variable {filter : SubscribeTopicFilter}

theorem SubscribePacket.topicFilterBytes_of_fits (fits : TopicFits filter.topicName) :
    SubscribePacket.topicFilterBytes filter = .ok (textBytes filter.topicName ++ [filter.qos]) := by
  rw [SubscribePacket.topicFilterBytes, topicBytes_of_fits fits]
  rfl

theorem SubscribePacket.topicFilterBytes_of_not_fits (long : ¬ TopicFits filter.topicName) :
    ∃ panic, SubscribePacket.topicFilterBytes filter = .error panic := by
  rw [SubscribePacket.topicFilterBytes, topicBytes_of_not_fits long]
  exact ⟨_, rfl⟩

section Filters

variable {α : Type} {filterBytes : α → Except Panic (List UInt8)} {written : α → List UInt8}

theorem filtersBytes_of_each {filters : List α}
    (each : ∀ filter ∈ filters, filterBytes filter = .ok (written filter)) :
    filtersBytes filterBytes filters = .ok (filters.flatMap written) := by
  induction filters with
  | nil => rfl
  | cons filter filters induction =>
    have others := induction fun other member => each other (List.mem_cons_of_mem _ member)
    rw [filtersBytes, each filter List.mem_cons_self, others]
    rfl

theorem filtersBytes_of_some {filters : List α} {filter : α} (member : filter ∈ filters)
    (panics : ∃ panic, filterBytes filter = .error panic) :
    ∃ panic, filtersBytes filterBytes filters = .error panic := by
  induction filters with
  | nil => cases member
  | cons first filters induction =>
    rw [filtersBytes]
    cases found : filterBytes first with
    | error panic => exact ⟨panic, rfl⟩
    | ok =>
      rcases List.mem_cons.mp member with rfl | later
      · rcases panics with ⟨panic, failed⟩
        rw [failed] at found
        cases found
      · rcases induction later with ⟨panic, failed⟩
        rw [failed]
        exact ⟨panic, rfl⟩

end Filters

variable {topics : List SubscribeTopic}

theorem topicFiltersOf_of_all (accepted : topics.all (·.qos ≤ 2) = true) :
    topicFiltersOf topics = .ok (topics.map fun topic => ⟨topic.topicFilter, topic.qos⟩) := by
  induction topics with
  | nil => rfl
  | cons topic topics induction =>
    rw [List.all_cons, Bool.and_eq_true, decide_eq_true_eq] at accepted
    rw [topicFiltersOf, validateQos, if_pos accepted.1, induction accepted.2]
    rfl

theorem topicFiltersOf_of_not_all (refused : ¬ topics.all (·.qos ≤ 2) = true) :
    ∃ error, topicFiltersOf topics = .error error := by
  induction topics with
  | nil => exact absurd rfl refused
  | cons topic topics induction =>
    rw [List.all_cons, Bool.and_eq_true, decide_eq_true_eq] at refused
    rw [topicFiltersOf, validateQos]
    by_cases first : topic.qos ≤ 2
    · rcases induction fun others => refused ⟨first, others⟩ with ⟨error, failed⟩
      rw [if_pos first, failed]
      exact ⟨error, rfl⟩
    · rw [if_neg first]
      exact ⟨_, rfl⟩

def Panics (written : Except WriteFailure (List UInt8)) : Prop :=
  ∃ panic, written = .error (.panic panic)

theorem not_panics_ok (bytes : List UInt8) : ¬ Panics (.ok bytes) := by
  rintro ⟨_, equal⟩
  cases equal

variable {message : Publish}

theorem PublishPacket.encode_built (generated : UInt16) (fits : TopicFits message.topicName) :
    ∃ bytes, (built generated message).encode = .ok bytes := by
  rw [encode, variableHeaderBytes, built, topicBytes_of_fits fits]
  exact ⟨_, rfl⟩

variable {generated : UInt16}

theorem publish_panics_iff :
    Panics (encodeForV3 generated (.publish message)) ↔
      message.qos ≤ 2 ∧ ¬ TopicFits message.topicName := by
  rw [encodeForV3, tryFrom, validateQos]
  by_cases accepted : message.qos ≤ 2
  · rw [if_pos accepted]
    by_cases fits : TopicFits message.topicName
    · rcases encode_built generated fits with ⟨_, encoded⟩
      rw [build_of_fits fits]
      constructor
      · rintro ⟨panic, equal⟩
        cases (congrArg (Except.mapError WriteFailure.panic) encoded).symm.trans equal
      · exact fun long => absurd fits long.2
    · rw [build, variableHeaderBytes, topicBytes_of_not_fits fits]
      constructor
      · exact fun _ => ⟨accepted, fits⟩
      · exact fun _ => ⟨_, rfl⟩
  · rw [if_neg accepted]
    constructor
    · rintro ⟨_, equal⟩
      cases equal
    · exact fun both => absurd both.1 accepted

theorem filters_panic_iff {α : Type} {filterBytes : α → Except Panic (List UInt8)}
    {written : α → List UInt8} (topicName : α → String) (filters : List α)
    (finish : List UInt8 → List UInt8)
    (fits : ∀ filter, TopicFits (topicName filter) → filterBytes filter = .ok (written filter))
    (long : ∀ filter, ¬ TopicFits (topicName filter) → ∃ panic, filterBytes filter = .error panic) :
    Panics ((finish <$> filtersBytes filterBytes filters).mapError .panic) ↔
      ∃ topic ∈ filters.map topicName, ¬ TopicFits topic := by
  constructor
  · intro panics
    by_contra all
    push Not at all
    have each : ∀ filter ∈ filters, filterBytes filter = .ok (written filter) := by
      intro filter member
      exact fits filter (all _ (List.mem_map_of_mem member))
    rw [filtersBytes_of_each each] at panics
    exact not_panics_ok _ panics
  · rintro ⟨_, member, exceeds⟩
    rcases List.mem_map.mp member with ⟨filter, among, rfl⟩
    rcases filtersBytes_of_some among (long filter exceeds) with ⟨panic, failed⟩
    rw [failed]
    exact ⟨panic, rfl⟩

theorem subscribe_panics_iff {subscribe : Subscribe} :
    Panics (encodeForV3 generated (.subscribe subscribe)) ↔
      ∃ topic ∈ topicsToWrite (.subscribe subscribe), ¬ TopicFits topic := by
  rw [encodeForV3, tryFrom, topicsToWrite]
  by_cases accepted : subscribe.topics.all (·.qos ≤ 2) = true
  · rw [topicFiltersOf_of_all accepted, if_pos accepted]
    have filters := filters_panic_iff SubscribeTopicFilter.topicName
      (subscribe.topics.map fun topic => ⟨topic.topicFilter, topic.qos⟩)
      (fun payload =>
        (SubscribePacket.build subscribe.packetIdentifier
          (subscribe.topics.map fun topic => ⟨topic.topicFilter, topic.qos⟩)).fixHeader.ecnode ++
          beU16 subscribe.packetIdentifier ++ payload)
      (fun _ => SubscribePacket.topicFilterBytes_of_fits)
      (fun _ => SubscribePacket.topicFilterBytes_of_not_fits)
    rw [List.map_map] at filters
    exact filters
  · rw [if_neg accepted]
    rcases topicFiltersOf_of_not_all accepted with ⟨_, failed⟩
    rw [failed]
    constructor
    · rintro ⟨_, equal⟩
      cases equal
    · rintro ⟨_, member, _⟩
      cases member

theorem unsubscribe_panics_iff {unsubscribe : Unsubscribe} :
    Panics (encodeForV3 generated (.unsubscribe unsubscribe)) ↔
      ∃ topic ∈ unsubscribe.topics, ¬ TopicFits topic := by
  have filters := filters_panic_iff id unsubscribe.topics (fun payload =>
      (UnsubscribePacket.build unsubscribe.packetIdentifier unsubscribe.topics).fixHeader.ecnode ++
        beU16 unsubscribe.packetIdentifier ++ payload)
    (fun _ => topicBytes_of_fits) (fun _ long => ⟨_, topicBytes_of_not_fits long⟩)
  rw [List.map_id] at filters
  exact filters

theorem encodeForV3_panics_iff {packet : Packet} :
    Panics (encodeForV3 generated packet) ↔ ∃ topic ∈ topicsToWrite packet, ¬ TopicFits topic := by
  cases packet
  case publish message =>
    rw [publish_panics_iff, topicsToWrite]
    by_cases accepted : message.qos ≤ 2 <;> simp [accepted]
  case subscribe subscribe => exact subscribe_panics_iff
  case unsubscribe unsubscribe => exact unsubscribe_panics_iff
  all_goals
    constructor
    · rintro ⟨_, equal⟩
      cases equal
    · rintro ⟨_, member, _⟩
      cases member

/-! ## What was parsed, written again -/

/-- The packets that are written of one that was parsed: the packet itself; copies of a
PUBLISH, whose quality of service and flags are those of the subscription; and the will of
a CONNECT as a PUBLISH. The topic is kept in all of them. -/
inductive WrittenOf : Packet → Packet → Prop where
  | same (packet : Packet) : WrittenOf packet packet
  | copy {message : Publish} (copy : Publish) (topic : copy.topicName = message.topicName) :
      WrittenOf (.publish message) (.publish copy)
  | will {connect : Connect} {will : Will} (has : connect.will = some will) (copy : Publish)
      (topic : copy.topicName = will.topic) : WrittenOf (.connect connect) (.publish copy)

def parsedTopics : MqttPacketV3 → List String
  | .connect packet => packet.payload.willTopic.toList
  | .publish packet => [packet.topicName]
  | .subscribe packet =>
    if packet.topicFilters.all (·.qos ≤ 2) then packet.topicFilters.map (·.topicName) else []
  | .unsubscribe packet => packet.topicFilters
  | _ => []

variable {topic : String}

theorem topicsToWrite_publish_subset (message : Publish)
    (member : topic ∈ topicsToWrite (.publish message)) : topic = message.topicName := by
  rw [topicsToWrite] at member
  split at member
  · exact List.mem_singleton.mp member
  · cases member

def publishOf (topic : String) : Publish where
  protocolVersion := .v3_1_1
  topicName := topic
  payload := []
  qos := 0
  retain := false
  dup := false
  packetIdentifier := none
  properties := {}
  expiresAtUnixSecs := none

theorem mem_topicsToWrite_publishOf (topic : String) :
    topic ∈ topicsToWrite (.publish (publishOf topic)) :=
  List.mem_singleton_self topic

theorem willOf_topic (header : ConnectVariableHeader) {payload : ConnectPayload} :
    topic ∈ payload.willTopic.toList ↔ ∃ will, willOf header payload = some will ∧
      will.topic = topic := by
  rw [willOf]
  cases payload.willTopic with
  | none => simp
  | some => simp [eq_comm]

theorem exists_written_topic_iff {packet : MqttPacketV3} :
    (∃ written, WrittenOf (packetOfV3 packet) written ∧ topic ∈ topicsToWrite written) ↔
      topic ∈ parsedTopics packet := by
  cases packet
  case connect packet =>
    rw [parsedTopics, willOf_topic packet.variableHeader]
    constructor
    · rintro ⟨written, of, member⟩
      cases of with
      | same => cases member
      | will has copy same =>
        exact ⟨_, has, (same.symm.trans (topicsToWrite_publish_subset copy member).symm)⟩
    · rintro ⟨will, has, rfl⟩
      exact ⟨_, .will has (publishOf will.topic) rfl, mem_topicsToWrite_publishOf _⟩
  case publish packet =>
    rw [parsedTopics, List.mem_singleton]
    constructor
    · rintro ⟨written, of, member⟩
      cases of with
      | same => exact topicsToWrite_publish_subset _ member
      | copy copy same => exact (topicsToWrite_publish_subset copy member).trans same
    · rintro rfl
      exact ⟨_, .copy (publishOf packet.topicName) rfl, mem_topicsToWrite_publishOf _⟩
  case subscribe packet =>
    have topics : topicsToWrite (packetOfV3 (.subscribe packet)) =
        parsedTopics (.subscribe packet) := by
      simp only [packetOfV3, topicsToWrite, List.all_map, List.map_map]
      rfl
    rw [← topics]
    constructor
    · rintro ⟨written, of, member⟩
      cases of with
      | same => exact member
    · exact fun member => ⟨_, .same _, member⟩
  case unsubscribe packet =>
    constructor
    · rintro ⟨written, of, member⟩
      cases of with
      | same => exact member
    · exact fun member => ⟨_, .same _, member⟩
  all_goals
    constructor
    · rintro ⟨_, of, member⟩
      cases of with
      | same => cases member
    · exact fun member => nomatch member

/-! Nothing that is added up in a byte overflows. -/

def SumsFit (packet : MqttPacketV3) : Prop :=
  packet.fixHeader.firstSum < 256 ∧
    ∀ connect, packet = .connect connect → ConnectPacket.flagsSum connect.variableHeader < 256

variable {header : ConnectVariableHeader}

theorem flagsSum_lt (bound : header.willQos ≤ 3) : ConnectPacket.flagsSum header < 256 := by
  have number : header.willQos.toNat ≤ 3 := bound
  have shifted : (header.willQos <<< 3).toNat ≤ 24 := by
    rw [UInt8.toNat_shiftLeft, Nat.shiftLeft_eq]
    change header.willQos.toNat * 2 ^ 3 % 2 ^ 8 ≤ 24
    omega
  have flag : ∀ (set : Bool) (bit : Nat), (if set then bit else 0) ≤ bit := by
    intro set bit
    split <;> omega
  have username := flag header.usernameFlag 0x80
  have password := flag header.passwordFlag 0x40
  have retain := flag header.willRetain 0x20
  have will := flag header.willFlag 0x04
  have clean := flag header.cleanSession 0x02
  simp only [ConnectPacket.flagsSum]
  omega

theorem firstSum_flagless_lt (packetType : PacketType) (remainingLength : Nat) :
    (FixHeader.mk packetType none none none remainingLength).firstSum < 256 := by
  exact UInt8.toNat_lt _

theorem firstSum_built_lt (accepted : message.qos ≤ 2) :
    (built generated message).fixHeader.firstSum < 256 := by
  have number : message.qos.toNat ≤ 2 := accepted
  have qos : (message.qos <<< 1).toNat ≤ 4 := by
    rw [UInt8.toNat_shiftLeft, Nat.shiftLeft_eq]
    change message.qos.toNat * 2 ^ 1 % 2 ^ 8 ≤ 4
    omega
  have dup : ((if message.dup then some (1 : UInt8) else none).getD 0 <<< 3).toNat ≤ 8 := by
    cases message.dup <;> decide
  have retain : (if some message.retain = some true then 1 else 0) ≤ 1 := by
    split <;> omega
  have type : (PacketType.publish.asU8 <<< 4).toNat = 48 := rfl
  change (PacketType.publish.asU8 <<< 4).toNat +
    ((if message.dup then some (1 : UInt8) else none).getD 0 <<< 3).toNat +
    (message.qos <<< 1).toNat + (if some message.retain = some true then 1 else 0) < 256
  omega

theorem willQos_le_of_parse {rest : List UInt8}
    (parsed : ConnectPacket.parseVariableHeader input = .ok (header, rest)) :
    header.willQos ≤ 3 := by
  rcases bind_eq_ok.mp parsed with ⟨_, _, _, parsed⟩
  rcases bind_eq_ok.mp parsed with ⟨_, _, _, parsed⟩
  rcases bind_eq_ok.mp parsed with ⟨flags, _, _, parsed⟩
  rcases bind_eq_ok.mp parsed with ⟨_, _, _, built⟩
  cases built
  change (flags >>> 3 &&& 3).toNat ≤ 3
  exact Nat.and_le_right

variable {packet : ConnectPacket}

theorem willQos_le_of_accepted {used rest : List UInt8}
    (accepted : parse maxMessageSize input = .ok ((used, .connect packet), rest)) :
    packet.variableHeader.willQos ≤ 3 := by
  rcases parse_eq_ok.mp accepted with ⟨header, _, _, parsed, _⟩
  cases typed : header.packetType <;> rw [typed] at parsed <;>
    rcases map_eq_ok.mp parsed with ⟨_, framed, equal⟩ <;> cases equal
  rcases parseFramed_eq_ok.mp framed with ⟨_, _, _, _, _, _, inner, rfl, _⟩
  rcases bind_eq_ok.mp inner with ⟨_, _, first, others⟩
  rcases map_eq_ok.mp others with ⟨_, _, equal⟩
  cases equal
  exact willQos_le_of_parse first

theorem willQos_connectOf_le {connect : Connect} (bound : packet.variableHeader.willQos ≤ 3)
    (converted : packetOfV3 (.connect packet) = .connect connect) :
    (connectOf connect).variableHeader.willQos ≤ 3 := by
  cases converted
  rw [willOf]
  cases packet.payload.willTopic with
  | none =>
    change (0 : UInt8) ≤ 3
    decide
  | some => exact bound

theorem sumsFit_of_written {packet : MqttPacketV3} {written : Packet} {converted : MqttPacketV3}
    (bound : ∀ connect, packet = .connect connect → connect.variableHeader.willQos ≤ 3)
    (of : WrittenOf (packetOfV3 packet) written) (made : tryFrom generated written = .ok converted)
    : SumsFit converted := by
  cases written
  case publish message =>
    rcases tryFrom_publish_eq_ok.mp made with ⟨accepted, _, rfl⟩
    exact ⟨firstSum_built_lt accepted, by simp⟩
  case connect connect =>
    cases made
    constructor
    · exact firstSum_flagless_lt _ _
    · intro other equal
      cases equal
      apply flagsSum_lt
      generalize source : packetOfV3 packet = neutral at of
      cases of
      cases packet <;> cases source
      exact willQos_connectOf_le (bound _ rfl) rfl
  case subscribe subscribe =>
    rw [tryFrom] at made
    cases filters : topicFiltersOf subscribe.topics with
    | error =>
      rw [filters] at made
      cases made
    | ok =>
      rw [filters] at made
      cases made
      exact ⟨firstSum_flagless_lt _ _, by simp⟩
  case auth => cases made
  all_goals
    cases made
    exact ⟨firstSum_flagless_lt _ _, by simp⟩

/-- Neither parsing panics nor writing what was parsed. -/
structure NeverPanics (maxMessageSize : Nat) (input : List UInt8) : Prop where
  parsing : ∀ message, parse maxMessageSize input ≠ .error (.panic message)
  writing : ∀ used packet rest, parse maxMessageSize input = .ok ((used, packet), rest) →
    ∀ written, WrittenOf (packetOfV3 packet) written →
      ∀ generated, ¬ Panics (encodeForV3 generated written)
  adding : ∀ used packet rest, parse maxMessageSize input = .ok ((used, packet), rest) →
    ∀ written, WrittenOf (packetOfV3 packet) written →
      ∀ generated converted, tryFrom generated written = .ok converted → SumsFit converted

/-- The topics of the packet in front, decoded lossily, fit in lengths of two bytes. -/
def TopicsFit (maxMessageSize : Nat) (input : List UInt8) : Prop :=
  ∀ used packet rest, parse maxMessageSize input = .ok ((used, packet), rest) →
    ∀ topic ∈ parsedTopics packet, TopicFits topic

theorem neverPanics_iff (maxMessageSize : Nat) (input : List UInt8) :
    NeverPanics maxMessageSize input ↔ KnownType input ∧ TopicsFit maxMessageSize input := by
  constructor
  · intro never
    constructor
    · by_contra unknown
      rcases parse_panics_iff.mpr unknown with ⟨message, panics⟩
      exact never.parsing message panics
    · intro used packet rest accepted topic member
      by_contra long
      rcases exists_written_topic_iff.mpr member with ⟨written, of, writes⟩
      exact never.writing used packet rest accepted written of 0
        (encodeForV3_panics_iff.mpr ⟨topic, writes, long⟩)
  · rintro ⟨known, fits⟩
    constructor
    · intro message panics
      exact parse_panics_iff.mp ⟨message, panics⟩ known
    · intro used packet rest accepted written of generated panics
      rcases encodeForV3_panics_iff.mp panics with ⟨topic, writes, long⟩
      exact long (fits used packet rest accepted topic
        (exists_written_topic_iff.mp ⟨_, of, writes⟩))
    · intro used packet rest accepted written of generated converted made
      apply sumsFit_of_written _ of made
      rintro connect rfl
      exact willQos_le_of_accepted accepted

/-! A topic of bytes that begin no character becomes three times as long. -/

def invalidTopic : List UInt8 :=
  List.replicate 21846 0xFF

def invalidTopicPublish : List UInt8 :=
  [0x30, 0xD8, 0xAA, 0x01] ++ (beU16 21846 ++ invalidTopic)

theorem parse_invalidTopicPublish : parse 65536 invalidTopicPublish = .ok ((invalidTopicPublish,
      .publish ⟨⟨.publish, some 0, some false, some 0, 21848⟩,
        Utf8.decodeLossy invalidTopic, none, []⟩), []) := by
  have length : (beU16 21846 ++ invalidTopic).length = 21848 := by
    rw [List.length_append, length_beU16, invalidTopic, List.length_replicate]
  have header : FixHeader.parse invalidTopicPublish =
      .ok (⟨.publish, some 0, some false, some 0, 21848⟩, beU16 21846 ++ invalidTopic) := by
    have alone : FixHeader.parse [0x30, 0xD8, 0xAA, 0x01] =
        .ok (⟨.publish, some 0, some false, some 0, 21848⟩, []) := by decide +kernel
    exact FixHeader.streaming_parse.value alone _
  have topic : parseUtf8Complete (beU16 21846 ++ invalidTopic) =
      .ok (Utf8.decodeLossy invalidTopic, []) := by
    have size : (21846 : UInt16).toNat = invalidTopic.length := by
      rw [invalidTopic, List.length_replicate]
      rfl
    have taken := (reads_completeTake invalidTopic).map Utf8.decodeLossy []
    rw [List.append_nil, ← size] at taken
    rw [parseUtf8Complete, (reads_completeU16 21846).bind_apply]
    exact taken
  apply parse_eq_ok.mpr
  refine ⟨_, _, header, ?_, (List.append_nil _).symm⟩
  apply map_eq_ok.mpr
  refine ⟨_, parseFramed_eq_ok.mpr ⟨_, _, ((Utf8.decodeLossy invalidTopic, none), []), [],
    verify_eq_ok.mpr ⟨header, rfl⟩, length.symm.le, ?_, rfl, ?_⟩, rfl⟩
  · rw [List.take_of_length_le length.le, parseBody, parseVariableHeader]
    exact bind_ok (bind_ok topic)
  · rw [List.drop_of_length_le length.le]

theorem unknownType_and_invalidTopic_panic :
    ¬ NeverPanics 65536 [0xF0, 0x00] ∧ ¬ NeverPanics 65536 invalidTopicPublish := by
  constructor
  · intro never
    have panics : parse 65536 [0xF0, 0x00] = .error (.panic "Unknown packet type") := by
      decide +kernel
    exact never.parsing _ panics
  · intro never
    apply never.writing _ _ _ parse_invalidTopicPublish _ (.same _) 0
    apply publish_panics_iff.mpr
    constructor
    · decide
    · intro fits
      have tripled := Utf8.length_encode_replicate 21846
      change (Utf8.encode (Utf8.decodeLossy invalidTopic)).length < 65536 at fits
      rw [invalidTopic] at fits
      omega

end YedMQ.Mqtt.V3
