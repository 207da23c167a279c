import YedMQ.Mqtt.NeutralPacket
import YedMQ.Mqtt.V3.Packets

/-! # Between the packets of MQTT 3.1.1 and neutral packets

A packet that was parsed becomes a neutral packet, and a neutral packet becomes one of
MQTT 3.1.1 again before it is written to a client.
-/

namespace YedMQ.Mqtt.V3

open Foundation PublishPacket

inductive PacketConversionError where
  | unsupportedPacketForMqtt3 (packet : String)
  | invalidQos (qos : UInt8)
deriving DecidableEq, Repr

namespace PacketConversionError

def message : PacketConversionError → String
  | unsupportedPacketForMqtt3 packet => packet ++ " cannot be encoded as MQTT v3.1.1"
  | invalidQos qos => "invalid QoS " ++ toString qos.toNat

end PacketConversionError

/-- What keeps a neutral packet from being converted. -/
inductive ConversionFailure where
  | refused (error : PacketConversionError)
  | panic (panic : Panic)
deriving DecidableEq, Repr

/-- What keeps a neutral packet from being written. -/
inductive WriteFailure where
  | packetParseError (message : String)
  | panic (panic : Panic)
deriving DecidableEq, Repr

def ConversionFailure.toWriteFailure : ConversionFailure → WriteFailure
  | refused error => .packetParseError error.message
  | panic found => .panic found

/-! ## Codes -/

def v3ConnackReturnCodeToReason (returnCode : UInt8) : ReasonCode :=
  if returnCode = 0x00 then .success
  else if returnCode = 0x01 then .unsupportedProtocolVersion
  else if returnCode = 0x02 then .clientIdentifierNotValid
  else if returnCode = 0x04 then .badUserNameOrPassword
  else if returnCode = 0x05 then .notAuthorized
  else .serverUnavailable

inductive ConnackReturnCode where
  | accept
  | unsupportedProtocolVersion
  | invalidClientIdentifier
  | serverUnavailable
  | invalidUsernameOrPassword
  | unAuthorized
deriving DecidableEq, Repr

namespace ConnackReturnCode

def asU8 : ConnackReturnCode → UInt8
  | accept => 0x00
  | unsupportedProtocolVersion => 0x01
  | invalidClientIdentifier => 0x02
  | serverUnavailable => 0x03
  | invalidUsernameOrPassword => 0x04
  | unAuthorized => 0x05

end ConnackReturnCode

def reasonToV3ConnackReturnCode : ReasonCode → ConnackReturnCode
  | .success | .grantedQos0 | .normalDisconnection => .accept
  | .unsupportedProtocolVersion => .unsupportedProtocolVersion
  | .clientIdentifierNotValid => .invalidClientIdentifier
  | .badUserNameOrPassword => .invalidUsernameOrPassword
  | .notAuthorized => .unAuthorized
  | _ => .serverUnavailable

def v3SubackReturnCodeToReason : ReturnCode → ReasonCode
  | .maxQos0 => .grantedQos0
  | .maxQos1 => .grantedQos1
  | .maxQos2 => .grantedQos2
  | .failure | .invalid => .unspecifiedError

def reasonToV3SubackReturnCode : ReasonCode → ReturnCode
  | .success => .maxQos0
  | .grantedQos0 => .maxQos0
  | .grantedQos1 => .maxQos1
  | .grantedQos2 => .maxQos2
  | _ => .failure

/-! ## Neutral packets of parsed ones -/

def v3Ack (packetIdentifier : UInt16) : Ack where
  protocolVersion := .v3_1_1
  packetIdentifier := packetIdentifier
  reasonCode := .success
  properties := {}

def willOf (header : ConnectVariableHeader) (payload : ConnectPayload) : Option Will :=
  payload.willTopic.map fun topic => {
    topic := topic
    payload := Utf8.encode (payload.willMessage.getD "")
    qos := header.willQos
    retain := header.willRetain
    properties := {} }

def packetOfV3 : MqttPacketV3 → Packet
  | .connect packet => .connect {
      protocolVersion := .v3_1_1
      clientId := packet.payload.clientIdentifier
      username := packet.payload.username
      password := packet.payload.password
      keepAlive := packet.variableHeader.keepAlive
      cleanStart := packet.variableHeader.cleanSession
      sessionExpiryInterval := none
      will := willOf packet.variableHeader packet.payload
      properties := {} }
  | .connack packet => .connack {
      protocolVersion := .v3_1_1
      sessionPresent := packet.sessionPresent
      reasonCode := v3ConnackReturnCodeToReason packet.connectReturnCode
      properties := {} }
  | .publish packet => .publish {
      protocolVersion := .v3_1_1
      topicName := packet.topicName
      payload := packet.payload
      qos := packet.fixHeader.qos.getD 0
      retain := packet.fixHeader.retain.getD false
      dup := packet.fixHeader.dup.getD 0 == 1
      packetIdentifier := packet.packetIdentifier
      properties := {}
      expiresAtUnixSecs := none }
  | .puback packet => .puback (v3Ack packet.packetIdentifier)
  | .pubrec packet => .pubrec (v3Ack packet.packetIdentifier)
  | .pubrel packet => .pubrel (v3Ack packet.packetIdentifier)
  | .pubcomp packet => .pubcomp (v3Ack packet.packetIdentifier)
  | .subscribe packet => .subscribe {
      protocolVersion := .v3_1_1
      packetIdentifier := packet.packetIdentifier
      topics := packet.topicFilters.map fun topic =>
        ⟨topic.topicName, topic.qos, false, false, .sendAtSubscribe⟩
      properties := {} }
  | .suback packet => .suback {
      protocolVersion := .v3_1_1
      packetIdentifier := packet.packetIdentifier
      reasonCodes := packet.returnCode.map v3SubackReturnCodeToReason
      properties := {} }
  | .unsubscribe packet => .unsubscribe {
      protocolVersion := .v3_1_1
      packetIdentifier := packet.packetIdentifier
      topics := packet.topicFilters
      properties := {} }
  | .unsuback packet => .unsuback {
      protocolVersion := .v3_1_1
      packetIdentifier := packet.packetIdentifier
      reasonCodes := [.success]
      properties := {} }
  | .pingreq _ => .pingreq
  | .pingresp _ => .pingresp
  | .disconnect _ => .disconnect {
      protocolVersion := .v3_1_1
      reasonCode := .normalDisconnection
      sessionExpiryInterval := none
      properties := {} }

/-! ## Packets of neutral ones -/

def validateQos (qos : UInt8) : Except PacketConversionError Unit :=
  if qos ≤ 2 then .ok () else .error (.invalidQos qos)

structure WillMsg where
  willTopic : String
  willMessage : String
  willQos : UInt8
  willRetain : Bool

def ConnectPacket.build (clientIdentifier : String) (keepAlive : UInt16) (cleanSession : Bool)
    (will : Option WillMsg) (username password : Option String) : ConnectPacket :=
  let variableHeader : ConnectVariableHeader := {
    protocolName := "MQTT"
    protocolLevel := 0x04
    usernameFlag := username.isSome
    passwordFlag := password.isSome
    willRetain := (will.map WillMsg.willRetain).getD false
    willQos := (will.map WillMsg.willQos).getD 0
    willFlag := will.isSome
    cleanSession := cleanSession
    keepAlive := keepAlive }
  let payload : ConnectPayload := {
    clientIdentifier := clientIdentifier
    willTopic := will.map WillMsg.willTopic
    willMessage := will.map WillMsg.willMessage
    username := username
    password := password }
  { fixHeader := ⟨.connect, none, none, none,
      variableHeaderLength variableHeader + payloadLength payload⟩
    variableHeader := variableHeader
    payload := payload }

def ConnAckPacket.build (sessionPresent : Bool) (returnCode : ConnackReturnCode) :
    ConnAckPacket where
  fixHeader := ⟨.connack, none, none, none, 2⟩
  sessionPresent := sessionPresent
  connectReturnCode := returnCode.asU8

variable (generated : UInt16)

def PublishPacket.identifierFor (message : Publish) : Option UInt16 :=
  if 0 < message.qos then some (message.packetIdentifier.getD generated) else none

/-- The length is that of the encoded header, so that building panics where encoding does. -/
def PublishPacket.build (message : Publish) : Except Panic PublishPacket := do
  let packetIdentifier := identifierFor generated message
  let variableHeader ← variableHeaderBytes message.topicName packetIdentifier
  return {
    fixHeader := ⟨.publish, some message.qos, some message.retain,
      if message.dup then some 1 else none, variableHeader.length + message.payload.length⟩
    topicName := message.topicName
    packetIdentifier := packetIdentifier
    payload := message.payload }

def PublishPacket.built (message : Publish) : PublishPacket where
  fixHeader := ⟨.publish, some message.qos, some message.retain,
    if message.dup then some 1 else none,
    (textBytes message.topicName ++
      identifierBytes (identifierFor generated message)).length + message.payload.length⟩
  topicName := message.topicName
  packetIdentifier := identifierFor generated message
  payload := message.payload

variable {generated : UInt16} {message : Publish}

theorem PublishPacket.build_of_fits (fits : TopicFits message.topicName) :
    build generated message = .ok (built generated message) := by
  rw [build, variableHeaderBytes, topicBytes_of_fits fits]
  rfl

def topicFiltersOf : List SubscribeTopic → Except PacketConversionError (List SubscribeTopicFilter)
  | [] => .ok []
  | topic :: topics => do
    validateQos topic.qos
    let filters ← topicFiltersOf topics
    return ⟨topic.topicFilter, topic.qos⟩ :: filters

def willMsgOf (will : Will) : WillMsg :=
  ⟨will.topic, Utf8.decodeLossy will.payload, will.qos, will.retain⟩

def connectOf (connect : Connect) : ConnectPacket :=
  ConnectPacket.build connect.clientId connect.keepAlive connect.cleanStart
    (connect.will.map willMsgOf) connect.username connect.password

def tryFrom (generated : UInt16) : Packet → Except ConversionFailure MqttPacketV3
  | .connect connect => .ok (.connect (connectOf connect))
  | .connack connack =>
    .ok (.connack (ConnAckPacket.build connack.sessionPresent
      (reasonToV3ConnackReturnCode connack.reasonCode)))
  | .publish message => do
    (validateQos message.qos).mapError .refused
    let packet ← (build generated message).mapError .panic
    return .publish packet
  | .puback ack => .ok (.puback (PubAckPacket.new ack.packetIdentifier))
  | .pubrec ack => .ok (.pubrec (PubRecPacket.new ack.packetIdentifier))
  | .pubrel ack => .ok (.pubrel (PubRelPacket.new ack.packetIdentifier))
  | .pubcomp ack => .ok (.pubcomp (PubCompPacket.new ack.packetIdentifier))
  | .subscribe subscribe => do
    let filters ← (topicFiltersOf subscribe.topics).mapError .refused
    return .subscribe (SubscribePacket.build subscribe.packetIdentifier filters)
  | .suback suback =>
    .ok (.suback (SubackPacket.new suback.packetIdentifier
      (suback.reasonCodes.map reasonToV3SubackReturnCode)))
  | .unsubscribe unsubscribe =>
    .ok (.unsubscribe (UnsubscribePacket.build unsubscribe.packetIdentifier unsubscribe.topics))
  | .unsuback unsuback => .ok (.unsuback (UnSubackPacket.new unsuback.packetIdentifier))
  | .pingreq => .ok (.pingreq PingreqPacket.build)
  | .pingresp => .ok (.pingresp PingrespPacket.new)
  | .disconnect _ => .ok (.disconnect (HeaderPacket.ofType .disconnect))
  | .auth _ => .error (.refused (.unsupportedPacketForMqtt3 "AUTH"))

/-- A PUBLISH is converted if its quality of service is known and its topic fits. -/
theorem tryFrom_publish_eq_ok {packet : MqttPacketV3} :
    tryFrom generated (.publish message) = .ok packet ↔
      message.qos ≤ 2 ∧ TopicFits message.topicName ∧
        packet = .publish (built generated message) := by
  rw [tryFrom, validateQos]
  by_cases accepted : message.qos ≤ 2
  · rw [if_pos accepted]
    by_cases fits : TopicFits message.topicName
    · rw [build_of_fits fits]
      constructor
      · intro equal
        cases equal
        exact ⟨accepted, fits, rfl⟩
      · rintro ⟨_, _, rfl⟩
        rfl
    · rw [build, variableHeaderBytes, topicBytes_of_not_fits fits]
      constructor
      · intro equal
        cases equal
      · exact fun all => absurd all.2.1 fits
  · rw [if_neg accepted]
    constructor
    · intro equal
      cases equal
    · exact fun all => absurd all.1 accepted

def encodeForV3 (generated : UInt16) (packet : Packet) : Except WriteFailure (List UInt8) := do
  let converted ← (tryFrom generated packet).mapError ConversionFailure.toWriteFailure
  converted.encode.mapError .panic

end YedMQ.Mqtt.V3
