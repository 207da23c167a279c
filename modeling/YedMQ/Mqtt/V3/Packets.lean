import YedMQ.Foundation.Utf8
import YedMQ.Mqtt.V3.FixedHeader

/-! # Packets of MQTT 3.1.1

Each packet is parsed with combinators and has two encoders, one that appends to a buffer
and one that makes a buffer of its own. An encoder panics where the source expects a
length to fit.
-/

namespace YedMQ.Mqtt.V3

open Foundation Nom Utf8

/-- A panic, with the message of the expectation that failed. -/
structure Panic where
  message : String
deriving DecidableEq, Repr

/-- A length of two bytes, for a source that expects the length to fit. -/
def expectU16 (length : Nat) (message : String) : Except Panic (List UInt8) :=
  if length < 65536 then .ok (beU16 (UInt16.ofNat length)) else .error ⟨message⟩

/-- A length of two bytes, for a source that casts it: what does not fit is cut off. -/
def castU16 (length : Nat) : List UInt8 :=
  beU16 (UInt16.ofNat length)

/-! ## Texts -/

def parseUtf8 : Nom String := do
  let length ← u16
  decodeLossy <$> take length.toNat

def parseUtf8Complete : Nom String := do
  let length ← completeU16
  decodeLossy <$> completeTake length.toNat

def textBytes (text : String) : List UInt8 :=
  castU16 (encode text).length ++ encode text

def topicBytes (topic : String) : Except Panic (List UInt8) := do
  let length ← expectU16 (encode topic).length "topic name length fits into u16"
  return length ++ encode topic

def TopicFits (topic : String) : Prop :=
  (encode topic).length < 65536

theorem topicBytes_of_fits {topic : String} (fits : TopicFits topic) :
    topicBytes topic = .ok (textBytes topic) := by
  rw [TopicFits] at fits
  rw [topicBytes, expectU16, if_pos fits]
  rfl

theorem topicBytes_of_not_fits {topic : String} (long : ¬ TopicFits topic) :
    topicBytes topic = .error ⟨"topic name length fits into u16"⟩ := by
  rw [TopicFits] at long
  rw [topicBytes, expectU16, if_neg long]
  rfl

/-- A fixed header and the body that it announces, read on its own; what the inner parser
leaves of the body is dropped. -/
def parseFramed {α β : Type} (fixedHeader : Nom FixHeader) (inner : FixHeader → Nom α)
    (build : FixHeader → α → β) : Nom β := do
  let header ← fixedHeader
  let (value, _) ← mapRes (take header.remainingLength) (inner header)
  return build header value

/-! ## CONNECT -/

structure ConnectVariableHeader where
  protocolName : String
  protocolLevel : UInt8
  usernameFlag : Bool
  passwordFlag : Bool
  willRetain : Bool
  willQos : UInt8
  willFlag : Bool
  cleanSession : Bool
  keepAlive : UInt16
deriving DecidableEq, Repr

structure ConnectPayload where
  clientIdentifier : String
  willTopic : Option String
  willMessage : Option String
  username : Option String
  password : Option String
deriving DecidableEq, Repr

structure ConnectPacket where
  fixHeader : FixHeader
  variableHeader : ConnectVariableHeader
  payload : ConnectPayload
deriving DecidableEq, Repr

namespace ConnectPacket

def parseVariableHeader : Nom ConnectVariableHeader := do
  let protocolName ← parseUtf8
  let protocolLevel ← u8
  let flags ← u8
  let keepAlive ← u16
  return {
    protocolName := protocolName
    protocolLevel := protocolLevel
    usernameFlag := flags >>> 7 &&& 1 == 1
    passwordFlag := flags >>> 6 &&& 1 == 1
    willRetain := flags >>> 5 &&& 1 == 1
    willQos := flags >>> 3 &&& 3
    willFlag := flags >>> 2 &&& 1 == 1
    cleanSession := flags >>> 1 &&& 1 == 1
    keepAlive := keepAlive }

def parseIf (flag : Bool) : Nom (Option String) :=
  if flag then some <$> parseUtf8 else pure none

/-- The source has one branch for each combination of the flags. -/
def parsePayload (usernameFlag passwordFlag willFlag : Bool) : Nom ConnectPayload := do
  let clientIdentifier ← parseUtf8
  let willTopic ← parseIf willFlag
  let willMessage ← parseIf willFlag
  let username ← parseIf usernameFlag
  let password ← parseIf passwordFlag
  return ⟨clientIdentifier, willTopic, willMessage, username, password⟩

def parseVariableHeaderAndPayload : Nom (ConnectVariableHeader × ConnectPayload) := do
  let variableHeader ← parseVariableHeader
  let payload ← parsePayload variableHeader.usernameFlag variableHeader.passwordFlag
    variableHeader.willFlag
  return (variableHeader, payload)

def parse : Nom ConnectPacket :=
  parseFramed FixHeader.parse (fun _ => parseVariableHeaderAndPayload)
    fun header (variableHeader, payload) => ⟨header, variableHeader, payload⟩

variable (header : ConnectVariableHeader)

/-- The flags are added up in eight bits, where an overflow wraps around or, in a build that
checks for it, panics. -/
def flagsByte : UInt8 :=
  let flag (set : Bool) (bit : UInt8) : UInt8 := if set then bit else 0
  flag header.usernameFlag 0x80 + flag header.passwordFlag 0x40 + flag header.willRetain 0x20 +
    (header.willQos <<< 3) + flag header.willFlag 0x04 + flag header.cleanSession 0x02

def flagsSum : Nat :=
  let flag (set : Bool) (bit : Nat) : Nat := if set then bit else 0
  flag header.usernameFlag 0x80 + flag header.passwordFlag 0x40 + flag header.willRetain 0x20 +
    (header.willQos <<< 3).toNat + flag header.willFlag 0x04 + flag header.cleanSession 0x02

/-- The protocol level is always the one of this version. -/
def variableHeaderBytes : List UInt8 :=
  textBytes header.protocolName ++ [0x04, flagsByte header] ++ beU16 header.keepAlive

def optionBytes (text : Option String) : List UInt8 :=
  (text.map textBytes).getD []

def payloadBytes (payload : ConnectPayload) : List UInt8 :=
  textBytes payload.clientIdentifier ++ optionBytes payload.willTopic ++
    optionBytes payload.willMessage ++ optionBytes payload.username ++ optionBytes payload.password

def variableHeaderLength : Nat :=
  2 + (encode header.protocolName).length + 2 + 2

def optionLength (text : Option String) : Nat :=
  (text.map fun text => (encode text).length + 2).getD 0

def payloadLength (payload : ConnectPayload) : Nat :=
  (encode payload.clientIdentifier).length + 2 + optionLength payload.willTopic +
    optionLength payload.willMessage + optionLength payload.username +
    optionLength payload.password

def toBytes (packet : ConnectPacket) : List UInt8 :=
  packet.fixHeader.toBytes ++ variableHeaderBytes packet.variableHeader ++
    payloadBytes packet.payload

def encode (packet : ConnectPacket) : List UInt8 :=
  packet.fixHeader.ecnode ++ variableHeaderBytes packet.variableHeader ++
    payloadBytes packet.payload

end ConnectPacket

/-! ## CONNACK -/

structure ConnAckPacket where
  fixHeader : FixHeader
  sessionPresent : Bool
  connectReturnCode : UInt8
deriving DecidableEq, Repr

namespace ConnAckPacket

def parseVariableHeader : Nom (Bool × UInt8) := do
  let flags ← u8
  let returnCode ← u8
  return (flags &&& 1 == 1, returnCode)

def parse : Nom ConnAckPacket :=
  parseFramed FixHeader.parse (fun _ => parseVariableHeader)
    fun header (sessionPresent, returnCode) => ⟨header, sessionPresent, returnCode⟩

variable (packet : ConnAckPacket)

def variableHeaderBytes : List UInt8 :=
  [if packet.sessionPresent then 1 else 0, packet.connectReturnCode]

def toBytes : List UInt8 :=
  packet.fixHeader.toBytes ++ packet.variableHeaderBytes

def encode : List UInt8 :=
  packet.fixHeader.ecnode ++ packet.variableHeaderBytes

end ConnAckPacket

/-! ## PUBLISH -/

structure PublishPacket where
  fixHeader : FixHeader
  topicName : String
  packetIdentifier : Option UInt16
  payload : List UInt8
deriving DecidableEq, Repr

namespace PublishPacket

def parseVariableHeader (qos1Or2 : Bool) : Nom (String × Option UInt16) := do
  let topicName ← parseUtf8Complete
  if qos1Or2 then
    let packetIdentifier ← completeU16
    return (topicName, some packetIdentifier)
  else return (topicName, none)

def parseBody (header : FixHeader) : Nom ((String × Option UInt16) × List UInt8) := do
  let variableHeader ← parseVariableHeader (header.qos == some 1 || header.qos == some 2)
  let payload ← rest
  return (variableHeader, payload)

def parseWithMaxMessageSizeLimit (maxMessageSize : Nat) : Nom PublishPacket :=
  parseFramed (verify FixHeader.parse fun header => header.remainingLength ≤ maxMessageSize)
    parseBody
    fun header ((topicName, packetIdentifier), payload) =>
      ⟨header, topicName, packetIdentifier, payload⟩

def identifierBytes (packetIdentifier : Option UInt16) : List UInt8 :=
  (packetIdentifier.map beU16).getD []

def variableHeaderBytes (topicName : String) (packetIdentifier : Option UInt16) :
    Except Panic (List UInt8) := do
  let topic ← topicBytes topicName
  return topic ++ identifierBytes packetIdentifier

def toBytes (packet : PublishPacket) : Except Panic (List UInt8) := do
  let variableHeader ← variableHeaderBytes packet.topicName packet.packetIdentifier
  return packet.fixHeader.toBytes ++ variableHeader ++ packet.payload

def encode (packet : PublishPacket) : Except Panic (List UInt8) := do
  let variableHeader ← variableHeaderBytes packet.topicName packet.packetIdentifier
  return packet.fixHeader.ecnode ++ variableHeader ++ packet.payload

end PublishPacket

/-! ## Packets of a packet identifier

PUBACK, PUBREC, PUBREL, PUBCOMP and UNSUBACK. -/

structure IdentifierPacket where
  fixHeader : FixHeader
  packetIdentifier : UInt16
deriving DecidableEq, Repr

namespace IdentifierPacket

def ofIdentifier (packetType : PacketType) (packetIdentifier : UInt16) : IdentifierPacket where
  fixHeader := ⟨packetType, none, none, none, 2⟩
  packetIdentifier := packetIdentifier

def parse : Nom IdentifierPacket :=
  parseFramed FixHeader.parse (fun _ => u16) IdentifierPacket.mk

def toBytes (packet : IdentifierPacket) : List UInt8 :=
  packet.fixHeader.toBytes ++ beU16 packet.packetIdentifier

def encode (packet : IdentifierPacket) : List UInt8 :=
  packet.fixHeader.ecnode ++ beU16 packet.packetIdentifier

end IdentifierPacket

def PubAckPacket.new : UInt16 → IdentifierPacket := IdentifierPacket.ofIdentifier .puback
def PubRecPacket.new : UInt16 → IdentifierPacket := IdentifierPacket.ofIdentifier .pubrec
def PubRelPacket.new : UInt16 → IdentifierPacket := IdentifierPacket.ofIdentifier .pubrel
def PubCompPacket.new : UInt16 → IdentifierPacket := IdentifierPacket.ofIdentifier .pubcomp
def UnSubackPacket.new : UInt16 → IdentifierPacket := IdentifierPacket.ofIdentifier .unsuback

/-! ## SUBSCRIBE and UNSUBSCRIBE -/

structure SubscribeTopicFilter where
  topicName : String
  qos : UInt8
deriving DecidableEq, Repr

structure SubscribePacket where
  fixHeader : FixHeader
  packetIdentifier : UInt16
  topicFilters : List SubscribeTopicFilter
deriving DecidableEq, Repr

structure UnsubscribePacket where
  fixHeader : FixHeader
  packetIdentifier : UInt16
  topicFilters : List String
deriving DecidableEq, Repr

def filtersBytes {α : Type} (filterBytes : α → Except Panic (List UInt8)) :
    List α → Except Panic (List UInt8)
  | [] => .ok []
  | filter :: filters => do
    let first ← filterBytes filter
    let others ← filtersBytes filterBytes filters
    return first ++ others

/-- The two bytes of a header that the source makes by hand; the length has to fit in one. -/
def shortHeaderBytes (first : UInt8) (remainingLength : Nat) : Except Panic (List UInt8) :=
  if remainingLength < 256 then .ok [first, UInt8.ofNat remainingLength]
  else .error ⟨"remaining length fits into u8"⟩

namespace SubscribePacket

def parseTopicFilter : Nom SubscribeTopicFilter := do
  let topicName ← parseUtf8Complete
  let qos ← completeU8
  return ⟨topicName, qos⟩

def parseBody : Nom (UInt16 × List SubscribeTopicFilter) := do
  let packetIdentifier ← u16
  let topicFilters ← parseTopicFilter.many0
  return (packetIdentifier, topicFilters)

def parse : Nom SubscribePacket :=
  parseFramed FixHeader.parse (fun _ => parseBody)
    fun header (packetIdentifier, topicFilters) => ⟨header, packetIdentifier, topicFilters⟩

def topicFilterBytes (filter : SubscribeTopicFilter) : Except Panic (List UInt8) := do
  let topic ← topicBytes filter.topicName
  return topic ++ [filter.qos]

def payloadLength (filters : List SubscribeTopicFilter) : Nat :=
  (filters.map fun filter => (encode filter.topicName).length + 2 + 1).sum

def build (packetIdentifier : UInt16) (topicFilters : List SubscribeTopicFilter) :
    SubscribePacket where
  fixHeader := ⟨.subscribe, none, none, none, 2 + payloadLength topicFilters⟩
  packetIdentifier := packetIdentifier
  topicFilters := topicFilters

def toBytes (packet : SubscribePacket) : Except Panic (List UInt8) := do
  let header ← shortHeaderBytes (0x80 + 0x02) packet.fixHeader.remainingLength
  let payload ← filtersBytes topicFilterBytes packet.topicFilters
  return header ++ beU16 packet.packetIdentifier ++ payload

def encode (packet : SubscribePacket) : Except Panic (List UInt8) := do
  let payload ← filtersBytes topicFilterBytes packet.topicFilters
  return packet.fixHeader.ecnode ++ beU16 packet.packetIdentifier ++ payload

end SubscribePacket

namespace UnsubscribePacket

def parseBody : Nom (UInt16 × List String) := do
  let packetIdentifier ← u16
  let topicFilters ← parseUtf8Complete.many0
  return (packetIdentifier, topicFilters)

def parse : Nom UnsubscribePacket :=
  parseFramed FixHeader.parse (fun _ => parseBody)
    fun header (packetIdentifier, topicFilters) => ⟨header, packetIdentifier, topicFilters⟩

def payloadLength (filters : List String) : Nat :=
  (filters.map fun filter => (encode filter).length + 2).sum

def build (packetIdentifier : UInt16) (topicFilters : List String) : UnsubscribePacket where
  fixHeader := ⟨.unsubscribe, none, none, none, 2 + payloadLength topicFilters⟩
  packetIdentifier := packetIdentifier
  topicFilters := topicFilters

def toBytes (packet : UnsubscribePacket) : Except Panic (List UInt8) := do
  let header ← shortHeaderBytes (0xA0 + 0x02) packet.fixHeader.remainingLength
  let payload ← filtersBytes topicBytes packet.topicFilters
  return header ++ beU16 packet.packetIdentifier ++ payload

def encode (packet : UnsubscribePacket) : Except Panic (List UInt8) := do
  let payload ← filtersBytes topicBytes packet.topicFilters
  return packet.fixHeader.ecnode ++ beU16 packet.packetIdentifier ++ payload

end UnsubscribePacket

/-! ## SUBACK -/

inductive ReturnCode where
  | maxQos0
  | maxQos1
  | maxQos2
  | failure
  | invalid
deriving DecidableEq, Repr

namespace ReturnCode

def ofU8 (byte : UInt8) : ReturnCode :=
  if byte = 0x00 then maxQos0
  else if byte = 0x01 then maxQos1
  else if byte = 0x02 then maxQos2
  else if byte = 0x80 then failure
  else invalid

def toBytes : ReturnCode → List UInt8
  | maxQos0 => [0x00]
  | maxQos1 => [0x01]
  | maxQos2 => [0x02]
  | failure => [0x80]
  | invalid => []

end ReturnCode

structure SubackPacket where
  fixHeader : FixHeader
  packetIdentifier : UInt16
  returnCode : List ReturnCode
deriving DecidableEq, Repr

namespace SubackPacket

def new (packetIdentifier : UInt16) (returnCode : List ReturnCode) : SubackPacket where
  fixHeader := ⟨.suback, none, none, none, 2 + returnCode.length⟩
  packetIdentifier := packetIdentifier
  returnCode := returnCode

def parseBody : Nom (UInt16 × List ReturnCode) := do
  let packetIdentifier ← u16
  let codes ← completeU8.many0
  return (packetIdentifier, codes.map ReturnCode.ofU8)

def parse : Nom SubackPacket :=
  parseFramed FixHeader.parse (fun _ => parseBody)
    fun header (packetIdentifier, returnCode) => ⟨header, packetIdentifier, returnCode⟩

def toBytes (packet : SubackPacket) : List UInt8 :=
  packet.fixHeader.toBytes ++ beU16 packet.packetIdentifier ++
    packet.returnCode.flatMap ReturnCode.toBytes

def encode (packet : SubackPacket) : List UInt8 :=
  packet.fixHeader.ecnode ++ beU16 packet.packetIdentifier ++
    packet.returnCode.flatMap ReturnCode.toBytes

end SubackPacket

/-! ## Packets of a fixed header alone

PINGREQ, PINGRESP and DISCONNECT. A body that the header announces is not read. -/

structure HeaderPacket where
  fixHeader : FixHeader
deriving DecidableEq, Repr

namespace HeaderPacket

def ofType (packetType : PacketType) : HeaderPacket where
  fixHeader := ⟨packetType, none, none, none, 0⟩

def parse : Nom HeaderPacket :=
  HeaderPacket.mk <$> FixHeader.parse

def toBytes (packet : HeaderPacket) : List UInt8 :=
  packet.fixHeader.toBytes

def encode (packet : HeaderPacket) : List UInt8 :=
  packet.fixHeader.ecnode

end HeaderPacket

def PingreqPacket.build : HeaderPacket := HeaderPacket.ofType .pingreq
def PingrespPacket.new : HeaderPacket := HeaderPacket.ofType .pingresp

/-! ## All packets -/

inductive MqttPacketV3 where
  | connect (packet : ConnectPacket)
  | connack (packet : ConnAckPacket)
  | publish (packet : PublishPacket)
  | puback (packet : IdentifierPacket)
  | pubrec (packet : IdentifierPacket)
  | pubrel (packet : IdentifierPacket)
  | pubcomp (packet : IdentifierPacket)
  | subscribe (packet : SubscribePacket)
  | suback (packet : SubackPacket)
  | unsubscribe (packet : UnsubscribePacket)
  | unsuback (packet : IdentifierPacket)
  | pingreq (packet : HeaderPacket)
  | pingresp (packet : HeaderPacket)
  | disconnect (packet : HeaderPacket)
deriving DecidableEq, Repr

namespace MqttPacketV3

def fixHeader : MqttPacketV3 → FixHeader
  | connect packet | connack packet | publish packet | puback packet | pubrec packet
  | pubrel packet | pubcomp packet | subscribe packet | suback packet | unsubscribe packet
  | unsuback packet | pingreq packet | pingresp packet | disconnect packet => packet.fixHeader

def encode : MqttPacketV3 → Except Panic (List UInt8)
  | connect packet | connack packet => .ok packet.encode
  | publish packet => packet.encode
  | puback packet | pubrec packet | pubrel packet | pubcomp packet => .ok packet.encode
  | subscribe packet => packet.encode
  | suback packet => .ok packet.encode
  | unsubscribe packet => packet.encode
  | unsuback packet | pingreq packet | pingresp packet | disconnect packet => .ok packet.encode

def toBytes : MqttPacketV3 → Except Panic (List UInt8)
  | connect packet | connack packet => .ok packet.toBytes
  | publish packet => packet.toBytes
  | puback packet | pubrec packet | pubrel packet | pubcomp packet => .ok packet.toBytes
  | subscribe packet => packet.toBytes
  | suback packet => .ok packet.toBytes
  | unsubscribe packet => packet.toBytes
  | unsuback packet | pingreq packet | pingresp packet | disconnect packet => .ok packet.toBytes

def parseOf (maxMessageSize : Nat) : PacketType → Nom MqttPacketV3
  | .connect => connect <$> ConnectPacket.parse
  | .connack => connack <$> ConnAckPacket.parse
  | .publish => publish <$> PublishPacket.parseWithMaxMessageSizeLimit maxMessageSize
  | .puback => puback <$> IdentifierPacket.parse
  | .pubrec => pubrec <$> IdentifierPacket.parse
  | .pubrel => pubrel <$> IdentifierPacket.parse
  | .pubcomp => pubcomp <$> IdentifierPacket.parse
  | .subscribe => subscribe <$> SubscribePacket.parse
  | .suback => suback <$> SubackPacket.parse
  | .unsubscribe => unsubscribe <$> UnsubscribePacket.parse
  | .unsuback => unsuback <$> IdentifierPacket.parse
  | .pingreq => pingreq <$> HeaderPacket.parse
  | .pingresp => pingresp <$> HeaderPacket.parse
  | .disconnect => disconnect <$> HeaderPacket.parse

end MqttPacketV3

/-- A packet together with the bytes that were taken for it. The header is parsed to find
the type, and again with the packet. -/
def parse (maxMessageSize : Nat) : Nom (List UInt8 × MqttPacketV3) := fun input =>
  match FixHeader.parse input with
  | .ok (header, _) => (MqttPacketV3.parseOf maxMessageSize header.packetType).consumed input
  | .error error => .error error

end YedMQ.Mqtt.V3
