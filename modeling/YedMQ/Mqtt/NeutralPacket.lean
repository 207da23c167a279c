import YedMQ.Mqtt.Packet

/-! # Packets as the codecs read and write them

The packets of both protocol versions with all their fields. `YedMQ.Packet` keeps of them
what the broker's logic reads.
-/

namespace YedMQ.Mqtt

structure Properties where
  payloadFormatIndicator : Option UInt8 := none
  messageExpiryInterval : Option UInt32 := none
  contentType : Option String := none
  responseTopic : Option String := none
  correlationData : Option (List UInt8) := none
  subscriptionIdentifiers : List UInt32 := []
  sessionExpiryInterval : Option UInt32 := none
  assignedClientIdentifier : Option String := none
  serverKeepAlive : Option UInt16 := none
  authenticationMethod : Option String := none
  authenticationData : Option (List UInt8) := none
  requestProblemInformation : Option Bool := none
  willDelayInterval : Option UInt32 := none
  requestResponseInformation : Option Bool := none
  responseInformation : Option String := none
  serverReference : Option String := none
  reasonString : Option String := none
  receiveMaximum : Option UInt16 := none
  topicAliasMaximum : Option UInt16 := none
  topicAlias : Option UInt16 := none
  maximumQos : Option UInt8 := none
  retainAvailable : Option Bool := none
  userProperties : List (String × String) := []
  maximumPacketSize : Option UInt32 := none
  wildcardSubscriptionAvailable : Option Bool := none
  subscriptionIdentifierAvailable : Option Bool := none
  sharedSubscriptionAvailable : Option Bool := none
deriving DecidableEq, Repr

instance : Inhabited Properties := ⟨{}⟩

structure Will where
  topic : String
  payload : List UInt8
  qos : UInt8
  retain : Bool
  properties : Properties
deriving DecidableEq, Repr

structure Connect where
  protocolVersion : ProtocolVersion
  clientId : String
  username : Option String
  password : Option String
  keepAlive : UInt16
  cleanStart : Bool
  sessionExpiryInterval : Option UInt32
  will : Option Will
  properties : Properties
deriving DecidableEq, Repr

structure Connack where
  protocolVersion : ProtocolVersion
  sessionPresent : Bool
  reasonCode : ReasonCode
  properties : Properties
deriving DecidableEq, Repr

structure Publish where
  protocolVersion : ProtocolVersion
  topicName : String
  payload : List UInt8
  qos : UInt8
  retain : Bool
  dup : Bool
  packetIdentifier : Option UInt16
  properties : Properties
  expiresAtUnixSecs : Option Nat
deriving DecidableEq, Repr

structure Ack where
  protocolVersion : ProtocolVersion
  packetIdentifier : UInt16
  reasonCode : ReasonCode
  properties : Properties
deriving DecidableEq, Repr

structure Subscribe where
  protocolVersion : ProtocolVersion
  packetIdentifier : UInt16
  topics : List SubscribeTopic
  properties : Properties
deriving DecidableEq, Repr

structure Suback where
  protocolVersion : ProtocolVersion
  packetIdentifier : UInt16
  reasonCodes : List ReasonCode
  properties : Properties
deriving DecidableEq, Repr

structure Unsubscribe where
  protocolVersion : ProtocolVersion
  packetIdentifier : UInt16
  topics : List String
  properties : Properties
deriving DecidableEq, Repr

structure Unsuback where
  protocolVersion : ProtocolVersion
  packetIdentifier : UInt16
  reasonCodes : List ReasonCode
  properties : Properties
deriving DecidableEq, Repr

structure Disconnect where
  protocolVersion : ProtocolVersion
  reasonCode : ReasonCode
  sessionExpiryInterval : Option UInt32
  properties : Properties
deriving DecidableEq, Repr

structure Auth where
  reasonCode : ReasonCode
  properties : Properties
deriving DecidableEq, Repr

inductive Packet where
  | connect (connect : Connect)
  | connack (connack : Connack)
  | publish (publish : Publish)
  | puback (ack : Ack)
  | pubrec (ack : Ack)
  | pubrel (ack : Ack)
  | pubcomp (ack : Ack)
  | subscribe (subscribe : Subscribe)
  | suback (suback : Suback)
  | unsubscribe (unsubscribe : Unsubscribe)
  | unsuback (unsuback : Unsuback)
  | pingreq
  | pingresp
  | disconnect (disconnect : Disconnect)
  | auth (auth : Auth)
deriving DecidableEq, Repr

end YedMQ.Mqtt
