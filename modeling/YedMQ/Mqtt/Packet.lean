import Mathlib.Data.UInt

/-! # MQTT packets

The packets that sessions exchange and the topic storage retains, with the fields that
the broker's logic reads. A publication may carry the time at which it expires, in
seconds since the epoch.
-/

namespace YedMQ

inductive ProtocolVersion where
  | v3_1_1
  | v5_0
deriving DecidableEq, Repr

inductive ReasonCode where
  | success
  | grantedQos0
  | grantedQos1
  | grantedQos2
  | normalDisconnection
  | noMatchingSubscribers
  | noSubscriptionExisted
  | continueAuthentication
  | reAuthenticate
  | unspecifiedError
  | malformedPacket
  | protocolError
  | implementationSpecificError
  | unsupportedProtocolVersion
  | clientIdentifierNotValid
  | badUserNameOrPassword
  | notAuthorized
  | serverUnavailable
  | topicFilterInvalid
  | topicNameInvalid
  | packetIdentifierInUse
  | packetIdentifierNotFound
  | packetTooLarge
  | quotaExceeded
  | payloadFormatInvalid
  | retainNotSupported
  | qosNotSupported
  | badAuthenticationMethod
  | sharedSubscriptionsNotSupported
  | subscriptionIdentifiersNotSupported
  | wildcardSubscriptionsNotSupported
deriving DecidableEq, Repr

inductive RetainHandling where
  | sendAtSubscribe
  | sendAtSubscribeIfNew
  | doNotSend
deriving DecidableEq, Repr

structure Publish where
  protocolVersion : ProtocolVersion
  topicName : String
  payload : List UInt8
  qos : UInt8
  retain : Bool
  dup : Bool
  packetIdentifier : Option UInt16
  messageExpiryInterval : Option UInt32
  expiresAtUnixSecs : Option Nat
deriving DecidableEq, Repr

structure Ack where
  protocolVersion : ProtocolVersion
  packetIdentifier : UInt16
  reasonCode : ReasonCode
deriving DecidableEq, Repr

structure SubscribeTopic where
  topicFilter : String
  qos : UInt8
  noLocal : Bool
  retainAsPublished : Bool
  retainHandling : RetainHandling
deriving DecidableEq, Repr

structure Subscribe where
  protocolVersion : ProtocolVersion
  packetIdentifier : UInt16
  topics : List SubscribeTopic
  subscriptionIdentifiers : List UInt32
deriving DecidableEq, Repr

structure Suback where
  protocolVersion : ProtocolVersion
  packetIdentifier : UInt16
  reasonCodes : List ReasonCode
deriving DecidableEq, Repr

structure Unsubscribe where
  protocolVersion : ProtocolVersion
  packetIdentifier : UInt16
  topics : List String
deriving DecidableEq, Repr

structure Unsuback where
  protocolVersion : ProtocolVersion
  packetIdentifier : UInt16
  reasonCodes : List ReasonCode
deriving DecidableEq, Repr

/-- The interval may stand in the packet or among its properties. -/
structure Disconnect where
  protocolVersion : ProtocolVersion
  reasonCode : ReasonCode
  sessionExpiryInterval : Option UInt32
  propertySessionExpiryInterval : Option UInt32
deriving DecidableEq, Repr

inductive Packet where
  | connect
  | connack
  | publish (publish : Publish)
  | puback (ack : Ack)
  | pubrec (ack : Ack)
  | pubrel (ack : Ack)
  | pubcomp (ack : Ack)
  | subscribe (subscribe : Subscribe)
  | suback (suback : Suback)
  | unsubscribe (unsubscribe : Unsubscribe)
  | unsuback (unsuback : Unsuback)
  | pingreq
  | pingresp
  | disconnect (disconnect : Disconnect)
  | auth
deriving DecidableEq, Repr

def Packet.setDup : Packet → Packet
  | publish message => publish { message with dup := true }
  | packet => packet

def saturatingAdd (left right : Nat) : Nat :=
  min (left + right) (2 ^ 64 - 1)

/-! ## Message expiry -/

def Publish.stampExpiry (now : Nat) (publish : Publish) : Publish :=
  match publish.expiresAtUnixSecs, publish.messageExpiryInterval with
  | none, some interval =>
    { publish with expiresAtUnixSecs := some (saturatingAdd now interval.toNat) }
  | _, _ => publish

def Publish.isExpired (now : Nat) (publish : Publish) : Bool :=
  match publish.expiresAtUnixSecs with
  | some expiresAt => expiresAt ≤ now
  | none => false

/-- Bring the remaining lifetime up to date, or give nothing for an expired message. -/
def Publish.prepareForDelivery (protocolVersion : ProtocolVersion) (now : Nat)
    (publish : Publish) : Option Publish :=
  match publish.expiresAtUnixSecs with
  | none => some publish
  | some expiresAt =>
    if expiresAt ≤ now then none
    else if protocolVersion = .v5_0 then
      some { publish with
        messageExpiryInterval := some (UInt32.ofNat (min (expiresAt - now) (2 ^ 32 - 1))) }
    else
      some publish

def Packet.prepareForDelivery (protocolVersion : ProtocolVersion) (now : Nat) :
    Packet → Option Packet
  | .publish message => (message.prepareForDelivery protocolVersion now).map .publish
  | packet => some packet

def Packet.isExpired (now : Nat) : Packet → Bool
  | .publish message => message.isExpired now
  | _ => false

def Packet.routeExpiryAt (routeTtlSeconds now : Nat) : Packet → Nat
  | .publish message =>
    match message.expiresAtUnixSecs with
    | some expiresAt => min expiresAt (saturatingAdd now routeTtlSeconds)
    | none => saturatingAdd now routeTtlSeconds
  | _ => saturatingAdd now routeTtlSeconds

theorem Packet.routeExpiryAt_le_of_isExpired {packet : Packet} {ttl start now : Nat}
    (expired : packet.isExpired now = true) : packet.routeExpiryAt ttl start ≤ now := by
  cases packet with
  | publish =>
    simp only [isExpired, Publish.isExpired] at expired
    simp only [routeExpiryAt]
    split at expired
    · rename_i expiresAt known
      have passed : expiresAt ≤ now := of_decide_eq_true expired
      exact le_trans (min_le_left _ _) passed
    · cases expired
  | _ => cases expired

end YedMQ
