import YedMQ.Foundation.Nom

/-! # Fixed headers of MQTT 3.1.1 -/

namespace YedMQ.Mqtt.V3

open Foundation

inductive PacketType where
  | connect
  | connack
  | publish
  | puback
  | pubrec
  | pubrel
  | pubcomp
  | subscribe
  | suback
  | unsubscribe
  | unsuback
  | pingreq
  | pingresp
  | disconnect
deriving DecidableEq, Repr

namespace PacketType

def asU8 : PacketType → UInt8
  | connect => 1
  | connack => 2
  | publish => 3
  | puback => 4
  | pubrec => 5
  | pubrel => 6
  | pubcomp => 7
  | subscribe => 8
  | suback => 9
  | unsubscribe => 10
  | unsuback => 11
  | pingreq => 12
  | pingresp => 13
  | disconnect => 14

def ofU8? (number : UInt8) : Option PacketType :=
  match number.toNat with
  | 1 => some connect
  | 2 => some connack
  | 3 => some publish
  | 4 => some puback
  | 5 => some pubrec
  | 6 => some pubrel
  | 7 => some pubcomp
  | 8 => some subscribe
  | 9 => some suback
  | 10 => some unsubscribe
  | 11 => some unsuback
  | 12 => some pingreq
  | 13 => some pingresp
  | 14 => some disconnect
  | _ => none

def hasFlags (packetType : PacketType) : Bool :=
  packetType = publish || packetType = pubrel || packetType = puback ||
    packetType = pubcomp || packetType = pubrec

end PacketType

/-- The flags are kept for some packet types only. -/
structure FixHeader where
  packetType : PacketType
  qos : Option UInt8
  retain : Option Bool
  dup : Option UInt8
  remainingLength : Nat
deriving DecidableEq, Repr

namespace FixHeader

/-! ## Parsing -/

def addBytes (start : Nat × Nat) (bytes : List UInt8) : Nat × Nat :=
  bytes.foldl (fun (value, multiplier) byte =>
    (value + sevenBits byte * multiplier, multiplier * 128)) start

/-- Up to three bytes that announce another one, and the byte after them. Whether that byte
announces another one does not matter. -/
def parseRemainingLength : Nom Nat := do
  let length ← Nom.takeWhileMN 0 3 continues
  let last ← Nom.take 1
  return (addBytes (addBytes (0, 1) length) last).1

def ofFirstByte (packetType : PacketType) (first : UInt8) (remainingLength : Nat) : FixHeader where
  packetType := packetType
  qos := if packetType = .publish then some (first >>> 1 &&& 3) else none
  retain := if packetType = .publish then some (first &&& 1 == 1) else none
  dup := if packetType.hasFlags then some (first >>> 3 &&& 1) else none
  remainingLength := remainingLength

def parse : Nom FixHeader := do
  let first ← Nom.u8
  match PacketType.ofU8? (first >>> 4) with
  | none => Nom.stop (.panic "Unknown packet type")
  | some packetType =>
    let remainingLength ← parseRemainingLength
    return ofFirstByte packetType first remainingLength

/-! ## Encoding -/

variable (header : FixHeader)

def firstByte : UInt8 :=
  if header.packetType.hasFlags then
    (header.packetType.asU8 <<< 4) + (header.dup.getD 0 <<< 3) + (header.qos.getD 0 <<< 1) +
      (if header.retain = some true then 1 else 0)
  else header.packetType.asU8 <<< 4

def firstSum : Nat :=
  (header.packetType.asU8 <<< 4).toNat + (header.dup.getD 0 <<< 3).toNat +
    (header.qos.getD 0 <<< 1).toNat + (if header.retain = some true then 1 else 0)

/-- The name is the source's. -/
def ecnode : List UInt8 :=
  header.firstByte :: variableBytes header.remainingLength

def toBytes : List UInt8 :=
  header.firstByte :: variableBytes header.remainingLength

end FixHeader

/-! ## What a header parser takes -/

namespace FixHeader

theorem parse_cons (first : UInt8) (rest : List UInt8) :
    parse (first :: rest) = (match PacketType.ofU8? (first >>> 4) with
      | none => Nom.stop (.panic "Unknown packet type")
      | some packetType => do
        let remainingLength ← parseRemainingLength
        return ofFirstByte packetType first remainingLength : Nom FixHeader) rest :=
  Nom.bind_ok rfl

theorem streaming_parseRemainingLength : parseRemainingLength.Streaming := by
  apply (Nom.streaming_takeWhileMN 3 continues).bind
  intro length
  apply (Nom.streaming_take 1).bind
  intro last
  exact Nom.streaming_pure _

theorem streaming_parse : parse.Streaming := by
  apply Nom.streaming_u8.bind
  intro first
  cases PacketType.ofU8? (first >>> 4) with
  | none => exact Nom.streaming_stop _
  | some =>
    apply streaming_parseRemainingLength.bind
    intro remainingLength
    exact Nom.streaming_pure _

end FixHeader

end YedMQ.Mqtt.V3
