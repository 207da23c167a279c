import YedMQ.Mqtt.V3.Packets

/-! # How many bytes a packet takes

The parsers of most packet types take the body that the fixed header announces, whatever
the packet makes of it. Those of PINGREQ, PINGRESP and DISCONNECT take the fixed header
alone: a body that it announces stays in front of what is parsed next.
-/

namespace YedMQ.Mqtt.V3

open Foundation Nom

def PacketType.takesBody : PacketType → Bool
  | .pingreq => false
  | .pingresp => false
  | .disconnect => false
  | _ => true

def frameLength (input : List UInt8) : Option Nat :=
  match FixHeader.parse input with
  | .ok (header, body) => some (input.length - body.length + header.remainingLength)
  | .error _ => none

/-! ## What is left -/

def leftBehind (header : FixHeader) (body : List UInt8) : List UInt8 :=
  if header.packetType.takesBody then body.drop header.remainingLength else body

theorem FixHeader.takes_parse : FixHeader.parse.Takes := by
  apply takes_u8.bind
  intro first
  cases PacketType.ofU8? (first >>> 4) with
  | none => exact takes_stop _
  | some =>
    apply ((takes_takeWhileMN 0 3 continues).bind _).bind
    · exact fun _ => takes_pure _
    · exact fun _ => (takes_take 1).bind fun _ => takes_pure _

section Framed

variable {α β : Type} {inner : FixHeader → Nom α} {build : FixHeader → α → β}
  {input rest : List UInt8} {packet : β}

variable {fixedHeader : Nom FixHeader}

theorem parseFramed_eq_ok :
    parseFramed fixedHeader inner build input = .ok (packet, rest) ↔
      ∃ header body value dropped, fixedHeader input = .ok (header, body) ∧
        header.remainingLength ≤ body.length ∧
        inner header (body.take header.remainingLength) = .ok (value, dropped) ∧
        packet = build header value ∧ rest = body.drop header.remainingLength := by
  rw [parseFramed, bind_eq_ok]
  constructor
  · rintro ⟨header, body, parsed, others⟩
    rcases bind_eq_ok.mp others with ⟨⟨value, dropped⟩, left, framed, built⟩
    rcases mapRes_eq_ok.mp framed with ⟨_, taken, read⟩
    rw [take] at taken
    split at taken
    · cases taken
    · cases taken
      cases built
      exact ⟨header, body, value, dropped, parsed, by omega, read, rfl, rfl⟩
  · rintro ⟨header, body, value, dropped, parsed, _, read, rfl, rfl⟩
    refine ⟨header, body, parsed, ?_⟩
    apply bind_eq_ok.mpr
    refine ⟨(value, dropped), body.drop header.remainingLength, ?_, rfl⟩
    apply mapRes_eq_ok.mpr
    refine ⟨body.take header.remainingLength, ?_, read⟩
    rw [take, if_neg (by omega)]

theorem takes_parseFramed (takes : fixedHeader.Takes) (inner : FixHeader → Nom α)
    (build : FixHeader → α → β) :
    (parseFramed fixedHeader inner build).Takes := by
  apply takes.bind
  intro header
  apply ((takes_take _).mapRes _).bind
  exact fun _ => takes_pure _

end Framed

theorem takes_parseOf (maxMessageSize : Nat) (packetType : PacketType) :
    (MqttPacketV3.parseOf maxMessageSize packetType).Takes := by
  have header := FixHeader.takes_parse
  cases packetType
  case publish => exact (takes_parseFramed (header.verify _) _ _).map _
  case pingreq | pingresp | disconnect => exact (header.map _).map _
  all_goals exact (takes_parseFramed header _ _).map _

variable {maxMessageSize : Nat} {input : List UInt8} {packet : MqttPacketV3}

theorem parseOf_leaves {body rest : List UInt8} {header : FixHeader}
    (parsed : FixHeader.parse input = .ok (header, body))
    (accepted : MqttPacketV3.parseOf maxMessageSize header.packetType input = .ok (packet, rest)) :
    rest = leftBehind header body ∧
      (header.packetType.takesBody → header.remainingLength ≤ body.length) := by
  have framed : ∀ {α β : Type} {inner : FixHeader → Nom α} {build : FixHeader → α → β} {found : β},
      parseFramed FixHeader.parse inner build input = .ok (found, rest) →
      rest = body.drop header.remainingLength ∧ header.remainingLength ≤ body.length := by
    intro α β inner build found equal
    rcases parseFramed_eq_ok.mp equal with ⟨other, left, value, dropped, again, fits, _, _, rfl⟩
    rw [parsed] at again
    cases again
    exact ⟨rfl, fits⟩
  rw [leftBehind]
  -- the parser is chosen by the type, so the cases are those of the type
  cases typed : header.packetType <;> rw [typed] at accepted <;>
    rcases map_eq_ok.mp accepted with ⟨_, equal, _⟩
  case publish =>
    rcases parseFramed_eq_ok.mp equal with ⟨other, _, _, _, again, fits, _, _, rfl⟩
    rw [(verify_eq_ok.mp again).1] at parsed
    cases parsed
    exact ⟨rfl, fun _ => fits⟩
  case pingreq | pingresp | disconnect =>
    rcases map_eq_ok.mp equal with ⟨_, again, _⟩
    rw [parsed] at again
    cases again
    exact ⟨rfl, fun takes => nomatch takes⟩
  all_goals exact ⟨(framed equal).1, fun _ => (framed equal).2⟩

/-! ## Frames -/

def BodylessAnnounceNothing (input : List UInt8) : Prop :=
  ∀ header body, FixHeader.parse input = .ok (header, body) →
    header.packetType.takesBody = false → header.remainingLength = 0

/-- A packet that is accepted, taken apart: its header, and the bytes used for it. -/
theorem parse_eq_ok {used rest : List UInt8} :
    parse maxMessageSize input = .ok ((used, packet), rest) ↔
      ∃ header body, FixHeader.parse input = .ok (header, body) ∧
        MqttPacketV3.parseOf maxMessageSize header.packetType input = .ok (packet, rest) ∧
        input = used ++ rest := by
  rw [parse]
  cases parsed : FixHeader.parse input with
  | error => simp
  | ok found =>
    obtain ⟨header, body⟩ := found
    simp only [consumed_eq_ok (takes_parseOf maxMessageSize header.packetType),
      Except.ok.injEq, Prod.mk.injEq]
    constructor
    · rintro ⟨equal, split⟩
      exact ⟨header, body, ⟨rfl, rfl⟩, equal, split⟩
    · rintro ⟨_, _, ⟨rfl, rfl⟩, equal, split⟩
      exact ⟨equal, split⟩

/-- The bytes consumed for a packet are those of its frame exactly when no PINGREQ,
PINGRESP or DISCONNECT header announces a body. -/
theorem used_eq_frame_iff {maxMessageSize : Nat} {input used rest : List UInt8}
    {packet : MqttPacketV3} (accepted : parse maxMessageSize input = .ok ((used, packet), rest)) :
    frameLength input = some used.length ↔ BodylessAnnounceNothing input := by
  rcases parse_eq_ok.mp accepted with ⟨header, body, parsed, equal, split⟩
  have length : used.length = input.length - rest.length := by
    rw [split, List.length_append]
    omega
  have leaves := parseOf_leaves parsed equal
  rcases FixHeader.takes_parse input header body parsed with ⟨front, rfl⟩
  have announces : BodylessAnnounceNothing (front ++ body) ↔
      (header.packetType.takesBody = false → header.remainingLength = 0) := by
    constructor
    · exact fun condition => condition header body parsed
    · intro condition other left again
      rw [parsed] at again
      cases again
      exact condition
  rw [announces, frameLength, parsed, length, leaves.1, leftBehind]
  cases takes : header.packetType.takesBody with
  | true =>
    have fits := leaves.2 takes
    simp only [List.length_append, if_true, List.length_drop, Option.some.injEq]
    constructor
    · exact fun _ never => nomatch never
    · omega
  | false =>
    simp only [Option.some.injEq, Bool.false_eq_true, if_false, true_implies]
    omega

/-- A PUBACK is taken with its body, whatever stands behind it. -/
theorem puback_used_eq_frame :
    parse 10 [0x40, 0x02, 0x00, 0x0A, 0xC0] = .ok (([0x40, 0x02, 0x00, 0x0A],
          .puback ⟨⟨.puback, none, none, some 0, 2⟩, 10⟩), [0xC0]) ∧
      frameLength [0x40, 0x02, 0x00, 0x0A, 0xC0] = some 4 := by
  have accepted : parse 10 [0x40, 0x02, 0x00, 0x0A, 0xC0] =
      .ok (([0x40, 0x02, 0x00, 0x0A], .puback ⟨⟨.puback, none, none, some 0, 2⟩, 10⟩), [0xC0]) := by
    decide +kernel
  refine ⟨accepted, (used_eq_frame_iff accepted).mpr ?_⟩
  intro header body parsed takes
  have known : FixHeader.parse [0x40, 0x02, 0x00, 0x0A, 0xC0] =
      .ok (⟨.puback, none, none, some 0, 2⟩, [0x00, 0x0A, 0xC0]) := by decide +kernel
  cases parsed
  cases takes

/-- The body of a DISCONNECT is left in front, and read as the PINGREQ that it spells. -/
theorem disconnect_body_parsed_next :
    frameLength [0xE0, 0x02, 0xC0, 0x00] = some 4 ∧ parse 10 [0xE0, 0x02, 0xC0, 0x00] =
        .ok (([0xE0, 0x02], .disconnect ⟨⟨.disconnect, none, none, none, 2⟩⟩), [0xC0, 0x00]) ∧
      parse 10 [0xC0, 0x00] =
        .ok (([0xC0, 0x00], .pingreq ⟨⟨.pingreq, none, none, none, 0⟩⟩), []) := by
  decide +kernel

end YedMQ.Mqtt.V3
