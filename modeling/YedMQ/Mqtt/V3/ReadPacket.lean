import YedMQ.Mqtt.V3.RoundTrip

/-! # Reading packets from a connection

Packets are parsed off a buffer, to which every read of the connection adds. However the
network cuts the bytes of a client into reads, the same packets come out.
-/

namespace YedMQ.Mqtt.V3

open Foundation Nom PublishPacket

inductive ReadError where
  | maxMessageSizeExceeded (message : String)
  | packetParseError (message : String)
  | connectionClosed
  | io (message : String)
  | panic (message : String)
deriving DecidableEq

def unparsed {α : Type} : Err → Except ReadError (Option α)
  | .incomplete => .ok none
  | .error .verify =>
    .error (.maxMessageSizeExceeded "Message size exceeds maximum allowed size of the system.")
  | .error _ => .error (.packetParseError "Invalid MQTT v3 packet")
  | .panic message => .error (.panic message)

variable (maxMessageSize : Nat)

/-- A packet and the number of its bytes, or nothing as long as bytes are missing. -/
def tryParseV3Packet (buffer : List UInt8) : Except ReadError (Option (Nat × Packet)) :=
  match parse maxMessageSize buffer with
  | .ok ((consumedBytes, packet), _) => .ok (some (consumedBytes.length, packetOfV3 packet))
  | .error error => unparsed error

/-! ## Parsing what arrives in parts -/

theorem streaming_parseFramed {α β : Type} {fixedHeader : Nom FixHeader}
    (streaming : fixedHeader.Streaming) (inner : FixHeader → Nom α) (build : FixHeader → α → β) :
    (parseFramed fixedHeader inner build).Streaming := by
  apply streaming.bind
  intro header
  apply ((streaming_take _).mapRes _).bind
  exact fun _ => streaming_pure _

theorem streaming_parseOf (packetType : PacketType) :
    (MqttPacketV3.parseOf maxMessageSize packetType).Streaming := by
  have header := FixHeader.streaming_parse
  cases packetType
  case publish => exact (streaming_parseFramed (header.verify _) _ _).map _
  case pingreq | pingresp | disconnect => exact (header.map _).map _
  all_goals exact (streaming_parseFramed header _ _).map _

theorem streaming_parse : (parse maxMessageSize).Streaming where
  value := by
    intro input found rest accepted more
    rcases parse_eq_ok.mp accepted with ⟨header, body, parsed, equal, rfl⟩
    exact parse_eq_ok.mpr ⟨header, body ++ more, FixHeader.streaming_parse.value parsed more,
      (streaming_parseOf _ _).value equal more, List.append_assoc _ _ _⟩
  error := by
    intro input error failed known more
    rw [parse] at failed ⊢
    cases parsed : FixHeader.parse input with
    | error =>
      rw [parsed] at failed
      cases failed
      rw [FixHeader.streaming_parse.error parsed known more]
    | ok found =>
      rw [parsed] at failed
      rw [FixHeader.streaming_parse.value parsed more]
      simp only [consumed] at failed ⊢
      split at failed
      · cases failed
      · rename_i stopped
        cases failed
        rw [(streaming_parseOf _ _).error stopped known more]

variable {maxMessageSize} {buffer : List UInt8}

theorem tryParseV3Packet_append (decided : tryParseV3Packet maxMessageSize buffer ≠ .ok none)
    (more : List UInt8) :
    tryParseV3Packet maxMessageSize (buffer ++ more) = tryParseV3Packet maxMessageSize buffer := by
  rw [tryParseV3Packet] at decided
  rw [tryParseV3Packet, tryParseV3Packet]
  cases parsed : parse maxMessageSize buffer with
  | ok => rw [(streaming_parse _).value parsed more]
  | error =>
    rw [parsed] at decided
    rw [(streaming_parse _).error parsed _ more]
    rintro rfl
    exact decided rfl

theorem FixHeader.length_lt_of_parse {header : FixHeader} {body : List UInt8}
    (parsed : FixHeader.parse buffer = .ok (header, body)) : body.length < buffer.length := by
  rcases bind_eq_ok.mp parsed with ⟨first, tail, taken, others⟩
  have remaining : parseRemainingLength.Takes :=
    (takes_takeWhileMN 0 3 continues).bind fun _ => (takes_take 1).bind fun _ => takes_pure _
  unfold u8 at taken
  split at taken <;> cases taken
  cases known : PacketType.ofU8? (first >>> 4) with
  | none =>
    rw [known] at others
    cases others
  | some =>
    rw [known] at others
    rcases (remaining.bind fun _ => takes_pure _) tail header body others with ⟨_, rfl⟩
    simp only [List.length_cons, List.length_append]
    omega

theorem consumedLen_bounds {consumedLen : Nat} {packet : Packet}
    (parsed : tryParseV3Packet maxMessageSize buffer = .ok (some (consumedLen, packet))) :
    0 < consumedLen ∧ consumedLen ≤ buffer.length := by
  rw [tryParseV3Packet] at parsed
  split at parsed
  · rename_i accepted
    rcases parse_eq_ok.mp accepted with ⟨header, body, framed, equal, split⟩
    cases parsed
    have shorter := FixHeader.length_lt_of_parse framed
    have left : (leftBehind header body).length ≤ body.length := by
      rw [leftBehind]
      split <;> simp
    rw [← (parseOf_leaves framed equal).1] at left
    rw [split, List.length_append] at shorter ⊢
    omega
  · unfold unparsed at parsed
    split at parsed <;> cases parsed

/-! ## Reading -/

variable (maxMessageSize) in
/-- `read_packet`, called until it fails: the packets that it returns and its error. There is none
while it waits for another read. -/
def readPackets (buffer : List UInt8) (reads : List (Except String (List UInt8))) :
    List Packet × Option ReadError :=
  match _ : tryParseV3Packet maxMessageSize buffer with
  | .error error => ([], some error)
  | .ok (some (consumedLen, packet)) =>
    let (packets, error) := readPackets (buffer.drop consumedLen) reads
    (packet :: packets, error)
  | .ok none =>
    match reads with
    | [] => ([], none)
    | .error message :: _ => ([], some (.io message))
    | .ok arrived :: reads =>
      if arrived = [] then ([], some .connectionClosed) else readPackets (buffer ++ arrived) reads
termination_by (reads.length, buffer.length)
decreasing_by
  · have bounds := consumedLen_bounds ‹_›
    apply Prod.Lex.right
    rw [List.length_drop]
    omega
  · apply Prod.Lex.left
    simp

variable (reads : List (Except String (List UInt8)))

theorem readPackets_of_error {error : ReadError}
    (wrong : tryParseV3Packet maxMessageSize buffer = .error error) :
    readPackets maxMessageSize buffer reads = ([], some error) := by
  rw [readPackets.eq_def]
  split <;> simp_all

theorem readPackets_of_packet {consumedLen : Nat} {packet : Packet}
    (parsed : tryParseV3Packet maxMessageSize buffer = .ok (some (consumedLen, packet))) :
    readPackets maxMessageSize buffer reads =
      (readPackets maxMessageSize (buffer.drop consumedLen) reads).map (packet :: ·) id := by
  rw [readPackets.eq_def]
  split <;> simp_all [Prod.map]

/-- Bytes may as well be in the buffer before they are read. -/
theorem readPackets_buffered (buffer : List UInt8) {arrived : List UInt8} (bytes : arrived ≠ []) :
    readPackets maxMessageSize buffer (.ok arrived :: reads) =
      readPackets maxMessageSize (buffer ++ arrived) reads := by
  -- the packets of the buffer come first, so the induction is on what is left of it
  induction length : buffer.length using Nat.strong_induction_on generalizing buffer with
  | _ count induction =>
    subst length
    have append := @tryParseV3Packet_append maxMessageSize buffer
    match parsed : tryParseV3Packet maxMessageSize buffer with
    | .error error =>
      rw [parsed] at append
      rw [readPackets_of_error _ parsed, readPackets_of_error _ (append (by simp) arrived)]
    | .ok (some (consumedLen, packet)) =>
      rw [parsed] at append
      have bounds := consumedLen_bounds parsed
      have shorter : (buffer.drop consumedLen).length < buffer.length := by
        rw [List.length_drop]
        omega
      rw [readPackets_of_packet _ parsed, readPackets_of_packet _ (append (by simp) arrived),
        induction _ shorter _ rfl, List.drop_append_of_le_length bounds.2]
    | .ok none =>
      rw [readPackets.eq_def]
      split <;> simp_all

theorem readPackets_append {buffer : List UInt8} {arrived : List (List UInt8)}
    (bytes : [] ∉ arrived) : readPackets maxMessageSize buffer (arrived.map .ok ++ reads) =
      readPackets maxMessageSize (buffer ++ arrived.flatten) reads := by
  induction arrived generalizing buffer with
  | nil => rw [List.flatten_nil, List.append_nil, List.map_nil, List.nil_append]
  | cons first others induction =>
    rw [List.mem_cons, not_or] at bytes
    rw [List.map_cons, List.cons_append, readPackets_buffered _ buffer (Ne.symm bytes.1),
      induction bytes.2, List.flatten_cons, List.append_assoc]

/-- However the bytes of a client are cut into reads, the same packets are read, and what comes
after them ends the connection in the same way. -/
theorem readPackets_of_same_bytes {maxMessageSize : Nat} {buffer : List UInt8}
    {arrived others : List (List UInt8)} (same : arrived.flatten = others.flatten)
    (bytes : [] ∉ arrived) (others_bytes : [] ∉ others)
    (later : List (Except String (List UInt8))) :
    readPackets maxMessageSize buffer (arrived.map .ok ++ later) =
      readPackets maxMessageSize buffer (others.map .ok ++ later) := by
  rw [readPackets_append _ bytes, readPackets_append _ others_bytes, same]

/-- A PINGREQ that comes byte by byte. -/
theorem pingreq_of_same_bytes : readPackets 0 [] [.ok [0xC0], .ok [0x00], .ok []] =
    readPackets 0 [] [.ok [0xC0, 0x00], .ok []] :=
  @readPackets_of_same_bytes 0 [] [[0xC0], [0x00]] [[0xC0, 0x00]] rfl (by decide) (by decide)
    [.ok []]

def MqttPacketV3.written (packet : MqttPacketV3) : List UInt8 :=
  packet.encode.toOption.getD []

theorem packetOfV3_asRead (packet : MqttPacketV3) :
    packetOfV3 packet.asRead = packetOfV3 packet := by
  cases packet with
  | publish packet =>
    simp only [MqttPacketV3.asRead, FixHeader.asRead, packetOfV3]
    split <;> simp_all
  | _ => rfl

theorem readPackets_encoded {packets : List MqttPacketV3} (encodes : ∀ packet ∈ packets,
      EncodesOnePacket packet ∧ packet.written.length ≤ maxMessageSize) :
    readPackets maxMessageSize (packets.flatMap MqttPacketV3.written) [] =
      (packets.map packetOfV3, none) := by
  induction packets with
  | nil =>
    rw [readPackets.eq_def]
    rfl
  | cons packet others induction =>
    rcases List.forall_mem_cons.mp encodes with ⟨⟨⟨bytes, encoded, writes⟩, fits⟩, later⟩
    have written : packet.written = bytes := by
      rw [MqttPacketV3.written, encoded]
      rfl
    rw [written] at fits
    have parsed (rest : List UInt8) : tryParseV3Packet maxMessageSize (bytes ++ rest) =
        .ok (some (bytes.length, packetOfV3 packet)) := by
      rw [← packetOfV3_asRead, tryParseV3Packet, writes.parsed _ fits]
    rw [List.flatMap_cons, written, readPackets_of_packet _ (parsed _), List.drop_left,
      induction later]
    rfl

/-- Packets that are encoded as one packet each, sent one after another and cut into reads
anyhow, are read in the order in which they were sent. -/
theorem readPackets_written {maxMessageSize : Nat} {packets : List MqttPacketV3}
    {arrived : List (List UInt8)} (encodes : ∀ packet ∈ packets,
      EncodesOnePacket packet ∧ packet.written.length ≤ maxMessageSize)
    (sent : arrived.flatten = packets.flatMap MqttPacketV3.written) (bytes : [] ∉ arrived) :
    readPackets maxMessageSize [] (arrived.map .ok) = (packets.map packetOfV3, none) := by
  have merged := @readPackets_append maxMessageSize [] [] arrived bytes
  rw [List.append_nil, List.nil_append, sent] at merged
  rw [merged, readPackets_encoded encodes]

/-- The second read has the end of one packet and the beginning of the next. -/
theorem packets_read_across_cut :
    readPackets 4 [] [.ok [0x20, 0x02], .ok [0x00, 0x00, 0x20], .ok [0x02, 0x01, 0x00]] =
      ([packetOfV3 (.connack (.build false .accept)),
        packetOfV3 (.connack (.build true .accept))], none) := by
  apply @readPackets_written 4 [.connack (.build false .accept), .connack (.build true .accept)]
    [[0x20, 0x02], [0x00, 0x00, 0x20], [0x02, 0x01, 0x00]]
  · rw [List.forall_mem_cons, List.forall_mem_singleton]
    constructor
    · exact ⟨connack_encodesOnePacket false .accept, by decide +kernel⟩
    · exact ⟨connack_encodesOnePacket true .accept, by decide +kernel⟩
  · decide +kernel
  · decide

/-! ## Packets that come back -/

/-- A packet that was converted for a client is converted to itself when it comes back. -/
theorem tryFrom_packetOfV3 {generated other : UInt16} {packet : Packet} {converted : MqttPacketV3}
    (accepted : tryFrom generated packet = .ok converted) :
    tryFrom other (packetOfV3 converted) = .ok converted := by
  cases packet with
  | connect connect =>
    cases accepted
    rcases connect with ⟨_, _, _, _, _, _, _, will, _⟩
    cases will <;> simp [packetOfV3, tryFrom, connectOf, ConnectPacket.build, willOf, willMsgOf]
  | connack connack =>
    cases accepted
    have code : ∀ reason, reasonToV3ConnackReturnCode (v3ConnackReturnCodeToReason
        (reasonToV3ConnackReturnCode reason).asU8) = reasonToV3ConnackReturnCode reason := by
      intro reason
      cases reason <;> rfl
    rw [packetOfV3, tryFrom]
    simp [ConnAckPacket.build, code]
  | publish message =>
    rcases tryFrom_publish_eq_ok.mp accepted with ⟨qos, fits, rfl⟩
    apply tryFrom_publish_eq_ok.mpr
    refine ⟨qos, fits, ?_⟩
    cases dup : message.dup <;> by_cases tracked : 0 < message.qos <;>
      simp [built, identifierFor, dup, tracked]
  | suback suback =>
    cases accepted
    have code : ∀ reason, reasonToV3SubackReturnCode (v3SubackReturnCodeToReason
        (reasonToV3SubackReturnCode reason)) = reasonToV3SubackReturnCode reason := by
      intro reason
      cases reason <;> rfl
    simp [packetOfV3, tryFrom, SubackPacket.new, code]
  | subscribe subscribe =>
    rw [tryFrom] at accepted
    by_cases known : subscribe.topics.all (·.qos ≤ 2) = true
    · rw [topicFiltersOf_of_all known] at accepted
      cases accepted
      rw [packetOfV3, tryFrom, topicFiltersOf_of_all]
      · simp only [SubscribePacket.build, List.map_map]
        rfl
      · simpa [SubscribePacket.build] using known
    · rcases topicFiltersOf_of_not_all known with ⟨_, failed⟩
      rw [failed] at accepted
      cases accepted
  | auth => cases accepted
  | _ =>
    cases accepted
    rfl

theorem publish_passes_unchanged :
    tryFrom 7 (packetOfV3 (.publish (built 0 (publishOf "a")))) =
      .ok (.publish (built 0 (publishOf "a"))) :=
  @tryFrom_packetOfV3 0 7 (.publish (publishOf "a")) _ (by decide +kernel)

end YedMQ.Mqtt.V3
