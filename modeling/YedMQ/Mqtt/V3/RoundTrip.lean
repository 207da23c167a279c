import YedMQ.Mqtt.V3.Panics

/-! # Packets that are written and parsed again

What is written for a neutral packet is one well-formed packet for most packet types, if
its texts and lengths fit. PUBREL, SUBSCRIBE and UNSUBSCRIBE are written with flags that
the standard does not allow.
-/

namespace YedMQ.Mqtt.V3

open Foundation FixHeader PublishPacket ConnectPacket Nom SubackPacket Utf8

/-! ## Remaining lengths -/

theorem addBytes_append (start : Nat × Nat) (first second : List UInt8) :
    addBytes start (first ++ second) = addBytes (addBytes start first) second :=
  List.foldl_append

theorem variableBytes_front (value : Nat) :
    ∃ front last, variableBytes value = front ++ [last] ∧
      (∀ byte ∈ front, continues byte = true) ∧ continues last = false ∧
      ∀ start, (addBytes start (front ++ [last])).1 = start.1 + value * start.2 := by
  induction value using Nat.strong_induction_on with
  | _ value induction =>
    by_cases small : value < 128
    · have bits := sevenBits_ofNat_last small
      refine ⟨[], UInt8.ofNat value, variableBytes_last small, ?_, bits.2, ?_⟩
      · exact fun byte member => nomatch member
      · intro start
        change start.1 + sevenBits (UInt8.ofNat value) * start.2 = _
        rw [bits.1]
    · have bits := sevenBits_ofNat_more value
      rcases induction (value / 128) (by omega) with ⟨front, last, bytes, announce, ends, sum⟩
      refine ⟨UInt8.ofNat (value % 128 + 128) :: front, last, ?_, ?_, ends, ?_⟩
      · rw [variableBytes_more (by omega), bytes, List.cons_append]
      · intro byte member
        rcases List.mem_cons.mp member with rfl | later
        · exact bits.2
        · exact announce byte later
      · intro start
        have rest := sum (start.1 + sevenBits (UInt8.ofNat (value % 128 + 128)) * start.2,
          start.2 * 128)
        have split : value * start.2 = value % 128 * start.2 + value / 128 * (start.2 * 128) := by
          rw [Nat.mul_comm start.2 128, ← Nat.mul_assoc, ← Nat.add_mul, Nat.mul_comm (value / 128),
            Nat.mod_add_div]
        rw [bits.1] at rest
        change (addBytes (start.1 + sevenBits _ * start.2, start.2 * 128) (front ++ [last])).1 = _
        rw [bits.1, rest, split, Nat.add_assoc]

theorem FixHeader.reads_parseRemainingLength {value : Nat} (bound : value < 268435456) :
    parseRemainingLength.Reads (variableBytes value) value := by
  intro rest
  rcases variableBytes_front value with ⟨front, last, bytes, announce, ends, sum⟩
  have few : front.length ≤ 3 := by
    have length : (variableBytes value).length ≤ 3 + 1 := length_variableBytes_le bound
    rw [bytes, List.length_append, List.length_singleton] at length
    omega
  have total := sum (0, 1)
  rw [addBytes_append, Nat.zero_add, Nat.mul_one] at total
  rw [bytes, List.append_assoc]
  apply (bind_ok (takeWhileMN_front announce ends few)).trans
  exact congrArg (fun found => Except.ok (found, rest)) total

theorem addBytes_lt (bytes : List UInt8) (start : Nat × Nat) (below : start.1 < start.2) :
    (addBytes start bytes).1 < start.2 * 128 ^ bytes.length := by
  induction bytes generalizing start with
  | nil =>
    rw [List.length_nil, Nat.pow_zero, Nat.mul_one]
    exact below
  | cons byte bytes induction =>
    have bits := sevenBits_lt byte
    have next : start.1 + sevenBits byte * start.2 < start.2 * 128 := by
      have product : sevenBits byte * start.2 ≤ 127 * start.2 :=
        Nat.mul_le_mul_right _ (by omega)
      omega
    have rest := induction (start.1 + sevenBits byte * start.2, start.2 * 128) next
    rw [List.length_cons, Nat.pow_succ, Nat.mul_comm (128 ^ bytes.length), ← Nat.mul_assoc]
    exact rest

variable {input rest : List UInt8}

theorem FixHeader.parseRemainingLength_lt {value : Nat}
    (parsed : parseRemainingLength input = .ok (value, rest)) : value < 268435456 := by
  rcases bind_eq_ok.mp parsed with ⟨front, _, taken, others⟩
  rcases bind_eq_ok.mp others with ⟨last, _, single, made⟩
  have frontLength : front.length ≤ 3 := by
    rw [takeWhileMN] at taken
    split at taken <;> split at taken <;> cases taken <;> rw [List.length_take] <;> omega
  have lastLength : last.length ≤ 1 := by
    rw [take] at single
    split at single <;> cases single
    rw [List.length_take]
    omega
  cases made
  rw [← addBytes_append]
  have bound := addBytes_lt (front ++ last) (0, 1) (by decide)
  have power : 128 ^ (front ++ last).length ≤ 128 ^ 4 := by
    apply Nat.pow_le_pow_right (by decide)
    rw [List.length_append]
    omega
  omega

variable {header : FixHeader}

theorem FixHeader.remainingLength_lt_of_parse (parsed : parse input = .ok (header, rest)) :
    header.remainingLength < 268435456 := by
  cases input with
  | nil => cases parsed
  | cons first =>
    rw [parse_cons] at parsed
    cases typed : PacketType.ofU8? (first >>> 4) with
    | none =>
      rw [typed] at parsed
      cases parsed
    | some =>
      rw [typed] at parsed
      rcases map_eq_ok.mp parsed with ⟨_, read, rfl⟩
      exact parseRemainingLength_lt read

/-! ## Headers -/

/-- A header as it is parsed: a duplicate bit that is not set is there all the same. -/
def FixHeader.asRead (header : FixHeader) : FixHeader :=
  if header.packetType.hasFlags then
    ⟨header.packetType, header.qos, header.retain, some (header.dup.getD 0), header.remainingLength⟩
  else header

variable {read : FixHeader}

theorem FixHeader.reads_of_first (bound : header.remainingLength < 268435456)
    (typed : PacketType.ofU8? (header.firstByte >>> 4) = some header.packetType)
    (flags : ofFirstByte header.packetType header.firstByte header.remainingLength = read) :
    parse.Reads header.ecnode read := by
  intro rest
  rw [ecnode, List.cons_append, parse_cons, typed]
  rw [← flags]
  exact (reads_parseRemainingLength bound).map _ rest

variable (packetType : PacketType)

theorem PacketType.ofU8_shifted :
    PacketType.ofU8? (packetType.asU8 <<< 4 >>> 4) = some packetType := by
  cases packetType <;> decide

theorem FixHeader.nibble_shifted : packetType.asU8 <<< 4 &&& 0x0F = 0 := by
  cases packetType <;> decide

theorem FixHeader.firstByte_flagless (remainingLength : Nat) :
    (FixHeader.mk packetType none none none remainingLength).firstByte = packetType.asU8 <<< 4 := by
  cases packetType <;> rfl

variable {packetType : PacketType} {remainingLength : Nat}

theorem FixHeader.reads_flagless (other : packetType ≠ .publish)
    (bound : remainingLength < 268435456) :
    parse.Reads (FixHeader.mk packetType none none none remainingLength).ecnode
      (FixHeader.mk packetType none none none remainingLength).asRead := by
  apply reads_of_first bound
  · rw [firstByte_flagless]
    exact PacketType.ofU8_shifted packetType
  · rw [firstByte_flagless]
    cases packetType
    case publish => exact absurd rfl other
    all_goals rfl

theorem qos_cases {qos : UInt8} (accepted : qos ≤ 2) : qos = 0 ∨ qos = 1 ∨ qos = 2 := by
  have number : qos.toNat ≤ 2 := accepted
  have cases : qos.toNat = 0 ∨ qos.toNat = 1 ∨ qos.toNat = 2 := by omega
  rcases cases with zero | one | two
  · exact .inl (UInt8.toNat_inj.mp zero)
  · exact .inr (.inl (UInt8.toNat_inj.mp one))
  · exact .inr (.inr (UInt8.toNat_inj.mp two))

/-- The header of a PUBLISH, whose flags are read back bit by bit. -/
theorem FixHeader.reads_publish {qos : UInt8} {retain dup : Bool} (accepted : qos ≤ 2)
    (bound : remainingLength < 268435456) :
    parse.Reads (FixHeader.mk .publish (some qos) (some retain) (if dup then some 1 else none)
        remainingLength).ecnode
      (FixHeader.mk .publish (some qos) (some retain) (if dup then some 1 else none)
        remainingLength).asRead := by
  have first : (FixHeader.mk .publish (some qos) (some retain) (if dup then some 1 else none)
      remainingLength).firstByte = (0x30 : UInt8) + ((if dup then (1 : UInt8) else 0) <<< 3) +
        (qos <<< 1) + (if retain then 1 else 0) := by
    cases retain <;> cases dup <;> rfl
  apply reads_of_first bound
  · rw [first]
    change PacketType.ofU8? _ = some .publish
    rcases qos_cases accepted with rfl | rfl | rfl <;> cases retain <;> cases dup <;> decide
  · rw [first]
    rcases qos_cases accepted with rfl | rfl | rfl <;> cases retain <;> cases dup <;> rfl

/-! ## Texts -/

theorem length_textBytes (text : String) : (textBytes text).length = (encode text).length + 2 := by
  rw [textBytes, castU16, List.length_append, length_beU16, Nat.add_comm]

variable {text : String}

theorem toNat_ofNat_of_fits (fits : TopicFits text) :
    (UInt16.ofNat (encode text).length).toNat = (encode text).length := by
  exact Nat.mod_eq_of_lt fits

theorem reads_parseUtf8 (fits : TopicFits text) : parseUtf8.Reads (textBytes text) text := by
  apply (reads_u16 _).bind
  rw [toNat_ofNat_of_fits fits]
  have decoded := (reads_take (encode text)).map decodeLossy
  rw [decodeLossy_encode] at decoded
  exact decoded

theorem reads_parseUtf8Complete (fits : TopicFits text) :
    parseUtf8Complete.Reads (textBytes text) text := by
  apply (reads_completeU16 _).bind
  rw [toNat_ofNat_of_fits fits]
  have decoded := (reads_completeTake (encode text)).map decodeLossy
  rw [decodeLossy_encode] at decoded
  exact decoded

/-- A length that was cut off is at least a whole turn too short. -/
theorem fits_of_parseUtf8 {tail : List UInt8}
    (parsed : parseUtf8 (textBytes text ++ tail) = .ok (text, rest)) : TopicFits text := by
  rw [parseUtf8, textBytes, castU16, List.append_assoc, (reads_u16 _).bind_apply] at parsed
  rcases map_eq_ok.mp parsed with ⟨_, took, decoded⟩
  rw [UInt16.toNat_ofNat', take] at took
  split at took
  · cases took
  · cases took
    have part : (encode text).length % 2 ^ 16 ≤ (encode text).length := Nat.mod_le _ _
    rw [List.take_append_of_le_length part] at decoded
    have close := length_encode_le_of_take decoded.symm
    rw [TopicFits]
    omega

/-! ## CONNECT -/

namespace ConnectPacket

variable {text : Option String}

theorem reads_parseIf (fits : ∀ found ∈ text, TopicFits found) :
    (parseIf text.isSome).Reads (optionBytes text) text := by
  cases text with
  | none => exact reads_pure none
  | some found => exact (reads_parseUtf8 (fits found rfl)).map some

theorem fits_of_parseIf {tail rest : List UInt8}
    (parsed : parseIf text.isSome (optionBytes text ++ tail) = .ok (text, rest)) :
    ∀ found ∈ text, TopicFits found := by
  rintro found rfl
  rcases map_eq_ok.mp parsed with ⟨_, read, equal⟩
  cases equal
  exact fits_of_parseUtf8 read

/-- The texts of a CONNECT fit in lengths of two bytes. -/
structure PayloadFits (payload : ConnectPayload) : Prop where
  clientIdentifier : TopicFits payload.clientIdentifier
  willTopic : ∀ text ∈ payload.willTopic, TopicFits text
  willMessage : ∀ text ∈ payload.willMessage, TopicFits text
  username : ∀ text ∈ payload.username, TopicFits text
  password : ∀ text ∈ payload.password, TopicFits text

section Payload

variable {payload : ConnectPayload}

theorem payloadBytes_assoc (payload : ConnectPayload) (tail : List UInt8) :
    payloadBytes payload ++ tail =
      textBytes payload.clientIdentifier ++ (optionBytes payload.willTopic ++
        (optionBytes payload.willMessage ++ (optionBytes payload.username ++
          (optionBytes payload.password ++ tail)))) := by
  simp [payloadBytes]

theorem reads_parsePayload (together : payload.willMessage.isSome = payload.willTopic.isSome)
    (fits : PayloadFits payload) :
    (parsePayload payload.username.isSome payload.password.isSome payload.willTopic.isSome).Reads
      (payloadBytes payload) payload := by
  intro rest
  have willMessage := reads_parseIf fits.willMessage
  rw [together] at willMessage
  rw [payloadBytes_assoc]
  apply (bind_ok (reads_parseUtf8 fits.clientIdentifier _)).trans
  apply (bind_ok (reads_parseIf fits.willTopic _)).trans
  apply (bind_ok (willMessage _)).trans
  apply (bind_ok (reads_parseIf fits.username _)).trans
  exact bind_ok (reads_parseIf fits.password rest)

theorem fits_of_parsePayload {tail rest : List UInt8}
    (together : payload.willMessage.isSome = payload.willTopic.isSome)
    (parsed : parsePayload payload.username.isSome payload.password.isSome
      payload.willTopic.isSome (payloadBytes payload ++ tail) = .ok (payload, rest)) :
    PayloadFits payload := by
  rw [payloadBytes_assoc] at parsed
  -- each text that fits is read exactly, so that the next one is read from its own bytes
  rcases bind_eq_ok.mp parsed with ⟨_, _, first, parsed⟩
  rcases bind_eq_ok.mp parsed with ⟨_, _, second, parsed⟩
  rcases bind_eq_ok.mp parsed with ⟨_, _, third, parsed⟩
  rcases bind_eq_ok.mp parsed with ⟨_, _, fourth, parsed⟩
  rcases bind_eq_ok.mp parsed with ⟨_, _, fifth, built⟩
  cases built
  have clientFits := fits_of_parseUtf8 first
  rw [reads_parseUtf8 clientFits] at first
  cases first
  have topicFits := fits_of_parseIf second
  rw [reads_parseIf topicFits] at second
  cases second
  rw [← together] at third
  have messageFits := fits_of_parseIf third
  rw [reads_parseIf messageFits] at third
  cases third
  have usernameFits := fits_of_parseIf fourth
  rw [reads_parseIf usernameFits] at fourth
  cases fourth
  exact ⟨clientFits, topicFits, messageFits, usernameFits, fits_of_parseIf fifth⟩

end Payload

theorem flags_read : ∀ (username password retain will clean : Bool) (qos : Fin 4),
      let flag (set : Bool) (bit : UInt8) : UInt8 := if set then bit else 0
      let flags := flag username 0x80 + flag password 0x40 + flag retain 0x20 +
        (UInt8.ofNat qos.val <<< 3) + flag will 0x04 + flag clean 0x02
      (flags >>> 7 &&& 1 == 1) = username ∧ (flags >>> 6 &&& 1 == 1) = password ∧
        (flags >>> 5 &&& 1 == 1) = retain ∧ flags >>> 3 &&& 3 = UInt8.ofNat qos.val ∧
        (flags >>> 2 &&& 1 == 1) = will ∧ (flags >>> 1 &&& 1 == 1) = clean := by
  decide +kernel

variable {header : ConnectVariableHeader}

theorem flagsByte_read (qos : header.willQos ≤ 3) :
    (flagsByte header >>> 7 &&& 1 == 1) = header.usernameFlag ∧
      (flagsByte header >>> 6 &&& 1 == 1) = header.passwordFlag ∧
      (flagsByte header >>> 5 &&& 1 == 1) = header.willRetain ∧
      flagsByte header >>> 3 &&& 3 = header.willQos ∧
      (flagsByte header >>> 2 &&& 1 == 1) = header.willFlag ∧
      (flagsByte header >>> 1 &&& 1 == 1) = header.cleanSession := by
  have number : header.willQos.toNat < 4 := Nat.lt_succ_of_le qos
  have flags := flags_read header.usernameFlag header.passwordFlag header.willRetain
    header.willFlag header.cleanSession ⟨header.willQos.toNat, number⟩
  simp only [UInt8.ofNat_toNat] at flags
  exact flags

theorem reads_parseVariableHeader (name : TopicFits header.protocolName)
    (level : header.protocolLevel = 0x04) (qos : header.willQos ≤ 3) :
    parseVariableHeader.Reads (variableHeaderBytes header) header := by
  intro rest
  obtain ⟨username, password, retain, willQos, will, clean⟩ := flagsByte_read qos
  rw [variableHeaderBytes, List.append_assoc, List.append_assoc]
  apply (bind_ok (reads_parseUtf8 name _)).trans
  apply (bind_ok (reads_u8 0x04 _)).trans
  apply (bind_ok (reads_u8 (flagsByte header) _)).trans
  apply (bind_ok (reads_u16 header.keepAlive rest)).trans
  rw [pure_apply, username, password, retain, willQos, will, clean, ← level]

end ConnectPacket

/-! ## Frames -/

variable {headerBytes body dropped : List UInt8}

theorem reads_parseFramed {α β : Type} {fixedHeader : Nom FixHeader} {inner : FixHeader → Nom α}
    {build : FixHeader → α → β} (value : α) (header : fixedHeader.Reads headerBytes read)
    (length : read.remainingLength = body.length)
    (parsed : inner read body = .ok (value, dropped)) :
    (parseFramed fixedHeader inner build).Reads (headerBytes ++ body) (build read value) := by
  intro rest
  apply parseFramed_eq_ok.mpr
  refine ⟨read, body ++ rest, value, dropped, ?_, ?_, ?_, rfl, ?_⟩
  · rw [List.append_assoc]
    exact header (body ++ rest)
  · rw [length, List.length_append]
    omega
  · rw [length, List.take_left]
    exact parsed
  · rw [length, List.drop_left]

theorem reads_verify {α : Type} {parser : Nom α} {condition : α → Bool} {written : List UInt8}
    {value : α} (reads : parser.Reads written value) (holds : condition value = true) :
    (parser.verify condition).Reads written value :=
  fun rest => verify_eq_ok.mpr ⟨reads rest, holds⟩

variable {maxMessageSize : Nat} {packet : MqttPacketV3}

theorem parse_of_reads (header : FixHeader.parse.Reads headerBytes read)
    (reads :
      (MqttPacketV3.parseOf maxMessageSize read.packetType).Reads (headerBytes ++ body) packet)
    (rest : List UInt8) :
    parse maxMessageSize ((headerBytes ++ body) ++ rest) =
      .ok ((headerBytes ++ body, packet), rest) := by
  apply parse_eq_ok.mpr
  refine ⟨read, body ++ rest, ?_, reads rest, rfl⟩
  rw [List.append_assoc]
  exact header (body ++ rest)

theorem fixHeader_of_parseOf (parsed : FixHeader.parse input = .ok (header, body))
    (accepted : MqttPacketV3.parseOf maxMessageSize packetType input = .ok (packet, rest)) :
    packet.fixHeader = header := by
  have framed : ∀ {α β : Type} {inner : FixHeader → Nom α} {build : FixHeader → α → β} {found : β},
      parseFramed FixHeader.parse inner build input = .ok (found, rest) →
      ∃ value, found = build header value := by
    intro α β inner build found equal
    rcases parseFramed_eq_ok.mp equal with ⟨other, left, value, _, again, _, _, built, _⟩
    rw [parsed] at again
    cases again
    exact ⟨value, built⟩
  cases packetType <;> rcases map_eq_ok.mp accepted with ⟨_, equal, rfl⟩
  case publish =>
    rcases parseFramed_eq_ok.mp equal with ⟨other, _, value, _, again, _, _, rfl, _⟩
    rw [(verify_eq_ok.mp again).1] at parsed
    cases parsed
    rfl
  case pingreq | pingresp | disconnect =>
    rcases map_eq_ok.mp equal with ⟨_, again, rfl⟩
    rw [parsed] at again
    cases again
    rfl
  all_goals
    rcases framed equal with ⟨_, rfl⟩
    rfl

theorem remainingLength_lt_of_accepted {used : List UInt8}
    (accepted : parse maxMessageSize input = .ok ((used, packet), rest)) :
    packet.fixHeader.remainingLength < 268435456 := by
  rcases parse_eq_ok.mp accepted with ⟨_, _, parsed, equal, _⟩
  rw [fixHeader_of_parseOf parsed equal]
  exact FixHeader.remainingLength_lt_of_parse parsed

/-! ## Well-formed packets -/

/-- The flags that the standard fixes for the types other than PUBLISH. -/
def standardFlags : PacketType → UInt8
  | .pubrel => 0x02
  | .subscribe => 0x02
  | .unsubscribe => 0x02
  | _ => 0x00

def MqttPacketV3.asRead : MqttPacketV3 → MqttPacketV3
  | connect packet => connect { packet with fixHeader := packet.fixHeader.asRead }
  | connack packet => connack { packet with fixHeader := packet.fixHeader.asRead }
  | publish packet => publish { packet with fixHeader := packet.fixHeader.asRead }
  | puback packet => puback { packet with fixHeader := packet.fixHeader.asRead }
  | pubrec packet => pubrec { packet with fixHeader := packet.fixHeader.asRead }
  | pubrel packet => pubrel { packet with fixHeader := packet.fixHeader.asRead }
  | pubcomp packet => pubcomp { packet with fixHeader := packet.fixHeader.asRead }
  | subscribe packet => subscribe { packet with fixHeader := packet.fixHeader.asRead }
  | suback packet => suback { packet with fixHeader := packet.fixHeader.asRead }
  | unsubscribe packet => unsubscribe { packet with fixHeader := packet.fixHeader.asRead }
  | unsuback packet => unsuback { packet with fixHeader := packet.fixHeader.asRead }
  | pingreq packet => pingreq { packet with fixHeader := packet.fixHeader.asRead }
  | pingresp packet => pingresp { packet with fixHeader := packet.fixHeader.asRead }
  | disconnect packet => disconnect { packet with fixHeader := packet.fixHeader.asRead }

/-- The bytes are one well-formed packet: the flags are those of the standard, the remaining
length is that of the body, both encoders agree, and the packet is read back in front of
anything that follows. -/
structure WritesOnePacket (packet : MqttPacketV3) (bytes : List UInt8) : Prop where
  flags : packet.fixHeader.packetType ≠ .publish →
    ∃ first, bytes.head? = some first ∧ first &&& 0x0F = standardFlags packet.fixHeader.packetType
  length : ∃ header body, FixHeader.parse bytes = .ok (header, body) ∧
    header.remainingLength = body.length
  toBytes : packet.toBytes = .ok bytes
  parsed : ∀ maxMessageSize, bytes.length ≤ maxMessageSize → ∀ rest,
    parse maxMessageSize (bytes ++ rest) = .ok ((bytes, packet.asRead), rest)

def EncodesOnePacket (packet : MqttPacketV3) : Prop :=
  ∃ bytes, packet.encode = .ok bytes ∧ WritesOnePacket packet bytes

theorem encodesOnePacket_of_body {length : Nat} (body : List UInt8)
    (header : packet.fixHeader = ⟨packetType, none, none, none, length⟩)
    (other : packetType ≠ .publish) (flags : standardFlags packetType = 0)
    (bound : length < 268435456) (size : body.length = length)
    (encoded : packet.encode = .ok (packet.fixHeader.ecnode ++ body))
    (bytes : packet.toBytes = .ok (packet.fixHeader.ecnode ++ body))
    (parses : FixHeader.parse.Reads packet.fixHeader.ecnode packet.fixHeader.asRead →
      ∀ maxMessageSize, (MqttPacketV3.parseOf maxMessageSize packetType).Reads
        (packet.fixHeader.ecnode ++ body) packet.asRead) :
    EncodesOnePacket packet := by
  have reads : FixHeader.parse.Reads packet.fixHeader.ecnode packet.fixHeader.asRead := by
    rw [header]
    exact FixHeader.reads_flagless other bound
  have kept : packet.fixHeader.asRead.packetType = packetType ∧
      packet.fixHeader.asRead.remainingLength = length := by
    rw [header, FixHeader.asRead]
    split <;> exact ⟨rfl, rfl⟩
  refine ⟨packet.fixHeader.ecnode ++ body, encoded, ?_⟩
  constructor
  case flags =>
    intro _
    refine ⟨packet.fixHeader.firstByte, rfl, ?_⟩
    rw [header, firstByte_flagless]
    rw [flags, nibble_shifted]
  case length => exact ⟨_, _, reads body, kept.2.trans size.symm⟩
  case toBytes => exact bytes
  case parsed =>
    intro maxMessageSize _ rest
    apply parse_of_reads reads
    rw [kept.1]
    exact parses reads maxMessageSize

/-! ## Packet types -/

variable {packetIdentifier : UInt16}

theorem identifier_encodesOnePacket {wrap : IdentifierPacket → MqttPacketV3}
    (other : packetType ≠ .publish) (flags : standardFlags packetType = 0)
    (header : ∀ packet, (wrap packet).fixHeader = packet.fixHeader)
    (encode : ∀ packet, (wrap packet).encode = .ok packet.encode)
    (toBytes : ∀ packet, (wrap packet).toBytes = .ok packet.toBytes)
    (asRead : ∀ packet,
      (wrap packet).asRead = wrap ⟨packet.fixHeader.asRead, packet.packetIdentifier⟩)
    (parser : ∀ maxMessageSize, MqttPacketV3.parseOf maxMessageSize packetType =
      wrap <$> IdentifierPacket.parse) :
    EncodesOnePacket (wrap (.ofIdentifier packetType packetIdentifier)) := by
  have length : (IdentifierPacket.ofIdentifier packetType
      packetIdentifier).fixHeader.asRead.remainingLength = (beU16 packetIdentifier).length := by
    rw [FixHeader.asRead]
    split <;> rfl
  apply encodesOnePacket_of_body (beU16 packetIdentifier) (header _) other flags (by decide)
    (length_beU16 packetIdentifier)
  · rw [encode, header]
    rfl
  · rw [toBytes, header]
    rfl
  · intro reads maxMessageSize
    rw [header] at reads ⊢
    rw [parser, asRead]
    have value := reads_u16 packetIdentifier []
    apply Nom.Reads.map
    exact reads_parseFramed packetIdentifier reads length value

theorem header_encodesOnePacket {wrap : HeaderPacket → MqttPacketV3} (other : packetType ≠ .publish)
    (flags : standardFlags packetType = 0)
    (header : ∀ packet, (wrap packet).fixHeader = packet.fixHeader)
    (encode : ∀ packet, (wrap packet).encode = .ok packet.encode)
    (toBytes : ∀ packet, (wrap packet).toBytes = .ok packet.toBytes)
    (asRead : ∀ packet, (wrap packet).asRead = wrap ⟨packet.fixHeader.asRead⟩)
    (parser : ∀ maxMessageSize, MqttPacketV3.parseOf maxMessageSize packetType =
      wrap <$> HeaderPacket.parse) :
    EncodesOnePacket (wrap (.ofType packetType)) := by
  apply encodesOnePacket_of_body [] (header _) other flags (by decide) rfl
  · rw [encode, header, List.append_nil]
    rfl
  · rw [toBytes, header, List.append_nil]
    rfl
  · intro reads maxMessageSize
    rw [header] at reads ⊢
    rw [parser, asRead, List.append_nil]
    exact (reads.map HeaderPacket.mk).map wrap

theorem connack_encodesOnePacket (sessionPresent : Bool) (returnCode : ConnackReturnCode) :
    EncodesOnePacket (.connack (ConnAckPacket.build sessionPresent returnCode)) := by
  have bound : 2 < 268435456 := by decide
  apply encodesOnePacket_of_body
    (ConnAckPacket.build sessionPresent returnCode).variableHeaderBytes rfl (by decide) rfl bound
    rfl rfl rfl
  intro reads maxMessageSize
  have body : ConnAckPacket.parseVariableHeader
      (ConnAckPacket.build sessionPresent returnCode).variableHeaderBytes =
      .ok ((sessionPresent, returnCode.asU8), []) := by
    cases sessionPresent <;> cases returnCode <;> decide
  apply Nom.Reads.map
  exact reads_parseFramed (sessionPresent, returnCode.asU8) reads rfl body

theorem returnCodes_read (codes : List ReasonCode) :
    ∃ bytes, (codes.map reasonToV3SubackReturnCode).flatMap ReturnCode.toBytes = bytes ∧
      bytes.map ReturnCode.ofU8 = codes.map reasonToV3SubackReturnCode ∧
      bytes.length = codes.length := by
  refine ⟨_, rfl, ?_⟩
  induction codes with
  | nil => exact ⟨rfl, rfl⟩
  | cons code codes induction =>
    have single : ∃ byte, (reasonToV3SubackReturnCode code).toBytes = [byte] ∧
        ReturnCode.ofU8 byte = reasonToV3SubackReturnCode code := by
      cases code <;> exact ⟨_, rfl, rfl⟩
    rcases single with ⟨_, written, read⟩
    rw [List.map_cons, List.flatMap_cons, written, List.singleton_append, List.map_cons, read,
      induction.1, List.length_cons, induction.2]
    exact ⟨rfl, rfl⟩

theorem many0_completeU8 (bytes : List UInt8) : completeU8.many0 bytes = .ok (bytes, []) := by
  have each : ∀ byte ∈ bytes, completeU8.Reads [byte] byte ∧ [byte] ≠ [] := by
    intro byte _
    exact ⟨reads_completeU8 byte, List.cons_ne_nil _ _⟩
  have all := many0_flatMap (fun byte => [byte]) each ⟨.eof, rfl⟩
  rw [List.flatMap_singleton'] at all
  exact all

theorem suback_encodesOnePacket {codes : List ReasonCode} (bound : 2 + codes.length < 268435456) :
    EncodesOnePacket (.suback (new packetIdentifier (codes.map reasonToV3SubackReturnCode))) := by
  rcases returnCodes_read codes with ⟨bytes, written, decoded, count⟩
  have size : (beU16 packetIdentifier ++ bytes).length =
      2 + (codes.map reasonToV3SubackReturnCode).length := by
    rw [List.length_append, length_beU16, count, List.length_map]
  apply encodesOnePacket_of_body (beU16 packetIdentifier ++ bytes) rfl (by decide) rfl ?_ size
  · change Except.ok (SubackPacket.encode _) = _
    rw [SubackPacket.encode, List.append_assoc, ← written]
    rfl
  · change Except.ok (SubackPacket.toBytes _) = _
    rw [SubackPacket.toBytes, List.append_assoc, ← written]
    rfl
  · intro reads maxMessageSize
    have body : SubackPacket.parseBody (beU16 packetIdentifier ++ bytes) =
        .ok ((packetIdentifier, codes.map reasonToV3SubackReturnCode), []) := by
      rw [SubackPacket.parseBody, (reads_u16 packetIdentifier).bind_apply]
      apply (bind_ok (many0_completeU8 bytes)).trans
      rw [decoded]
      rfl
    apply Nom.Reads.map
    exact reads_parseFramed (packetIdentifier, _) reads size.symm body
  · rw [List.length_map]
    exact bound

/-! ### PUBLISH -/

section Publish

/-- What follows the fixed header of a PUBLISH. -/
def PublishPacket.bodyBytes (generated : UInt16) (message : Publish) : List UInt8 :=
  textBytes message.topicName ++
    (identifierBytes (identifierFor generated message) ++ message.payload)

variable {generated : UInt16} {message : Publish}

theorem PublishPacket.parseBody_built (accepted : message.qos ≤ 2)
    (fits : TopicFits message.topicName) :
    parseBody (built generated message).fixHeader.asRead (bodyBytes generated message) =
      .ok (((message.topicName, identifierFor generated message), message.payload), []) := by
  have topic := reads_parseUtf8Complete fits
  have header : parseVariableHeader (message.qos == 1 || message.qos == 2)
      (bodyBytes generated message) =
      .ok ((message.topicName, identifierFor generated message), message.payload) := by
    rw [parseVariableHeader, bodyBytes, topic.bind_apply, identifierFor]
    rcases qos_cases accepted with zero | one | two
    · rw [zero]
      rfl
    · rw [one]
      exact bind_ok (reads_completeU16 (message.packetIdentifier.getD generated) _)
    · rw [two]
      exact bind_ok (reads_completeU16 (message.packetIdentifier.getD generated) _)
  exact bind_ok header

theorem PublishPacket.encode_eq (fits : TopicFits message.topicName) :
    (built generated message).encode =
      .ok ((built generated message).fixHeader.ecnode ++ bodyBytes generated message) := by
  change (do
    let variableHeader ← variableHeaderBytes message.topicName (identifierFor generated message)
    return _ ++ variableHeader ++ message.payload) = _
  rw [variableHeaderBytes, topicBytes_of_fits fits, bodyBytes,
    ← List.append_assoc (textBytes message.topicName), ← List.append_assoc]
  rfl

theorem publish_encodesOnePacket (accepted : message.qos ≤ 2) (fits : TopicFits message.topicName)
    (bound : (built generated message).fixHeader.remainingLength < 268435456) :
    EncodesOnePacket (.publish (built generated message)) := by
  have reads : FixHeader.parse.Reads (built generated message).fixHeader.ecnode
      (built generated message).fixHeader.asRead :=
    FixHeader.reads_publish accepted bound
  have length : (built generated message).fixHeader.remainingLength =
      (bodyBytes generated message).length := by
    rw [bodyBytes, ← List.append_assoc, List.length_append]
    rfl
  refine ⟨_, encode_eq fits, ?_⟩
  constructor
  case flags => exact fun other => absurd rfl other
  case length => exact ⟨_, _, reads _, length⟩
  case toBytes => exact encode_eq fits
  case parsed =>
    intro maxMessageSize large rest
    apply parse_of_reads reads
    rw [List.length_append] at large
    have small : (built generated message).fixHeader.asRead.remainingLength ≤
        maxMessageSize := by
      change (built generated message).fixHeader.remainingLength ≤ maxMessageSize
      omega
    apply Nom.Reads.map
    exact reads_parseFramed ((message.topicName, identifierFor generated message),
      message.payload) (reads_verify reads (decide_eq_true small)) length
      (parseBody_built accepted fits)

end Publish

/-! ### CONNECT -/

namespace ConnectPacket

theorem length_optionBytes (text : Option String) :
    (optionBytes text).length = optionLength text := by
  cases text with
  | none => rfl
  | some found => exact length_textBytes found

theorem optionLength_le {text : Option String} (fits : ∀ found ∈ text, TopicFits found) :
    optionLength text < 65538 := by
  cases text with
  | none => decide
  | some found =>
    have short := fits found rfl
    rw [TopicFits] at short
    change (Utf8.encode found).length + 2 < 65538
    omega

theorem length_body (header : ConnectVariableHeader) (payload : ConnectPayload) :
    (variableHeaderBytes header ++ payloadBytes payload).length =
      variableHeaderLength header + payloadLength payload := by
  simp only [variableHeaderBytes, payloadBytes, List.length_append, length_textBytes,
    length_optionBytes, length_beU16, variableHeaderLength, payloadLength, List.length_cons,
    List.length_nil]
  omega

end ConnectPacket

section Connect

variable {connect : Connect}

theorem connectOf_together :
    (connectOf connect).payload.willMessage.isSome =
      (connectOf connect).payload.willTopic.isSome := by
  change ((connect.will.map willMsgOf).map WillMsg.willMessage).isSome =
    ((connect.will.map willMsgOf).map WillMsg.willTopic).isSome
  simp

theorem parseVariableHeaderAndPayload_connectOf
    (qos : (connectOf connect).variableHeader.willQos ≤ 3) (rest : List UInt8) :
    parseVariableHeaderAndPayload (variableHeaderBytes (connectOf connect).variableHeader ++ rest) =
      (do
        let payload ← parsePayload (connectOf connect).payload.username.isSome
          (connectOf connect).payload.password.isSome (connectOf connect).payload.willTopic.isSome
        return ((connectOf connect).variableHeader, payload) : Nom _) rest := by
  have name : TopicFits (connectOf connect).variableHeader.protocolName := by
    change (encode "MQTT").length < 65536
    decide +kernel
  have flag : (connectOf connect).variableHeader.willFlag =
      (connectOf connect).payload.willTopic.isSome := by
    change (connect.will.map willMsgOf).isSome =
      ((connect.will.map willMsgOf).map WillMsg.willTopic).isSome
    simp
  rw [← flag]
  exact bind_ok (reads_parseVariableHeader name rfl qos rest)

theorem connect_encodesOnePacket (qos : (connectOf connect).variableHeader.willQos ≤ 3)
    (fits : ConnectPacket.PayloadFits (connectOf connect).payload) :
    EncodesOnePacket (.connect (connectOf connect)) := by
  have size := length_body (connectOf connect).variableHeader (connectOf connect).payload
  have bound : variableHeaderLength (connectOf connect).variableHeader +
      payloadLength (connectOf connect).payload < 268435456 := by
    have name : (encode (connectOf connect).variableHeader.protocolName).length = 4 := by
      change (encode "MQTT").length = 4
      decide +kernel
    have client := fits.clientIdentifier
    rw [TopicFits] at client
    have topic := optionLength_le fits.willTopic
    have message := optionLength_le fits.willMessage
    have username := optionLength_le fits.username
    have password := optionLength_le fits.password
    rw [variableHeaderLength, payloadLength]
    omega
  apply encodesOnePacket_of_body
    (ConnectPacket.variableHeaderBytes (connectOf connect).variableHeader ++
      ConnectPacket.payloadBytes (connectOf connect).payload) rfl (by decide) rfl bound size
  · change Except.ok (ConnectPacket.encode _) = _
    rw [ConnectPacket.encode, List.append_assoc]
    rfl
  · change Except.ok (ConnectPacket.toBytes _) = _
    rw [ConnectPacket.toBytes, List.append_assoc]
    rfl
  · intro reads maxMessageSize
    have payload := reads_parsePayload connectOf_together fits []
    rw [List.append_nil] at payload
    have body : parseVariableHeaderAndPayload
        (variableHeaderBytes (connectOf connect).variableHeader ++
          payloadBytes (connectOf connect).payload) =
        .ok (((connectOf connect).variableHeader, (connectOf connect).payload), []) := by
      rw [parseVariableHeaderAndPayload_connectOf qos]
      exact bind_ok payload
    apply Nom.Reads.map
    exact reads_parseFramed ((connectOf connect).variableHeader, (connectOf connect).payload)
      reads size.symm body

theorem fits_of_encodesOnePacket (encodes : EncodesOnePacket (.connect (connectOf connect))) :
    (connectOf connect).variableHeader.willQos ≤ 3 ∧
      ConnectPacket.PayloadFits (connectOf connect).payload := by
  rcases encodes with ⟨_, encoded, writes⟩
  cases encoded
  have accepted := writes.parsed _ (Nat.le_refl _) []
  have qos : (connectOf connect).variableHeader.willQos ≤ 3 := willQos_le_of_accepted accepted
  have bound := remainingLength_lt_of_accepted accepted
  refine ⟨qos, ?_⟩
  have length : (connectOf connect).fixHeader.remainingLength =
      (ConnectPacket.variableHeaderBytes (connectOf connect).variableHeader ++
        ConnectPacket.payloadBytes (connectOf connect).payload).length :=
    (ConnectPacket.length_body _ _).symm
  rw [List.append_nil, ConnectPacket.encode, List.append_assoc] at accepted
  have header : FixHeader.parse.Reads (connectOf connect).fixHeader.ecnode
      (connectOf connect).fixHeader := FixHeader.reads_flagless (by decide) bound
  rcases parse_eq_ok.mp accepted with ⟨_, _, again, parsed, _⟩
  rw [header] at again
  cases again
  rcases map_eq_ok.mp parsed with ⟨_, framed, equal⟩
  rcases parseFramed_eq_ok.mp framed with ⟨read, _, _, _, first, _, inner, rfl, _⟩
  rw [header] at first
  cases first
  rw [length, List.take_length, parseVariableHeaderAndPayload_connectOf qos] at inner
  rcases map_eq_ok.mp inner with ⟨_, read, rfl⟩
  cases equal
  apply fits_of_parsePayload connectOf_together
  rw [List.append_nil]
  exact read

end Connect

/-! ### PUBREL, SUBSCRIBE and UNSUBSCRIBE -/

/-- The encoder writes no flags where the standard wants them. -/
theorem not_encodesOnePacket_of_flags {length : Nat}
    (header : packet.fixHeader = ⟨packetType, none, none, none, length⟩)
    (other : packetType ≠ .publish) (flags : standardFlags packetType ≠ 0)
    (encoded : ∀ bytes, packet.encode = .ok bytes →
      ∃ body, bytes = packet.fixHeader.ecnode ++ body) :
    ¬ EncodesOnePacket packet := by
  rintro ⟨bytes, written, writes⟩
  rcases encoded bytes written with ⟨_, rfl⟩
  have typed : packet.fixHeader.packetType = packetType := by rw [header]
  rcases writes.flags (by rw [typed]; exact other) with ⟨_, head, nibble⟩
  cases head
  rw [header, FixHeader.firstByte_flagless, FixHeader.nibble_shifted] at nibble
  exact flags nibble.symm

variable (packetIdentifier : UInt16)

theorem pubrel_not_encodesOnePacket :
    ¬ EncodesOnePacket (.pubrel (PubRelPacket.new packetIdentifier)) := by
  apply not_encodesOnePacket_of_flags rfl (by decide) (by decide)
  rintro bytes ⟨⟩
  exact ⟨_, rfl⟩

theorem starts_of_filters {α : Type} {filterBytes : α → Except Panic (List UInt8)}
    {filters : List α} {header identifier bytes : List UInt8}
    (written : (do
      let payload ← filtersBytes filterBytes filters
      return header ++ identifier ++ payload : Except Panic (List UInt8)) = .ok bytes) :
    ∃ body, bytes = header ++ body := by
  cases found : filtersBytes filterBytes filters with
  | error =>
    rw [found] at written
    cases written
  | ok payload =>
    rw [found] at written
    cases written
    exact ⟨identifier ++ payload, List.append_assoc _ _ _⟩

theorem subscribe_not_encodesOnePacket (filters : List SubscribeTopicFilter) :
    ¬ EncodesOnePacket (.subscribe (SubscribePacket.build packetIdentifier filters)) := by
  apply not_encodesOnePacket_of_flags rfl (by decide) (by decide)
  exact fun bytes written => starts_of_filters written

theorem unsubscribe_not_encodesOnePacket (filters : List String) :
    ¬ EncodesOnePacket (.unsubscribe (UnsubscribePacket.build packetIdentifier filters)) := by
  apply not_encodesOnePacket_of_flags rfl (by decide) (by decide)
  exact fun bytes written => starts_of_filters written

/-! ## Neutral packets -/

/-- The texts of a CONNECT fit, its will as it is decoded lossily, and the quality of
service of the will has two bits. -/
structure ConnectFits (connect : Connect) : Prop where
  clientId : TopicFits connect.clientId
  username : ∀ text ∈ connect.username, TopicFits text
  password : ∀ text ∈ connect.password, TopicFits text
  will : ∀ will ∈ connect.will, TopicFits will.topic ∧
    TopicFits (decodeLossy will.payload) ∧ will.qos ≤ 3

theorem connectFits_iff {connect : Connect} :
    (connectOf connect).variableHeader.willQos ≤ 3 ∧
        ConnectPacket.PayloadFits (connectOf connect).payload ↔ ConnectFits connect := by
  have topic : (connectOf connect).payload.willTopic = connect.will.map Will.topic := by
    change (connect.will.map willMsgOf).map WillMsg.willTopic = _
    rw [Option.map_map]
    rfl
  have message : (connectOf connect).payload.willMessage =
      connect.will.map fun will => decodeLossy will.payload := by
    change (connect.will.map willMsgOf).map WillMsg.willMessage = _
    rw [Option.map_map]
    rfl
  have quality : (connectOf connect).variableHeader.willQos =
      (connect.will.map Will.qos).getD 0 := by
    change ((connect.will.map willMsgOf).map WillMsg.willQos).getD 0 = _
    rw [Option.map_map]
    rfl
  constructor
  · rintro ⟨qos, fits⟩
    refine ⟨fits.clientIdentifier, fits.username, fits.password, ?_⟩
    intro will has
    have willTopic := fits.willTopic
    have willMessage := fits.willMessage
    rw [topic, has] at willTopic
    rw [message, has] at willMessage
    rw [quality, has] at qos
    exact ⟨willTopic _ rfl, willMessage _ rfl, qos⟩
  · intro fits
    refine ⟨?_, fits.clientId, ?_, ?_, fits.username, fits.password⟩
    · rw [quality]
      cases has : connect.will with
      | none => decide
      | some will => exact (fits.will will has).2.2
    · rw [topic]
      intro text member
      rcases Option.mem_map.mp member with ⟨will, has, rfl⟩
      exact (fits.will will has).1
    · rw [message]
      intro text member
      rcases Option.mem_map.mp member with ⟨will, has, rfl⟩
      exact (fits.will will has).2.1

def Writable : Packet → Prop
  | .connect connect => ConnectFits connect
  | .publish message =>
    (encode message.topicName).length + 2 + (if 0 < message.qos then 2 else 0) +
      message.payload.length < 268435456
  | .suback suback => 2 + suback.reasonCodes.length < 268435456
  | .pubrel _ => False
  | .subscribe _ => False
  | .unsubscribe _ => False
  | _ => True

theorem remainingLength_built (generated : UInt16) (message : Publish) :
    (built generated message).fixHeader.remainingLength =
      (encode message.topicName).length + 2 + (if 0 < message.qos then 2 else 0) +
        message.payload.length := by
  change (textBytes message.topicName ++ identifierBytes
    (identifierFor generated message)).length + message.payload.length = _
  rw [List.length_append, identifierFor]
  split <;> rfl

/-- What is written for a neutral packet is one well-formed packet exactly when its type
has no fixed flags and its lengths fit. -/
theorem encodesOnePacket_iff {generated : UInt16} {packet : Packet} {converted : MqttPacketV3}
    (accepted : tryFrom generated packet = .ok converted) :
    EncodesOnePacket converted ↔ Writable packet := by
  cases packet
  case connect connect =>
    cases accepted
    rw [Writable, ← connectFits_iff]
    constructor
    · exact fits_of_encodesOnePacket
    · exact fun both => connect_encodesOnePacket both.1 both.2
  case publish message =>
    rcases tryFrom_publish_eq_ok.mp accepted with ⟨qos, fits, rfl⟩
    rw [Writable, ← remainingLength_built generated message]
    constructor
    · rintro ⟨bytes, _, writes⟩
      exact remainingLength_lt_of_accepted (writes.parsed _ (Nat.le_refl _) [])
    · exact publish_encodesOnePacket qos fits
  case suback suback =>
    cases accepted
    constructor
    · rintro ⟨_, _, writes⟩
      have bound := remainingLength_lt_of_accepted (writes.parsed _ (Nat.le_refl _) [])
      change 2 + (suback.reasonCodes.map reasonToV3SubackReturnCode).length < _ at bound
      rw [List.length_map] at bound
      exact bound
    · exact suback_encodesOnePacket
  case pubrel ack =>
    cases accepted
    exact iff_false_intro (pubrel_not_encodesOnePacket ack.packetIdentifier)
  case subscribe subscribe =>
    rw [tryFrom] at accepted
    cases filters : topicFiltersOf subscribe.topics with
    | error =>
      rw [filters] at accepted
      cases accepted
    | ok found =>
      rw [filters] at accepted
      cases accepted
      exact iff_false_intro (subscribe_not_encodesOnePacket subscribe.packetIdentifier found)
  case unsubscribe unsubscribe =>
    cases accepted
    exact iff_false_intro
      (unsubscribe_not_encodesOnePacket unsubscribe.packetIdentifier unsubscribe.topics)
  case auth => cases accepted
  case connack connack =>
    cases accepted
    exact iff_true_intro (connack_encodesOnePacket _ _)
  case puback | pubrec | pubcomp | unsuback =>
    cases accepted
    apply iff_true_intro
    apply identifier_encodesOnePacket (by decide) rfl
    all_goals
      intro _
      rfl
  case pingreq | pingresp | disconnect =>
    cases accepted
    apply iff_true_intro
    apply header_encodesOnePacket (by decide) rfl
    all_goals
      intro _
      rfl

theorem topicA_fits : TopicFits "a" := by
  change (encode "a").length < 65536
  decide +kernel

/-- A PUBLISH without payload is written as one well-formed packet. -/
theorem encodesOnePacket_publishOf : EncodesOnePacket (.publish (built 0 (publishOf "a"))) := by
  apply (encodesOnePacket_iff (tryFrom_publish_eq_ok.mpr ⟨by decide, topicA_fits, rfl⟩)).mpr
  change (encode "a").length + 2 + 0 + 0 < 268435456
  decide +kernel

def connectOfClient (clientId : String) : Connect where
  protocolVersion := .v3_1_1
  clientId := clientId
  username := none
  password := none
  keepAlive := 60
  cleanStart := true
  sessionExpiryInterval := none
  will := none
  properties := {}

/-- A PUBREL and a SUBSCRIBE without their flags, the latter with two encodings; and a
CONNECT whose client identifier is longer than its length says. -/
theorem flags_and_lengths_lost :
    tryFrom 0 (.pubrel (v3Ack 10)) = .ok (.pubrel (PubRelPacket.new 10)) ∧
      (PubRelPacket.new 10).encode = [0x60, 0x02, 0x00, 0x0A] ∧
      ¬ EncodesOnePacket (.pubrel (PubRelPacket.new 10)) ∧
      (SubscribePacket.build 16 [⟨"a/b", 2⟩]).encode =
        .ok [0x80, 0x08, 0x00, 0x10, 0x00, 0x03, 0x61, 0x2F, 0x62, 0x02] ∧
      (SubscribePacket.build 16 [⟨"a/b", 2⟩]).toBytes =
        .ok [0x82, 0x08, 0x00, 0x10, 0x00, 0x03, 0x61, 0x2F, 0x62, 0x02] ∧
      ¬ EncodesOnePacket (.connect (connectOf
        (connectOfClient (decodeLossy (List.replicate 21846 0xFF))))) := by
  refine ⟨rfl, by decide +kernel, pubrel_not_encodesOnePacket 10, by decide +kernel,
    by decide +kernel, ?_⟩
  intro encodes
  have fits := (fits_of_encodesOnePacket encodes).2.clientIdentifier
  have tripled := length_encode_replicate 21846
  change (encode (decodeLossy (List.replicate 21846 0xFF))).length < 65536 at fits
  omega

end YedMQ.Mqtt.V3
