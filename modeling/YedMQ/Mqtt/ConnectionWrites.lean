import YedMQ.Mqtt.Packet
import YedMQ.Semantics.Run

/-! # Writing packets to a client

The connection actor encodes the packets of a session into a buffer. It hands the buffer to
the channel of the network task after every hundred packets, at every tick of a timer and
before it closes. The channel may be full at that moment; the batch is then lost, although
the requests that filled it have been answered with `Ok`.
-/

namespace YedMQ

open Semantics

inductive ConnectionError where
  | connectionClosed
  | packetParseError (message : String)
  | mqtt5ProtocolError (reasonCode : ReasonCode) (message : String)

/-- The wire formats of the two protocol versions. No encoding is empty, since every packet
has a fixed header. -/
abbrev PacketEncoder :=
  ProtocolVersion → Packet → Except String {bytes : List UInt8 // bytes ≠ []}

structure ConnectionActor where
  /-- The channel to the network task is there. -/
  networkSender : Bool
  encodeBuffer : List UInt8
  pendingCount : Nat
  protocolVersion : ProtocolVersion
  maximumPacketSize : Option Nat
  pending : pendingCount = 0 ↔ encodeBuffer = []

namespace ConnectionActor

def new : ConnectionActor where
  networkSender := true
  encodeBuffer := []
  pendingCount := 0
  protocolVersion := .v3_1_1
  maximumPacketSize := none
  pending := by simp

def batchSize : Nat := 100

/-- Hand the batch to the channel. The second part is what the channel takes, which is
nothing if it has no room. -/
def flushBatch (room : Bool) (actor : ConnectionActor) : ConnectionActor × List UInt8 :=
  if actor.pendingCount = 0 ∨ actor.networkSender = false then
    (actor, [])
  else
    ({ actor with encodeBuffer := [], pendingCount := 0, pending := by simp },
      if room then actor.encodeBuffer else [])

def extend (bytes : {bytes : List UInt8 // bytes ≠ []}) (actor : ConnectionActor) :
    ConnectionActor :=
  { actor with
    encodeBuffer := actor.encodeBuffer ++ bytes.val
    pendingCount := actor.pendingCount + 1
    pending := by simp [bytes.property] }

def exceedsMaximumPacketSize (bytes : List UInt8) (actor : ConnectionActor) : Bool :=
  actor.protocolVersion = .v5_0 ∧ ∃ maximum ∈ actor.maximumPacketSize, maximum < bytes.length

variable (encode : PacketEncoder)

/-- What a request adds to the buffer. An expired publication and one that is too large for
the client add nothing. -/
def encoded (packet : Packet) (now : Nat) (actor : ConnectionActor) :
    Except ConnectionError (Option {bytes : List UInt8 // bytes ≠ []}) :=
  if actor.networkSender = false then
    .error .connectionClosed
  else
    match packet.prepareForDelivery actor.protocolVersion now with
    | none => .ok none
    | some packet =>
      match encode actor.protocolVersion packet with
      | .error message => .error (.packetParseError message)
      | .ok bytes =>
        if actor.exceedsMaximumPacketSize bytes then
          match packet with
          | .publish _ => .ok none
          | _ =>
            .error (.mqtt5ProtocolError .packetTooLarge
              ("encoded outbound packet size " ++ toString bytes.val.length ++
                " exceeds client Maximum Packet Size " ++
                toString (actor.maximumPacketSize.getD 0)))
        else
          .ok (some bytes)

def writePacketToClient (packet : Packet) (now : Nat) (room : Bool)
    (actor : ConnectionActor) : (ConnectionActor × List UInt8) × Except ConnectionError Unit :=
  match actor.encoded encode packet now with
  | .error error => ((actor, []), .error error)
  | .ok none => ((actor, []), .ok ())
  | .ok (some bytes) =>
    let actor := actor.extend bytes
    (if batchSize ≤ actor.pendingCount then actor.flushBatch room else (actor, []), .ok ())

def encodingOf (packet : Packet) (now : Nat) (actor : ConnectionActor) : List UInt8 :=
  match encode actor.protocolVersion
      ((packet.prepareForDelivery actor.protocolVersion now).getD packet) with
  | .ok bytes => bytes
  | .error _ => []

end ConnectionActor

/-- A connection, with the bytes that went into the channel and the packets whose requests
were answered with `Ok`. -/
structure Connection where
  actor : ConnectionActor
  handed : List UInt8
  accepted : List (Packet × List UInt8)

inductive ConnectionInput where
  | writePacketToClient (packet : Packet) (now : Nat) (room : Bool)
  | tick (room : Bool)
  | updateProtocolVersion (protocolVersion : ProtocolVersion)
  | updateMqtt5ClientLimits (maximumPacketSize : Option Nat)
  -- A `Disconnect`, or the end of the actor.
  | close (room : Bool)

namespace Connection

def new : Connection where
  actor := .new
  handed := []
  accepted := []

def put (outcome : ConnectionActor × List UInt8) (connection : Connection) : Connection :=
  { connection with actor := outcome.1, handed := connection.handed ++ outcome.2 }

variable (encode : PacketEncoder)

def step (connection : Connection) : ConnectionInput → Option Connection
  | .writePacketToClient packet now room =>
    match connection.actor.writePacketToClient encode packet now room with
    | (outcome, .error _) => some (connection.put outcome)
    | (outcome, .ok ()) =>
      some { connection.put outcome with
        accepted := connection.accepted ++
          [(packet, connection.actor.encodingOf encode packet now)] }
  | .tick room => some (connection.put (connection.actor.flushBatch room))
  | .updateProtocolVersion protocolVersion =>
    some { connection with actor := { connection.actor with protocolVersion := protocolVersion } }
  | .updateMqtt5ClientLimits maximumPacketSize =>
    some { connection with
      actor := { connection.actor with maximumPacketSize := maximumPacketSize } }
  | .close room =>
    let (actor, taken) := connection.actor.flushBatch room
    some (connection.put ({ actor with networkSender := false }, taken))

variable (connection : Connection)

def stream : List UInt8 :=
  connection.handed ++ connection.actor.encodeBuffer

/-- The accepted packets make up the stream, and each accepted publication with an
acknowledgement is in it. -/
structure Carried (connection : Connection) : Prop where
  complete : connection.stream = (connection.accepted.map (·.2)).flatten
  published : ∀ publish bytes, (Packet.publish publish, bytes) ∈ connection.accepted →
    0 < publish.qos → bytes <:+: connection.stream

def Fits (room : Bool) (actor : ConnectionActor) : Prop :=
  room = true ∨ actor.pendingCount = 0 ∨ actor.networkSender = false

/-- The packet of a request is neither expired nor too large, and the channel has room when a
batch is handed over. -/
def Undropped (connection : Connection) : ConnectionInput → Prop
  | .writePacketToClient packet now room =>
    match connection.actor.encoded encode packet now with
    | .error _ => True
    | .ok none => connection.actor.encodingOf encode packet now = []
    | .ok (some bytes) =>
      ConnectionActor.batchSize ≤ connection.actor.pendingCount + 1 →
        Fits room (connection.actor.extend bytes)
  | .tick room | .close room => Fits room connection.actor
  | _ => True

theorem carried_iff :
    Carried connection ↔ connection.stream = (connection.accepted.map (·.2)).flatten := by
  constructor
  · exact Carried.complete
  · intro complete
    refine ⟨complete, ?_⟩
    intro publish bytes member _
    rw [complete]
    exact List.infix_of_mem_flatten (List.mem_map_of_mem member)

theorem stream_flush (room : Bool) (actor : ConnectionActor) :
    (connection.put (actor.flushBatch room)).stream =
      connection.handed ++ actor.encodeBuffer ↔ Fits room actor := by
  rw [stream, put, ConnectionActor.flushBatch, Fits]
  split
  · rename_i kept
    simp [kept]
  · rename_i flushed
    rw [not_or] at flushed
    have waiting : actor.encodeBuffer ≠ [] := fun empty => flushed.1 (actor.pending.mpr empty)
    cases room with
    | true => simp
    | false => simp [flushed, waiting]

theorem encoded_eq_some {encode : PacketEncoder} {packet : Packet} {now : Nat}
    {actor : ConnectionActor} {bytes : {bytes : List UInt8 // bytes ≠ []}}
    (encoded : actor.encoded encode packet now = .ok (some bytes)) :
    actor.encodingOf encode packet now = bytes := by
  rw [ConnectionActor.encoded] at encoded
  split at encoded
  · cases encoded
  · split at encoded
    · cases encoded
    · rename_i prepared ready
      split at encoded
      · cases encoded
      · rename_i formed
        split at encoded
        · split at encoded <;> cases encoded
        · cases encoded
          rw [ConnectionActor.encodingOf, ready, Option.getD_some, formed]

theorem carried_step_iff {encode : PacketEncoder} (connection : Connection)
    (input : ConnectionInput) (next : Connection) (carried : Carried connection)
    (stepped : step encode connection input = some next) :
    Carried next ↔ Undropped encode connection input := by
  rw [carried_iff] at carried ⊢
  cases input with
  | writePacketToClient packet now room =>
    rw [step, ConnectionActor.writePacketToClient] at stepped
    rw [Undropped]
    cases encoded : connection.actor.encoded encode packet now with
    | error error =>
      simp only [encoded, Option.some.injEq] at stepped
      subst stepped
      simpa [put] using carried
    | ok added =>
      cases added with
      | none =>
        simp only [encoded, Option.some.injEq] at stepped
        subst stepped
        simp [stream, put] at carried ⊢
        simp [carried]
      | some bytes =>
        simp only [encoded, Option.some.injEq] at stepped
        subst stepped
        have whole : ((connection.accepted ++
            [(packet, connection.actor.encodingOf encode packet now)]).map (·.2)).flatten =
            connection.handed ++ (connection.actor.extend bytes).encodeBuffer := by
          rw [List.map_append, List.flatten_append, ← carried, encoded_eq_some encoded]
          simp [stream, ConnectionActor.extend]
        change (connection.put _).stream = List.flatten (List.map _ (_ ++ [_])) ↔
          (ConnectionActor.batchSize ≤ (connection.actor.extend bytes).pendingCount → _)
        rw [whole]
        split
        · rename_i full
          rw [stream_flush, forall_prop_of_true full]
        · rename_i partly
          refine iff_of_true ?_ (fun full => absurd full partly)
          rw [stream, put, List.append_nil]
  | tick room | close room =>
    cases stepped
    change (connection.put _).stream = (connection.accepted.map (·.2)).flatten ↔ _
    rw [← carried]
    exact stream_flush connection room connection.actor
  | updateProtocolVersion | updateMqtt5ClientLimits =>
    cases stepped
    exact iff_of_true carried trivial

/-- The stream of a connection is complete as long as no accepted packet is dropped. -/
theorem carried_iff_undropped (inputs : List ConnectionInput) :
    Throughout (step encode) Carried new inputs ↔
      EachStep (step encode) (Undropped encode) new inputs :=
  throughout_iff_eachStep carried_step_iff ((carried_iff new).mpr rfl) inputs

/-- What was handed over and what waits are encodings of accepted packets, in their order. -/
def Whole (handed buffer : List UInt8) (accepted : List (Packet × List UInt8)) : Prop :=
  ∃ sent waiting : List (List UInt8), handed = sent.flatten ∧ buffer = waiting.flatten ∧
    (sent ++ waiting).Sublist (accepted.map (·.2))

theorem Whole.flush {handed : List UInt8} {actor : ConnectionActor}
    {accepted : List (Packet × List UInt8)} (whole : Whole handed actor.encodeBuffer accepted)
    (room : Bool) : Whole (handed ++ (actor.flushBatch room).2)
      (actor.flushBatch room).1.encodeBuffer accepted := by
  rcases whole with ⟨sent, waiting, rfl, buffered, within⟩
  rw [ConnectionActor.flushBatch]
  split
  · exact ⟨sent, waiting, List.append_nil _, buffered, within⟩
  · cases room with
    | true => exact ⟨sent ++ waiting, [], by simp [buffered], rfl, by simpa using within⟩
    | false =>
      refine ⟨sent, [], List.append_nil _, rfl, ?_⟩
      rw [List.append_nil]
      exact (List.sublist_append_left _ _).trans within

theorem whole_step {encode : PacketEncoder} (connection : Connection) (input : ConnectionInput)
    (next : Connection)
    (whole : Whole connection.handed connection.actor.encodeBuffer connection.accepted)
    (stepped : step encode connection input = some next) :
    Whole next.handed next.actor.encodeBuffer next.accepted := by
  cases input with
  | writePacketToClient packet now room =>
    rw [step, ConnectionActor.writePacketToClient] at stepped
    cases encoded : connection.actor.encoded encode packet now with
    | error =>
      simp only [encoded, Option.some.injEq] at stepped
      subst stepped
      simpa [put] using whole
    | ok added =>
      rcases whole with ⟨sent, waiting, handed, buffered, within⟩
      cases added with
      | none =>
        simp only [encoded, Option.some.injEq] at stepped
        subst stepped
        refine ⟨sent, waiting, by simp [put, handed], buffered, ?_⟩
        rw [List.map_append]
        exact within.trans (List.sublist_append_left _ _)
      | some bytes =>
        simp only [encoded, Option.some.injEq] at stepped
        subst stepped
        have extended : Whole connection.handed (connection.actor.extend bytes).encodeBuffer
            (connection.accepted ++ [(packet, connection.actor.encodingOf encode packet now)]) := by
          refine ⟨sent, waiting ++ [bytes.val], handed, ?_, ?_⟩
          · simp [ConnectionActor.extend, buffered]
          · rw [List.map_append, ← List.append_assoc, encoded_eq_some encoded]
            exact within.append (List.Sublist.refl _)
        simp only [put]
        split
        · exact extended.flush room
        · simpa using extended
  | tick room | close room =>
    cases stepped
    exact whole.flush room
  | updateProtocolVersion | updateMqtt5ClientLimits =>
    cases stepped
    exact whole

/-- Whatever is dropped, the network gets whole packets in the order of their requests. -/
theorem whole_throughout (inputs : List ConnectionInput) :
    Throughout (step encode) (fun connection => Whole connection.handed
      connection.actor.encodeBuffer connection.accepted) new inputs := by
  intro visited _ reached runs
  exact run_invariant whole_step ⟨[], [], rfl, rfl, List.nil_sublist _⟩ runs

def acknowledged : Publish where
  protocolVersion := .v3_1_1
  topicName := "a"
  payload := []
  qos := 1
  retain := false
  dup := false
  packetIdentifier := some 1
  messageExpiryInterval := none
  expiresAtUnixSecs := none

/-- A publication with an acknowledgement is accepted and lost when the channel is full. -/
theorem accepted_publish_lost : ∃ final,
    run (step fun _ _ => .ok ⟨[0x32], List.cons_ne_nil _ _⟩) new
      [.writePacketToClient (.publish acknowledged) 0 true, .tick false] = some final ∧
    final.accepted = [(.publish acknowledged, [0x32])] ∧ final.stream = [] ∧
    ¬ Carried final := by
  refine ⟨_, rfl, rfl, rfl, ?_⟩
  intro carried
  have complete := carried.complete
  cases complete

end Connection

end YedMQ
