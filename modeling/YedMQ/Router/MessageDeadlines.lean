import YedMQ.Router.DurableRoute

/-! # Deadlines of messages

How long a message is passed on between the publisher and a subscriber, and how long the
durable routes last that it is put on.
-/

namespace YedMQ

/-- A message on its way, with the time at which its durable route is given up, if it has been
put on one. -/
structure Underway where
  publish : Publish
  expiryAt : Option Nat

/-- What the broker does with a message between the publisher and a subscriber. -/
inductive Hop where
  /-- The message is stored or queued and read again, or sent to another actor. -/
  | keep
  /-- Plugins, routers and sessions change the other fields of the message. -/
  | alter (fields : Publish)
  | check
  /-- The message gets a row in the outbox, unless that would have expired already. -/
  | enqueue (routeTtlSeconds : Nat)
  /-- Another node makes a row in its inbox of it. -/
  | accept (routeTtlSeconds : Nat)
  /-- A row of the outbox or the inbox is worked on. -/
  | dispatch
  | prepare (protocolVersion : ProtocolVersion)

namespace Hop

def judges : Hop → Bool
  | keep => false
  | alter _ => false
  | _ => true

def pass (now : Nat) (message : Underway) : Hop → Option Underway
  | keep => some message
  | alter fields =>
    some { message with
      publish := { fields with
        messageExpiryInterval := message.publish.messageExpiryInterval
        expiresAtUnixSecs := message.publish.expiresAtUnixSecs } }
  | check => if message.publish.isExpired now then none else some message
  | enqueue routeTtlSeconds =>
    let expiryAt := (Packet.publish message.publish).routeExpiryAt routeTtlSeconds now
    if expiryAt ≤ now then none else some { message with expiryAt := some expiryAt }
  | accept routeTtlSeconds =>
    if message.publish.isExpired now then none
    else some { message with
      expiryAt := message.expiryAt.map fun expiryAt =>
        (Router.newInboxItem { messageTtlSeconds := routeTtlSeconds } now
          ⟨.publish message.publish, expiryAt⟩).expiryAt }
  | dispatch =>
    if message.expiryAt.any (· ≤ now) || message.publish.isExpired now then none
    else some message
  | prepare protocolVersion =>
    (message.publish.prepareForDelivery protocolVersion now).map fun publish =>
      { message with publish := publish }

/-- A route has a lifetime of its own, and a row is not worked on after its end. -/
def withinRoute (now : Nat) (message : Underway) : Hop → Prop
  | enqueue routeTtlSeconds => 0 < routeTtlSeconds
  | dispatch => ∀ expiryAt, message.expiryAt = some expiryAt → now < expiryAt
  | _ => True

end Hop

namespace Underway

def received (interval : UInt32) (time : Nat) (publish : Publish) : Underway where
  publish := Publish.stampExpiry time
    { publish with messageExpiryInterval := some interval, expiresAtUnixSecs := none }
  expiryAt := none

def after (message : Underway) : List (Nat × Hop) → Option Underway
  | [] => some message
  | (now, hop) :: hops => (hop.pass now message).bind fun next => next.after hops

theorem after_concat (message : Underway) (hops : List (Nat × Hop)) (now : Nat) (hop : Hop) :
    message.after (hops ++ [(now, hop)]) = (message.after hops).bind (hop.pass now) := by
  induction hops generalizing message with
  | nil => cases hop.pass now message <;> simp [after]
  | cons first hops induction =>
    rw [List.cons_append, after, after, Option.bind_assoc]
    congr 1
    funext next
    exact induction next

/-- The message expires at the deadline, and its route was given up no later when it was
put on one. -/
structure Due (deadline : Nat) (hops : List (Nat × Hop)) (message : Underway) : Prop where
  expires : message.publish.expiresAtUnixSecs = some deadline
  route : ∀ expiryAt, message.expiryAt = some expiryAt → 0 < expiryAt ∧
    ∃ now ttl, (now, .enqueue ttl) ∈ hops ∧ expiryAt = min deadline (saturatingAdd now ttl)

variable {deadline : Nat} {hops : List (Nat × Hop)} {message next : Underway}

theorem Due.isExpired (due : message.Due deadline hops) (now : Nat) :
    message.publish.isExpired now = decide (deadline ≤ now) := by
  rw [Publish.isExpired, due.expires]

theorem Due.prepare (due : message.Due deadline hops) (protocolVersion : ProtocolVersion)
    (now : Nat) :
    message.publish.prepareForDelivery protocolVersion now =
      if deadline ≤ now then none
      else if protocolVersion = .v5_0 then
        some { message.publish with
          messageExpiryInterval := some (UInt32.ofNat (min (deadline - now) (2 ^ 32 - 1))) }
      else
        some message.publish := by
  rw [Publish.prepareForDelivery]
  split
  · rename_i unknown
    rw [due.expires] at unknown
    cases unknown
  · rename_i expiresAt known
    rw [due.expires] at known
    cases known
    rfl

theorem Due.pass (due : message.Due deadline hops) {now : Nat} {hop : Hop}
    (passed : hop.pass now message = some next) : next.Due deadline (hops ++ [(now, hop)]) := by
  have kept : ∀ expiryAt, message.expiryAt = some expiryAt → 0 < expiryAt ∧ ∃ time ttl,
      (time, .enqueue ttl) ∈ hops ++ [(now, hop)] ∧
        expiryAt = min deadline (saturatingAdd time ttl) := by
    intro expiryAt known
    rcases due.route expiryAt known with ⟨positive, time, ttl, listed, computed⟩
    exact ⟨positive, time, ttl, List.mem_append_left _ listed, computed⟩
  cases hop with
  | keep | alter fields =>
    cases passed
    exact ⟨due.expires, kept⟩
  | check | dispatch =>
    rw [Hop.pass] at passed
    split at passed
    · cases passed
    · cases passed
      exact ⟨due.expires, kept⟩
  | enqueue ttl =>
    simp only [Hop.pass, Packet.routeExpiryAt, due.expires] at passed
    split at passed
    · cases passed
    · cases passed
      refine ⟨due.expires, ?_⟩
      intro expiryAt known
      cases known
      refine ⟨by omega, now, ttl, ?_, rfl⟩
      exact List.mem_append_right _ (List.mem_singleton_self _)
  | accept =>
    rw [Hop.pass] at passed
    split at passed
    · cases passed
    · cases passed
      refine ⟨due.expires, ?_⟩
      intro expiryAt known
      rcases Option.map_eq_some_iff.mp known with ⟨before, stored, same⟩
      rw [Router.newInboxItem, if_pos (kept before stored).1] at same
      subst same
      exact kept before stored
  | prepare =>
    rcases Option.map_eq_some_iff.mp passed with ⟨_, prepared, built⟩
    subst built
    rw [due.prepare] at prepared
    split at prepared
    · cases prepared
    · split at prepared
      · cases prepared
        exact ⟨due.expires, kept⟩
      · cases prepared
        exact ⟨due.expires, kept⟩

theorem due_after (interval : UInt32) (time : Nat) (publish : Publish)
    (travelled : (received interval time publish).after hops = some message) :
    message.Due (saturatingAdd time interval.toNat) hops := by
  induction hops using List.reverseRecOn generalizing message with
  | nil =>
    cases travelled
    exact ⟨rfl, nofun⟩
  | append_singleton hops hop induction =>
    rw [after_concat] at travelled
    rcases Option.bind_eq_some_iff.mp travelled with ⟨_, earlier, passed⟩
    exact (induction earlier).pass passed

theorem Due.isSome_pass (due : message.Due deadline hops) (bounded : deadline < 2 ^ 64)
    (now : Nat) (hop : Hop) :
    (hop.pass now message).isSome ↔
      (hop.judges = true → now < deadline) ∧ hop.withinRoute now message := by
  cases hop with
  | keep | alter fields => simp [Hop.pass, Hop.judges, Hop.withinRoute]
  | check | accept ttl =>
    rw [Hop.pass, due.isExpired]
    split <;> simp_all [Hop.judges, Hop.withinRoute]
  | enqueue =>
    simp only [Hop.pass, Packet.routeExpiryAt, due.expires, Hop.judges, Hop.withinRoute]
    split
    · rename_i ended
      simp only [Option.isSome_none, Bool.false_eq_true, false_iff]
      rintro ⟨young, positive⟩
      have early := young trivial
      rcases min_le_iff.mp ended with expired | short
      · omega
      · rcases min_le_iff.mp short with ended | last <;> omega
    · rename_i lasts
      simp only [Option.isSome_some, true_iff]
      have early := lt_min_iff.mp (not_le.mp lasts)
      have positive := (lt_min_iff.mp early.2).1
      exact ⟨fun _ => early.1, by omega⟩
  | dispatch =>
    rw [Hop.pass, due.isExpired]
    cases known : message.expiryAt with
    | none => split <;> simp_all [Hop.judges, Hop.withinRoute]
    | some => split <;> simp_all [Hop.judges, Hop.withinRoute]; omega
  | prepare =>
    rw [Hop.pass, due.prepare]
    split
    · simp_all [Hop.judges]
    · split <;> simp_all [Hop.judges, Hop.withinRoute]

/-- A message that has come to a hop is passed on exactly before its deadline, as far as its
durable route lasts. What is written to a subscriber of MQTT 5 is the time that is left,
and no route outlives the message. -/
theorem passed_on_until_deadline (interval : UInt32) (time : Nat) (publish : Publish)
    (hops : List (Nat × Hop)) (message : Underway)
    (travelled : (received interval time publish).after hops = some message) (now : Nat)
    (later : time ≤ now) (hop : Hop) :
    ((hop.pass now message).isSome ↔
      (hop.judges = true → now < min (time + interval.toNat) (2 ^ 64 - 1)) ∧
        hop.withinRoute now message) ∧
    (∀ next, (Hop.prepare .v5_0).pass now message = some next → ∃ left,
      next.publish.messageExpiryInterval = some left ∧ 0 < left.toNat ∧
        left.toNat = min (time + interval.toNat) (2 ^ 64 - 1) - now) ∧
    (∀ ttl, (Packet.publish message.publish).routeExpiryAt ttl now ≤
      min (time + interval.toNat) (2 ^ 64 - 1)) ∧
    ∀ expiryAt, message.expiryAt = some expiryAt → ∃ start ttl,
      (start, .enqueue ttl) ∈ hops ∧ expiryAt =
        min (min (time + interval.toNat) (2 ^ 64 - 1)) (saturatingAdd start ttl) := by
  have due := due_after interval time publish travelled
  rw [saturatingAdd] at due
  refine ⟨due.isSome_pass (by omega) now hop, ?_, ?_, ?_⟩
  · intro next passed
    rcases Option.map_eq_some_iff.mp passed with ⟨_, prepared, built⟩
    subst built
    rw [due.prepare] at prepared
    split at prepared
    · cases prepared
    · cases prepared
      have small := interval.toNat_lt
      have fits : min (min (time + interval.toNat) (2 ^ 64 - 1) - now) (2 ^ 32 - 1) =
          min (time + interval.toNat) (2 ^ 64 - 1) - now := by
        omega
      refine ⟨_, rfl, ?_, ?_⟩
      · rw [UInt32.toNat_ofNat', fits, Nat.mod_eq_of_lt (by omega)]
        omega
      · rw [UInt32.toNat_ofNat', fits, Nat.mod_eq_of_lt (by omega)]
  · intro ttl
    rw [Packet.routeExpiryAt, due.expires]
    exact min_le_left _ _
  · intro expiryAt known
    exact (due.route expiryAt known).2

def plainPublish : Publish where
  protocolVersion := .v5_0
  topicName := "a"
  payload := [1]
  qos := 1
  retain := false
  dup := false
  packetIdentifier := some 1
  messageExpiryInterval := none
  expiresAtUnixSecs := none

def routed : List (Nat × Hop) :=
  [(110, .enqueue 86400), (120, .dispatch), (121, .accept 86400), (122, .dispatch)]

theorem passed_on_until_deadline_routed :
    ∃ message next, (received 60 100 plainPublish).after routed = some message ∧
      (Hop.prepare .v5_0).pass 130 message = some next ∧
      ∃ left, next.publish.messageExpiryInterval = some left ∧ 0 < left.toNat ∧
        left.toNat = min (100 + (60 : UInt32).toNat) (2 ^ 64 - 1) - 130 := by
  have travelled : ((received 60 100 plainPublish).after routed).isSome = true := by
    decide
  rcases Option.isSome_iff_exists.mp travelled with ⟨message, reached⟩
  have laws := passed_on_until_deadline 60 100 plainPublish routed message reached 130
    (by decide) (.prepare .v5_0)
  have passes := laws.1.mpr ⟨fun _ => by decide, trivial⟩
  rcases Option.isSome_iff_exists.mp passes with ⟨next, prepared⟩
  exact ⟨message, next, reached, prepared, laws.2.1 next prepared⟩

/-- A message with an interval of 100000 seconds that waits in the outbox for a day is
dropped, and so is every message at the last second. -/
theorem dropped_before_interval :
    (received 100000 0 plainPublish).after [(0, .enqueue 86400), (86400, .dispatch)] = none ∧
      86400 < 0 + (100000 : UInt32).toNat ∧
      (received 5 (2 ^ 64 - 2) plainPublish).after [(2 ^ 64 - 1, .check)] = none ∧
      2 ^ 64 - 1 < 2 ^ 64 - 2 + (5 : UInt32).toNat := by
  decide

end Underway

end YedMQ
