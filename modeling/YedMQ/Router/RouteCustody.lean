import YedMQ.Router.DurableRoute

/-! # Custody of durable routes

From the time at which a route is enqueued, the source or the destination has its row and
its payload, until the session accepts the message, the route expires or a retry limit is
reached. All that a worker finds out and acts on later (that the destination has the
route, that the route is settled) stays true whatever the others do, so stale copies of
rows do no harm.

The handler at the destination treats a route to the client with the empty identifier as
a message without a target. It reports success and stores nothing.
-/

namespace YedMQ.Router

open Semantics Future

variable {config : RouteRetryConfig} {route : DurableRoute}

namespace RouteState

variable {state before after : RouteState}

section Conditions

variable (config route state before after)

/-! ## Custody -/

def Expired : Prop :=
  ∃ time, state.history.enqueuedAt = some time ∧
    route.packet.routeExpiryAt config.messageTtlSeconds time ≤ state.history.latest

def Settled : Prop :=
  state.history.accepted = true ∨ state.Expired config route ∨ state.history.limitReached = true

def SourceHas : Prop :=
  (∃ item, state.outbox = some item) ∧ state.payloads .source = some route.packet

def DestinationHas : Prop :=
  (∃ item, state.inbox = some item ∧ item.status = .pending) ∧
    state.payloads .destination = some route.packet

def InCustody : Prop :=
  state.history.enqueued = true → ¬ state.Settled config route →
    state.SourceHas route ∨ state.DestinationHas route

/-! ## What stays true -/

def Taken : Prop :=
  state.Settled config route ∨ state.DestinationHas route

def Stored : Prop :=
  state.Settled config route ∨ state.payloads .destination = some route.packet

def Kept : Prop :=
  state.Taken config route ∨ state.payloads .source = some route.packet

def Secured : Prop :=
  state.Taken config route ∨ state.SourceHas route

structure Later : Prop where
  time : before.history.latest ≤ after.history.latest
  enqueuedAt : ∀ time, before.history.enqueuedAt = some time → after.history.enqueuedAt = some time
  limit : before.history.limitReached = true → after.history.limitReached = true
  settled : before.Settled config route → after.Settled config route
  taken : before.Taken config route → after.Taken config route
  stored : before.Stored config route → after.Stored config route

structure Spares : Prop where
  later : Later config route before after
  kept : before.Kept config route → after.Kept config route
  secured : before.Secured config route → after.Secured config route
  unread : after.history.enqueuedAt = before.history.enqueuedAt
  unanswered : after.history.enqueued = before.history.enqueued

/-! ## What copies say -/

def ExpiresBy (expiryAt : Nat) : Prop :=
  ∃ time, state.history.enqueuedAt = some time ∧
    route.packet.routeExpiryAt config.messageTtlSeconds time ≤ expiryAt

structure CopyKnown (expiryAt attempts : Nat) : Prop where
  expires : state.ExpiresBy config route expiryAt
  limit : config.maxRetryCount ≤ attempts → state.history.limitReached = true

structure InboxKnown (item : RouteInboxItem) : Prop where
  copy : state.CopyKnown config route item.expiryAt item.attempts
  pending : item.status = .pending → state.Stored config route
  completed : item.status = .completed → state.Settled config route

structure RequestKnown (request : RoutePacketRequest) : Prop where
  packet : request.packet = route.packet
  expires : state.ExpiresBy config route request.expiryAt

end Conditions

/-! ## What later states keep -/

theorem Later.refl (state : RouteState) : Later config route state state :=
  ⟨le_rfl, fun _ same => same, id, id, id, id⟩

theorem Spares.refl (state : RouteState) : Spares config route state state :=
  ⟨Later.refl state, id, id, rfl, rfl⟩

variable {middle : RouteState}

theorem Later.trans (first : Later config route before middle)
    (second : Later config route middle after) : Later config route before after where
  time := le_trans first.time second.time
  enqueuedAt := fun time known => second.enqueuedAt time (first.enqueuedAt time known)
  limit := fun reached => second.limit (first.limit reached)
  settled := fun settled => second.settled (first.settled settled)
  taken := fun taken => second.taken (first.taken taken)
  stored := fun stored => second.stored (first.stored stored)

theorem Spares.trans (first : Spares config route before middle)
    (second : Spares config route middle after) : Spares config route before after where
  later := first.later.trans second.later
  kept := fun kept => second.kept (first.kept kept)
  secured := fun secured => second.secured (first.secured secured)
  unread := second.unread.trans first.unread
  unanswered := second.unanswered.trans first.unanswered

structure Remembers (before after : RouteHistory) : Prop where
  time : before.latest ≤ after.latest
  enqueuedAt : ∀ time, before.enqueuedAt = some time → after.enqueuedAt = some time
  limit : before.limitReached = true → after.limitReached = true
  accepted : before.accepted = true → after.accepted = true

theorem Remembers.refl (history : RouteHistory) : Remembers history history :=
  ⟨le_rfl, fun _ same => same, id, id⟩

variable (remembers : Remembers before.history after.history)

include remembers

theorem Remembers.settled (settled : before.Settled config route) : after.Settled config route := by
  rcases settled with accepted | ⟨time, known, passed⟩ | limit
  · exact .inl (remembers.accepted accepted)
  · exact .inr (.inl ⟨time, remembers.enqueuedAt time known, le_trans passed remembers.time⟩)
  · exact .inr (.inr (remembers.limit limit))

/-- A settled route needs nothing any more. -/
theorem Remembers.spares_of_settled (unread : after.history.enqueuedAt = before.history.enqueuedAt)
    (unanswered : after.history.enqueued = before.history.enqueued)
    (settled : before.Settled config route) : Spares config route before after := by
  have still : after.Settled config route := remembers.settled settled
  refine ⟨⟨remembers.time, remembers.enqueuedAt, remembers.limit, remembers.settled, ?_, ?_⟩,
    ?_, ?_, unread, unanswered⟩
  · exact fun _ => .inl still
  · exact fun _ => .inl still
  · exact fun _ => .inl (.inl still)
  · exact fun _ => .inl (.inl still)

/-- A step that takes nothing from the destination. -/
theorem Remembers.later (payload : before.payloads .destination = some route.packet →
      after.payloads .destination = some route.packet)
    (inbox : (∃ item, before.inbox = some item ∧ item.status = .pending) →
      ∃ item, after.inbox = some item ∧ item.status = .pending) :
    Later config route before after := by
  refine ⟨remembers.time, remembers.enqueuedAt, remembers.limit, remembers.settled, ?_, ?_⟩
  · rintro (done | ⟨row, stored⟩)
    · exact .inl (remembers.settled done)
    · exact .inr ⟨inbox row, payload stored⟩
  · rintro (done | stored)
    · exact .inl (remembers.settled done)
    · exact .inr (payload stored)

omit remembers

/-- A step that takes nothing from the source either. -/
theorem Later.spares (later : Later config route before after)
    (payload : before.payloads .source = some route.packet →
      after.payloads .source = some route.packet)
    (outbox : (∃ item, before.outbox = some item) → ∃ item, after.outbox = some item)
    (unread : after.history.enqueuedAt = before.history.enqueuedAt)
    (unanswered : after.history.enqueued = before.history.enqueued) :
    Spares config route before after := by
  refine ⟨later, ?_, ?_, unread, unanswered⟩
  · rintro (done | kept)
    · exact .inl (later.taken done)
    · exact .inr (payload kept)
  · rintro (done | ⟨row, kept⟩)
    · exact .inl (later.taken done)
    · exact .inr ⟨outbox row, payload kept⟩

/-- A step that takes something from the source, once the destination has the route. -/
theorem Later.spares_of_taken (later : Later config route before after)
    (taken : before.Taken config route)
    (unread : after.history.enqueuedAt = before.history.enqueuedAt)
    (unanswered : after.history.enqueued = before.history.enqueued) :
    Spares config route before after :=
  ⟨later, fun _ => .inl (later.taken taken), fun _ => .inl (later.taken taken), unread, unanswered⟩

variable {expiryAt : Nat}

theorem ExpiresBy.later (expires : before.ExpiresBy config route expiryAt)
    (later : Later config route before after) : after.ExpiresBy config route expiryAt := by
  rcases expires with ⟨time, known, earlier⟩
  exact ⟨time, later.enqueuedAt time known, earlier⟩

variable {attempts : Nat}

theorem CopyKnown.later (known : before.CopyKnown config route expiryAt attempts)
    (later : Later config route before after) :
    after.CopyKnown config route expiryAt attempts :=
  ⟨known.expires.later later, fun enough => later.limit (known.limit enough)⟩

variable {item : RouteInboxItem}

theorem InboxKnown.later (known : before.InboxKnown config route item)
    (later : Later config route before after) : after.InboxKnown config route item :=
  ⟨known.copy.later later, fun pending => later.stored (known.pending pending),
    fun completed => later.settled (known.completed completed)⟩

theorem RequestKnown.later {request : RoutePacketRequest}
    (known : before.RequestKnown config route request)
    (later : Later config route before after) : after.RequestKnown config route request :=
  ⟨known.packet, known.expires.later later⟩

variable {now : Nat}

theorem ExpiresBy.settled (expires : state.ExpiresBy config route expiryAt)
    (passed : expiryAt ≤ now) (read : now ≤ state.history.latest) :
    state.Settled config route := by
  rcases expires with ⟨time, known, earlier⟩
  exact .inr (.inl ⟨time, known, le_trans earlier (le_trans passed read)⟩)

/-- What the workers go by when they give up a copy. -/
theorem CopyKnown.settled (known : state.CopyKnown config route expiryAt attempts)
    (finished : expiryAt ≤ now ∨ config.maxRetryCount ≤ attempts)
    (read : now ≤ state.history.latest) : state.Settled config route := by
  rcases finished with passed | enough
  · exact known.expires.settled passed read
  · exact .inr (.inr (known.limit enough))

theorem ExpiresBy.settled_of_isExpired (expires : state.ExpiresBy config route expiryAt)
    (expired : route.packet.isExpired now = true) (read : now ≤ state.history.latest) :
    state.Settled config route := by
  rcases expires with ⟨time, known, _⟩
  right; left
  exact ⟨time, known, le_trans (Packet.routeExpiryAt_le_of_isExpired expired) read⟩

/-! ## The invariant -/

structure Sound (config : RouteRetryConfig) (route : DurableRoute) (state : RouteState) : Prop where
  enqueued : state.history.enqueued = true → state.Secured config route
  outbox : ∀ item, state.outbox = some item →
    state.CopyKnown config route item.expiryAt item.attempts
  inbox : ∀ item, state.inbox = some item → state.InboxKnown config route item
  payloads : ∀ node packet, state.payloads node = some packet → packet = route.packet
  sent : ∀ call request, state.sent call = some request → state.RequestKnown config route request
  responses : ∀ call, state.responses call = some (.ok ()) → state.Taken config route

theorem sound_new : (new : RouteState).Sound config route where
  enqueued := by intro enqueued; cases enqueued
  outbox := by intro item present; cases present
  inbox := by intro item present; cases present
  payloads := by intro node packet present; cases present
  sent := by intro call request present; cases present
  responses := by intro call present; cases present

variable (sound : state.Sound config route)

include sound

theorem Sound.inCustody : state.InCustody config route := by
  intro enqueued unsettled
  rcases sound.enqueued enqueued with (settled | has) | has
  · exact absurd settled unsettled
  · exact .inr has
  · exact .inl has

/-- An inbox row of any status relieves the source. -/
theorem Sound.taken_of_inbox (present : state.inbox = some item) : state.Taken config route := by
  have known := sound.inbox item present
  cases status : item.status with
  | pending =>
    rcases known.pending status with settled | stored
    · exact .inl settled
    · exact .inr ⟨⟨item, present, status⟩, stored⟩
  | completed => exact .inl (known.completed status)

omit sound

/-- What is known after a step of all that was there before it. -/
structure Carried (config : RouteRetryConfig) (route : DurableRoute) (before after : RouteState) :
    Prop where
  outbox : ∀ item, before.outbox = some item →
    after.CopyKnown config route item.expiryAt item.attempts
  inbox : ∀ item, before.inbox = some item → after.InboxKnown config route item
  payloads : ∀ node packet, before.payloads node = some packet → packet = route.packet
  sent : ∀ call request, before.sent call = some request → after.RequestKnown config route request
  responses : ∀ call, before.responses call = some (.ok ()) → after.Taken config route

theorem Sound.carried (sound : before.Sound config route)
    (later : Later config route before after) : Carried config route before after where
  outbox := fun item present => (sound.outbox item present).later later
  inbox := fun item present => (sound.inbox item present).later later
  payloads := sound.payloads
  sent := fun call request present => (sound.sent call request present).later later
  responses := fun call present => later.taken (sound.responses call present)

theorem Sound.secured (sound : before.Sound config route)
    (spares : Spares config route before after) (enqueued : after.history.enqueued = true) :
    after.Secured config route := by
  rw [spares.unanswered] at enqueued
  exact spares.secured (sound.enqueued enqueued)

/-! ## The operations -/

/-- A step that keeps the invariant and what everyone relies on. -/
structure Safe (config : RouteRetryConfig) (route : DurableRoute) (before after : RouteState) :
    Prop where
  spares : Spares config route before after
  sound : after.Sound config route

theorem remembers_noteClock {task : RouteTask} (time : Nat) {history : RouteHistory}
    (first : task = .enqueue → history.enqueuedAt = none) :
    Remembers history (noteClock task time history) where
  time := le_max_left _ _
  enqueuedAt := by
    intro earlier known
    by_cases enqueues : task = .enqueue
    · rw [first enqueues] at known
      cases known
    · simp only [noteClock, enqueues, ↓reduceIte]
      exact known
  limit := id
  accepted := id

theorem remembers_noteAttempts (attempts : Nat) (history : RouteHistory) :
    Remembers history (noteAttempts config attempts history) where
  time := le_rfl
  enqueuedAt := fun _ known => known
  limit := fun reached => by rw [noteAttempts, reached, Bool.true_or]
  accepted := id

theorem limitReached_noteAttempts (history : RouteHistory)
    (enough : config.maxRetryCount ≤ attempts) :
    (noteAttempts config attempts history).limitReached = true := by
  rw [noteAttempts, decide_eq_true enough, Bool.or_true]

theorem remembers_noteDelivery (delivery : SessionDelivery) (history : RouteHistory) :
    Remembers history (noteDelivery delivery history) where
  time := le_rfl
  enqueuedAt := fun _ known => known
  limit := id
  accepted := fun accepted => by rw [noteDelivery, accepted, Bool.true_or]

@[simp] theorem payloads_setPayload_self (node : RouteNode) (packet : Option Packet) :
    (state.setPayload node packet).payloads node = packet :=
  Function.update_self _ _ _

variable {node other : RouteNode}

theorem payloads_setPayload_of_ne (different : other ≠ node) (packet : Option Packet) :
    (state.setPayload node packet).payloads other = state.payloads other :=
  Function.update_of_ne different _ _

/-- What is found in a changed table was put there or had been there. -/
theorem of_update_eq_some {κ ν : Type} [DecidableEq κ] {table : κ → Option ν} {key other : κ}
    {value : Option ν} {found : ν} (present : Function.update table key value other = some found) :
    value = some found ∨ table other = some found := by
  rw [Function.update_apply] at present
  split at present
  · exact .inl present
  · exact .inr present

theorem payloads_putPayload (present : state.payloads other = some route.packet) :
    (state.setPayload node (some route.packet)).payloads other = some route.packet := by
  by_cases same : other = node
  · subst same
    exact payloads_setPayload_self other _
  · rw [payloads_setPayload_of_ne same]
    exact present

/-- Nothing at the destination changes. -/
theorem later_deletePayload_source : Later config route state (state.setPayload .source none) := by
  refine Remembers.later (.refl _) ?_ id
  intro present
  exact present

def withOutbox (config : RouteRetryConfig) (state : RouteState) (item : RouteOutboxItem) :
    RouteState :=
  (state.setOutbox (some item)).record (noteAttempts config item.attempts)

def withInbox (config : RouteRetryConfig) (state : RouteState) (item : RouteInboxItem) :
    RouteState :=
  ((state.setInbox (some item)).record (noteAttempts config item.attempts)).record
    (noteStatus item.status)

include sound

theorem Sound.unchanged : Safe config route state state :=
  ⟨Spares.refl state, sound⟩

/-- A step that only adds to the history. -/
theorem Sound.record {change : RouteHistory → RouteHistory}
    (remembers : Remembers state.history (change state.history))
    (unread : (change state.history).enqueuedAt = state.history.enqueuedAt)
    (unanswered : (change state.history).enqueued = state.history.enqueued) :
    Safe config route state (state.record change) := by
  have later : Later config route state (state.record change) := remembers.later id id
  have spares : Spares config route state (state.record change) :=
    later.spares id id unread unanswered
  exact ⟨spares, { sound.carried later with enqueued := sound.secured spares }⟩

theorem Sound.putPayload (node : RouteNode) :
    Safe config route state (state.setPayload node (some route.packet)) := by
  have later : Later config route state (state.setPayload node (some route.packet)) :=
    Remembers.later (.refl _) payloads_putPayload id
  have spares := later.spares payloads_putPayload id rfl rfl
  refine ⟨spares, { sound.carried later with enqueued := sound.secured spares, payloads := ?_ }⟩
  intro other packet present
  rcases of_update_eq_some present with new | old
  · exact (Option.some.inj new).symm
  · exact sound.payloads other packet old

theorem Sound.deletePayload (later : Later config route state (state.setPayload node none))
    (secured : state.history.enqueued = true → (state.setPayload node none).Secured config route) :
    (state.setPayload node none).Sound config route := by
  refine { sound.carried later with enqueued := secured, payloads := ?_ }
  intro other packet present
  rcases of_update_eq_some present with new | old
  · cases new
  · exact sound.payloads other packet old

theorem Sound.deletePayload_source (taken : state.Taken config route) :
    Safe config route state (state.setPayload .source none) := by
  have spares := later_deletePayload_source.spares_of_taken taken rfl rfl
  exact ⟨spares, sound.deletePayload spares.later (sound.secured spares)⟩

theorem Sound.deletePayload_destination (settled : state.Settled config route) :
    Safe config route state (state.setPayload .destination none) := by
  have spares : Spares config route state (state.setPayload .destination none) :=
    Remembers.spares_of_settled (.refl _) rfl rfl settled
  exact ⟨spares, sound.deletePayload spares.later (sound.secured spares)⟩

theorem Sound.putOutbox {item : RouteOutboxItem}
    (expires : state.ExpiresBy config route item.expiryAt) :
    Safe config route state (state.withOutbox config item) := by
  have later : Later config route state (state.withOutbox config item) :=
    (remembers_noteAttempts item.attempts state.history).later id id
  have spares := later.spares id (fun _ => ⟨item, rfl⟩) rfl rfl
  refine ⟨spares, { sound.carried later with enqueued := sound.secured spares, outbox := ?_ }⟩
  intro stored present
  cases present
  exact ⟨expires.later later, limitReached_noteAttempts state.history⟩

theorem Sound.deleteOutbox
    (taken : state.Taken config route) : Safe config route state (state.setOutbox none) := by
  have later : Later config route state (state.setOutbox none) :=
    Remembers.later (.refl _) id id
  have spares := later.spares_of_taken taken rfl rfl
  refine ⟨spares, { sound.carried later with enqueued := sound.secured spares, outbox := ?_ }⟩
  intro stored present
  cases present

/-- A pending row may be stored when the payload is, and a completed one when the route is
settled. -/
theorem Sound.putInbox (expires : state.ExpiresBy config route item.expiryAt)
    (pending : item.status = .pending → state.Stored config route)
    (completed : item.status = .completed → state.Settled config route) :
    Safe config route state (state.withInbox config item) := by
  have remembers : Remembers state.history (state.withInbox config item).history :=
    ⟨le_rfl, fun _ known => known, (remembers_noteAttempts item.attempts state.history).limit, id⟩
  have spares : Spares config route state (state.withInbox config item) := by
    cases status : item.status with
    | pending =>
      have later : Later config route state (state.withInbox config item) :=
        remembers.later id fun _ => ⟨item, rfl, status⟩
      exact later.spares id id rfl rfl
    | completed => exact remembers.spares_of_settled rfl rfl (completed status)
  have later := spares.later
  refine ⟨spares, { sound.carried later with enqueued := sound.secured spares, inbox := ?_ }⟩
  intro stored present
  cases present
  exact ⟨⟨expires.later later, limitReached_noteAttempts state.history⟩,
    fun status => later.stored (pending status), fun status => later.settled (completed status)⟩

theorem Sound.deleteInbox (settled : state.Settled config route) :
    Safe config route state ((state.setInbox none).record noteRemoval) := by
  have remembers : Remembers state.history ((state.setInbox none).record noteRemoval).history :=
    ⟨le_rfl, fun _ known => known, id, id⟩
  have spares := remembers.spares_of_settled rfl rfl settled
  refine ⟨spares, { sound.carried spares.later with
    enqueued := sound.secured spares, inbox := ?_ }⟩
  intro stored present
  cases present

theorem Sound.setSent (call calls : Nat) (request : Option RoutePacketRequest)
    (known : ∀ content, request = some content → state.RequestKnown config route content) :
    Safe config route state { state.setSent call request with calls := calls } := by
  have later : Later config route state { state.setSent call request with calls := calls } :=
    Remembers.later (.refl _) id id
  have spares := later.spares id id rfl rfl
  refine ⟨spares, { sound.carried later with enqueued := sound.secured spares, sent := ?_ }⟩
  intro other content present
  rcases of_update_eq_some present with new | old
  · exact (known content new).later later
  · exact (sound.carried later).sent other content old

theorem Sound.respond (call : Nat) {result : RouteResult}
    (taken : result = .ok () → state.Taken config route) :
    Safe config route state (state.respond call result) := by
  have later : Later config route state (state.respond call result) :=
    Remembers.later (.refl _) id id
  have spares := later.spares id id rfl rfl
  refine ⟨spares, { sound.carried later with enqueued := sound.secured spares, responses := ?_ }⟩
  intro other present
  rcases of_update_eq_some present with new | old
  · exact later.taken (taken (Option.some.inj new))
  · exact (sound.carried later).responses other old

end RouteState

end YedMQ.Router
