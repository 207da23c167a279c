import YedMQ.Session.SessionActor.ExchangeUpdates
import YedMQ.Session.SessionActor.LockWaiting

/-! # The two directions of exchanges

Messages of the client and messages for the client are registered under identifiers that
either side chooses on its own, but in one table. The future of one direction leaves the
exchanges of the other as they are as long as it does not register or advance an identifier
that the other direction uses.
-/

namespace YedMQ

inductive Direction where
  | inbound
  | outbound
deriving DecidableEq, Repr

def Direction.other : Direction → Direction
  | inbound => outbound
  | outbound => inbound

def InflightState.direction : InflightState → Option Direction
  | waitPubrel => some .inbound
  | waitPuback | waitPubrec | waitPubcomp => some .outbound
  | finish => none

namespace Exchange

def runs (direction : Direction) (exchange : Exchange) : Bool :=
  exchange.state.direction == some direction

def isKept (exchange : Exchange) (after : Option Exchange) : Bool :=
  after.any fun kept =>
    kept.state == exchange.state && kept.packetKey == exchange.packetKey

end Exchange

variable (direction : Direction)

def ExchangeTable.Keeps (before after : ExchangeTable) : Prop :=
  ∀ id exchange, before id = some exchange → exchange.runs direction = true →
    exchange.isKept (after id) = true

/-- The update changes, replaces or removes an exchange of the given direction. -/
def ExchangeUpdate.disturbs (table : ExchangeTable) : ExchangeUpdate → Bool
  | .receive id qos packetKey => (table id).any fun exchange =>
    exchange.runs direction &&
      (Exchange.received qos packetKey).any fun new => !exchange.isKept (some new)
  | .discardUnsent id packetKey => (table id).any fun exchange =>
    exchange.runs direction && exchange.isUnsent packetKey
  | .advance id => (table id).any (Exchange.runs direction)
  | _ => false

theorem Exchange.isKept_self (exchange : Exchange) : exchange.isKept (some exchange) = true := by
  simp [Exchange.isKept]

theorem Exchange.isKept_advance {direction : Direction} {exchange : Exchange}
    (running : exchange.runs direction = true) :
    exchange.isKept (some exchange.advance) = false := by
  rcases exchange with ⟨state, _, _⟩
  cases state with
  | finish => simp [Exchange.runs, InflightState.direction] at running
  | _ => simp [Exchange.isKept, Exchange.advance, InflightState.next]

theorem ExchangeTable.keeps_iff_at (table : ExchangeTable)
    {update : ExchangeUpdate} {packetId : UInt16} (about : update.packetId = some packetId) :
    table.Keeps direction (update.apply table) ↔
      ∀ exchange, table packetId = some exchange → exchange.runs direction = true →
        exchange.isKept (update.act packetId (some exchange)) = true := by
  constructor
  · intro keeps exchange present running
    have kept := keeps packetId exchange present running
    rw [ExchangeUpdate.apply, present] at kept
    exact kept
  · intro keeps id exchange present running
    rw [ExchangeUpdate.apply, present]
    rcases eq_or_ne id packetId with same | different
    · subst same
      exact keeps exchange present running
    · rw [ExchangeUpdate.act_of_ne about different]
      exact exchange.isKept_self

theorem ExchangeTable.keeps_iff (table : ExchangeTable) (update : ExchangeUpdate) :
    table.Keeps direction (update.apply table) ↔ update.disturbs direction table = false := by
  cases update with
  | keep =>
    apply iff_of_true _ rfl
    intro id exchange present _
    rw [ExchangeUpdate.apply_keep, present]
    exact exchange.isKept_self
  | clean =>
    apply iff_of_true _ rfl
    intro id exchange present running
    have unfinished : (exchange.state != .finish) = true := by
      cases finished : exchange.state with
      | finish => simp [Exchange.runs, finished, InflightState.direction] at running
      | _ => rfl
    rw [ExchangeUpdate.apply, present, ExchangeUpdate.act, Option.filter_some, if_pos unfinished]
    exact exchange.isKept_self
  | send packetId qos packetKey started =>
    apply iff_of_true _ rfl
    apply (keeps_iff_at direction table rfl).mpr
    intro exchange _ _
    rw [ExchangeUpdate.act, if_pos rfl]
    exact exchange.isKept_self
  | setDeliveryStarted packetId started =>
    apply iff_of_true _ rfl
    apply (keeps_iff_at direction table rfl).mpr
    simp [ExchangeUpdate.act, Exchange.isKept, Exchange.setStarted]
  | markDeliveryStarted packetId packetKey =>
    apply iff_of_true _ rfl
    apply (keeps_iff_at direction table rfl).mpr
    intro exchange _ _
    simp only [ExchangeUpdate.act, if_true, Option.map_some, Exchange.markStarted]
    split <;> simp [Exchange.isKept, Exchange.setStarted]
  | receive packetId qos packetKey =>
    refine (keeps_iff_at direction table rfl).trans ?_
    rw [ExchangeUpdate.disturbs]
    cases present : table packetId with
    | none => simp
    | some =>
      cases new : Exchange.received qos packetKey with
      | none => simp [ExchangeUpdate.act, new, Exchange.isKept_self]
      | some =>
        simp [ExchangeUpdate.act, new]
  | discardUnsent packetId packetKey =>
    refine (keeps_iff_at direction table rfl).trans ?_
    rw [ExchangeUpdate.disturbs]
    cases present : table packetId with
    | none => simp
    | some exchange =>
      cases unsent : exchange.isUnsent packetKey with
      | true => simp [ExchangeUpdate.act, unsent, Exchange.isKept]
      | false => simp [ExchangeUpdate.act, Option.filter_some, unsent, Exchange.isKept_self]
  | advance packetId =>
    refine (keeps_iff_at direction table rfl).trans ?_
    rw [ExchangeUpdate.disturbs]
    cases present : table packetId with
    | none => simp
    | some exchange =>
      simp only [Option.some.injEq, forall_eq', ExchangeUpdate.act, Option.any_some]
      cases running : exchange.runs direction with
      | false => simp
      | true => simp [Exchange.isKept_advance running]

namespace SessionActor

open Semantics Future Raft.SessionState ExchangeTable

inductive ActsFor : Direction → Fut Completion → Prop where
  | publish (publish : Publish) (context : ClientContext) :
      ActsFor .inbound (publishTask publish context)
  | pubrel (packetId : UInt16) (context : ClientContext) :
      ActsFor .inbound (pubrelTask packetId context)
  | delivery (publish : Publish) (context : OutboundPublishDeliveryContext) (reserved : Bool) :
      ActsFor .outbound (deliveryTask publish context reserved)
  | registered (deferred : DeferredOutboundPublish)
      (context : OutboundPublishDeliveryContext) (reserved : Bool) :
      ActsFor .outbound (registeredTask deferred context reserved)
  | puback (packetId : UInt16) (context : ClientContext) :
      ActsFor .outbound (pubackTask packetId context)
  | pubrec (packetId : UInt16) (context : ClientContext) :
      ActsFor .outbound (pubrecTask packetId context)
  | pubcomp (packetId : UInt16) (context : ClientContext) :
      ActsFor .outbound (pubcompTask packetId context)
  | retry (context : OutboundPublishDeliveryContext) (deferredPacketIds : List UInt16) :
      ActsFor .outbound (retryTask context deferredPacketIds)
  | retryAll (context : OutboundPublishDeliveryContext) : ActsFor .outbound (retryAllTask context)

structure KeepsExchanges (direction : Direction) (before after : Session) : Prop where
  here : before.exchanges.Keeps direction after.exchanges
  replicated : ∀ table, before.replicatedExchanges = some table →
    ∃ changed, after.replicatedExchanges = some changed ∧ table.Keeps direction changed

/-- A step of a future that acts for one direction keeps the exchanges of the other. -/
def Separate (system : SessionSystem) (input : SessionInput) : Prop :=
  ∀ place choose, input = .poll place choose → ∀ task ∈ system.taskAt behaviour place,
    ∀ direction, ActsFor direction task.program → ∀ next, step system input = some next →
      KeepsExchanges direction.other system.shared next.shared

/-- The operation registers or advances no identifier that the other direction uses. -/
structure Harmless (direction : Direction) (session : Session) (op : Op)
    (choice : op.Choice) : Prop where
  here : ∀ answer : op.Answer,
    (op.localUpdate answer).disturbs direction.other session.exchanges = false
  replicated : ∀ table, session.replicatedExchanges = some table →
    (op.replicatedUpdate session choice).disturbs direction.other table = false

def Apart (system : SessionSystem) (input : SessionInput) : Prop :=
  ∀ place choose, input = .poll place choose → ∀ task ∈ system.taskAt behaviour place,
    ∀ direction, ActsFor direction task.program → ∀ op resume,
      task.current = .await op resume → Harmless direction system.shared op (choose op)

/-! ## One step -/

variable {direction : Direction}

/-- The futures of both directions neither create nor delete the session's state. -/
theorem keepsStates_of_actsFor {future : Fut Completion} (acts : ActsFor direction future) :
    future.Only fun op => op.keepsStates = true := by
  have ack : ∀ packetId context op, AckOp packetId context op → op.keepsStates = true := by
    intro packetId context op kind
    cases kind <;> rfl
  have delivery : ∀ context op, DeliveryOp context op → op.keepsStates = true := by
    intro context op kind
    cases kind <;> rfl
  have retry : ∀ context op, RetryOp context op → op.keepsStates = true := by
    intro context op kind
    cases kind <;> rfl
  cases acts with
  | publish publish context =>
    apply (only_publishTask context publish).mono
    intro op kind
    cases kind with
    | accept _ kind => cases kind <;> rfl
    | _ => rfl
  | pubrel packetId context => exact (only_pubrelTask packetId context).mono (ack _ _)
  | delivery publish context reserved =>
    exact (only_deliveryTask publish context reserved).mono (delivery _)
  | registered deferred context reserved =>
    exact (only_registeredTask context deferred reserved).mono (retry _)
  | puback packetId context => exact (only_pubackTask packetId context).mono (ack _ _)
  | pubrec packetId context => exact (only_pubrecTask packetId context).mono (ack _ _)
  | pubcomp packetId context => exact (only_pubcompTask packetId context).mono (ack _ _)
  | retry context deferredPacketIds =>
    exact (only_retryTask context deferredPacketIds).mono (retry _)
  | retryAll context => exact (only_retryAllTask context).mono (retry _)

theorem disturbs_localUpdate (direction : Direction) (table : ExchangeTable) {op : Op}
    (answer other : op.Answer) :
    (op.localUpdate answer).disturbs direction table =
      (op.localUpdate other).disturbs direction table := by
  have sends : ∀ (qos : UInt8) (packetKey : String) (result : Option UInt16),
      (result.elim ExchangeUpdate.keep fun id => .send id qos packetKey true).disturbs
        direction table = false := by
    intro qos packetKey result
    cases result <;> rfl
  cases op with
  | access what =>
    cases what with
    | registerTx packetId qos packetKey =>
      exact (sends qos packetKey answer).trans (sends qos packetKey other).symm
    | _ => rfl
  | _ => rfl

/-- An operation of a future keeps the exchanges of the other direction if and only if it is
harmless. -/
theorem keepsExchanges_iff {task : Nat} {session next : Session} {op : Op} {choice : op.Choice}
    {answer : op.Answer} (stays : op.keepsStates = true)
    (performed : perform task session op choice = some (next, answer)) :
    KeepsExchanges direction.other session next ↔ Harmless direction session op choice := by
  have own := perform_exchanges performed
  have replicated := perform_replicatedExchanges stays performed
  constructor
  · intro keeps
    constructor
    · intro other
      have kept := keeps.here
      rw [own, keeps_iff] at kept
      rw [disturbs_localUpdate _ _ other answer]
      exact kept
    · intro table present
      rcases keeps.replicated table present with ⟨_, found, kept⟩
      rw [replicated, present] at found
      cases found
      exact (keeps_iff _ _ _).mp kept
  · intro harmless
    constructor
    · rw [own, keeps_iff]
      exact harmless.here answer
    · intro table present
      rw [replicated, present]
      exact ⟨_, rfl, (keeps_iff _ _ _).mpr (harmless.replicated table present)⟩

theorem separate_iff_apart {system next : SessionSystem} {input : SessionInput}
    (stepped : step system input = some next) :
    Separate system input ↔ Apart system input := by
  cases input with
  | receive | park | finish | environment =>
    apply iff_of_true
    · intro place choose polls
      cases polls
    · intro place choose polls
      cases polls
  | poll place choose =>
    rcases System.step_poll stepped with ⟨_, task, _, op, resume, shared, _,
      suspended, found, _, performed, result⟩
    -- What the step does to the session is what the operation does.
    have exactly : ∀ direction, ActsFor direction task.program →
        (KeepsExchanges direction.other system.shared next.shared ↔
          Harmless direction system.shared op (choose op)) := by
      intro direction acts
      have only := ((keepsStates_of_actsFor acts).follows task.follows).2
      rw [suspended] at only
      rw [result]
      exact keepsExchanges_iff only.1 performed
    constructor
    · intro separate _ _ polls other member direction acts otherOp otherResume current
      cases polls
      rw [found] at member
      cases member
      rw [suspended] at current
      cases current
      exact (exactly direction acts).mp
        (separate place choose rfl task found direction acts next stepped)
    · intro apart _ _ polls other member direction acts final reached
      cases polls
      rw [found] at member
      cases member
      rw [stepped] at reached
      cases reached
      exact (exactly direction acts).mpr
        (apart place choose rfl task found direction acts op resume suspended)

/-- In every run, the steps that keep the two directions apart are those of futures that
register or advance no identifier that the other direction uses. -/
theorem eachStep_separate_iff (session : Session) (inputs : List SessionInput) :
    EachStep step Separate (initial session) inputs ↔
      EachStep step Apart (initial session) inputs := by
  constructor
  · intro separate visited input isPrefix reached next runs stepped
    exact (separate_iff_apart stepped).mp
      (separate visited input isPrefix reached next runs stepped)
  · intro apart visited input isPrefix reached next runs stepped
    exact (separate_iff_apart stepped).mpr (apart visited input isPrefix reached next runs stepped)

/-! ## Collisions -/

def deliversFirst : List SessionInput :=
  startUp ++ [.environment (.post (.outboundMessage (.publish (somePublish none)))),
    .receive] ++ List.replicate 7 (.poll ⟨.wait, 0⟩ (granting "out" noOrders)) ++
      [.finish ⟨.wait, 0⟩]

def publishesFirst : List SessionInput :=
  [.environment (.post (.inboundPacket (.publish { somePublish (some 1) with qos := 2 }))),
    .receive] ++ List.replicate 10 (.poll ⟨.spawn, 0⟩ (granting "in" noOrders)) ++
      [.finish ⟨.spawn, 0⟩]

def completesFirst : List SessionInput :=
  [.environment (.post (.inboundPacket (.pubcomp (successAck 1)))), .receive] ++
    List.replicate 2 (pollTop noOrders)

def firstExchange (system : SessionSystem) : Option Exchange × Option Exchange :=
  (system.shared.exchanges 1, system.shared.replicatedExchanges.bind fun table => table 1)

/-- A PUBLISH of the client takes the place of a message for the client, and a PUBCOMP of
the client finishes an exchange that waits for a PUBREL, in both tables. -/
theorem collisions_disturb :
    (∃ before after, Semantics.run step (initial persistentSession) deliversFirst =
        some before ∧ Semantics.run step before publishesFirst = some after ∧
      firstExchange before =
        (some ⟨.waitPuback, some "out", true⟩, some ⟨.waitPuback, some "out", true⟩) ∧
      firstExchange after =
        (some ⟨.waitPubrel, some "in", true⟩, some ⟨.waitPubrel, some "in", true⟩)) ∧
    ∃ before after, Semantics.run step (initial persistentSession)
        (startUp ++ publishesFirst) = some before ∧
      Semantics.run step before completesFirst = some after ∧
      firstExchange before =
        (some ⟨.waitPubrel, some "in", true⟩, some ⟨.waitPubrel, some "in", true⟩) ∧
      firstExchange after = (some ⟨.finish, some "in", true⟩, some ⟨.finish, some "in", true⟩) := by
  constructor
  · have seen : (Semantics.run step (initial persistentSession) deliversFirst).bind
        (fun before => (Semantics.run step before publishesFirst).map fun after =>
          (firstExchange before, firstExchange after)) =
          some ((some ⟨.waitPuback, some "out", true⟩, some ⟨.waitPuback, some "out", true⟩),
            some ⟨.waitPubrel, some "in", true⟩, some ⟨.waitPubrel, some "in", true⟩) := by
      decide +kernel
    rcases Option.bind_eq_some_iff.mp seen with ⟨before, first, rest⟩
    rcases Option.map_eq_some_iff.mp rest with ⟨after, second, tables⟩
    exact ⟨before, after, first, second, congrArg Prod.fst tables, congrArg Prod.snd tables⟩
  · have seen : (Semantics.run step (initial persistentSession) (startUp ++ publishesFirst)).bind
        (fun before => (Semantics.run step before completesFirst).map fun after =>
          (firstExchange before, firstExchange after)) =
          some ((some ⟨.waitPubrel, some "in", true⟩, some ⟨.waitPubrel, some "in", true⟩),
            some ⟨.finish, some "in", true⟩, some ⟨.finish, some "in", true⟩) := by
      decide +kernel
    rcases Option.bind_eq_some_iff.mp seen with ⟨before, first, rest⟩
    rcases Option.map_eq_some_iff.mp rest with ⟨after, second, tables⟩
    exact ⟨before, after, first, second, congrArg Prod.fst tables, congrArg Prod.snd tables⟩

end SessionActor

end YedMQ
