import YedMQ.Raft.SessionState.Effects
import YedMQ.Session.SessionActor.Footprints

/-! # What operations do to the exchanges

A session has two tables of exchanges, its own and the one that raft replicates. An
operation of a future changes one of them by an `ExchangeUpdate`, or none.
-/

namespace YedMQ.SessionActor

open Foundation Semantics Raft.SessionState Inflight

def Session.exchanges (session : Session) : ExchangeTable :=
  session.state.inflight.table

def Session.replicatedExchanges (session : Session) : Option ExchangeTable :=
  session.replicatedState.map fun state => state.inflight.table

/-! ## The local table -/

def Access.exchangeUpdate : (access : Access) → access.Result → ExchangeUpdate
  | .registerTx _ qos packetKey, result =>
    (result : Option UInt16).elim .keep fun id => .send id qos packetKey true
  | .registerTxIfAbsent packetId qos packetKey, _ => .send packetId qos packetKey true
  | .postpone packetId, _ => .setDeliveryStarted packetId false
  | .registerRx packetId qos packetKey, _ => .receive packetId qos packetKey
  | .discardUnsent packetId packetKey, _ => .discardUnsent packetId packetKey
  | .markDeliveryStarted packetId packetKey, _ => .markDeliveryStarted packetId packetKey
  | .nextState packetId, _ => .advance packetId
  | .cleanFinishedItems, _ => .clean
  | _, _ => .keep

theorem table_refreshExpiredTime (now : Nat) (due : InflightItem → Bool) (inflight : Inflight) :
    (refreshExpiredTime now due inflight).table = inflight.table := by
  funext id
  simp only [table, refreshExpiredTime, HashMap.lookup_mapValues, Option.map_map]
  congr 1
  funext item
  simp only [Function.comp]
  split <;> rfl

theorem table_registerOrReallocate (now : Nat) (packetId : UInt16) (qos : UInt8)
    (packetKey : String) (inflight : Inflight) :
    (registerOrReallocate now packetId qos packetKey inflight).1.table =
      (Access.exchangeUpdate (.registerTx packetId qos packetKey)
        (registerOrReallocate now packetId qos packetKey inflight).2).apply
          inflight.table := by
  rw [registerOrReallocate]
  split
  · rename_i registered _ accepted
    exact (table_registerWithTxPacket accepted).1
  · split
    · rfl
    · split
      · rename_i accepted
        exact (table_registerWithTxPacket accepted).1
      · rfl

theorem Access.table_run {now : Nat} {orders : Access.Orders} {state after : SessionState}
    {access : Access} {result : access.Result}
    (runs : access.run now orders state = some (after, result)) :
    after.inflight.table = (access.exchangeUpdate result).apply state.inflight.table := by
  cases access with
  | registerTx packetId qos packetKey =>
    cases runs
    exact table_registerOrReallocate now packetId qos packetKey state.inflight
  | registerTxIfAbsent =>
    rw [Access.run] at runs
    split at runs
    · split at runs
      · rename_i accepted
        cases runs
        exact (table_registerWithTxPacket accepted).1
      · rename_i absent _ error refused
        have used := registerWithTxPacket_eq_error_iff.mp ⟨error, refused⟩
        rw [getInflightCurrentState_eq, Option.isNone_map] at absent
        rw [packetIdExists_eq, Option.isNone_iff_eq_none.mp absent] at used
        cases used
    · rename_i used
      cases runs
      rw [getInflightCurrentState_eq] at used
      funext id
      simp only [exchangeUpdate, ExchangeUpdate.apply, ExchangeUpdate.act]
      split
      · rename_i here
        subst here
        cases present : state.inflight.table id with
        | none => simp [present] at used
        | some => rfl
      · rfl
  | postpone =>
    cases runs
    exact table_setDeliveryStarted state.inflight false
  | registerRx =>
    cases runs
    exact table_registerWithRxPacket state.inflight
  | discardUnsent =>
    cases runs
    exact table_discardUnsent state.inflight
  | markDeliveryStarted =>
    cases runs
    exact table_markDeliveryStarted state.inflight
  | nextState =>
    cases runs
    exact table_nextState state.inflight
  | cleanFinishedItems =>
    rw [Access.run] at runs
    split at runs
    · cases runs
      exact table_cleanFinishedItems state.inflight
    · cases runs
  | subscriptions | unsentItems =>
    rw [Access.run] at runs
    split at runs
    · cases runs
      rfl
    · cases runs
  | expiredEntries | allEntries =>
    rw [Access.run] at runs
    split at runs
    · cases runs
      exact table_refreshExpiredTime now _ state.inflight
    · cases runs
  | insertSubscription | removeSubscription | allocatePacketId | pushPending | drainPending
  | item | currentState =>
    cases runs
    rfl

def Op.localUpdate : (op : Op) → op.Answer → ExchangeUpdate
  | .access what, result => what.exchangeUpdate result
  | _, _ => .keep

section Perform

variable {task : Nat} {session next : Session} {op : Op} {choice : op.Choice}
  {answer : op.Answer}

theorem perform_exchanges (performed : perform task session op choice = some (next, answer)) :
    next.exchanges = (op.localUpdate answer).apply session.exchanges := by
  cases op with
  | access =>
    rcases perform_access performed with ⟨_, _, runs, changed⟩
    rw [changed]
    exact Access.table_run runs
  | _ =>
    rw [Session.exchanges, (perform_frame performed).state (by simp)]
    rfl

/-! ## The replicated table -/

theorem applyRaft_affects {now : Nat} {request : SessionStateRequest}
    {storage applied : SessionStateStorage} {response : SessionStateResponse}
    (handled : applyRaft now request storage = some (applied, response)) :
    Affects request.target (request.effect now) storage applied := by
  rw [applyRaft] at handled
  split at handled
  · rename_i accepted
    cases handled
    exact (applyRequest_describes accepted).toAffects
  · cases handled

end Perform

def raftUpdate (session : Session) (request : SessionStateRequest) (choice : RaftChoice) :
    ExchangeUpdate :=
  if choice.outcome = .lost ∨ request.target ≠ (session.tenantId, session.clientId) then .keep
  else request.exchangeUpdate

def Op.replicatedUpdate (session : Session) : (op : Op) → op.Choice → ExchangeUpdate
  | .raft request, choice => raftUpdate session request choice
  | _, _ => .keep

def Op.keepsStates : Op → Bool
  | .raft request => !request.isLifecycle
  | _ => true

theorem perform_replicatedExchanges {task : Nat} {session next : Session} {op : Op}
    {choice : op.Choice} {answer : op.Answer} (keeps : op.keepsStates = true)
    (performed : perform task session op choice = some (next, answer)) :
    next.replicatedExchanges =
      session.replicatedExchanges.map (op.replicatedUpdate session choice).apply := by
  have unchanged : ∀ table : Option ExchangeTable, table.map ExchangeUpdate.keep.apply = table := by
    intro table
    cases table <;> rfl
  cases op with
  | raft request =>
    simp only [Op.replicatedUpdate, raftUpdate]
    rcases perform_raft performed with ⟨replicated, changed, lost | ⟨_, applied, rest⟩⟩
    · rw [if_pos (.inl lost.1), unchanged, changed, lost.2.1]
    · have affects := applyRaft_affects applied
      by_cases own : request.target = (session.tenantId, session.clientId)
      · have held : ¬ (choice.outcome = .lost ∨
            request.target ≠ (session.tenantId, session.clientId)) := by
          rcases rest with ⟨outcome, _⟩ | ⟨outcome, _⟩ <;> simp [outcome, own]
        have here := affects.here
        rw [own] at here
        have stays : request.isLifecycle = false := by
          simpa [Op.keepsStates] using keeps
        rw [if_neg held, changed]
        simp only [Session.replicatedExchanges, Session.replicatedState]
        rw [here, table_effect stays, Option.map_map]
        rfl
      · rw [if_pos (.inr own), unchanged, changed]
        have same := affects.elsewhere session.tenantId session.clientId (Ne.symm own)
        simp only [Session.replicatedExchanges, Session.replicatedState]
        rw [same]
  | _ =>
    have frame := perform_frame performed
    have owner := ClientContext.mk.inj frame.owner
    rw [Op.replicatedUpdate, unchanged, Session.replicatedExchanges, Session.replicatedState,
      frame.replicated (by simp), owner.1, owner.2.1]
    · rfl
    · simp

end YedMQ.SessionActor
