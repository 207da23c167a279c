import Mathlib
import YedMQ.Semantics.Custody
import YedMQ.Semantics.Reaching
import YedMQ.Session.SessionActor.ExchangeUpdates

/-! # Acknowledgements and the exchanges that they answer

A PUBACK, PUBREC, PUBREL or PUBCOMP answers an exchange in one state. The handlers of PUBACK
and PUBREC look at the exchange of the local table before they advance it; those of PUBREL
and PUBCOMP do not, and neither does raft. Here is exactly when the handling of an
acknowledgement leaves alone what it does not answer.
-/

namespace YedMQ

/-- There is nothing to advance at an identifier, and nothing to drop. -/
structure ExchangeTable.Inert (id : UInt16) (table : ExchangeTable) : Prop where
  absent : table id = none
  unfinished : ∀ other exchange, table other = some exchange → exchange.state ≠ .finish

namespace ExchangeTable

variable {id : UInt16} {table : ExchangeTable}

theorem Inert.advance (inert : table.Inert id) :
    (ExchangeUpdate.advance id).apply table = table := by
  funext other
  rw [ExchangeUpdate.apply, ExchangeUpdate.act]
  split
  · rename_i here
    rw [here, inert.absent]
    rfl
  · rfl

theorem clean_eq_self (unfinished : ∀ other exchange, table other = some exchange →
    exchange.state ≠ .finish) : ExchangeUpdate.clean.apply table = table := by
  funext other
  rw [ExchangeUpdate.apply, ExchangeUpdate.act]
  cases present : table other with
  | none => rfl
  | some exchange =>
    simpa using unfinished other exchange present

/-- Advancing and dropping leave no trace only where there is nothing to do. -/
theorem inert_of_eq
    (same : ExchangeUpdate.clean.apply ((ExchangeUpdate.advance id).apply table) = table) :
    table.Inert id := by
  have unfinished : ∀ other exchange, table other = some exchange → exchange.state ≠ .finish := by
    intro other exchange present finished
    rw [← same, ExchangeUpdate.apply] at present
    have kept := (Option.filter_eq_some_iff.mp present).2
    simp [finished] at kept
  refine ⟨?_, unfinished⟩
  have here := congrFun same id
  cases present : table id with
  | none => rfl
  | some exchange =>
    simp only [ExchangeUpdate.apply, ExchangeUpdate.act, present] at here
    have kept := (Option.filter_eq_some_iff.mp here).1
    have next : exchange.state.next = exchange.state :=
      congrArg Exchange.state (Option.some.inj kept)
    have running := unfinished id exchange present
    cases state : exchange.state with
    | finish => exact absurd state running
    | _ =>
      rw [state] at next
      cases next

end ExchangeTable

namespace SessionActor

open Foundation Semantics Future Raft.SessionState ExchangeUpdate Session ExchangeTable

/-! ## What an acknowledgement may do -/

def Session.stateOf (id : UInt16) (session : Session) : Option InflightState :=
  (session.exchanges id).map Exchange.state

def Session.replicatedExchange (id : UInt16) (session : Session) : Option Exchange :=
  session.replicatedExchanges.bind fun table => table id

/-- An acknowledgement that the local exchange does not wait for changes neither table, and
no replicated exchange is advanced from a state that the acknowledgement does not answer. -/
structure Respects (kind : AckKind) (id : UInt16) (before after : Session) : Prop where
  unexpected : before.stateOf id ≠ some kind.answered → after.exchanges = before.exchanges ∧
      after.replicatedExchanges = before.replicatedExchanges
  replicated : ∀ exchange, before.replicatedExchange id = some exchange →
    exchange.state ≠ kind.answered → exchange.state ≠ .finish →
      (after.replicatedExchange id).map Exchange.state = some exchange.state

structure Answerable (kind : AckKind) (id : UInt16) (session : Session) : Prop where
  expected : kind.isHandled session = true → session.stateOf id = some kind.answered →
    session.cleanSession = false → ∀ exchange, session.replicatedExchange id = some exchange →
      exchange.state = kind.answered ∨ exchange.state = .finish
  unexpected : kind.isHandled session = true → session.stateOf id ≠ some kind.answered →
    kind.checks = false → session.exchanges.Inert id ∧
      (session.cleanSession = false → ∀ table, session.replicatedExchanges = some table →
        table.Inert id)

def Session.receiving (packet : Packet) (session : Session) : Session :=
  { session with mailbox := [.inboundPacket packet], lock := .free, running := true }

/-! ## Harmless acknowledgements -/

section Harmless

variable (Local : Prop) (origin : Session) (id : UInt16) (packet : Packet)

/-- The replicated table is as it was at the beginning, and if `Local` holds, so is the local
one. -/
structure Undisturbed (session : Session) : Prop where
  exchanges : Local → session.exchanges = origin.exchanges
  replicated : session.replicatedExchanges = origin.replicatedExchanges
  owner : session.clientContext = origin.clientContext
  connected : session.connected = origin.connected
  mailbox : session.mailbox = [.inboundPacket packet] ∨ session.mailbox = []

/-- The results of the futures that handle an acknowledgement and what follows from it. -/
def Consequence : Completion → Prop
  | .nothing => True
  | .acknowledged cleanup release =>
    Local → release = false ∧ (cleanup = true → origin.exchanges.Inert id)
  | .delivered _ _ => ¬ Local
  | .deliveredRegistered _ _ _ => ¬ Local
  | _ => False

def undisturbed : Custody Op.Choice Session Completion PUnit where
  holds session _ := Undisturbed Local origin packet session
  allowed _ _ _ _ := True
  settled _ value _ := Consequence Local origin id value

variable {Local origin id packet}

variable {number : Nat}

theorem neutral_undisturbed {op : Op}
    (here : Local → ∀ answer, (op.localUpdate answer).apply origin.exchanges = origin.exchanges)
    (there : ∀ request, op = .raft request → request.isLifecycle = false ∧
      ∀ table, origin.replicatedExchanges = some table →
        request.exchangeUpdate.apply table = table) (quiet : ∀ message, op ≠ .notify message) :
    (undisturbed Local origin id packet).Neutral behaviour number op := by
  intro session total choice next answer holds _ performed
  have stays : op.keepsStates = true := by
    cases op with
    | raft request => simp [Op.keepsStates, (there request rfl).1]
    | _ => rfl
  have unchanged : session.replicatedExchanges.map
      (op.replicatedUpdate session choice).apply = session.replicatedExchanges := by
    rw [holds.replicated]
    cases present : origin.replicatedExchanges with
    | none => rfl
    | some table =>
      cases op with
      | raft request =>
        simp only [Op.replicatedUpdate, raftUpdate, Option.map_some]
        split
        · rfl
        · rw [(there request rfl).2 table present]
      | _ => rfl
  refine ⟨?_, ?_, ?_, ?_, ?_⟩
  · intro asked
    rw [perform_exchanges performed, holds.exchanges asked]
    exact here asked answer
  · rw [perform_replicatedExchanges stays performed, unchanged, holds.replicated]
  · rw [(perform_frame performed).owner, holds.owner]
  · rw [(perform_frame performed).connected, holds.connected]
  · rw [(perform_frame performed).mailbox quiet]
    exact holds.mailbox

theorem keeps_undisturbed {mode : Mode} {future : Fut Completion}
    (neutral : future.Only ((undisturbed Local origin id packet).Neutral behaviour number))
    (returns : future.Always fun _ => Consequence Local origin id) :
    (undisturbed Local origin id packet).Keeps behaviour mode number
      ((undisturbed Local origin id packet).settled number) future 0 := by
  apply (Custody.keeps_of_neutral neutral returns 0).mono
  intro value left ⟨returned, _⟩
  exact returned

/-- An acknowledgement finds nothing to do, as far as anything is asked of it. -/
theorem neutral_ackOp
    (inert : Local → origin.exchanges.Inert id ∧ (origin.cleanSession = false → ∀ table,
      origin.replicatedExchanges = some table → table.Inert id))
    (asked : origin.cleanSession = false → Local) {op : Op}
    (kind : AckOp id origin.clientContext op) :
    (undisturbed Local origin id packet).Neutral behaviour number op := by
  apply neutral_undisturbed
  · intro asked _
    cases kind with
    | nextState => exact (inert asked).1.advance
    | cleanFinishedItems => exact clean_eq_self (inert asked).1.unfinished
    | _ => rfl
  · intro request raft
    subst raft
    have replicated : ¬ origin.cleanSession → ∀ table, origin.replicatedExchanges = some table →
        table.Inert id := by
      intro persistent
      rw [Bool.not_eq_true] at persistent
      exact (inert (asked persistent)).2 persistent
    cases kind with
    | raftNextState persistent =>
      exact ⟨rfl, fun table present => (replicated persistent table present).advance⟩
    | raftClean persistent =>
      refine ⟨rfl, ?_⟩
      intro table present
      exact clean_eq_self (replicated persistent table present).unfinished
  · cases kind <;> simp

/-- The results of an acknowledgement that does not look at the exchange. -/
theorem always_ackTask (kind : AckKind) (context : ClientContext)
    (blind : Local → kind.checks = false ∧ origin.exchanges.Inert id) :
    (kind.task id context).Always fun _ => Consequence Local origin id := by
  cases kind with
  | puback | pubrec =>
    apply Always.bind
    apply always_of_forall
    intro _ release asked
    cases (blind asked).1
  | pubrel | pubcomp =>
    apply Always.bind
    apply always_of_forall
    intro _ _ asked
    exact ⟨rfl, fun _ => (blind asked).2⟩

/-- A PUBACK or PUBREC that the exchange does not wait for ends after the first look. -/
theorem keeps_checked {kind : AckKind} (checks : kind.checks = true)
    (different : origin.stateOf id ≠ some kind.answered) (asked : Local)
    (context : ClientContext) (mode : Mode) (number : Nat) :
    (undisturbed Local origin id packet).Keeps behaviour mode number
      ((undisturbed Local origin id packet).settled number) (kind.task id context) 0 := by
  -- The state that the future finds is the one at the beginning.
  have looks : (undisturbed Local origin id packet).Keeps behaviour mode number
      (fun expected left => expected = false ∧ left = 0) (isExpected id kind.answered) 0 := by
    intro session others choice next answer _ _ marked holds _ performed
    have neutral : (undisturbed Local origin id packet).Neutral behaviour number
        (.access (.currentState id)) := by
      apply neutral_undisturbed
      · intro _ _
        rfl
      · intro request raft
        cases raft
      · simp
    refine ⟨0, neutral session _ choice next answer holds trivial performed, marked, ?_, rfl⟩
    rcases perform_access performed with ⟨_, _, runs, _⟩
    cases runs
    apply beq_eq_false_iff_ne.mpr
    rw [Inflight.getInflightCurrentState_eq]
    change session.stateOf id ≠ _
    rw [stateOf, holds.exchanges asked]
    exact different
  cases kind with
  | puback | pubrec =>
    refine Custody.Keeps.bind (looks.bind ?_ : (undisturbed Local origin id packet).Keeps
      behaviour mode number (fun release _ => release = false) _ 0) ?_
    · intro expected left ⟨no, _⟩
      subst no
      exact rfl
    · intro release left no _
      subst no
      exact ⟨rfl, by simp⟩
  | pubrel | pubcomp => cases checks

theorem keeps_cleanup (clean : Local → origin.exchanges.Inert id) (mode : Mode) (number : Nat) :
    (undisturbed Local origin id packet).Keeps behaviour mode number
      ((undisturbed Local origin id packet).settled number)
      (quietly cleanupLocalFinishedItems) 0 := by
  apply keeps_undisturbed
  · apply only_cleanupLocal.mono
    intro op kind
    apply neutral_undisturbed
    · intro asked answer
      cases kind with
      | cleanFinishedItems => exact clean_eq_self (clean asked).unfinished
      | acquire | deletePayload => rfl
    · intro request raft
      subst raft
      cases kind
    · cases kind <;> simp
  · apply Always.bind
    apply always_of_forall
    intro _ _
    trivial

theorem keeps_delivery (clean : origin.cleanSession = true) (free : ¬ Local)
    {start : SessionStart} (delivers : DeliveryProgram origin.clientContext start)
    (number : Nat) :
    (undisturbed Local origin id packet).Keeps behaviour start.mode number
      ((undisturbed Local origin id packet).settled number) start.future 0 := by
  -- A raft request of a delivery is made for a persistent session.
  have never : ∀ context : OutboundPublishDeliveryContext,
      context.client = origin.clientContext → context.cleanSession = true := by
    intro context own
    rw [← clean]
    exact congrArg ClientContext.cleanSession own
  have neutral : ∀ op : Op, (∀ request, op ≠ .raft request) → (∀ message, op ≠ .notify message) →
      (undisturbed Local origin id packet).Neutral behaviour number op :=
    fun op localOnly => neutral_undisturbed (fun asked => absurd asked free)
      fun request raft => absurd raft (localOnly request)
  cases delivers with
  | delivery mode publish context reserved own =>
    apply keeps_undisturbed
    · apply (only_deliveryTask publish context reserved).mono
      intro op kind
      cases kind with
      | raftRegister persistent | raftAppend persistent =>
        exact absurd (never context own) persistent
      | _ => exact neutral _ (by simp) (by simp)
    · exact Always.bind (always_of_forall _ fun _ _ => free)
  | registered deferred context reserved own =>
    apply keeps_undisturbed
    · apply (only_registeredTask context deferred reserved).mono
      intro op kind
      cases kind with
      | raftDiscard persistent | raftStart persistent => exact absurd (never context own) persistent
      | _ => exact neutral _ (by simp) (by simp)
    · exact Always.bind (always_of_forall _ fun _ _ => free)

variable {session : Session}

/-- Only fields of the actor and the traffic have changed. -/
theorem Undisturbed.continues {next : Session} (holds : Undisturbed Local origin packet session)
    (continues : session.Continues next) :
    Undisturbed Local origin packet next where
  exchanges := by
    intro asked
    rw [Session.exchanges, continues.state]
    exact holds.exchanges asked
  replicated := by
    rw [Session.replicatedExchanges, Session.replicatedState, continues.replicated,
      continues.tenantId, continues.clientId]
    exact holds.replicated
  owner := continues.clientContext.trans holds.owner
  connected := continues.connected.trans holds.connected
  mailbox := by
    rw [continues.mailbox]
    exact holds.mailbox

theorem Undisturbed.release (holds : Undisturbed Local origin packet session) (number : Nat) :
    Undisturbed Local origin packet (session.release number) :=
  { holds with }

theorem keeps_drain (clean : origin.cleanSession = true) (free : ¬ Local) (session : Session)
    (owner : session.clientContext = origin.clientContext) :
    ∀ start ∈ (drainDeferredOutboundPublishes session).2, ∀ number,
      (undisturbed Local origin id packet).Keeps behaviour start.mode number
        ((undisturbed Local origin id packet).settled number) start.future 0 := by
  intro start member number
  have delivers := (delivers_drain session).programs start member
  rw [owner] at delivers
  exact keeps_delivery clean free delivers number

theorem undisturbed_completeResult (clean : ¬ Local → origin.cleanSession = true)
    (holds : Undisturbed Local origin packet session) {completion : Completion}
    (returned : Consequence Local origin id completion) :
    Undisturbed Local origin packet (completeResult completion session).1 ∧
      ∀ start ∈ (completeResult completion session).2, ∀ number,
        (undisturbed Local origin id packet).Keeps behaviour start.mode number
          ((undisturbed Local origin id packet).settled number) start.future 0 := by
  have continues := (keeps_completeResult completion session).continues
  have quiet : completion.posts = [] := by
    cases completion with
    | published => cases returned
    | _ => rfl
  rw [quiet, session.posting_nil] at continues
  refine ⟨holds.continues continues, ?_⟩
  intro start member number
  cases completion with
  | nothing => cases member
  | acknowledged cleanup release =>
    rcases List.mem_append.mp member with first | drained
    · cases cleanup with
      | false => cases first
      | true =>
        rw [List.mem_singleton.mp first]
        apply keeps_cleanup
        intro asked
        exact (returned asked).2 rfl
    · cases release with
      | false => cases drained
      | true =>
        have free : ¬ Local := by
          intro asked
          cases (returned asked).1
        exact keeps_drain (clean free) free session.releaseReceiveSlot holds.owner start
          drained number
  | delivered =>
    rw [completeResult, completeDelivery.eq_def] at member
    split at member
    · cases member
    · cases member
    all_goals
      split at member
      · exact keeps_drain (clean returned) returned session.releaseReceiveSlot holds.owner
          start member number
      · cases member
  | deliveredRegistered reserved =>
    rw [completeResult, completeRegistered.eq_def] at member
    split at member
    · exact keeps_drain (clean returned) returned session holds.owner start member number
    · apply keeps_drain (clean returned) returned (session.releaseIf reserved) _ start member number
      rw [(continues_releaseIf reserved session).clientContext]
      exact holds.owner
    · cases member
  | _ => cases returned

end Harmless

section Sound

variable (kind : AckKind) (ack : Ack) (origin : Session)

def Foreign : Prop :=
  kind.isHandled origin = true → origin.stateOf ack.packetIdentifier ≠ some kind.answered

def ackCustody : Custody Op.Choice Session Completion PUnit :=
  undisturbed (Foreign kind ack origin) origin ack.packetIdentifier (kind.packet ack)

variable {kind ack origin}
variable (answerable : Answerable kind ack.packetIdentifier origin)

include answerable

theorem keeps_ackTask (handled : kind.isHandled origin = true)
    (clean : ¬ Foreign kind ack origin → origin.cleanSession = true) (number : Nat) :
    (ackCustody kind ack origin).Keeps behaviour .wait number
      ((ackCustody kind ack origin).settled number)
      (kind.task ack.packetIdentifier origin.clientContext) 0 := by
  by_cases looks : kind.checks = true ∧ Foreign kind ack origin
  · exact keeps_checked looks.1 (looks.2 handled) looks.2 _ _ _
  · -- Either the acknowledgement is expected, or it does not look at the exchange.
    have blind : Foreign kind ack origin → kind.checks = false := by
      intro foreign
      exact Bool.eq_false_iff.mpr fun checks => looks ⟨checks, foreign⟩
    have inert := fun foreign : Foreign kind ack origin =>
      answerable.unexpected handled (foreign handled) (blind foreign)
    apply keeps_undisturbed
    · apply (only_ackTask kind ack.packetIdentifier origin.clientContext).mono
      intro op operation
      apply neutral_ackOp inert _ operation
      intro persistent
      by_contra expected
      rw [clean expected] at persistent
      cases persistent
    · apply always_ackTask
      intro foreign
      exact ⟨blind foreign, (inert foreign).1⟩

theorem ackCustody_sound (clean : ¬ Foreign kind ack origin → origin.cleanSession = true) :
    (ackCustody kind ack origin).Sound behaviour fun _ input => input.isOwn = true where
  poll := by
    intros
    trivial
  receive := by
    intro system total shared starts _ holds _ received
    rcases receive_eq_some received with ⟨_, _, mailbox, handled⟩
    rcases holds.mailbox with only | none
    · rw [mailbox] at only
      cases only
      rw [handleMessage, handlePacket_ack] at handled
      cases handled
      refine ⟨0, Custody.startsKeep_zero ?_, ?_⟩
      · intro start member number
        split at member
        · rename_i handled
          rw [List.mem_singleton.mp member]
          have owner : clientContext { system.shared with
              mailbox := []
              traffic := system.shared.traffic ++ [.received (kind.packet ack)] } =
              origin.clientContext := holds.owner
          have connected : system.shared.connected = origin.connected := holds.connected
          rw [owner]
          apply keeps_ackTask answerable _ clean
          cases kind with
          | puback | pubcomp => rfl
          | pubrec | pubrel =>
            simp only [AckKind.isHandled] at handled ⊢
            rw [← connected]
            exact handled
        · cases member
      · exact { holds with mailbox := .inr rfl }
    · rw [mailbox] at none
      cases none
  finish := by
    intro system place task value own others shared starts _ _ _ returned _ _ holds _ completed
    have followed := undisturbed_completeResult clean (holds.release task.id) returned
    have handled : completeResult value (system.shared.release task.id) = (shared, starts) :=
      completed
    rw [handled] at followed
    exact ⟨0, Custody.startsKeep_zero followed.2, followed.1⟩
  park := by
    intro number op session next total holds parked
    rw [(park_eq_some parked).2]
    exact { holds with }
  environment := by
    intro system event shared total own
    cases own

theorem respects_of_answerable
    {inputs : List SessionInput} {final : SessionSystem}
    (own : ∀ input ∈ inputs, input.isOwn = true)
    (runs : Semantics.run step (System.new (origin.receiving (kind.packet ack))) inputs =
      some final) :
    Respects kind ack.packetIdentifier origin final.shared := by
  -- Unless the acknowledgement is expected in a persistent session, the tables are
  -- undisturbed.
  have keeps : (¬ Foreign kind ack origin → origin.cleanSession = true) →
      Undisturbed (Foreign kind ack origin) origin (kind.packet ack) final.shared := by
    intro clean
    have start : (ackCustody kind ack origin).Kept behaviour
        (System.new (origin.receiving (kind.packet ack))) :=
      Custody.kept_new ⟨fun _ => rfl, rfl, rfl, rfl, .inl rfl⟩
    have kept : (ackCustody kind ack origin).Kept behaviour final := by
      apply start.run (ackCustody_sound answerable clean) _ runs
      intro visited input isPrefix _ _ _ _
      exact own input (isPrefix.subset (by simp))
    rcases kept.carried with ⟨_, holds, _⟩
    exact holds
  constructor
  · intro unexpected
    have foreign : Foreign kind ack origin := fun _ => unexpected
    have undisturbed := keeps fun expected => absurd foreign expected
    exact ⟨undisturbed.exchanges foreign, undisturbed.replicated⟩
  · intro exchange present different running
    have same : final.shared.replicatedExchanges = origin.replicatedExchanges := by
      apply Undisturbed.replicated (keeps _)
      intro expected
      by_contra persistent
      rw [Foreign, Classical.not_imp, not_not] at expected
      rcases answerable.expected expected.1 expected.2 (Bool.eq_false_iff.mpr persistent)
        exchange present with answered | finished
      · exact different answered
      · exact running finished
    rw [replicatedExchange, same]
    exact congrArg (Option.map Exchange.state) present

end Sound

/-! ## Harmful acknowledgements -/

section Harmful

variable {number : Nat} {id : UInt16} {session : Session}

/-- What a future has done to the session that it acts for. -/
structure Moves (number : Nat) (before after : Session) (here there : ExchangeUpdate) : Prop where
  exchanges : after.exchanges = here.apply before.exchanges
  replicated : after.replicatedExchanges = before.replicatedExchanges.map there.apply
  owner : after.clientContext = before.clientContext
  lock : before.lock.Uncontended number → after.lock.Uncontended number

variable {next : Session}

theorem moves_perform {op : Op} {choice : op.Choice} {answer : op.Answer}
    (stays : op.keepsStates = true)
    (performed : perform number session op choice = some (next, answer)) :
    Moves number session next (op.localUpdate answer) (op.replicatedUpdate session choice) where
  exchanges := perform_exchanges performed
  replicated := perform_replicatedExchanges stays performed
  owner := (perform_frame performed).owner
  lock := (perform_frame performed).uncontended

theorem replicatedUpdate_committed {request : SessionStateRequest} {now : Nat}
    (own : request.target = (session.tenantId, session.clientId)) :
    Op.replicatedUpdate session (.raft request) ⟨.committed, now⟩ = request.exchangeUpdate := by
  simp only [Op.replicatedUpdate, raftUpdate]
  simp [own]

theorem Moves.both {before middle after : Session} {here there : ExchangeUpdate}
    (first : Moves number before middle .keep there)
    (second : Moves number middle after here .keep) :
    Moves number before after here there where
  exchanges := by rw [second.exchanges, first.exchanges, apply_keep]
  replicated := by
    rw [second.replicated, first.replicated, Option.map_map]
    rfl
  owner := second.owner.trans first.owner
  lock alone := second.lock (first.lock alone)

variable {context : ClientContext}

theorem exists_cleanFinished (alone : session.lock.Uncontended number) :
    ∃ next orders keys, perform number session (.access .cleanFinishedItems) orders =
        some (next, keys) ∧ Moves number session next .clean .keep := by
  rcases Quot.exists_rep session.state.inflight.cleanFinishedItems.2 with ⟨keys, listed⟩
  have same : (keys : Multiset String) = session.state.inflight.cleanFinishedItems.2 := listed
  have performed : perform number session (.access .cleanFinishedItems) ⟨[], [], keys⟩ =
      some ({ session with state := { session.state with
        inflight := session.state.inflight.cleanFinishedItems.1 } }, keys) := by
    simp only [perform, mayAccess, alone.admits, alone.use, Access.run, same]
    rfl
  exact ⟨_, _, _, performed, moves_perform rfl performed⟩

theorem reaches_isExpected {expected : InflightState} (alone : session.lock.Uncontended number)
    (found : session.stateOf id = some expected) :
    Reaches behaviour number (isExpected id expected) session (done true) session := by
  have looks : perform number session (.access (.currentState id)) ⟨[], [], []⟩ =
      some (session, some expected) := by
    rw [← found]
    simp only [perform, mayAccess, alone.admits, alone.use, Access.run,
      Inflight.getInflightCurrentState_eq]
    rfl
  refine .poll _ looks ?_
  have same : (some expected == some expected) = true := beq_self_eq_true _
  rw [show (done true : Fut Bool) = done (some expected == some expected) by rw [same]]
  exact .refl _ _

theorem reaches_send (packet : Packet) (session : Session) :
    Reaches behaviour number (send packet) session (done .ok) (session.write packet) :=
  .poll .written rfl (.refl _ _)

theorem reaches_acquire (free : session.lock = .free) :
    Reaches behaviour number acquire session (done ())
      { session with lock := FairLock.free.take number } := by
  have acquires : perform number session .acquire () =
      some ({ session with lock := FairLock.free.take number }, ()) := by
    simp only [perform, free]
    rfl
  exact .poll () acquires (.refl _ _)

theorem reaches_raft {request : SessionStateRequest}
    {answer : Except RaftError SessionStateResponse} (stays : (Op.raft request).keepsStates = true)
    (own : request.target = (session.tenantId, session.clientId))
    (performed : perform number session (.raft request) ⟨.committed, 0⟩ = some (next, answer)) :
    Reaches behaviour number (raft request) session (done answer) next ∧
      Moves number session next .keep request.exchangeUpdate := by
  have moves := moves_perform stays performed
  rw [replicatedUpdate_committed own] at moves
  exact ⟨.poll (⟨.committed, 0⟩ : RaftChoice) performed (.refl _ _), moves⟩

theorem reaches_raftAdvance (number : Nat) (id : UInt16) (session : Session)
    (own : session.clientContext = context) :
    ∃ next, Reaches behaviour number (advanceInflightState id context) session
        (done (.ok .none)) next ∧ Moves number session next .keep (.advance id) := by
  subst own
  exact ⟨_, reaches_raft rfl rfl rfl⟩

theorem reaches_nextState (id : UInt16) (alone : session.lock.Uncontended number) :
    ∃ next, Reaches behaviour number (nextState id) session (done ()) next ∧
      Moves number session next (.advance id) .keep := by
  have performed : perform number session (.access (.nextState id)) ⟨[], [], []⟩ =
      some ({ session with state := { session.state with
        inflight := (session.state.inflight.nextState session.clock id).1 } }, ()) := by
    simp only [perform, mayAccess, alone.admits, alone.use]
    rfl
  exact ⟨_, .poll (⟨[], [], []⟩ : Access.Orders) performed (.refl _ _), moves_perform rfl performed⟩

theorem reaches_advanceEverywhere (id : UInt16) (alone : session.lock.Uncontended number)
    (own : session.clientContext = context) :
    ∃ next, Reaches behaviour number (advanceEverywhere id context) session (done true) next ∧
      Moves number session next (.advance id) (.advance id) := by
  rcases reaches_raftAdvance number id session own with ⟨_, first, moves⟩
  rcases reaches_nextState id (moves.lock alone) with ⟨next, second, moved⟩
  exact ⟨next, first.andThen (second.andThen (.refl _ _)), moves.both moved⟩

theorem reaches_raftClean (number : Nat) (own : session.clientContext = context) :
    ∃ next, Reaches behaviour number (cleanFinishedInflightItems context) session
        (done (.ok .none)) next ∧ Moves number session next .keep .clean := by
  subst own
  exact ⟨_, reaches_raft rfl rfl rfl⟩

theorem reaches_cleanFinished (alone : session.lock.Uncontended number) :
    ∃ next, Reaches behaviour number cleanFinishedItems session (done ()) next ∧
      Moves number session next .clean .keep := by
  rcases exists_cleanFinished alone with ⟨next, orders, _, performed, moves⟩
  exact ⟨next, .poll orders performed (.refl _ _), moves⟩

theorem reaches_cleanEverywhere (alone : session.lock.Uncontended number)
    (own : session.clientContext = context) :
    ∃ next, Reaches behaviour number (cleanFinishedEverywhere context) session (done ()) next ∧
      Moves number session next .clean .clean := by
  rcases reaches_raftClean number own with ⟨_, first, moves⟩
  rcases reaches_cleanFinished (moves.lock alone) with ⟨next, second, moved⟩
  exact ⟨next, first.andThen second, moves.both moved⟩

/-- An acknowledgement that is expected, or whose handler does not look, is advanced in
raft. -/
theorem attains_raftAdvance (number : Nat) (id : UInt16) (session : Session)
    (kind : AckKind) (free : session.lock = .free)
    (expected : kind.checks = true → session.stateOf id = some kind.answered)
    (persistent : session.cleanSession = false) :
    ∃ next, Attains behaviour number (kind.task id session.clientContext) session next ∧
      next.replicatedExchanges = session.replicatedExchanges.map (advance id).apply := by
  have alone : session.lock.Uncontended number := .inl free
  have kept : ¬ session.clientContext.cleanSession = true := by
    simp [clientContext, persistent]
  cases kind with
  | puback =>
    rcases reaches_raftAdvance number id session rfl with ⟨next, advances, moves⟩
    refine ⟨next, ?_, moves.replicated⟩
    apply Attains.bind
    apply (reaches_isExpected alone (expected rfl)).attains
    rw [if_neg kept]
    exact (advances.attains (attains_here _ _)).bind
  | pubrec =>
    rcases reaches_raftAdvance number id (session.write (.pubrel (successAck id))) rfl with
      ⟨next, advances, moves⟩
    refine ⟨next, ?_, moves.replicated⟩
    apply Attains.bind
    apply (reaches_isExpected alone (expected rfl)).attains
    apply (reaches_send _ _).attains
    rw [if_neg kept]
    exact advances.attains (attains_here _ _)
  | pubrel =>
    rcases reaches_raftAdvance number id (({ session with lock := FairLock.free.take number } :
      Session).write (.pubcomp (successAck id))) rfl with ⟨next, advances, moves⟩
    refine ⟨next, ?_, moves.replicated⟩
    apply Attains.bind
    apply (reaches_acquire free).attains
    apply (reaches_send _ _).attains
    rw [if_neg kept]
    exact advances.attains (attains_here _ _)
  | pubcomp =>
    rcases reaches_raftAdvance number id session rfl with ⟨next, advances, moves⟩
    refine ⟨next, ?_, moves.replicated⟩
    apply Attains.bind
    rw [handlePubcomp, if_neg kept]
    exact (advances.attains (attains_here _ _)).bind

variable {kind : AckKind}

/-- In a persistent session, an acknowledgement whose handler does not look is advanced in
both tables, and these are cleaned. -/
theorem attains_cleaned (number : Nat) (id : UInt16) (session : Session)
    (blind : kind.checks = false) (free : session.lock = .free)
    (persistent : session.cleanSession = false) :
    ∃ next, Attains behaviour number (kind.task id session.clientContext) session next ∧
      next.exchanges = clean.apply ((advance id).apply session.exchanges) ∧
      next.replicatedExchanges = session.replicatedExchanges.map fun table =>
        clean.apply ((advance id).apply table) := by
  have alone : session.lock.Uncontended number := .inl free
  have kept : ¬ session.clientContext.cleanSession = true := by
    simp [clientContext, persistent]
  cases kind with
  | puback | pubrec => cases blind
  | pubrel =>
    have held : (({ session with lock := FairLock.free.take number } : Session).write
        (.pubcomp (successAck id))).lock.Uncontended number := .inr rfl
    rcases reaches_raftAdvance number id (({ session with lock := FairLock.free.take number } :
      Session).write (.pubcomp (successAck id))) rfl with ⟨_, advances, moves⟩
    rcases reaches_nextState id (moves.lock held) with ⟨_, follows, moved⟩
    have advanced := moves.both moved
    rcases reaches_raftClean number advanced.owner with ⟨_, cleans, cleaned⟩
    rcases reaches_cleanFinished (cleaned.lock (advanced.lock held)) with
      ⟨next, drops, dropped⟩
    have finished := cleaned.both dropped
    refine ⟨next, ?_, ?_, ?_⟩
    · apply Attains.bind
      apply (reaches_acquire free).attains
      apply (reaches_send _ _).attains
      rw [if_neg kept]
      apply advances.attains
      apply follows.attains
      apply cleans.attains
      exact drops.attains (attains_here _ _)
    · rw [finished.exchanges, advanced.exchanges]
      rfl
    · rw [finished.replicated, advanced.replicated, Option.map_map]
      rfl
  | pubcomp =>
    rcases reaches_advanceEverywhere id alone
      (show session.clientContext = session.clientContext from rfl) with
      ⟨_, advances, moves⟩
    rcases reaches_cleanEverywhere (moves.lock alone) moves.owner with ⟨next, cleans, moved⟩
    refine ⟨next, ?_, ?_, ?_⟩
    · apply Attains.bind
      rw [handlePubcomp, if_neg kept]
      apply advances.attains
      exact ⟨_, cleans⟩
    · rw [moved.exchanges, moves.exchanges]
    · rw [moved.replicated, moves.replicated, Option.map_map]
      rfl

theorem reaches_advanced (number : Nat) (id : UInt16) (session : Session)
    (blind : kind.checks = false) (free : session.lock = .free)
    (clean : session.cleanSession = true) :
    ∃ next, Reaches behaviour number (kind.task id session.clientContext) session
        (done (.acknowledged true false)) next ∧
      next.exchanges = (advance id).apply session.exchanges ∧
      next.lock.Uncontended number := by
  have alone : session.lock.Uncontended number := .inl free
  have lost : session.clientContext.cleanSession = true := clean
  cases kind with
  | puback | pubrec => cases blind
  | pubrel =>
    have held : (({ session with lock := FairLock.free.take number } : Session).write
        (.pubcomp (successAck id))).lock.Uncontended number := .inr rfl
    rcases reaches_nextState id held with ⟨next, advances, moves⟩
    refine ⟨next, ?_, moves.exchanges, moves.lock held⟩
    have handles : Reaches behaviour number (handlePubrel id session.clientContext)
        session (done true) next := by
      apply (reaches_acquire free).andThen
      apply (reaches_send _ _).andThen
      rw [if_pos lost]
      exact advances.andThen (.refl _ _)
    exact handles.andThen (.refl _ _)
  | pubcomp =>
    rcases reaches_nextState id alone with ⟨next, advances, moves⟩
    refine ⟨next, ?_, moves.exchanges, moves.lock alone⟩
    have ends : (done (.acknowledged true false) : Fut Completion) =
        done (.acknowledged session.clientContext.cleanSession false) := by rw [lost]
    rw [ends]
    apply Reaches.andThen
    · rw [handlePubcomp, if_pos lost]
      exact advances
    · exact .refl _ _

theorem attains_cleanup (number : Nat) (free : session.lock = .free) :
    ∃ next, Attains behaviour number (quietly cleanupLocalFinishedItems) session next ∧
      next.exchanges = clean.apply session.exchanges := by
  have held : ({ session with lock := FairLock.free.take number } :
      Session).lock.Uncontended number := .inr rfl
  rcases exists_cleanFinished held with ⟨next, orders, _, performed, moves⟩
  refine ⟨next, ?_, moves.exchanges⟩
  apply (reaches_acquire free).attains
  exact attains_poll orders performed (attains_here _ _)

def Session.handling (packet : Packet) (session : Session) : Session :=
  { session.receiving packet with
    mailbox := [], traffic := session.traffic ++ [.received packet] }

variable {ack : Ack}
variable (handled : kind.isHandled session = true)

include handled

/-- The future of an acknowledgement is started, and it runs as far as it can alone. -/
theorem exists_run_ack {final : Fut Completion}
    (reaches : Reaches behaviour 0 (kind.task ack.packetIdentifier session.clientContext)
      (session.handling (kind.packet ack)) final next) :
    ∃ inputs system task, (∀ input ∈ inputs, input.isOwn = true) ∧
      Semantics.run step (System.new (session.receiving (kind.packet ack))) inputs = some system ∧
      system.shared = next ∧ system.tasks .detach = [] ∧ system.nextId = 1 ∧
      task.id = 0 ∧ task.current = final ∧
      System.Turn behaviour system ⟨.wait, 0⟩ [] task [] := by
  have received : receive (session.receiving (kind.packet ack)) =
      some (session.handling (kind.packet ack),
        [wait (kind.task ack.packetIdentifier session.clientContext)]) := by
    change some (handlePacket (kind.packet ack) (session.handling (kind.packet ack))) = _
    have same : kind.isHandled (session.handling (kind.packet ack)) = true := by
      cases kind <;> exact handled
    rw [handlePacket_ack, if_pos same]
    rfl
  have started : step (System.new (session.receiving (kind.packet ack))) .receive =
      some ((System.new (session.handling (kind.packet ack))).startAll
        [wait (kind.task ack.packetIdentifier session.clientContext)]) := by
    have ready : (behaviour.running (System.new (session.receiving (kind.packet ack)) :
        SessionSystem).shared && ((System.new (session.receiving (kind.packet ack)) :
          SessionSystem).tasks .wait).isEmpty) = true := rfl
    have taken : behaviour.receive (System.new (session.receiving (kind.packet ack)) :
        SessionSystem).shared = _ := received
    rw [step, System.step, taken]
    rfl
  have turn : System.Turn behaviour ((System.new (session.handling (kind.packet ack))).startAll
      [wait (kind.task ack.packetIdentifier session.clientContext)]) ⟨.wait, 0⟩ []
      (Task.start 0 (kind.task ack.packetIdentifier session.clientContext)) [] := by
    refine ⟨rfl, rfl, fun _ => rfl, ?_, fun _ => rfl⟩
    intro spawns
    cases spawns
  rcases turn.exists_run (granting "" ⟨[], [], []⟩)
    (fun performed => (perform_frame performed).running) reaches with
    ⟨inputs, task, own, number, current, running, runs⟩
  refine ⟨.receive :: inputs, _, task, ?_, ?_, rfl, rfl, rfl, number, current,
    turn.resume running task⟩
  · intro input member
    rcases List.mem_cons.mp member with first | later
    · rw [first]
      rfl
    · exact own input later
  · rw [run_cons, started, Option.bind_some]
    exact runs

/-- An acknowledgement that can be advanced in a harmful way does not respect the
exchanges. -/
theorem exists_run_attained
    (attains : Attains behaviour 0 (kind.task ack.packetIdentifier session.clientContext)
      (session.handling (kind.packet ack)) next) :
    ∃ inputs system, (∀ input ∈ inputs, input.isOwn = true) ∧
      Semantics.run step (System.new (session.receiving (kind.packet ack))) inputs =
        some system ∧ system.shared = next := by
  rcases attains with ⟨_, reaches⟩
  rcases exists_run_ack handled reaches with ⟨inputs, system, _, own, runs, shared, _⟩
  exact ⟨inputs, system, own, runs, shared⟩

theorem exists_run_cleanup
    (reaches : Reaches behaviour 0 (kind.task ack.packetIdentifier session.clientContext)
      (session.handling (kind.packet ack)) (done (.acknowledged true false)) next)
    (alone : next.lock.Uncontended 0) :
    ∃ inputs system, (∀ input ∈ inputs, input.isOwn = true) ∧
      Semantics.run step (System.new (session.receiving (kind.packet ack))) inputs = some system ∧
      system.shared.exchanges = clean.apply next.exchanges := by
  rcases exists_run_ack handled reaches with
    ⟨inputs, system, task, own, runs, shared, none, fresh, number, ended, turn⟩
  have released : (next.release 0).lock = .free ∧
      (next.release 0).exchanges = next.exchanges := ⟨alone.release, rfl⟩
  have finishes := turn.step_finish ended
  have completes : behaviour.complete task.id (.acknowledged true false) system.shared =
      (next.release 0, [detach (quietly cleanupLocalFinishedItems)]) := by
    rw [number, shared]
    rfl
  rw [completes] at finishes
  rcases attains_cleanup 1 released.1 with ⟨last, ⟨final, cleans⟩, cleaned⟩
  rw [released.2] at cleaned
  -- The cleanup is the only task that is left.
  let cleaning : SessionSystem := { system.setTasks .wait [] with
    shared := next.release 0, finished := task :: system.finished }.startAll
      [detach (quietly cleanupLocalFinishedItems)]
  have cleanup : System.Turn behaviour cleaning ⟨.detach, 0⟩ []
      (Task.start 1 (quietly cleanupLocalFinishedItems)) [] := by
    refine ⟨?_, rfl, by simp, by simp, by simp⟩
    change system.tasks .detach ++ [Task.start system.nextId _] = _
    rw [none, fresh]
    rfl
  rcases cleanup.exists_run (granting "" ⟨[], [], []⟩)
    (fun performed => (perform_frame performed).running) cleans with
    ⟨more, reached, ownMore, _, _, _, goesOn⟩
  refine ⟨inputs ++ .finish ⟨.wait, 0⟩ :: more,
    (cleaning.setTasks .detach ([] ++ reached :: [])).setShared last, ?_, ?_, cleaned⟩
  · intro input member
    rcases List.mem_append.mp member with first | later
    · exact own input first
    · rcases List.mem_cons.mp later with finish | last
      · rw [finish]
        rfl
      · exact ownMore input last
  · rw [run_append, runs, Option.bind_some, run_cons]
    have stepped : step system (.finish ⟨.wait, 0⟩) = some cleaning := finishes
    rw [stepped, Option.bind_some]
    exact goesOn

end Harmful

/-- An exchange that is advanced in raft although it does not wait for the
acknowledgement. -/
theorem answered_of_respects {kind : AckKind} {ack : Ack} {session : Session}
    (respects : ∀ inputs final, (∀ input ∈ inputs, input.isOwn = true) →
      Semantics.run step (System.new (session.receiving (kind.packet ack))) inputs =
        some final → Respects kind ack.packetIdentifier session final.shared)
    (handled : kind.isHandled session = true)
    (expected : session.stateOf ack.packetIdentifier = some kind.answered)
    (persistent : session.cleanSession = false) {exchange : Exchange}
    (present : session.replicatedExchange ack.packetIdentifier = some exchange) :
    exchange.state = kind.answered ∨ exchange.state = .finish := by
  rcases attains_raftAdvance 0 ack.packetIdentifier (session.handling (kind.packet ack)) kind
    rfl (fun _ => expected) persistent with ⟨next, attains, advanced⟩
  rcases exists_run_attained handled attains with ⟨inputs, system, own, runs, shared⟩
  by_contra neither
  rw [not_or] at neither
  have kept := (respects inputs system own runs).replicated exchange present neither.1 neither.2
  have moved : next.replicatedExchange ack.packetIdentifier = some exchange.advance := by
    have table : (session.handling (kind.packet ack)).replicatedExchanges =
      session.replicatedExchanges := rfl
    rcases Option.bind_eq_some_iff.mp present with ⟨_, replicated, here⟩
    rw [replicatedExchange, advanced, table, replicated, Option.map_some,
      Option.bind_some, apply, act, if_pos rfl, here,
      Option.map_some]
  rw [shared, moved] at kept
  have next : exchange.state.next = exchange.state := Option.some.inj kept
  cases state : exchange.state with
  | finish => exact neither.2 state
  | _ =>
    rw [state] at next
    cases next

/-- The handling of an acknowledgement respects what it does not answer if and only if the
acknowledgement is answerable. -/
theorem respects_iff_answerable (kind : AckKind) (ack : Ack) (session : Session) :
    (∀ inputs final, (∀ input ∈ inputs, input.isOwn = true) →
      Semantics.run step (System.new (session.receiving (kind.packet ack))) inputs =
        some final → Respects kind ack.packetIdentifier session final.shared) ↔
      Answerable kind ack.packetIdentifier session := by
  constructor
  · intro respects
    constructor
    · intro handled expected persistent exchange present
      exact answered_of_respects respects handled expected persistent present
    · intro handled unexpected blind
      cases lost : session.cleanSession with
      | false =>
        rcases attains_cleaned 0 ack.packetIdentifier (session.handling (kind.packet ack))
          blind rfl lost with ⟨next, attains, here, there⟩
        rcases exists_run_attained handled attains with ⟨inputs, system, own, runs, shared⟩
        have same := (respects inputs system own runs).unexpected unexpected
        rw [shared, here, there] at same
        refine ⟨inert_of_eq same.1, ?_⟩
        intro _ table present
        apply inert_of_eq
        have replicated : (session.handling (kind.packet ack)).replicatedExchanges =
          some table := present
        rw [replicated, present] at same
        exact Option.some.inj same.2
      | true =>
        rcases reaches_advanced 0 ack.packetIdentifier (session.handling (kind.packet ack))
          blind rfl lost with ⟨_, reaches, here, free⟩
        rcases exists_run_cleanup handled reaches free with
          ⟨inputs, system, own, runs, cleaned⟩
        have same := (respects inputs system own runs).unexpected unexpected
        rw [cleaned, here] at same
        refine ⟨inert_of_eq same.1, ?_⟩
        intro persistent
        cases persistent
  · intro answerable inputs final own runs
    exact respects_of_answerable answerable own runs

end SessionActor

end YedMQ
