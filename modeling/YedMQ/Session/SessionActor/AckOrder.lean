import YedMQ.Session.SessionActor.Acknowledgements
import YedMQ.Session.SessionActor.Directions

/-! # The acknowledgements that finish an exchange

A message for the client leaves the inflight map when the acknowledgements that its exchange
waits for have come, in their order. This holds for every run in which the acknowledgements
with its identifier are answerable when they come, and in which no other future registers
over the exchange or discards it.
-/

namespace YedMQ.SessionActor

open Semantics Future Raft.SessionState Session ExchangeUpdate

def ackOf (id : UInt16) : Packet → Option AckKind
  | .puback ack => if ack.packetIdentifier = id then some .puback else none
  | .pubrec ack => if ack.packetIdentifier = id then some .pubrec else none
  | .pubrel ack => if ack.packetIdentifier = id then some .pubrel else none
  | .pubcomp ack => if ack.packetIdentifier = id then some .pubcomp else none
  | _ => none

def Session.acknowledged (id : UInt16) (session : Session) : List AckKind :=
  session.received.filterMap (ackOf id)

def acksLeft : InflightState → List AckKind
  | .waitPuback => [.puback]
  | .waitPubrec => [.pubrec, .pubcomp]
  | .waitPubcomp => [.pubcomp]
  | .waitPubrel => [.pubrel]
  | .finish => []

theorem ackOf_packet (id : UInt16) (kind : AckKind) (ack : Ack) :
    ackOf id (kind.packet ack) = if ack.packetIdentifier = id then some kind else none := by
  cases kind <;> rfl

theorem acksLeft_answered (kind : AckKind) :
    acksLeft kind.answered = kind :: acksLeft kind.answered.next := by
  cases kind <;> rfl

/-- A handler that looks at the exchange answers the first packet of the exchange. -/
theorem first_of_checks {first : InflightState} {kind : AckKind} (checks : kind.checks = true)
    {earlier : List AckKind} (path : acksLeft first = earlier ++ acksLeft kind.answered) :
    earlier = [] := by
  cases earlier with
  | nil => rfl
  | cons head rest =>
    cases kind with
    | pubrel | pubcomp => cases checks
    | puback | pubrec =>
      cases first <;> cases rest <;> simp [acksLeft, AckKind.answered] at path

/-! ## An exchange that is watched -/

section Watching

variable (first : InflightState) (id : UInt16) (before : List AckKind)

/-- What the future of an acknowledgement with the identifier knows: it has not looked at the
exchange yet, or it may advance it. -/
inductive AckToken where
  | pending (kind : AckKind)
  | due (kind : AckKind)

/-- The exchange stands where the acknowledgements that have come allow it to stand. -/
def Awaited (since : List AckKind) (state : Option InflightState) : Prop :=
  (∃ present earlier, state = some present ∧ present.direction = some .outbound ∧
      acksLeft first = earlier ++ acksLeft present ∧ earlier.Sublist since) ∨
    (acksLeft first).Sublist since

def Ready (since : List AckKind) (kind : AckKind) : Prop :=
  ∀ earlier, acksLeft first = earlier ++ acksLeft kind.answered → (earlier ++ [kind]).Sublist since

def AckToken.Means (since : List AckKind) (state : Option InflightState) : AckToken → Prop
  | pending kind => Ready first since kind
  | due kind => (acksLeft first).Sublist since ∨
      state = some kind.answered ∧ kind.answered.direction = some .outbound ∧ Ready first since kind

structure Watching (session : Session) (known : Multiset AckToken) (since : List AckKind) :
    Prop where
  acknowledged : session.acknowledged id = before ++ since
  awaited : Awaited first since (session.stateOf id)
  single : known.card ≤ 1
  tokens : ∀ token ∈ known, token.Means first since (session.stateOf id)

def watching : Custody Op.Choice Session Completion (Multiset AckToken) where
  holds session total := ∃ since, Watching first id before session (total .wait) since
  allowed _ session op _ := (∀ packetId, op ≠ .access (.nextState packetId)) → ∀ answer : op.Answer,
      (op.localUpdate answer).disturbs .outbound session.exchanges = false
  settled _ _ _ := True

variable {first id before}

variable {session next : Session}

theorem acknowledged_of_received (received : next.received = session.received) (id : UInt16) :
    next.acknowledged id = session.acknowledged id := by
  rw [acknowledged, acknowledged, received]

variable {known : Multiset AckToken} {since : List AckKind}

theorem Watching.keeps (watches : Watching first id before session known since)
    (acknowledged : next.acknowledged id = session.acknowledged id)
    (state : ∀ present, session.stateOf id = some present →
      present.direction = some .outbound → next.stateOf id = some present) :
    Watching first id before next known since where
  acknowledged := acknowledged.trans watches.acknowledged
  awaited := by
    rcases watches.awaited with ⟨present, earlier, found, outbound, path, came⟩ | finished
    · exact .inl ⟨present, earlier, state present found outbound, outbound, path, came⟩
    · exact .inr finished
  single := watches.single
  tokens := by
    intro token member
    have means := watches.tokens token member
    cases token with
    | pending => exact means
    | due =>
      rcases means with finished | ⟨found, outbound, ready⟩
      · exact .inl finished
      · exact .inr ⟨state _ found outbound, outbound, ready⟩

/-- Fewer futures know about the exchange. -/
theorem Watching.drop {fewer : Multiset AckToken}
    (watches : Watching first id before session known since) (less : fewer ≤ known) :
    Watching first id before session fewer since :=
  { watches with
    single := (Multiset.card_le_card less).trans watches.single
    tokens token member := watches.tokens token (Multiset.mem_of_le less member) }

/-- An update that disturbs nothing keeps the state of an outbound exchange. -/
theorem stateOf_kept {update : ExchangeUpdate}
    (changed : next.exchanges = update.apply session.exchanges)
    (spares : update.disturbs .outbound session.exchanges = false) {present : InflightState}
    (found : session.stateOf id = some present) (outbound : present.direction = some .outbound) :
    next.stateOf id = some present := by
  rcases Option.map_eq_some_iff.mp found with ⟨exchange, here, state⟩
  have running : exchange.runs .outbound = true := by
    rw [Exchange.runs, state, outbound]
    rfl
  have kept := (ExchangeTable.keeps_iff .outbound session.exchanges update).mpr spares id
    exchange here running
  rw [← changed] at kept
  rw [Exchange.isKept] at kept
  rw [stateOf]
  cases after : next.exchanges id with
  | none => simp [after] at kept
  | some =>
    simp only [after, Option.any_some, Bool.and_eq_true, beq_iff_eq] at kept
    rw [Option.map_some, kept.1, state]

variable {number : Nat}

theorem neutral_watching {op : Op} (other : op ≠ .access (.nextState id)) :
    (watching first id before).Neutral behaviour number op := by
  intro session total choice next answer ⟨since, watches⟩ allowed performed
  refine ⟨since, watches.keeps (acknowledged_of_received (perform_frame performed).received id) ?_⟩
  intro present found outbound
  have changed := perform_exchanges performed
  by_cases advances : ∃ packetId, op = .access (.nextState packetId)
  · rcases advances with ⟨packetId, same⟩
    subst same
    have elsewhere : id ≠ packetId := by
      intro same
      subst same
      exact other rfl
    rw [stateOf, changed]
    change ((advance packetId).act id (session.exchanges id)).map _ = _
    rw [act_of_ne rfl elsewhere]
    exact found
  · apply stateOf_kept changed _ found outbound
    apply allowed
    intro packetId same
    exact advances ⟨packetId, same⟩

/-- A future of operations that do not advance the exchange. -/
theorem keeps_watching {mode : Mode} {α : Type} {future : Fut α}
    (other : future.Only fun op => op ≠ .access (.nextState id)) (carried : Multiset AckToken) :
    (watching first id before).Keeps behaviour mode number (fun _ left => left = carried)
      future carried := by
  have neutral : future.Only ((watching first id before).Neutral behaviour number) :=
    other.mono fun _ => neutral_watching
  have returns : future.Always fun _ _ => True := always_of_forall future fun _ _ => trivial
  apply (Custody.keeps_of_neutral neutral returns carried).mono
  intro _ left ⟨_, same⟩
  exact same

/-! ## The futures of acknowledgements -/

/-- What the other futures know, when one of them knows something. -/
theorem Watching.alone {others : Multiset AckToken} {token : AckToken}
    (watches : Watching first id before session (others + {token}) since) : others = 0 := by
  have bound := watches.single
  rw [Multiset.card_add, Multiset.card_singleton] at bound
  exact Multiset.card_eq_zero.mp (by omega)

variable (kind : AckKind)

/-- The future looks at the exchange and finds that it waits for the acknowledgement. -/
theorem keeps_isExpected : (watching first id before).Keeps behaviour .wait number
      (fun expected left => expected = true → left = {.due kind})
      (isExpected id kind.answered) {.pending kind} := by
  intro session others choice next answer _ _ _ ⟨since, watches⟩ _ performed
  rcases perform_access performed with ⟨_, state, runs, changed⟩
  cases runs
  rw [Pi.add_apply] at watches
  replace watches : Watching first id before next (others .wait + {.pending kind}) since := by
    rw [changed]
    exact watches.keeps rfl fun _ found _ => found
  have kept : session.state = next.state := by
    rw [changed]
  rw [kept]
  have looks : next.state.inflight.getInflightCurrentState id = next.stateOf id :=
    Inflight.getInflightCurrentState_eq _ _
  rw [looks]
  by_cases expected : next.stateOf id = some kind.answered
  · refine ⟨{.due kind}, ⟨since, ?_⟩, Custody.marked_of_unmarked rfl,
      Custody.keeps_done fun _ => rfl⟩
    have empty := watches.alone
    have ready : Ready first since kind :=
      watches.tokens (.pending kind) (by rw [empty]; simp)
    rw [Pi.add_apply, empty]
    refine ⟨watches.acknowledged, watches.awaited, by simp, ?_⟩
    intro token member
    rw [Multiset.mem_singleton.mp member]
    rcases watches.awaited with ⟨_, _, found, outbound, _, _⟩ | finished
    · rw [found] at expected
      cases expected
      exact .inr ⟨found, outbound, ready⟩
    · exact .inl finished
  · refine ⟨{.pending kind}, ⟨since, ?_⟩, Custody.marked_of_unmarked rfl, Custody.keeps_done ?_⟩
    · exact watches
    · intro found
      exact absurd (beq_iff_eq.mp found) expected

variable {state : Option InflightState}

theorem Awaited.advance {kind : AckKind} (awaited : Awaited first since state)
    (means : (AckToken.due kind).Means first since state) :
    Awaited first since (state.map InflightState.next) := by
  rcases means with finished | ⟨found, _, ready⟩
  · exact .inr finished
  · rcases awaited with ⟨_, earlier, here, _, path, _⟩ | finished
    · rw [found] at here
      cases here
      have later := ready earlier path
      rw [acksLeft_answered, List.append_cons] at path
      rw [found]
      cases kind with
      | pubrec => exact .inl ⟨_, _, rfl, rfl, path, later⟩
      | puback | pubcomp | pubrel =>
        right
        rw [path, show acksLeft _ = [] from rfl, List.append_nil]
        exact later
    · exact .inr finished

theorem keeps_nextState :
    (watching first id before).Keeps behaviour .wait number (fun _ left => left = 0)
      (nextState id) {.due kind} := by
  intro session others choice next answer _ _ _ ⟨since, watches⟩ _ performs
  have performed : perform number session (.access (.nextState id)) choice =
    some (next, answer) := performs
  rw [Pi.add_apply] at watches
  have empty := watches.alone
  have means := watches.tokens (.due kind) (by rw [empty]; simp)
  refine ⟨0, ⟨since, ?_⟩, Custody.marked_of_unmarked rfl, Custody.keeps_done rfl⟩
  rw [Pi.add_apply, Pi.single_eq_same, empty]
  have advanced : next.stateOf id = (session.stateOf id).map InflightState.next := by
    rw [stateOf, perform_exchanges performed]
    change ((advance id).act id (session.exchanges id)).map _ = _
    rw [act, if_pos rfl, stateOf, Option.map_map, Option.map_map]
    rfl
  refine ⟨?_, ?_, by simp, by simp⟩
  · rw [acknowledged, (perform_frame performed).received]
    exact watches.acknowledged
  · rw [advanced]
    exact watches.awaited.advance means

/-- In a persistent session, raft advances the exchange first. -/
theorem keeps_advanceEverywhere (context : ClientContext) :
    (watching first id before).Keeps behaviour .wait number (fun _ _ => True)
      (advanceEverywhere id context) {.due kind} := by
  have writes : (advanceInflightState id context).Only fun op =>
      op ≠ .access (.nextState id) := ⟨by simp, fun _ => trivial⟩
  apply (keeps_watching writes _).bind
  intro answer left same
  subst same
  split
  · trivial
  · apply (keeps_nextState kind).bind
    intro _ _ _
    trivial

theorem keeps_rest {mode : Mode} {α : Type} {future : Fut α}
    (other : future.Only fun op => op ≠ .access (.nextState id)) (carried : Multiset AckToken) :
    (watching first id before).Keeps behaviour mode number (fun _ _ => True) future
      carried :=
  (keeps_watching other carried).mono fun _ _ _ => trivial

def AckKind.token (kind : AckKind) : AckToken :=
  if kind.checks then .pending kind else .due kind

theorem keeps_ackTask_watched (context : ClientContext) :
    (watching first id before).Keeps behaviour .wait number (fun _ _ => True)
      (kind.task id context) {kind.token} := by
  have cleans : (cleanFinishedEverywhere context).Only fun op =>
      op ≠ .access (.nextState id) := by
    apply Only.perform (by simp)
    intro answer
    split
    · exact ⟨by simp, fun _ => trivial⟩
    · trivial
  cases kind with
  | puback =>
    have handles : (watching first id before).Keeps behaviour .wait number
        (fun _ _ => True) (handlePuback id context) {.pending .puback} := by
      apply (keeps_isExpected .puback).bind
      intro expected left known
      split
      · rename_i yes
        rw [known yes]
        split
        · apply (keeps_nextState .puback).bind
          intro _ _ _
          trivial
        · apply (keeps_advanceEverywhere .puback context).bind
          intro advanced carried _
          split
          · apply (keeps_rest cleans carried).bind
            intro _ _ _
            trivial
          · trivial
      · trivial
    exact handles.bind fun _ _ _ => trivial
  | pubrec =>
    have handles : (watching first id before).Keeps behaviour .wait number
        (fun _ _ => True) (handlePubrec id context) {.pending .pubrec} := by
      apply (keeps_isExpected .pubrec).bind
      intro expected left known
      split
      · rename_i yes
        rw [known yes]
        have sends : (send (.pubrel (successAck id))).Only fun op =>
            op ≠ .access (.nextState id) := ⟨by simp, fun _ => trivial⟩
        apply (keeps_watching sends _).bind
        intro sent carried same
        subst same
        split
        · trivial
        · split
          · apply (keeps_nextState .pubrec).bind
            intro _ _ _
            trivial
          · exact keeps_advanceEverywhere .pubrec context
      · trivial
    exact handles.bind fun _ _ _ => trivial
  | pubrel =>
    have acquires : acquire.Only fun op => op ≠ .access (.nextState id) :=
      ⟨by simp, fun _ => trivial⟩
    have sends : (send (.pubcomp (successAck id))).Only fun op =>
        op ≠ .access (.nextState id) := ⟨by simp, fun _ => trivial⟩
    have writes : (advanceInflightState id context).Only fun op =>
        op ≠ .access (.nextState id) := ⟨by simp, fun _ => trivial⟩
    have handles : (watching first id before).Keeps behaviour .wait number
        (fun _ _ => True) (handlePubrel id context) {.due .pubrel} := by
      apply (keeps_watching acquires _).bind
      intro _ carried same
      subst same
      apply (keeps_watching sends _).bind
      intro sent carried same
      subst same
      split
      · trivial
      · split
        · apply (keeps_nextState .pubrel).bind
          intro _ _ _
          trivial
        · apply (keeps_watching writes _).bind
          intro answer carried same
          subst same
          split
          · trivial
          · apply (keeps_nextState .pubrel).bind
            intro _ carried _
            apply keeps_rest _ carried
            exact ⟨by simp, fun _ => ⟨by simp, fun _ => trivial⟩⟩
    exact handles.bind fun _ _ _ => trivial
  | pubcomp =>
    have handles : (watching first id before).Keeps behaviour .wait number
        (fun _ _ => True) (handlePubcomp id context) {.due .pubcomp} := by
      rw [handlePubcomp]
      split
      · exact (keeps_nextState .pubcomp).mono fun _ _ _ => trivial
      · apply (keeps_advanceEverywhere .pubcomp context).bind
        intro advanced carried _
        split
        · exact keeps_rest cleans carried
        · trivial
    exact handles.bind fun _ _ _ => trivial

/-! ## Whole runs -/

variable {owner : ClientContext} {start : SessionStart}

theorem plain_advances_nothing (plain : PlainProgram owner start) :
    start.future.Only fun op => op ≠ .access (.nextState id) := by
  by_cases publishes : ∃ publish, start.future = publishTask publish owner
  · rcases publishes with ⟨publish, same⟩
    rw [same]
    apply (only_publishTask owner publish).mono
    intro op kind
    cases kind with
    | accept _ kind => cases kind <;> simp
    | _ => simp
  · apply (only_plain plain fun publish same => publishes ⟨publish, same⟩).mono
    intro op kind
    cases kind with
    | delivery _ _ kind | retry _ _ kind | subscription kind | unsubscription kind | life kind
    | pending kind | cleanup kind => cases kind <;> simp
    | raftCleanup | deletion => simp

variable {packetId : UInt16}

theorem otherAck_advances_nothing (other : packetId ≠ id) (kind : AckKind)
    (context : ClientContext) :
    (kind.task packetId context).Only fun op => op ≠ .access (.nextState id) := by
  apply (only_ackTask kind packetId context).mono
  intro op permitted
  cases permitted with
  | nextState =>
    intro same
    cases same
    exact other rfl
  | _ => simp

/-- The exchange is advanced by the futures of its acknowledgements alone. -/
theorem program_advances_nothing (program : AnyProgram start)
    (other : ∀ kind context, start.future ≠ AckKind.task kind id context) :
    start.future.Only fun op => op ≠ .access (.nextState id) := by
  rcases program with ⟨owner, program⟩
  cases program with
  | plain plain => exact plain_advances_nothing plain
  | ack kind =>
    apply otherAck_advances_nothing
    intro same
    subst same
    exact other kind owner rfl

theorem startsKeep_plain {starts : List SessionStart} (plain : AllPlain owner starts) :
    (watching first id before).StartsKeep behaviour starts 0 := by
  apply Custody.startsKeep_zero
  intro start member number
  exact keeps_rest (plain_advances_nothing (plain start member)) 0

/-- Acknowledgements with the identifier are answerable when they come, and no future but
theirs changes, replaces or removes an exchange with the client. -/
structure Attended (id : UInt16) (system : SessionSystem) (input : SessionInput) : Prop where
  receive : input = .receive → ∀ kind ack rest,
    system.shared.mailbox = .inboundPacket (AckKind.packet kind ack) :: rest →
      ack.packetIdentifier = id → Answerable kind id system.shared
  poll : ∀ place choose, input = .poll place choose →
    ∀ task, system.taskAt behaviour place = some task →
      ∀ op resume, task.current = .await op resume →
        (∀ packetId, op ≠ .access (.nextState packetId)) → ∀ answer : op.Answer,
          (op.localUpdate answer).disturbs .outbound system.shared.exchanges = false

/-- An acknowledgement comes that the exchange waits for, or whose handler will look. -/
theorem Watching.receive {kind : AckKind} (watches : Watching first id before session 0 since)
    (handled : kind.isHandled session = true) (answerable : Answerable kind id session) :
    kind.token.Means first (since ++ [kind]) (session.stateOf id) := by
  rw [AckKind.token]
  split
  · rename_i checks
    intro earlier path
    rw [first_of_checks checks path]
    exact List.sublist_append_right since [kind]
  · rename_i blind
    rcases watches.awaited with ⟨_, earlier, found, outbound, path, came⟩ | finished
    · -- The handler does not look, so the exchange has to wait for the acknowledgement.
      have expected : session.stateOf id = some kind.answered := by
        by_contra unexpected
        have inert := (answerable.unexpected handled unexpected (Bool.eq_false_iff.mpr blind)).1
        rw [stateOf, inert.absent] at found
        cases found
      refine .inr ⟨expected, ?_, ?_⟩
      · rw [found] at expected
        cases expected
        exact outbound
      · intro other same
        rw [found] at expected
        cases expected
        have equal : other = earlier := List.append_cancel_right (same.symm.trans path)
        rw [equal]
        exact came.append (List.Sublist.refl [kind])
    · exact .inl (finished.trans (List.sublist_append_left since [kind]))

theorem Awaited.later (awaited : Awaited first since state) (more : List AckKind) :
    Awaited first (since ++ more) state := by
  rcases awaited with ⟨present, earlier, found, outbound, path, came⟩ | finished
  · exact .inl ⟨present, earlier, found, outbound, path,
      came.trans (List.sublist_append_left since more)⟩
  · exact .inr (finished.trans (List.sublist_append_left since more))

theorem startsKeep_otherAck (other : packetId ≠ id) (kind : AckKind) (context : ClientContext) :
    (watching first id before).StartsKeep behaviour [wait (kind.task packetId context)] 0 := by
  apply Custody.startsKeep_zero
  intro start member number
  rw [List.mem_singleton.mp member]
  exact keeps_rest (otherAck_advances_nothing other kind context) 0

theorem startsKeep_ack (context : ClientContext) :
    (watching first id before).StartsKeep behaviour [wait (kind.task id context)]
      (Pi.single .wait {kind.token}) := by
  refine ⟨{kind.token}, 0, ⟨?_, rfl⟩, rfl, (add_zero _).symm⟩
  intro number
  exact keeps_ackTask_watched kind context

theorem stateOf_shares (shares : session.SharesWith next) (id : UInt16) :
    next.stateOf id = session.stateOf id := by
  rw [stateOf, stateOf, exchanges, exchanges, shares.state]

theorem Watching.shares (watches : Watching first id before session known since)
    (acknowledged : next.acknowledged id = session.acknowledged id)
    (shares : session.SharesWith next) : Watching first id before next known since := by
  apply watches.keeps acknowledged
  intro present found _
  rw [stateOf_shares shares]
  exact found

theorem acknowledged_noting (packet : Packet) (session : Session) :
    (session.noting (.inboundPacket packet)).acknowledged id =
      session.acknowledged id ++ (ackOf id packet).toList := by
  have listed : (session.noting (.inboundPacket packet)).received =
      session.received ++ [packet] := by
    simp [noting, received]
  rw [acknowledged, listed, List.filterMap_append]
  cases found : ackOf id packet with
  | none => rw [List.filterMap_cons_none found]; rfl
  | some => rw [List.filterMap_cons_some found]; rfl

theorem acknowledged_other {message : SessionActorMessage}
    (other : ∀ kind ack, message ≠ .inboundPacket (AckKind.packet kind ack))
    (session : Session) :
    (session.noting message).acknowledged id = session.acknowledged id := by
  cases message with
  | inboundPacket packet =>
    have unrelated : ackOf id packet = none := by
      cases packet with
      | puback ack => exact absurd rfl (other .puback ack)
      | pubrec ack => exact absurd rfl (other .pubrec ack)
      | pubrel ack => exact absurd rfl (other .pubrel ack)
      | pubcomp ack => exact absurd rfl (other .pubcomp ack)
      | _ => rfl
    rw [acknowledged_noting, unrelated]
    exact List.append_nil _
  | _ => rfl

theorem Watching.handleMessage (watches : Watching first id before session 0 since)
    (message : SessionActorMessage)
    (answerable : ∀ kind ack, message = .inboundPacket (AckKind.packet kind ack) →
      ack.packetIdentifier = id → Answerable kind id session) :
    ∃ gained, (watching first id before).StartsKeep behaviour
        (SessionActor.handleMessage message session).2 gained ∧
      ∃ later, Watching first id before (SessionActor.handleMessage message session).1
        (gained .wait) later := by
  rcases handleMessage_cases message session with ⟨kind, ack, same, result⟩ | ⟨other, plain⟩
  · rw [result]
    subst same
    have shares := shares_noting (.inboundPacket (kind.packet ack)) session
    have acknowledged : (session.noting (.inboundPacket (kind.packet ack))).acknowledged id =
        session.acknowledged id ++ (if ack.packetIdentifier = id then some kind
          else none).toList := by
      rw [acknowledged_noting, ackOf_packet]
    by_cases own : ack.packetIdentifier = id
    · rw [if_pos own] at acknowledged
      have came : (session.noting (.inboundPacket (kind.packet ack))).acknowledged id =
          before ++ (since ++ [kind]) := by
        rw [acknowledged, watches.acknowledged, List.append_assoc]
        rfl
      have later := watches.awaited.later [kind]
      split
      · rename_i handled
        rw [own]
        refine ⟨_, startsKeep_ack kind _, since ++ [kind], came, later, ?_, ?_⟩
        · exact (Multiset.card_singleton _).le
        · intro token member
          rw [Multiset.mem_singleton.mp member]
          exact watches.receive handled (answerable kind ack rfl own)
      · exact ⟨0, rfl, since ++ [kind], came, later, by simp, by simp⟩
    · rw [if_neg own] at acknowledged
      have kept : Watching first id before
          (session.noting (.inboundPacket (kind.packet ack))) 0 since :=
        watches.shares (acknowledged.trans (List.append_nil _)) shares
      split
      · exact ⟨0, startsKeep_otherAck own kind _, since, kept⟩
      · exact ⟨0, rfl, since, kept⟩
  · refine ⟨0, startsKeep_plain plain, since, ?_⟩
    apply watches.shares _ (shares_handleMessage message session)
    rw [acknowledged_of_received (received_handleMessage message session)]
    exact acknowledged_other other session

theorem watching_sound : (watching first id before).Sound behaviour (Attended id) where
  poll := by
    intro system place choose task op resume attended found suspended
    exact attended.poll place choose rfl task found op resume suspended
  receive := by
    intro system total shared starts attended watched idle received
    rcases watched with ⟨since, watches⟩
    rw [idle] at watches
    rcases receive_eq_some received with ⟨message, rest, mailbox, handled⟩
    have taken : Watching first id before { system.shared with mailbox := rest } 0 since :=
      watches.shares rfl ⟨rfl, rfl, rfl, rfl, rfl, rfl, rfl, rfl⟩
    rcases taken.handleMessage message (by
      intro kind ack same own
      subst same
      exact ⟨(attended.receive rfl kind ack rest mailbox own).expected,
        (attended.receive rfl kind ack rest mailbox own).unexpected⟩) with
      ⟨gained, starts, later, after⟩
    rw [handled] at starts after
    refine ⟨gained, starts, later, ?_⟩
    rw [Pi.add_apply, idle, zero_add]
    exact after
  finish := by
    intro system place task value own others shared starts _ _ _ _ _ _ watched _ completed
    rcases watched with ⟨since, watches⟩
    have result : complete task.id value system.shared = (shared, starts) := completed
    have plain := allPlain_complete task.id value system.shared
    have continues := (keeps_completeResult value (system.shared.release task.id)).continues
    rw [← complete, result] at continues
    rw [result] at plain
    refine ⟨0, startsKeep_plain plain, since, ?_⟩
    rw [add_zero]
    have fewer : others .wait ≤
        (others + Pi.single place.mode own : Mode → Multiset AckToken) .wait := by
      exact Multiset.le_add_right _ _
    apply (watches.drop fewer).keeps
    · exact acknowledged_of_received continues.received id
    · intro present found _
      have same : shared.stateOf id = (system.shared.release task.id).stateOf id :=
        stateOf_shares continues.toSharesWith id
      rw [same]
      exact found
  park := by
    intro number op session next total watched parked
    rcases watched with ⟨since, watches⟩
    rw [(park_eq_some parked).2]
    exact ⟨since, watches.keeps rfl fun _ found _ => found⟩
  environment := by
    intro system event shared total _ watched changed
    rcases watched with ⟨since, watches⟩
    rcases surroundings_fields changed with ⟨_, _, _, _, fields⟩
    subst fields
    exact ⟨since, watches.keeps rfl fun _ found _ => found⟩

def Unacknowledged (id : UInt16) (system : SessionSystem) : Prop :=
  ∀ mode, ∀ task ∈ system.tasks mode, ∀ kind context, task.program ≠ AckKind.task kind id context

variable {earlier : List SessionInput} {reached : SessionSystem}

/-- An exchange can be watched from any state of a run in which no acknowledgement of it is
being handled. -/
theorem kept_reached (runs : Semantics.run step (initial session) earlier = some reached)
    (quiet : Unacknowledged id reached) (found : reached.shared.stateOf id = some first)
    (outbound : first.direction = some .outbound) :
    (watching first id (reached.shared.acknowledged id)).Kept behaviour reached := by
  have known : reached.Numbered ∧ reached.Programs AnyProgram := by
    apply run_invariant _ _ runs
    · intro system input next ⟨numbered, programs⟩ stepped
      exact ⟨numbered.step stepped, programs_step programs stepped⟩
    · exact ⟨(System.numbered_new _).startAll _, programs_initial session⟩
  apply Custody.kept_zero known.1
  · refine ⟨[], (List.append_nil _).symm, ?_, by simp, by simp⟩
    exact .inl ⟨first, [], found, outbound, rfl, List.Sublist.refl []⟩
  · intro mode task member
    have only := program_advances_nothing (known.2.live mode task member) (quiet mode task member)
    exact keeps_rest (only.follows task.follows).2 0

/-- In every run whose steps attend to the exchange, it advances and ends only as the
acknowledgements that it waits for come. -/
theorem awaited_of_attended {inputs : List SessionInput} {final : SessionSystem}
    (before : Semantics.run step (initial session) earlier = some reached)
    (quiet : Unacknowledged id reached) (found : reached.shared.stateOf id = some first)
    (outbound : first.direction = some .outbound)
    (attended : EachStep step (Attended id) reached inputs)
    (runs : Semantics.run step reached inputs = some final) :
    ∃ since, final.shared.acknowledged id = reached.shared.acknowledged id ++ since ∧
      Awaited first since (final.shared.stateOf id) := by
  have kept := (kept_reached before quiet found outbound).run watching_sound attended runs
  rcases kept.carried with ⟨total, ⟨since, watches⟩, _⟩
  exact ⟨since, watches.acknowledged, watches.awaited⟩

end Watching

/-! ## Both tables and whole exchanges -/

/-- An acknowledgement respects what it does not answer if and only if it is answerable. In
every run in which the acknowledgements of an exchange with the client are answerable, and
in which no other future disturbs the exchange, the exchange advances and ends only as the
acknowledgements come that it waits for. -/
theorem acknowledgements_in_order (kind : AckKind) (ack : Ack) (session : Session)
    (id : UInt16) (first : InflightState) (earlier inputs : List SessionInput)
    (reached final : SessionSystem) :
    ((∀ inputs final, (∀ input ∈ inputs, input.isOwn = true) →
        Semantics.run step (System.new (session.receiving (AckKind.packet kind ack))) inputs =
          some final → Respects kind ack.packetIdentifier session final.shared) ↔
      Answerable kind ack.packetIdentifier session) ∧
    (Semantics.run step (initial session) earlier = some reached →
      Unacknowledged id reached → reached.shared.stateOf id = some first →
      first.direction = some .outbound → EachStep step (Attended id) reached inputs →
      Semantics.run step reached inputs = some final →
      ∃ since, final.shared.acknowledged id = reached.shared.acknowledged id ++ since ∧
        Awaited first since (final.shared.stateOf id)) := by
  refine ⟨respects_iff_answerable kind ack session, ?_⟩
  intro before quiet found outbound attended runs
  exact awaited_of_attended before quiet found outbound attended runs

/-- The operation neither registers a received message nor discards an unsent one. -/
def Op.spares : Op → Bool
  | .access (.registerRx _ _ _) | .access (.discardUnsent _ _) => false
  | _ => true

theorem Op.not_disturbs_of_spares {op : Op} (spares : op.spares = true)
    (other : ∀ packetId, op ≠ .access (.nextState packetId)) (answer : op.Answer)
    (table : ExchangeTable) : (op.localUpdate answer).disturbs .outbound table = false := by
  cases op with
  | access what =>
    cases what with
    | nextState packetId => exact absurd rfl (other packetId)
    | registerRx | discardUnsent => cases spares
    | registerTx =>
      rw [disturbs_localUpdate .outbound table answer none]
      rfl
    | _ => rfl
  | _ => rfl

/-- A check that a step attends to the exchange: an acknowledgement that comes looks at the
exchange first, and finds it as it is in the log. -/
def attends (id : UInt16) (system : SessionSystem) : SessionInput → Bool
  | .receive =>
    match system.shared.mailbox with
    | .inboundPacket packet :: _ => (ackOf id packet).all fun kind =>
        kind.checks && (system.shared.replicatedExchange id).all fun exchange =>
          exchange.state = kind.answered
    | _ => true
  | .poll place _ => (system.taskAt behaviour place).all fun task =>
      match task.current with
      | .await op _ => op.spares
      | .done _ => true
  | _ => true

theorem attended_of_attends {id : UInt16} {system : SessionSystem} {input : SessionInput}
    (checked : attends id system input = true) : Attended id system input := by
  constructor
  · intro received kind ack rest mailbox own
    subst received
    simp only [attends, mailbox, ackOf_packet, own, if_true, Option.all_some, Bool.and_eq_true,
      Option.all_eq_true, decide_eq_true_eq] at checked
    refine ⟨fun _ _ _ exchange present => .inl (checked.2 exchange present), ?_⟩
    intro _ _ blind
    rw [checked.1] at blind
    cases blind
  · intro place choose polled task found op resume suspended other answer
    subst polled
    simp only [attends, found, Option.all_some, suspended] at checked
    exact Op.not_disturbs_of_spares checked other answer _

def acknowledgesFirst (kind : AckKind) : List SessionInput :=
  [.environment (.post (.inboundPacket (kind.packet (successAck 1)))), .receive]

def cleansFirst : List SessionInput :=
  List.replicate 3 (pollTop noOrders) ++ [pollTop { noOrders with keyOrder := ["out"] }]

def pubackFirst : List SessionInput :=
  acknowledgesFirst .puback ++ pollTop noOrders :: cleansFirst ++ [.finish ⟨.wait, 0⟩]

def isIdle (system : SessionSystem) : Bool :=
  [.wait, .spawn, .detach].all fun mode => (system.tasks mode).isEmpty

/-- A PUBACK ends the exchange that waits for it. -/
theorem acknowledgements_in_order_puback : ∃ reached final,
      Semantics.run step (initial persistentSession) deliversFirst = some reached ∧
      Semantics.run step reached pubackFirst = some final ∧
      firstExchange reached =
        (some ⟨.waitPuback, some "out", true⟩, some ⟨.waitPuback, some "out", true⟩) ∧
      firstExchange final = (none, none) ∧
      ∃ since, final.shared.acknowledged 1 = reached.shared.acknowledged 1 ++ since ∧
        Awaited .waitPuback since (final.shared.stateOf 1) := by
  have seen : (Semantics.run step (initial persistentSession) deliversFirst).bind
      (fun reached => (Semantics.run step reached pubackFirst).map fun final =>
        (isIdle reached && allowedSteps step (fun system input => attends 1 system input = true)
          reached pubackFirst, firstExchange reached, firstExchange final)) =
        some (true,
          (some ⟨.waitPuback, some "out", true⟩, some ⟨.waitPuback, some "out", true⟩),
          none, none) := by
    decide +kernel
  rcases Option.bind_eq_some_iff.mp seen with ⟨reached, before, rest⟩
  rcases Option.map_eq_some_iff.mp rest with ⟨final, runs, known⟩
  rw [Prod.mk.injEq, Prod.mk.injEq, Bool.and_eq_true] at known
  rcases known with ⟨⟨idle, checked⟩, waits, ended⟩
  refine ⟨reached, final, before, runs, waits, ended, ?_⟩
  apply (acknowledgements_in_order .puback (successAck 1) persistentSession 1 .waitPuback
    deliversFirst _ reached final).2 before _ _ rfl _ runs
  · intro mode task member
    have empty : reached.tasks mode = [] := by
      apply List.isEmpty_iff.mp
      apply List.all_eq_true.mp idle mode
      cases mode <;> decide
    rw [empty] at member
    cases member
  · exact congrArg (Option.map Exchange.state) (congrArg Prod.fst waits)
  · intro visited input isPrefix system next consumed stepped
    exact attended_of_attends
      (eachStep_of_allowedSteps checked visited input isPrefix system next consumed stepped)

/-- A PUBCOMP takes a message out of both inflight maps that waits for its PUBACK. -/
theorem pubcomp_ends_unacknowledged : ∃ reached final,
      Semantics.run step (initial persistentSession) deliversFirst = some reached ∧
      Semantics.run step reached (acknowledgesFirst .pubcomp ++ cleansFirst) = some final ∧
      firstExchange reached =
        (some ⟨.waitPuback, some "out", true⟩, some ⟨.waitPuback, some "out", true⟩) ∧
      firstExchange final = (none, none) ∧ final.shared.acknowledged 1 = [.pubcomp] := by
  have seen : (Semantics.run step (initial persistentSession) deliversFirst).bind
      (fun reached => (Semantics.run step reached
        (acknowledgesFirst .pubcomp ++ cleansFirst)).map fun final =>
          (firstExchange reached, firstExchange final, final.shared.acknowledged 1)) =
        some ((some ⟨.waitPuback, some "out", true⟩, some ⟨.waitPuback, some "out", true⟩),
          (none, none), [.pubcomp]) := by
    decide +kernel
  rcases Option.bind_eq_some_iff.mp seen with ⟨reached, before, rest⟩
  rcases Option.map_eq_some_iff.mp rest with ⟨final, runs, known⟩
  simp only [Prod.mk.injEq] at known
  exact ⟨reached, final, before, runs, known.1, known.2.1, known.2.2⟩

end YedMQ.SessionActor
