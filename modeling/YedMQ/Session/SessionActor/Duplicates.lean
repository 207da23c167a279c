import YedMQ.Semantics.Ledger
import YedMQ.Session.SessionActor.LockWaiting

/-! # Copies of a QoS 2 PUBLISH

The handling of a PUBLISH does not look at the exchange that its identifier may belong to.
Each copy that passes the plugins and is stored and registered is handed to the router once
more, so that an exchange hands its message over as often as one of its copies passes.
-/

namespace YedMQ.SessionActor

open Semantics Future

def IsCopy (packetId : UInt16) (publish : Publish) : Prop :=
  publish.qos = 2 ∧ publish.packetIdentifier = some packetId

instance (packetId : UInt16) (publish : Publish) : Decidable (IsCopy packetId publish) :=
  inferInstanceAs (Decidable (_ ∧ _))

def copiesRouted (packetId : UInt16) : Event Op.Answer → Nat
  | ⟨.route publish, _⟩ => if IsCopy packetId publish then 1 else 0
  | _ => 0

def asksAbout (packetId : UInt16) : Event Op.Answer → Bool
  | ⟨.call (.onMessagePublish publish), _⟩ => decide (IsCopy packetId publish)
  | _ => false

def deniesPublish (authorized : Option Bool) : Bool :=
  authorized != some true

def rejectsMessage (policy : Option MessagePublishResult) : Bool :=
  !policy.any MessagePublishResult.allow

/-- The surroundings refuse something: the authorization, a plugin, the payload store or
raft. -/
def refuses : Event Op.Answer → Bool
  | ⟨.call (.authorizePublish _ _), authorized⟩ => deniesPublish authorized
  | ⟨.call (.onMessagePublish _), policy⟩ => rejectsMessage policy
  | ⟨.putPayload _ _, stored⟩ => !stored
  | ⟨.raft _, answer⟩ => !answer.isOk
  | _ => false

/-- The surroundings let a copy pass. A copy that has expired does not come to the
plugins. -/
def Passes (packetId : UInt16) (events : List (Event Op.Answer)) : Prop :=
  events.any (asksAbout packetId) = true ∧ events.any refuses = false

instance (packetId : UInt16) (events : List (Event Op.Answer)) :
    Decidable (Passes packetId events) :=
  inferInstanceAs (Decidable (_ ∧ _))

/-! ## The handling of one PUBLISH -/

/-- What the part of the handling after the plugins hands over. -/
structure HandsOver (packetId : UInt16) (publish : Publish) (events : List (Event Op.Answer)) :
    Prop where
  copies : (events.map (copiesRouted packetId)).sum =
    if IsCopy packetId publish ∧ events.any refuses = false then 1 else 0
  asks : events.any (asksAbout packetId) = false

section

variable {packetId : UInt16} {publish : Publish} {event : Event Op.Answer}
  {events : List (Event Op.Answer)}

/-- An operation that hands nothing over and refuses nothing. -/
theorem HandsOver.cons (handed : HandsOver packetId publish events)
    (quiet : copiesRouted packetId event = 0) (unasked : asksAbout packetId event = false)
    (granted : refuses event = false) : HandsOver packetId publish (event :: events) where
  copies := by
    rw [List.map_cons, List.sum_cons, quiet, handed.copies, List.any_cons, granted]
    simp
  asks := by
    rw [List.any_cons, unasked, handed.asks]
    rfl

/-- The handling ends with a refusal. -/
theorem handsOver_refused (quiet : copiesRouted packetId event = 0)
    (unasked : asksAbout packetId event = false) (refused : refuses event = true) :
    HandsOver packetId publish [event] where
  copies := by simp [quiet, refused]
  asks := by simp [unasked]

theorem handsOver_other (other : ¬ IsCopy packetId publish) : HandsOver packetId publish [] where
  copies := by simp [other]
  asks := rfl

theorem handsOver_route (taken : Bool) : HandsOver packetId publish [⟨.route publish, taken⟩] where
  copies := by simp [copiesRouted, refuses]
  asks := rfl

theorem handsOver_retainAndRoute (packetId : UInt16) (publish : Publish) (ack : Option Packet) :
    (retainAndRoute publish ack).Always fun events _ => HandsOver packetId publish events := by
  have routes : (do
      if ← route publish then
        return .ok ack
      else
        return .error .routeError : Fut (Except HandlePublishError (Option Packet))).Always
          fun events _ => HandsOver packetId publish events := by
    intro taken
    cases taken with
    | true => exact handsOver_route true
    | false => exact handsOver_route false
  apply Always.bind
  rw [retainPublish]
  split
  · split
    · intro cleaned
      refine always_done (routes.mono ?_)
      intro events _ handed
      exact handed.cons rfl rfl rfl
    · intro registered
      refine always_done (routes.mono ?_)
      intro events _ handed
      exact handed.cons rfl rfl rfl
  · exact routes

theorem handsOver_registerInbound (packetId : UInt16) (publish : Publish) (id : UInt16)
    (context : ClientContext) :
    (registerInbound publish id context).Always
      fun events _ => HandsOver packetId publish events := by
  intro key stored
  cases stored with
  | false => exact (handsOver_refused rfl rfl rfl).cons rfl rfl rfl
  | true =>
    intro registered
    generalize (if publish.qos = 1 then Packet.puback (successAck id)
      else .pubrec (successAck id)) = ack
    split
    · refine (handsOver_retainAndRoute packetId publish _).mono ?_
      intro events _ handed
      exact ((handed.cons rfl rfl rfl).cons rfl rfl rfl).cons rfl rfl rfl
    · intro answer
      cases answer with
      | error =>
        exact (((handsOver_refused rfl rfl rfl).cons rfl rfl rfl).cons rfl rfl rfl).cons rfl
          rfl rfl
      | ok =>
        apply (handsOver_retainAndRoute packetId publish _).mono
        intro events _ handed
        exact (((handed.cons rfl rfl rfl).cons rfl rfl rfl).cons rfl rfl rfl).cons rfl rfl
          rfl

theorem handsOver_acceptPublish (packetId : UInt16) (publish : Publish) (context : ClientContext) :
    (acceptPublish publish context).Always fun events _ => HandsOver packetId publish events := by
  intro informed acquired
  split
  · refine (handsOver_retainAndRoute packetId publish _).mono ?_
    intro events _ handed
    exact (handed.cons rfl rfl rfl).cons rfl rfl rfl
  · split
    · rename_i anonymous
      have other : ¬ IsCopy packetId publish := by
        intro copy
        rw [copy.2] at anonymous
        cases anonymous
      exact ((handsOver_other other).cons rfl rfl rfl).cons rfl rfl rfl
    · refine (handsOver_registerInbound packetId publish _ context).mono ?_
      intro events _ handed
      exact (handed.cons rfl rfl rfl).cons rfl rfl rfl

/-- The handling of one PUBLISH hands a copy over if the surroundings let it pass. -/
def HandsOverIfPasses (packetId : UInt16) (events : List (Event Op.Answer)) : Prop :=
  (events.map (copiesRouted packetId)).sum = if Passes packetId events then 1 else 0

theorem handsOverIfPasses_refused (quiet : (events.map (copiesRouted packetId)).sum = 0)
    (refused : events.any refuses = true) : HandsOverIfPasses packetId events := by
  simp [HandsOverIfPasses, Passes, quiet, refused]

/-- The plugins let a message pass, maybe with changes. -/
theorem handsOverIfPasses_accepted {accepted : Publish} {result : MessagePublishResult}
    {now : Nat} (allow : result.allow = true)
    (same : IsCopy packetId accepted ↔ IsCopy packetId publish)
    (handed : HandsOver packetId accepted events) :
    HandsOverIfPasses packetId
      (⟨.call (.authorizePublish publish.topicName publish.qos), some true⟩ :: ⟨.now, now⟩ ::
        ⟨.call (.onMessagePublish publish), some result⟩ :: events) := by
  have passes : rejectsMessage (some result) = false := by
    simp [rejectsMessage, allow]
  simp [HandsOverIfPasses, Passes, copiesRouted, asksAbout, refuses, deniesPublish, passes,
    handed.copies, handed.asks, same]

theorem handsOverIfPasses_doHandlePublish (packetId : UInt16) (publish : Publish)
    (context : ClientContext) :
    (doHandlePublish publish context).Always fun events _ => HandsOverIfPasses packetId events := by
  apply Always.perform
  intro authorized
  split
  · exact rfl
  · exact rfl
  · refine Always.perform ?_
    intro now
    split
    · rw [cleanExpiredTombstone]
      split
      · intro cleaned
        exact rfl
      · exact rfl
    · refine Always.perform ?_
      intro policy
      split
      · exact handsOverIfPasses_refused rfl rfl
      · split
        · rename_i result allow
          split
          · refine (handsOver_acceptPublish packetId publish context).mono ?_
            intro events _ handed
            exact handsOverIfPasses_accepted allow Iff.rfl handed
          · rename_i modified _
            refine (handsOver_acceptPublish packetId
              (applyModifiedMqttMessage publish modified) context).mono ?_
            intro events _ handed
            have same : IsCopy packetId (applyModifiedMqttMessage publish modified) ↔
                IsCopy packetId publish := Iff.rfl
            exact handsOverIfPasses_accepted allow same handed
        · rename_i result refused
          apply handsOverIfPasses_refused rfl
          have rejects : rejectsMessage (some result) = true := by
            simp [rejectsMessage, refused]
          simp [refuses, rejects]

theorem handsOverIfPasses_publishTask (packetId : UInt16) (publish : Publish)
    (context : ClientContext) :
    (publishTask publish context).Always fun events _ => HandsOverIfPasses packetId events := by
  apply Always.bind
  apply (handsOverIfPasses_doHandlePublish packetId publish context).mono
  intro events result handed
  apply always_done
  rw [List.append_nil]
  exact handed

/-! ## All futures -/

def Ordinary : Op → Prop
  | .route publish => publish.packetIdentifier = none
  | .call (.onMessagePublish _) => False
  | _ => True

theorem handsOverIfPasses_of_ordinary (ordinary : ∀ event ∈ events, Ordinary event.1) :
    HandsOverIfPasses packetId events := by
  have quiet : ∀ event ∈ events, copiesRouted packetId event = 0 ∧
      asksAbout packetId event = false := by
    intro event member
    have kind := ordinary event member
    rcases event with ⟨op, answer⟩
    cases op with
    | route publish =>
      have anonymous : publish.packetIdentifier = none := kind
      cases answer <;> simp [copiesRouted, asksAbout, IsCopy, anonymous]
    | call what =>
      cases what with
      | onMessagePublish => exact kind.elim
      | _ => exact ⟨rfl, rfl⟩
    | _ => exact ⟨rfl, rfl⟩
  have none : (events.map (copiesRouted packetId)).sum = 0 := by
    apply List.sum_eq_zero
    intro count member
    rcases List.mem_map.mp member with ⟨event, listed, value⟩
    rw [← value]
    exact (quiet event listed).1
  have unasked : events.any (asksAbout packetId) = false := by
    rw [List.any_eq_false]
    intro event listed
    rw [(quiet event listed).2]
    exact Bool.false_ne_true
  rw [HandsOverIfPasses, none, if_neg]
  intro passes
  rw [passes.1] at unasked
  cases unasked

theorem buildWillPublish_packetIdentifier (willMessage : WillMessage) (now : Nat) :
    (buildWillPublish willMessage now).packetIdentifier = none := by
  rw [buildWillPublish, Publish.stampExpiry]
  split <;> rfl

theorem only_ordinary {start : SessionStart} (program : AnyProgram start) :
    (∃ publish context, start.future = publishTask publish context) ∨
      start.future.Only Ordinary := by
  rcases program with ⟨owner, plain | ⟨kind, id⟩⟩
  · by_cases publishes : ∃ publish, start.future = publishTask publish owner
    · rcases publishes with ⟨publish, same⟩
      exact .inl ⟨publish, owner, same⟩
    · right
      apply (only_plain plain fun publish same => publishes ⟨publish, same⟩).mono
      intro op kind
      cases kind with
      | life kind =>
        cases kind with
        | will willMessage now => exact buildWillPublish_packetIdentifier willMessage now
        | _ => trivial
      | delivery _ _ kind | retry _ _ kind | subscription kind | unsubscription kind
      | pending kind | cleanup kind => cases kind <;> trivial
      | raftCleanup | deletion => trivial
  · right
    apply (only_ackTask kind id owner).mono
    intro op kind
    cases kind <;> trivial

theorem handsOverIfPasses_task {mode : Mode} {task : Task Op.Answer Completion}
    {completion : Completion} (program : AnyProgram ⟨mode, task.program⟩)
    (ended : task.current = .done completion) : HandsOverIfPasses packetId task.events := by
  have follows := task.follows
  rw [ended] at follows
  rcases only_ordinary program with ⟨publish, context, named⟩ | ordinary
  · have publishes : task.program = publishTask publish context := named
    rw [publishes] at follows
    exact (handsOverIfPasses_publishTask packetId publish context).done follows
  · exact handsOverIfPasses_of_ordinary (ordinary.follows follows).1

end

/-! ## Whole runs -/

variable {session : Session}

def releases (packetId : UInt16) (system : SessionSystem) : SessionInput → Bool
  | .receive =>
    match system.shared.mailbox with
    | .inboundPacket (.pubrel ack) :: _ => ack.packetIdentifier = packetId
    | _ => false
  | _ => false

/-- A part of a run in which no PUBREL of the identifier is received. -/
structure Exchange (packetId : UInt16) (session : Session) (final : SessionSystem) where
  before : List SessionInput
  during : List SessionInput
  after : List SessionInput
  opened : SessionSystem
  closed : SessionSystem
  opens : Semantics.run step (initial session) before = some opened
  closes : Semantics.run step opened during = some closed
  ends : Semantics.run step closed after = some final
  unreleased : EachStep step (fun system input => releases packetId system input = false)
    opened during

namespace Exchange

variable {packetId : UInt16} {final : SessionSystem}

/-- The future was started in this part of the run. -/
def includes (exchange : Exchange packetId session final) (task : Nat) : Bool :=
  exchange.opened.nextId ≤ task && task < exchange.closed.nextId

/-- How often the copies that are received in the exchange are sent to the router. -/
def handOvers (exchange : Exchange packetId session final) : Nat :=
  final.shared.routed.countP fun sent => exchange.includes sent.1 && IsCopy packetId sent.2

/-- How many of the copies that are received in the exchange pass. -/
def passing (exchange : Exchange packetId session final) : Nat :=
  final.finished.countP fun task => exchange.includes task.id && Passes packetId task.events

end Exchange

variable (includes : Nat → Bool) (packetId : UInt16)

def countedCopies (task : Nat) (event : Event Op.Answer) : Nat :=
  bif includes task then copiesRouted packetId event else 0

theorem perform_routed {task : Nat} {next : Session} {op : Op} {choice : op.Choice}
    {answer : op.Answer} (performed : perform task session op choice = some (next, answer)) :
    next.routed.countP (fun sent => includes sent.1 && IsCopy packetId sent.2) =
      session.routed.countP (fun sent => includes sent.1 && IsCopy packetId sent.2) +
        countedCopies includes packetId task ⟨op, answer⟩ := by
  cases op with
  | route =>
    cases performed
    cases member : includes task <;> simp [countedCopies, copiesRouted, member]
  | _ =>
    rw [(perform_frame performed).routed (by simp)]
    simp [countedCopies, copiesRouted]

/-- The router's copies are those that the futures have handed over. -/
theorem routedLedger : Ledger behaviour (fun session : Session => session.routed.countP
    fun sent => includes sent.1 && IsCopy packetId sent.2) (countedCopies includes packetId) where
  perform := by
    intro id shared op choice next answer performed
    exact perform_routed includes packetId performed
  park := by
    intro id shared op next parked
    rw [(park_eq_some parked).2]
  receive := by
    intro shared next starts received
    simp [(shares_receive received).routed]
  complete := by
    intro id value shared
    simp [behaviour, (shares_complete id value shared).routed, Session.release]
  environment := by
    intro shared event next changed
    rcases surroundings_fields changed with ⟨_, _, _, _, fields⟩
    rw [fields]

variable {includes packetId}

theorem sum_earned {tasks : List (Task Op.Answer Completion)}
    (each : ∀ task ∈ tasks, HandsOverIfPasses packetId task.events) :
    (tasks.map (Task.earned (countedCopies includes packetId))).sum =
      tasks.countP fun task => includes task.id && Passes packetId task.events := by
  induction tasks with
  | nil => rfl
  | cons task rest induction =>
    have first : (task.events.map (copiesRouted packetId)).sum =
        if Passes packetId task.events then 1 else 0 := each task List.mem_cons_self
    have own : task.earned (countedCopies includes packetId) =
        if includes task.id && Passes packetId task.events then 1 else 0 := by
      cases member : includes task.id with
      | false =>
        have none : countedCopies includes packetId task.id = fun _ => 0 := by
          funext event
          simp [countedCopies, member]
        simp [Task.earned, none]
      | true =>
        have all : countedCopies includes packetId task.id = copiesRouted packetId := by
          funext event
          simp [countedCopies, member]
        simp [Task.earned, all, first]
    have others := induction fun other member =>
      each other (List.mem_cons_of_mem _ member)
    rw [List.map_cons, List.sum_cons, List.countP_cons, own, others, add_comm]

/-- What some of the futures have handed over, when none is in progress: one message for each
copy that the surroundings have let pass. -/
theorem routed_copies {inputs : List SessionInput} {final : SessionSystem}
    (none : session.routed = []) (idle : final.Idle)
    (runs : Semantics.run step (initial session) inputs = some final) :
    final.shared.routed.countP (fun sent => includes sent.1 && IsCopy packetId sent.2) =
      final.finished.countP fun task => includes task.id && Passes packetId task.events := by
  have books : final.Programs AnyProgram ∧
      final.shared.routed.countP (fun sent => includes sent.1 && IsCopy packetId sent.2) =
        session.routed.countP (fun sent => includes sent.1 && IsCopy packetId sent.2) +
          final.total (Task.earned (countedCopies includes packetId)) := by
    apply run_invariant _ _ runs
    · intro system input next ⟨programs, balanced⟩ stepped
      exact ⟨programs_step programs stepped,
        (routedLedger includes packetId).step balanced stepped⟩
    · exact ⟨programs_initial session, (routedLedger includes packetId).new _ _⟩
  have each : ∀ task ∈ final.finished, HandsOverIfPasses packetId task.events := by
    intro task member
    rcases books.1.finished task member with ⟨_, _, program, ended⟩
    exact handsOverIfPasses_task program ended
  rw [books.2, System.total_idle idle, sum_earned each, none, List.countP_nil, Nat.zero_add]

/-- The message of an exchange is handed to the router exactly once if exactly one of its
copies passes. -/
theorem routed_once_iff {packetId : UInt16} {session : Session} {final : SessionSystem}
    (none : session.routed = []) (idle : final.Idle)
    (exchange : Exchange packetId session final) :
    exchange.handOvers = 1 ↔ exchange.passing = 1 := by
  have runs : Semantics.run step (initial session)
      (exchange.before ++ (exchange.during ++ exchange.after)) = some final := by
    rw [run_append, exchange.opens, Option.bind_some, run_append, exchange.closes,
      Option.bind_some, exchange.ends]
  have counted : exchange.handOvers = exchange.passing := routed_copies none idle runs
  rw [counted]

/-! ## A repeated PUBLISH -/

def cleanSession : Session :=
  .new { persistentConfig with cleanSession := true } 0 .new ∅

def cleanStartUp : List SessionInput :=
  List.replicate 3 (pollTop noOrders) ++ [.finish ⟨.wait, 0⟩, .receive] ++
    List.replicate 3 (pollTop noOrders) ++ [.finish ⟨.wait, 0⟩]

def exactlyOnce (dup : Bool) : Publish :=
  { somePublish (some 1) with qos := 2, dup := dup }

def handlesCopy (operations : Nat) (dup : Bool) : List SessionInput :=
  [.environment (.post (.inboundPacket (.publish (exactlyOnce dup)))), .receive] ++
    List.replicate operations (.poll ⟨.spawn, 0⟩ (granting "k" noOrders)) ++ [.finish ⟨.spawn, 0⟩]

def observed (system : SessionSystem) : Option (List Traffic × List (Nat × Publish)) :=
  if system.tasks .wait = [] ∧ system.tasks .spawn = [] ∧ system.tasks .detach = [] then
    some (system.shared.traffic, system.shared.routed)
  else
    none

variable {traffic : List Traffic} {routed : List (Nat × Publish)}

theorem idle_of_observed {system : SessionSystem}
    (settled : observed system = some (traffic, routed)) :
    system.Idle ∧ system.shared.traffic = traffic ∧ system.shared.routed = routed := by
  rw [observed] at settled
  split at settled
  · rename_i none
    cases settled
    refine ⟨?_, rfl, rfl⟩
    intro mode
    cases mode with
    | wait => exact none.1
    | spawn => exact none.2.1
    | detach => exact none.2.2
  · cases settled

theorem exists_observed (runs : (Semantics.run step (initial session) inputs).bind observed =
      some (traffic, routed)) :
    ∃ final, Semantics.run step (initial session) inputs = some final ∧ final.Idle ∧
      final.shared.traffic = traffic ∧ final.shared.routed = routed := by
  rcases Option.bind_eq_some_iff.mp runs with ⟨final, reached, settled⟩
  exact ⟨final, reached, idle_of_observed settled⟩

def repeatedTraffic : List Traffic :=
  [.connected, .received (.publish (exactlyOnce false)), .written (.pubrec (successAck 1)),
    .received (.publish (exactlyOnce true)), .written (.pubrec (successAck 1))]

/-- A QoS 2 PUBLISH that is sent again, with no PUBREL in between, is handed to the router
twice, in a clean session and in a persistent one. -/
theorem repeatedPublish_routed_twice : (∃ final, Semantics.run step (initial cleanSession)
        (cleanStartUp ++ handlesCopy 9 false ++ handlesCopy 9 true) = some final ∧
      final.Idle ∧ final.shared.traffic = repeatedTraffic ∧
      final.shared.routed = [(2, exactlyOnce false), (3, exactlyOnce true)]) ∧
    ∃ final, Semantics.run step (initial persistentSession)
        (startUp ++ handlesCopy 10 false ++ handlesCopy 10 true) = some final ∧
      final.Idle ∧ final.shared.traffic = repeatedTraffic ∧
      final.shared.routed = [(3, exactlyOnce false), (4, exactlyOnce true)] := by
  constructor
  · apply exists_observed
    decide +kernel
  · apply exists_observed
    decide +kernel

/-- Raft does not take the registration of the first copy, and the client sends the message
again. -/
def retriedPublish : List SessionInput :=
  [.environment (.post (.inboundPacket (.publish (exactlyOnce false)))), .receive] ++
    List.replicate 9 (.poll ⟨.spawn, 0⟩ fun op =>
      match op with
      | .raft _ => ⟨.lost, 0⟩
      | op => granting "k" noOrders op) ++ [.finish ⟨.spawn, 0⟩] ++ handlesCopy 10 true

/-- The client releases the identifier and uses it for another message. -/
def reusesIdentifier : List SessionInput :=
  [.environment (.post (.inboundPacket (.pubrel (successAck 1)))), .receive] ++
    List.replicate 6 (pollTop ⟨[], [], ["k"]⟩) ++ [.finish ⟨.wait, 0⟩] ++ handlesCopy 10 false

theorem routed_once_iff_retriedPublish :
    ∃ final, ∃ exchange : Exchange 1 persistentSession final, final.Idle ∧
      exchange.during = retriedPublish ∧ exchange.handOvers = 1 ∧
      final.shared.routed.countP (IsCopy 1 ·.2) = 2 := by
  have seen : ((Semantics.run step (initial persistentSession) startUp).bind fun opened =>
      (Semantics.run step opened retriedPublish).bind fun closed =>
        (Semantics.run step closed reusesIdentifier).bind fun final =>
          (observed final).map fun _ => (final.shared.routed.countP (IsCopy 1 ·.2),
            final.finished.countP fun task =>
              (opened.nextId ≤ task.id && task.id < closed.nextId) &&
                Passes 1 task.events)) = some (2, 1) := by
    decide +kernel
  rcases Option.bind_eq_some_iff.mp seen with ⟨opened, opens, rest⟩
  rcases Option.bind_eq_some_iff.mp rest with ⟨closed, closes, rest⟩
  rcases Option.bind_eq_some_iff.mp rest with ⟨final, ends, rest⟩
  rcases Option.map_eq_some_iff.mp rest with ⟨_, settled, counts⟩
  have unreleased : EachStep step (fun system input => releases 1 system input = false)
      (initial persistentSession) (startUp ++ retriedPublish) :=
    eachStep_of_allowedSteps (by decide +kernel)
  have idle := (idle_of_observed settled).1
  let exchange : Exchange 1 persistentSession final :=
    ⟨startUp, retriedPublish, reusesIdentifier, opened, closed, opens, closes, ends,
      unreleased.after opens⟩
  refine ⟨final, exchange, idle, rfl, ?_, congrArg Prod.fst counts⟩
  exact (routed_once_iff rfl idle exchange).mpr (congrArg Prod.snd counts)

end YedMQ.SessionActor
