import YedMQ.Session.SessionActor.LockWaiting

/-! # The order of the messages of a client

Every PUBLISH of the client is handled by a future of its own. The futures are numbered as
they are started, so that the numbers tell in which order the packets were received. The
calls before the guard may take any time, and a later future may overtake an earlier one
there. Behind the guard no future is overtaken any more.
-/

namespace YedMQ.SessionActor

open Semantics Future

/-! ## Up to the guard -/

def Op.isRoute : Op → Bool
  | .route _ => true
  | _ => false

def BeforeGuard {α : Type} : Fut α → Prop
  | .done _ => True
  | .await op resume =>
    op = .acquire ∨ op.isRoute = false ∧ ∀ answer, BeforeGuard (resume answer)

theorem BeforeGuard.perform {β : Type} {op : Op} {next : op.Answer → Fut β}
    (kept : op.isRoute = false) (rest : ∀ answer, BeforeGuard (next answer)) :
    BeforeGuard (Future.perform op >>= next) :=
  .inr ⟨kept, rest⟩

theorem BeforeGuard.bind {α β : Type} {future : Fut α} {next : α → Fut β}
    (first : BeforeGuard future) (rest : ∀ value, BeforeGuard (next value)) :
    BeforeGuard (future >>= next) := by
  induction future with
  | done value => exact rest value
  | await op resume induction =>
    rcases first with guard | ⟨kept, later⟩
    · exact .inl guard
    · exact .inr ⟨kept, fun answer => induction answer (later answer)⟩

theorem beforeGuard_acceptPublish (publish : Publish) (context : ClientContext) :
    BeforeGuard (acceptPublish publish context) := by
  apply BeforeGuard.perform rfl
  intro _
  exact .inl rfl

theorem beforeGuard_cleanExpiredTombstone (publish : Publish) :
    BeforeGuard (cleanExpiredTombstone publish) := by
  rw [cleanExpiredTombstone]
  split
  · exact BeforeGuard.perform rfl fun _ => trivial
  · trivial

theorem beforeGuard_publishTask (publish : Publish) (context : ClientContext) :
    BeforeGuard (publishTask publish context) := by
  apply BeforeGuard.bind
  · apply BeforeGuard.perform rfl
    intro authorized
    rcases authorized with _ | _ | _
    · trivial
    · trivial
    apply BeforeGuard.perform rfl
    intro now
    split
    · apply BeforeGuard.bind (beforeGuard_cleanExpiredTombstone publish)
      intro _
      trivial
    apply BeforeGuard.perform rfl
    intro policy
    rcases policy with _ | result
    · trivial
    dsimp only
    split
    · split
      · exact beforeGuard_acceptPublish publish context
      · exact beforeGuard_acceptPublish _ context
    · trivial
  · intro _
    trivial

/-! ## What is observed of a run -/

/-- A session actor, and what has become of those messages of its client that are watched:
the futures of the packets that were received, the futures that have handed their message
to the routers, and those whose acknowledgement was written, in this order each. -/
structure Observed where
  system : SessionSystem
  received : List Nat
  handed : List Nat
  answered : List Nat

section Watched

variable (qos : UInt8) (topic : String)

def takesWatched (session : Session) : Bool :=
  match session.mailbox with
  | .inboundPacket (.publish publish) :: _ => publish.qos = qos && publish.topicName = topic
  | _ => false

def takesGuard : Fut Completion → Bool
  | .await .acquire _ => true
  | _ => false

def handsOver : Fut Completion → Bool
  | .await op _ => op.isRoute
  | .done _ => false

def acknowledges (session : Session) : Fut Completion → Bool
  | .done (.published (.ok (some _))) => session.connected
  | _ => false

namespace Observed

def start (session : Session) : Observed where
  system := initial session
  received := []
  handed := []
  answered := []

variable (seen : Observed)

def numberAt (place : Place) (point : Fut Completion → Bool) : List Nat :=
  match seen.system.taskAt behaviour place with
  | some task =>
    if point task.current && seen.received.contains task.id then [task.id] else []
  | none => []

def entering : SessionInput → List Nat
  | .poll place _ => seen.numberAt place takesGuard
  | .finish place => seen.numberAt place (acknowledges seen.system.shared)
  | _ => []

def First (number : Nat) : Prop :=
  ∀ other ∈ seen.system.ids .spawn, other ∈ seen.received → number ≤ other

instance (seen : Observed) (number : Nat) : Decidable (seen.First number) :=
  inferInstanceAs (Decidable (∀ other ∈ _, _ → _))

def step (input : SessionInput) : Option Observed :=
  (SessionActor.step seen.system input).map fun next =>
    match input with
    | .receive =>
      { seen with
        system := next
        received := seen.received ++
          if takesWatched qos topic seen.system.shared then [seen.system.nextId] else [] }
    | .poll place _ =>
      { seen with
        system := next
        handed := seen.handed ++ seen.numberAt place handsOver }
    | .finish place =>
      { seen with
        system := next
        answered := seen.answered ++ seen.numberAt place (acknowledges seen.system.shared) }
    | .park _ | .environment _ => { seen with system := next }

end Observed

/-- The messages are handed to the routers, and the acknowledgements are written, in the order
in which the packets were received. -/
structure InOrder (seen : Observed) : Prop where
  received : seen.received.Pairwise (· < ·)
  handed : seen.handed.Pairwise (· ≤ ·)
  answered : seen.answered.Pairwise (· ≤ ·)

/-- A future of a watched PUBLISH takes the guard, or writes an acknowledgement, only when
those of all earlier ones are done. -/
def InTurn (seen : Observed) (input : SessionInput) : Prop :=
  ∀ number ∈ seen.entering input, seen.First number

instance (seen : Observed) (input : SessionInput) : Decidable (InTurn seen input) :=
  inferInstanceAs (Decidable (∀ number ∈ _, _))

/-! ## No future behind the guard is overtaken -/

structure Orderly (seen : Observed) : Prop extends InOrder seen where
  numbered : seen.system.Numbered
  known : ∀ number ∈ seen.received, number < seen.system.nextId
  live : ∀ mode, ∀ task ∈ seen.system.tasks mode, task.id ∈ seen.received →
    mode = .spawn ∧ (BeforeGuard task.current ∨ seen.First task.id)
  passed : ∀ number ∈ seen.handed ++ seen.answered, number ∈ seen.received ∧ seen.First number

variable {qos topic} {seen next : Observed}

variable {number : Nat}

theorem mem_numberAt {place : Place} {point : Fut Completion → Bool}
    (member : number ∈ seen.numberAt place point) :
    ∃ task, seen.system.taskAt behaviour place = some task ∧ point task.current = true ∧
      task.id ∈ seen.received ∧ number = task.id ∧ seen.numberAt place point = [number] := by
  rw [Observed.numberAt] at member ⊢
  cases found : seen.system.taskAt behaviour place with
  | none =>
    rw [found] at member
    cases member
  | some task =>
    rw [found] at member
    dsimp only at member ⊢
    split at member
    · rename_i stands
      have same := List.mem_singleton.mp member
      rw [if_pos stands, same]
      rw [Bool.and_eq_true, List.contains_iff_mem] at stands
      exact ⟨task, rfl, stands.1, stands.2, rfl, rfl⟩
    · cases member

theorem Observed.First.step (first : seen.First number) (bound : number < seen.system.nextId)
    (ids : ∀ other ∈ next.system.ids .spawn, other < seen.system.nextId →
      other ∈ seen.system.ids .spawn)
    (received : ∀ other ∈ next.received, other < seen.system.nextId →
      other ∈ seen.received) : next.First number := by
  intro other member watched
  rcases Nat.lt_or_ge other seen.system.nextId with old | new
  · exact first other (ids other member old) (received other watched old)
  · omega

/-- The list of the futures that have come to a point stays in order. -/
theorem pairwise_append {numbers : List Nat} (ordered : numbers.Pairwise (· ≤ ·))
    (orderly : Orderly seen) (passed : ∀ number ∈ numbers, seen.First number)
    (place : Place) (point : Fut Completion → Bool) :
    (numbers ++ seen.numberAt place point).Pairwise (· ≤ ·) := by
  rw [List.pairwise_append]
  refine ⟨ordered, ?_, ?_⟩
  · cases stands : seen.numberAt place point with
    | nil => exact .nil
    | cons number =>
      have member : number ∈ seen.numberAt place point := by
        rw [stands]
        exact List.mem_cons_self
      rcases mem_numberAt member with ⟨_, _, _, _, _, single⟩
      rw [← stands, single]
      exact List.pairwise_singleton _ _
  · intro earlier member number stands
    rcases mem_numberAt stands with ⟨task, found, _, watched, same, _⟩
    rcases System.exists_turn found with ⟨_, _, turn⟩
    have spawned := (orderly.live place.mode task turn.mem watched).1
    rw [same]
    exact passed earlier member task.id (spawned ▸ turn.mem_ids) watched

variable {input : SessionInput}

theorem step_of_observed (stepped : seen.step qos topic input = some next) :
    SessionActor.step seen.system input = some next.system := by
  rcases Option.map_eq_some_iff.mp stepped with ⟨_, made, result⟩
  rw [made, ← result]
  cases input <;> rfl

theorem mem_received (stepped : seen.step qos topic input = some next)
    (member : number ∈ next.received) :
    number ∈ seen.received ∨ number = seen.system.nextId ∧ input = .receive ∧
      takesWatched qos topic seen.system.shared = true := by
  rcases Option.map_eq_some_iff.mp stepped with ⟨_, _, result⟩
  subst result
  cases input with
  | receive =>
    rcases List.mem_append.mp member with old | new
    · exact .inl old
    · split at new
      · rename_i watched
        exact .inr ⟨List.mem_singleton.mp new, rfl, watched⟩
      · cases new
  | poll | park | finish | environment => exact .inl member

theorem receive_watched {session shared : Session} {starts : List SessionStart}
    (watched : takesWatched qos topic session = true)
    (received : receive session = some (shared, starts)) :
    ∃ publish context, starts = [spawn (publishTask publish context)] := by
  rw [takesWatched] at watched
  rw [receive] at received
  split at watched
  · rename_i publish rest mailbox
    rw [mailbox] at received
    cases received
    exact ⟨_, _, rfl⟩
  · cases watched

section Step

variable {input : SessionInput} (orderly : Orderly seen)
  (stepped : seen.step qos topic input = some next)
include orderly stepped

variable {number : Nat}

theorem Orderly.first (known : number ∈ seen.received) (first : seen.First number) :
    next.First number := by
  apply first.step (orderly.known number known)
  · intro other member bound
    exact System.mem_ids_of_step (step_of_observed stepped) member bound
  · intro other member bound
    rcases mem_received stepped member with old | ⟨_, _⟩
    · exact old
    · omega

/-- A future that a step has not moved. -/
theorem Orderly.unmoved {mode : Mode} {task : Task Op.Answer Completion}
    (listed : task ∈ seen.system.tasks mode) (watched : task.id ∈ next.received) :
    mode = .spawn ∧ (BeforeGuard task.current ∨ next.First task.id) := by
  have bound := orderly.numbered.below mode task.id (List.mem_map_of_mem listed)
  rcases mem_received stepped watched with old | ⟨_, _⟩
  · rcases orderly.live mode task listed old with ⟨spawned, before | first⟩
    · exact ⟨spawned, .inl before⟩
    · exact ⟨spawned, .inr (orderly.first stepped old first)⟩
  · omega

/-- A watched future that a step has started handles the PUBLISH that the step receives. -/
theorem Orderly.receives (fresh : seen.system.nextId ≤ number) (watched : number ∈ next.received) :
    input = .receive ∧ takesWatched qos topic seen.system.shared = true := by
  rcases mem_received stepped watched with old | ⟨_, receives⟩
  · have bound := orderly.known number old
    omega
  · exact receives

theorem Orderly.live_step (turn : InTurn seen input) :
    ∀ mode, ∀ task ∈ next.system.tasks mode, task.id ∈ next.received →
      mode = .spawn ∧ (BeforeGuard task.current ∨ next.First task.id) := by
  intro mode task listed watched
  have moved := step_of_observed stepped
  cases input with
  | receive =>
    rcases System.step_receive moved with ⟨shared, starts, _, _, received, result⟩
    rw [result] at listed
    rcases System.mem_startAll listed with old | ⟨start, member, number, fresh, same, new⟩
    · exact orderly.unmoved stepped old watched
    · subst new
      rcases receive_watched (orderly.receives stepped fresh watched).2 received with
        ⟨publish, context, single⟩
      rw [single, List.mem_singleton] at member
      subst member
      exact ⟨same.symm, .inl (beforeGuard_publishTask publish context)⟩
  | poll =>
    rcases System.step_poll moved with ⟨before, polled, after, _, _, shared, answer,
      suspended, found, turns, _, result⟩
    rw [result] at listed
    rcases turns.tasks_replace listed with old | ⟨same, new⟩
    · exact orderly.unmoved stepped old watched
    · subst same new
      have known : polled.id ∈ seen.received := by
        rcases mem_received stepped watched with old | ⟨_, other, _⟩
        · exact old
        · cases other
      rcases orderly.live _ polled turns.mem known with ⟨spawned, waits | first⟩
      · rw [suspended] at waits
        rcases waits with guard | ⟨_, later⟩
        · -- The future takes the guard: it is its turn.
          subst guard
          refine ⟨spawned, .inr (orderly.first stepped known (turn polled.id ?_))⟩
          rw [Observed.entering, Observed.numberAt, found]
          simp [suspended, known, takesGuard]
        · exact ⟨spawned, .inl (later answer)⟩
      · exact ⟨spawned, .inr (orderly.first stepped known first)⟩
  | finish =>
    rcases System.step_finish moved with ⟨_, _, _, _, shared, _, _, _, turns, _, result⟩
    rw [result] at listed
    rcases System.mem_startAll listed with old | ⟨_, _, _, fresh, _, new⟩
    · exact orderly.unmoved stepped (turns.tasks_drop old) watched
    · subst new
      cases (orderly.receives stepped fresh watched).1
  | park =>
    rcases System.step_park moved with ⟨_, _, _, _, _, _, _, _, _, result⟩
    rw [result] at listed
    exact orderly.unmoved stepped listed watched
  | environment =>
    rcases System.step_environment moved with ⟨_, _, result⟩
    rw [result] at listed
    exact orderly.unmoved stepped listed watched

/-- The futures that have come to a point by a step are first. -/
theorem Orderly.first_at (turn : InTurn seen input)
    (stands : number ∈ next.handed ++ next.answered) :
    number ∈ seen.received ∧ seen.First number := by
  rcases Option.map_eq_some_iff.mp stepped with ⟨_, _, result⟩
  subst result
  cases input with
  | receive => exact orderly.passed number stands
  | poll =>
    rcases List.mem_append.mp stands with handed | answered
    · rcases List.mem_append.mp handed with old | new
      · exact orderly.passed number (List.mem_append_left _ old)
      · rcases mem_numberAt new with ⟨task, found, routes, watched, same, _⟩
        rcases System.exists_turn found with ⟨_, _, turns⟩
        subst same
        refine ⟨watched, ?_⟩
        rcases (orderly.live _ task turns.mem watched).2 with waits | first
        · -- A future that has not taken the guard does not hand over its message.
          cases current : task.current with
          | done =>
            rw [current] at routes
            cases routes
          | await op =>
            rw [current] at routes waits
            rcases waits with guard | ⟨other, _⟩
            · subst guard
              cases routes
            · rw [handsOver, other] at routes
              cases routes
        · exact first
    · exact orderly.passed number (List.mem_append_right _ answered)
  | finish =>
    rcases List.mem_append.mp stands with handed | answered
    · exact orderly.passed number (List.mem_append_left _ handed)
    · rcases List.mem_append.mp answered with old | new
      · exact orderly.passed number (List.mem_append_right _ old)
      · rcases mem_numberAt new with ⟨task, _, _, watched, same, _⟩
        subst same
        exact ⟨watched, turn task.id new⟩
  | park | environment => exact orderly.passed number stands

theorem Orderly.inOrder : InOrder next := by
  have handed : ∀ number ∈ seen.handed, seen.First number := by
    intro number member
    exact (orderly.passed number (List.mem_append_left _ member)).2
  have answered : ∀ number ∈ seen.answered, seen.First number := by
    intro number member
    exact (orderly.passed number (List.mem_append_right _ member)).2
  rcases Option.map_eq_some_iff.mp stepped with ⟨_, _, result⟩
  subst result
  cases input with
  | receive =>
    refine ⟨?_, orderly.handed, orderly.answered⟩
    rw [List.pairwise_append]
    refine ⟨orderly.received, by split <;> simp, ?_⟩
    intro earlier member number new
    have bound := orderly.known earlier member
    split at new
    · rw [List.mem_singleton.mp new]
      exact bound
    · cases new
  | poll place =>
    exact { orderly with handed := pairwise_append orderly.handed orderly handed place _ }
  | finish place =>
    exact { orderly with answered := pairwise_append orderly.answered orderly answered place _ }
  | park | environment => exact { orderly with }

theorem Orderly.known_step : ∀ number ∈ next.received, number < next.system.nextId := by
  intro number member
  have moved := step_of_observed stepped
  have grows := System.nextId_le_step moved
  rcases mem_received stepped member with old | ⟨new, receives, takes⟩
  · have bound := orderly.known number old
    omega
  · subst receives
    rcases System.step_receive moved with ⟨_, _, _, _, received, result⟩
    rcases receive_watched takes received with ⟨_, _, single⟩
    rw [result, single, new]
    exact Nat.lt_succ_self _

theorem Orderly.step (turn : InTurn seen input) : Orderly next where
  toInOrder := orderly.inOrder stepped
  numbered := orderly.numbered.step (step_of_observed stepped)
  known := orderly.known_step stepped
  live := orderly.live_step stepped turn
  passed := by
    intro number member
    rcases orderly.first_at stepped turn member with ⟨known, first⟩
    refine ⟨?_, orderly.first stepped known first⟩
    rcases Option.map_eq_some_iff.mp stepped with ⟨_, _, result⟩
    subst result
    cases input with
    | receive => exact List.mem_append_left _ known
    | poll | park | finish | environment => exact known

end Step

theorem orderly_start (session : Session) : Orderly (.start session) where
  received := .nil
  handed := .nil
  answered := .nil
  numbered := (System.numbered_new _).startAll _
  known := nofun
  live := nofun
  passed := nofun

end Watched

/-- If no future of a PUBLISH overtakes that of an earlier one on the way to the guard, or to
an acknowledgement without it, then the messages of one QoS to one topic are handed to the
routers and acknowledged in the order in which they were received. -/
theorem published_in_order (qos : UInt8) (topic : String) (session : Session)
    (inputs : List SessionInput)
    (turns : EachStep (Observed.step qos topic) InTurn (.start session) inputs) :
    Throughout (Observed.step qos topic) InOrder (.start session) inputs := by
  apply (throughout_of_eachStep _ (orderly_start session) turns).mono fun _ => Orderly.toInOrder
  intro seen input next orderly turn stepped
  exact orderly.step stepped turn

def publishesTwice : List SessionInput :=
  startUp ++ [.environment (.post (.inboundPacket (.publish (somePublish (some 1))))),
    .environment (.post (.inboundPacket (.publish (somePublish (some 2))))), .receive, .receive]

def finishesAt (index : Nat) : List SessionInput :=
  List.replicate 10 (.poll ⟨.spawn, index⟩ (granting "k" noOrders)) ++ [.finish ⟨.spawn, index⟩]

theorem published_in_order_twice :
    ∃ final, Semantics.run (Observed.step 1 "a") (.start persistentSession)
        (publishesTwice ++ finishesAt 0 ++ finishesAt 0) = some final ∧
      final.system.shared.routed = [(3, somePublish (some 1)), (4, somePublish (some 2))] ∧
      InOrder final := by
  have observed : (Semantics.run (Observed.step 1 "a") (.start persistentSession)
      (publishesTwice ++ finishesAt 0 ++ finishesAt 0)).map
        (fun final => final.system.shared.routed) =
          some [(3, somePublish (some 1)), (4, somePublish (some 2))] := by
    decide +kernel
  rcases Option.map_eq_some_iff.mp observed with ⟨final, runs, seen⟩
  refine ⟨final, runs, seen, ?_⟩
  apply published_in_order 1 "a" persistentSession _ _ _ List.prefix_rfl final runs
  exact eachStep_of_allowedSteps (by decide +kernel)

/-- The plugins answer for the second packet first: its message is routed and acknowledged
before that of the first one. -/
theorem second_publish_overtakes :
    ∃ final, Semantics.run (Observed.step 1 "a") (.start persistentSession)
        (publishesTwice ++ finishesAt 1 ++ finishesAt 0) = some final ∧
      final.system.shared.routed = [(4, somePublish (some 2)), (3, somePublish (some 1))] ∧
      final.system.shared.traffic = [.connected,
        .received (.publish (somePublish (some 1))), .received (.publish (somePublish (some 2))),
        .written (.puback (successAck 2)), .written (.puback (successAck 1))] ∧
      ¬ InOrder final := by
  have observed : (Semantics.run (Observed.step 1 "a") (.start persistentSession)
      (publishesTwice ++ finishesAt 1 ++ finishesAt 0)).map (fun final =>
        (final.system.shared.routed, final.system.shared.traffic, final.handed)) =
      some ([(4, somePublish (some 2)), (3, somePublish (some 1))],
        [.connected, .received (.publish (somePublish (some 1))),
          .received (.publish (somePublish (some 2))), .written (.puback (successAck 2)),
          .written (.puback (successAck 1))], [4, 3]) := by
    decide +kernel
  rcases Option.map_eq_some_iff.mp observed with ⟨final, runs, seen⟩
  simp only [Prod.mk.injEq] at seen
  refine ⟨final, runs, seen.1, seen.2.1, ?_⟩
  intro ordered
  have handed := ordered.handed
  rw [seen.2.2] at handed
  exact absurd handed (by decide)

end YedMQ.SessionActor
