import Mathlib.Data.Finset.Card
import Mathlib.Logic.Relation
import YedMQ.Raft.SessionState.StateMachine

/-! # Forwarding a session-state write

A node that is not the leader sends a write to the node that it takes for the leader.
There the write is handled like one of that node's own, so it may be sent on again. An
error travels back as a gRPC status, which each node on the way turns into an error and
its own caller's status. A connection that breaks ends the waiting of the node that has sent
the write on, but not the handling of the write.
-/

namespace YedMQ.Raft.SessionState

/-! ## Errors and statuses -/

/-- The gRPC codes that the two mappings set or test. -/
inductive Code where
  | notFound
  | alreadyExists
  | failedPrecondition
  | unavailable
  | internal
  | other (code : Nat)
deriving DecidableEq

inductive ErrorCode where
  | sessionStateNotFound
  | packetIdentifierAlreadyExists
  | other (code : Nat)

structure ErrorDetail where
  code : ErrorCode
  message : String
  node : String

inductive ErrorKind where
  | leaderRedirect
  | business
  | noLeader
  | notReady
  | fatal

/-- A gRPC status with the metadata and the detail that it carries. -/
structure Status where
  code : Code
  message : String
  errorKind : Option ErrorKind := none
  leaderAddr : Option String := none
  leaderNodeId : Option NodeId := none
  detail : Option ErrorDetail := none

inductive SessionStateRaftError where
  | notLeader (leader : Option Node)
  | notInitialized
  | notReady (message : String)
  | serviceUnavailable (message : String)
  | grpcConnect (message : String)
  | noLeaderAvailable
  | sessionStateNotExisted (message : String)
  | inflightError (error : InflightError)
  | grpcBusiness (grpcCode : Code) (detail : ErrorDetail)
  | grpc (status : Status)
  -- The errors of raft and of the serialization, by their texts.
  | other (message : String)

def businessStatus (code : Code) (detail : ErrorDetail) : Status where
  code := code
  message := detail.message
  errorKind := some .business
  detail := some detail

def mapSessionStateRaftError (action : String) : SessionStateRaftError → Status
  | .notLeader (some leader) =>
    { code := .failedPrecondition
      message := action ++ " requires leader handling at " ++ leader.rpcAddr
      errorKind := some .leaderRedirect
      leaderAddr := some leader.rpcAddr
      leaderNodeId := leader.nodeId }
  | .notLeader none | .noLeaderAvailable =>
    { code := .unavailable
      message := action ++ " failed: no leader available"
      errorKind := some .noLeader }
  | .notInitialized =>
    { code := .unavailable
      message := action ++ " failed: session state raft not initialized"
      errorKind := some .notReady }
  | .notReady message =>
    { code := .unavailable
      message := action ++ " failed: " ++ message
      errorKind := some .notReady }
  | .serviceUnavailable message | .grpcConnect message =>
    { code := .unavailable, message := action ++ " failed: " ++ message }
  | .sessionStateNotExisted message =>
    businessStatus .notFound ⟨.sessionStateNotFound, message, "session_state_raft"⟩
  | .inflightError .packetIdentifierHasExisted =>
    businessStatus .alreadyExists
      ⟨.packetIdentifierAlreadyExists, "packet identifier has existed", "session_state_raft"⟩
  | .grpcBusiness grpcCode detail => businessStatus grpcCode detail
  | .grpc status => status
  | .other message =>
    { code := .internal
      message := action ++ " failed: " ++ message
      errorKind := some .fatal }

def mapRemoteBusinessError (grpcCode : Code) (detail : ErrorDetail) : SessionStateRaftError :=
  match detail.code with
  | .sessionStateNotFound => .sessionStateNotExisted detail.message
  | .packetIdentifierAlreadyExists => .inflightError .packetIdentifierHasExisted
  | .other _ => .grpcBusiness grpcCode detail

def mapRemoteStatus (status : Status) : SessionStateRaftError :=
  match status.errorKind, status.detail with
  | some .leaderRedirect, _ =>
    .notLeader (status.leaderAddr.map fun rpcAddr => ⟨status.leaderNodeId, rpcAddr, ""⟩)
  | some .business, some detail => mapRemoteBusinessError status.code detail
  | some .noLeader, _ => .noLeaderAvailable
  | some .notReady, _ => .notReady status.message
  | _, _ =>
    if status.code = .unavailable then .serviceUnavailable status.message else .grpc status

/-! ## Handling a write -/

structure ClientWriteResponse where
  logId : LogId
  data : SessionStateResponse
  membership : Option Membership

abbrev WriteResult := Except SessionStateRaftError ClientWriteResponse

/-- Some answers of the state machine are errors for the caller. -/
def resultOf (response : ClientWriteResponse) : WriteResult :=
  match response.data with
  | .inflightRegisterRxPacketResponse (.error (.inflightError error)) =>
    .error (.inflightError error)
  | .inflightRegisterTxPacketResponse (.error (.inflightError error)) =>
    .error (.inflightError error)
  | .inflightRegisterTxPacketResponse (.error (.sessionStateNotExisted clientId)) =>
    .error (.sessionStateNotExisted ("Session state not existed for client_id: " ++ clientId))
  | _ => .ok response

/-- What happens to a write at each node of a cluster, by the nodes' RPC addresses. -/
structure Peers where
  nodes : Finset String
  /-- The answer of a raft actor that is not running. -/
  notRunning : String → Option SessionStateRaftError
  /-- The result of the node's own raft instance, which names the leader it believes in. -/
  tryLocalWrite : String → SessionStateRequest → WriteResult
  named : ∀ node request leader, tryLocalWrite node request = .error (.notLeader (some leader)) →
    leader.rpcAddr ∈ nodes
  /-- Push the payload of a key from a node to another. -/
  replicate : String → String → String → Except String Unit
  lazyChannel : String → Except String Unit
  /-- The status of a request to a node that cannot be reached. -/
  unreachable : String → Option Status
  /-- The status at a node whose connection to another breaks before the reply. -/
  lost : String → String → Option Status

namespace Peers

variable (peers : Peers) (request : SessionStateRequest)

def forwardToLeader (node : String) (leader : Node) : String ⊕ WriteResult :=
  match request.registeredKey.elim (.ok ()) (peers.replicate node leader.rpcAddr) with
  | .error reason => .inr (.error (.serviceUnavailable ("push payload error " ++ reason)))
  | .ok () =>
    match peers.lazyChannel leader.rpcAddr, peers.unreachable leader.rpcAddr with
    | .error reason, _ => .inr (.error (.grpcConnect reason))
    | .ok (), some status => .inr (.error (mapRemoteStatus status))
    | .ok (), none => .inl leader.rpcAddr

def handleRaftWrite (node : String) : String ⊕ WriteResult :=
  match peers.notRunning node, peers.tryLocalWrite node request with
  | some error, _ => .inr (.error error)
  | none, .ok response => .inr (resultOf response)
  | none, .error (.notLeader (some leader)) => peers.forwardToLeader request node leader
  | none, .error (.notLeader none) => .inr (.error .noLeaderAvailable)
  | none, .error error => .inr (.error error)

def relay (result : WriteResult) : WriteResult :=
  result.mapError fun error =>
    mapRemoteStatus (mapSessionStateRaftError "session state write" error)

/-- A write at a node, followed over at most `fuel` nodes: the nodes that forward it, and the
result if there is one by then. -/
def write : Nat → String → List String × Option WriteResult
  | 0, _ => ([], none)
  | fuel + 1, node =>
    match peers.handleRaftWrite request node with
    | .inr result => ([], some result)
    | .inl leader =>
      (node :: (write fuel leader).1,
        match peers.lost node leader with
        | some status => some (.error (mapRemoteStatus status))
        | none => (write fuel leader).2.map relay)

def Tested : WriteResult → Prop
  | .ok _ => True
  | .error error => error = .noLeaderAvailable ∨ (∃ kind, error = .inflightError kind) ∨
      ∃ message, error = .sessionStateNotExisted message

/-- A node that runs takes another for the leader, and can send the write and its payload
there. -/
def Forwards (node leader : String) : Prop :=
  peers.notRunning node = none ∧
    (∃ believed, peers.tryLocalWrite node request = .error (.notLeader (some believed)) ∧
      believed.rpcAddr = leader) ∧
    request.registeredKey.elim (.ok ()) (peers.replicate node leader) = .ok () ∧
    peers.lazyChannel leader = .ok () ∧ peers.unreachable leader = none

structure HandledOnce (origin : String) : Prop where
  forwardedOnce : ∀ fuel, (peers.write request fuel origin).1.Nodup
  answered : ∃ fuel result, (peers.write request fuel origin).2 = some result
  /-- The node at the end of the way has produced the result. -/
  faithful : ∀ fuel result, (peers.write request fuel origin).2 = some result →
    ∃ node produced, Relation.ReflTransGen (peers.Forwards request) origin node ∧
      peers.handleRaftWrite request node = .inr produced ∧ (Tested produced → result = produced)

/-- The write comes to no nodes whose believed leaders form a circle. -/
def AvoidsCircles (origin : String) : Prop :=
  ∀ node, Relation.ReflTransGen (peers.Forwards request) origin node →
    ¬ Relation.TransGen (peers.Forwards request) node node

variable {result : WriteResult}

/-- The two mappings cancel out on what callers test for. -/
theorem relay_of_tested (tested : Tested result) : relay result = result := by
  cases result with
  | ok response => rfl
  | error error =>
    rcases tested with rfl | ⟨kind, rfl⟩ | ⟨message, rfl⟩
    · rfl
    · rfl
    · rfl

variable {peers request} {fuel : Nat} {origin node leader : String}

theorem handleRaftWrite_eq_inl :
    peers.handleRaftWrite request node = .inl leader ↔ peers.Forwards request node leader := by
  constructor
  · intro forwards
    rw [handleRaftWrite] at forwards
    split at forwards
    · cases forwards
    · cases forwards
    · rename_i believed running refused
      rw [forwardToLeader] at forwards
      split at forwards
      · cases forwards
      · rename_i pushed
        split at forwards
        · cases forwards
        · cases forwards
        · rename_i connected reachable
          cases forwards
          exact ⟨running, ⟨believed, refused, rfl⟩, pushed, connected, reachable⟩
    · cases forwards
    · cases forwards
  · rintro ⟨running, ⟨believed, refused, rfl⟩, pushed, connected, reachable⟩
    rw [handleRaftWrite, running, refused]
    dsimp only
    rw [forwardToLeader, pushed, connected, reachable]

theorem write_of_forwards (kept : peers.lost node leader = none)
    (forwards : peers.Forwards request node leader) (fuel : Nat) :
    peers.write request (fuel + 1) node =
      (node :: (peers.write request fuel leader).1,
        (peers.write request fuel leader).2.map relay) := by
  rw [write, handleRaftWrite_eq_inl.mpr forwards]
  dsimp only
  rw [kept]

open Relation

theorem reached_of_mem_write {forwarder : String}
    (member : forwarder ∈ (peers.write request fuel node).1) :
    ReflTransGen (peers.Forwards request) node forwarder := by
  induction fuel generalizing node with
  | zero => cases member
  | succ fuel induction =>
    rw [write] at member
    split at member
    · cases member
    · rename_i leader handled
      rcases List.mem_cons.mp member with same | later
      · rw [same]
      · exact .head (handleRaftWrite_eq_inl.mp handled) (induction later)

theorem AvoidsCircles.tail (avoids : peers.AvoidsCircles request node)
    (forwards : peers.Forwards request node leader) : peers.AvoidsCircles request leader :=
  fun other reached => avoids other (.head forwards reached)

theorem AvoidsCircles.nodup (avoids : peers.AvoidsCircles request node) (fuel : Nat) :
    (peers.write request fuel node).1.Nodup := by
  induction fuel generalizing node with
  | zero => exact List.nodup_nil
  | succ fuel induction =>
    rw [write]
    split
    · exact List.nodup_nil
    · rename_i leader handled
      have forwards := handleRaftWrite_eq_inl.mp handled
      rw [List.nodup_cons]
      constructor
      · intro again
        exact avoids node .refl (.head' forwards (reached_of_mem_write again))
      · exact induction (avoids.tail forwards)

theorem mem_nodes (reached : ReflTransGen (peers.Forwards request) origin node) :
    node ∈ insert origin peers.nodes := by
  cases reached with
  | refl => exact Finset.mem_insert_self _ _
  | tail _ forwards =>
    rcases forwards with ⟨_, ⟨believed, refused, rfl⟩, _⟩
    exact Finset.mem_insert_of_mem (peers.named _ _ _ refused)

variable (kept : ∀ node leader, peers.lost node leader = none)

include kept

/-- As long as there is no answer, every node forwards. -/
theorem length_write (unanswered : (peers.write request fuel node).2 = none) :
    (peers.write request fuel node).1.length = fuel := by
  induction fuel generalizing node with
  | zero => rfl
  | succ fuel induction =>
    cases handled : peers.handleRaftWrite request node with
    | inr =>
      rw [write, handled] at unanswered
      cases unanswered
    | inl leader =>
      have forwards := handleRaftWrite_eq_inl.mp handled
      rw [write_of_forwards (kept _ _) forwards] at unanswered ⊢
      exact congrArg (· + 1) (induction (Option.map_eq_none_iff.mp unanswered))

theorem AvoidsCircles.answered (avoids : peers.AvoidsCircles request origin) :
    ∃ fuel result, (peers.write request fuel origin).2 = some result := by
  by_contra unanswered
  have never : ∀ fuel, (peers.write request fuel origin).2 = none := by
    intro fuel
    apply Option.eq_none_iff_forall_ne_some.mpr
    intro result answered
    exact unanswered ⟨fuel, result, answered⟩
  -- The nodes that forward would be more than there are.
  let fuel := (insert origin peers.nodes).card + 1
  have few : (peers.write request fuel origin).1.length ≤ (insert origin peers.nodes).card := by
    rw [← List.toFinset_card_of_nodup (avoids.nodup fuel)]
    apply Finset.card_le_card
    intro forwarder member
    exact mem_nodes (reached_of_mem_write (List.mem_toFinset.mp member))
  rw [length_write kept (never fuel)] at few
  exact absurd few (Nat.not_succ_le_self _)

theorem produced_of_answered (answered : (peers.write request fuel node).2 = some result) :
    ∃ handler produced, ReflTransGen (peers.Forwards request) node handler ∧
      peers.handleRaftWrite request handler = .inr produced ∧
      (Tested produced → result = produced) := by
  induction fuel generalizing node result with
  | zero => cases answered
  | succ fuel induction =>
    cases handled : peers.handleRaftWrite request node with
    | inr produced =>
      rw [write, handled] at answered
      cases answered
      exact ⟨node, result, .refl, handled, fun _ => rfl⟩
    | inl leader =>
      have forwards := handleRaftWrite_eq_inl.mp handled
      rw [write_of_forwards (kept _ _) forwards] at answered
      rcases Option.map_eq_some_iff.mp answered with ⟨remote, found, rfl⟩
      rcases induction found with ⟨handler, produced, reached, handledThere, same⟩
      refine ⟨handler, produced, .head forwards reached, handledThere, ?_⟩
      intro tested
      rw [same tested, relay_of_tested tested]

/-- A write on a circle is forwarded for ever. -/
theorem unanswered_of_circle (circle : TransGen (peers.Forwards request) node node)
    (fuel : Nat) : (peers.write request fuel node).2 = none := by
  induction fuel generalizing node with
  | zero => rfl
  | succ fuel induction =>
    rcases TransGen.head'_iff.mp circle with ⟨leader, forwards, back⟩
    rw [write_of_forwards (kept _ _) forwards, induction (.tail' back forwards)]
    rfl

theorem answered_of_reached (reached : ReflTransGen (peers.Forwards request) node leader)
    (answered : (peers.write request fuel node).2 = some result) :
    ∃ fuel result, (peers.write request fuel leader).2 = some result := by
  induction reached using ReflTransGen.head_induction_on generalizing fuel result with
  | refl => exact ⟨fuel, result, answered⟩
  | head forwards _ induction =>
    cases fuel with
    | zero => cases answered
    | succ fuel =>
      rw [write_of_forwards (kept _ _) forwards] at answered
      rcases Option.map_eq_some_iff.mp answered with ⟨remote, found, _⟩
      exact induction found

omit kept

def accepted : ClientWriteResponse :=
  ⟨⟨⟨1, 1⟩, 1⟩, .popFromPendingQueueResult none none, none⟩

def popping : SessionStateRequest :=
  .popFromPendingQueue "public" "client"

/-- A node without a believed leader accepts the write. -/
def believing (leaders : List (String × String)) (lost : String → String → Option Status) :
    Peers where
  nodes := (leaders.map Prod.snd).toFinset
  notRunning := fun _ => none
  tryLocalWrite := fun node _ =>
    match leaders.lookup node with
    | some leader => .error (.notLeader (some ⟨none, leader, ""⟩))
    | none => .ok accepted
  named := by
    intro node request leader refused
    split at refused
    · rename_i found
      cases refused
      rcases List.lookup_eq_some_iff.mp found with ⟨_, _, rfl, _⟩
      simp
    · cases refused
  replicate := fun _ _ _ => .ok ()
  lazyChannel := fun _ => .ok ()
  unreachable := fun _ => none
  lost := lost

variable {leaders : List (String × String)} {lost : String → String → Option Status}

theorem accepted_of_inr
    (handled : (believing leaders lost).handleRaftWrite popping node = .inr result) :
    result = .ok accepted := by
  rw [handleRaftWrite] at handled
  simp only [believing] at handled
  cases believed : leaders.lookup node with
  | none =>
    rw [believed] at handled
    cases handled
    rfl
  | some leader =>
    rw [believed] at handled
    cases handled

theorem avoidsCircles_of_lt (ordered : ∀ pair ∈ leaders, pair.1 < pair.2) :
    (believing leaders lost).AvoidsCircles popping origin := by
  have nearer : ∀ node leader, (believing leaders lost).Forwards popping node leader →
      node < leader := by
    intro node leader forwards
    rcases forwards with ⟨_, ⟨believed, refused, rfl⟩, _⟩
    simp only [believing] at refused
    split at refused
    · rename_i found
      cases refused
      rcases List.lookup_eq_some_iff.mp found with ⟨_, _, rfl, _⟩
      exact ordered (node, _) (by simp)
    · cases refused
  intro node _ circle
  have ahead : TransGen (fun one other : String => one < other) node node :=
    TransGen.mono nearer _ _ circle
  rw [transGen_eq_self] at ahead
  exact lt_irrefl node ahead

def successor : List (String × String) :=
  [("a", "b"), ("b", "c")]

def eachOther : List (String × String) :=
  [("a", "b"), ("b", "a")]

def breaking (node _ : String) : Option Status :=
  if node = "a" then some { code := .unavailable, message := "connection reset" } else none

end Peers

end YedMQ.Raft.SessionState
