import Mathlib.Data.Finset.Insert
import YedMQ.Raft.SessionState.StateMachine

/-! # Linearizable reads of session states

`GetSessionStateEnsureLinearizable` first asks the node's own raft instance to confirm
that its state machine is up to date, and then reads it. An instance that cannot do so
names a leader, to which the read is forwarded. The leader's RPC handler serves it with
`GetSessionState`, which reads the state machine as it is.

The cluster is a committed log and replicas that have applied a part of it, each with its
own readings. Any node may be elected at any time, and any node may be named as the leader. A
write is acknowledged by the leader after it has applied it; a leader that is deposed may
still acknowledge what was committed before. Catching up from a snapshot counts as applying
the entries.
-/

namespace YedMQ.Raft.SessionState

open Semantics YedMQ

/-- How a session state is sent to another node. Each node has its own version of the
format. -/
structure Codec where
  encode : NodeId → Option SessionState → String
  decode : NodeId → String → Except String (Option SessionState)

inductive ReadError where
  | noLeaderAvailable
  | remote (reason : String)
deriving DecidableEq

inductive ReadPhase where
  -- The raft instance has been asked to confirm.
  | ensuring
  -- It has confirmed; the read waits for the storage.
  | reading
  | asking (leader : NodeId)
  -- The leader's response is under way.
  | receiving (payload : Option String)
  | answered (result : Except ReadError (Option SessionState))

/-- A read with the log positions of the writes that had been acknowledged when it
began. -/
structure LinearizableRead where
  node : NodeId
  tenantId : String
  clientId : String
  phase : ReadPhase
  acknowledged : Finset Nat

/-- A state machine with the entries that have led to its state. -/
structure Replica where
  inputs : List (Entry SessionStateRequest × Reading)
  data : StateMachineData SessionStateStorage
  reached : run step initial inputs = some data

namespace Replica

def new : Replica where
  inputs := []
  data := initial
  reached := rfl

def apply (input : Entry SessionStateRequest × Reading) (replica : Replica) : Option Replica :=
  match applied : step replica.data input with
  | none => none
  | some next => some
      { inputs := replica.inputs ++ [input]
        data := next
        reached := by rw [run_concat, replica.reached]; exact applied }

def getSessionState (tenantId clientId : String) (replica : Replica) : Option SessionState :=
  replica.data.state.getSessionState tenantId clientId

theorem inputs_apply {input : Entry SessionStateRequest × Reading} {replica next : Replica}
    (applied : replica.apply input = some next) : next.inputs = replica.inputs ++ [input] := by
  rw [apply] at applied
  split at applied
  · cases applied
  · cases applied
    rfl

end Replica

namespace LinearizableRead

def CoveredBy (read : LinearizableRead) (replica : Replica) : Prop :=
  ∀ position ∈ read.acknowledged, position < replica.inputs.length

instance (read : LinearizableRead) (replica : Replica) : Decidable (read.CoveredBy replica) :=
  inferInstanceAs (Decidable (∀ position ∈ read.acknowledged, position < replica.inputs.length))

def lookup (read : LinearizableRead) (replica : Replica) : Option SessionState :=
  replica.getSessionState read.tenantId read.clientId

def survives (node : NodeId) (read : LinearizableRead) : Bool :=
  match read.phase with
  | .answered _ => true
  | _ => read.node != node

/-- The result is the session as it is after a part of the committed log that contains
every write that had been acknowledged when the read began. -/
def Reflects (committed : List (Entry SessionStateRequest)) (read : LinearizableRead)
    (result : Option SessionState) : Prop :=
  ∃ replica : Replica, replica.inputs.map Prod.fst <+: committed ∧ read.CoveredBy replica ∧
    read.lookup replica = result

end LinearizableRead

structure Cluster where
  committed : List (Entry SessionStateRequest)
  /-- The log positions of the writes that have been acknowledged. -/
  acknowledged : Finset Nat
  replicas : NodeId → Replica
  /-- The node that has been elected last, unless it has restarted since. -/
  leader : Option NodeId
  /-- How many entries had been committed when the leadership changed last. -/
  inherited : Nat
  nextRead : Nat
  reads : Nat → Option LinearizableRead

namespace Cluster

inductive Input where
  | commit (entry : Entry SessionStateRequest)
  | apply (node : NodeId) (reading : Reading)
  -- The node has applied the write and tells its sender so.
  | acknowledge (node : NodeId) (position : Nat)
  | elect (node : NodeId)
  | restart (node : NodeId)
  | getSessionStateEnsureLinearizable (node : NodeId) (tenantId clientId : String)
  | ensured (read : Nat)
  | notLeader (read : Nat) (leader : Option NodeId)
  | readLocally (read : Nat)
  -- The leader's RPC handler.
  | getSessionState (read : Nat)
  | receive (read : Nat)
  | fail (read : Nat) (reason : String)

def initial : Cluster where
  committed := []
  acknowledged := ∅
  replicas := fun _ => .new
  leader := none
  inherited := 0
  nextRead := 0
  reads := fun _ => none

def setReplica (node : NodeId) (replica : Replica) (cluster : Cluster) : Cluster :=
  { cluster with replicas := Function.update cluster.replicas node replica }

def lead (leader : Option NodeId) (cluster : Cluster) : Cluster :=
  { cluster with leader := leader, inherited := cluster.committed.length }

def dropReads (node : NodeId) (cluster : Cluster) : Cluster :=
  { cluster with
    reads := fun id => (cluster.reads id).filter (LinearizableRead.survives node) }

def setRead (id : Nat) (read : LinearizableRead) (cluster : Cluster) : Cluster :=
  { cluster with reads := Function.update cluster.reads id (some read) }

def setPhase (id : Nat) (read : LinearizableRead) (phase : ReadPhase) (cluster : Cluster) :
    Cluster :=
  cluster.setRead id { read with phase := phase }

/-- A read that `ensure_linearizable` has been called for. The assumption on openraft is
that it succeeds only on a node that has applied what was acknowledged before. -/
def ensured (id : Nat) (read : LinearizableRead) (cluster : Cluster) : Option Cluster :=
  match read.phase with
  | .ensuring =>
    if read.CoveredBy (cluster.replicas read.node) then
      some (cluster.setPhase id read .reading)
    else
      none
  | _ => none

def notLeader (id : Nat) (read : LinearizableRead) (leader : Option NodeId)
    (cluster : Cluster) : Option Cluster :=
  match read.phase with
  | .ensuring =>
    match leader with
    | some leader => some (cluster.setPhase id read (.asking leader))
    | none => some (cluster.setPhase id read (.answered (.error .noLeaderAvailable)))
  | _ => none

def readLocally (id : Nat) (read : LinearizableRead) (cluster : Cluster) : Option Cluster :=
  match read.phase with
  | .reading => some (cluster.setPhase id read
      (.answered (.ok (read.lookup (cluster.replicas read.node)))))
  | _ => none

variable (codec : Codec)

def getSessionState (id : Nat) (read : LinearizableRead) (cluster : Cluster) :
    Option Cluster :=
  match read.phase with
  | .asking leader => some (cluster.setPhase id read
      (.receiving (some (codec.encode leader (read.lookup (cluster.replicas leader))))))
  | _ => none

/-- A response that cannot be decoded counts as no session. -/
def receive (id : Nat) (read : LinearizableRead) (cluster : Cluster) :
    Option Cluster :=
  match read.phase with
  | .receiving none => some (cluster.setPhase id read (.answered (.ok none)))
  | .receiving (some payload) =>
    match codec.decode read.node payload with
    | .ok result => some (cluster.setPhase id read (.answered (.ok result)))
    | .error _ => some (cluster.setPhase id read (.answered (.ok none)))
  | _ => none

def fail (id : Nat) (read : LinearizableRead) (reason : String) (cluster : Cluster) :
    Option Cluster :=
  match read.phase with
  | .asking _ | .receiving _ =>
    some (cluster.setPhase id read (.answered (.error (.remote reason))))
  | _ => none

variable (cluster : Cluster)

def step : Input → Option Cluster
  | .commit entry => some { cluster with committed := cluster.committed ++ [entry] }
  | .apply node reading =>
    match cluster.committed[(cluster.replicas node).inputs.length]? with
    | none => none
    | some entry =>
      match (cluster.replicas node).apply (entry, reading) with
      | none => none
      | some next => some (cluster.setReplica node next)
  | .acknowledge node position =>
    if position < (cluster.replicas node).inputs.length ∧
        (cluster.leader = some node ∨ position < cluster.inherited) then
      some { cluster with acknowledged := insert position cluster.acknowledged }
    else
      none
  | .elect node => some (cluster.lead (some node))
  | .restart node =>
    let cluster := if cluster.leader = some node then cluster.lead none else cluster
    some ((cluster.setReplica node .new).dropReads node)
  | .getSessionStateEnsureLinearizable node tenantId clientId =>
    let read : LinearizableRead :=
      { node := node
        tenantId := tenantId
        clientId := clientId
        phase := .ensuring
        acknowledged := cluster.acknowledged }
    some { cluster.setRead cluster.nextRead read with nextRead := cluster.nextRead + 1 }
  | .ensured id => (cluster.reads id).bind fun read => cluster.ensured id read
  | .notLeader id leader => (cluster.reads id).bind fun read => cluster.notLeader id read leader
  | .readLocally id => (cluster.reads id).bind fun read => cluster.readLocally id read
  | .getSessionState id =>
    (cluster.reads id).bind fun read => cluster.getSessionState codec id read
  | .receive id => (cluster.reads id).bind fun read => cluster.receive codec id read
  | .fail id reason => (cluster.reads id).bind fun read => cluster.fail id read reason

/-- A forwarded read is served by the leader, which has applied what was committed before it
was elected, and the node that has asked can decode the answer. -/
def Current : Input → Prop
  | .getSessionState id => ∀ read leader, cluster.reads id = some read →
      read.phase = .asking leader → cluster.leader = some leader ∧
          cluster.inherited ≤ (cluster.replicas leader).inputs.length ∧
          codec.decode read.node (codec.encode leader (read.lookup (cluster.replicas leader))) =
            .ok (read.lookup (cluster.replicas leader))
  | _ => True

/-- Every read that has been answered reflects the writes that had been acknowledged when
it began, and finds a session that exists. -/
def AnswersReflect : Prop :=
  ∀ id read result, cluster.reads id = some read → read.phase = .answered (.ok result) →
    read.Reflects cluster.committed result ∧
      ((∀ replica : Replica, replica.inputs.map Prod.fst <+: cluster.committed →
        read.CoveredBy replica → read.lookup replica ≠ none) → result ≠ none)

/-! ## The invariant -/

def ReadSound (read : LinearizableRead) : Prop :=
  match read.phase with
  | .ensuring => True
  | .reading => read.CoveredBy (cluster.replicas read.node)
  | .asking _ => True
  | .receiving payload => ∃ text result, payload = some text ∧
      codec.decode read.node text = .ok result ∧ read.Reflects cluster.committed result
  | .answered (.ok result) => read.Reflects cluster.committed result
  | .answered (.error _) => True

/-- A write has been acknowledged under an earlier leader, or the leader has applied it. -/
def Known (position : Nat) : Prop :=
  position < cluster.inherited ∨
    ∃ leader, cluster.leader = some leader ∧ position < (cluster.replicas leader).inputs.length

structure Sound (codec : Codec) (cluster : Cluster) : Prop where
  applied : ∀ node, (cluster.replicas node).inputs.map Prod.fst <+: cluster.committed
  acknowledged : ∀ position ∈ cluster.acknowledged,
    position < cluster.committed.length ∧ cluster.Known position
  reads : ∀ id read, cluster.reads id = some read →
    read.acknowledged ⊆ cluster.acknowledged ∧ cluster.ReadSound codec read

variable {codec : Codec} {cluster next : Cluster}

variable {read : LinearizableRead}

theorem reflects_mono {result : Option SessionState}
    {earlier later : List (Entry SessionStateRequest)} (more : earlier <+: later)
    (reflects : read.Reflects earlier result) : read.Reflects later result := by
  rcases reflects with ⟨replica, isPrefix, covered, found⟩
  exact ⟨replica, isPrefix.trans more, covered, found⟩

/-- A read keeps what it has found out while the log and its own replica grow. -/
theorem ReadSound.mono (sound : cluster.ReadSound codec read)
    (more : cluster.committed <+: next.committed)
    (grown : read.phase = .reading → read.CoveredBy (cluster.replicas read.node) →
      read.CoveredBy (next.replicas read.node)) : next.ReadSound codec read := by
  rw [ReadSound] at sound ⊢
  split
  · trivial
  · rename_i phase
    rw [phase] at sound
    exact grown phase sound
  · trivial
  · rename_i phase
    rw [phase] at sound
    rcases sound with ⟨text, result, sent, decoded, reflects⟩
    exact ⟨text, result, sent, decoded, reflects_mono more reflects⟩
  · rename_i phase
    rw [phase] at sound
    exact reflects_mono more sound
  · trivial

theorem reads_setRead {id other : Nat} {current : LinearizableRead}
    (member : (cluster.setRead id read).reads other = some current) :
    current = read ∨ cluster.reads other = some current := by
  rw [Cluster.setRead] at member
  by_cases same : other = id
  · subst same
    left
    simpa using member.symm
  · right
    simpa [same] using member

theorem Sound.setRead (sound : cluster.Sound codec) {id : Nat}
    (begun : read.acknowledged ⊆ cluster.acknowledged)
    (found : cluster.ReadSound codec read) : (cluster.setRead id read).Sound codec where
  applied := sound.applied
  acknowledged := sound.acknowledged
  reads := by
    intro other current member
    rcases reads_setRead member with same | before
    · rw [same]
      exact ⟨begun, found⟩
    · exact sound.reads other current before

theorem Sound.setPhase (sound : cluster.Sound codec) {id : Nat} {phase : ReadPhase}
    (member : cluster.reads id = some read)
    (found : cluster.ReadSound codec { read with phase := phase }) :
    (cluster.setPhase id read phase).Sound codec :=
  sound.setRead (sound.reads id read member).1 found

variable {node : NodeId}

theorem Sound.reflects (sound : cluster.Sound codec)
    (covered : read.CoveredBy (cluster.replicas node)) :
    read.Reflects cluster.committed (read.lookup (cluster.replicas node)) :=
  ⟨cluster.replicas node, sound.applied node, covered, rfl⟩

variable {entry : Entry SessionStateRequest}

theorem concat_prefix {entries log : List (Entry SessionStateRequest)} (isPrefix : entries <+: log)
    (found : log[entries.length]? = some entry) : entries ++ [entry] <+: log := by
  rcases isPrefix with ⟨rest, split⟩
  subst split
  rw [List.getElem?_append_right (le_refl _), Nat.sub_self] at found
  cases rest with
  | nil => cases found
  | cons head rest =>
    cases found
    exact ⟨rest, by simp⟩

theorem replicas_setReplica_self (node : NodeId) (replica : Replica) (cluster : Cluster) :
    (cluster.setReplica node replica).replicas node = replica := by
  simp [setReplica]

theorem replicas_setReplica {other : NodeId} (different : other ≠ node) (replica : Replica)
    (cluster : Cluster) :
    (cluster.setReplica node replica).replicas other = cluster.replicas other :=
  Function.update_of_ne different _ _

variable {replica : Replica}

section

variable (sound : cluster.Sound codec)

include sound

theorem applied_setReplica
    (applied : replica.inputs.map Prod.fst <+: cluster.committed) (other : NodeId) :
    ((cluster.setReplica node replica).replicas other).inputs.map Prod.fst <+:
      cluster.committed := by
  by_cases same : other = node
  · rw [same, replicas_setReplica_self]
    exact applied
  · rw [replicas_setReplica same]
    exact sound.applied other

theorem Sound.apply {reading : Reading}
    (found : cluster.committed[(cluster.replicas node).inputs.length]? = some entry)
    (applied : (cluster.replicas node).apply (entry, reading) = some replica) :
    (cluster.setReplica node replica).Sound codec := by
  have grown : ∀ other position, position < (cluster.replicas other).inputs.length →
      position < ((cluster.setReplica node replica).replicas other).inputs.length := by
    intro other position below
    by_cases own : other = node
    · rw [own] at below
      rw [own, replicas_setReplica_self, Replica.inputs_apply applied, List.length_append]
      omega
    · rw [replicas_setReplica own]
      exact below
  refine { sound with applied := ?_, acknowledged := ?_, reads := ?_ }
  · apply applied_setReplica sound
    rw [Replica.inputs_apply applied, List.map_append]
    apply concat_prefix (sound.applied node)
    rw [List.length_map]
    exact found
  · intro position member
    rcases sound.acknowledged position member with ⟨below, early | ⟨leader, leads, own⟩⟩
    · exact ⟨below, .inl early⟩
    · exact ⟨below, .inr ⟨leader, leads, grown leader position own⟩⟩
  · intro id read member
    have same : cluster.committed <+: (cluster.setReplica node replica).committed :=
      List.prefix_rfl
    rcases sound.reads id read member with ⟨begun, found⟩
    refine ⟨begun, found.mono same ?_⟩
    intro _ covered position acknowledged
    exact grown read.node position (covered position acknowledged)

theorem Sound.lead (leader : Option NodeId) : (cluster.lead leader).Sound codec :=
  { sound with
    acknowledged := fun position member =>
      ⟨(sound.acknowledged position member).1, .inl (sound.acknowledged position member).1⟩ }

theorem Sound.restart (follows : cluster.leader ≠ some node) :
    ((cluster.setReplica node .new).dropReads node).Sound codec where
  applied := applied_setReplica sound List.nil_prefix
  acknowledged := by
    intro position member
    rcases sound.acknowledged position member with ⟨below, early | ⟨leader, leads, own⟩⟩
    · exact ⟨below, .inl early⟩
    · refine ⟨below, .inr ⟨leader, leads, ?_⟩⟩
      have elsewhere : leader ≠ node := by
        intro same
        exact follows (same ▸ leads)
      rw [← replicas_setReplica elsewhere .new cluster] at own
      exact own
  reads := by
    intro id read member
    have same : cluster.committed <+:
        ((cluster.setReplica node .new).dropReads node).committed := List.prefix_rfl
    rcases Option.filter_eq_some_iff.mp member with ⟨before, survives⟩
    rcases sound.reads id read before with ⟨begun, found⟩
    refine ⟨begun, found.mono same ?_⟩
    intro phase covered
    have elsewhere : read.node ≠ node := by
      rw [LinearizableRead.survives, phase] at survives
      exact bne_iff_ne.mp survives
    have kept := replicas_setReplica elsewhere .new cluster
    rw [← kept] at covered
    exact covered

/-- A leader that has applied what it has inherited has applied every write that has been
acknowledged. -/
theorem Sound.covered {id : Nat} (member : cluster.reads id = some read)
    (leads : cluster.leader = some node)
    (inherits : cluster.inherited ≤ (cluster.replicas node).inputs.length) :
    read.CoveredBy (cluster.replicas node) := by
  intro position acknowledged
  rcases (sound.acknowledged position ((sound.reads id read member).1 acknowledged)).2 with
    early | ⟨leader, same, below⟩
  · omega
  · rw [leads] at same
    cases same
    exact below

/-- What each step of one read finds out. -/
theorem Sound.getSessionState {id : Nat}
    (member : cluster.reads id = some read) (current : cluster.Current codec (.getSessionState id))
    (served : cluster.getSessionState codec id read = some next) : next.Sound codec := by
  rw [Cluster.getSessionState] at served
  split at served
  · rename_i leader phase
    rcases current read leader member phase with ⟨leads, inherits, decoded⟩
    have reflects := sound.reflects (sound.covered member leads inherits)
    cases served
    apply sound.setPhase member
    exact ⟨_, _, rfl, decoded, reflects⟩
  · cases served

theorem Sound.receive {id : Nat}
    (member : cluster.reads id = some read) (received : cluster.receive codec id read = some next) :
    next.Sound codec := by
  have found := (sound.reads id read member).2
  rw [ReadSound] at found
  rw [Cluster.receive] at received
  split at received
  · rename_i phase
    rw [phase] at found
    rcases found with ⟨_, _, absent, _⟩
    cases absent
  · rename_i payload phase
    rw [phase] at found
    rcases found with ⟨_, _, sent, decoded, reflects⟩
    cases sent
    rw [decoded] at received
    cases received
    apply sound.setPhase member
    exact reflects
  · cases received

theorem Sound.step {input : Input}
    (current : cluster.Current codec input) (stepped : cluster.step codec input = some next) :
    next.Sound codec := by
  cases input with
  | commit entry =>
    cases stepped
    have more := List.prefix_append cluster.committed [entry]
    refine { sound with applied := ?_, acknowledged := ?_, reads := ?_ }
    · exact fun node => (sound.applied node).trans more
    · intro position member
      rcases sound.acknowledged position member with ⟨below, known⟩
      exact ⟨below.trans_le more.length_le, known⟩
    · intro id read member
      exact (sound.reads id read member).imp_right fun found =>
        found.mono more fun _ covered => covered
  | apply =>
    rw [Cluster.step] at stepped
    split at stepped
    · cases stepped
    · rename_i entry found
      split at stepped
      · cases stepped
      · rename_i replica applied
        cases stepped
        exact sound.apply found applied
  | acknowledge node position =>
    rw [Cluster.step] at stepped
    split at stepped
    · rename_i applied
      cases stepped
      refine { sound with acknowledged := ?_, reads := ?_ }
      · intro other member
        rcases Finset.mem_insert.mp member with same | before
        · rw [same]
          constructor
          · have committed := (sound.applied node).length_le
            rw [List.length_map] at committed
            exact applied.1.trans_le committed
          · exact applied.2.symm.imp_right fun leads => ⟨node, leads, applied.1⟩
        · exact sound.acknowledged other before
      · intro id read member
        exact (sound.reads id read member).imp_left fun begun =>
          begun.trans (Finset.subset_insert _ _)
    · cases stepped
  | elect node =>
    cases stepped
    exact sound.lead (some node)
  | restart node =>
    cases stepped
    split
    · exact (sound.lead none).restart (by simp [Cluster.lead])
    · rename_i follows
      exact sound.restart follows
  | getSessionStateEnsureLinearizable node tenantId clientId =>
    cases stepped
    have begun : (cluster.setRead cluster.nextRead
        ⟨node, tenantId, clientId, .ensuring, cluster.acknowledged⟩).Sound codec :=
      sound.setRead (Finset.Subset.refl _) trivial
    exact { begun with }
  | ensured =>
    rcases Option.bind_eq_some_iff.mp stepped with ⟨read, member, ensured⟩
    rw [Cluster.ensured] at ensured
    split at ensured
    · split at ensured
      · rename_i covered
        cases ensured
        apply sound.setPhase member
        exact covered
      · cases ensured
    · cases ensured
  | notLeader id leader =>
    rcases Option.bind_eq_some_iff.mp stepped with ⟨read, member, refused⟩
    cases leader <;> simp only [Cluster.notLeader] at refused <;> split at refused
    · cases refused
      exact sound.setPhase member trivial
    · cases refused
    · cases refused
      exact sound.setPhase member trivial
    · cases refused
  | readLocally id =>
    rcases Option.bind_eq_some_iff.mp stepped with ⟨read, member, found⟩
    have covered := (sound.reads id read member).2
    rw [ReadSound] at covered
    rw [Cluster.readLocally] at found
    split at found
    · rename_i phase
      rw [phase] at covered
      cases found
      apply sound.setPhase member
      exact sound.reflects covered
    · cases found
  | getSessionState =>
    rcases Option.bind_eq_some_iff.mp stepped with ⟨read, member, served⟩
    exact sound.getSessionState member current served
  | receive =>
    rcases Option.bind_eq_some_iff.mp stepped with ⟨read, member, received⟩
    exact sound.receive member received
  | fail =>
    rcases Option.bind_eq_some_iff.mp stepped with ⟨read, member, failed⟩
    rw [Cluster.fail] at failed
    split at failed
    · cases failed
      exact sound.setPhase member trivial
    · cases failed
      exact sound.setPhase member trivial
    · cases failed

end

theorem sound_initial : initial.Sound codec where
  applied := fun _ => List.prefix_rfl
  acknowledged := fun _ member => absurd member (Finset.notMem_empty _)
  reads := fun _ _ member => nomatch member

theorem Sound.answersReflect (sound : cluster.Sound codec) : cluster.AnswersReflect := by
  intro id read result member phase
  have reflects := (sound.reads id read member).2
  rw [ReadSound, phase] at reflects
  refine ⟨reflects, ?_⟩
  intro everywhere
  rcases reflects with ⟨replica, isPrefix, covered, found⟩
  rw [← found]
  exact everywhere replica isPrefix covered

/-- In every run in which forwarded reads are served by a leader that has caught up, every
answer reflects the writes that were acknowledged before. -/
theorem reads_reflect_acknowledged (codec : Codec) (inputs : List Input)
    (each : EachStep (Cluster.step codec) (Current codec) initial inputs) :
    Throughout (Cluster.step codec) AnswersReflect initial inputs := by
  have start : initial.Sound codec := sound_initial
  apply (throughout_of_eachStep _ start each).mono fun _ => Sound.answersReflect
  intro cluster input next sound current stepped
  exact sound.step current stepped

/-! ### A forwarded read -/

/-- A format that every node can read. -/
noncomputable def inCommon : Codec :=
  let _ := Encodable.ofCountable (Option SessionState)
  { encode := fun _ state => String.ofList (List.replicate (Encodable.encode state) '.')
    decode := fun _ text =>
      match Encodable.decode text.length with
      | some state => .ok state
      | none => .error "unknown" }

theorem decode_inCommon (one other : NodeId) (state : Option SessionState) :
    inCommon.decode one (inCommon.encode other state) = .ok state := by
  simp [inCommon]

def creation : Entry SessionStateRequest where
  logId := ⟨⟨1, 2⟩, 0⟩
  payload := .normal (.createSessionState "tenant" "client" 30 none none)

def atOnce : Reading where
  now := 0
  payload := fun _ => none

/-- Node 2 is elected after node 3 and acknowledges the creation of a session. A read at node 1
is forwarded. -/
def asked (leader : NodeId) : List Input :=
  [.elect 3, .elect 2, .commit creation, .apply 2 atOnce, .acknowledge 2 0,
    .getSessionStateEnsureLinearizable 1 "tenant" "client", .notLeader 0 (some leader),
    .getSessionState 0]

def forwarded (leader : NodeId) : List Input :=
  asked leader ++ [.receive 0]

/-- The read gets what the node that it is forwarded to has. -/
theorem run_forwarded (leader : NodeId) :
    ∃ cluster read, run (Cluster.step inCommon) initial (forwarded leader) = some cluster ∧
      cluster.reads 0 = some read ∧
      read.phase = .answered (.ok (read.lookup (cluster.replicas leader))) ∧
      read.acknowledged = {0} ∧ cluster.committed = [creation] ∧
      read.lookup (cluster.replicas 2) = some (.newWithOptions 30 none none) ∧
      cluster.replicas 3 = .new ∧ read.tenantId = "tenant" ∧ read.clientId = "client" := by
  have served : ∃ cluster read, run (Cluster.step inCommon) initial (asked leader) = some cluster ∧
      cluster.reads 0 = some read ∧
      read.phase = .receiving
        (some (inCommon.encode leader (read.lookup (cluster.replicas leader)))) ∧
      read.acknowledged = {0} ∧ cluster.committed = [creation] ∧
      read.lookup (cluster.replicas 2) = some (.newWithOptions 30 none none) ∧
      cluster.replicas 3 = .new ∧ read.tenantId = "tenant" ∧ read.clientId = "client" :=
    ⟨_, _, rfl, rfl, rfl, rfl, rfl, rfl, rfl, rfl, rfl⟩
  rcases served with ⟨cluster, read, runs, member, phase, rest⟩
  refine ⟨cluster.setPhase 0 read (.answered (.ok (read.lookup (cluster.replicas leader)))),
    { read with phase := .answered (.ok (read.lookup (cluster.replicas leader))) }, ?_,
    by simp [setPhase, setRead], rfl, rest⟩
  rw [forwarded, run_concat, runs, Option.bind_some, Cluster.step, member, Option.bind_some,
    receive, phase]
  dsimp only
  rw [decode_inCommon]

theorem eachStep_forwarded : EachStep (Cluster.step inCommon) (Current inCommon) initial
    (forwarded 2) := by
  refine EachStep.cons trivial fun _ elected => ?_
  cases elected
  refine EachStep.cons trivial fun _ elected => ?_
  cases elected
  refine EachStep.cons trivial fun _ committed => ?_
  cases committed
  refine EachStep.cons trivial fun _ applied => ?_
  cases applied
  refine EachStep.cons trivial fun _ acknowledged => ?_
  cases acknowledged
  refine EachStep.cons trivial fun _ begun => ?_
  cases begun
  refine EachStep.cons trivial fun _ refused => ?_
  cases refused
  refine EachStep.cons ?_ fun _ _ => EachStep.cons trivial fun last _ => eachStep_nil last
  intro read leader member asking
  cases member
  cases asking
  exact ⟨rfl, Nat.zero_le _, decode_inCommon _ _ _⟩

/-- The read is forwarded to the leader and finds the session. -/
theorem reads_reflect_acknowledged_forwarded :
    EachStep (Cluster.step inCommon) (Current inCommon) initial (forwarded 2) ∧
      Throughout (Cluster.step inCommon) AnswersReflect initial (forwarded 2) ∧
      ∃ cluster read, run (Cluster.step inCommon) initial (forwarded 2) = some cluster ∧
        cluster.reads 0 = some read ∧
        read.phase = .answered (.ok (some (.newWithOptions 30 none none))) := by
  refine ⟨eachStep_forwarded, reads_reflect_acknowledged inCommon _ eachStep_forwarded, ?_⟩
  rcases run_forwarded 2 with ⟨cluster, read, runs, member, phase, _, _, found, _⟩
  rw [found] at phase
  exact ⟨cluster, read, runs, member, phase⟩

/-- A read that is forwarded to a deposed leader finds no session, although its creation was
acknowledged before the read began. -/
theorem forwarded_read_misses_session :
    ∃ cluster read, run (Cluster.step inCommon) initial (forwarded 3) = some cluster ∧
      cluster.reads 0 = some read ∧ read.phase = .answered (.ok none) ∧
      read.acknowledged = {0} ∧ cluster.committed = [creation] ∧
      (read.lookup (cluster.replicas 2)).isSome ∧ ¬ read.Reflects cluster.committed none := by
  rcases run_forwarded 3 with ⟨cluster, read, runs, member, phase, acknowledged, committed, found,
    behind, tenant, client⟩
  rw [behind] at phase
  refine ⟨cluster, read, runs, member, phase, acknowledged, committed, by rw [found]; rfl, ?_⟩
  rintro ⟨⟨inputs, data, reached⟩, isPrefix, covered, absent⟩
  rw [committed] at isPrefix
  -- A state that covers the write comes from the creation alone, whatever was read.
  match inputs with
  | [] =>
    have first : 0 ∈ read.acknowledged := by
      rw [acknowledged]
      exact Finset.mem_singleton_self 0
    exact Nat.lt_irrefl 0 (covered 0 first)
  | (entry, reading) :: rest =>
    rcases List.cons_prefix_cons.mp isPrefix with ⟨same, empty⟩
    have alone := List.map_eq_nil_iff.mp (List.prefix_nil.mp empty)
    have first : entry = creation := same
    subst first alone
    cases reached
    rw [LinearizableRead.lookup, tenant, client] at absent
    cases absent

end Cluster

end YedMQ.Raft.SessionState
