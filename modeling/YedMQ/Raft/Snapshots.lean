import YedMQ.Raft.SessionActorMap.Replay
import YedMQ.Raft.SessionState.ReferenceCounts
import YedMQ.Raft.SessionState.Replay
import YedMQ.Raft.Topic.Replay

/-! # Snapshots that are built while the log is applied

For each of the three machines, restoring a snapshot and applying the entries after its
last log identifier is compared with applying the whole log. The entries carry what the
replica reads while it applies them, so that both sides read the same clock.
-/

namespace YedMQ.Raft

open Foundation Semantics Raft.SessionState

/-- A restored snapshot leads to the state of the whole log. The session-actor map needs
no condition. The session states need that the entries applied between
`get_snapshot_builder` and the end of the reading are repeatable, and the topic storage
that no entry creates a tenant during the reading. -/
theorem restart_eq_log (replica : SessionActorMap.Replica)
    (build : SnapshotBuild (SessionActorMap.step replica) SessionActorMap.initial)
    (stateBuild : SnapshotBuild SessionState.step SessionState.initial)
    (states : SessionStateStorage) (topicBuild : SnapshotBuild Topic.step Topic.initial)
    (topics : Topic.TopicStorage) :
    build.restart build.start.state = some build.final ∧
    (SessionState.ReadDuring stateBuild.start stateBuild.during states →
      (∀ input ∈ stateBuild.window ++ stateBuild.during,
        isRepeatable input.1 = true) →
          stateBuild.restart states = some stateBuild.final) ∧
    (Topic.SnapshotRead topicBuild.start topicBuild.during topics →
      Topic.NoNewTenant topicBuild.start topicBuild.during →
        ∃ other, topicBuild.restart topics = some other ∧
          other.position = topicBuild.final.position ∧
          Topic.Same other.state topicBuild.final.state) := by
  refine ⟨?_, ?_, ?_⟩
  · have remaining : entriesAfter build.builder.getSnapshotBuilder.lastLogId build.log =
      build.window ++ build.during ++ build.later := SnapshotBuild.entriesAfter_log build
    rw [SnapshotBuild.restart, remaining]
    refine SessionActorMap.replay ?_ build.reads build.logged
    rw [List.append_assoc]
    exact List.prefix_append _ _
  · intro read repeatable
    have remaining : entriesAfter stateBuild.builder.getSnapshotBuilder.lastLogId
        stateBuild.log = stateBuild.window ++ stateBuild.during ++ stateBuild.later :=
      SnapshotBuild.entriesAfter_log stateBuild
    rw [SnapshotBuild.restart, remaining]
    exact replay repeatable stateBuild.reads read (List.prefix_append _ _)
      stateBuild.logged
  · intro read noNewTenant
    have remaining : entriesAfter topicBuild.builder.getSnapshotBuilder.lastLogId
        topicBuild.log = topicBuild.window ++ topicBuild.during ++ topicBuild.later :=
      SnapshotBuild.entriesAfter_log topicBuild
    rw [SnapshotBuild.restart, remaining]
    have consistent := Topic.consistent_run Topic.consistent_initial topicBuild.made
    have wellFiled := Topic.wellFiled_run Topic.consistent_initial
      Topic.TopicStorage.WellFiled.new topicBuild.made
    exact Topic.replay consistent wellFiled topicBuild.reads read noNewTenant
      (List.prefix_append _ _) topicBuild.logged

namespace SessionState

theorem readDuring_nil (start : StateMachineData SessionStateStorage) :
    ReadDuring start [] start.state where
  sharesLock := by
    intro visited input isPrefix
    have empty := List.prefix_nil.mp isPrefix
    simp at empty
  refCounts := rfl
  tenant := fun _ => rfl
  session := fun _ _ => ⟨[], start, List.prefix_rfl, rfl, rfl⟩

def created : List (Entry SessionStateRequest × Reading) :=
  [committed 1 (.createSessionState "public" "client" 10 none none)]

def subscribedMeanwhile : SnapshotBuild step initial where
  earlier := created
  window := [committed 2 (.subscribeTopic "public" "client" "a/b" 1 false false)]
  during := []
  later := [committed 3 (.appendToPendingQueue "public" "client" "key")]
  builder := (run step initial created).getD initial
  start := (run step initial (created ++
    [committed 2 (.subscribeTopic "public" "client" "a/b" 1 false false)])).getD initial
  final := (run step initial (created ++
    [committed 2 (.subscribeTopic "public" "client" "a/b" 1 false false),
      committed 3 (.appendToPendingQueue "public" "client" "key")])).getD initial
  made := by decide
  reads := by decide
  logged := by decide
  ordered := by decide

def queuedMeanwhile : SnapshotBuild step initial where
  earlier := created
  window := [committed 2 (.appendToPendingQueue "public" "client" "key")]
  during := []
  later := []
  builder := (run step initial created).getD initial
  start := (run step initial (created ++
    [committed 2 (.appendToPendingQueue "public" "client" "key")])).getD initial
  final := (run step initial (created ++
    [committed 2 (.appendToPendingQueue "public" "client" "key")])).getD initial
  made := by decide
  reads := by decide
  logged := by decide
  ordered := by decide

end SessionState

namespace SessionActorMap

def registeredMeanwhile : SnapshotBuild (step ⟨1, 60⟩) initial where
  earlier := []
  window := [({ logId := { leaderId := { term := 1, nodeId := 1 }, index := 1 }
                payload := .normal (.registerSession "public" "client" 1) }, fun _ => 100)]
  during := []
  later := []
  builder := initial
  start := (run (step ⟨1, 60⟩) initial
    [({ logId := { leaderId := { term := 1, nodeId := 1 }, index := 1 }
        payload := .normal (.registerSession "public" "client" 1) },
      fun _ => 100)]).getD initial
  final := (run (step ⟨1, 60⟩) initial
    [({ logId := { leaderId := { term := 1, nodeId := 1 }, index := 1 }
        payload := .normal (.registerSession "public" "client" 1) },
      fun _ => 100)]).getD initial
  made := rfl
  reads := by decide
  logged := by decide
  ordered := by decide

end SessionActorMap

namespace Topic

open YedMQ.Topic

def bothSubscribed : List (Entry TopicRequest × Unit) :=
  publicOnly ++ [written 2 (.subscribeTopic "public" "d" "a" 1 false false)]

def unsubscribed : List (Entry TopicRequest × Unit) :=
  [written 3 (.unsubscribeTopic "public" "c" "a")]

def unsubscribedMeanwhile : SnapshotBuild step initial where
  earlier := publicOnly
  window := [written 2 (.subscribeTopic "public" "d" "a" 1 false false)]
  during := unsubscribed
  later := [written 4 (.createTenant "tenant")]
  builder := (run step initial publicOnly).getD initial
  start := (run step initial bothSubscribed).getD initial
  final := (run step initial
    (bothSubscribed ++ unsubscribed ++ [written 4 (.createTenant "tenant")])).getD initial
  made := rfl
  reads := rfl
  logged := rfl
  ordered := by decide

def readAfter : StateMachineData TopicStorage :=
  (run step initial (bothSubscribed ++ unsubscribed)).getD initial

/-- The recorders are read before the entry in between is applied, and the trees after that. -/
def readMeanwhile : TopicStorage :=
  { unsubscribedMeanwhile.start.state with topicTree := readAfter.state.topicTree }

def snapshotReadMeanwhile :
    SnapshotRead unsubscribedMeanwhile.start unsubscribed readMeanwhile :=
  let before : Moment unsubscribedMeanwhile.start unsubscribed := ⟨[], _, List.nil_prefix, rfl⟩
  let after : Moment unsubscribedMeanwhile.start unsubscribed :=
    ⟨unsubscribed, readAfter, List.prefix_rfl, rfl⟩
  { retainRead := before
    infoRead := before
    treeRead := after
    nodeRead := fun _ _ => after
    infoAfterRetain := List.prefix_rfl
    treeAfterInfo := List.nil_prefix
    nodeAfterTree := fun _ _ => List.prefix_rfl
    retain := rfl
    info := rfl
    tenant := fun _ => rfl
    node := fun _ _ => rfl
    content := by
      intro tenantId path
      have wellFiled : readAfter.state.WellFiled :=
        wellFiled_run consistent_initial TopicStorage.WellFiled.new
          (rfl : run step initial (bothSubscribed ++ unsubscribed) = some readAfter)
      exact .refl fun key subscription found => (wellFiled tenantId path key subscription found).2 }

end Topic

theorem restart_eq_log_meanwhile :
    SessionActorMap.registeredMeanwhile.restart
        SessionActorMap.registeredMeanwhile.start.state =
      some SessionActorMap.registeredMeanwhile.final ∧
    subscribedMeanwhile.restart
        subscribedMeanwhile.start.state =
      some subscribedMeanwhile.final ∧
    ∃ other, Topic.unsubscribedMeanwhile.restart Topic.readMeanwhile = some other ∧
      other.position = Topic.unsubscribedMeanwhile.final.position ∧
      Topic.Same other.state Topic.unsubscribedMeanwhile.final.state := by
  have restarts := restart_eq_log ⟨1, 60⟩ SessionActorMap.registeredMeanwhile
    subscribedMeanwhile subscribedMeanwhile.start.state
    Topic.unsubscribedMeanwhile Topic.readMeanwhile
  refine ⟨restarts.1, restarts.2.1 (readDuring_nil _) (by decide),
    restarts.2.2 Topic.snapshotReadMeanwhile ?_⟩
  simp [Topic.NoNewTenant, Topic.unsubscribedMeanwhile, Topic.unsubscribed, Topic.written,
    Topic.createdTenant, Topic.TopicRequest.createdTenant]

/-- The restored session has the queued message twice, the log has it once. -/
theorem queuedMeanwhile_differs :
    SessionState.ReadDuring queuedMeanwhile.start
        queuedMeanwhile.during queuedMeanwhile.start.state ∧
      (∃ restarted, queuedMeanwhile.restart
          queuedMeanwhile.start.state = some restarted ∧
        (restarted.state.getSessionState "public" "client").map
          SessionState.pendingMessages = some ["key", "key"]) ∧
      (SessionState.queuedMeanwhile.final.state.getSessionState "public" "client").map
        SessionState.pendingMessages = some ["key"] :=
  ⟨SessionState.readDuring_nil _, ⟨_, rfl, by decide⟩, by decide⟩

end YedMQ.Raft
