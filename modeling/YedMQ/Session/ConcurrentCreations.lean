import YedMQ.Session.SessionManager

/-! # Concurrent creations of one session

What the registry of a node holds for a client once all creations have returned: the
session of the owner of the actor map, if its creation succeeded, and never one whose
creation failed. A handler saves the entry that it replaces and may put it back later, so
this holds in the runs in which no handler inserts its session over a later instance.
-/

namespace YedMQ.SessionManager

open Foundation Raft Semantics YedMQ Manager

namespace Progress

def instance? : Progress → Option SessionInstanceId
  | registering => none
  | deleting instanceId | recovering instanceId _ | deletingExpired instanceId _
  | creating instanceId | checking instanceId _ _ | rechecking instanceId _ _ _ => some instanceId
  | returned instanceId _ => instanceId

def Holds (instanceId : SessionInstanceId) : Progress → Prop
  | rechecking own _ _ _ | returned (some own) (.ok _) => own = instanceId
  | _ => False

/-- A saved entry is of an earlier instance, an owner that was read of no earlier one. -/
def Ordered : Progress → Prop
  | rechecking instanceId _ replacedSession read =>
    (∀ previous, replacedSession = some previous →
      previous.sessionInstanceId.logIndex < instanceId.logIndex) ∧
    ∀ current, read = some (some current) → instanceId.logIndex ≤ current.logIndex
  | _ => True

theorem ordered_of_idle {progress : Progress} (idle : ∀ instanceId, ¬ progress.Holds instanceId) :
    progress.Ordered := by
  cases progress with
  | rechecking instanceId => exact absurd rfl (idle instanceId)
  | _ => trivial

theorem Holds.instance? {progress : Progress} {instanceId : SessionInstanceId}
    (holds : progress.Holds instanceId) : progress.instance? = some instanceId := by
  cases progress with
  | rechecking => exact congrArg some holds
  | returned own result =>
    cases own with
    | none => cases holds
    | some =>
      cases result with
      | ok => exact congrArg some holds
      | error => cases holds
  | _ => cases holds

end Progress

def Manager.Finished (manager : Manager) : Prop :=
  ∀ number progress, manager.progressAt number = some progress →
    ∃ instanceId result, progress = .returned instanceId result

/-- Once every creation has returned, the registry holds the owner's session if its
creation succeeded, and no session whose creation failed. -/
def Settled (context : Context) (manager : Manager) : Prop :=
  manager.Finished → (∀ number instanceId sessionPresent,
      manager.progressAt number = some (.returned (some instanceId) (.ok sessionPresent)) →
      manager.owner context = some instanceId → ∃ wrapper, manager.entry context = some wrapper ∧
          wrapper.sessionInstanceId = instanceId) ∧
    ∀ number instanceId error,
      manager.progressAt number = some (.returned (some instanceId) (.error error)) →
        ∀ wrapper, manager.entry context = some wrapper → wrapper.sessionInstanceId ≠ instanceId

def Manager.inserting (number : Nat) (manager : Manager) : Option SessionInstanceId :=
  match manager.progressAt number with
  | some (.checking instanceId _ (some current)) =>
    if current = some instanceId then some instanceId else none
  | _ => none

/-- No handler inserts its session over one of a later instance, and a session is removed
only when its instance no longer owns the client. -/
def InOrder (context : Context) (manager : Manager) : Input → Prop
  | .answer number _ false =>
    ∀ instanceId ∈ manager.inserting number, ∀ wrapper ∈ manager.entry context,
      wrapper.sessionInstanceId.logIndex < instanceId.logIndex
  | .stop (.removeExpiredSession _ _ instanceId) | .removeSession instanceId =>
    manager.owner context ≠ some instanceId
  | _ => True

instance (context : Context) (manager : Manager) (input : Input) :
    Decidable (InOrder context manager input) := by
  unfold InOrder
  split <;> infer_instance

variable {context : Context} {manager next : Manager} {number : Nat}

/-! ## Reading a changed manager -/

/-- A handler goes on, and the others stay where they are. -/
structure Proceeds (number : Nat) (after : Progress) (manager next : Manager) : Prop where
  here : next.progressAt number = some after
  others : ∀ other, other ≠ number → next.progressAt other = manager.progressAt other
  actorMap : next.actorMap = manager.actorMap

variable {before after : Progress}

theorem Proceeds.cases (goes : Proceeds number after manager next) {other : Nat}
    {progress : Progress} (found : next.progressAt other = some progress) :
    (other = number ∧ progress = after) ∨
      (other ≠ number ∧ manager.progressAt other = some progress) := by
  by_cases isIt : other = number
  · rw [isIt, goes.here] at found
    exact .inl ⟨isIt, (Option.some.inj found).symm⟩
  · rw [goes.others other isIt] at found
    exact .inr ⟨isIt, found⟩

theorem Proceeds.owner (goes : Proceeds number after manager next) :
    next.owner context = manager.owner context := by
  rw [Manager.owner, Manager.owner, goes.actorMap]

theorem proceeds_setProgress (found : manager.progressAt number = some before)
    (registry : SessionRegistry) (after : Progress) :
    Proceeds number after manager ((manager.setRegistry registry).setProgress number after) where
  here := by
    rcases Option.map_eq_some_iff.mp found with ⟨creation, there, _⟩
    simp [progressAt, setProgress, setRegistry, there]
  others := by
    intro other different
    simp [progressAt, setProgress, setRegistry, Ne.symm different]
  actorMap := rfl

variable (message : CreateSessionMessage)

theorem proceeds_create (manager : Manager) : Proceeds manager.creations.length .registering manager
      { manager with creations := manager.creations ++ [⟨message, .registering⟩] } where
  here := by simp [progressAt]
  others := by
    intro other different
    rcases Nat.lt_or_gt_of_ne different with older | none
    · simp [progressAt, List.getElem?_append_left older]
    · rw [progressAt, progressAt, List.getElem?_eq_none, List.getElem?_eq_none]
      · exact Nat.le_of_lt none
      · rw [List.length_append]
        exact none
  actorMap := rfl

variable {entry : Entry SessionActorMap.SessionActorMapRequest} {now : Nat}

theorem commit_eq_some (committed : manager.commit context entry now = some next) :
    (∀ last, manager.actorMap.lastAppliedLogId = some last → last.index < entry.logId.index) ∧
      next.actorMap.lastAppliedLogId = some entry.logId ∧
      next.registry = manager.registry ∧ next.creations = manager.creations ∧
      ∀ instanceId, next.owner context = some instanceId ↔
        SessionActorMap.Registers context.tenantId context.clientId instanceId
            (entry, fun _ => now) ∨
          (manager.owner context = some instanceId ∧
            ¬ SessionActorMap.Supersedes context.tenantId context.clientId instanceId
              (entry, fun _ => now)) := by
  rw [commit] at committed
  split at committed
  · rename_i inOrder
    rcases Option.map_eq_some_iff.mp committed with ⟨_, stepped, made⟩
    subst made
    refine ⟨?_, ?_, rfl, rfl, ?_⟩
    · intro last known
      simpa [known] using inOrder
    · exact (StateMachineData.step_eq_some stepped).1
    · intro instanceId
      simp only [owner, SessionActorMap.owner]
      rw [(SessionActorMap.effects_step stepped).1, SessionActorMap.owner_entryEffect]
  · cases committed

/-! ## The invariant -/

structure Instances (context : Context) (manager : Manager) : Prop where
  /-- Instances are indexes of applied entries. -/
  handedOut : ∀ number progress instanceId, manager.progressAt number = some progress →
    progress.instance? = some instanceId → ∃ last, manager.actorMap.lastAppliedLogId = some last ∧
        instanceId.logIndex ≤ last.index
  distinct : ∀ number other progress otherProgress instanceId,
    manager.progressAt number = some progress →
    manager.progressAt other = some otherProgress →
    progress.instance? = some instanceId → otherProgress.instance? = some instanceId →
      number = other
  /-- No handler has a later instance than the owner. -/
  newest : ∀ ownerId, manager.owner context = some ownerId →
    ∀ number progress instanceId, manager.progressAt number = some progress →
      progress.instance? = some instanceId → instanceId.logIndex ≤ ownerId.logIndex

/-- What holds between the handlers, the actor map and the registry. -/
structure Sound (context : Context) (manager : Manager) : Prop
    extends Instances context manager where
  ordered : ∀ number progress, manager.progressAt number = some progress → progress.Ordered
  held : ∀ wrapper, manager.entry context = some wrapper →
    ∃ number progress, manager.progressAt number = some progress ∧
      progress.Holds wrapper.sessionInstanceId
  present : ∀ number progress instanceId, manager.progressAt number = some progress →
    progress.Holds instanceId → manager.owner context = some instanceId →
      ∃ wrapper, manager.entry context = some wrapper ∧ wrapper.sessionInstanceId = instanceId

/-- The instances stay in order if the one of the handler that goes on is known to be new. -/
theorem Instances.proceeds (instances : Instances context manager)
    (goes : Proceeds number after manager next)
    (own : ∀ instanceId, after.instance? = some instanceId →
      (∃ last, manager.actorMap.lastAppliedLogId = some last ∧ instanceId.logIndex ≤ last.index) ∧
      (∀ other progress, other ≠ number → manager.progressAt other = some progress →
        progress.instance? ≠ some instanceId) ∧
      ∀ ownerId, manager.owner context = some ownerId → instanceId.logIndex ≤ ownerId.logIndex) :
    Instances context next := by
  constructor
  · intro other progress instanceId found known
    rw [goes.actorMap]
    rcases goes.cases found with ⟨_, rfl⟩ | ⟨_, kept⟩
    · exact (own instanceId known).1
    · exact instances.handedOut other progress instanceId kept known
  · intro first second progress otherProgress instanceId found there known otherKnown
    rcases goes.cases found with ⟨isIt, rfl⟩ | ⟨different, kept⟩
    · rcases goes.cases there with ⟨same, _⟩ | ⟨other, kept⟩
      · rw [isIt, same]
      · exact absurd otherKnown ((own instanceId known).2.1 second otherProgress other kept)
    · rcases goes.cases there with ⟨_, rfl⟩ | ⟨_, otherKept⟩
      · exact absurd known ((own instanceId otherKnown).2.1 first progress different kept)
      · exact instances.distinct first second progress otherProgress instanceId kept otherKept
          known otherKnown
  · intro ownerId owned other progress instanceId found known
    rw [goes.owner] at owned
    rcases goes.cases found with ⟨_, rfl⟩ | ⟨_, kept⟩
    · exact (own instanceId known).2.2 ownerId owned
    · exact instances.newest ownerId owned other progress instanceId kept known

/-- A handler that goes on with its instance changes nothing about the instances. -/
theorem Instances.keeps (instances : Instances context manager)
    (goes : Proceeds number after manager next)
    (found : manager.progressAt number = some before) (same : after.instance? = before.instance?) :
    Instances context next := by
  apply instances.proceeds goes
  intro instanceId known
  rw [same] at known
  refine ⟨instances.handedOut number before instanceId found known, ?_, ?_⟩
  · intro other progress different there otherKnown
    exact different (instances.distinct other number progress before instanceId there found
      otherKnown known)
  · intro ownerId owned
    exact instances.newest ownerId owned number before instanceId found known

theorem sound_new : Sound context new := by
  have nobody : ∀ number progress, new.progressAt number = some progress → False := by
    intro number progress found
    simp [progressAt, new] at found
  refine ⟨⟨?_, ?_, ?_⟩, ?_, ?_, ?_⟩
  · intro number progress _ found
    exact (nobody number progress found).elim
  · intro number other progress _ _ found
    exact (nobody number progress found).elim
  · intro ownerId owned
    cases owned
  · intro number progress found
    exact (nobody number progress found).elim
  · intro wrapper found
    cases found
  · intro number progress _ found
    exact (nobody number progress found).elim

variable (sound : Sound context manager)

include sound

/-- The invariant of finished handlers is what is wanted. -/
theorem Sound.settled : Settled context manager := by
  intro _
  constructor
  · intro number instanceId sessionPresent returned owned
    exact sound.present number _ instanceId returned rfl owned
  · intro number instanceId error returned wrapper found same
    rcases sound.held wrapper found with ⟨other, progress, otherFound, holds⟩
    rw [same] at holds
    have equal := sound.distinct number other _ progress instanceId returned otherFound rfl
      holds.instance?
    subst equal
    rw [returned] at otherFound
    cases otherFound
    exact holds

/-- A handler goes on. The registry's entry becomes one that the handler holds or stays one
that the handler did not hold, and an owner's entry is lost only to the handler. -/
theorem Sound.proceeds (goes : Proceeds number after manager next)
    (instances : Instances context next) (ordered : after.Ordered)
    (held : ∀ wrapper, next.entry context = some wrapper →
      after.Holds wrapper.sessionInstanceId ∨ (manager.entry context = some wrapper ∧
        ∀ progress, manager.progressAt number = some progress →
          ¬ progress.Holds wrapper.sessionInstanceId))
    (present : ∀ instanceId, after.Holds instanceId → manager.owner context = some instanceId →
      ∃ wrapper, next.entry context = some wrapper ∧ wrapper.sessionInstanceId = instanceId)
    (kept : ∀ wrapper, manager.entry context = some wrapper →
      manager.owner context = some wrapper.sessionInstanceId →
      (∀ progress, manager.progressAt number = some progress →
        ¬ progress.Holds wrapper.sessionInstanceId) → next.entry context = some wrapper) :
    Sound context next := by
  refine ⟨instances, ?_, ?_, ?_⟩
  · intro other progress found
    rcases goes.cases found with ⟨_, rfl⟩ | ⟨_, there⟩
    · exact ordered
    · exact sound.ordered other progress there
  · intro wrapper inRegistry
    rcases held wrapper inRegistry with holds | ⟨earlier, free⟩
    · exact ⟨number, after, goes.here, holds⟩
    · rcases sound.held wrapper earlier with ⟨other, progress, there, holder⟩
      refine ⟨other, progress, ?_, holder⟩
      rw [goes.others]
      · exact there
      · rintro rfl
        exact free progress there holder
  · intro other progress instanceId found holder owned
    rw [goes.owner] at owned
    rcases goes.cases found with ⟨_, rfl⟩ | ⟨different, there⟩
    · exact present instanceId holder owned
    · rcases sound.present other progress instanceId there holder owned with
        ⟨wrapper, inRegistry, rfl⟩
      refine ⟨wrapper, kept wrapper inRegistry owned ?_, rfl⟩
      intro own ownFound ownHolds
      exact different (sound.distinct other number progress own _ there ownFound holder.instance?
        ownHolds.instance?)

/-- A handler goes on without touching the registry or its instance. -/
theorem Sound.progress
    (found : manager.progressAt number = some before) (same : after.instance? = before.instance?)
    (holds : ∀ instanceId, after.Holds instanceId ↔ before.Holds instanceId)
    (ordered : after.Ordered) :
    Sound context (manager.setProgress number after) := by
  have goes := proceeds_setProgress found manager.registry after
  apply sound.proceeds goes (sound.keeps goes found same) ordered
  · intro wrapper inRegistry
    rw [or_iff_not_imp_left, holds]
    intro free
    refine ⟨inRegistry, ?_⟩
    intro progress there
    rw [found] at there
    cases there
    exact free
  · intro instanceId holder
    exact sound.present number before instanceId found ((holds instanceId).mp holder)
  · intro wrapper inRegistry _ _
    exact inRegistry

/-- A handler goes on before it has inserted a session. -/
theorem Sound.quiet
    (found : manager.progressAt number = some before) (same : after.instance? = before.instance?)
    (idle : ∀ instanceId, ¬ after.Holds instanceId)
    (wasIdle : ∀ instanceId, ¬ before.Holds instanceId) :
    Sound context (manager.setProgress number after) := by
  apply sound.progress found same _ (Progress.ordered_of_idle idle)
  intro instanceId
  exact iff_of_false (idle instanceId) (wasIdle instanceId)

/-- A handler arrives, which holds nothing yet. -/
theorem Sound.create : Sound context
      { manager with creations := manager.creations ++ [⟨message, .registering⟩] } := by
  have goes := proceeds_create message manager
  have nobody : ∀ progress, manager.progressAt manager.creations.length ≠ some progress := by
    simp [progressAt]
  apply sound.proceeds goes (sound.toInstances.proceeds goes (fun _ own => nomatch own)) trivial
  · intro wrapper inRegistry
    exact .inr ⟨inRegistry, fun progress found => absurd found (nobody progress)⟩
  · intro instanceId holder
    cases holder
  · intro wrapper inRegistry _ _
    exact inRegistry

/-- An entry of the actor map's log is applied: only its own index can become a new
owner, and no handler has that instance yet. -/
theorem Sound.commit
    (committed : manager.commit context entry now = some next) : Sound context next := by
  rcases commit_eq_some committed with ⟨inOrder, lastApplied, registry, creations, owner⟩
  have progressAt : ∀ other, next.progressAt other = manager.progressAt other := by
    intro other
    rw [Manager.progressAt, Manager.progressAt, creations]
  have sameEntry : next.entry context = manager.entry context := by
    rw [Manager.entry, Manager.entry, registry]
  have earlier : ∀ other progress instanceId, manager.progressAt other = some progress →
      progress.instance? = some instanceId → instanceId.logIndex < entry.logId.index := by
    intro other progress instanceId here own
    rcases sound.handedOut other progress instanceId here own with ⟨last, known, bound⟩
    have later := inOrder last known
    omega
  refine ⟨⟨?_, ?_, ?_⟩, ?_, ?_, ?_⟩
  · intro other progress instanceId here own
    rw [progressAt] at here
    exact ⟨entry.logId, lastApplied, Nat.le_of_lt (earlier other progress instanceId here own)⟩
  · intro first second progress otherProgress instanceId here there
    rw [progressAt] at here there
    exact sound.distinct first second progress otherProgress instanceId here there
  · intro ownerId owned other progress instanceId here own
    rw [progressAt] at here
    rcases (owner ownerId).mp owned with ⟨_, _, index⟩ | ⟨before, _⟩
    · have bound := earlier other progress instanceId here own
      rw [index]
      exact Nat.le_of_lt bound
    · exact sound.newest ownerId before other progress instanceId here own
  · intro other progress here
    rw [progressAt] at here
    exact sound.ordered other progress here
  · intro wrapper inRegistry
    rw [sameEntry] at inRegistry
    rcases sound.held wrapper inRegistry with ⟨other, progress, here, holder⟩
    exact ⟨other, progress, (progressAt other).trans here, holder⟩
  · intro other progress instanceId here holder owned
    rw [progressAt] at here
    rw [sameEntry]
    rcases (owner instanceId).mp owned with ⟨_, _, index⟩ | ⟨before, _⟩
    · have bound := earlier other progress instanceId here holder.instance?
      rw [index] at bound
      exact absurd bound (Nat.lt_irrefl _)
    · exact sound.present other progress instanceId here holder before

variable {logId : LogId}

/-- A handler learns the instance that its registration has just created. -/
theorem Sound.registered (found : manager.progressAt number = some .registering)
    (lastApplied : manager.actorMap.lastAppliedLogId = some logId)
    (fresh : ∀ other progress instanceId, manager.progressAt other = some progress →
      progress.instance? = some instanceId → instanceId.logIndex < logId.index)
    (owned : manager.owner context = some ⟨logId.index⟩)
    (own : after.instance? = some ⟨logId.index⟩) (quiet : ∀ instanceId, ¬ after.Holds instanceId) :
    Sound context (manager.setProgress number after) := by
  have goes := proceeds_setProgress found manager.registry after
  have instances : Instances context (manager.setProgress number after) := by
    apply sound.toInstances.proceeds goes
    intro instanceId known
    rw [own] at known
    cases known
    refine ⟨⟨logId, lastApplied, Nat.le_refl _⟩, ?_, ?_⟩
    · intro other progress _ there known
      exact absurd (fresh other progress _ there known) (Nat.lt_irrefl _)
    · intro ownerId isOwner
      rw [owned] at isOwner
      cases isOwner
      exact Nat.le_refl _
  apply sound.proceeds goes instances (Progress.ordered_of_idle quiet)
  · intro wrapper inRegistry
    refine .inr ⟨inRegistry, ?_⟩
    intro progress there holder
    rw [found] at there
    cases there
    cases holder
  · intro instanceId holder
    exact absurd holder (quiet instanceId)
  · intro wrapper inRegistry _ _
    exact inRegistry

variable {instanceId : SessionInstanceId} {sessionPresent : Bool}
  {read : Option (Option SessionInstanceId)}

theorem Sound.insertSession
    (found : manager.progressAt number = some (.checking instanceId sessionPresent read))
    (inOrder : ∀ wrapper, manager.entry context = some wrapper →
      wrapper.sessionInstanceId.logIndex < instanceId.logIndex) :
    Sound context (insertSession context number instanceId sessionPresent manager) := by
  have goes := proceeds_setProgress found (manager.registry.insert context.tenantId
    context.clientId (.start instanceId))
    (.rechecking instanceId sessionPresent (manager.entry context) none)
  have entryAt : (SessionManager.insertSession context number instanceId sessionPresent
      manager).entry context = some (.start instanceId) :=
    SessionRegistry.get_insert_self _ _ _ _
  apply sound.proceeds goes (sound.keeps goes found rfl)
  · exact ⟨inOrder, fun current unread => nomatch unread⟩
  · intro wrapper inRegistry
    have isStarted := entryAt.symm.trans inRegistry
    cases isStarted
    exact .inl rfl
  · intro known holder _
    exact ⟨.start instanceId, entryAt, holder⟩
  · -- An owner in the registry would have a later instance than the handler.
    intro wrapper inRegistry owned _
    have below := inOrder wrapper inRegistry
    have above := sound.newest _ owned number _ instanceId found rfl
    exact absurd (Nat.lt_of_lt_of_le below above) (Nat.lt_irrefl _)

/-- The registry loses sessions of one instance, which no longer owns the client or whose
handler fails. -/
theorem Sound.loses {registry : SessionRegistry}
    (smaller : ∀ wrapper, registry.get context.tenantId context.clientId = some wrapper →
      manager.entry context = some wrapper)
    (keeps : ∀ wrapper, manager.entry context = some wrapper →
      manager.owner context = some wrapper.sessionInstanceId →
        registry.get context.tenantId context.clientId = some wrapper) :
    Sound context (manager.setRegistry registry) :=
  { sound with
    held := by
      intro wrapper inRegistry
      exact sound.held wrapper (smaller wrapper inRegistry)
    present := by
      intro other progress instanceId here holder owned
      rcases sound.present other progress instanceId here holder owned with
        ⟨wrapper, there, same⟩
      subst same
      exact ⟨wrapper, keeps wrapper there owned, rfl⟩ }

variable {replacedSession : Option SessionActorRecipientWrapper}
  {current : Option (Option SessionInstanceId)}

/-- A rollback never puts a replaced session back: its instance is earlier than that of
the handler, the owner that was read is not. -/
theorem Sound.rollback_eq (found : manager.progressAt number =
      some (.rechecking instanceId sessionPresent replacedSession read))
    (delivered : current = read ∨ current = none) :
    rollback context instanceId replacedSession current manager.registry =
      manager.registry.removeIf context.tenantId context.clientId instanceId := by
  rcases sound.ordered number _ found with ⟨earlier, notEarlier⟩
  unfold rollback
  cases replacedSession with
  | none => rfl
  | some previous =>
    have below := earlier previous rfl
    dsimp only
    rw [if_neg]
    intro isCurrent
    rcases delivered with same | failed
    · have above := notEarlier _ (same.symm.trans isCurrent)
      exact absurd (Nat.lt_of_lt_of_le below above) (Nat.lt_irrefl _)
    · rw [failed] at isCurrent
      cases isCurrent

/-- A handler that has lost the client takes its own session back and fails. -/
theorem Sound.fails (error : SessionManagerError) (found : manager.progressAt number =
      some (.rechecking instanceId sessionPresent replacedSession read))
    (delivered : current = read ∨ current = none) :
    Sound context ((manager.setRegistry (rollback context instanceId replacedSession current
      manager.registry)).setProgress number (.returned (some instanceId) (.error error))) := by
  rw [sound.rollback_eq found delivered]
  have goes := proceeds_setProgress found (manager.registry.removeIf context.tenantId
    context.clientId instanceId) (.returned (some instanceId) (.error error))
  have entryAt := SessionRegistry.get_removeIf_self context.tenantId context.clientId instanceId
    manager.registry
  apply sound.proceeds goes (sound.keeps goes found rfl) trivial
  · intro wrapper inRegistry
    rcases Option.filter_eq_some_iff.mp (entryAt.symm.trans inRegistry) with ⟨there, other⟩
    refine .inr ⟨there, ?_⟩
    intro progress here holder
    rw [found] at here
    cases here
    have same : instanceId = wrapper.sessionInstanceId := holder
    simp [same] at other
  · intro known holder
    cases holder
  · intro wrapper there _ free
    refine entryAt.trans (Option.filter_eq_some_iff.mpr ⟨there, ?_⟩)
    have other : wrapper.sessionInstanceId ≠ instanceId := fun same => free _ found same.symm
    simpa using other

omit sound

/-! ## Steps and runs -/

theorem instance?_afterRegistration (instanceId : SessionInstanceId) :
    (afterRegistration message instanceId).instance? = some instanceId ∧
      ∀ other, ¬ (afterRegistration message instanceId).Holds other := by
  rw [afterRegistration]
  split
  · exact ⟨rfl, fun _ => id⟩
  · split <;> exact ⟨rfl, fun _ => id⟩

variable {outcome : WriteOutcome} {creation : Creation}

theorem sound_registerStep (sound : Sound context manager)
    (found : manager.creations[number]? = some creation)
    (stepped : registerStep context number logId now outcome creation manager = some next) :
    Sound context next := by
  have progress : manager.progressAt number = some creation.progress := by
    rw [progressAt, found]
    rfl
  unfold registerStep at stepped
  split at stepped
  · rename_i registering
    rcases Option.map_eq_some_iff.mp stepped with ⟨registered, committed, made⟩
    subst made
    rcases commit_eq_some committed with ⟨inOrder, lastApplied, _, creations, owner⟩
    have after := instance?_afterRegistration creation.message ⟨logId.index⟩
    have sameProgress : ∀ other, registered.progressAt other = manager.progressAt other := by
      intro other
      rw [progressAt, progressAt, creations]
    refine (sound.commit committed).registered ?_ lastApplied ?_ ?_ after.1 after.2
    · rw [sameProgress, progress, registering]
    · intro other earlier instanceId here own
      rw [sameProgress] at here
      rcases sound.handedOut other earlier instanceId here own with ⟨last, known, bound⟩
      exact Nat.lt_of_le_of_lt bound (inOrder last known)
    · exact (owner _).mpr (.inl ⟨context.nodeId, rfl, rfl⟩)
  · rename_i registering
    rcases Option.map_eq_some_iff.mp stepped with ⟨registered, committed, made⟩
    subst made
    have here : registered.progressAt number = some creation.progress := by
      rw [progressAt, (commit_eq_some committed).2.2.2.1]
      exact progress
    rw [registering] at here
    exact (sound.commit committed).quiet here rfl (fun _ => id) (fun _ => id)
  · rename_i registering
    cases stepped
    rw [registering] at progress
    exact sound.quiet progress rfl (fun _ => id) (fun _ => id)
  · cases stepped

variable {request : SessionState.SessionStateRequest}

/-- A session-state command that is over leaves its handler with the same instance and
without a session in the registry. -/
theorem instance?_afterCommand {message : CreateSessionMessage} {progress : Progress}
    (awaited : awaitedCommand context message progress = some request) (outcome : WriteOutcome) :
    (afterCommand message outcome progress).instance? = progress.instance? ∧
      (∀ instanceId, ¬ (afterCommand message outcome progress).Holds instanceId) ∧
      ∀ instanceId, ¬ progress.Holds instanceId := by
  cases progress with
  | deleting =>
    rw [afterCommand, afterDelete]
    split <;> exact ⟨rfl, fun _ => id, fun _ => id⟩
  | deletingExpired => exact ⟨rfl, fun _ => id, fun _ => id⟩
  | creating =>
    rw [afterCommand]
    split <;> exact ⟨rfl, fun _ => id, fun _ => id⟩
  | _ => cases awaited

variable {reading : SessionState.Reading}

include sound

theorem Sound.commitState (committed : manager.commitState logId reading request = some next) :
    Sound context next ∧ next.creations = manager.creations := by
  rw [Manager.commitState] at committed
  split at committed
  · cases committed
    exact ⟨{ sound with }, rfl⟩
  · cases committed

theorem sound_commandStep (found : manager.creations[number]? = some creation)
    (stepped : commandStep context number logId reading outcome creation manager =
      some next) : Sound context next := by
  rcases Option.bind_eq_some_iff.mp stepped with ⟨_, awaited, goesOn⟩
  have after := instance?_afterCommand awaited outcome
  -- The handler goes on from any sound manager in which it is where it was.
  have proceeds : ∀ reached : Manager, Sound context reached →
      reached.creations = manager.creations → Sound context (reached.setProgress number
          (afterCommand creation.message outcome creation.progress)) := by
    intro reached soundReached creations
    have here : reached.progressAt number = some creation.progress := by
      rw [progressAt, creations, found]
      rfl
    exact soundReached.quiet here after.1 after.2.1 after.2.2
  split at goesOn
  · cases goesOn
    exact proceeds manager sound rfl
  · rcases Option.map_eq_some_iff.mp goesOn with ⟨reached, committed, made⟩
    subst made
    have committedSound := sound.commitState committed
    exact proceeds reached committedSound.1 committedSound.2

omit sound

theorem sound_linearized {progress : Progress} (sound : Sound context manager)
    (found : manager.progressAt number = some progress)
    (fixed : linearized context manager progress = some after) :
    Sound context (manager.setProgress number after) := by
  unfold linearized at fixed
  split at fixed
  · cases fixed
    exact sound.quiet found rfl (fun _ => id) (fun _ => id)
  · cases fixed
    exact sound.quiet found rfl (fun _ => id) (fun _ => id)
  · rename_i instanceId sessionPresent replacedSession
    cases fixed
    refine sound.progress found rfl (fun _ => Iff.rfl) ⟨(sound.ordered number _ found).1, ?_⟩
    intro current isOwner
    exact sound.newest current (Option.some.inj isOwner) number _ instanceId found rfl
  · cases fixed

theorem sound_afterRead {progress : Progress} {failed : Bool} (sound : Sound context manager)
    (found : manager.progressAt number = some progress)
    (inOrder : InOrder context manager (.answer number now failed))
    (stepped : afterRead context number now manager progress failed = some next) :
    Sound context next := by
  unfold afterRead at stepped
  split at stepped
  · rename_i instanceId state
    cases stepped
    have after : (afterRecovery context now instanceId state).instance? = some instanceId ∧
        ∀ other, ¬ (afterRecovery context now instanceId state).Holds other := by
      unfold afterRecovery
      split
      · split <;> exact ⟨rfl, fun _ => id⟩
      · exact ⟨rfl, fun _ => id⟩
    exact sound.quiet found after.1 after.2 (fun _ => id)
  · cases stepped
    exact sound.quiet found rfl (fun _ => id) (fun _ => id)
  · rename_i instanceId sessionPresent current
    split at stepped
    · rename_i owned
      cases stepped
      subst owned
      have inserts : manager.inserting number = some instanceId := by
        simp [inserting, found]
      exact sound.insertSession found (inOrder instanceId inserts)
    · cases stepped
      exact sound.quiet found rfl (fun _ => id) (fun _ => id)
  · cases stepped
    exact sound.quiet found rfl (fun _ => id) (fun _ => id)
  · split at stepped
    · cases stepped
      exact sound.progress found rfl (fun _ => Iff.rfl) trivial
    · cases stepped
      exact sound.fails _ found (.inl rfl)
  · cases stepped
    exact sound.fails _ found (.inr rfl)
  · cases stepped

theorem sound_step {input : Input} (sound : Sound context manager)
    (inOrder : InOrder context manager input)
    (stepped : step context manager input = some next) : Sound context next := by
  cases input with
  | create message =>
    cases stepped
    exact sound.create message
  | register =>
    rcases Option.bind_eq_some_iff.mp stepped with ⟨creation, found, goesOn⟩
    exact sound_registerStep sound found goesOn
  | command =>
    rcases Option.bind_eq_some_iff.mp stepped with ⟨_, found, goesOn⟩
    exact sound_commandStep sound found goesOn
  | linearize =>
    rcases Option.bind_eq_some_iff.mp stepped with ⟨progress, found, goesOn⟩
    rcases Option.map_eq_some_iff.mp goesOn with ⟨_, fixed, made⟩
    subst made
    exact sound_linearized sound found fixed
  | answer =>
    rcases Option.bind_eq_some_iff.mp stepped with ⟨_, found, goesOn⟩
    exact sound_afterRead sound found inOrder goesOn
  | actorMapEntry => exact sound.commit stepped
  | sessionStateRequest => exact (sound.commitState stepped).1
  | stop message =>
    cases stepped
    apply sound.loses
    · intro wrapper kept
      exact SessionActorMap.SessionManagerMessage.get_of_handle kept
    · intro wrapper found owned
      cases message with
      | forceStopWithSessionService => exact found
      | removeExpiredSession =>
        apply (SessionActorMap.SessionManagerMessage.handle_only _ _).2 _ _ _ found
        intro same
        rw [same] at owned
        exact inOrder owned
  | removeSession =>
    simp only [step, SessionRegistry.removeSession] at stepped
    split at stepped
    · rename_i removed
      split at removed
      · cases removed
        cases stepped
        apply sound.loses
        · intro wrapper kept
          exact SessionRegistry.get_of_removeIf kept
        · intro wrapper found owned
          apply SessionRegistry.get_removeIf_of_instance found
          intro same
          rw [same] at owned
          exact inOrder owned
      · cases removed
    · cases stepped
      exact sound

/-- In every interleaving in which no handler inserts its session over a later one, the
creations settle. -/
theorem settled_throughout (context : Context) (inputs : List Input)
    (inOrder : EachStep (step context) (InOrder context) new inputs) :
    Throughout (step context) (Settled context) new inputs := by
  apply (throughout_of_eachStep _ sound_new inOrder).mono fun _ => Sound.settled
  intro manager input next before allowed stepped
  exact sound_step before allowed stepped

/-! ## A takeover, and rollbacks that go wrong -/

def someClient : Context where
  tenantId := "tenant"
  clientId := "client"
  nodeId := 1
  sessionTtl := 60
  inflightRetryIntervalSecs := 30

def upToCheck (number logIndex : Nat) : List Input :=
  [.create ⟨true, true, .v3_1_1, none⟩, .register number ⟨⟨1, 1⟩, logIndex⟩ 0 .committed,
    .command number ⟨⟨1, 1⟩, logIndex⟩ ⟨0, fun _ => none⟩ .committed,
    .linearize number]

/-- A second handler takes the client over while the first one looks at the owner again. -/
def takenOver : List Input :=
  upToCheck 0 1 ++ [.answer 0 0 false] ++ upToCheck 1 2 ++
    [.answer 1 0 false, .linearize 0, .linearize 1, .answer 0 0 false, .answer 1 0 false]

theorem settled_takenOver :
    ∃ final, run (step someClient) new takenOver = some final ∧
      final.entry someClient = some (.start ⟨2⟩) ∧ Settled someClient final := by
  have observed : (run (step someClient) new takenOver).map
      (fun final => final.entry someClient) = some (some (.start ⟨2⟩)) := by
    decide +kernel
  rcases Option.map_eq_some_iff.mp observed with ⟨final, runs, seen⟩
  refine ⟨final, runs, seen, ?_⟩
  apply settled_throughout someClient takenOver _ takenOver List.prefix_rfl final runs
  exact eachStep_of_allowedSteps (by decide +kernel)

/-- Three handlers get their first answers in the reverse order, and their second ones in
the order 2, 1, 0. -/
def reversedAnswers : List Input :=
  upToCheck 0 1 ++ upToCheck 1 2 ++ upToCheck 2 3 ++
    [.answer 2 0 false, .linearize 2, .answer 2 0 false, .answer 1 0 false, .answer 0 0 false,
      .linearize 1, .answer 1 0 false, .linearize 0, .answer 0 0 false]

/-- The second of two handlers is the owner, but its second look at the owner fails after
the first handler has inserted its session over it. -/
def failedRecheck : List Input :=
  upToCheck 0 1 ++ upToCheck 1 2 ++ [.answer 1 0 false, .answer 0 0 false, .answer 1 0 true,
      .linearize 0, .answer 0 0 false]

def observe (context : Context) (manager : Manager) :
    List Progress × Option SessionInstanceId × Option SessionActorRecipientWrapper :=
  (manager.creations.map Creation.progress, manager.owner context, manager.entry context)

theorem progressAt_eq (number : Nat) (manager : Manager) :
    manager.progressAt number = (manager.creations.map Creation.progress)[number]? :=
  List.getElem?_map.symm

theorem finished_of_creations {progresses : List Progress}
    (seen : manager.creations.map Creation.progress = progresses)
    (returned : ∀ progress ∈ progresses,
      ∃ instanceId result, progress = .returned instanceId result) : manager.Finished := by
  intro number progress found
  rw [progressAt_eq, seen] at found
  exact returned progress (List.mem_of_getElem? found)

/-- The owner's creation succeeded, but the registry has lost its session; and the
registry holds a session whose creation failed. -/
theorem rollback_diverges :
    (∃ final, run (step someClient) new reversedAnswers = some final ∧ final.Finished ∧
      final.progressAt 2 = some (.returned (some ⟨3⟩) (.ok false)) ∧
      final.owner someClient = some ⟨3⟩ ∧ final.entry someClient = none) ∧
    ∃ final, run (step someClient) new failedRecheck = some final ∧ final.Finished ∧
      final.progressAt 1 = some (.returned (some ⟨2⟩) (.error .sessionActorMapError)) ∧
      final.entry someClient = some (.start ⟨2⟩) := by
  constructor
  · have observed : (run (step someClient) new reversedAnswers).map (observe someClient) =
        some ([.returned (some ⟨1⟩) (.error .sessionSuperseded),
          .returned (some ⟨2⟩) (.error .sessionSuperseded),
          .returned (some ⟨3⟩) (.ok false)], some ⟨3⟩, none) := by
      decide +kernel
    rcases Option.map_eq_some_iff.mp observed with ⟨final, runs, seen⟩
    simp only [observe, Prod.mk.injEq] at seen
    refine ⟨final, runs, finished_of_creations seen.1 ?_, ?_, seen.2.1, seen.2.2⟩
    · simp
    · rw [progressAt_eq, seen.1]
      rfl
  · have observed : (run (step someClient) new failedRecheck).map (observe someClient) =
        some ([.returned (some ⟨1⟩) (.error .sessionSuperseded),
          .returned (some ⟨2⟩) (.error .sessionActorMapError)], some ⟨2⟩, some (.start ⟨2⟩)) := by
      decide +kernel
    rcases Option.map_eq_some_iff.mp observed with ⟨final, runs, seen⟩
    simp only [observe, Prod.mk.injEq] at seen
    refine ⟨final, runs, finished_of_creations seen.1 ?_, ?_, seen.2.2⟩
    · simp
    · rw [progressAt_eq, seen.1]
      rfl

end YedMQ.SessionManager
