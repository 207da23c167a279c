import Mathlib.Algebra.Order.Ring.Nat
import YedMQ.Plugin.PluginManager
import YedMQ.Semantics.Run

/-! # The receive loop

`start_handle_plugin_rx_cmd` handles what comes from all plugin connections and from the tasks
that wait for plugin processes, one command after another. It needs the write guard of the hook
manager for some of them, while hook calls keep a read guard until every plugin they turn to
has been sent its message.
-/

namespace YedMQ.Plugin

open Foundation Semantics

/-! ## Commands -/

def initResponseTypeUrl : String :=
  "type.yedmq.com/plugin_protocol.InitializeResponse"

structure InitializeResponse where
  status : String
  hooks : List (String × UInt32)
  authCode : String

def getHookFromName : String → Option Hook
  | "ClientConnected" => some .clientConnected
  | "ClientDisconnected" => some .clientDisconnected
  | "MessagePublished" => some .messagePublished
  | "SubscribeAdded" => some .subscribeAdded
  | "SubscribeRemoved" => some .subscribeRemoved
  | "Authenticate" => some .authenticate
  | "Authorize" => some .authorize
  | "OnMessagePublish" => some .onMessagePublish
  | "OnMessageSubscribe" => some .onMessageSubscribe
  | "OnMessageUnsubscribe" => some .onMessageUnsubscribe
  | "OnStatsRequest" => some .onStatsRequest
  | _ => none

def InitializeResponse.registerHooks (response : InitializeResponse) : List (Hook × UInt32) :=
  response.hooks.filterMap fun hook => (getHookFromName hook.1).map fun kind => (kind, hook.2)

inductive MessageType where
  | unspecified
  | request
  | response
  | notification
  | event
  | error
  | batchRequest
  | batchResponse
deriving DecidableEq, Repr

structure ReceivedMessage extends ProtocolMessage where
  id : String
  messageType : MessageType
deriving DecidableEq, Repr

inductive RxCmd where
  | initMessage (msg : ProtocolMessage) (txCmdSender : IpcSender)
  | normalReceivedMessage (msg : ReceivedMessage)
  | pluginStatusChanged (pluginName pluginAuthCode : String) (pluginState : PluginState)
  | shutdown
deriving DecidableEq, Repr

def initCommand (msg : ProtocolMessage) (txCmdSender : IpcSender) : Option RxCmd :=
  match msg.result with
  | some result =>
    if result.typeUrl = initResponseTypeUrl then
      some (.initMessage msg txCmdSender)
    else
      none
  | none => none

/-! ## The host -/

/-- The requests that wait for a response, and the responses that have been passed on. -/
structure InflightManager where
  /-- The channel on which the caller waits. -/
  inflight : HashMap String Nat
  sent : HashMap Nat ReceivedMessage

def InflightManager.complete (msg : ReceivedMessage) (manager : InflightManager) :
    InflightManager :=
  match manager.inflight.lookup msg.id with
  | some respSender =>
    ⟨manager.inflight.erase msg.id, manager.sent.insert respSender msg⟩
  | none => manager

structure PluginHost where
  runningPlugins : HashMap String RunningPlugin
  /-- The names of the running plugins in the order of the iterator. -/
  order : List String
  hookManager : HookManager
  inflightManager : InflightManager
  keys : ∀ key plugin, runningPlugins.lookup key = some plugin → plugin.name = key ∧ key ∈ order

namespace PluginHost

def new : PluginHost where
  runningPlugins := ∅
  order := []
  hookManager := .new
  inflightManager := ⟨∅, ∅⟩
  keys := by intro key plugin found; cases found

def setPlugin (plugin : RunningPlugin) (host : PluginHost) : PluginHost where
  runningPlugins := host.runningPlugins.insert plugin.name plugin
  order := host.order.insert plugin.name
  hookManager := host.hookManager
  inflightManager := host.inflightManager
  keys := by
    intro key other found
    by_cases same : key = plugin.name
    · subst same
      cases (Finmap.lookup_insert _).symm.trans found
      exact ⟨rfl, List.mem_insert_self⟩
    · rw [Finmap.lookup_insert_of_ne _ same] at found
      exact (host.keys key other found).imp_right List.mem_insert_of_mem

def removePluginInstance (instanceId : String) (host : PluginHost) : PluginHost :=
  { host with hookManager := host.hookManager.removePluginInstance instanceId }

/-- A change that comes from an instance which is not the current one is ignored. -/
def statusChanged (pluginName pluginAuthCode : String) (pluginState : PluginState)
    (host : PluginHost) : PluginHost :=
  let host := if pluginState = .stopped ∨ pluginState = .failed then
      host.removePluginInstance pluginAuthCode
    else
      host
  match host.runningPlugins.lookup pluginName with
  | some plugin =>
    if plugin.authCode ≠ pluginAuthCode then
      host
    else
      host.setPlugin
        { plugin with
          ipcSender := if pluginState = .stopped then none else plugin.ipcSender
          state := pluginState }
  | none => host

def findInstance (authCode : String) (host : PluginHost) : Option RunningPlugin :=
  host.order.findSome? fun name =>
    (host.runningPlugins.lookup name).filter fun plugin => plugin.authCode = authCode

def initialized (response : InitializeResponse) (txCmdSender : IpcSender) (host : PluginHost) :
    PluginHost :=
  match host.findInstance response.authCode with
  | some plugin =>
    { host.setPlugin { plugin with ipcSender := some txCmdSender, state := .running } with
      hookManager := host.hookManager.replacePluginHooks plugin.name plugin.authCode
        response.registerHooks }
  | none => host

end PluginHost

inductive LoopExit where
  | broke
  /-- The task returns in the middle of the loop. -/
  | returned

section Loop

variable (decode : List UInt8 → Option InitializeResponse)

/-- One round of the loop. Nothing is received when the channel is closed. -/
def handleRxCmd (host : PluginHost) : Option RxCmd → Except LoopExit PluginHost
  | some (.pluginStatusChanged pluginName pluginAuthCode pluginState) =>
    .ok (host.statusChanged pluginName pluginAuthCode pluginState)
  | some (.initMessage msg txCmdSender) =>
    match msg.result with
    | some result =>
      match decode result.value with
      | none => .error .returned
      | some response => .ok (host.initialized response txCmdSender)
    | none => .ok host
  | some (.normalReceivedMessage msg) =>
    match msg.messageType with
    | .response => .ok { host with inflightManager := host.inflightManager.complete msg }
    | .unspecified | .request | .notification | .event | .error | .batchRequest
    | .batchResponse => .ok host
  | some .shutdown | none => .error .broke

def receiveLoop (host : PluginHost) (received : List (Option RxCmd)) :
    Except LoopExit PluginHost :=
  received.foldlM (handleRxCmd decode) host

/-! ## What ends the loop -/

def TellsToEnd (command : Option RxCmd) : Prop :=
  command = none ∨ command = some .shutdown

def EndsOnlyWhenTold (host : PluginHost) (received : List (Option RxCmd)) : Prop :=
  ∀ earlier command, earlier ++ [command] <+: received →
    ∀ reached exit, receiveLoop decode host earlier = .ok reached →
      handleRxCmd decode reached command = .error exit → TellsToEnd command

def Decodes : Option RxCmd → Prop
  | some (.initMessage msg _) => ∀ result, msg.result = some result →
    (decode result.value).isSome
  | _ => True

theorem handleRxCmd_error_iff (host : PluginHost) (command : Option RxCmd) :
    (∃ exit, handleRxCmd decode host command = .error exit) ↔
      TellsToEnd command ∨ ¬ Decodes decode command := by
  unfold handleRxCmd TellsToEnd Decodes
  rcases command with _ | (⟨⟨_ | result⟩, _⟩ | msg | _ | _)
  · simp
  · simp
  · cases decoded : decode result.value <;> simp [decoded]
  · cases kind : msg.messageType <;> simp [kind]
  · simp
  · simp

theorem not_tellsToEnd_of_not_decodes {command : Option RxCmd}
    (undecodable : ¬ Decodes decode command) : ¬ TellsToEnd command := by
  intro told
  rcases told with rfl | rfl <;> exact undecodable trivial

/-- The loop ends only when told exactly if every initialize response that it comes to can be
decoded. -/
theorem ends_only_when_told_iff (host : PluginHost) (received : List (Option RxCmd)) :
    EndsOnlyWhenTold decode host received ↔
      ∀ earlier command, earlier ++ [command] <+: received →
        ∀ reached, receiveLoop decode host earlier = .ok reached → Decodes decode command := by
  constructor
  · intro ends earlier command visited reached runs
    by_contra undecodable
    rcases (handleRxCmd_error_iff decode reached command).mpr (.inr undecodable) with ⟨exit, ended⟩
    exact not_tellsToEnd_of_not_decodes decode undecodable
      (ends earlier command visited reached exit runs ended)
  · intro decodes earlier command visited reached exit runs ended
    rcases (handleRxCmd_error_iff decode reached command).mp ⟨exit, ended⟩ with told | undecodable
    · exact told
    · exact absurd (decodes earlier command visited reached runs) undecodable

/-! ## What becomes of a command -/

/-- A change of the current instance is recorded, and one that has ended has no hooks; a response
is passed on; and a plugin that answers the initialize request runs. -/
def Handled (host : PluginHost) (command : Option RxCmd) (next : PluginHost) : Prop :=
  match command with
  | some (.pluginStatusChanged pluginName pluginAuthCode pluginState) =>
    (∀ plugin, host.runningPlugins.lookup pluginName = some plugin →
      plugin.authCode = pluginAuthCode →
        ∃ changed, next.runningPlugins.lookup pluginName = some changed ∧
          changed.state = pluginState) ∧
    (pluginState = .stopped ∨ pluginState = .failed → ∀ hook hooks,
      next.hookManager.getHooks hook = some hooks →
        ∀ registered ∈ hooks, registered.instanceId ≠ pluginAuthCode)
  | some (.initMessage msg txCmdSender) => ∀ result response plugin, msg.result = some result →
      decode result.value = some response → host.findInstance response.authCode = some plugin →
        next.runningPlugins.lookup plugin.name =
          some { plugin with ipcSender := some txCmdSender, state := .running }
  | some (.normalReceivedMessage msg) => msg.messageType = .response →
      ∀ respSender, host.inflightManager.inflight.lookup msg.id = some respSender →
        next.inflightManager.sent.lookup respSender = some msg
  | some .shutdown | none => True

theorem notMem_removePluginInstance {manager : HookManager} {instanceId : String} {hook : Hook}
    {hooks : List RegisteredHook}
    (found : (manager.removePluginInstance instanceId).getHooks hook = some hooks) :
    ∀ registered ∈ hooks, registered.instanceId ≠ instanceId := by
  rw [HookManager.getHooks, HookManager.removePluginInstance, HookManager.retainHooks,
    HashMap.lookup_retain, HashMap.lookup_mapValues] at found
  rcases Option.map_eq_some_iff.mp (Option.filter_eq_some_iff.mp found).1 with ⟨before, _, kept⟩
  intro registered member
  rw [← kept] at member
  exact of_decide_eq_true (List.mem_filter.mp member).2

namespace PluginHost

variable {host : PluginHost} {pluginName pluginAuthCode : String} {pluginState : PluginState}

theorem state_statusChanged {plugin : RunningPlugin}
    (found : host.runningPlugins.lookup pluginName = some plugin)
    (current : plugin.authCode = pluginAuthCode) :
    ∃ changed, (host.statusChanged pluginName pluginAuthCode pluginState).runningPlugins.lookup
      pluginName = some changed ∧ changed.state = pluginState := by
  have named := (host.keys pluginName plugin found).1
  have kept : (if pluginState = .stopped ∨ pluginState = .failed then
      host.removePluginInstance pluginAuthCode else host).runningPlugins = host.runningPlugins := by
    split <;> rfl
  rw [statusChanged, kept, found]
  dsimp only
  rw [if_neg (not_not_intro current)]
  refine ⟨{ plugin with
    ipcSender := if pluginState = .stopped then none else plugin.ipcSender
    state := pluginState }, ?_, rfl⟩
  rw [setPlugin, ← named]
  exact Finmap.lookup_insert _

theorem hooks_statusChanged (ended : pluginState = .stopped ∨ pluginState = .failed) (hook : Hook)
    (hooks : List RegisteredHook) (listed : (host.statusChanged pluginName pluginAuthCode
      pluginState).hookManager.getHooks hook = some hooks) :
    ∀ registered ∈ hooks, registered.instanceId ≠ pluginAuthCode := by
  have removed : (host.hookManager.removePluginInstance pluginAuthCode).getHooks hook =
      some hooks := by
    rw [statusChanged, if_pos ended] at listed
    split at listed
    · split at listed <;> exact listed
    · exact listed
  exact notMem_removePluginInstance removed

end PluginHost

theorem handled_of_ok {host next : PluginHost} {command : Option RxCmd}
    (handles : handleRxCmd decode host command = .ok next) : Handled decode host command next := by
  rcases command with _ | (⟨msg, txCmdSender⟩ | msg | ⟨pluginName, pluginAuthCode, pluginState⟩ | _)
  · trivial
  · intro result response plugin found decoded running
    simp only [handleRxCmd, found, decoded] at handles
    cases handles
    rw [PluginHost.initialized, running]
    exact Finmap.lookup_insert _
  · intro response respSender waits
    simp only [handleRxCmd, response] at handles
    cases handles
    rw [InflightManager.complete, waits]
    exact Finmap.lookup_insert _
  · cases handles
    exact ⟨fun _ => PluginHost.state_statusChanged, PluginHost.hooks_statusChanged⟩
  · trivial

/-! ## Waiting for the hook manager -/

/-- A hook call that keeps a read guard. -/
structure GuardedCall where
  /-- The connections of the plugins that it still has to turn to. -/
  remaining : List IpcSender
  /-- The first of them has been sent its message. A response or a timeout ends the waiting. -/
  sent : Bool
deriving DecidableEq

structure Reception where
  host : PluginHost
  calls : List GuardedCall
  /-- How many messages wait in the channel of a connection. -/
  queued : IpcSender → Nat
  /-- The command in hand while the loop waits for the write guard. -/
  waiting : Option RxCmd
  exit : Option LoopExit

namespace Reception

inductive Event where
  | receive (command : Option RxCmd)
  | write
  | hook (connections : List IpcSender)
  | proceed (place : Nat)
  -- The plugin takes a message from its connection.
  | take (connection : IpcSender)

/-- What the host does without any plugin. -/
def Event.isOwn : Event → Bool
  | write => true
  | proceed _ => true
  | _ => false

def initial : Reception where
  host := .new
  calls := []
  queued := fun _ => 0
  waiting := none
  exit := none

def channelSize : Nat := 32

def needsGuard (host : PluginHost) : Option RxCmd → Bool
  | some (.pluginStatusChanged _ _ pluginState) => pluginState = .stopped ∨ pluginState = .failed
  | some (.initMessage msg _) =>
    ((msg.result.bind fun result => decode result.value).bind fun response =>
      host.findInstance response.authCode).isSome
  | _ => false

variable (reception : Reception)

def handle (command : Option RxCmd) : Reception :=
  match handleRxCmd decode reception.host command with
  | .ok host => { reception with host := host, waiting := none }
  | .error exit => { reception with exit := some exit, waiting := none }

def proceed (place : Nat) (call : GuardedCall) : Option Reception :=
  match call.remaining, call.sent with
  | [], _ => some { reception with calls := reception.calls.eraseIdx place }
  | connection :: _, false =>
    if reception.queued connection < channelSize then
      some
        { reception with
          calls := reception.calls.set place { call with sent := true }
          queued := Function.update reception.queued connection
            (reception.queued connection + 1) }
    else
      none
  | _ :: rest, true => some { reception with calls := reception.calls.set place ⟨rest, false⟩ }

/-- A waiting writer holds back new readers. -/
def step : Event → Option Reception
  | .receive command =>
    if reception.exit.isNone && reception.waiting.isNone then
      if needsGuard decode reception.host command then
        some { reception with waiting := command }
      else
        some (reception.handle decode command)
    else
      none
  | .write =>
    if reception.calls = [] then
      reception.waiting.map fun command => reception.handle decode (some command)
    else
      none
  | .hook connections =>
    if reception.waiting.isNone then
      some { reception with calls := reception.calls ++ [⟨connections, false⟩] }
    else
      none
  | .proceed place => reception.calls[place]?.bind fun call => reception.proceed place call
  | .take connection => some
      { reception with
        queued := Function.update reception.queued connection (reception.queued connection - 1) }

def demand (connection : IpcSender) (call : GuardedCall) : Nat :=
  (if call.sent then call.remaining.tail else call.remaining).count connection

/-- Every connection has room for all that the hook calls still send. -/
def Room : Prop :=
  ∀ connection, reception.queued connection +
    (reception.calls.map (demand connection)).sum ≤ channelSize

def work (call : GuardedCall) : Nat :=
  2 * call.remaining.length + (if call.sent then 1 else 2)

variable {reception}

theorem first_proceeds {call : GuardedCall} {rest : List GuardedCall}
    (listed : reception.calls = call :: rest) (room : reception.Room) :
    ∃ next, reception.step decode (.proceed 0) = some next ∧ next.Room ∧
      (next.calls.map work).sum < (reception.calls.map work).sum ∧
      next.waiting = reception.waiting ∧ next.host = reception.host ∧
      next.exit = reception.exit := by
  rcases call with ⟨remaining, sent⟩
  have before : ∀ connection, _ := room
  simp only [listed, List.map_cons, List.sum_cons] at before
  cases remaining with
  | nil =>
    refine ⟨{ reception with calls := rest }, ?_, ?_, ?_, rfl, rfl, rfl⟩
    · simp [step, listed, proceed]
    · exact fun connection => le_trans (by dsimp only; omega) (before connection)
    · simp only [listed, List.map_cons, List.sum_cons, work]
      split <;> omega
  | cons connection more =>
    cases sent with
    | false =>
      have free : reception.queued connection < channelSize := by
        have bound := before connection
        simp only [demand, List.count_cons_self, Bool.false_eq_true, if_false] at bound
        omega
      refine ⟨{ reception with
        calls := ⟨connection :: more, true⟩ :: rest
        queued := Function.update reception.queued connection
          (reception.queued connection + 1) }, ?_, ?_, ?_, rfl, rfl, rfl⟩
      · simp [step, listed, proceed, free]
      · intro other
        have bound := before other
        by_cases same : other = connection
        · subst same
          simp [demand] at bound ⊢
          omega
        · simpa [demand, same, Ne.symm same] using bound
      · simp [listed, work]
    | true =>
      refine ⟨{ reception with calls := ⟨more, false⟩ :: rest }, ?_, ?_, ?_, rfl, rfl, rfl⟩
      · simp [step, listed, proceed]
      · simpa [Room, demand] using before
      · simp [listed, work]
        omega

/-- The hook calls come to their ends without any plugin. -/
theorem calls_finish (room : reception.Room) :
    ∃ own final, (∀ event ∈ own, event.isOwn = true) ∧
      run (step decode) reception own = some final ∧ final.calls = [] ∧
      final.waiting = reception.waiting ∧ final.host = reception.host ∧
      final.exit = reception.exit := by
  generalize size : (reception.calls.map work).sum = total
  induction total using Nat.strong_induction_on generalizing reception with
  | _ total induction =>
    cases listed : reception.calls with
    | nil => exact ⟨[], reception, nofun, rfl, listed, rfl, rfl, rfl⟩
    | cons call rest =>
      rcases first_proceeds decode listed room with
        ⟨next, stepped, roomy, less, waiting, host, exit⟩
      rcases induction _ (size ▸ less) roomy rfl with
        ⟨own, final, owned, runs, finished, same, hosts, exits⟩
      refine ⟨.proceed 0 :: own, final, ?_, ?_, finished, same.trans waiting, hosts.trans host,
        exits.trans exit⟩
      · exact List.forall_mem_cons.mpr ⟨rfl, owned⟩
      · rw [run_cons, stepped]
        exact runs

end Reception

end Loop

open Reception

def exits : RxCmd :=
  .pluginStatusChanged "other" "b" .stopped

/-- Calls of a hook whose plugin does not take its messages. -/
def untaken (count : Nat) : List Event :=
  (List.replicate count [.hook [⟨0⟩], .proceed 0, .proceed 0, .proceed 0]).flatten

end YedMQ.Plugin
