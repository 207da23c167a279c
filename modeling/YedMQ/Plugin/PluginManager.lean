import YedMQ.Foundation.HashMap

/-! # The plugin manager

The hooks that plugins have registered, the plugin instances that run, and the two chains
that decide about clients: `call_authorize_hook` and `call_authenticate_hook`.

A chain calls its plugins one after another. The registry of running plugins is shared with
tasks that start and stop plugins, so each plugin of a chain finds the registry as it is when
its turn comes. What becomes of a request is up to the plugin.
-/

namespace YedMQ.Plugin

open Foundation

/-! ## Hooks -/

inductive Hook where
  | clientConnected
  | clientDisconnected
  | messagePublished
  | subscribeAdded
  | subscribeRemoved
  | authenticate
  | authorize
  | onMessagePublish
  | onMessageSubscribe
  | onMessageUnsubscribe
  | onStatsRequest
deriving DecidableEq, Repr

structure RegisteredHook where
  pluginName : String
  instanceId : String
  priority : UInt32
deriving DecidableEq, Repr

structure HookManager where
  hooks : HashMap Hook (List RegisteredHook)

namespace HookManager

def new : HookManager where
  hooks := ∅

/-- The hooks of one kind are sorted by priority, and by age within a priority. -/
def registerHook (hook : Hook) (pluginName instanceId : String) (priority : UInt32)
    (manager : HookManager) : HookManager :=
  let registeredHook : RegisteredHook := ⟨pluginName, instanceId, priority⟩
  match manager.hooks.lookup hook with
  | some hooks =>
    { hooks := manager.hooks.insert hook ((hooks ++ [registeredHook]).mergeSort
        fun first second => first.priority ≤ second.priority) }
  | none => { hooks := manager.hooks.insert hook [registeredHook] }

def getHooks (hook : Hook) (manager : HookManager) : Option (List RegisteredHook) :=
  manager.hooks.lookup hook

def retainHooks (keep : RegisteredHook → Bool) (manager : HookManager) : HookManager where
  hooks := (manager.hooks.mapValues (List.filter keep)).retain fun _ hooks => !hooks.isEmpty

def removePluginInstance (instanceId : String) (manager : HookManager) : HookManager :=
  manager.retainHooks fun hook => hook.instanceId ≠ instanceId

def removePluginName (pluginName : String) (manager : HookManager) : HookManager :=
  manager.retainHooks fun hook => hook.pluginName ≠ pluginName

def replacePluginHooks (pluginName instanceId : String) (hooks : List (Hook × UInt32))
    (manager : HookManager) : HookManager :=
  hooks.foldl (fun manager entry => manager.registerHook entry.1 pluginName instanceId entry.2)
    (manager.removePluginName pluginName)

end HookManager

/-! ## Running plugins -/

inductive PluginState where
  | discovered
  | starting
  | running
  | stopping
  | stopped
  | failed
deriving DecidableEq, Repr

structure IpcSender where
  channel : Nat
deriving DecidableEq, Repr

structure RunningPlugin where
  name : String
  state : PluginState
  ipcSender : Option IpcSender
  authCode : String
deriving DecidableEq, Repr

def getRegisteredPluginSender (runningPlugins : HashMap String RunningPlugin)
    (registeredHook : RegisteredHook) : Option (IpcSender × String) :=
  match runningPlugins.lookup registeredHook.pluginName with
  | none => none
  | some runningPlugin =>
    if runningPlugin.authCode ≠ registeredHook.instanceId then
      none
    else if runningPlugin.state ≠ .running then
      none
    else
      runningPlugin.ipcSender.map fun ipcSender => (ipcSender, runningPlugin.name)

/-! ## Requests -/

structure Any where
  typeUrl : String
  value : List UInt8
deriving DecidableEq, Repr

structure ProtocolMessage where
  result : Option Any
deriving DecidableEq, Repr

inductive InflightError where
  | timeout
  | recvError
  | sendError
deriving DecidableEq, Repr

inductive RequestFate where
  /-- The channel to the plugin is closed. -/
  | refused
  /-- The request is completed, with a response or with an error. -/
  | completed (response : Except Unit ProtocolMessage)
  /-- Nobody will complete the request any more. -/
  | abandoned
  /-- Nothing happens in time. -/
  | silent

def sendAndWait : RequestFate → Except InflightError ProtocolMessage
  | .refused => .error .sendError
  | .completed (.ok response) => .ok response
  | .completed (.error _) | .abandoned => .error .recvError
  | .silent => .error .timeout

structure Turn where
  runningPlugins : HashMap String RunningPlugin
  fate : RequestFate

structure Visit where
  plugin : RegisteredHook
  turn : Turn

def visits (plugins : List RegisteredHook) (turns : Nat → Turn) : List Visit :=
  plugins.mapIdx fun position plugin => ⟨plugin, turns position⟩

inductive Reply (ρ : Type) where
  /-- There is no running instance to call. -/
  | skipped
  /-- The plugin was called and gave no answer of the expected type. -/
  | failed
  | timedOut (pluginName : String)
  | answered (response : ρ)

def Visit.call {ρ : Type} (typeUrl : String) (decode : List UInt8 → Option ρ) (visit : Visit) :
    Reply ρ :=
  match getRegisteredPluginSender visit.turn.runningPlugins visit.plugin with
  | none => .skipped
  | some (_, pluginName) =>
    match sendAndWait visit.turn.fate with
    | .ok response =>
      match response.result with
      | some result =>
        if result.typeUrl = typeUrl then
          match decode result.value with
          | none => .failed
          | some answer => .answered answer
        else
          .failed
      | none => .failed
    | .error .timeout => .timedOut pluginName
    | .error _ => .failed

def timeoutReason (pluginName : String) : String :=
  "Plugin " ++ pluginName ++ " response timeout"

structure PluginHostConfig where
  defaultAuthorizeResult : Bool
  defaultAuthenticateResult : Bool

/-! ## Authorization -/

def authorizeResponseTypeUrl : String :=
  "type.yedmq.com/plugin_protocol.AuthorizeResponse"

structure AuthorizeResponse where
  authorized : Bool
  reason : Option String
deriving DecidableEq, Repr

structure AuthorizeResult where
  authorized : Bool
  reason : Option String
  modifiedContext : HashMap String String

section Authorize

variable (decode : List UInt8 → Option AuthorizeResponse)

def authorizeRound (finalResult : AuthorizeResult) (visit : Visit) :
    Except AuthorizeResult AuthorizeResult :=
  match visit.call authorizeResponseTypeUrl decode with
  | .skipped => .ok finalResult
  | .failed => .ok finalResult
  | .timedOut pluginName =>
    .error { authorized := false, reason := timeoutReason pluginName, modifiedContext := ∅ }
  | .answered response =>
    if response.authorized then
      .ok finalResult
    else
      .error
        { authorized := response.authorized, reason := response.reason, modifiedContext := ∅ }

/-- Authorize connect, subscribe and publish. The function never fails. -/
def callAuthorizeHook (config : PluginHostConfig) (hookManager : HookManager)
    (turns : Nat → Turn) : AuthorizeResult :=
  match hookManager.getHooks .authorize with
  | some plugins =>
    match (visits plugins turns).foldlM (authorizeRound decode)
      { authorized := true, reason := none, modifiedContext := ∅ } with
    | .error result => result
    | .ok finalResult => finalResult
  | none =>
    { authorized := config.defaultAuthorizeResult, reason := none, modifiedContext := ∅ }

end Authorize

/-! ## Authentication -/

def authenticateResponseTypeUrl : String :=
  "type.yedmq.com/plugin_protocol.AuthenticateResponse"

structure AuthenticateResponse where
  authenticated : Bool
  errorReason : Option String
  tenantId : Option String
deriving DecidableEq, Repr

structure AuthenticateResult where
  authenticated : Bool
  errorReason : Option String
  tenantId : Option String
deriving DecidableEq, Repr

structure AuthenticateProgress where
  finalResult : AuthenticateResult
  isFirstCalled : Bool
  calledAnyPlugin : Bool
deriving DecidableEq, Repr

def AuthenticateProgress.start : AuthenticateProgress where
  finalResult := { authenticated := false, errorReason := none, tenantId := none }
  isFirstCalled := true
  calledAnyPlugin := false

section Authenticate

variable (decode : List UInt8 → Option AuthenticateResponse)

def authenticateRound (progress : AuthenticateProgress) (visit : Visit) :
    Except AuthenticateResult AuthenticateProgress :=
  match visit.call authenticateResponseTypeUrl decode with
  | .skipped => .ok progress
  | .failed => .ok { progress with calledAnyPlugin := true }
  | .timedOut pluginName =>
    .error
      { authenticated := false, errorReason := timeoutReason pluginName, tenantId := none }
  | .answered response =>
    if response.authenticated then
      if !progress.isFirstCalled ∧ response.tenantId ≠ progress.finalResult.tenantId then
        .error
          { authenticated := false, errorReason := "Tenant ID mismatch", tenantId := none }
      else
        .ok
          { finalResult :=
              { authenticated := true, errorReason := none, tenantId := response.tenantId }
            isFirstCalled := false
            calledAnyPlugin := true }
    else
      .error
        { authenticated := response.authenticated
          errorReason := response.errorReason
          tenantId := response.tenantId }

/-- Authenticate a client that connects. The function never fails. -/
def callAuthenticateHook (config : PluginHostConfig) (hookManager : HookManager)
    (turns : Nat → Turn) : AuthenticateResult :=
  match hookManager.getHooks .authenticate with
  | none =>
    { authenticated := config.defaultAuthenticateResult, errorReason := none,
      tenantId := none }
  | some plugins =>
    match (visits plugins turns).foldlM (authenticateRound decode) .start with
    | .error result => result
    | .ok progress =>
      if progress.calledAnyPlugin then
        progress.finalResult
      else
        { authenticated := false, errorReason := none, tenantId := none }

end Authenticate

end YedMQ.Plugin
