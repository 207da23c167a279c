import YedMQ.Plugin.Decisions
import YedMQ.Plugin.HookHistory

/-! # The chain before a publish

`call_on_message_publish` passes a message through the plugins of a chain, in the order of
their priorities. A plugin may replace the message, and may end the chain.
-/

namespace YedMQ.Plugin

open Foundation

/-! ## Sorted hooks -/

namespace HookManager

/-- Besides the calls that plugins bring about, a single hook may be registered. -/
inductive Change where
  | registerHook (hook : Hook) (pluginName instanceId : String) (priority : UInt32)
  | call (call : HookCall)

def change (manager : HookManager) : Change → HookManager
  | .registerHook hook pluginName instanceId priority =>
    manager.registerHook hook pluginName instanceId priority
  | .call call => manager.call call

def Sorted (manager : HookManager) : Prop :=
  ∀ hook hooks, manager.getHooks hook = some hooks →
    hooks.Pairwise fun first second => first.priority ≤ second.priority

theorem sorted_changes (changes : List Change) : (changes.foldl change new).Sorted := by
  have listed : ∃ source, (changes.foldl change new).Lists source := by
    induction changes using List.reverseRecOn with
    | nil => exact ⟨_, lists_new⟩
    | append_singleton changes change induction =>
      rcases induction with ⟨source, lists⟩
      rw [List.foldl_concat]
      cases change with
      | registerHook => exact ⟨_, lists.registerHook _ _ _ _⟩
      | call call => exact ⟨_, lists.call call⟩
  rcases listed with ⟨source, lists⟩
  intro hook hooks found
  have inOrder := (lists hook).2.inOrder
  rwa [HookManager.listed, found] at inOrder

end HookManager

/-! ## The chain -/

def mqttMessagePublishResponseTypeUrl : String :=
  "type.yedmq.com/plugin_protocol.MqttMessagePublishResponse"

variable {Message : Type}

structure MessagePublishResponse (Message : Type) where
  allow : Bool
  modifiedMessage : Option Message
  errorReason : Option String
  continueChain : Option Bool

structure MessagePublishResult (Message : Type) where
  allow : Bool
  modifiedMessage : Option Message
  errorReason : Option String

/-- A plugin of the chain. Its turn depends on the message of the request that it is sent. -/
structure PublishVisit (Message : Type) where
  plugin : RegisteredHook
  turn : Option Message → Turn

def publishVisits (hookManager : HookManager) (turns : Nat → Option Message → Turn) :
    List (PublishVisit Message) :=
  ((hookManager.getHooks .onMessagePublish).getD []).mapIdx fun position plugin =>
    ⟨plugin, turns position⟩

/-- A plugin whose turn has come, the message that is meant for it, and what came of it. -/
structure PublishCall (Message : Type) where
  plugin : RegisteredHook
  message : Option Message
  reply : Reply (MessagePublishResponse Message)

section Chain

variable (decode : List UInt8 → Option (MessagePublishResponse Message))

def PublishVisit.call (message : Option Message) (visit : PublishVisit Message) :
    PublishCall Message where
  plugin := visit.plugin
  message := message
  reply := Visit.call mqttMessagePublishResponseTypeUrl decode ⟨visit.plugin, visit.turn message⟩

def publishLoop (message : Option Message) :
    List (PublishVisit Message) → MessagePublishResult Message × List (PublishCall Message)
  | [] => (⟨true, message, none⟩, [])
  | visit :: rest =>
    let call := visit.call decode message
    let reached := match call.reply with
      | .skipped | .failed | .timedOut _ => publishLoop message rest
      | .answered response =>
        let message := response.modifiedMessage.or message
        if !response.allow || !response.continueChain.getD false then
          (⟨response.allow, message, response.errorReason⟩, [])
        else
          publishLoop message rest
    (reached.1, call :: reached.2)

/-- Pass a message through the plugins before it is published. The function never fails. -/
def callOnMessagePublish (hookManager : HookManager) (turns : Nat → Option Message → Turn)
    (message : Option Message) : MessagePublishResult Message × List (PublishCall Message) :=
  publishLoop decode message (publishVisits hookManager turns)

end Chain

/-! ## The rules of the chain -/

namespace PublishCall

def denies (call : PublishCall Message) : Bool :=
  match call.reply with
  | .answered response => !response.allow
  | _ => false

def endsChain (call : PublishCall Message) : Bool :=
  match call.reply with
  | .answered response => !response.allow || response.continueChain ≠ some true
  | _ => false

def modifies (message : Option Message) (call : PublishCall Message) : Option Message :=
  match call.reply with
  | .answered response => response.modifiedMessage.or message
  | _ => message

/-- The code reads a `continue_chain` that is not set as `false`. -/
theorem endsChain_of_answered {call : PublishCall Message}
    {response : MessagePublishResponse Message} (answered : call.reply = .answered response) :
    call.endsChain = (!response.allow || !response.continueChain.getD false) := by
  rw [endsChain, answered]
  rcases response with ⟨_, _, _, _ | _ | _⟩ <;> simp

end PublishCall

open PublishCall

/-- What a chain of plugins makes of a message. -/
structure FollowsRules (decode : List UInt8 → Option (MessagePublishResponse Message))
    (message : Option Message) (visits : List (PublishVisit Message))
    (result : MessagePublishResult Message) (calls : List (PublishCall Message)) : Prop where
  /-- The final message has the modifications of the plugins called. -/
  modified : result.modifiedMessage = calls.foldl modifies message
  /-- A plugin sees the message as the plugins before it have left it. -/
  sees : ∀ before call after, calls = before ++ call :: after →
    ∃ visit, visits[before.length]? = some visit ∧
      call = visit.call decode (before.foldl modifies message)
  /-- The chain stops right after the first plugin that ends it, and only there. -/
  stops : ∀ before call after, calls = before ++ call :: after →
    (after = [] ↔ call.endsChain = true ∨ visits.length = before.length + 1)
  starts : calls = [] ↔ visits = []
  /-- The result is a denial if the last plugin has denied. -/
  allow : result.allow = false ↔ ∃ before call, calls = before ++ [call] ∧ call.denies = true

variable {decode : List UInt8 → Option (MessagePublishResponse Message)}
  {message : Option Message} {visit : PublishVisit Message} {rest : List (PublishVisit Message)}
  {result : MessagePublishResult Message}

/-- A plugin that does not end the chain. -/
theorem FollowsRules.goesOn {calls : List (PublishCall Message)}
    (continues : (visit.call decode message).endsChain = false)
    (rules : FollowsRules decode ((visit.call decode message).modifies message) rest result calls) :
    FollowsRules decode message (visit :: rest) result (visit.call decode message :: calls) where
  modified := rules.modified
  sees := by
    intro before call after split
    rcases List.cons_eq_append_iff.mp split with ⟨rfl, same⟩ | ⟨earlier, rfl, later⟩
    · cases same
      exact ⟨visit, rfl, rfl⟩
    · exact rules.sees earlier call after later
  stops := by
    intro before call after split
    rcases List.cons_eq_append_iff.mp split with ⟨rfl, same⟩ | ⟨earlier, rfl, later⟩
    · cases same
      simp [continues, rules.starts]
    · simpa using rules.stops earlier call after later
  starts := by simp
  allow := by
    rw [rules.allow]
    constructor
    · intro ⟨before, call, last, denied⟩
      exact ⟨_ :: before, call, congrArg _ last, denied⟩
    · intro ⟨before, call, last, denied⟩
      rcases List.cons_eq_append_iff.mp last with ⟨rfl, same⟩ | ⟨earlier, rfl, later⟩
      · unfold endsChain at continues
        unfold denies at denied
        grind
      · exact ⟨earlier, call, later, denied⟩

theorem followsRules_last (ends : (visit.call decode message).endsChain = true)
    (modified : result.modifiedMessage = (visit.call decode message).modifies message)
    (allow : result.allow = !(visit.call decode message).denies) :
    FollowsRules decode message (visit :: rest) result [visit.call decode message] where
  modified := modified
  sees := by
    intro before call after split
    rcases List.singleton_eq_append_iff.mp split with ⟨rfl, same⟩ | ⟨_, same⟩
    · cases same
      exact ⟨visit, rfl, rfl⟩
    · cases same
  stops := by
    intro before call after split
    rcases List.singleton_eq_append_iff.mp split with ⟨rfl, same⟩ | ⟨_, same⟩
    · cases same
      simp [ends]
    · cases same
  starts := by simp
  allow := by simp [allow, List.singleton_eq_append_iff]

theorem followsRules_publishLoop (message : Option Message) (visits : List (PublishVisit Message)) :
    FollowsRules decode message visits (publishLoop decode message visits).1
      (publishLoop decode message visits).2 := by
  induction visits generalizing message with
  | nil => constructor <;> simp [publishLoop]
  | cons visit rest induction =>
    rw [publishLoop]
    cases replied : (visit.call decode message).reply with
    | skipped | failed | timedOut =>
      apply FollowsRules.goesOn
      · simp [endsChain, replied]
      · simpa [modifies, replied] using induction message
    | answered response =>
      dsimp only
      rw [← endsChain_of_answered replied]
      split
      · rename_i ends
        apply followsRules_last ends
        · simp [modifies, replied]
        · simp [denies, replied]
      · rename_i continues
        apply FollowsRules.goesOn (Bool.eq_false_iff.mpr continues)
        simpa [modifies, replied] using induction (response.modifiedMessage.or message)

/-- After every history of registrations the chain goes through the plugins in the order of
their priorities and keeps to its rules. -/
theorem publish_chain (decode : List UInt8 → Option (MessagePublishResponse Message))
    (changes : List HookManager.Change) (turns : Nat → Option Message → Turn)
    (message : Option Message) :
    let manager := changes.foldl HookManager.change .new
    let outcome := callOnMessagePublish decode manager turns message
    (publishVisits manager turns).Pairwise
        (fun first second => first.plugin.priority ≤ second.plugin.priority) ∧
      FollowsRules decode message (publishVisits manager turns) outcome.1 outcome.2 := by
  refine ⟨?_, followsRules_publishLoop message _⟩
  rw [publishVisits]
  cases registered : (changes.foldl HookManager.change .new).getHooks .onMessagePublish with
  | none => exact .nil
  | some plugins =>
    have inOrder := HookManager.sorted_changes changes .onMessagePublish plugins registered
    rw [List.pairwise_iff_getElem] at inOrder ⊢
    simpa using inOrder

/-- A decoder that knows one answer: `allow` is set, and nothing else. -/
def decodeAllowed : List UInt8 → Option (MessagePublishResponse Nat)
  | [8, 1] => some ⟨true, none, none, none⟩
  | _ => none

/-- The second plugin runs, but is not called: the answer of the first one allows the message
and does not set `continue_chain`. -/
theorem unset_continueChain_ends :
    ∃ (turns : Nat → Option Nat → Turn) (call : PublishCall Nat),
      (callOnMessagePublish decodeAllowed (twoPlugins .onMessagePublish) turns (some 0)).2 =
          [call] ∧
      call.reply = .answered ⟨true, none, none, none⟩ ∧
      (getRegisteredPluginSender (turns 1 (some 0)).runningPlugins ⟨"second", "b", 1⟩).isSome := by
  refine ⟨fun _ _ => ⟨instances .running, .completed
    (.ok ⟨some ⟨mqttMessagePublishResponseTypeUrl, [8, 1]⟩⟩)⟩, _, rfl, rfl, ?_⟩
  decide +kernel

end YedMQ.Plugin
