import YedMQ.Foundation.StableSort
import YedMQ.Plugin.PluginManager

/-! # The hooks after any sequence of calls

A plugin announces all its hooks at once, whenever one of its instances starts, and an instance
that stops takes its hooks away. After any such calls the hook manager lists the registrations
that still stand, sorted by priority.
-/

namespace YedMQ.Plugin

open Foundation

/-! ## What stands -/

inductive HookCall where
  | replacePluginHooks (pluginName instanceId : String) (hooks : List (Hook × UInt32))
  | removePluginInstance (instanceId : String)

namespace HookCall

def registrations (hook : Hook) : HookCall → List RegisteredHook
  | replacePluginHooks pluginName instanceId hooks =>
    (hooks.filter (·.1 = hook)).map fun entry => ⟨pluginName, instanceId, entry.2⟩
  | removePluginInstance _ => []

/-- What was registered before is given up when its plugin announces its hooks anew, or when its
instance is removed. -/
def leaves (registered : RegisteredHook) : HookCall → Bool
  | replacePluginHooks pluginName _ _ => registered.pluginName ≠ pluginName
  | removePluginInstance instanceId => registered.instanceId ≠ instanceId

end HookCall

/-- The registrations for a hook that every later call leaves, in the order of their calls. -/
def standing : List HookCall → Hook → List RegisteredHook
  | [], _ => []
  | call :: later, hook =>
    (call.registrations hook).filter (fun made => later.all (·.leaves made)) ++ standing later hook

variable {hook : Hook} {calls : List HookCall} {registered : RegisteredHook}

theorem standing_concat (calls : List HookCall) (call : HookCall) (hook : Hook) :
    standing (calls ++ [call]) hook =
      (standing calls hook).filter (call.leaves ·) ++ call.registrations hook := by
  induction calls with
  | nil => simp [standing]
  | cons first later induction =>
    simp [standing, induction, List.filter_filter, Bool.and_comm]

theorem registered_of_standing (stands : registered ∈ standing calls hook) :
    ∃ call ∈ calls, registered ∈ call.registrations hook := by
  induction calls with
  | nil => cases stands
  | cons call later induction =>
    rw [standing, List.mem_append, List.mem_filter] at stands
    grind

/-- A call gives up what was registered under the name of its plugin. -/
theorem instanceId_of_standing {one other : RegisteredHook} {first second : Hook}
    (same : one.pluginName = other.pluginName) (stands : one ∈ standing calls first)
    (otherStands : other ∈ standing calls second) : one.instanceId = other.instanceId := by
  induction calls with
  | nil => cases stands
  | cons call later induction =>
    have withdrawn : ∀ {made again hook}, again ∈ standing later hook →
        made.pluginName = again.pluginName → later.all (·.leaves made) = false := by
      intro made again hook stands same
      rcases registered_of_standing stands with ⟨call, member, registered⟩
      apply List.all_eq_false.mpr ⟨call, member, _⟩
      cases call <;> grind [HookCall.registrations, HookCall.leaves]
    rw [standing, List.mem_append, List.mem_filter] at stands otherStands
    cases call <;> grind [HookCall.registrations]

namespace HookManager

/-! ## What is listed -/

def call (manager : HookManager) : HookCall → HookManager
  | .replacePluginHooks pluginName instanceId hooks =>
    manager.replacePluginHooks pluginName instanceId hooks
  | .removePluginInstance instanceId => manager.removePluginInstance instanceId

def listed (manager : HookManager) (hook : Hook) : List RegisteredHook :=
  (manager.getHooks hook).getD []

/-- The manager lists exactly these registrations, sorted by priority and by age within a
priority, and has no empty list. -/
def Lists (manager : HookManager) (source : Hook → List RegisteredHook) : Prop :=
  ∀ hook, manager.getHooks hook ≠ some [] ∧
    StablySorted RegisteredHook.priority (source hook) (manager.listed hook)

variable {manager : HookManager} {source : Hook → List RegisteredHook}

theorem lists_new : new.Lists fun _ => [] :=
  fun _ => ⟨nofun, .nil, fun _ => rfl⟩

theorem Lists.retainHooks (lists : manager.Lists source) (keep : RegisteredHook → Bool) :
    (manager.retainHooks keep).Lists fun hook => (source hook).filter keep := by
  intro hook
  have kept := (lists hook).2.filter keep
  simp only [listed, getHooks, HookManager.retainHooks, HashMap.lookup_retain,
    HashMap.lookup_mapValues] at kept ⊢
  cases found : manager.hooks.lookup hook with
  | none => simpa [found] using kept
  | some hooks =>
    cases remaining : hooks.filter keep <;> simpa [found, remaining, Option.filter] using kept

theorem Lists.registerHook (lists : manager.Lists source) (registered : Hook)
    (pluginName instanceId : String) (priority : UInt32) :
    (manager.registerHook registered pluginName instanceId priority).Lists fun hook =>
      source hook ++ if registered = hook then [⟨pluginName, instanceId, priority⟩] else [] := by
  intro hook
  have before := lists hook
  unfold listed getHooks HookManager.registerHook at *
  by_cases same : registered = hook
  · subst same
    have sorted := before.2.concat ⟨pluginName, instanceId, priority⟩
    cases found : manager.hooks.lookup registered <;>
      simpa [found, ← List.length_eq_zero_iff] using sorted
  · split <;> simpa [same, Finmap.lookup_insert_of_ne _ (Ne.symm same)] using before

theorem Lists.registerHooks (lists : manager.Lists source) (pluginName instanceId : String)
    (hooks : List (Hook × UInt32)) :
    (hooks.foldl (fun manager entry =>
        manager.registerHook entry.1 pluginName instanceId entry.2) manager).Lists fun hook =>
      source hook ++
        (HookCall.replacePluginHooks pluginName instanceId hooks).registrations hook := by
  induction hooks generalizing manager source with
  | nil => simpa [HookCall.registrations] using lists
  | cons entry rest induction =>
    have reached := induction (lists.registerHook entry.1 pluginName instanceId entry.2)
    intro hook
    by_cases same : entry.1 = hook <;> simpa [HookCall.registrations, same] using reached hook

theorem Lists.call (lists : manager.Lists source) (call : HookCall) :
    (manager.call call).Lists fun hook =>
      (source hook).filter (call.leaves ·) ++ call.registrations hook := by
  cases call with
  | replacePluginHooks => exact (lists.retainHooks _).registerHooks _ _ _
  | removePluginInstance =>
    simp only [HookCall.registrations, List.append_nil]
    exact lists.retainHooks _

theorem lists_standing (calls : List HookCall) :
    (calls.foldl call new).Lists (standing calls) := by
  induction calls using List.reverseRecOn with
  | nil => exact lists_new
  | append_singleton calls call lists =>
    rw [List.foldl_concat, funext (standing_concat calls call)]
    exact lists.call call

/-- What the hook manager owes to the calls made so far. -/
structure Follows (manager : HookManager) (calls : List HookCall) : Prop where
  /-- Each list has the standing registrations, by priority and then by age. -/
  sorted : ∀ hook, StablySorted RegisteredHook.priority (standing calls hook) (manager.listed hook)
  oneInstance : ∀ first second, ∀ one ∈ manager.listed first, ∀ other ∈ manager.listed second,
    one.pluginName = other.pluginName → one.instanceId = other.instanceId
  absent : ∀ hook, manager.getHooks hook = none ↔ standing calls hook = []

theorem follows_calls (calls : List HookCall) : (calls.foldl call new).Follows calls := by
  have lists := lists_standing calls
  constructor
  · exact fun hook => (lists hook).2
  · intro first second one oneListed other otherListed same
    apply instanceId_of_standing same
    · exact (lists first).2.perm.mem_iff.mp oneListed
    · exact (lists second).2.perm.mem_iff.mp otherListed
  · intro hook
    have perm := (lists hook).2.perm
    constructor
    · intro absent
      rw [listed, absent] at perm
      exact perm.symm.eq_nil
    · intro nothing
      rw [nothing, listed] at perm
      have nonempty := (lists hook).1
      cases found : (calls.foldl call new).getHooks hook with
      | none => rfl
      | some => simp_all

end HookManager

end YedMQ.Plugin
