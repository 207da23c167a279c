import YedMQ.Plugin.PluginManager

/-! # What the chains decide

A chain passes over a plugin that cannot be called or that gives no usable answer, so an
allowing result says less than the rules of the chain promise. The chains decide as their
rules say if and only if they pass over plugins only where they refuse anyway.
-/

namespace YedMQ.Plugin

open Foundation AuthenticateResponse AuthorizeResponse

/-! ## Replies -/

namespace Reply

variable {ρ : Type} (positive : ρ → Bool)

def isOmitted : Reply ρ → Bool
  | skipped => true
  | failed => true
  | timedOut _ => false
  | answered _ => false

def accepts : Reply ρ → Bool
  | skipped => false
  | failed => false
  | timedOut _ => false
  | answered response => positive response

def refuses : Reply ρ → Bool
  | skipped => false
  | failed => false
  | timedOut _ => true
  | answered response => !positive response

variable {positive}

theorem accepts_iff (reply : Reply ρ) :
    reply.accepts positive = true ↔ reply.isOmitted = false ∧ reply.refuses positive = false := by
  cases reply with
  | skipped | failed | timedOut | answered => simp [accepts, isOmitted, refuses]

theorem all_accept_iff {replies : List (Reply ρ)} :
    (∀ reply ∈ replies, reply.accepts positive = true) ↔
      (¬ ∃ reply ∈ replies, reply.isOmitted = true) ∧
        ¬ ∃ reply ∈ replies, reply.refuses positive = true := by
  constructor
  · intro accepting
    constructor
    · intro ⟨reply, member, omitted⟩
      have none := ((accepts_iff reply).mp (accepting reply member)).1
      rw [omitted] at none
      cases none
    · intro ⟨reply, member, refusing⟩
      have none := ((accepts_iff reply).mp (accepting reply member)).2
      rw [refusing] at none
      cases none
  · intro ⟨complete, willing⟩ reply member
    apply (accepts_iff reply).mpr
    constructor
    · exact Bool.eq_false_iff.mpr fun omitted => complete ⟨reply, member, omitted⟩
    · exact Bool.eq_false_iff.mpr fun refusing => willing ⟨reply, member, refusing⟩

end Reply

/-! ## Loops that a round may leave -/

section Loop

variable {σ α ε : Type} {round : σ → α → Except ε σ} {Kept : List α → σ → Prop} {Left : ε → Prop}

/-- What every round keeps, holds at the end of a loop that no round has left. -/
theorem foldlM_cases {items : List α} {start : σ} (begins : Kept [] start)
    (goes : ∀ seen item rest state, items = seen ++ item :: rest → Kept seen state →
      (∃ next, round state item = .ok next ∧ Kept (seen ++ [item]) next) ∨
        ∃ out, round state item = .error out ∧ Left out) :
    (∃ final, items.foldlM round start = .ok final ∧ Kept items final) ∨
      ∃ out, items.foldlM round start = .error out ∧ Left out := by
  have onward : ∀ rest seen state, items = seen ++ rest → Kept seen state →
      (∃ final, rest.foldlM round state = .ok final ∧ Kept items final) ∨
        ∃ out, rest.foldlM round state = .error out ∧ Left out := by
    intro rest
    induction rest with
    | nil =>
      intro seen state all kept
      rw [all, List.append_nil]
      exact .inl ⟨state, rfl, kept⟩
    | cons item rest induction =>
      intro seen state all kept
      rw [List.foldlM_cons]
      rcases goes seen item rest state all kept with ⟨next, stays, keeps⟩ | ⟨out, leaves, left⟩
      · rw [stays]
        exact induction (seen ++ [item]) next (by simpa using all) keeps
      · rw [leaves]
        exact .inr ⟨out, rfl, left⟩
  exact onward items [] start rfl begins

end Loop

/-! ## Two plugins -/

def twoPlugins (hook : Hook) : HookManager where
  hooks := Finmap.singleton hook [⟨"first", "a", 0⟩, ⟨"second", "b", 1⟩]

def instances (state : PluginState) : HashMap String RunningPlugin :=
  (Finmap.singleton "first" ⟨"first", state, some ⟨0⟩, "a"⟩).insert "second"
    ⟨"second", state, some ⟨1⟩, "b"⟩

def denyingConfig : PluginHostConfig where
  defaultAuthorizeResult := false
  defaultAuthenticateResult := false

/-! ## Authorization -/

section Authorize

variable (decode : List UInt8 → Option AuthorizeResponse)

def authorizations (plugins : List RegisteredHook) (turns : Nat → Turn) :
    List (Reply AuthorizeResponse) :=
  (visits plugins turns).map (Visit.call authorizeResponseTypeUrl decode)

variable {decode}

theorem authorizeRound_cases {visit : Visit} {reply : Reply AuthorizeResponse}
    (called : visit.call authorizeResponseTypeUrl decode = reply) (finalResult : AuthorizeResult) :
    (authorizeRound decode finalResult visit = .ok finalResult ∧ reply.refuses authorized = false) ∨
      ∃ result, authorizeRound decode finalResult visit = .error result ∧
        result.authorized = false ∧ reply.refuses authorized = true := by
  rw [authorizeRound, called]
  cases reply with
  | skipped | failed => exact .inl ⟨rfl, rfl⟩
  | timedOut => exact .inr ⟨_, rfl, rfl, rfl⟩
  | answered response => cases positive : response.authorized <;> simp [Reply.refuses, positive]

theorem authorized_iff {config : PluginHostConfig} {hookManager : HookManager}
    {turns : Nat → Turn} {plugins : List RegisteredHook}
    (registered : hookManager.getHooks .authorize = some plugins) :
    (callAuthorizeHook decode config hookManager turns).authorized = true ↔
      ¬ ∃ reply ∈ authorizations decode plugins turns, reply.refuses authorized = true := by
  rw [callAuthorizeHook, registered]
  simp only [authorizations, List.mem_map, exists_exists_and_eq_and]
  let refuses (visit : Visit) := (visit.call authorizeResponseTypeUrl decode).refuses authorized
  have loop := @foldlM_cases _ _ _ (authorizeRound decode)
    (fun seen result => result.authorized = true ∧ ∀ visit ∈ seen, refuses visit = false)
    (fun result => result.authorized = false ∧ ∃ visit ∈ visits plugins turns, refuses visit = true)
    (visits plugins turns) { authorized := true, reason := none, modifiedContext := ∅ }
  apply Or.elim (loop ⟨rfl, by simp⟩ _)
  · intro ⟨_, ends, allowed, passes⟩
    simp only [ends, allowed, true_iff]
    intro ⟨visit, member, refusing⟩
    exact Bool.false_ne_true ((passes visit member).symm.trans refusing)
  · intro ⟨_, leaves, denied, refused⟩
    simp only [leaves, denied]
    simpa using refused
  · intro seen visit rest result all ⟨allowed, passes⟩
    rcases authorizeRound_cases rfl result with ⟨goesOn, willing⟩ | ⟨out, leaves, denied, refusing⟩
    · refine .inl ⟨result, goesOn, allowed, ?_⟩
      exact List.forall_mem_append.mpr ⟨passes, by simpa [refuses] using willing⟩
    · exact .inr ⟨out, leaves, denied, visit, by simp [all], refusing⟩

/-- An allowing result means that there is no chain and the default allows, or that every
plugin of the chain was called and allows. -/
def FailsClosed (decode : List UInt8 → Option AuthorizeResponse) (config : PluginHostConfig)
    (hookManager : HookManager) (turns : Nat → Turn) : Prop :=
  (callAuthorizeHook decode config hookManager turns).authorized = true →
    hookManager.getHooks .authorize = none ∧ config.defaultAuthorizeResult = true ∨
    ∃ plugins, hookManager.getHooks .authorize = some plugins ∧
      ∀ reply ∈ authorizations decode plugins turns, reply.accepts authorized = true

/-- The chain fails closed if and only if a plugin is passed over only where another one
refuses. -/
theorem failsClosed_iff (decode : List UInt8 → Option AuthorizeResponse)
    (config : PluginHostConfig) (hookManager : HookManager) (turns : Nat → Turn) :
    FailsClosed decode config hookManager turns ↔
      ∀ plugins, hookManager.getHooks .authorize = some plugins →
        (∃ reply ∈ authorizations decode plugins turns, reply.isOmitted = true) →
          ∃ reply ∈ authorizations decode plugins turns, reply.refuses authorized = true := by
  rw [FailsClosed]
  cases registered : hookManager.getHooks .authorize with
  | none =>
    apply iff_of_true
    · intro allowed
      rw [callAuthorizeHook, registered] at allowed
      exact .inl ⟨rfl, allowed⟩
    · intro plugins none
      cases none
  | some =>
    rw [authorized_iff registered]
    simp only [reduceCtorEq, false_and, false_or, Option.some.injEq, exists_eq_left',
      forall_eq', Reply.all_accept_iff]
    constructor
    · intro closed omitted
      by_contra willing
      exact (closed willing).1 omitted
    · intro covered willing
      exact ⟨fun omitted => willing (covered omitted), willing⟩

end Authorize

/-- A request is authorized though no plugin of the chain was called, and though both were
called and their channels were closed. -/
theorem unanswered_request_authorized :
    ((callAuthorizeHook (fun _ => none) denyingConfig (twoPlugins .authorize) fun _ =>
        ⟨instances .stopped, .silent⟩).authorized = true ∧
      authorizations (fun _ => none) [⟨"first", "a", 0⟩, ⟨"second", "b", 1⟩] (fun _ =>
        ⟨instances .stopped, .silent⟩) = [.skipped, .skipped]) ∧
    (callAuthorizeHook (fun _ => none) denyingConfig (twoPlugins .authorize) fun _ =>
        ⟨instances .running, .refused⟩).authorized = true ∧
      authorizations (fun _ => none) [⟨"first", "a", 0⟩, ⟨"second", "b", 1⟩] (fun _ =>
        ⟨instances .running, .refused⟩) = [.failed, .failed] :=
  ⟨⟨rfl, rfl⟩, rfl, rfl⟩

/-! ## Authentication -/

section Authenticate

variable (decode : List UInt8 → Option AuthenticateResponse)

def authentications (plugins : List RegisteredHook) (turns : Nat → Turn) :
    List (Reply AuthenticateResponse) :=
  (visits plugins turns).map (Visit.call authenticateResponseTypeUrl decode)

def Reply.tenant : Reply AuthenticateResponse → Option (Option String)
  | answered response => if response.authenticated then some response.tenantId else none
  | _ => none

def tenants (replies : List (Reply AuthenticateResponse)) : List (Option String) :=
  replies.filterMap Reply.tenant

namespace AuthenticateProgress

def agreed (progress : AuthenticateProgress) : List (Option String) :=
  if progress.isFirstCalled then [] else [progress.finalResult.tenantId]

/-- The variables of the loop fit together. -/
structure Consistent (progress : AuthenticateProgress) : Prop where
  authenticated : progress.finalResult.authenticated = !progress.isFirstCalled
  called : progress.isFirstCalled = false → progress.calledAnyPlugin = true

end AuthenticateProgress

variable {decode} {reply : Reply AuthenticateResponse}

theorem authenticateRound_cases {progress : AuthenticateProgress}
    (consistent : progress.Consistent) {visit : Visit}
    (called : visit.call authenticateResponseTypeUrl decode = reply) :
    (∃ next, authenticateRound decode progress visit = .ok next ∧ next.Consistent ∧
        reply.refuses authenticated = false ∧
        ∀ tenant, tenant ∈ next.agreed ↔ tenant ∈ progress.agreed ∨ reply.tenant = some tenant) ∨
      ∃ result, authenticateRound decode progress visit = .error result ∧
        result.authenticated = false ∧
        (reply.refuses authenticated = true ∨ ∃ tenant, reply.tenant = some tenant ∧
            ∃ other ∈ progress.agreed, tenant ≠ other) := by
  rw [authenticateRound, called]
  cases reply with
  | skipped => exact .inl ⟨progress, rfl, consistent, rfl, by simp [Reply.tenant]⟩
  | failed =>
    refine .inl ⟨{ progress with calledAnyPlugin := true }, rfl, ?_, rfl, ?_⟩
    · exact ⟨consistent.authenticated, fun _ => rfl⟩
    · simp [Reply.tenant, AuthenticateProgress.agreed]
  | timedOut => exact .inr ⟨_, rfl, rfl, .inl rfl⟩
  | answered response =>
    cases positive : response.authenticated with
    | false =>
      simp only [positive]
      exact .inr ⟨_, rfl, rfl, .inl (by simp [Reply.refuses, positive])⟩
    | true =>
      simp only [positive, if_true, Reply.tenant]
      split
      · rename_i differs
        refine .inr ⟨_, rfl, rfl, .inr ⟨_, rfl, progress.finalResult.tenantId, ?_, differs.2⟩⟩
        have later : progress.isFirstCalled = false := by simpa using differs.1
        simp [AuthenticateProgress.agreed, later]
      · rename_i agrees
        refine .inl ⟨_, rfl, ⟨rfl, fun _ => rfl⟩, by simp [Reply.refuses, positive], ?_⟩
        simp only [AuthenticateProgress.agreed]
        cases first : progress.isFirstCalled with
        | true => simp [eq_comm]
        | false =>
          have same : response.tenantId = progress.finalResult.tenantId := by
            simpa [first] using agrees
          simp [same]

/-- The chain authenticates if no plugin refuses and the plugins that name a tenant, at least
one, name the same. It is then the tenant of the result. -/
theorem authenticate_decides {config : PluginHostConfig} {hookManager : HookManager}
    {turns : Nat → Turn} {plugins : List RegisteredHook}
    (registered : hookManager.getHooks .authenticate = some plugins)
    {replies : List (Reply AuthenticateResponse)}
    (replied : authentications decode plugins turns = replies) {result : AuthenticateResult}
    (returned : callAuthenticateHook decode config hookManager turns = result) :
    (result.authenticated = true ∧ (¬ ∃ reply ∈ replies, reply.refuses authenticated = true) ∧
        tenants replies ≠ [] ∧ ∀ tenant ∈ tenants replies, tenant = result.tenantId) ∨
      result.authenticated = false ∧ ((∃ reply ∈ replies, reply.refuses authenticated = true) ∨
          tenants replies = [] ∨
          ∃ tenant ∈ tenants replies, ∃ other ∈ tenants replies, tenant ≠ other) := by
  rw [callAuthenticateHook, registered] at returned
  rw [← replied]
  let call := Visit.call authenticateResponseTypeUrl decode
  have loop := @foldlM_cases _ _ _ (authenticateRound decode)
    (fun seen progress => progress.Consistent ∧
      (∀ visit ∈ seen, (call visit).refuses authenticated = false) ∧
      ∀ tenant, tenant ∈ progress.agreed ↔ tenant ∈ tenants (seen.map call))
    (fun result => result.authenticated = false ∧
      ((∃ reply ∈ (visits plugins turns).map call, reply.refuses authenticated = true) ∨
        ∃ tenant ∈ tenants ((visits plugins turns).map call),
          ∃ other ∈ tenants ((visits plugins turns).map call), tenant ≠ other))
    (visits plugins turns) .start
  apply Or.elim (loop ⟨⟨rfl, fun later => nomatch later⟩, by simp, fun _ => Iff.rfl⟩ _)
  · intro ⟨final, ends, fits, passes, given⟩
    simp only [ends] at returned
    cases first : final.isFirstCalled with
    | true =>
      right
      have negative := fits.authenticated
      rw [first] at negative
      constructor
      · rw [← returned]
        split
        · exact negative
        · rfl
      · right
        left
        apply List.eq_nil_iff_forall_not_mem.mpr
        intro tenant member
        have absent := (given tenant).mpr member
        simp [AuthenticateProgress.agreed, first] at absent
    | false =>
      left
      have positive := fits.authenticated
      rw [first] at positive
      rw [fits.called first] at returned
      have single : final.agreed = [result.tenantId] := by
        rw [AuthenticateProgress.agreed, first, ← returned]
        rfl
      refine ⟨returned ▸ positive, ?_, ?_, ?_⟩
      · simpa [authentications] using passes
      · apply List.ne_nil_of_mem
        apply (given result.tenantId).mp
        rw [single]
        exact List.mem_singleton_self _
      · intro tenant member
        have agreed := (given tenant).mpr member
        rw [single] at agreed
        exact List.mem_singleton.mp agreed
  · intro ⟨_, leaves, denied, cause⟩
    simp only [leaves] at returned
    subst returned
    refine .inr ⟨denied, ?_⟩
    rcases cause with refuses | differ
    · exact .inl refuses
    · exact .inr (.inr differ)
  · intro seen visit rest progress all ⟨consistent, passes, given⟩
    rcases authenticateRound_cases consistent rfl with
      ⟨next, goesOn, fits, willing, agreed⟩ | ⟨out, leaves, denied, cause⟩
    · refine .inl ⟨next, goesOn, fits, ?_, ?_⟩
      · exact List.forall_mem_append.mpr ⟨passes, by simpa [call] using willing⟩
      · intro tenant
        rw [agreed, given]
        simp [tenants, call]
    · refine .inr ⟨out, leaves, denied, ?_⟩
      rcases cause with refusing | ⟨tenant, named, other, earlier, differ⟩
      · exact .inl ⟨_, by simp [all, call], refusing⟩
      · rw [given] at earlier
        refine .inr ⟨tenant, ?_, other, ?_, differ⟩
        · exact List.mem_filterMap.mpr ⟨call visit, by simp [all], named⟩
        · rw [all, List.map_append, tenants, List.filterMap_append]
          exact List.mem_append_left _ earlier

/-- An authenticating result means that there is no chain and the default authenticates, or
that the chain has plugins, every one of them was called and authenticates, and all name the
tenant that is returned. -/
def Unanimous (decode : List UInt8 → Option AuthenticateResponse) (config : PluginHostConfig)
    (hookManager : HookManager) (turns : Nat → Turn) : Prop :=
  (callAuthenticateHook decode config hookManager turns).authenticated = true →
    hookManager.getHooks .authenticate = none ∧ config.defaultAuthenticateResult = true ∨
    ∃ plugins, hookManager.getHooks .authenticate = some plugins ∧ plugins ≠ [] ∧
      ∀ reply ∈ authentications decode plugins turns, ∃ response,
        reply = .answered response ∧ response.authenticated = true ∧ response.tenantId =
            (callAuthenticateHook decode config hookManager turns).tenantId

theorem Reply.exists_answered (accepting : reply.accepts authenticated = true) :
    ∃ response, reply = .answered response ∧ response.authenticated = true ∧
      reply.tenant = some response.tenantId := by
  cases reply with
  | skipped | failed | timedOut => cases accepting
  | answered response => exact ⟨response, rfl, accepting, if_pos accepting⟩

/-- The chain decides unanimously if and only if a plugin is passed over only where another
one refuses, no plugin authenticates, or two plugins name different tenants. -/
theorem unanimous_iff (decode : List UInt8 → Option AuthenticateResponse)
    (config : PluginHostConfig) (hookManager : HookManager) (turns : Nat → Turn) :
    Unanimous decode config hookManager turns ↔
      ∀ plugins replies, hookManager.getHooks .authenticate = some plugins →
        authentications decode plugins turns = replies →
        (∃ reply ∈ replies, reply.isOmitted = true) →
          (∃ reply ∈ replies, reply.refuses authenticated = true) ∨
          tenants replies = [] ∨
          ∃ tenant ∈ tenants replies, ∃ other ∈ tenants replies, tenant ≠ other := by
  constructor
  · intro unanimous plugins replies registered replied ⟨reply, member, omitted⟩
    rcases authenticate_decides registered replied rfl with
      ⟨authenticated, _⟩ | ⟨_, cause⟩
    · rcases unanimous authenticated with ⟨absent, _⟩ | ⟨_, same, _, answers⟩
      · rw [registered] at absent
        cases absent
      · rw [registered] at same
        cases same
        rw [replied] at answers
        rcases answers reply member with ⟨response, answered, _⟩
        rw [answered] at omitted
        cases omitted
    · exact cause
  · intro covered authenticated
    cases registered : hookManager.getHooks .authenticate with
    | none =>
      rw [callAuthenticateHook, registered] at authenticated
      exact .inl ⟨rfl, authenticated⟩
    | some plugins =>
      right
      rcases authenticate_decides registered rfl rfl with
        ⟨_, willing, named, agree⟩ | ⟨denied, _⟩
      · have complete : ¬ ∃ reply ∈ authentications decode plugins turns,
            reply.isOmitted = true := by
          intro omitted
          rcases covered plugins _ registered rfl omitted with refuses | none |
            ⟨tenant, given, other, also, differ⟩
          · exact willing refuses
          · exact named none
          · exact differ ((agree tenant given).trans (agree other also).symm)
        refine ⟨plugins, rfl, ?_, ?_⟩
        · intro none
          subst none
          exact named rfl
        · intro reply member
          rcases Reply.exists_answered (Reply.all_accept_iff.mpr ⟨complete, willing⟩ reply
            member) with ⟨response, answered, positive, tenant⟩
          refine ⟨response, answered, positive, ?_⟩
          exact agree _ (List.mem_filterMap.mpr ⟨reply, member, tenant⟩)
      · rw [denied] at authenticated
        cases authenticated

end Authenticate

/-- A decoder that knows one answer: `authenticated` is set, and the tenant is `t`. -/
def decodeAuthenticated : List UInt8 → Option AuthenticateResponse
  | [8, 1, 42, 1, 116] => some ⟨true, none, some "t"⟩
  | _ => none

def answersFirst : Nat → Turn
  | 0 => ⟨instances .running,
      .completed (.ok ⟨some ⟨authenticateResponseTypeUrl, [8, 1, 42, 1, 116]⟩⟩)⟩
  | _ => ⟨instances .running, .refused⟩

/-- A client is authenticated though the second plugin of the chain gave no answer. -/
theorem unanswered_client_authenticated :
    callAuthenticateHook decodeAuthenticated denyingConfig (twoPlugins .authenticate)
        answersFirst = ⟨true, none, some "t"⟩ ∧
      authentications decodeAuthenticated [⟨"first", "a", 0⟩, ⟨"second", "b", 1⟩] answersFirst =
        [.answered ⟨true, none, some "t"⟩, .failed] :=
  ⟨rfl, rfl⟩

end YedMQ.Plugin
