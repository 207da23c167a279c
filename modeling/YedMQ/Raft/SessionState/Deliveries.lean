import YedMQ.Raft.SessionState.Effects

/-! # Deliveries that are started or discarded

Before a deferred packet is handed to the connection, its delivery is started through the
log, and a packet that was never handed over is discarded through the log. Whichever of the
two commands comes first excludes the other.
-/

namespace YedMQ

/-- An inflight item as it stands in a snapshot. Older snapshots do not have the flag. -/
structure StoredInflightItem where
  packetIdentifier : UInt16
  state : InflightState
  packetKey : Option String
  lastModified : Nat
  deliveryStarted : Option Bool

def defaultDeliveryStarted : Bool :=
  true

def StoredInflightItem.deserialize (stored : StoredInflightItem) : InflightItem where
  packetIdentifier := stored.packetIdentifier
  state := stored.state
  packetKey := stored.packetKey
  lastModified := stored.lastModified
  deliveryStarted := stored.deliveryStarted.getD defaultDeliveryStarted

namespace Exchange

def isOutbound (exchange : Exchange) : Bool :=
  exchange.state == .waitPuback || exchange.state == .waitPubrec ||
    exchange.state == .waitPubcomp

def isUnderWay (packetKey : String) (exchange : Exchange) : Bool :=
  exchange.isOutbound && exchange.deliveryStarted && exchange.packetKey == some packetKey

variable {packetKey : String} {exchange : Exchange}

theorem received_eq_some {qos : UInt8} (new : received qos packetKey = some exchange) :
    exchange.deliveryStarted = true ∧ exchange.packetKey = some packetKey := by
  rw [received] at new
  split at new
  · cases new
    exact ⟨rfl, rfl⟩
  · split at new <;> cases new
    exact ⟨rfl, rfl⟩

theorem sent_eq_some {qos : UInt8} {started : Bool}
    (new : sent qos packetKey started = some exchange) :
    exchange.deliveryStarted = started ∧ exchange.packetKey = some packetKey := by
  rw [sent] at new
  split at new
  · cases new
    exact ⟨rfl, rfl⟩
  · split at new <;> cases new
    exact ⟨rfl, rfl⟩

theorem isUnsent_iff :
    exchange.isUnsent packetKey = true ↔ exchange.deliveryStarted = false ∧
      exchange.packetKey = some packetKey ∧
      (exchange.state = .waitPuback ∨ exchange.state = .waitPubrec) := by
  simp [isUnsent, and_assoc]

theorem isUnderWay_iff :
    exchange.isUnderWay packetKey = true ↔ exchange.isOutbound = true ∧
      exchange.deliveryStarted = true ∧ exchange.packetKey = some packetKey := by
  simp [isUnderWay, and_assoc]

end Exchange

namespace ExchangeUpdate

variable {update : ExchangeUpdate} {id : UInt16} {packetKey : String}
  {present : Option Exchange} {exchange : Exchange}

def isReplicated : ExchangeUpdate → Bool
  | setDeliveryStarted _ _ => false
  | _ => true

theorem present_of_act (other : update.packetId ≠ some id)
    (result : update.act id present = some exchange) : present = some exchange := by
  cases update with
  | keep => exact result
  | clean => exact (Option.filter_eq_some_iff.mp result).1
  | _ =>
    rw [act, if_neg] at result
    · exact result
    · intro here
      exact other (congrArg some here.symm)

theorem unsent_act (replicated : update.isReplicated = true)
    (result : update.act id present = some exchange)
    (unsent : exchange.isUnsent packetKey = true) :
    (∃ qos, update = send id qos packetKey false) ∨
      (∃ before, present = some before ∧ before.isUnsent packetKey = true) ∧
        update ≠ markDeliveryStarted id packetKey := by
  rcases Exchange.isUnsent_iff.mp unsent with ⟨waiting, keyed, first⟩
  have same : present = some exchange → ∃ before, present = some before ∧
      before.isUnsent packetKey = true := fun stays => ⟨exchange, stays, unsent⟩
  by_cases about : update.packetId = some id
  case neg =>
    refine .inr ⟨same (present_of_act about result), ?_⟩
    intro marks
    exact about (marks ▸ rfl)
  cases update with
  | keep | clean => cases about
  | setDeliveryStarted => cases replicated
  | receive packetId qos key =>
    cases about
    rw [act, if_pos rfl] at result
    cases new : Exchange.received qos key with
    | none =>
      rw [new] at result
      exact .inr ⟨same result, by simp⟩
    | some =>
      rw [new] at result
      cases result
      rw [(Exchange.received_eq_some new).1] at waiting
      cases waiting
  | send packetId qos =>
    cases about
    rw [act, if_pos rfl] at result
    cases present with
    | some => exact .inr ⟨same result, by simp⟩
    | none =>
      have new := Exchange.sent_eq_some result
      rw [waiting, keyed] at new
      cases new.2
      exact .inl ⟨qos, new.1 ▸ rfl⟩
  | markDeliveryStarted =>
    cases about
    rw [act, if_pos rfl] at result
    rcases Option.map_eq_some_iff.mp result with ⟨before, found, marked⟩
    rw [Exchange.markStarted] at marked
    split at marked
    · rw [← marked] at waiting
      cases waiting
    · rename_i other
      refine .inr ⟨same (marked ▸ found), ?_⟩
      intro named
      cases named
      exact other (marked ▸ keyed)
  | discardUnsent =>
    cases about
    rw [act, if_pos rfl] at result
    exact .inr ⟨same (Option.filter_eq_some_iff.mp result).1, by simp⟩
  | advance =>
    cases about
    rw [act, if_pos rfl] at result
    rcases Option.map_eq_some_iff.mp result with ⟨before, _, advanced⟩
    rw [← advanced, Exchange.advance] at first
    cases state : before.state <;> rw [state] at first <;> simp [InflightState.next] at first

/-- Only an acknowledgement ends an exchange whose delivery is under way. -/
theorem underWay_act (replicated : update.isReplicated = true)
    (underWay : exchange.isUnderWay packetKey = true)
    (spared : ∀ qos key, update ≠ receive id qos key) :
    (∃ after, update.act id (some exchange) = some after ∧ after.isUnderWay packetKey = true) ∨
    update = advance id ∧ update.act id (some exchange) = some exchange.advance ∧
      exchange.advance.state = .finish := by
  rcases Exchange.isUnderWay_iff.mp underWay with ⟨outbound, started, keyed⟩
  have stays : update.act id (some exchange) = some exchange → ∃ after,
      update.act id (some exchange) = some after ∧ after.isUnderWay packetKey = true :=
    fun same => ⟨exchange, same, underWay⟩
  cases update with
  | keep => exact .inl (stays rfl)
  | setDeliveryStarted => cases replicated
  | receive packetId qos key =>
    left
    apply stays
    rw [act, if_neg]
    intro here
    exact spared qos key (here ▸ rfl)
  | send =>
    left
    apply stays
    rw [act]
    split <;> rfl
  | markDeliveryStarted packetId key =>
    left
    rw [act]
    split
    · refine ⟨exchange.markStarted key, rfl, ?_⟩
      rw [Exchange.markStarted]
      split
      · exact Exchange.isUnderWay_iff.mpr ⟨outbound, rfl, keyed⟩
      · exact underWay
    · exact ⟨exchange, rfl, underWay⟩
  | discardUnsent =>
    left
    apply stays
    rw [act]
    split
    · simp [Exchange.isUnsent, started]
    · rfl
  | clean =>
    left
    apply stays
    rw [act]
    apply Option.filter_eq_some_iff.mpr
    refine ⟨rfl, ?_⟩
    rw [Exchange.isOutbound] at outbound
    cases state : exchange.state <;> simp_all
  | advance =>
    rw [act]
    split
    · rename_i here
      subst here
      rw [Exchange.isOutbound] at outbound
      cases state : exchange.state with
      | waitPubrec =>
        refine .inl ⟨exchange.advance, rfl, Exchange.isUnderWay_iff.mpr ?_⟩
        exact ⟨by simp [Exchange.isOutbound, Exchange.advance, state, InflightState.next],
          started, keyed⟩
      | waitPuback | waitPubcomp => exact .inr ⟨rfl, rfl, by rw [Exchange.advance, state]; rfl⟩
      | waitPubrel | finish => simp [state] at outbound
    · exact .inl ⟨exchange, rfl, underWay⟩

/-- A key that is not registered at an identifier does not come there. -/
theorem unnamed_act (unnamed : ∀ exchange ∈ present, exchange.packetKey ≠ some packetKey)
    (unregistered : ∀ qos, update ≠ receive id qos packetKey ∧
      ∀ started, update ≠ send id qos packetKey started) :
    ∀ exchange ∈ update.act id present, exchange.packetKey ≠ some packetKey := by
  intro exchange member
  by_cases about : update.packetId = some id
  case neg => exact unnamed exchange (present_of_act about member)
  cases update with
  | keep | clean => cases about
  | receive packetId qos key =>
    cases about
    rw [act, if_pos rfl] at member
    cases new : Exchange.received qos key with
    | none =>
      rw [new] at member
      exact unnamed exchange member
    | some =>
      rw [new] at member
      cases member
      rw [(Exchange.received_eq_some new).2]
      intro same
      cases same
      exact (unregistered qos).1 rfl
  | send packetId qos key started =>
    cases about
    rw [act, if_pos rfl] at member
    cases present with
    | some => exact unnamed exchange member
    | none =>
      rw [(Exchange.sent_eq_some member).2]
      intro same
      cases same
      exact (unregistered qos).2 started rfl
  | discardUnsent =>
    cases about
    rw [act, if_pos rfl] at member
    exact unnamed exchange (Option.filter_eq_some_iff.mp member).1
  | setDeliveryStarted packetId started | advance packetId =>
    cases about
    rw [act, if_pos rfl] at member
    rcases Option.map_eq_some_iff.mp member with ⟨before, found, changed⟩
    subst changed
    exact unnamed before found
  | markDeliveryStarted =>
    cases about
    rw [act, if_pos rfl] at member
    rcases Option.map_eq_some_iff.mp member with ⟨before, found, changed⟩
    rw [Exchange.markStarted] at changed
    split at changed <;> subst changed <;> exact unnamed before found

end ExchangeUpdate

namespace Raft.SessionState

open Foundation Semantics Exchange ExchangeUpdate

/-! ## The exchanges of one session along the log -/

section Session

variable (tenantId clientId : String)
variable (id : UInt16)

def slot (data : StateMachineData SessionStateStorage) : Option Exchange :=
  (data.state.getSessionState tenantId clientId).bind fun state => state.inflight.table id

def updateOf (input : Entry SessionStateRequest × Reading) : ExchangeUpdate :=
  match input.1.payload with
  | .normal request =>
    if request.target = (tenantId, clientId) then request.exchangeUpdate else .keep
  | _ => .keep

def Ends (input : Entry SessionStateRequest × Reading) : Prop :=
  ∃ request, input.1.payload = .normal request ∧ request.target = (tenantId, clientId) ∧
    request.isLifecycle = true

/-- No packet of the client is registered at the identifier of an unfinished packet for the
client. -/
def SparesOutbound (data : StateMachineData SessionStateStorage)
    (input : Entry SessionStateRequest × Reading) : Prop :=
  ∀ id qos packetKey, updateOf tenantId clientId input = .receive id qos packetKey →
    ∀ exchange ∈ slot tenantId clientId id data, exchange.isOutbound = false

def startsDelivery (packetKey : String) (data : StateMachineData SessionStateStorage) : Bool :=
  (data.state.inflightStartDelivery tenantId clientId id packetKey).2

/-- The packet was registered for a deferred delivery in the log, or was unsent before it, and
its delivery has not been started since. -/
def UnsentSince (packetKey : String) (data : StateMachineData SessionStateStorage)
    (log : List (Entry SessionStateRequest × Reading)) : Prop :=
  ∃ early late, log = early ++ late ∧
    (∀ input ∈ late, updateOf tenantId clientId input ≠ .markDeliveryStarted id packetKey) ∧
    (early = [] ∧ (∃ before, slot tenantId clientId id data = some before ∧
        before.isUnsent packetKey = true) ∨
      ∃ front input qos, early = front ++ [input] ∧
        updateOf tenantId clientId input = .send id qos packetKey false)

def UnderWay (packetKey : String) (data : StateMachineData SessionStateStorage) :
    Prop :=
  ∃ exchange, slot tenantId clientId id data = some exchange ∧ exchange.isUnderWay packetKey = true

/-- An entry removes the packet with its session, or an acknowledgement finishes it. -/
def Finishes (packetKey : String) (data : StateMachineData SessionStateStorage)
    (log : List (Entry SessionStateRequest × Reading)) : Prop :=
  ∃ front input back reached, log = front ++ input :: back ∧ run step data front = some reached ∧
    ((∃ next, step reached input = some next ∧ slot tenantId clientId id next = none ∧
        Ends tenantId clientId input) ∨
      updateOf tenantId clientId input = .advance id ∧
        ∃ last, slot tenantId clientId id reached = some last ∧
          last.isUnderWay packetKey = true ∧ last.advance.state = .finish)

end Session

variable {tenantId clientId packetKey : String} {id : UInt16}
  {data next final : StateMachineData SessionStateStorage}
  {input : Entry SessionStateRequest × Reading}
  {log : List (Entry SessionStateRequest × Reading)}

theorem isReplicated_updateOf (input : Entry SessionStateRequest × Reading) :
    (updateOf tenantId clientId input).isReplicated = true := by
  rw [updateOf]
  split
  · rename_i request _
    split
    · cases request <;> rfl
    · rfl
  · rfl

/-- An entry updates the exchange at an identifier, unless there is no session or it ends. -/
theorem slot_step (stepped : step data input = some next) (id : UInt16) :
    slot tenantId clientId id next =
        (updateOf tenantId clientId input).act id (slot tenantId clientId id data) ∨
      slot tenantId clientId id next = none ∧
        (slot tenantId clientId id data = none ∨ Ends tenantId clientId input) := by
  have changes := (StateMachineData.step_eq_some stepped).2
  rw [updateOf]
  cases payload : input.1.payload with
  | blank | membership =>
    simp only [payload] at changes
    left
    rw [slot, changes.1]
    rfl
  | normal request =>
    simp only [payload] at changes
    rcases changes.2 with ⟨_, handled⟩
    have affects := (applyRequest_describes handled).toAffects
    dsimp only
    split
    · rename_i here
      have after := affects.here
      rw [here] at after
      cases stays : request.isLifecycle with
      | false =>
        have table := congrArg (Option.map fun state => state.inflight.table) after
        rw [table_effect stays] at table
        rw [slot, slot]
        cases found : data.state.getSessionState tenantId clientId with
        | none =>
          rw [found, Option.map_none, Option.map_eq_none_iff] at table
          rw [table]
          exact .inr ⟨rfl, .inl rfl⟩
        | some =>
          rw [found] at table
          rcases Option.map_eq_some_iff.mp table with ⟨_, stored, same⟩
          rw [stored, Option.bind_some, same]
          exact .inl rfl
      | true =>
        have ends : Ends tenantId clientId input := ⟨request, payload, here, stays⟩
        rw [slot, slot, after]
        cases request with
        | createSessionState => exact .inr ⟨rfl, .inr ends⟩
        | deleteSessionState tenant client expected =>
          cases expected with
          | none => exact .inr ⟨rfl, .inr ends⟩
          | some =>
            rw [SessionStateRequest.effect]
            cases found : data.state.getSessionState tenantId clientId with
            | none => exact .inl rfl
            | some =>
              rw [Option.filter_some]
              split
              · exact .inl rfl
              · exact .inr ⟨rfl, .inr ends⟩
        | _ => cases stays
    · rename_i elsewhere
      left
      rw [slot, affects.elsewhere tenantId clientId (Ne.symm elsewhere)]
      rfl

theorem startsDelivery_iff : startsDelivery tenantId clientId id packetKey data = true ↔
    ∃ exchange, slot tenantId clientId id data = some exchange ∧
      exchange.packetKey = some packetKey := by
  rw [startsDelivery, SessionStateStorage.inflightStartDelivery, slot]
  cases data.state.getSessionState tenantId clientId with
  | none => simp
  | some state =>
    dsimp only
    rw [Inflight.markDeliveryStarted, Option.bind_some, Inflight.table]
    cases state.inflight.inner.lookup id with
    | none => simp
    | some item =>
      dsimp only
      split
      · rename_i keyed
        exact iff_of_true rfl ⟨item.exchange, rfl, keyed⟩
      · rename_i other
        apply iff_of_false Bool.false_ne_true
        rintro ⟨_, found, keyed⟩
        cases found
        exact other keyed

variable {exchange : Exchange}
variable (runs : run step data log = some final)

include runs

/-- What is unsent was registered for a deferred delivery, or was there from the start, and
its delivery has not been started since. -/
theorem unsent_since (found : slot tenantId clientId id final = some exchange)
    (unsent : exchange.isUnsent packetKey = true) :
    UnsentSince tenantId clientId id packetKey data log := by
  induction log using List.reverseRecOn generalizing final exchange with
  | nil =>
    cases runs
    exact ⟨[], [], rfl, nofun, .inl ⟨rfl, exchange, found, unsent⟩⟩
  | append_singleton log input induction =>
    rw [run_concat] at runs
    rcases Option.bind_eq_some_iff.mp runs with ⟨_, earlier, stepped⟩
    rcases slot_step stepped id with acted | ⟨gone, _⟩
    · rw [found] at acted
      rcases unsent_act (isReplicated_updateOf input) acted.symm unsent with
        ⟨qos, sent⟩ | ⟨⟨before, present, waiting⟩, other⟩
      · refine ⟨log ++ [input], [], (List.append_nil _).symm, nofun, .inr ?_⟩
        exact ⟨log, input, qos, rfl, sent⟩
      · rcases induction earlier present waiting with ⟨early, late, split, untouched, origin⟩
        refine ⟨early, late ++ [input], ?_, ?_, origin⟩
        · rw [split, List.append_assoc]
        · intro entry member
          rcases List.mem_append.mp member with old | new
          · exact untouched entry old
          · rw [List.mem_singleton.mp new]
            exact other
    · rw [found] at gone
      cases gone

/-- What is under way stays until it is acknowledged or the session ends. -/
theorem underWay_until (found : slot tenantId clientId id data = some exchange)
    (underWay : exchange.isUnderWay packetKey = true)
    (spares : EachStep step (SparesOutbound tenantId clientId) data log) :
    UnderWay tenantId clientId id packetKey final ∨
      Finishes tenantId clientId id packetKey data log := by
  induction log using List.reverseRecOn generalizing final with
  | nil =>
    cases runs
    exact .inl ⟨exchange, found, underWay⟩
  | append_singleton log input induction =>
    rw [run_concat] at runs
    rcases Option.bind_eq_some_iff.mp runs with ⟨reached, earlier, stepped⟩
    rcases induction earlier spares.before with ⟨before, present, still⟩ |
        ⟨front, ending, back, there, split, ended⟩
    · have spared : ∀ qos key, updateOf tenantId clientId input ≠ .receive id qos key := by
        intro qos key receives
        have free := spares log input (List.prefix_refl _) reached final earlier stepped
          id qos key receives before present
        rw [(isUnderWay_iff.mp still).1] at free
        cases free
      rcases slot_step stepped id with acted | ⟨gone, missing | ends⟩
      · rw [present] at acted
        rcases underWay_act (isReplicated_updateOf input) still spared with
          ⟨after, result, going⟩ | ⟨advances, _, finishes⟩
        · exact .inl ⟨after, acted.trans result, going⟩
        · exact .inr ⟨log, input, [], reached, rfl, earlier,
            .inr ⟨advances, before, present, still, finishes⟩⟩
      · rw [present] at missing
        cases missing
      · exact .inr ⟨log, input, [], reached, rfl, earlier, .inl ⟨final, stepped, gone, ends⟩⟩
    · refine .inr ⟨front, ending, back ++ [input], there, ?_, ended⟩
      rw [split, List.append_assoc, List.cons_append]

theorem unnamed_run
    (unnamed : ∀ exchange ∈ slot tenantId clientId id data, exchange.packetKey ≠ some packetKey)
    (unregistered : ∀ input ∈ log, ∀ qos,
      updateOf tenantId clientId input ≠ .receive id qos packetKey ∧
      ∀ started, updateOf tenantId clientId input ≠ .send id qos packetKey started) :
    ∀ exchange ∈ slot tenantId clientId id final, exchange.packetKey ≠ some packetKey := by
  induction log using List.reverseRecOn generalizing final with
  | nil =>
    cases runs
    exact unnamed
  | append_singleton log input induction =>
    rw [run_concat] at runs
    rcases Option.bind_eq_some_iff.mp runs with ⟨_, earlier, stepped⟩
    have before := induction earlier fun entry member =>
      unregistered entry (List.mem_append_left _ member)
    rcases slot_step stepped id with acted | ⟨gone, _⟩
    · rw [acted]
      exact unnamed_act before
        (unregistered input (List.mem_append_right _ (List.mem_singleton_self input)))
    · rw [gone]
      exact nofun

omit runs

variable {request : SessionStateRequest}

theorem updateOf_eq (payload : input.1.payload = .normal request)
    (here : request.target = (tenantId, clientId)) :
    updateOf tenantId clientId input = request.exchangeUpdate := by
  rw [updateOf, payload]
  exact if_pos here

theorem slot_step_of_stays (stepped : step data input = some next)
    (payload : input.1.payload = .normal request) (here : request.target = (tenantId, clientId))
    (stays : request.isLifecycle = false) (found : slot tenantId clientId id data = some exchange) :
    slot tenantId clientId id next = request.exchangeUpdate.act id (some exchange) := by
  rw [← updateOf_eq payload here, ← found]
  rcases slot_step stepped id with acted | ⟨_, missing | ⟨_, same, _, ends⟩⟩
  · exact acted
  · rw [found] at missing
    cases missing
  · rw [payload] at same
    cases same
    rw [stays] at ends
    cases ends

/-- Along any log, a discard removes nothing but an unsent packet for the client under its
own identifier and key; a delivery under way ends only by acknowledgements or with the
session; a delivery cannot be started after its discard; and an item of an older snapshot
counts as started. -/
theorem deliveries_exclude_discards (tenantId clientId packetKey : String) (id : UInt16)
    (data final : StateMachineData SessionStateStorage)
    (log : List (Entry SessionStateRequest × Reading)) (runs : run step data log = some final) :
    (∀ (discard : Entry SessionStateRequest × Reading) after,
      discard.1.payload = .normal (.inflightDiscardUnsent tenantId clientId id packetKey) →
      step final discard = some after →
      ∀ other exchange, slot tenantId clientId other final = some exchange →
        slot tenantId clientId other after ≠ some exchange →
        other = id ∧ exchange.packetKey = some packetKey ∧
          (exchange.state = .waitPuback ∨ exchange.state = .waitPubrec) ∧
          slot tenantId clientId other after = none ∧
          UnsentSince tenantId clientId id packetKey data log) ∧
    (∀ before (start : Entry SessionStateRequest × Reading) exchange,
      start.1.payload = .normal (.inflightStartDelivery tenantId clientId id packetKey) →
      step before start = some data → startsDelivery tenantId clientId id packetKey before →
      slot tenantId clientId id before = some exchange → exchange.isOutbound = true →
      EachStep step (SparesOutbound tenantId clientId) data log →
      UnderWay tenantId clientId id packetKey final ∨
        Finishes tenantId clientId id packetKey data log) ∧
    (∀ before (discard : Entry SessionStateRequest × Reading) exchange,
      discard.1.payload = .normal (.inflightDiscardUnsent tenantId clientId id packetKey) →
      step before discard = some data → slot tenantId clientId id before = some exchange →
      slot tenantId clientId id data = none →
      (∀ input ∈ log, ∀ qos, updateOf tenantId clientId input ≠ .receive id qos packetKey ∧
        ∀ started, updateOf tenantId clientId input ≠ .send id qos packetKey started) →
      startsDelivery tenantId clientId id packetKey final = false) ∧
    ∀ stored : StoredInflightItem, stored.deliveryStarted = none →
      stored.deserialize.deliveryStarted = true ∧
        ∀ key, stored.deserialize.exchange.isUnsent key = false := by
  refine ⟨?_, ?_, ?_, ?_⟩
  · intro discard after payload stepped other exchange found changed
    have acted := slot_step_of_stays stepped payload rfl rfl found
    rw [SessionStateRequest.exchangeUpdate, act] at acted
    split at acted
    · rename_i here
      subst here
      rw [Option.filter_some] at acted
      split at acted
      · exact (changed acted).elim
      · rename_i removed
        have unsent : exchange.isUnsent packetKey = true := by simpa using removed
        rcases isUnsent_iff.mp unsent with ⟨_, keyed, first⟩
        exact ⟨rfl, keyed, first, acted, unsent_since runs found unsent⟩
    · exact (changed acted).elim
  · intro before start exchange payload stepped starts found outbound spares
    rcases startsDelivery_iff.mp starts with ⟨_, present, keyed⟩
    rw [found] at present
    cases present
    have acted := slot_step_of_stays stepped payload rfl rfl found
    rw [SessionStateRequest.exchangeUpdate, act, if_pos rfl, Option.map_some,
      markStarted, if_pos keyed] at acted
    exact underWay_until runs acted (isUnderWay_iff.mpr ⟨outbound, rfl, keyed⟩) spares
  · intro before discard exchange _ _ _ gone unregistered
    have unnamed : ∀ exchange ∈ slot tenantId clientId id data,
        exchange.packetKey ≠ some packetKey := by
      simp [gone]
    rw [← Bool.not_eq_true, startsDelivery_iff]
    rintro ⟨exchange, found, keyed⟩
    exact unnamed_run runs unnamed unregistered exchange found keyed
  · intro stored old
    have started : stored.deserialize.deliveryStarted = true := by
      rw [StoredInflightItem.deserialize, old]
      rfl
    refine ⟨started, ?_⟩
    simp [isUnsent, InflightItem.exchange, started]

/-! ### A packet of the client that is started -/

def logged (request : SessionStateRequest) : Entry SessionStateRequest × Reading :=
  ({ logId := { leaderId := { term := 1, nodeId := 1 }, index := 1 }
     payload := .normal request }, ⟨0, fun _ => none⟩)

/-- A deferred packet for the client, whose delivery is started. -/
theorem deliveries_exclude_discards_started : ∃ before data final,
      run step initial [logged (.createSessionState "t" "c" 10 none none),
        logged (.inflightRegisterTxPacket "t" "c" 1 1 "k" true)] = some before ∧
      step before (logged (.inflightStartDelivery "t" "c" 1 "k")) = some data ∧
      run step data [logged (.inflightDiscardUnsent "t" "c" 1 "k")] = some final ∧
      (UnderWay "t" "c" 1 "k" final ∨
        Finishes "t" "c" 1 "k" data [logged (.inflightDiscardUnsent "t" "c" 1 "k")]) := by
  refine ⟨_, _, _, rfl, rfl, rfl, ?_⟩
  apply (deliveries_exclude_discards "t" "c" "k" 1 _ _ _ rfl).2.1 _
    (logged (.inflightStartDelivery "t" "c" 1 "k")) ⟨.waitPuback, some "k", false⟩ rfl rfl
  · decide
  · rfl
  · rfl
  · apply EachStep.cons
    · intro id qos key receives
      cases receives
    · intro next _
      exact eachStep_nil next

/-- A packet of the client whose delivery is started gives way to its next packet. -/
theorem started_packet_replaced : ∃ data final,
      run step initial [logged (.createSessionState "t" "c" 10 none none),
        logged (.inflightRegisterRxPacket "t" "c" 1 2 "k")] = some data ∧
      startsDelivery "t" "c" 1 "k" data = true ∧
      run step data [logged (.inflightStartDelivery "t" "c" 1 "k"),
        logged (.inflightRegisterRxPacket "t" "c" 1 2 "other")] = some final ∧
      (slot "t" "c" 1 data).map isOutbound = some false ∧
      slot "t" "c" 1 final = some ⟨.waitPubrel, some "other", true⟩ := by
  refine ⟨_, _, rfl, ?_, rfl, ?_, ?_⟩
  · decide
  · decide
  · decide

end Raft.SessionState

end YedMQ
