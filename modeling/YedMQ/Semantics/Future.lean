import Mathlib.Data.List.Basic

/-! # Asynchronous programs

A future is done, or suspended at an operation whose answer it waits for. The type of the
answer depends on the operation. `Only` speaks about all operations that a future may
perform, `Within` also about what they cost together, `Follows` about those that it has
performed, and `Always` relates what a future performs to what it returns.
-/

namespace YedMQ.Semantics

variable {Op : Type} {Answer : Op → Type} {α β : Type}

inductive Future (Answer : Op → Type) (α : Type) where
  | done (value : α)
  | await (op : Op) (resume : Answer op → Future Answer α)

namespace Future

def bind : Future Answer α → (α → Future Answer β) → Future Answer β
  | done value, next => next value
  | await op resume, next => await op fun answer => (resume answer).bind next

instance : Monad (Future Answer) where
  pure := done
  bind := bind

def perform (op : Op) : Future Answer (Answer op) :=
  await op done

def result? : Future Answer α → Option α
  | done value => some value
  | await _ _ => none

@[simp] theorem pure_eq_done (value : α) : (pure value : Future Answer α) = done value := rfl

@[simp] theorem done_bind (value : α) (next : α → Future Answer β) :
    (done value >>= next) = next value := rfl

@[simp] theorem await_bind (op : Op) (resume : Answer op → Future Answer α)
    (next : α → Future Answer β) :
    (await op resume >>= next) = await op fun answer => resume answer >>= next := rfl

@[simp] theorem perform_bind (op : Op) (next : Answer op → Future Answer β) :
    (perform op >>= next) = await op next := rfl

def forEach (items : List α) (body : α → Future Answer Unit) : Future Answer Unit :=
  match items with
  | [] => done ()
  | item :: rest => do
    body item
    forEach rest body

def collect (items : List α) (body : α → Future Answer (Option β)) :
    Future Answer (List β) :=
  match items with
  | [] => done []
  | item :: rest => do
    let result ← body item
    let results ← collect rest body
    return result.toList ++ results

/-! ## The operations of a future -/

def Only (Permitted : Op → Prop) : Future Answer α → Prop
  | done _ => True
  | await op resume => Permitted op ∧ ∀ answer, (resume answer).Only Permitted

section Only

variable {Permitted : Op → Prop}

theorem Only.perform {op : Op} {next : Answer op → Future Answer β} (permitted : Permitted op)
    (rest : ∀ answer, (next answer).Only Permitted) :
    (Future.perform op >>= next).Only Permitted :=
  ⟨permitted, rest⟩

variable {future : Future Answer α}

theorem Only.bind {next : α → Future Answer β} (first : future.Only Permitted)
    (rest : ∀ value, (next value).Only Permitted) :
    (future >>= next).Only Permitted := by
  induction future with
  | done value => exact rest value
  | await op resume induction =>
    exact ⟨first.1, fun answer => induction answer (first.2 answer)⟩

theorem Only.finish {result : α → β} (only : future.Only Permitted) :
    (future >>= fun value => done (result value)).Only Permitted :=
  only.bind fun _ => trivial

theorem Only.mono {Narrow : Op → Prop} (only : future.Only Narrow)
    (wider : ∀ op, Narrow op → Permitted op) :
    future.Only Permitted := by
  induction future with
  | done value => trivial
  | await op resume induction =>
    exact ⟨wider op only.1, fun answer => induction answer (only.2 answer)⟩

theorem only_forEach {items : List α} {body : α → Future Answer Unit}
    (each : ∀ item ∈ items, (body item).Only Permitted) :
    (forEach items body).Only Permitted := by
  induction items with
  | nil => trivial
  | cons item rest induction =>
    apply Only.bind (each item List.mem_cons_self)
    intro _
    apply induction
    intro other member
    exact each other (List.mem_cons_of_mem _ member)

theorem only_collect {items : List α} {body : α → Future Answer (Option β)}
    (each : ∀ item ∈ items, (body item).Only Permitted) :
    (collect items body).Only Permitted := by
  induction items with
  | nil => trivial
  | cons item rest induction =>
    apply Only.bind (each item List.mem_cons_self)
    intro _
    apply Only.finish
    apply induction
    intro other member
    exact each other (List.mem_cons_of_mem _ member)

end Only

/-- All operations are permitted, and together they cost no more than the budget. -/
def Within (Permitted : Op → Prop) (cost : Op → Nat) : Nat → Future Answer α → Prop
  | _, done _ => True
  | budget, await op resume => Permitted op ∧ cost op ≤ budget ∧
      ∀ answer, (resume answer).Within Permitted cost (budget - cost op)

section Within

variable {Permitted : Op → Prop} {cost : Op → Nat} {budget : Nat}

theorem Within.free {op : Op} {next : Answer op → Future Answer β} (permitted : Permitted op)
    (free : cost op = 0) (rest : ∀ answer, (next answer).Within Permitted cost budget) :
    (Future.perform op >>= next).Within Permitted cost budget := by
  refine ⟨permitted, free ▸ Nat.zero_le budget, ?_⟩
  rw [free]
  exact rest

variable {future : Future Answer α}

theorem Within.mono {more : Nat} (within : future.Within Permitted cost budget)
    (enough : budget ≤ more) :
    future.Within Permitted cost more := by
  induction future generalizing budget more with
  | done value => trivial
  | await op resume induction =>
    refine ⟨within.1, Nat.le_trans within.2.1 enough, ?_⟩
    intro answer
    exact induction answer (within.2.2 answer) (Nat.sub_le_sub_right enough _)

theorem Within.last {op : Op} {next : Answer op → Future Answer β} (permitted : Permitted op)
    (affordable : cost op ≤ budget) (rest : ∀ answer, (next answer).Within Permitted cost 0) :
    (Future.perform op >>= next).Within Permitted cost budget :=
  ⟨permitted, affordable, fun answer => (rest answer).mono (Nat.zero_le _)⟩

theorem Within.bind {next : α → Future Answer β} (first : future.Within Permitted cost budget)
    (rest : ∀ value, (next value).Within Permitted cost 0) :
    (future >>= next).Within Permitted cost budget := by
  induction future generalizing budget with
  | done value => exact (rest value).mono (Nat.zero_le budget)
  | await op resume induction =>
    exact ⟨first.1, first.2.1, fun answer => induction answer (first.2.2 answer)⟩

theorem Within.only (within : future.Within Permitted cost budget) : future.Only Permitted := by
  induction future generalizing budget with
  | done value => trivial
  | await op resume induction =>
    exact ⟨within.1, fun answer => induction answer (within.2.2 answer)⟩

end Within

/-! ## What a future has performed -/

abbrev Event (Answer : Op → Type) := Σ op : Op, Answer op

/-- A future becomes another one by performing operations. -/
inductive Follows : Future Answer α → List (Event Answer) → Future Answer α → Prop where
  | refl (future : Future Answer α) : Follows future [] future
  | step {future : Future Answer α} {events : List (Event Answer)} {op : Op}
      {resume : Answer op → Future Answer α} (answer : Answer op)
      (before : Follows future events (await op resume)) :
      Follows future (events ++ [⟨op, answer⟩]) (resume answer)

theorem Only.follows {Permitted : Op → Prop} {first final : Future Answer α}
    {events : List (Event Answer)} (only : first.Only Permitted)
    (follows : Follows first events final) :
    (∀ event ∈ events, Permitted event.1) ∧ final.Only Permitted := by
  induction follows with
  | refl =>
    refine ⟨?_, only⟩
    intro event member
    cases member
  | step answer before induction =>
    rcases induction with ⟨earlier, rest⟩
    refine ⟨?_, rest.2 answer⟩
    intro event member
    rcases List.mem_append.mp member with old | new
    · exact earlier event old
    · rw [List.mem_singleton.mp new]
      exact rest.1

theorem Within.countP_le {Permitted : Op → Prop} {cost : Op → Nat} {budget : Nat}
    {counted : Event Answer → Bool} {first final : Future Answer α} {events : List (Event Answer)}
    (counts : ∀ event, (counted event).toNat ≤ cost event.1)
    (within : first.Within Permitted cost budget) (follows : Follows first events final) :
    events.countP counted ≤ budget := by
  -- What has not been spent yet bounds the rest of the future.
  have spent : ∃ left, events.countP counted + left ≤ budget ∧
      final.Within Permitted cost left := by
    induction follows with
    | refl => exact ⟨budget, by simp, within⟩
    | @step _ op _ answer before induction =>
      rcases induction with ⟨left, bound, _, affordable, rest⟩
      refine ⟨left - cost op, ?_, rest answer⟩
      have single : (counted ⟨op, answer⟩).toNat ≤ cost op := counts ⟨op, answer⟩
      rw [List.countP_append, List.countP_singleton]
      cases found : counted ⟨op, answer⟩ with
      | false => rw [if_neg Bool.false_ne_true]; omega
      | true =>
        rw [found, Bool.toNat_true] at single
        rw [if_pos rfl]
        omega
  rcases spent with ⟨left, bound, _⟩
  omega

def Always (Relates : List (Event Answer) → α → Prop) : Future Answer α → Prop
  | done value => Relates [] value
  | await op resume => ∀ answer, (resume answer).Always fun events value =>
    Relates (⟨op, answer⟩ :: events) value

section Always

variable {Relates : List (Event Answer) → β → Prop}

theorem always_done {value : β} (related : Relates [] value) :
    (done value : Future Answer β).Always Relates := related

theorem always_of_forall (future : Future Answer β)
    (related : ∀ events value, Relates events value) : future.Always Relates := by
  induction future generalizing Relates with
  | done value => exact related [] value
  | await op resume induction =>
    intro answer
    apply induction answer
    intro events value
    exact related _ value

variable {future : Future Answer α}

theorem Always.mono {Strong Weak : List (Event Answer) → α → Prop} (always : future.Always Strong)
    (weaker : ∀ events value, Strong events value → Weak events value) :
    future.Always Weak := by
  induction future generalizing Strong Weak with
  | done value => exact weaker [] value always
  | await op resume induction =>
    intro answer
    apply induction answer (always answer)
    intro events value strong
    exact weaker _ value strong

theorem Always.bind {next : α → Future Answer β}
    (always : future.Always fun events value => (next value).Always fun more result =>
      Relates (events ++ more) result) :
    (future >>= next).Always Relates := by
  induction future generalizing Relates with
  | done value => exact always
  | await op resume induction =>
    intro answer
    exact induction answer (always answer)

theorem Always.perform {op : Op} {next : Answer op → Future Answer β}
    (always : ∀ answer, (next answer).Always fun events value =>
      Relates (⟨op, answer⟩ :: events) value) :
    (Future.perform op >>= next).Always Relates := always

/-- Each result that is kept is related to what its own part has performed. -/
theorem always_collect {Part : List (Event Answer) → β → Prop} {items : List α}
    {body : α → Future Answer (Option β)}
    (each : ∀ item ∈ items, (body item).Always fun events result =>
      ∀ value, result = some value → Part events value)
    (more : ∀ before events after value, Part events value →
      Part (before ++ events ++ after) value) :
    (collect items body).Always fun events results => ∀ value ∈ results, Part events value := by
  induction items with
  | nil =>
    intro value member
    cases member
  | cons item rest induction =>
    apply Always.bind
    apply (each item List.mem_cons_self).mono
    intro first result here
    apply Always.bind
    apply (induction fun other member => each other (List.mem_cons_of_mem _ member)).mono
    intro second results later value member
    rcases List.mem_append.mp member with own | other
    · have part := more [] first second value (here value (Option.mem_toList.mp own))
      rw [List.append_nil]
      exact part
    · have part := more first second [] value (later value other)
      rw [List.append_nil] at part
      rw [List.append_nil]
      exact part

variable {first : Future Answer β} {events : List (Event Answer)}

theorem Always.follows {final : Future Answer β} (always : first.Always Relates)
    (follows : Follows first events final) :
    final.Always fun more value => Relates (events ++ more) value := by
  induction follows with
  | refl => exact always
  | step answer before induction =>
    have rest := induction answer
    simp only [List.append_assoc]
    exact rest

/-- A future that is done has performed what is related to its result. -/
theorem Always.done {value : β} (always : first.Always Relates)
    (follows : Follows first events (.done value)) :
    Relates events value := by
  have related := always.follows follows
  rw [Always, List.append_nil] at related
  exact related

end Always

end Future

end YedMQ.Semantics
