import Mathlib.Data.List.Lattice
import Mathlib.Data.List.Pairwise
import Mathlib.Data.List.Rotate

/-! # Groups of alternatives

Each group is served by the first of its members that can be, one group after another. A
member may also fail with an error, and the error ends everything. `serve_eq_iff` tells
when each group is served nevertheless as if it were alone and no member failed.
-/

namespace YedMQ.Semantics

variable {α ε β : Type}

/-- How an attempt ends: with an error, without effect so that the next member is tried,
or done, possibly with nothing to show for it. -/
inductive Trial (ε β : Type) where
  | failed (error : ε)
  | missed
  | done (value : Option β)

def Trial.value? : Trial ε β → Option β
  | done value => value
  | _ => none

theorem Trial.value?_eq_some_iff {trial : Trial ε β} {value : β} :
    trial.value? = some value ↔ trial = .done (some value) := by
  cases trial <;> simp [value?]

def Trial.result : Trial ε β → Except ε Bool
  | failed error => .error error
  | missed => .ok false
  | done _ => .ok true

variable (attempt : α → Trial ε β)

def tryEach : List α → Trial ε β
  | [] => .missed
  | item :: rest =>
    match attempt item with
    | .missed => tryEach rest
    | other => other

def serve : List (List α) → List β × Option ε
  | [] => ([], none)
  | group :: rest =>
    match tryEach attempt group with
    | .failed error => ([], some error)
    | .missed => serve rest
    | .done value => (value.toList ++ (serve rest).1, (serve rest).2)

def firstValue (group : List α) : Option β :=
  group.findSome? fun item => (attempt item).value?

/-- A group with a member that can be served does not meet an attempt without a value
before it, nor an error, which may also be one in an earlier group. -/
def Unobstructed (groups : List (List α)) : Prop :=
  ∀ before group after, groups = before ++ group :: after →
    ((∃ error, tryEach attempt group = .failed error) →
      ∀ other ∈ group :: after, firstValue attempt other = none) ∧
    (tryEach attempt group = .done none → firstValue attempt group = none)

variable {attempt}

variable {group : List α}

variable {value : β}

theorem tryEach_eq_missed (missed : tryEach attempt group = .missed) :
    ∀ item ∈ group, attempt item = .missed := by
  induction group with
  | nil => simp
  | cons item rest induction =>
    rw [tryEach] at missed
    cases tried : attempt item with
    | failed | done => simp [tried] at missed
    | missed =>
      rw [tried] at missed
      exact List.forall_mem_cons.mpr ⟨tried, induction missed⟩

theorem tryEach_eq_iff (trial : Trial ε β) (found : trial ≠ .missed) :
    tryEach attempt group = trial ↔ ∃ ahead item rest, group = ahead ++ item :: rest ∧
      (∀ other ∈ ahead, attempt other = .missed) ∧ attempt item = trial := by
  constructor
  · intro tried
    induction group with
    | nil => exact absurd tried.symm found
    | cons first rest induction =>
      rw [tryEach] at tried
      cases here : attempt first with
      | missed =>
        rw [here] at tried
        rcases induction tried with ⟨ahead, item, later, split, missed, ends⟩
        exact ⟨first :: ahead, item, later, congrArg (first :: ·) split,
          List.forall_mem_cons.mpr ⟨here, missed⟩, ends⟩
      | failed | done =>
        rw [here] at tried
        exact ⟨[], first, rest, rfl, List.forall_mem_nil _, here.trans tried⟩
  · rintro ⟨ahead, item, rest, split, missed, ends⟩
    subst split
    induction ahead with
    | nil =>
      rw [List.nil_append, tryEach, ends]
      cases trial with
      | missed => exact absurd rfl found
      | failed | done => rfl
    | cons first ahead induction =>
      rcases List.forall_mem_cons.mp missed with ⟨here, later⟩
      rw [List.cons_append, tryEach, here]
      exact induction later

theorem firstValue_eq_none_iff :
    firstValue attempt group = none ↔ ∀ item ∈ group, (attempt item).value? = none :=
  List.findSome?_eq_none_iff

theorem firstValue_of_missed (missed : tryEach attempt group = .missed) :
    firstValue attempt group = none := by
  apply firstValue_eq_none_iff.mpr
  intro item member
  rw [tryEach_eq_missed missed item member]
  rfl

theorem firstValue_of_done (done : tryEach attempt group = .done (some value)) :
    firstValue attempt group = some value := by
  rcases (tryEach_eq_iff _ (by simp)).mp done with ⟨ahead, item, rest, split, missed, ends⟩
  apply List.findSome?_eq_some_iff.mpr
  refine ⟨ahead, item, rest, split, by rw [ends]; rfl, ?_⟩
  intro other member
  rw [missed other member]
  rfl

theorem exists_of_tryEach (found : tryEach attempt group ≠ .missed) :
    ∃ item ∈ group, attempt item = tryEach attempt group := by
  rcases (tryEach_eq_iff _ found).mp rfl with ⟨ahead, item, rest, split, _, ends⟩
  rw [split]
  exact ⟨item, List.mem_append_right ahead List.mem_cons_self, split ▸ ends⟩

theorem serve_append (first second : List (List α)) :
    serve attempt (first ++ second) =
      match (serve attempt first).2 with
      | some error => ((serve attempt first).1, some error)
      | none => ((serve attempt first).1 ++ (serve attempt second).1,
          (serve attempt second).2) := by
  induction first with
  | nil => rfl
  | cons group rest induction =>
    rw [List.cons_append, serve, serve]
    cases tried : tryEach attempt group with
    | failed => rfl
    | missed => exact induction
    | done =>
      simp only [induction]
      cases (serve attempt rest).2 with
      | none => simp
      | some => rfl

theorem serve_of_failed {before after : List (List α)} {error : ε}
    (failed : tryEach attempt group = .failed error) :
    (serve attempt (before ++ group :: after)).1 = (serve attempt before).1 := by
  have here : serve attempt (group :: after) = ([], some error) := by rw [serve, failed]
  rw [serve_append, here]
  cases (serve attempt before).2 with
  | some => rfl
  | none => exact List.append_nil _

theorem exists_of_firstValue (found : firstValue attempt group = some value) :
    ∃ item ∈ group, attempt item = .done (some value) := by
  rcases List.exists_of_findSome?_eq_some found with ⟨item, member, valued⟩
  exact ⟨item, member, Trial.value?_eq_some_iff.mp valued⟩

variable {groups : List (List α)}

/-- An error only cuts off what the groups show. -/
theorem serve_sublist (groups : List (List α)) : (serve attempt groups).1.Sublist
      (groups.filterMap fun group => (tryEach attempt group).value?) := by
  induction groups with
  | nil => exact List.Sublist.refl []
  | cons group rest induction =>
    rw [serve, List.filterMap_cons]
    cases tryEach attempt group with
    | failed => exact List.nil_sublist _
    | missed => exact induction
    | done value =>
      cases value with
      | none => exact induction
      | some value => exact induction.cons_cons value

theorem exists_of_mem_serve (served : value ∈ (serve attempt groups).1) :
    ∃ group ∈ groups, tryEach attempt group = .done (some value) := by
  rcases List.mem_filterMap.mp ((serve_sublist groups).subset served) with
    ⟨group, member, valued⟩
  exact ⟨group, member, Trial.value?_eq_some_iff.mp valued⟩

theorem serve_of_passes
    (passes : ∀ group ∈ groups, ∀ error, tryEach attempt group ≠ .failed error) :
    (serve attempt groups).1 = groups.filterMap fun group => (tryEach attempt group).value? := by
  induction groups with
  | nil => rfl
  | cons group rest induction =>
    have later := induction fun other member =>
      passes other (List.mem_cons_of_mem group member)
    rw [serve, List.filterMap_cons]
    cases tried : tryEach attempt group with
    | failed error => exact (passes group List.mem_cons_self error tried).elim
    | missed => exact later
    | done value =>
      cases value with
      | none => exact later
      | some value => exact congrArg (value :: ·) later

theorem Unobstructed.tail {rest : List (List α)}
    (unobstructed : Unobstructed attempt (group :: rest)) : Unobstructed attempt rest := by
  intro before other after split
  apply unobstructed (group :: before) other after
  rw [split, List.cons_append]

/-- Every group that has something to show is served on its own terms. -/
theorem serve_eq (unobstructed : Unobstructed attempt groups) :
    (serve attempt groups).1 = groups.filterMap (firstValue attempt) := by
  induction groups with
  | nil => rfl
  | cons group rest induction =>
    have here := unobstructed [] group rest rfl
    have later := induction unobstructed.tail
    rw [serve, List.filterMap_cons]
    cases tried : tryEach attempt group with
    | failed error =>
      have nothing := here.1 ⟨error, tried⟩
      rw [nothing group List.mem_cons_self]
      have empty : rest.filterMap (firstValue attempt) = [] := by
        apply List.filterMap_eq_nil_iff.mpr
        intro other member
        exact nothing other (List.mem_cons_of_mem group member)
      exact empty.symm
    | missed =>
      rw [firstValue_of_missed tried]
      exact later
    | done value =>
      cases value with
      | none =>
        rw [here.2 tried]
        exact later
      | some value =>
        rw [firstValue_of_done tried]
        exact congrArg (value :: ·) later

/-! ## Passing over the members that fail -/

theorem tryEach_map {γ : Type} (change : γ → α) (group : List γ) :
    tryEach attempt (group.map change) = tryEach (attempt ∘ change) group := by
  induction group with
  | nil => rfl
  | cons item rest induction =>
    rw [List.map_cons, tryEach, induction]
    rfl

theorem serve_map {γ : Type} (change : γ → α) (groups : List (List γ)) :
    serve attempt (groups.map fun group => group.map change) = serve (attempt ∘ change) groups := by
  induction groups with
  | nil => rfl
  | cons group rest induction =>
    rw [List.map_cons, serve, serve, induction, tryEach_map]

def Trial.pass : Trial ε β → Trial ε β
  | failed _ => missed
  | other => other

theorem firstValue_pass (group : List α) :
    firstValue (Trial.pass ∘ attempt) group = firstValue attempt group := by
  apply congrArg (group.findSome? ·)
  funext item
  rw [Function.comp_apply]
  cases attempt item <;> rfl

theorem tryEach_pass_ne_failed (group : List α) (error : ε) :
    tryEach (Trial.pass ∘ attempt) group ≠ .failed error := by
  induction group with
  | nil =>
    intro failed
    cases failed
  | cons item rest induction =>
    rw [tryEach, Function.comp_apply]
    cases attempt item with
    | failed | missed => exact induction
    | done =>
      intro failed
      cases failed

/-- Up to the first attempt that does not miss, nothing changes. -/
theorem tryEach_pass (passes : ∀ error, tryEach attempt group ≠ .failed error) :
    tryEach (Trial.pass ∘ attempt) group = tryEach attempt group := by
  induction group with
  | nil => rfl
  | cons item rest induction =>
    rw [tryEach] at passes
    rw [tryEach, tryEach, Function.comp_apply]
    cases tried : attempt item with
    | failed error => exact (passes error (by rw [tried])).elim
    | missed =>
      rw [tried] at passes
      exact induction passes
    | done => rfl

theorem Unobstructed.pass (unobstructed : Unobstructed attempt groups) :
    Unobstructed (Trial.pass ∘ attempt) groups := by
  intro before group after split
  have here := unobstructed before group after split
  constructor
  · rintro ⟨error, failed⟩
    exact (tryEach_pass_ne_failed group error failed).elim
  · intro done
    rw [firstValue_pass]
    by_cases fails : ∃ error, tryEach attempt group = .failed error
    · exact here.1 fails group List.mem_cons_self
    · rw [tryEach_pass fun error failed => fails ⟨error, failed⟩] at done
      exact here.2 done

/-- Failures that obstruct nothing change nothing. -/
theorem serve_pass (unobstructed : Unobstructed attempt groups) :
    (serve (Trial.pass ∘ attempt) groups).1 = (serve attempt groups).1 := by
  rw [serve_eq unobstructed, serve_eq unobstructed.pass]
  exact congrArg (groups.filterMap ·) (funext firstValue_pass)

/-! ## Values that name their member -/

section Origins

variable {κ : Type} (label : α → κ) (origin : β → κ)

def servedTo [DecidableEq κ] (values : List β) (group : List α) : List β :=
  values.filter fun value => origin value ∈ group.map label

variable {label origin}

variable {group : List α}

variable {groups : List (List α)}

/-- If every group shows a value of its own and no label stands twice, the values that come
from a group are the one it shows. -/
theorem servedTo_filterMap [DecidableEq κ] {shows : List α → Option β}
    (own : ∀ group value, shows group = some value → origin value ∈ group.map label)
    (distinct : groups.Pairwise fun left right =>
      (left.map label).Disjoint (right.map label)) (member : group ∈ groups) :
    servedTo label origin (groups.filterMap shows) group = (shows group).toList := by
  rcases List.append_of_mem member with ⟨before, after, split⟩
  subst split
  rcases List.pairwise_append.mp distinct with ⟨_, right, across⟩
  have elsewhere : ∀ others : List (List α),
      (∀ other ∈ others, (other.map label).Disjoint (group.map label)) →
        (others.filterMap shows).filter (fun value => origin value ∈ group.map label) = [] := by
    intro others disjoint
    apply List.filter_eq_nil_iff.mpr
    intro value valued
    rw [decide_eq_true_eq]
    intro named
    rcases List.mem_filterMap.mp valued with ⟨other, found, shown⟩
    exact disjoint other found (own other value shown) named
  rw [servedTo, List.filterMap_append, List.filterMap_cons, List.filter_append,
    elsewhere before fun other found => across other found group List.mem_cons_self]
  have later := elsewhere after fun other found =>
    List.Disjoint.symm ((List.pairwise_cons.mp right).1 other found)
  cases shown : shows group with
  | none => exact later
  | some value =>
    have named := own group value shown
    simp only [List.filter_cons, named, later]
    rfl

variable (names : ∀ item value, attempt item = .done (some value) → origin value = label item)

include names

theorem origin_of_firstValue {value : β}
    (found : firstValue attempt group = some value) : origin value ∈ group.map label := by
  rcases exists_of_firstValue found with ⟨item, member, done⟩
  rw [names item value done]
  exact List.mem_map_of_mem member

theorem value_named
    (group : List α) (value : β) (valued : (tryEach attempt group).value? = some value) :
    origin value ∈ group.map label :=
  origin_of_firstValue names (firstValue_of_done (Trial.value?_eq_some_iff.mp valued))

variable (distinct : groups.Pairwise fun left right => (left.map label).Disjoint (right.map label))

include distinct

theorem tryEach_of_mem_serve (member : group ∈ groups) {value : β}
    (served : value ∈ (serve attempt groups).1) (named : origin value ∈ group.map label) :
    tryEach attempt group = .done (some value) := by
  rcases exists_of_mem_serve served with ⟨other, found, done⟩
  have symmetric : Std.Symm fun left right : List α =>
      (left.map label).Disjoint (right.map label) :=
    ⟨fun _ _ disjoint => List.Disjoint.symm disjoint⟩
  have same : other = group := by
    by_contra different
    exact distinct.forall found member different
      (origin_of_firstValue names (firstValue_of_done done)) named
  rw [← same]
  exact done

/-- If no label stands twice, every group is served with what it has to show exactly if
nothing is in the way. -/
theorem servedTo_iff [DecidableEq κ] :
    (∀ group ∈ groups, servedTo label origin (serve attempt groups).1 group =
        (firstValue attempt group).toList) ↔
      Unobstructed attempt groups := by
  constructor
  · intro complete before group after split
    subst split
    constructor
    · rintro ⟨_, failed⟩ other member
      have apart : ∀ earlier ∈ before, (earlier.map label).Disjoint (other.map label) := by
        intro earlier first
        exact (List.pairwise_append.mp distinct).2.2 earlier first other member
      have served := complete other (List.mem_append_right before member)
      rw [servedTo, serve_of_failed failed, List.filter_eq_nil_iff.mpr] at served
      · exact Option.toList_eq_nil_iff.mp served.symm
      · intro value valued
        rw [decide_eq_true_eq]
        intro named
        rcases exists_of_mem_serve valued with ⟨earlier, first, done⟩
        exact apart earlier first (origin_of_firstValue names (firstValue_of_done done)) named
    · intro done
      have served := complete group (List.mem_append_right before List.mem_cons_self)
      rw [servedTo, List.filter_eq_nil_iff.mpr] at served
      · exact Option.toList_eq_nil_iff.mp served.symm
      · intro value valued
        rw [decide_eq_true_eq]
        intro named
        have found := tryEach_of_mem_serve names distinct
          (List.mem_append_right before List.mem_cons_self) valued named
        rw [done] at found
        cases found
  · intro unobstructed group member
    rw [serve_eq unobstructed]
    exact servedTo_filterMap (fun _ _ first => origin_of_firstValue names first) distinct member

/-- What a group gets if nothing fails, or else possibly nothing. -/
theorem servedTo_sublist [DecidableEq κ] (member : group ∈ groups) :
    (servedTo label origin (serve attempt groups).1 group).Sublist
      (tryEach attempt group).value?.toList := by
  rw [← servedTo_filterMap (value_named names) distinct member]
  exact (serve_sublist groups).filter _

theorem servedTo_of_passes [DecidableEq κ]
    (passes : ∀ group ∈ groups, ∀ error, tryEach attempt group ≠ .failed error)
    (member : group ∈ groups) :
    servedTo label origin (serve attempt groups).1 group =
      (tryEach attempt group).value?.toList := by
  rw [serve_of_passes passes]
  exact servedTo_filterMap (value_named names) distinct member

end Origins

/-! ## Taking turns -/

theorem filterMap_range_succ (pick : Nat → Option α) (count : Nat) :
    (List.range (count + 1)).filterMap pick =
      (pick 0).toList ++ (List.range count).filterMap fun i => pick (i + 1) := by
  rw [List.range_succ_eq_map, List.filterMap_cons, List.filterMap_map]
  cases pick 0 <;> rfl

theorem filterMap_eq_rotate (items : List α) (start : Nat) :
    ((List.range items.length).filterMap fun i => items[(start + i) % items.length]?) =
      items.rotate start := by
  have found : ∀ i ∈ List.range items.length,
      items[(start + i) % items.length]? = (items.rotate start)[i]? := by
    intro i member
    rw [List.getElem?_rotate (List.mem_range.mp member), Nat.add_comm]
  rw [List.filterMap_congr found, ← List.length_rotate items start]
  generalize items.rotate start = turned
  induction turned using List.reverseRecOn with
  | nil => rfl
  | append_singleton front last induction =>
    have before : ∀ i ∈ List.range front.length, (front ++ [last])[i]? = front[i]? := by
      intro i member
      exact List.getElem?_append_left (List.mem_range.mp member)
    rw [List.length_append, List.length_singleton, List.range_succ, List.filterMap_append,
      List.filterMap_congr before, induction]
    simp

end YedMQ.Semantics
