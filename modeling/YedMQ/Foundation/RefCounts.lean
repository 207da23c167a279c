import YedMQ.Foundation.HashMap
import Mathlib.Data.Multiset.AddSub
import Mathlib.Data.Multiset.Fold

/-! # Reference-count tables

A table of counts stands for a multiset of claims on keys: `Represents` says
that a key is listed with its number of claims and is missing when nobody claims
it. Incrementing adds a claim and decrementing takes one away, so an accounting
argument about a table becomes arithmetic of multisets.
-/

namespace YedMQ.Foundation

abbrev RefCounts (κ : Type u) := HashMap κ Nat

namespace RefCounts

variable {κ : Type u} [DecidableEq κ]
variable (key : κ)
variable (counts : RefCounts κ)

def increment : RefCounts κ :=
  counts.insert key ((counts.lookup key).getD 0 + 1)

/-- Take one reference from `key`. A key without references left is dropped
from the table and returned. -/
def decrement : RefCounts κ × Option κ :=
  match counts.lookup key with
  | none => (counts, none)
  | some count =>
    if count - 1 = 0 then
      (counts.erase key, some key)
    else
      (counts.insert key (count - 1), none)

/-! ## One decrement -/

theorem lookup_decrement_self :
    (decrement key counts).1.lookup key = (counts.lookup key).bind fun count =>
        if count - 1 = 0 then none else some (count - 1) := by
  unfold decrement
  cases present : counts.lookup key with
  | none => simp [present]
  | some count =>
    by_cases last : count - 1 = 0
    · simp [last]
    · simp [last]

theorem lookup_decrement_of_ne {key other : κ} (different : other ≠ key) (counts : RefCounts κ) :
    (decrement key counts).1.lookup other = counts.lookup other := by
  unfold decrement
  cases present : counts.lookup key with
  | none => rfl
  | some count =>
    by_cases last : count - 1 = 0
    · simp [last, Finmap.lookup_erase_ne different]
    · simp [last, Finmap.lookup_insert_of_ne _ different]

theorem decrement_snd : (decrement key counts).2 = (counts.lookup key).bind fun count =>
        if count - 1 = 0 then some key else none := by
  unfold decrement
  cases present : counts.lookup key with
  | none => rfl
  | some count =>
    by_cases last : count - 1 = 0
    · simp [last]
    · simp [last]

/-! ## Many decrements -/

def release (result : RefCounts κ × Multiset κ) :
    RefCounts κ × Multiset κ :=
  ((decrement key result.1).1, result.2 + ((decrement key result.1).2.toList : Multiset κ))

theorem release_comm (first second : κ) (result : RefCounts κ × Multiset κ) :
    release first (release second result) = release second (release first result) := by
  by_cases same : first = second
  · rw [same]
  · have different : second ≠ first := Ne.symm same
    apply Prod.ext
    · apply Finmap.ext_lookup
      intro key
      simp only [release]
      by_cases isFirst : key = first
      · subst key
        rw [lookup_decrement_self, lookup_decrement_of_ne same,
          lookup_decrement_of_ne same, lookup_decrement_self]
      · by_cases isSecond : key = second
        · subst key
          rw [lookup_decrement_of_ne different, lookup_decrement_self,
            lookup_decrement_self, lookup_decrement_of_ne different]
        · simp [lookup_decrement_of_ne isFirst, lookup_decrement_of_ne isSecond]
    · simp only [release, decrement_snd, lookup_decrement_of_ne same,
        lookup_decrement_of_ne different]
      exact add_right_comm _ _ _

instance : LeftCommutative (@release κ _) where
  left_comm := release_comm

/-- Take one reference per element of `keys`, in any order, and collect the
keys that lost their last one. -/
def decrementAll (keys : Multiset κ) (counts : RefCounts κ) :
    RefCounts κ × Multiset κ :=
  keys.foldr release (counts, 0)

@[simp] theorem decrementAll_zero : decrementAll 0 counts = (counts, 0) := rfl

theorem decrementAll_cons (keys : Multiset κ) (counts : RefCounts κ) :
    decrementAll (key ::ₘ keys) counts = release key (decrementAll keys counts) := by
  simp [decrementAll]

/-! ## The claims a table stands for -/

/-- `counts` lists exactly the keys of `claims`, each with its multiplicity. -/
def Represents (claims : Multiset κ) : Prop :=
  ∀ key, counts.lookup key =
    if claims.count key = 0 then none else some (claims.count key)

namespace Represents

variable {counts : RefCounts κ} {claims : Multiset κ}

theorem empty : Represents (∅ : RefCounts κ) 0 := by
  intro key
  simp

theorem unique {others : Multiset κ} (left : Represents counts claims)
    (right : Represents counts others) : claims = others := by
  refine Multiset.ext.mpr fun key => ?_
  have agree := (left key).symm.trans (right key)
  by_cases leftZero : claims.count key = 0 <;>
    by_cases rightZero : others.count key = 0
  · rw [leftZero, rightZero]
  · simp [leftZero, rightZero] at agree
  · simp [leftZero, rightZero] at agree
  · simpa [leftZero, rightZero] using agree

theorem sub_cons_eq_erase (claims : Multiset κ) (key : κ) (keys : Multiset κ) :
    claims - (key ::ₘ keys) = (claims - keys).erase key := by
  rw [← Multiset.singleton_add, add_comm, tsub_add_eq_tsub_tsub, Multiset.sub_singleton]

variable (represents : Represents counts claims)

include represents

theorem lookup_getD (key : κ) : (counts.lookup key).getD 0 = claims.count key := by
  rw [represents key]
  split <;> simp_all

theorem increment (key : κ) : Represents (counts.increment key) (key ::ₘ claims) := by
  intro other
  unfold RefCounts.increment
  rw [represents.lookup_getD key]
  by_cases same : other = key
  · subst other
    simp
  · rw [Finmap.lookup_insert_of_ne _ same, represents other, Multiset.count_cons_of_ne same]

theorem decrement (key : κ) : Represents (counts.decrement key).1 (claims.erase key) := by
  intro other
  by_cases same : other = key
  · subst other
    rw [lookup_decrement_self, represents key]
    by_cases unclaimed : claims.count key = 0
    · simp [unclaimed]
    · simp [unclaimed]
  · rw [lookup_decrement_of_ne same, represents other, Multiset.count_erase_of_ne same]

theorem decrement_snd_eq_some_iff (key freed : κ) :
    (counts.decrement key).2 = some freed ↔ freed = key ∧ claims.count key = 1 := by
  rw [decrement_snd, represents key]
  by_cases unclaimed : claims.count key = 0
  · simp [unclaimed]
  · by_cases single : claims.count key = 1
    · simp [single, eq_comm]
    · have more : ¬ claims.count key - 1 = 0 := by omega
      simp [unclaimed, single, more]

theorem decrementAll (keys : Multiset κ) :
    Represents (counts.decrementAll keys).1 (claims - keys) := by
  induction keys using Multiset.induction with
  | empty => simpa using represents
  | cons key keys induction =>
    rw [decrementAll_cons, sub_cons_eq_erase]
    exact induction.decrement key

theorem notMem_of_mem_freed {keys : Multiset κ} {key : κ}
    (freed : key ∈ (counts.decrementAll keys).2) : key ∉ claims - keys := by
  induction keys using Multiset.induction with
  | empty => simp at freed
  | cons head keys induction =>
    have before := represents.decrementAll keys
    rw [decrementAll_cons] at freed
    rw [sub_cons_eq_erase]
    rcases Multiset.mem_add.mp freed with earlier | last
    · exact fun claimed => induction earlier (Multiset.mem_of_mem_erase claimed)
    · have found : ((counts.decrementAll keys).1.decrement head).2 = some key := by
        simpa using last
      rcases (before.decrement_snd_eq_some_iff head key).mp found with
        ⟨same, single⟩
      subst same
      rw [← Multiset.count_eq_zero, Multiset.count_erase_self, single]

end Represents

end RefCounts

end YedMQ.Foundation
