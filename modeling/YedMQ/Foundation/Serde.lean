import Mathlib.Data.Countable.Basic
import Mathlib.Data.FinEnum
import Mathlib.Data.Finset.Sort
import Mathlib.Data.String.Basic
import Mathlib.Logic.Equiv.Multiset
import Mathlib.Tactic.DeriveCountable
import YedMQ.Foundation.HashMap

/-! # Iterated maps and serialised values

What is assumed of the order in which a hash map is iterated, and of a format in which
values are written to bytes and read back. A map may be iterated by its sorted keys, and
every type with countably many values has a format.
-/

namespace YedMQ.Foundation

/-! ## Iteration -/

/-- An order in which hash maps are iterated. -/
structure Iteration (κ : Type u) (ν : Type v) [DecidableEq κ] where
  order : HashMap κ ν → List (κ × ν)
  nodup : ∀ map, (order map).Nodup
  mem : ∀ map key value, (key, value) ∈ order map ↔ map.lookup key = some value

namespace Iteration

def entryAt {κ : Type u} {ν : Type v} [DecidableEq κ] (map : HashMap κ ν) (key : κ) :
    Option (κ × ν) :=
  (map.lookup key).map (key, ·)

theorem entryAt_eq_some {κ : Type u} {ν : Type v} [DecidableEq κ] {map : HashMap κ ν} {key : κ}
    {entry : κ × ν} :
    entryAt map key = some entry ↔ map.lookup key = some entry.2 ∧ key = entry.1 := by
  simp [entryAt, Prod.ext_iff, and_comm, eq_comm]

def sorted (κ : Type u) (ν : Type v) [DecidableEq κ] [LinearOrder κ] : Iteration κ ν where
  order := fun map => (map.keys.sort (· ≤ ·)).filterMap (entryAt map)
  nodup := by
    intro map
    apply List.Nodup.filterMap
    · intro one other entry first second
      exact (entryAt_eq_some.mp first).2.trans (entryAt_eq_some.mp second).2.symm
    · exact Finset.sort_nodup _ _
  mem := by
    intro map key value
    simp only [List.mem_filterMap, entryAt_eq_some, Finset.mem_sort, Finmap.mem_keys]
    constructor
    · rintro ⟨_, _, found, same⟩
      rw [← found, same]
    · intro found
      exact ⟨key, Finmap.mem_of_lookup_eq_some found, found, rfl⟩

end Iteration

/-! ## Formats -/

/-- A format that a value is written in and read back from. -/
structure Serde (α : Type u) where
  toVec : α → List UInt8
  fromSlice : List UInt8 → Option α
  fromSlice_toVec : ∀ value, fromSlice (toVec value) = some value

noncomputable def Serde.ofCountable (α : Type u) [Countable α] : Serde α :=
  let _ := Encodable.ofCountable α
  { toVec := fun value => List.replicate (Encodable.encode value) 0
    fromSlice := fun bytes => Encodable.decode bytes.length
    fromSlice_toVec := by simp }

instance HashMap.countable {κ : Type u} {ν : Type v} [Countable κ] [Countable ν] :
    Countable (HashMap κ ν) := by
  have injective : Function.Injective fun map : HashMap κ ν => map.entries := by
    intro _ _ same
    exact Finmap.ext same
  exact injective.countable

instance countableChar : Countable Char := ⟨Char.toNat, fun _ _ => Char.toNat_inj.mp⟩

instance countableString : Countable String :=
  Function.Injective.countable fun _ _ => String.toList_injective

end YedMQ.Foundation
