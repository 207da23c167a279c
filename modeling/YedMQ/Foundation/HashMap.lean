import Mathlib.Data.Finmap
import Mathlib.Algebra.BigOperators.Group.Multiset.Basic
import Mathlib.Data.Multiset.Bind

/-! # Hash maps with an unspecified iteration order

A hash map is a finite map whose entries form a multiset, so two maps are equal
exactly when they answer every lookup alike and nothing can depend on the order
in which entries are visited. `total` adds up a weight over the values, in any
commutative monoid; its laws under insertion, erasure and `retain` are what
accounting invariants need.
-/

namespace YedMQ.Foundation

/-- A finite map from `κ` to `ν` without an iteration order. -/
abbrev HashMap (κ : Type u) (ν : Type v) := Finmap (fun _ : κ => ν)

namespace HashMap

variable {κ : Type u} {ν : Type v} {M : Type w} [AddCommMonoid M]

/-! ## Values and weights -/

def values (map : HashMap κ ν) : Multiset ν :=
  map.entries.map Sigma.snd

def total (weight : ν → M) (map : HashMap κ ν) : M :=
  (map.values.map weight).sum

variable (weight : ν → M)

@[simp] theorem total_empty : total weight (∅ : HashMap κ ν) = 0 := rfl

variable [DecidableEq κ]

variable {map : HashMap κ ν} {key : κ}

theorem values_insert_of_lookup_eq_none (value : ν) (absent : map.lookup key = none) :
    values (map.insert key value) = value ::ₘ map.values := by
  unfold values
  rw [Finmap.entries_insert_of_notMem (Finmap.lookup_eq_none.mp absent)]
  simp

variable {value : ν}

theorem insert_erase_of_lookup_eq_some (present : map.lookup key = some value) :
    (map.erase key).insert key value = map := by
  apply Finmap.ext_lookup
  intro other
  by_cases same : other = key
  · subst other
    rw [Finmap.lookup_insert, present]
  · rw [Finmap.lookup_insert_of_ne _ same, Finmap.lookup_erase_ne same]

theorem values_erase_of_lookup_eq_some (present : map.lookup key = some value) :
    map.values = value ::ₘ values (map.erase key) := by
  conv_lhs => rw [← insert_erase_of_lookup_eq_some present]
  exact values_insert_of_lookup_eq_none value (Finmap.lookup_erase key map)

theorem total_insert_of_lookup_eq_none (value : ν) (absent : map.lookup key = none) :
    total weight (map.insert key value) = weight value + total weight map := by
  simp [total, values_insert_of_lookup_eq_none value absent]

theorem total_erase_of_lookup_eq_some (present : map.lookup key = some value) :
    weight value + total weight (map.erase key) = total weight map := by
  simp [total, values_erase_of_lookup_eq_some present]

theorem insert_erase (map : HashMap κ ν) (key : κ) (value : ν) :
    (map.erase key).insert key value = map.insert key value := by
  apply Finmap.ext_lookup
  intro other
  by_cases same : other = key
  · subst other
    simp
  · rw [Finmap.lookup_insert_of_ne _ same, Finmap.lookup_insert_of_ne _ same,
      Finmap.lookup_erase_ne same]

/-- Overwriting a value exchanges its weight for the new one. -/
theorem total_insert_of_lookup_eq_some {old : ν} (value : ν) (present : map.lookup key = some old) :
    weight old + total weight (map.insert key value) = weight value + total weight map := by
  rw [← insert_erase, total_insert_of_lookup_eq_none weight value
    (Finmap.lookup_erase key map), ← total_erase_of_lookup_eq_some weight present,
    add_left_comm]

theorem mem_values_iff : value ∈ map.values ↔ ∃ key, map.lookup key = some value := by
  constructor
  · intro member
    rcases Multiset.mem_map.mp member with ⟨⟨key, found⟩, entry, equal⟩
    subst equal
    exact ⟨key, Finmap.mem_lookup_iff.mpr entry⟩
  · rintro ⟨key, present⟩
    exact Multiset.mem_map.mpr ⟨⟨key, value⟩, Finmap.mem_lookup_iff.mp present, rfl⟩

/-- A value stored under one key only occurs once. -/
theorem count_values_of_unique [DecidableEq ν] (present : map.lookup key = some value)
    (unique : ∀ other, map.lookup other = some value → other = key) :
    map.values.count value = 1 := by
  have absent : value ∉ values (map.erase key) := by
    rw [mem_values_iff]
    rintro ⟨other, found⟩
    by_cases same : other = key
    · subst same
      rw [Finmap.lookup_erase] at found
      cases found
    · rw [Finmap.lookup_erase_ne same] at found
      exact same (unique other found)
  rw [values_erase_of_lookup_eq_some present, Multiset.count_cons_self,
    Multiset.count_eq_zero_of_notMem absent]

/-! ## Updating in place -/

def modify (key : κ) (update : ν → ν) (map : HashMap κ ν) : HashMap κ ν :=
  match map.lookup key with
  | some value => map.insert key (update value)
  | none => map

theorem modify_of_lookup_eq_some (update : ν → ν) (present : map.lookup key = some value) :
    map.modify key update = map.insert key (update value) := by
  simp [modify, present]

theorem modify_of_lookup_eq_none (update : ν → ν) (absent : map.lookup key = none) :
    map.modify key update = map := by
  simp [modify, absent]

@[simp] theorem lookup_modify_self (map : HashMap κ ν) (key : κ) (update : ν → ν) :
    (map.modify key update).lookup key = (map.lookup key).map update := by
  cases present : map.lookup key with
  | none | some => simp [modify, present]

theorem lookup_modify_of_ne (map : HashMap κ ν) {other : κ} (update : ν → ν)
    (different : other ≠ key) :
    (map.modify key update).lookup other = map.lookup other := by
  cases present : map.lookup key with
  | none => simp [modify, present]
  | some =>
    rw [modify_of_lookup_eq_some update present, Finmap.lookup_insert_of_ne _ different]

theorem total_modify_of_weight_eq (map : HashMap κ ν) (key : κ) (update : ν → ν)
    (keeps : ∀ value, map.lookup key = some value → weight (update value) = weight value) :
    total weight (map.modify key update) = total weight map := by
  cases present : map.lookup key with
  | none => rw [modify_of_lookup_eq_none update present]
  | some value =>
    rw [modify_of_lookup_eq_some update present, ← insert_erase,
      total_insert_of_lookup_eq_none weight _ (Finmap.lookup_erase key map),
      keeps value present, total_erase_of_lookup_eq_some weight present]

/-! ## Keeping only some entries -/

def retain (keep : κ → ν → Bool) (map : HashMap κ ν) : HashMap κ ν where
  entries := map.entries.filter fun entry => keep entry.1 entry.2
  nodupKeys := by
    have whole := Multiset.nodup_keys.mpr map.nodupKeys
    exact Multiset.nodup_keys.mp
      (Multiset.nodup_of_le (Multiset.map_le_map (Multiset.filter_le _ _)) whole)

@[simp] theorem lookup_retain (keep : κ → ν → Bool) (map : HashMap κ ν) (key : κ) :
    (map.retain keep).lookup key = (map.lookup key).filter (keep key) := by
  apply Option.ext
  intro value
  rw [← Option.mem_def, Finmap.mem_lookup_iff]
  simp only [retain, Multiset.mem_filter, Option.filter_eq_some_iff]
  rw [← Finmap.mem_lookup_iff, Option.mem_def]

omit [DecidableEq κ] in
theorem values_retain (keep : ν → Bool) (map : HashMap κ ν) :
    values (map.retain fun _ => keep) = map.values.filter (keep ·) := by
  simp only [values, retain, Multiset.filter_map]
  rfl

/-! ## Changing all values -/

variable {ω : Type*}
variable (change : ν → ω)

def mapValues (map : HashMap κ ν) : HashMap κ ω where
  entries := map.entries.map fun entry => ⟨entry.1, change entry.2⟩
  nodupKeys := by
    have whole := Multiset.nodup_keys.mpr map.nodupKeys
    apply Multiset.nodup_keys.mp
    rw [Multiset.keys, Multiset.map_map]
    exact whole

omit [DecidableEq κ] in
theorem values_mapValues (map : HashMap κ ν) :
    values (map.mapValues change) = map.values.map change := by
  simp only [values, mapValues, Multiset.map_map]
  rfl

omit [DecidableEq κ] in
theorem total_mapValues {weight : ν → M}
    {weightChanged : ω → M} {change : ν → ω}
    (keeps : ∀ value, weightChanged (change value) = weight value) (map : HashMap κ ν) :
    total weightChanged (map.mapValues change) = total weight map := by
  rw [total, total, values_mapValues, Multiset.map_map]
  congr 1
  exact Multiset.map_congr rfl fun value _ => keeps value

@[simp] theorem lookup_mapValues (map : HashMap κ ν) (key : κ) :
    (map.mapValues change).lookup key = (map.lookup key).map change := by
  apply Option.ext
  intro value
  rw [← Option.mem_def, Finmap.mem_lookup_iff]
  simp only [mapValues, Multiset.mem_map, Option.map_eq_some_iff]
  constructor
  · rintro ⟨⟨found, old⟩, entry, equal⟩
    cases equal
    exact ⟨old, Finmap.mem_lookup_iff.mpr entry, rfl⟩
  · rintro ⟨old, present, equal⟩
    subst equal
    exact ⟨⟨key, old⟩, Finmap.mem_lookup_iff.mp present, rfl⟩

theorem mapValues_self (map : HashMap κ ν) : map.mapValues (fun value => value) = map := by
  apply Finmap.ext_lookup
  intro key
  rw [lookup_mapValues, Option.map_id']

theorem mapValues_insert (map : HashMap κ ν) (key : κ) (value : ν) :
    mapValues change (map.insert key value) = (map.mapValues change).insert key (change value) := by
  apply Finmap.ext_lookup
  intro other
  rcases eq_or_ne other key with same | different
  · subst same
    simp
  · rw [lookup_mapValues, Finmap.lookup_insert_of_ne _ different,
      Finmap.lookup_insert_of_ne _ different, lookup_mapValues]

theorem mapValues_erase (map : HashMap κ ν) (key : κ) :
    mapValues change (map.erase key) = (map.mapValues change).erase key := by
  apply Finmap.ext_lookup
  intro other
  rcases eq_or_ne other key with same | different
  · subst same
    simp
  · rw [lookup_mapValues, Finmap.lookup_erase_ne different,
      Finmap.lookup_erase_ne different, lookup_mapValues]

/-- Changing values commutes with keeping entries, if the test reads nothing that
the change alters. -/
theorem mapValues_retain {change : ν → ω} {keep : κ → ν → Bool} {keepChanged : κ → ω → Bool}
    (agree : ∀ key value, keepChanged key (change value) = keep key value)
    (map : HashMap κ ν) :
    mapValues change (map.retain keep) = (map.mapValues change).retain keepChanged := by
  apply Finmap.ext_lookup
  intro key
  rw [lookup_mapValues, lookup_retain, lookup_retain, lookup_mapValues]
  cases map.lookup key with
  | none => rfl
  | some =>
    simp only [Option.map_some, Option.filter_some, agree]
    split <;> rfl

end HashMap

end YedMQ.Foundation
