import YedMQ.Foundation.HashMap
import Mathlib.Data.Multiset.AddSub

/-! # Maps of maps

A store of records addressed by two keys, kept as a map whose values are maps. The
outer keys matter on their own: an outer key may be present without any record, so
two stores are equal when they have the same outer keys and the same records.
-/

namespace YedMQ.Foundation

open HashMap

/-- A map from outer keys to maps from inner keys to records. -/
abbrev NestedMap (κ : Type u) (τ : Type v) (ν : Type w) := HashMap κ (HashMap τ ν)

namespace NestedMap

variable {κ : Type u} {τ : Type v} {ν : Type w} [DecidableEq κ] [DecidableEq τ]

def hasOuter (outer : κ) (map : NestedMap κ τ ν) : Bool :=
  (map.lookup outer).isSome

def getAt (outer : κ) (inner : τ) (map : NestedMap κ τ ν) : Option ν :=
  (map.lookup outer).bind fun records => records.lookup inner

def setAt (outer : κ) (inner : τ) (record : ν) (map : NestedMap κ τ ν) :
    NestedMap κ τ ν :=
  map.insert outer (((map.lookup outer).getD ∅).insert inner record)

def alterInner (outer : κ) (inner : τ) (change : Option ν → Option ν)
    (map : NestedMap κ τ ν) : NestedMap κ τ ν :=
  match map.lookup outer with
  | none => map
  | some records =>
    match change (records.lookup inner) with
    | some changed => map.insert outer (records.insert inner changed)
    | none => map.insert outer (records.erase inner)

def alterAt (outer : κ) (inner : τ) (change : ν → Option ν) :
    NestedMap κ τ ν → NestedMap κ τ ν :=
  alterInner outer inner fun record => record.bind change

def ensureOuter (outer : κ) (map : NestedMap κ τ ν) : NestedMap κ τ ν :=
  match map.lookup outer with
  | some _ => map
  | none => map.insert outer ∅

theorem ext_getAt {left right : NestedMap κ τ ν}
    (sameOuter : ∀ outer, left.hasOuter outer = right.hasOuter outer)
    (sameRecords : ∀ outer inner, left.getAt outer inner = right.getAt outer inner) :
    left = right := by
  apply Finmap.ext_lookup
  intro outer
  have present := sameOuter outer
  have records := sameRecords outer
  unfold hasOuter at present
  unfold getAt at records
  cases leftFound : left.lookup outer with
  | none =>
    cases rightFound : right.lookup outer with
    | none => rfl
    | some => simp [leftFound, rightFound] at present
  | some leftRecords =>
    cases rightFound : right.lookup outer with
    | none => simp [leftFound, rightFound] at present
    | some rightRecords =>
      have equal : leftRecords = rightRecords := by
        apply Finmap.ext_lookup
        intro inner
        simpa [leftFound, rightFound] using records inner
      rw [equal]

/-! ## Records and outer keys after an update -/

@[simp] theorem getAt_setAt_self (outer : κ) (inner : τ) (record : ν) (map : NestedMap κ τ ν) :
    (map.setAt outer inner record).getAt outer inner = some record := by
  simp [getAt, setAt]

variable {outer otherOuter : κ} {inner otherInner : τ}

theorem getAt_setAt_of_ne (different : (otherOuter, otherInner) ≠ (outer, inner)) (record : ν)
    (map : NestedMap κ τ ν) :
    (map.setAt outer inner record).getAt otherOuter otherInner =
      map.getAt otherOuter otherInner := by
  by_cases sameOuter : otherOuter = outer
  · subst sameOuter
    have otherRecord : otherInner ≠ inner := by
      intro equal
      exact different (by rw [equal])
    simp only [getAt, setAt, Finmap.lookup_insert, Option.bind_some]
    rw [Finmap.lookup_insert_of_ne _ otherRecord]
    cases map.lookup otherOuter with
    | none => simp
    | some => rfl
  · simp only [getAt, setAt]
    rw [Finmap.lookup_insert_of_ne _ sameOuter]

theorem getAt_setAt (outer : κ) (inner : τ) (record : ν) (map : NestedMap κ τ ν)
    (otherOuter : κ) (otherInner : τ) :
    (map.setAt outer inner record).getAt otherOuter otherInner =
      if outer = otherOuter ∧ inner = otherInner then some record
      else map.getAt otherOuter otherInner := by
  split
  · rename_i here
    rw [← here.1, ← here.2, getAt_setAt_self]
  · rename_i elsewhere
    apply getAt_setAt_of_ne
    intro same
    cases same
    exact elsewhere ⟨rfl, rfl⟩

theorem hasOuter_setAt (outer : κ) (inner : τ) (record : ν) (map : NestedMap κ τ ν) (other : κ) :
    (map.setAt outer inner record).hasOuter other =
      (decide (other = outer) || map.hasOuter other) := by
  unfold hasOuter setAt
  by_cases same : other = outer
  · subst same
    simp
  · simp [same]

theorem setAt_ensureOuter (outer : κ) (inner : τ) (record : ν) (map : NestedMap κ τ ν) :
    (map.ensureOuter outer).setAt outer inner record = map.setAt outer inner record := by
  unfold ensureOuter setAt
  cases present : map.lookup outer with
  | some => simp [present]
  | none => simp

variable {map : NestedMap κ τ ν}

theorem hasOuter_of_getAt {record : ν} (found : map.getAt outer inner = some record) :
    map.hasOuter outer = true := by
  rcases Option.bind_eq_some_iff.mp found with ⟨_, present, _⟩
  simp [hasOuter, present]

theorem getAt_alterInner_self (inner : τ) (change : Option ν → Option ν)
    (present : map.hasOuter outer = true) :
    (map.alterInner outer inner change).getAt outer inner =
      change (map.getAt outer inner) := by
  rcases Option.isSome_iff_exists.mp present with ⟨records, found⟩
  unfold alterInner
  cases changed : change (records.lookup inner) with
  | none | some => simp [getAt, found, changed]

theorem alterInner_of_not_hasOuter (inner : τ) (change : Option ν → Option ν)
    (absent : map.hasOuter outer = false) : map.alterInner outer inner change = map := by
  have missing : map.lookup outer = none := by
    simpa [hasOuter] using absent
  simp [alterInner, missing]

theorem getAt_of_not_hasOuter (inner : τ) (absent : map.hasOuter outer = false) :
    map.getAt outer inner = none := by
  have missing : map.lookup outer = none := by
    simpa [hasOuter] using absent
  simp [getAt, missing]

theorem getAt_alterInner_of_ne (different : (otherOuter, otherInner) ≠ (outer, inner))
    (change : Option ν → Option ν) (map : NestedMap κ τ ν) :
    (map.alterInner outer inner change).getAt otherOuter otherInner =
      map.getAt otherOuter otherInner := by
  unfold alterInner
  cases present : map.lookup outer with
  | none => rfl
  | some records =>
    by_cases sameOuter : otherOuter = outer
    · subst sameOuter
      have otherRecord : otherInner ≠ inner := by
        intro equal
        exact different (by rw [equal])
      cases changed : change (records.lookup inner) with
      | none => simp [getAt, present, changed, Finmap.lookup_erase_ne otherRecord]
      | some =>
        simp [getAt, present, changed, Finmap.lookup_insert_of_ne _ otherRecord]
    · cases changed : change (records.lookup inner) with
      | none | some => simp [getAt, changed, Finmap.lookup_insert_of_ne _ sameOuter]

theorem getAt_alterInner (inner : τ) (change : Option ν → Option ν)
    (present : map.hasOuter outer = true) (otherOuter : κ) (otherInner : τ) :
    (map.alterInner outer inner change).getAt otherOuter otherInner =
      (if otherOuter = outer ∧ otherInner = inner then change else id)
        (map.getAt otherOuter otherInner) := by
  split
  · rename_i here
    rw [here.1, here.2, getAt_alterInner_self inner change present]
  · rename_i elsewhere
    apply getAt_alterInner_of_ne
    intro same
    cases same
    exact elsewhere ⟨rfl, rfl⟩

@[simp] theorem hasOuter_alterInner (outer : κ) (inner : τ)
    (change : Option ν → Option ν) (map : NestedMap κ τ ν) (other : κ) :
    (map.alterInner outer inner change).hasOuter other = map.hasOuter other := by
  unfold alterInner
  cases present : map.lookup outer with
  | none => rfl
  | some records =>
    by_cases same : other = outer
    · subst same
      cases changed : change (records.lookup inner) <;>
        simp [hasOuter, present, changed]
    · cases changed : change (records.lookup inner) <;>
        simp [hasOuter, changed, Finmap.lookup_insert_of_ne _ same]

theorem getAt_alterAt_self (outer : κ) (inner : τ) (change : ν → Option ν) (map : NestedMap κ τ ν) :
    (map.alterAt outer inner change).getAt outer inner = (map.getAt outer inner).bind change := by
  cases present : map.hasOuter outer with
  | true => exact getAt_alterInner_self inner _ present
  | false =>
    rw [alterAt, alterInner_of_not_hasOuter inner _ present, getAt_of_not_hasOuter inner present]
    rfl

theorem getAt_alterAt_of_ne (different : (otherOuter, otherInner) ≠ (outer, inner))
    (change : ν → Option ν) (map : NestedMap κ τ ν) :
    (map.alterAt outer inner change).getAt otherOuter otherInner =
      map.getAt otherOuter otherInner :=
  getAt_alterInner_of_ne different _ map

@[simp] theorem hasOuter_alterAt (outer : κ) (inner : τ) (change : ν → Option ν)
    (map : NestedMap κ τ ν) (other : κ) :
    (map.alterAt outer inner change).hasOuter other = map.hasOuter other :=
  hasOuter_alterInner outer inner _ map other

@[simp] theorem getAt_ensureOuter (outer : κ) (map : NestedMap κ τ ν)
    (otherOuter : κ) (otherInner : τ) :
    (map.ensureOuter outer).getAt otherOuter otherInner = map.getAt otherOuter otherInner := by
  unfold ensureOuter
  cases present : map.lookup outer with
  | some => rfl
  | none =>
    by_cases same : otherOuter = outer
    · subst same
      simp [getAt, present]
    · simp [getAt, Finmap.lookup_insert_of_ne _ same]

omit [DecidableEq τ] in
theorem hasOuter_ensureOuter (outer : κ) (map : NestedMap κ τ ν) (other : κ) :
    (map.ensureOuter outer).hasOuter other = (decide (other = outer) || map.hasOuter other) := by
  unfold ensureOuter
  by_cases same : other = outer
  · subst same
    cases present : map.lookup other with
    | some => simp [hasOuter, present]
    | none => simp [hasOuter]
  · cases present : map.lookup outer with
    | some => simp [same]
    | none => simp [hasOuter, same, Finmap.lookup_insert_of_ne _ same]

/-! ## Totals over all records -/

section Total

variable {M : Type*} [AddCancelCommMonoid M] (weight : ν → M)

def total (map : NestedMap κ τ ν) : M :=
  HashMap.total (HashMap.total weight) map

def weightAt (outer : κ) (inner : τ) (map : NestedMap κ τ ν) : M :=
  ((map.getAt outer inner).map weight).getD 0

theorem total_insert_record (records : HashMap τ ν) (inner : τ) (record : ν) :
    ((records.lookup inner).map weight).getD 0 +
        HashMap.total weight (records.insert inner record) =
      weight record + HashMap.total weight records := by
  cases present : records.lookup inner with
  | none => simpa using HashMap.total_insert_of_lookup_eq_none weight record present
  | some => simpa using HashMap.total_insert_of_lookup_eq_some weight record present

theorem total_setAt (outer : κ) (inner : τ) (record : ν) (map : NestedMap κ τ ν) :
    weightAt weight outer inner map + total weight (map.setAt outer inner record) =
      weight record + total weight map := by
  cases present : map.lookup outer with
  | none =>
    have inserted := total_insert_record weight ∅ inner record
    simp only [weightAt, getAt, setAt, total, present,
      HashMap.total_insert_of_lookup_eq_none _ _ present]
    simpa using inserted
  | some records =>
    have whole := HashMap.total_insert_of_lookup_eq_some (HashMap.total weight)
      (records.insert inner record) present
    have inserted := total_insert_record weight records inner record
    simp only [weightAt, getAt, setAt, total, present, Option.bind_some, Option.getD_some]
    -- The exchange of the whole inner map is known; cancelling its untouched
    -- records leaves the exchange of one record.
    apply add_left_cancel (a := HashMap.total weight records)
    rw [add_left_comm, whole, ← add_assoc, inserted, add_left_comm, ← add_assoc]

/-- Where maps differ in one record, so do their totals. -/
theorem total_of_elsewhere {left right : NestedMap κ τ ν} {outer : κ} {inner : τ} (record : ν)
    (sameOuter : ∀ other, other ≠ outer → left.hasOuter other = right.hasOuter other)
    (elsewhere : ∀ otherOuter otherInner, (otherOuter, otherInner) ≠ (outer, inner) →
      left.getAt otherOuter otherInner = right.getAt otherOuter otherInner) :
    weightAt weight outer inner left + total weight right =
      weightAt weight outer inner right + total weight left := by
  -- Writing the same record to both makes them equal.
  have same : left.setAt outer inner record = right.setAt outer inner record := by
    apply ext_getAt
    · intro other
      rw [hasOuter_setAt, hasOuter_setAt]
      by_cases here : other = outer
      · simp [here]
      · rw [sameOuter other here]
    · intro otherOuter otherInner
      by_cases here : (otherOuter, otherInner) = (outer, inner)
      · cases here
        simp
      · rw [getAt_setAt_of_ne here, getAt_setAt_of_ne here, elsewhere _ _ here]
  have first := total_setAt weight outer inner record left
  rw [same] at first
  have second := total_setAt weight outer inner record right
  apply add_left_cancel (a := weight record)
  rw [add_left_comm, ← second, add_left_comm, first, add_left_comm]

end Total

/-! ## Changing all records -/

variable {ω : Type*}

def mapRecords (change : ν → ω) (map : NestedMap κ τ ν) : NestedMap κ τ ω :=
  mapValues (mapValues change) map

@[simp] theorem getAt_mapRecords (change : ν → ω) (map : NestedMap κ τ ν) (outer : κ) (inner : τ) :
    (map.mapRecords change).getAt outer inner = (map.getAt outer inner).map change := by
  rw [getAt, getAt, mapRecords, lookup_mapValues]
  cases map.lookup outer with
  | none => rfl
  | some => simp

omit [DecidableEq τ] in
@[simp] theorem hasOuter_mapRecords (change : ν → ω) (map : NestedMap κ τ ν) (outer : κ) :
    (map.mapRecords change).hasOuter outer = map.hasOuter outer := by
  rw [hasOuter, hasOuter, mapRecords, lookup_mapValues, Option.isSome_map]

omit [DecidableEq κ] [DecidableEq τ] in
theorem total_mapRecords {M : Type*} [AddCancelCommMonoid M] {weight : ν → M}
    {weightChanged : ω → M} {change : ν → ω}
    (keeps : ∀ record, weightChanged (change record) = weight record)
    (map : NestedMap κ τ ν) :
    total weightChanged (map.mapRecords change) = total weight map :=
  HashMap.total_mapValues (HashMap.total_mapValues keeps) map

end NestedMap

end YedMQ.Foundation
