import Mathlib.Data.List.Sort
import Mathlib.Data.List.Perm.Basic

/-! # Stable sorting by a key

A list is stably sorted from a source if it is in the order of the keys and lists the elements of
each key exactly as the source does.
-/

namespace YedMQ.Foundation

variable {α κ : Type*} [LE κ] [DecidableEq κ] {key : α → κ} {source sorted : List α}

structure StablySorted (key : α → κ) (source sorted : List α) : Prop where
  inOrder : sorted.Pairwise fun first second => key first ≤ key second
  ofKey : ∀ value, sorted.filter (key · = value) = source.filter (key · = value)

namespace StablySorted

theorem perm [DecidableEq α] (stable : StablySorted key source sorted) : sorted.Perm source := by
  rw [List.perm_iff_count]
  intro element
  have ofKey := congrArg (List.count element) (stable.ofKey (key element))
  rwa [List.count_filter (by simp), List.count_filter (by simp)] at ofKey

theorem filter (stable : StablySorted key source sorted) (keep : α → Bool) :
    StablySorted key (source.filter keep) (sorted.filter keep) where
  inOrder := stable.inOrder.filter keep
  ofKey value := by
    rw [List.filter_comm, stable.ofKey, List.filter_comm]

variable [DecidableLE κ] [Std.IsLinearPreorder κ]

/-- Merge sort keeps the elements of one key as they are: they form a sorted sublist. -/
theorem mergeSort (source : List α) :
    StablySorted key source (source.mergeSort fun first second => key first ≤ key second) := by
  have transitive : ∀ first second third : α, decide (key first ≤ key second) = true →
      decide (key second ≤ key third) = true → decide (key first ≤ key third) = true := by
    intro first second third
    simpa using Std.le_trans
  have total : ∀ first second : α,
      (decide (key first ≤ key second) || decide (key second ≤ key first)) = true := by
    intro first second
    simpa using Std.le_total
  constructor
  · exact (List.pairwise_mergeSort transitive total source).imp of_decide_eq_true
  · intro value
    have ordered : (source.filter (key · = value)).Pairwise
        fun first second => decide (key first ≤ key second) = true := by
      apply List.pairwise_of_forall_mem_list
      intro first firstOf second secondOf
      simp_all
    have sublist := (List.sublist_mergeSort transitive total ordered
      List.filter_sublist).filter (key · = value)
    rw [List.filter_filter] at sublist
    simp only [Bool.and_self] at sublist
    apply (sublist.eq_of_length _).symm
    exact (((List.mergeSort_perm source _).filter _).length_eq).symm

/-- Sorting a sorted list with one element more. -/
theorem concat (stable : StablySorted key source sorted) (element : α) :
    StablySorted key (source ++ [element])
      ((sorted ++ [element]).mergeSort fun first second => key first ≤ key second) where
  inOrder := (mergeSort _).inOrder
  ofKey value := by
    rw [(mergeSort _).ofKey, List.filter_append, stable.ofKey, ← List.filter_append]

end StablySorted

end YedMQ.Foundation
