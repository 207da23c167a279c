import Mathlib.Data.List.Induction

/-! # Histories of inputs

What a sequence of inputs leaves behind in a place that inputs overwrite: the effect of
the last input that concerns the place.
-/

namespace YedMQ.Semantics

variable {ι : Type u}

def LastStores (Stores Overwrites : ι → Prop) (inputs : List ι) : Prop :=
  ∃ earlier input later, inputs = earlier ++ input :: later ∧ Stores input ∧
    ∀ other ∈ later, ¬ Overwrites other

variable {Stores Overwrites : ι → Prop}

theorem not_lastStores_nil : ¬ LastStores Stores Overwrites [] := by
  rintro ⟨_, _, _, split, _⟩
  simp at split

theorem lastStores_concat {inputs : List ι} {input : ι} :
    LastStores Stores Overwrites (inputs ++ [input]) ↔
      Stores input ∨ (LastStores Stores Overwrites inputs ∧ ¬ Overwrites input) := by
  constructor
  · rintro ⟨earlier, storing, later, split, stores, last⟩
    cases later using List.reverseRecOn with
    | nil =>
      have ends := List.append_inj' split rfl
      cases ends.2
      exact .inl stores
    | append_singleton later =>
      rw [← List.cons_append, ← List.append_assoc] at split
      have ends := List.append_inj' split rfl
      cases ends.2
      refine .inr ⟨⟨earlier, storing, later, ends.1, stores, ?_⟩, ?_⟩
      · intro other member
        exact last other (List.mem_append_left _ member)
      · exact last input (by simp)
  · rintro (stores | ⟨stored, kept⟩)
    · exact ⟨inputs, input, [], rfl, stores, by simp⟩
    · rcases stored with ⟨earlier, storing, later, rfl, stores, last⟩
      refine ⟨earlier, storing, later ++ [input], by simp, stores, ?_⟩
      intro other member
      rcases List.mem_append.mp member with early | final
      · exact last other early
      · cases List.mem_singleton.mp final
        exact kept

end YedMQ.Semantics
