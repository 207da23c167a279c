import Mathlib.Data.List.TakeWhile
import YedMQ.Topic.Filter

/-! # The grammar of shared filters

A shared filter names a group and the filter that its members share. The parser looks for
the first slash behind the name of the group and leaves the rest to `testTopic`. Here is
what the two accept together, level by level and without the order of their checks.
-/

namespace YedMQ.Topic

/-- Wildcards are whole levels, and a sharp is the last one. -/
@[mk_iff]
structure ValidLevels (filter : List String) : Prop where
  plus : ∀ level ∈ filter, '+' ∈ level.toList → level = "+"
  sharp : ∀ level ∈ filter, '#' ∈ level.toList → level = "#"
  last : "#" ∉ filter.dropLast

namespace SharedSubscriptionFilter

def raw (shared : SharedSubscriptionFilter) : String :=
  "$share/" ++ shared.shareName ++ "/" ++ shared.topicFilter

structure Valid (shared : SharedSubscriptionFilter) : Prop where
  named : shared.shareName ≠ ""
  plain : ∀ character ∈ shared.shareName.toList,
    character ≠ '/' ∧ character ≠ '+' ∧ character ≠ '#'
  filtered : shared.topicFilter ≠ ""
  levels : ValidLevels (levels shared.topicFilter)

end SharedSubscriptionFilter

/-! ## Levels -/

theorem length_le_utf8ByteSize (characters : List Char) :
    characters.length ≤ (String.ofList characters).utf8ByteSize := by
  induction characters with
  | nil => simp
  | cons first rest induction =>
    rw [String.ofList_cons, String.utf8ByteSize_append, String.utf8ByteSize_singleton]
    have := first.utf8Size_pos
    simp only [List.length_cons]
    omega

/-- A text of one byte at most has no room for a second character. -/
theorem toList_of_short {level : String} {character : Char} (short : ¬ 1 < level.utf8ByteSize)
    (member : character ∈ level.toList) : level.toList = [character] := by
  have fits := length_le_utf8ByteSize level.toList
  rw [String.ofList_toList] at fits
  have single : level.toList.length = 1 := by
    have := List.length_pos_of_mem member
    omega
  rcases List.length_eq_one_iff.mp single with ⟨only, equal⟩
  rw [equal, List.mem_singleton] at member
  rw [equal, member]

theorem testLevel_iff (last : Bool) (level : String) : testLevel last level = true ↔
    ('+' ∈ level.toList → level = "+") ∧ ('#' ∈ level.toList → level = "#") ∧
      (level = "#" → last = true) := by
  rw [testLevel]
  split
  · rename_i long
    have notPlus : level ≠ "+" := by
      rintro rfl
      exact absurd long (by decide)
    have notSharp : level ≠ "#" := by
      rintro rfl
      exact absurd long (by decide)
    simp [notPlus, notSharp, and_comm]
  · rename_i short
    have plus : '+' ∈ level.toList → level = "+" :=
      fun member => String.toList_inj.mp (toList_of_short short member)
    have sharp : '#' ∈ level.toList ↔ level = "#" := by
      constructor
      · exact fun member => String.toList_inj.mp (toList_of_short short member)
      · rintro rfl
        decide
    rw [and_iff_right plus]
    simp [sharp, imp_iff_not_or]

theorem testLevels_iff (filter : List String) :
    testLevels filter = true ↔ ValidLevels filter := by
  induction filter with
  | nil => exact ⟨fun _ => ⟨nofun, nofun, nofun⟩, fun _ => rfl⟩
  | cons level rest induction =>
    cases rest with
    | nil => simp [testLevels, testLevel_iff, validLevels_iff]
    | cons =>
      simp only [testLevels, Bool.and_eq_true, testLevel_iff, induction, validLevels_iff]
      grind

/-! ## The parser -/

theorem isValidShareName_iff (name : String) : isValidShareName name = true ↔
    name ≠ "" ∧ ∀ character ∈ name.toList,
      character ≠ '/' ∧ character ≠ '+' ∧ character ≠ '#' := by
  simp only [isValidShareName, Bool.and_eq_true, Bool.not_eq_true', ← Bool.not_eq_true,
    String.isEmpty_iff]
  grind

theorem toList_raw (shared : SharedSubscriptionFilter) : shared.raw.toList =
    "$share/".toList ++ (shared.shareName.toList ++ '/' :: shared.topicFilter.toList) := by
  simp [SharedSubscriptionFilter.raw]

theorem parse_raw {shared : SharedSubscriptionFilter} (valid : shared.Valid) :
    parseSharedSubscriptionFilter shared.raw = .ok (some shared) := by
  have ends : ∀ character ∈ shared.shareName.toList, decide (character ≠ '/') = true :=
    fun character member => decide_eq_true (valid.plain character member).1
  have accepted := (isValidShareName_iff _).mpr ⟨valid.named, valid.plain⟩
  have tested : testTopic shared.topicFilter = true := (testLevels_iff _).mpr valid.levels
  have filtered : shared.topicFilter.isEmpty = false := by simp [valid.filtered]
  rw [parseSharedSubscriptionFilter, toList_raw]
  simp only [show "$share/".length = "$share/".toList.length from rfl, List.drop_left]
  rw [List.takeWhile_append_of_pos ends, List.dropWhile_append_of_pos ends]
  simp [accepted, tested, filtered]

theorem takeWhile_slash {rest : List Char} (slash : '/' ∈ rest) :
    rest.takeWhile (· ≠ '/') ++ '/' :: (rest.dropWhile (· ≠ '/')).tail = rest := by
  have ends := List.head?_dropWhile_not (· ≠ '/') rest
  cases left : rest.dropWhile (· ≠ '/') with
  | nil =>
    rw [List.dropWhile_eq_nil_iff] at left
    exact absurd (left _ slash) (by simp)
  | cons first after =>
    rw [left] at ends
    have same : first = '/' := by simpa using ends
    rw [same] at left
    rw [List.tail_cons, ← left, List.takeWhile_append_dropWhile]

/-- The first slash behind `$share/` ends the name of the group. -/
theorem parse_cases (raw : String) :
    (¬ "$share/".toList <+: raw.toList ∧ parseSharedSubscriptionFilter raw = .ok none) ∨
    "$share/".toList <+: raw.toList ∧
      ((∃ shared, parseSharedSubscriptionFilter raw = .ok (some shared) ∧ raw = shared.raw ∧
          shared.Valid) ∨
        ∃ error, parseSharedSubscriptionFilter raw = .error error) := by
  rw [parseSharedSubscriptionFilter]
  by_cases begins : "$share/".toList.isPrefixOf raw.toList = true
  · rcases List.isPrefixOf_iff_prefix.mp begins with ⟨rest, text⟩
    refine .inr ⟨⟨rest, text⟩, ?_⟩
    rw [← text, if_pos (by simp)]
    simp only [show "$share/".length = "$share/".toList.length from rfl]
    split
    · rename_i slash
      split
      · split <;> exact .inr ⟨_, rfl⟩
      · rename_i accepted
        split
        · exact .inr ⟨_, rfl⟩
        · rename_i filtered
          split
          · exact .inr ⟨_, rfl⟩
          · rename_i tested
            simp only [Bool.not_eq_true', Bool.not_eq_false, isValidShareName_iff]
              at accepted tested
            refine .inl ⟨_, rfl, ?_, accepted.1, accepted.2, by simpa using filtered,
              (testLevels_iff _).mp tested⟩
            apply String.toList_inj.mp
            rw [toList_raw, ← text]
            simpa using (takeWhile_slash (List.contains_iff_mem.mp slash)).symm
    · exact .inr ⟨_, rfl⟩
  · rw [if_neg begins]
    exact .inl ⟨fun other => begins (List.isPrefixOf_iff_prefix.mpr other), rfl⟩

/-- The parser accepts the shared filters of the grammar, passes over other filters and
refuses the rest. -/
theorem parseSharedSubscriptionFilter_spec (raw : String) :
    (parseSharedSubscriptionFilter raw = .ok none ↔ ¬ "$share/".toList <+: raw.toList) ∧
    (∀ shared, parseSharedSubscriptionFilter raw = .ok (some shared) ↔
      raw = shared.raw ∧ shared.Valid) ∧
    ((∃ error, parseSharedSubscriptionFilter raw = .error error) ↔
      "$share/".toList <+: raw.toList ∧ ∀ shared : SharedSubscriptionFilter, shared.Valid →
        raw ≠ shared.raw) ∧
    ∀ other shared, parseSharedSubscriptionFilter raw = .ok (some shared) →
      parseSharedSubscriptionFilter other = .ok (some shared) → raw = other := by
  have accepts := @parse_raw
  have cases := parse_cases
  grind

end YedMQ.Topic
