import YedMQ.Foundation.Base64

/-! # Topic names and topic filters

Topics and filters are split at slashes into levels. `testTopic` is the validity check
that the storage applies to both. `LevelsMatch` states when a filter matches a topic,
independently of how the storage searches: a plus stands for exactly one level and a
final sharp for the parent level and everything below it.
-/

namespace YedMQ.Topic

open Foundation

inductive TopicStorageError where
  | topicNotFound (topic : String)
  | tenantNotFound (tenantId : String)
  | invalidTopicFilter (topicFilter : String)
deriving DecidableEq, Repr

def levels (topic : String) : List String :=
  (topic.toList.splitOn '/').map String.ofList

theorem levels_injective {left right : String} (equal : levels left = levels right) :
    left = right := by
  have parts : left.toList.splitOn '/' = right.toList.splitOn '/' :=
    List.map_injective_iff.mpr (fun _ _ => String.ofList_inj.mp) equal
  have joined := congrArg (List.intercalate ['/']) parts
  rw [List.intercalate_splitOn, List.intercalate_splitOn] at joined
  exact String.toList_inj.mp joined

/-- The check of one level: a longer level holds no wildcard, and a sharp stands in
the last place only. -/
def testLevel (last : Bool) (level : String) : Bool :=
  if 1 < level.utf8ByteSize then
    !(level.toList.contains '#' || level.toList.contains '+')
  else
    !(level.toList.contains '#' && !last)

def testLevels : List String → Bool
  | [] => true
  | [level] => testLevel true level
  | level :: rest => testLevel false level && testLevels rest

def testTopic (topic : String) : Bool :=
  testLevels (levels topic)

variable {rest : List String}

theorem testLevels_tail {level : String} (valid : testLevels (level :: rest) = true) :
    testLevels rest = true := by
  cases rest with
  | nil => rfl
  | cons =>
    simp only [testLevels, Bool.and_eq_true] at valid
    exact valid.2

/-- In a valid filter nothing follows a sharp. -/
theorem eq_nil_of_testLevels_sharp (valid : testLevels ("#" :: rest) = true) : rest = [] := by
  cases rest with
  | nil => rfl
  | cons =>
    simp only [testLevels, Bool.and_eq_true] at valid
    exact absurd valid.1 (by decide)

/-! ## Shared subscriptions -/

structure SharedSubscriptionFilter where
  shareName : String
  topicFilter : String
deriving DecidableEq, Repr

inductive SharedSubscriptionFilterError where
  | emptyShareName
  | emptyTopicFilter
  | invalidShareName
  | invalidTopicFilter (topicFilter : String)
deriving DecidableEq, Repr

def SharedSubscriptionFilterError.message : SharedSubscriptionFilterError → String
  | emptyShareName => "shared subscription share name is empty"
  | emptyTopicFilter => "shared subscription topic filter is empty"
  | invalidShareName =>
    "shared subscription share name contains invalid wildcard or separator"
  | invalidTopicFilter topicFilter =>
    "shared subscription topic filter is invalid: " ++ topicFilter

def isValidShareName (name : String) : Bool :=
  !name.isEmpty && !(name.toList.contains '/') && !(name.toList.contains '+') &&
    !(name.toList.contains '#')

/-- Recognise `$share/<name>/<filter>`. Any other text is no shared filter. -/
def parseSharedSubscriptionFilter (raw : String) :
    Except SharedSubscriptionFilterError (Option SharedSubscriptionFilter) :=
  if "$share/".toList.isPrefixOf raw.toList then
    let rest := raw.toList.drop "$share/".length
    if rest.contains '/' then
      let shareName := String.ofList (rest.takeWhile (· ≠ '/'))
      let topicFilter := String.ofList (rest.dropWhile (· ≠ '/')).tail
      if !isValidShareName shareName then
        if shareName.isEmpty then .error .emptyShareName else .error .invalidShareName
      else if topicFilter.isEmpty then
        .error .emptyTopicFilter
      else if !testTopic topicFilter then
        .error (.invalidTopicFilter topicFilter)
      else
        .ok (some { shareName := shareName, topicFilter := topicFilter })
    else
      .error .emptyTopicFilter
  else
    .ok none

example : parseSharedSubscriptionFilter "$share/workers/sensors/+" =
    .ok (some { shareName := "workers", topicFilter := "sensors/+" }) := by decide

structure StoredFilter where
  topicFilter : String
  sharedGroup : Option String
deriving DecidableEq, Repr

def parseFilter (raw : String) : Except TopicStorageError StoredFilter :=
  match parseSharedSubscriptionFilter raw with
  | .error error => .error (.invalidTopicFilter error.message)
  | .ok (some shared) => .ok ⟨shared.topicFilter, some shared.shareName⟩
  | .ok none => .ok ⟨raw, none⟩

/-! ## Matching -/

inductive LevelsMatch : List String → List String → Prop
  | done : LevelsMatch [] []
  | same {level : String} {filter topic : List String} (notPlus : level ≠ "+")
      (notSharp : level ≠ "#") (rest : LevelsMatch filter topic) :
      LevelsMatch (level :: filter) (level :: topic)
  | plus (level : String) {filter topic : List String}
      (rest : LevelsMatch filter topic) : LevelsMatch ("+" :: filter) (level :: topic)
  | sharp (topic : List String) : LevelsMatch ["#"] topic

def ParentLevel (filter topic : List String) : Prop :=
  ∃ parent, filter = parent ++ ["#"] ∧ "#" ∉ parent ∧ LevelsMatch parent topic

def StartsWithWildcard (filter : List String) : Prop :=
  filter.head? = some "+" ∨ filter.head? = some "#"

/-- The MQTT rules: level by level, except that a leading wildcard does not match a
topic that starts with a dollar sign. -/
def MqttMatches (filter topic : String) : Prop :=
  LevelsMatch (levels filter) (levels topic) ∧
    ¬ (StartsWithWildcard (levels filter) ∧ topic.toList.head? = some '$')

def WildcardFree (topic : String) : Prop :=
  '+' ∉ topic.toList ∧ '#' ∉ topic.toList

instance (topic : String) : Decidable (WildcardFree topic) :=
  inferInstanceAs (Decidable (_ ∧ _))

theorem mem_intersperse_of_mem {α : Type u} {separator part : α} :
    ∀ {parts : List α}, part ∈ parts → part ∈ parts.intersperse separator
  | [_], member => by simpa using member
  | first :: second :: rest, member => by
    rw [List.intersperse_cons_cons]
    rcases List.mem_cons.mp member with equal | later
    · exact List.mem_cons.mpr (.inl equal)
    · exact List.mem_cons_of_mem _ (List.mem_cons_of_mem _ (mem_intersperse_of_mem later))

theorem mem_of_mem_splitOn {separator character : Char} {text part : List Char}
    (isPart : part ∈ text.splitOn separator) (member : character ∈ part) :
    character ∈ text := by
  have joined : [separator].intercalate (text.splitOn separator) = text :=
    List.intercalate_splitOn separator
  rw [← joined, List.intercalate, List.mem_flatten]
  exact ⟨part, mem_intersperse_of_mem isPart, member⟩

/-- No level of a topic name without wildcards is a wildcard. -/
theorem WildcardFree.level_ne {topic level : String} (free : WildcardFree topic)
    (member : level ∈ levels topic) : level ≠ "+" ∧ level ≠ "#" := by
  rcases List.mem_map.mp member with ⟨part, isPart, equal⟩
  subst equal
  constructor
  · intro plus
    have single : part = ['+'] := String.ofList_inj.mp plus
    exact free.1 (mem_of_mem_splitOn isPart (by simp [single]))
  · intro sharp
    have single : part = ['#'] := String.ofList_inj.mp sharp
    exact free.2 (mem_of_mem_splitOn isPart (by simp [single]))

end YedMQ.Topic
