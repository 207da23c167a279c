import YedMQ.Foundation.Words

/-! # Parser combinators that tell missing input from wrong input

A parser returns a value and what is left of the input, asks for more input, reports an
error of some kind, or panics. Streaming parsers ask for more input where the input ends
too early; complete parsers report an error there. Of the streaming parsers, `Streaming`
says that an answer is not changed by input that arrives later.
-/

namespace YedMQ.Foundation

variable {α β : Type}

namespace Nom

inductive ErrorKind where
  | eof
  | takeWhileMN
  | many0
  | mapRes
  | verify
deriving DecidableEq, Repr

inductive Err where
  | incomplete
  | error (kind : ErrorKind)
  | panic (message : String)
deriving DecidableEq, Repr

end Nom

def Nom (α : Type) : Type :=
  List UInt8 → Except Nom.Err (α × List UInt8)

namespace Nom

def bind (parser : Nom α) (next : α → Nom β) : Nom β := fun input =>
  match parser input with
  | .ok (value, rest) => next value rest
  | .error error => .error error

instance : Monad Nom where
  pure value := fun input => .ok (value, input)
  bind := bind

def stop (error : Err) : Nom α := fun _ =>
  .error error

/-! ## Streaming parsers -/

def take (count : Nat) : Nom (List UInt8) := fun input =>
  if input.length < count then .error .incomplete
  else .ok (input.take count, input.drop count)

def takeWhileMN (least most : Nat) (condition : UInt8 → Bool) : Nom (List UInt8) := fun input =>
  match input.findIdx? fun byte => !condition byte with
  | some index =>
    if least ≤ index then .ok (input.take (min index most), input.drop (min index most))
    else .error (.error .takeWhileMN)
  | none =>
    if most ≤ input.length then .ok (input.take most, input.drop most)
    else .error .incomplete

def u8 : Nom UInt8
  | byte :: rest => .ok (byte, rest)
  | [] => .error .incomplete

def u16 : Nom UInt16
  | high :: low :: rest => .ok (ofBeU16 high low, rest)
  | _ => .error .incomplete

/-! ## Complete parsers -/

def completeTake (count : Nat) : Nom (List UInt8) := fun input =>
  if input.length < count then .error (.error .eof)
  else .ok (input.take count, input.drop count)

def completeU8 : Nom UInt8
  | byte :: rest => .ok (byte, rest)
  | [] => .error (.error .eof)

def completeU16 : Nom UInt16
  | high :: low :: rest => .ok (ofBeU16 high low, rest)
  | _ => .error (.error .eof)

def rest : Nom (List UInt8) := fun input =>
  .ok (input, [])

/-! ## Combinators -/

def verify (parser : Nom α) (condition : α → Bool) : Nom α := do
  let value ← parser
  if condition value then return value else stop (.error .verify)

/-- The outcome of an inner function. Its error is forgotten, but for a panic. -/
def settle : Except Err β → Nom β
  | .ok result => pure result
  | .error (.panic message) => stop (.panic message)
  | .error _ => stop (.error .mapRes)

def mapRes (parser : Nom α) (function : α → Except Err β) : Nom β := do
  let value ← parser
  settle (function value)

def many0 (parser : Nom α) (input : List UInt8) : Except Err (List α × List UInt8) :=
  match parser input with
  | .error (.error _) => .ok ([], input)
  | .error error => .error error
  | .ok (value, rest) =>
    if rest.length < input.length then
      match many0 parser rest with
      | .ok (values, rest) => .ok (value :: values, rest)
      | .error error => .error error
    else .error (.error .many0)
termination_by input.length

def consumed (parser : Nom α) : Nom (List UInt8 × α) := fun input =>
  match parser input with
  | .ok (value, rest) => .ok ((input.take (input.length - rest.length), value), rest)
  | .error error => .error error

/-! ## Results of parsers in sequence -/

section Sequence

variable {parser : Nom α} {next : α → Nom β} {input : List UInt8}

theorem bind_apply :
    (parser >>= next) input =
      match parser input with
      | .ok (value, rest) => next value rest
      | .error error => .error error := rfl

theorem map_apply (function : α → β) :
    (function <$> parser) input =
      match parser input with
      | .ok (value, rest) => .ok (function value, rest)
      | .error error => .error error := rfl

@[simp] theorem pure_apply (value : α) : (pure value : Nom α) input = .ok (value, input) := rfl

@[simp] theorem stop_apply (error : Err) : (stop error : Nom α) input = .error error := rfl

variable {rest : List UInt8}

theorem bind_ok {value : α} (first : parser input = .ok (value, rest)) :
    (parser >>= next) input = next value rest := by
  rw [bind_apply, first]

theorem bind_error {error : Err} (first : parser input = .error error) :
    (parser >>= next) input = .error error := by
  rw [bind_apply, first]

theorem bind_eq_ok {result : β × List UInt8} :
    (parser >>= next) input = .ok result ↔
      ∃ value rest, parser input = .ok (value, rest) ∧ next value rest = .ok result := by
  rw [bind_apply]
  cases parser input with
  | error => simp
  | ok first =>
    obtain ⟨value, rest⟩ := first
    simp

theorem bind_eq_error {error : Err} :
    (parser >>= next) input = .error error ↔ parser input = .error error ∨
        ∃ value rest, parser input = .ok (value, rest) ∧ next value rest = .error error := by
  rw [bind_apply]
  cases parser input with
  | error => simp
  | ok first =>
    obtain ⟨value, rest⟩ := first
    simp

variable {function : α → β}

theorem map_ne_panic (calm : ∀ message, parser input ≠ .error (.panic message)) (message : String) :
    (function <$> parser) input ≠ .error (.panic message) := by
  intro panics
  rcases bind_eq_error.mp panics with failed | ⟨_, _, _, failed⟩
  · exact calm message failed
  · cases failed

variable {condition : α → Bool}

theorem verify_ne_panic (calm : ∀ message, parser input ≠ .error (.panic message))
    (message : String) :
    parser.verify condition input ≠ .error (.panic message) := by
  intro panics
  rcases bind_eq_error.mp panics with failed | ⟨_, _, _, failed⟩
  · exact calm message failed
  · split at failed <;> cases failed

/-! Each combinator, taken apart where it succeeds. -/

theorem map_eq_ok {result : β} :
    (function <$> parser) input = .ok (result, rest) ↔
      ∃ value, parser input = .ok (value, rest) ∧ result = function value := by
  rw [map_apply]
  cases parser input with
  | error => simp
  | ok found =>
    obtain ⟨value, left⟩ := found
    simp only [Except.ok.injEq, Prod.mk.injEq]
    constructor
    · rintro ⟨rfl, rfl⟩
      exact ⟨value, ⟨rfl, rfl⟩, rfl⟩
    · rintro ⟨other, ⟨rfl, rfl⟩, rfl⟩
      exact ⟨rfl, rfl⟩

theorem verify_eq_ok {value : α} :
    parser.verify condition input = .ok (value, rest) ↔
      parser input = .ok (value, rest) ∧ condition value = true := by
  rw [verify, bind_eq_ok]
  constructor
  · rintro ⟨found, _, parsed, checked⟩
    by_cases holds : condition found = true
    · rw [if_pos holds] at checked
      cases checked
      exact ⟨parsed, holds⟩
    · rw [if_neg holds] at checked
      cases checked
  · rintro ⟨parsed, holds⟩
    refine ⟨value, rest, parsed, ?_⟩
    rw [if_pos holds]
    rfl

theorem mapRes_eq_ok {function : α → Except Err β} {result : β} :
    parser.mapRes function input = .ok (result, rest) ↔
      ∃ value, parser input = .ok (value, rest) ∧ function value = .ok result := by
  rw [mapRes, bind_eq_ok]
  constructor
  · rintro ⟨value, _, parsed, settled⟩
    cases outcome : function value with
    | ok =>
      rw [outcome] at settled
      cases settled
      exact ⟨value, parsed, outcome⟩
    | error error =>
      rw [outcome] at settled
      cases error <;> cases settled
  · rintro ⟨value, parsed, outcome⟩
    refine ⟨value, rest, parsed, ?_⟩
    rw [outcome]
    rfl

end Sequence

/-! ## Parsers that do not panic -/

def Calm (parser : Nom α) : Prop :=
  ∀ input message, parser input ≠ .error (.panic message)

section Calm

variable {parser : Nom α} {next : α → Nom β}

theorem calm_pure (value : α) : (pure value : Nom α).Calm := by
  intro input message panics
  cases panics

theorem Calm.bind (first : parser.Calm) (second : ∀ value, (next value).Calm) :
    (parser >>= next).Calm := by
  intro input message panics
  rcases bind_eq_error.mp panics with failed | ⟨value, rest, _, failed⟩
  · exact first input message failed
  · exact second value rest message failed

theorem Calm.map (first : parser.Calm) (function : α → β) : (function <$> parser).Calm :=
  fun input => map_ne_panic (first input)

theorem calm_take (count : Nat) : (take count).Calm := by
  intro input message panics
  rw [take] at panics
  split at panics <;> cases panics

theorem calm_takeWhileMN (least most : Nat) (condition : UInt8 → Bool) :
    (takeWhileMN least most condition).Calm := by
  intro input message panics
  rw [takeWhileMN] at panics
  split at panics <;> split at panics <;> cases panics

theorem calm_u8 : u8.Calm := by
  intro input message panics
  unfold u8 at panics
  split at panics <;> cases panics

theorem calm_u16 : u16.Calm := by
  intro input message panics
  unfold u16 at panics
  split at panics <;> cases panics

theorem calm_completeTake (count : Nat) : (completeTake count).Calm := by
  intro input message panics
  rw [completeTake] at panics
  split at panics <;> cases panics

theorem calm_completeU8 : completeU8.Calm := by
  intro input message panics
  unfold completeU8 at panics
  split at panics <;> cases panics

theorem calm_completeU16 : completeU16.Calm := by
  intro input message panics
  unfold completeU16 at panics
  split at panics <;> cases panics

theorem calm_rest : rest.Calm := by
  intro input message panics
  cases panics

theorem calm_stop {error : Err} (calm : ∀ message, error ≠ .panic message) :
    (stop error : Nom α).Calm := by
  intro input message panics
  cases panics
  exact calm message rfl

theorem Calm.mapRes (first : parser.Calm) {function : α → Except Err β}
    (second : ∀ value message, function value ≠ .error (.panic message)) :
    (parser.mapRes function).Calm := by
  apply first.bind
  intro value
  cases found : function value with
  | ok result => exact calm_pure result
  | error error =>
    cases error with
    | incomplete | error => exact calm_stop fun _ same => nomatch same
    | panic message => exact absurd found (second value message)

theorem Calm.many0 (each : parser.Calm) : Calm parser.many0 := by
  intro input
  induction size : input.length using Nat.strong_induction_on generalizing input with
  | _ size induction =>
    intro message panics
    rw [Nom.many0] at panics
    split at panics
    · cases panics
    · rename_i error found
      cases panics
      exact each input message found
    · rename_i value rest found
      split at panics
      · split at panics
        · cases panics
        · rename_i error failed
          cases panics
          exact induction rest.length (by omega) rest rfl message failed
      · cases panics

end Calm

/-! ## Answers that later input does not change -/

/-- Whatever arrives later, a value stays what it is, and so does an error that is no
request for more input. -/
structure Streaming (parser : Nom α) : Prop where
  value : ∀ {input value rest}, parser input = .ok (value, rest) → ∀ more,
    parser (input ++ more) = .ok (value, rest ++ more)
  error : ∀ {input error}, parser input = .error error → error ≠ .incomplete → ∀ more,
    parser (input ++ more) = .error error

section Streaming

variable {parser : Nom α} {next : α → Nom β}

theorem streaming_pure (value : α) : (pure value : Nom α).Streaming where
  value := by
    intro input found rest equal more
    cases equal
    rfl
  error := by
    intro input error equal
    cases equal

theorem streaming_stop (error : Err) : (stop error : Nom α).Streaming where
  value := by
    intro input found rest equal
    cases equal
  error := by
    intro input found equal _ more
    cases equal
    rfl

theorem Streaming.bind (first : parser.Streaming) (second : ∀ value, (next value).Streaming) :
    (parser >>= next).Streaming where
  value := by
    intro input result rest equal more
    rcases bind_eq_ok.mp equal with ⟨value, middle, firstEqual, secondEqual⟩
    rw [bind_ok (first.value firstEqual more)]
    exact (second value).value secondEqual more
  error := by
    intro input error equal known more
    rcases bind_eq_error.mp equal with failed | ⟨value, _, firstEqual, failed⟩
    · exact bind_error (first.error failed known more)
    · rw [bind_ok (first.value firstEqual more)]
      exact (second value).error failed known more

theorem Streaming.map (first : parser.Streaming) (function : α → β) :
    (function <$> parser).Streaming :=
  first.bind fun _ => streaming_pure _

theorem Streaming.verify (first : parser.Streaming) (condition : α → Bool) :
    (parser.verify condition).Streaming := by
  apply first.bind
  intro value
  split
  · exact streaming_pure value
  · exact streaming_stop _

theorem Streaming.mapRes (first : parser.Streaming) (function : α → Except Err β) :
    (parser.mapRes function).Streaming := by
  apply first.bind
  intro value
  rw [settle.eq_def]
  split
  · exact streaming_pure _
  · exact streaming_stop _
  · exact streaming_stop _

theorem streaming_take (count : Nat) : (take count).Streaming where
  value := by
    intro input value rest equal more
    rw [take] at equal
    split at equal
    · cases equal
    · cases equal
      have fits : count ≤ input.length := by omega
      rw [take, if_neg (by rw [List.length_append]; omega),
        List.take_append_of_le_length fits, List.drop_append_of_le_length fits]
  error := by
    intro input error equal known
    rw [take] at equal
    split at equal
    · cases equal
      exact absurd rfl known
    · cases equal

theorem streaming_u8 : u8.Streaming where
  value := by
    intro input value rest equal more
    unfold u8 at equal
    split at equal
    · cases equal
      rfl
    · cases equal
  error := by
    intro input error equal known
    unfold u8 at equal
    split at equal
    · cases equal
    · cases equal
      exact absurd rfl known

theorem streaming_takeWhileMN (most : Nat) (condition : UInt8 → Bool) :
    (takeWhileMN 0 most condition).Streaming where
  value := by
    intro input value rest equal more
    rw [takeWhileMN] at equal
    split at equal
    · rename_i index found
      cases equal
      have inside : index < input.length :=
        (List.findIdx?_eq_some_iff_getElem.mp found).1
      have fits : min index most ≤ input.length := by omega
      rw [takeWhileMN, List.findIdx?_append, found]
      dsimp only [Option.or]
      rw [if_pos (Nat.zero_le index), List.take_append_of_le_length fits,
        List.drop_append_of_le_length fits]
    · rename_i none
      split at equal
      · rename_i long
        cases equal
        have fits : most ≤ input.length := long
        rw [takeWhileMN, List.findIdx?_append, none]
        dsimp only [Option.or]
        cases found : more.findIdx? fun byte => !condition byte with
        | none =>
          dsimp only [Option.map]
          rw [if_pos (by rw [List.length_append]; omega), List.take_append_of_le_length fits,
            List.drop_append_of_le_length fits]
        | some index =>
          have least : min (index + input.length) most = most := by omega
          dsimp only [Option.map]
          rw [if_pos (Nat.zero_le _), least, List.take_append_of_le_length fits,
            List.drop_append_of_le_length fits]
      · cases equal
  error := by
    intro input error equal known
    rw [takeWhileMN] at equal
    split at equal
    · cases equal
    · split at equal
      · cases equal
      · cases equal
        exact absurd rfl known

end Streaming

/-! ## What a parser takes -/

def Takes (parser : Nom α) : Prop :=
  ∀ input value rest, parser input = .ok (value, rest) → ∃ used, input = used ++ rest

section Takes

variable {parser : Nom α} {next : α → Nom β}

theorem takes_pure (value : α) : (pure value : Nom α).Takes := by
  intro input found rest equal
  cases equal
  exact ⟨[], rfl⟩

theorem Takes.bind (first : parser.Takes) (second : ∀ value, (next value).Takes) :
    (parser >>= next).Takes := by
  intro input result rest equal
  rcases bind_eq_ok.mp equal with ⟨value, middle, firstEqual, secondEqual⟩
  rcases first input value middle firstEqual with ⟨used, rfl⟩
  rcases second value middle result rest secondEqual with ⟨more, rfl⟩
  exact ⟨used ++ more, by rw [List.append_assoc]⟩

theorem Takes.map (first : parser.Takes) (function : α → β) : (function <$> parser).Takes :=
  first.bind fun _ => takes_pure _

theorem Takes.verify (first : parser.Takes) (condition : α → Bool) :
    (parser.verify condition).Takes := by
  intro input value rest equal
  exact first input value rest (verify_eq_ok.mp equal).1

theorem Takes.mapRes (first : parser.Takes) (function : α → Except Err β) :
    (parser.mapRes function).Takes := by
  intro input result rest equal
  rcases mapRes_eq_ok.mp equal with ⟨value, parsed, _⟩
  exact first input value rest parsed

theorem takes_take (count : Nat) : (take count).Takes := by
  intro input value rest equal
  rw [take] at equal
  split at equal
  · cases equal
  · cases equal
    exact ⟨input.take count, (List.take_append_drop count input).symm⟩

theorem takes_u8 : u8.Takes := by
  intro input value rest equal
  unfold u8 at equal
  split at equal
  · cases equal
    exact ⟨[value], rfl⟩
  · cases equal

theorem takes_stop (error : Err) : (stop error : Nom α).Takes := by
  intro input value rest equal
  cases equal

theorem takes_takeWhileMN (least most : Nat) (condition : UInt8 → Bool) :
    (takeWhileMN least most condition).Takes := by
  intro input value rest equal
  rw [takeWhileMN] at equal
  split at equal <;> split at equal
  · cases equal
    exact ⟨_, (List.take_append_drop _ input).symm⟩
  · cases equal
  · cases equal
    exact ⟨_, (List.take_append_drop _ input).symm⟩
  · cases equal

end Takes

/-- The bytes that `consumed` reports are those in front of what is left. -/
theorem consumed_eq_ok {parser : Nom α} (takes : parser.Takes) {input used rest : List UInt8}
    {value : α} :
    parser.consumed input = .ok ((used, value), rest) ↔
      parser input = .ok (value, rest) ∧ input = used ++ rest := by
  rw [consumed]
  cases equal : parser input with
  | error => simp
  | ok result =>
    obtain ⟨found, left⟩ := result
    rcases takes input found left equal with ⟨_, rfl⟩
    simp only [List.length_append, Nat.add_sub_cancel, List.take_left, Except.ok.injEq,
      Prod.mk.injEq]
    constructor
    · rintro ⟨⟨rfl, rfl⟩, rfl⟩
      exact ⟨⟨rfl, rfl⟩, rfl⟩
    · rintro ⟨⟨rfl, rfl⟩, split⟩
      exact ⟨⟨List.append_cancel_right split, rfl⟩, rfl⟩

/-! ## Reading back what was written -/

/-- The parser takes exactly these bytes, whatever follows them, and returns the value. -/
def Reads (parser : Nom α) (written : List UInt8) (value : α) : Prop :=
  ∀ rest, parser (written ++ rest) = .ok (value, rest)

section Reads

variable {parser : Nom α} {next : α → Nom β} {written : List UInt8} {value : α}

theorem reads_pure (value : α) : (pure value : Nom α).Reads [] value :=
  fun _ => rfl

theorem Reads.bind {more : List UInt8} {result : β} (first : parser.Reads written value)
    (second : (next value).Reads more result) :
    (parser >>= next).Reads (written ++ more) result := by
  intro rest
  rw [List.append_assoc, bind_ok (first (more ++ rest))]
  exact second rest

theorem Reads.bind_apply (first : parser.Reads written value) (rest : List UInt8) :
    (parser >>= next) (written ++ rest) = next value rest :=
  bind_ok (first rest)

theorem Reads.map (first : parser.Reads written value) (function : α → β) :
    (function <$> parser).Reads written (function value) := by
  intro rest
  rw [map_apply, first rest]

theorem takeWhileMN_front {most : Nat} {condition : UInt8 → Bool} {front rest : List UInt8}
    {last : UInt8} (meets : ∀ byte ∈ front, condition byte = true)
    (ends : condition last = false) (few : front.length ≤ most) :
    takeWhileMN 0 most condition (front ++ last :: rest) = .ok (front, last :: rest) := by
  have index : (front ++ last :: rest).findIdx? (fun byte => !condition byte) =
      some front.length := by
    have none : front.findIdx? (fun byte => !condition byte) = none := by
      rw [List.findIdx?_eq_none_iff]
      intro byte member
      rw [meets byte member, Bool.not_true]
    rw [List.findIdx?_append, none, List.findIdx?_cons, ends]
    simp
  rw [takeWhileMN, index]
  dsimp only
  rw [if_pos (Nat.zero_le _), Nat.min_eq_left few, List.take_left, List.drop_left]

theorem reads_u8 (byte : UInt8) : u8.Reads [byte] byte :=
  fun _ => rfl

theorem reads_completeU8 (byte : UInt8) : completeU8.Reads [byte] byte :=
  fun _ => rfl

theorem reads_take (written : List UInt8) : (take written.length).Reads written written := by
  intro rest
  rw [take, if_neg (by rw [List.length_append]; omega), List.take_left, List.drop_left]

theorem reads_completeTake (written : List UInt8) :
    (completeTake written.length).Reads written written := by
  intro rest
  rw [completeTake, if_neg (by rw [List.length_append]; omega), List.take_left, List.drop_left]

theorem reads_u16 (value : UInt16) : u16.Reads (beU16 value) value := by
  intro rest
  exact congrArg (fun found => Except.ok (found, rest)) (ofBeU16_beU16 value)

theorem reads_completeU16 (value : UInt16) : completeU16.Reads (beU16 value) value := by
  intro rest
  exact congrArg (fun found => Except.ok (found, rest)) (ofBeU16_beU16 value)

theorem many0_nil (ends : ∃ kind, parser [] = .error (.error kind)) :
    parser.many0 [] = .ok ([], []) := by
  rcases ends with ⟨_, failed⟩
  rw [Nom.many0, failed]

theorem many0_flatMap (encode : α → List UInt8) {values : List α}
    (each : ∀ value ∈ values, parser.Reads (encode value) value ∧ encode value ≠ [])
    (ends : ∃ kind, parser [] = .error (.error kind)) :
    parser.many0 (values.flatMap encode) = .ok (values, []) := by
  induction values with
  | nil => exact many0_nil ends
  | cons value values induction =>
    have first := each value List.mem_cons_self
    have others := induction fun other member => each other (List.mem_cons_of_mem _ member)
    have shorter : (values.flatMap encode).length <
        (encode value ++ values.flatMap encode).length := by
      have positive := List.length_pos_of_ne_nil first.2
      rw [List.length_append]
      omega
    rw [List.flatMap_cons, Nom.many0, first.1]
    simp only [if_pos shorter, others]

end Reads

end Nom

end YedMQ.Foundation
