import Mathlib.Data.UInt

/-! # UTF-8 texts as bytes

Strict decoding accepts the encodings of texts and nothing else. Lossy decoding accepts
all bytes: what is no character is replaced, as many bytes at a time as could have begun
one. A replaced byte grows to three, so that lossy decoding may lengthen a text.
-/

namespace YedMQ.Foundation.Utf8

def encode (text : String) : List UInt8 :=
  text.toByteArray.data.toList

def decode (bytes : List UInt8) : Option String :=
  String.fromUTF8? bytes.toByteArray

theorem decode_encode (text : String) : decode (encode text) = some text := by
  have bytes : (encode text).toByteArray = text.toByteArray := by
    apply ByteArray.ext
    simp [encode]
  rw [decode, bytes, String.fromUTF8?, dif_pos text.isValidUTF8]
  rfl

/-! ## Lossy decoding -/

def replacement : Char := Char.ofNat 0xFFFD

def isContinuation (byte : UInt8) : Bool :=
  byte &&& 0xC0 == 0x80

def charWidth (first : UInt8) : Nat :=
  if first < 0x80 then 1
  else if first < 0xC2 then 0
  else if first < 0xE0 then 2
  else if first < 0xF0 then 3
  else if first < 0xF5 then 4
  else 0

def secondFits (first second : UInt8) : Bool :=
  if first = 0xE0 then 0xA0 ≤ second && second ≤ 0xBF
  else if first = 0xED then 0x80 ≤ second && second ≤ 0x9F
  else if first = 0xF0 then 0x90 ≤ second && second ≤ 0xBF
  else if first = 0xF4 then 0x80 ≤ second && second ≤ 0x8F
  else 0x80 ≤ second && second ≤ 0xBF

/-- How many bytes are replaced together at the front of bytes that begin with no character. -/
def replacedWidth : List UInt8 → Nat
  | first :: second :: rest =>
    if 3 ≤ charWidth first && secondFits first second then
      if charWidth first = 4 && rest.head?.any isContinuation then 3 else 2
    else 1
  | _ => 1

theorem replacedWidth_pos (bytes : List UInt8) : 0 < replacedWidth bytes := by
  unfold replacedWidth
  split
  · split
    · split <;> omega
    · omega
  · omega

def lossyChars (bytes : List UInt8) : List Char :=
  if bytes = [] then []
  else
    match bytes.toByteArray.utf8DecodeChar? 0 with
    | some char => char :: lossyChars (bytes.drop char.utf8Size)
    | none => replacement :: lossyChars (bytes.drop (replacedWidth bytes))
termination_by bytes.length
decreasing_by
  · have := char.utf8Size_pos
    have := List.length_pos_of_ne_nil ‹bytes ≠ []›
    rw [List.length_drop]
    omega
  · have := replacedWidth_pos bytes
    have := List.length_pos_of_ne_nil ‹bytes ≠ []›
    rw [List.length_drop]
    omega

def decodeLossy (bytes : List UInt8) : String :=
  String.ofList (lossyChars bytes)

theorem utf8DecodeChar_encodeChar (char : Char) (rest : List UInt8) :
    (String.utf8EncodeChar char ++ rest).toByteArray.utf8DecodeChar? 0 = some char := by
  rw [List.toByteArray_append]
  exact ByteArray.utf8DecodeChar?_utf8EncodeChar_append

theorem lossyChars_encodeChar (char : Char) (rest : List UInt8) :
    lossyChars (String.utf8EncodeChar char ++ rest) = char :: lossyChars rest := by
  have width : (String.utf8EncodeChar char).length = char.utf8Size :=
    String.length_utf8EncodeChar char
  have nonempty : String.utf8EncodeChar char ++ rest ≠ [] := by
    intro empty
    have positive := char.utf8Size_pos
    have none := congrArg List.length empty
    simp only [List.length_append, List.length_nil] at none
    omega
  rw [lossyChars, if_neg nonempty, utf8DecodeChar_encodeChar]
  simp

theorem lossyChars_flatMap (chars : List Char) :
    lossyChars (chars.flatMap String.utf8EncodeChar) = chars := by
  induction chars with
  | nil =>
    rw [List.flatMap_nil, lossyChars, if_pos rfl]
  | cons char chars induction =>
    rw [List.flatMap_cons, lossyChars_encodeChar, induction]

theorem encode_eq_flatMap (text : String) :
    encode text = text.toList.flatMap String.utf8EncodeChar := by
  have encoded : text.toList.utf8Encode = text.toByteArray := String.utf8Encode_toList
  rw [encode, ← encoded, List.utf8Encode]
  simp

@[simp] theorem decodeLossy_encode (text : String) : decodeLossy (encode text) = text := by
  rw [decodeLossy, encode_eq_flatMap, lossyChars_flatMap, String.ofList_toList]

theorem encode_decodeLossy (bytes : List UInt8) :
    encode (decodeLossy bytes) = (lossyChars bytes).flatMap String.utf8EncodeChar := by
  rw [encode_eq_flatMap, decodeLossy, String.toList_ofList]

example : decodeLossy [0x41, 0xE2, 0x82, 0x41] = "A\uFFFDA" := by decide +kernel

/-! Texts that are cut short. -/

theorem length_lossyChars_le (bytes : List UInt8) : (lossyChars bytes).length ≤ bytes.length := by
  induction bytes using lossyChars.induct with
  | case1 =>
    rw [lossyChars]
    exact Nat.le_refl _
  | case2 bytes nonempty char found induction =>
    have shorter := char.utf8Size_pos
    have positive := List.length_pos_of_ne_nil nonempty
    rw [List.length_drop] at induction
    rw [lossyChars, if_neg nonempty, found]
    simp only [List.length_cons]
    omega
  | case3 bytes nonempty found induction =>
    have shorter := replacedWidth_pos bytes
    have positive := List.length_pos_of_ne_nil nonempty
    rw [List.length_drop] at induction
    rw [lossyChars, if_neg nonempty, found]
    simp only [List.length_cons]
    omega

theorem length_flatMap_encodeChar_le (chars : List Char) :
    (chars.flatMap String.utf8EncodeChar).length ≤ 4 * chars.length := by
  induction chars with
  | nil => exact Nat.zero_le _
  | cons char chars induction =>
    have width := char.utf8Size_le_four
    rw [List.flatMap_cons, List.length_append, String.length_utf8EncodeChar, List.length_cons]
    omega

/-- A text that is read back from its first bytes has only a few bytes more. -/
theorem length_le_of_lossyChars_take {chars : List Char} {count : Nat}
    (equal : lossyChars ((chars.flatMap String.utf8EncodeChar).take count) = chars) :
    (chars.flatMap String.utf8EncodeChar).length ≤ count + 12 := by
  induction chars generalizing count with
  | nil => exact Nat.zero_le _
  | cons char chars induction =>
    have width : (String.utf8EncodeChar char).length = char.utf8Size :=
      String.length_utf8EncodeChar char
    by_cases whole : char.utf8Size ≤ count
    · -- the first character is read back, so the rest is a shorter text cut short
      rw [List.flatMap_cons, List.take_append, List.take_of_length_le (by omega),
        lossyChars_encodeChar] at equal
      have rest := induction (List.cons.inj equal).2
      rw [List.flatMap_cons, List.length_append]
      omega
    · -- less than four bytes are left, and no more than three characters
      have few := length_lossyChars_le (((char :: chars).flatMap String.utf8EncodeChar).take count)
      rw [equal, List.length_take] at few
      have size := char.utf8Size_le_four
      have bytes := length_flatMap_encodeChar_le (char :: chars)
      omega

theorem length_encode_le_of_take {text : String} {count : Nat}
    (equal : decodeLossy ((encode text).take count) = text) :
    (encode text).length ≤ count + 12 := by
  have chars := congrArg String.toList equal
  rw [decodeLossy, String.toList_ofList, encode_eq_flatMap] at chars
  rw [encode_eq_flatMap]
  exact length_le_of_lossyChars_take chars

/-! Bytes that begin no character. -/

theorem utf8DecodeChar_invalid (rest : List UInt8) :
    (0xFF :: rest).toByteArray.utf8DecodeChar? 0 = none := by
  have positive : 0 < (0xFF :: rest).toByteArray.size := by simp
  have invalid : ByteArray.utf8DecodeChar?.parseFirstByte (0xFF :: rest).toByteArray[0] =
      .invalid := by
    simp only [List.getElem_toByteArray, List.getElem_cons_zero]
    rfl
  rw [ByteArray.utf8DecodeChar?, dif_pos positive]
  split
  · rfl
  all_goals
    rename_i found
    rw [invalid] at found
    cases found

theorem lossyChars_replicate (count : Nat) :
    lossyChars (List.replicate count 0xFF) = List.replicate count replacement := by
  induction count with
  | zero => rw [List.replicate_zero, lossyChars, if_pos rfl, List.replicate_zero]
  | succ count induction =>
    have single : replacedWidth (0xFF :: List.replicate count 0xFF) = 1 := by
      cases count <;> rfl
    rw [List.replicate_succ, lossyChars, if_neg (List.cons_ne_nil _ _), utf8DecodeChar_invalid]
    simp [single, induction, List.replicate_succ]

theorem length_encode_replicate (count : Nat) :
    (encode (decodeLossy (List.replicate count 0xFF))).length = 3 * count := by
  have three : replacement.utf8Size = 3 := rfl
  rw [encode_decodeLossy, lossyChars_replicate]
  induction count with
  | zero => rfl
  | succ count induction =>
    rw [List.replicate_succ, List.flatMap_cons, List.length_append, String.length_utf8EncodeChar]
    omega

end YedMQ.Foundation.Utf8
