import Mathlib.Data.List.Basic
import Mathlib.Data.UInt

/-! # Standard base64 with padding

Texts are encoded byte by byte from their UTF-8 form. Two facts make encoded texts
usable as parts of composite keys: the encoding is injective, and it never contains a
character outside its alphabet, such as a separating colon.
-/

namespace YedMQ.Foundation.Base64

def alphabet : List Char :=
  "ABCDEFGHIJKLMNOPQRSTUVWXYZabcdefghijklmnopqrstuvwxyz0123456789+/".toList

def digit (value : Nat) : Char :=
  alphabet.getD value '='

def encodeBytes : List UInt8 → List Char
  | [] => []
  | [first] =>
    [digit (first.toNat / 4), digit (first.toNat % 4 * 16), '=', '=']
  | [first, second] =>
    [digit (first.toNat / 4), digit (first.toNat % 4 * 16 + second.toNat / 16),
      digit (second.toNat % 16 * 4), '=']
  | first :: second :: third :: rest =>
    digit (first.toNat / 4) :: digit (first.toNat % 4 * 16 + second.toNat / 16) ::
      digit (second.toNat % 16 * 4 + third.toNat / 64) ::
      digit (third.toNat % 64) :: encodeBytes rest

variable (text : String)

def encode : String :=
  String.ofList (encodeBytes text.toByteArray.data.toList)

theorem idxOf_digit : ∀ value : Fin 64, alphabet.idxOf (digit value) = value := by
  decide +kernel

theorem digit_ne_separators : ∀ value : Fin 64, digit value ≠ '=' ∧ digit value ≠ ':' := by
  decide +kernel

def sextet (char : Char) : Option Nat :=
  if alphabet.idxOf char < 64 then some (alphabet.idxOf char) else none

/-- Decode whole groups of four characters. Padding stands in the last group only, and the
bits that a padded group leaves over are zero. -/
def decodeBytes : List Char → Option (List UInt8)
  | [] => some []
  | first :: second :: third :: fourth :: rest => do
    let high ← sextet first
    let middle ← sextet second
    let byte := UInt8.ofNat (high * 4 + middle / 16)
    if third = '=' then
      if fourth = '=' ∧ rest = [] ∧ middle % 16 = 0 then some [byte] else none
    else
      let low ← sextet third
      let next := UInt8.ofNat (middle % 16 * 16 + low / 4)
      if fourth = '=' then
        if rest = [] ∧ low % 4 = 0 then some [byte, next] else none
      else
        let last ← sextet fourth
        let bytes ← decodeBytes rest
        some (byte :: next :: UInt8.ofNat (low % 4 * 64 + last) :: bytes)
  | _ => none

variable {value : Nat}

theorem sextet_digit (bound : value < 64) : sextet (digit value) = some value := by
  have index := idxOf_digit ⟨value, bound⟩
  rw [sextet, show alphabet.idxOf (digit value) = value from index, if_pos bound]

theorem digit_ne_padding (bound : value < 64) : digit value ≠ '=' :=
  (digit_ne_separators ⟨value, bound⟩).1

theorem ofNat_eq {byte : UInt8} (same : value = byte.toNat) : UInt8.ofNat value = byte := by
  rw [same, UInt8.ofNat_toNat]

theorem decodeBytes_encodeBytes : ∀ bytes : List UInt8, decodeBytes (encodeBytes bytes) = some bytes
  | [] => rfl
  | [first] => by
    have bound := first.toNat_lt
    have byte : UInt8.ofNat (first.toNat / 4 * 4 + first.toNat % 4 * 16 / 16) = first :=
      ofNat_eq (by omega)
    simp (disch := omega) only [encodeBytes, decodeBytes, sextet_digit, Option.bind_eq_bind,
      Option.bind_some, byte]
    simp
  | [first, second] => by
    have bound := first.toNat_lt
    have secondBound := second.toNat_lt
    have byte : UInt8.ofNat (first.toNat / 4 * 4 +
        (first.toNat % 4 * 16 + second.toNat / 16) / 16) = first :=
      ofNat_eq (by omega)
    have next : UInt8.ofNat ((first.toNat % 4 * 16 + second.toNat / 16) % 16 * 16 +
        second.toNat % 16 * 4 / 4) = second :=
      ofNat_eq (by omega)
    simp (disch := omega) only [encodeBytes, decodeBytes, sextet_digit, digit_ne_padding,
      Option.bind_eq_bind, Option.bind_some, byte, next]
    simp
  | first :: second :: third :: rest => by
    have bound := first.toNat_lt
    have secondBound := second.toNat_lt
    have thirdBound := third.toNat_lt
    have byte : UInt8.ofNat (first.toNat / 4 * 4 +
        (first.toNat % 4 * 16 + second.toNat / 16) / 16) = first :=
      ofNat_eq (by omega)
    have next : UInt8.ofNat ((first.toNat % 4 * 16 + second.toNat / 16) % 16 * 16 +
        (second.toNat % 16 * 4 + third.toNat / 64) / 4) = second :=
      ofNat_eq (by omega)
    have last : UInt8.ofNat ((second.toNat % 16 * 4 + third.toNat / 64) % 4 * 64 +
        third.toNat % 64) = third :=
      ofNat_eq (by omega)
    simp (disch := omega) only [encodeBytes, decodeBytes, sextet_digit, digit_ne_padding,
      decodeBytes_encodeBytes rest, Option.bind_eq_bind, Option.bind_some, byte, next, last]
    simp

def decode : Option (List UInt8) :=
  decodeBytes text.toList

theorem decode_encode : decode (encode text) = some text.toByteArray.data.toList := by
  rw [decode, encode, String.toList_ofList, decodeBytes_encodeBytes]

theorem encode_injective {left right : String} (equal : encode left = encode right) :
    left = right := by
  have decoded := decode_encode left
  rw [equal, decode_encode] at decoded
  have bytes := (Option.some.inj decoded).symm
  apply String.toByteArray_inj.mp
  exact ByteArray.ext (Array.toList_inj.mp bytes)

theorem colon_ne_digit (bound : value < 64) : ':' ≠ digit value :=
  (digit_ne_separators ⟨value, bound⟩).2.symm

theorem colon_notMem_encodeBytes : ∀ bytes : List UInt8, ':' ∉ encodeBytes bytes
  | [] => by simp [encodeBytes]
  | [first] => by
    have bound := first.toNat_lt
    simp (disch := omega) [encodeBytes, colon_ne_digit]
  | [first, second] => by
    have firstBound := first.toNat_lt
    have secondBound := second.toNat_lt
    simp (disch := omega) [encodeBytes, colon_ne_digit]
  | first :: second :: third :: rest => by
    have firstBound := first.toNat_lt
    have secondBound := second.toNat_lt
    have thirdBound := third.toNat_lt
    simp (disch := omega) [encodeBytes, colon_ne_digit, colon_notMem_encodeBytes rest]

theorem colon_notMem_encode : ':' ∉ (encode text).toList := by
  rw [encode, String.toList_ofList]
  exact colon_notMem_encodeBytes _

/-- The encoding of a text that shows all three lengths of the last group. -/
example : [encode "a", encode "ab", encode "abc"] = ["YQ==", "YWI=", "YWJj"] := by
  decide

end YedMQ.Foundation.Base64
