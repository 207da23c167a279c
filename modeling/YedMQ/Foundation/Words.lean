import Mathlib.Data.UInt

/-! # Words in network byte order, and variable byte integers

A variable byte integer has seven bits to a byte, the lowest first; the highest bit of a
byte says that another one follows.
-/

namespace YedMQ.Foundation

def beU16 (value : UInt16) : List UInt8 :=
  [UInt8.ofNat (value.toNat / 256), UInt8.ofNat value.toNat]

def ofBeU16 (high low : UInt8) : UInt16 :=
  UInt16.ofNat (high.toNat * 256 + low.toNat)

@[simp] theorem length_beU16 (value : UInt16) : (beU16 value).length = 2 := rfl

theorem toNat_ofBeU16 (high low : UInt8) :
    (ofBeU16 high low).toNat = high.toNat * 256 + low.toNat := by
  have highBound := high.toNat_lt
  have lowBound := low.toNat_lt
  rw [ofBeU16, UInt16.toNat_ofNat']
  omega

theorem ofBeU16_beU16 (value : UInt16) :
    ofBeU16 (UInt8.ofNat (value.toNat / 256)) (UInt8.ofNat value.toNat) = value := by
  have bound := value.toNat_lt
  apply UInt16.toNat_inj.mp
  rw [toNat_ofBeU16, UInt8.toNat_ofNat', UInt8.toNat_ofNat']
  omega

/-! ## Variable byte integers -/

def variableBytes (value : Nat) : List UInt8 :=
  if value / 128 = 0 then [UInt8.ofNat (value % 128)]
  else UInt8.ofNat (value % 128 ||| 128) :: variableBytes (value / 128)

variable (byte : UInt8)

def continues : Bool :=
  byte &&& 128 != 0

def sevenBits : Nat :=
  (byte &&& 127).toNat

theorem sevenBits_eq : sevenBits byte = byte.toNat % 128 := by
  rw [sevenBits, UInt8.toNat_and]
  exact Nat.and_two_pow_sub_one_eq_mod byte.toNat 7

theorem sevenBits_lt : sevenBits byte < 128 := by
  rw [sevenBits_eq]
  omega

theorem continues_iff : continues byte = true ↔ 128 ≤ byte.toNat := by
  have table : ∀ number : Fin 256, (number.val &&& 128 ≠ 0) ↔ 128 ≤ number.val := by
    decide +kernel
  rw [continues, bne_iff_ne, ne_eq, ← UInt8.toNat_inj, UInt8.toNat_and]
  exact table ⟨byte.toNat, byte.toNat_lt⟩

theorem or_high {low : Nat} (bound : low < 128) : low ||| 128 = low + 128 := by
  have split : 128 + low = 128 ||| low := Nat.two_pow_add_eq_or_of_lt (i := 7) bound 1
  rw [Nat.or_comm, ← split, Nat.add_comm]

variable {value : Nat}

theorem variableBytes_last (small : value < 128) : variableBytes value = [UInt8.ofNat value] := by
  rw [variableBytes, if_pos (by omega), Nat.mod_eq_of_lt small]

theorem variableBytes_more (large : 128 ≤ value) :
    variableBytes value = UInt8.ofNat (value % 128 + 128) :: variableBytes (value / 128) := by
  rw [variableBytes, if_neg (by omega), or_high (by omega)]

theorem sevenBits_ofNat_last (small : value < 128) :
    sevenBits (UInt8.ofNat value) = value ∧ continues (UInt8.ofNat value) = false := by
  have number : (UInt8.ofNat value).toNat = value := by
    rw [UInt8.toNat_ofNat']
    omega
  constructor
  · rw [sevenBits_eq, number]
    omega
  · rw [← Bool.not_eq_true, continues_iff, number]
    omega

theorem sevenBits_ofNat_more (value : Nat) :
    sevenBits (UInt8.ofNat (value % 128 + 128)) = value % 128 ∧
      continues (UInt8.ofNat (value % 128 + 128)) = true := by
  have number : (UInt8.ofNat (value % 128 + 128)).toNat = value % 128 + 128 := by
    rw [UInt8.toNat_ofNat']
    omega
  constructor
  · rw [sevenBits_eq, number]
    omega
  · rw [continues_iff, number]
    omega

/-- The encoding is the shortest one. -/
theorem length_variableBytes_le {count : Nat} (bound : value < 128 ^ (count + 1)) :
    (variableBytes value).length ≤ count + 1 := by
  induction count generalizing value with
  | zero =>
    rw [variableBytes_last (by omega), List.length_singleton]
  | succ count induction =>
    by_cases small : value < 128
    · rw [variableBytes_last small, List.length_singleton]
      omega
    · rw [variableBytes_more (by omega), List.length_cons]
      have rest : value / 128 < 128 ^ (count + 1) := by
        apply Nat.div_lt_of_lt_mul
        rw [Nat.mul_comm, ← Nat.pow_succ]
        exact bound
      have shorter := induction rest
      omega

example : variableBytes 268435455 = [0xFF, 0xFF, 0xFF, 0x7F] := by decide +kernel

end YedMQ.Foundation
