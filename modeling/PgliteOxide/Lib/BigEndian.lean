import Mathlib.Algebra.Group.Nat.Defs
import Mathlib.Algebra.Ring.Int.Defs
import Mathlib.Tactic.Common

/-!
# Big-endian integers

The byte encodings behind every counted or length-prefixed wire format: 16- and 32-bit
unsigned integers in network order, their signed readings, and `as usize` casts of the
signed readings.
-/

namespace Lib

/-- A byte string. -/
abbrev Bytes := List UInt8

/-! ## Unsigned -/

/-- `u16::from_be_bytes`. -/
def u16FromBe (a b : UInt8) : UInt16 :=
  UInt16.ofNat (a.toNat * 2 ^ 8 + b.toNat)

/-- `u32::from_be_bytes`. -/
def u32FromBe (a b c d : UInt8) : UInt32 :=
  UInt32.ofNat (a.toNat * 2 ^ 24 + b.toNat * 2 ^ 16 + c.toNat * 2 ^ 8 + d.toNat)

/-- `u16::to_be_bytes`. -/
def u16ToBe (v : UInt16) : Bytes :=
  [UInt8.ofNat (v.toNat / 2 ^ 8), UInt8.ofNat v.toNat]

/-- `u32::to_be_bytes`. -/
def u32ToBe (v : UInt32) : Bytes :=
  [UInt8.ofNat (v.toNat / 2 ^ 24), UInt8.ofNat (v.toNat / 2 ^ 16),
    UInt8.ofNat (v.toNat / 2 ^ 8), UInt8.ofNat v.toNat]

@[simp] lemma length_u16ToBe (v : UInt16) : (u16ToBe v).length = 2 := rfl

@[simp] lemma length_u32ToBe (v : UInt32) : (u32ToBe v).length = 4 := rfl

/-- The value of four bytes in network order. -/
lemma toNat_u32FromBe (a b c d : UInt8) :
    (u32FromBe a b c d).toNat
      = a.toNat * 2 ^ 24 + b.toNat * 2 ^ 16 + c.toNat * 2 ^ 8 + d.toNat := by
  have ha := a.toNat_lt
  have hb := b.toNat_lt
  have hc := c.toNat_lt
  have hd := d.toNat_lt
  rw [u32FromBe, UInt32.toNat_ofNat', Nat.mod_eq_of_lt (by omega)]

/-- Reading back the two bytes of a 16-bit integer. -/
lemma u16FromBe_toBe (v : UInt16) :
    u16FromBe (UInt8.ofNat (v.toNat / 2 ^ 8)) (UInt8.ofNat v.toNat) = v := by
  have hv := v.toNat_lt
  apply UInt16.toNat_inj.mp
  simp only [u16FromBe, UInt16.toNat_ofNat', UInt8.toNat_ofNat']
  omega

/-- Reading back the four bytes of a 32-bit integer. -/
lemma u32FromBe_toBe (v : UInt32) :
    u32FromBe (UInt8.ofNat (v.toNat / 2 ^ 24)) (UInt8.ofNat (v.toNat / 2 ^ 16))
      (UInt8.ofNat (v.toNat / 2 ^ 8)) (UInt8.ofNat v.toNat) = v := by
  have hv := v.toNat_lt
  apply UInt32.toNat_inj.mp
  simp only [u32FromBe, UInt32.toNat_ofNat', UInt8.toNat_ofNat']
  omega

/-- Two bytes are the encoding of the integer they read as. -/
lemma u16ToBe_fromBe (a b : UInt8) : u16ToBe (u16FromBe a b) = [a, b] := by
  have ha := a.toNat_lt
  have hb := b.toNat_lt
  have hval : (u16FromBe a b).toNat = a.toNat * 2 ^ 8 + b.toNat := by
    rw [u16FromBe, UInt16.toNat_ofNat', Nat.mod_eq_of_lt (by omega)]
  rw [u16ToBe, hval]
  simp only [List.cons.injEq, and_true, ← UInt8.toNat_inj, UInt8.toNat_ofNat']
  omega

/-- Four bytes are the encoding of the integer they read as. -/
lemma u32ToBe_fromBe (a b c d : UInt8) : u32ToBe (u32FromBe a b c d) = [a, b, c, d] := by
  have ha := a.toNat_lt
  have hb := b.toNat_lt
  have hc := c.toNat_lt
  have hd := d.toNat_lt
  rw [u32ToBe, toNat_u32FromBe]
  simp only [List.cons.injEq, and_true, ← UInt8.toNat_inj, UInt8.toNat_ofNat']
  omega

/-! ## Signed -/

/-- `i16::from_be_bytes`. -/
def i16FromBe (a b : UInt8) : Int16 := (u16FromBe a b).toInt16

/-- `i32::from_be_bytes`. -/
def i32FromBe (a b c d : UInt8) : Int32 := (u32FromBe a b c d).toInt32

/-- `i16::to_be_bytes`. -/
def i16ToBe (v : Int16) : Bytes := u16ToBe v.toUInt16

/-- `i32::to_be_bytes`. -/
def i32ToBe (v : Int32) : Bytes := u32ToBe v.toUInt32

@[simp] lemma length_i16ToBe (v : Int16) : (i16ToBe v).length = 2 := rfl

@[simp] lemma length_i32ToBe (v : Int32) : (i32ToBe v).length = 4 := rfl

lemma i16FromBe_toBe (v : Int16) :
    i16FromBe (UInt8.ofNat (v.toUInt16.toNat / 2 ^ 8)) (UInt8.ofNat v.toUInt16.toNat) = v := by
  rw [i16FromBe, u16FromBe_toBe, Int16.toInt16_toUInt16]

lemma i32FromBe_toBe (v : Int32) :
    i32FromBe (UInt8.ofNat (v.toUInt32.toNat / 2 ^ 24)) (UInt8.ofNat (v.toUInt32.toNat / 2 ^ 16))
      (UInt8.ofNat (v.toUInt32.toNat / 2 ^ 8)) (UInt8.ofNat v.toUInt32.toNat) = v := by
  rw [i32FromBe, u32FromBe_toBe, Int32.toInt32_toUInt32]

lemma i16ToBe_fromBe (a b : UInt8) : i16ToBe (i16FromBe a b) = [a, b] := by
  rw [i16ToBe, i16FromBe, UInt16.toUInt16_toInt16, u16ToBe_fromBe]

lemma i32ToBe_fromBe (a b c d : UInt8) : i32ToBe (i32FromBe a b c d) = [a, b, c, d] := by
  rw [i32ToBe, i32FromBe, UInt32.toUInt32_toInt32, u32ToBe_fromBe]

/-- A small natural number is kept by the cast to `i32`. -/
lemma toInt_ofNat_toInt32 {n : ℕ} (h : n < 2 ^ 31) : (UInt32.ofNat n).toInt32.toInt = n := by
  have hn : (UInt32.ofNat n).toNat = n := by
    rw [UInt32.toNat_ofNat', Nat.mod_eq_of_lt (by omega)]
  show (UInt32.ofNat n).toBitVec.toInt = n
  rw [BitVec.toInt_eq_toNat_of_lt]
  · show (((UInt32.ofNat n).toNat : ℕ) : ℤ) = n
    rw [hn]
  · show 2 * (UInt32.ofNat n).toNat < 2 ^ 32
    omega

/-- `v as usize` for an `i16`: sign extension to 64 bits. -/
def i16AsUsize (v : Int16) : ℕ := (v.toInt % 2 ^ 64).toNat

/-- `v as usize` for an `i32`: sign extension to 64 bits. -/
def i32AsUsize (v : Int32) : ℕ := (v.toInt % 2 ^ 64).toNat

lemma i16AsUsize_of_nonneg {v : Int16} (h : 0 ≤ v.toInt) : i16AsUsize v = v.toInt.toNat := by
  have hlt := v.toInt_lt
  rw [i16AsUsize, Int.emod_eq_of_lt h (by omega)]

/-- A negative 16-bit count becomes an address at the very top of the address space. -/
lemma i16AsUsize_of_neg {v : Int16} (h : v.toInt < 0) : 2 ^ 64 - 2 ^ 15 ≤ i16AsUsize v := by
  have hle := v.le_toInt
  rw [i16AsUsize]
  omega

lemma i32AsUsize_of_nonneg {v : Int32} (h : 0 ≤ v.toInt) : i32AsUsize v = v.toInt.toNat := by
  have hlt := v.toInt_lt
  rw [i32AsUsize, Int.emod_eq_of_lt h (by omega)]

lemma i32AsUsize_of_neg {v : Int32} (h : v.toInt < 0) :
    (i32AsUsize v : Int) = 2 ^ 64 + v.toInt := by
  have hle := v.le_toInt
  rw [i32AsUsize]
  omega

end Lib
