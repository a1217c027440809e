import CkbAccount.RustOutcomeProofs

/-! # Little-endian integers

    `to_le_bytes` and `from_le_bytes` for the unsigned widths, through one pair of
    functions on natural numbers: `leBytes n v` writes the low `n` bytes of `v`,
    `leValue` reads a byte string back.  The two are inverse on strings of the
    right length (`leBytes_leValue`) and on values that fit (`leValue_leBytes`), so
    every fixed-width codec below is a bijection with no case analysis on bytes. -/

namespace LittleEndian

open RustOutcome

/-- The `n` low bytes of `v`, least significant first. -/
def leBytes : Nat → Nat → Bytes
  | 0, _ => []
  | n + 1, v => UInt8.ofNat v :: leBytes n (v / 256)

/-- The value of a byte string, least significant byte first. -/
def leValue : Bytes → Nat
  | [] => 0
  | b :: bs => b.toNat + 256 * leValue bs

@[simp] theorem leBytes_length (n v : Nat) : (leBytes n v).length = n := by
  induction n generalizing v with
  | zero => rfl
  | succ n ih =>
      show (leBytes n (v / 256)).length + 1 = n + 1
      rw [ih]

/-- A number of `n` bytes is below `256 ^ n`. -/
theorem leValue_lt (bs : Bytes) : leValue bs < 256 ^ bs.length := by
  induction bs with
  | nil => decide
  | cons b bs ih =>
      have hb : b.toNat < 256 := b.toNat_lt
      show b.toNat + 256 * leValue bs < 256 ^ (bs.length + 1)
      rw [Nat.pow_succ]
      omega

/-- Writing then reading keeps the low bytes. -/
theorem leValue_leBytes (n v : Nat) : leValue (leBytes n v) = v % 256 ^ n := by
  induction n generalizing v with
  | zero =>
      rw [Nat.pow_zero, Nat.mod_one]
      rfl
  | succ n ih =>
      show (UInt8.ofNat v).toNat + 256 * leValue (leBytes n (v / 256)) = v % 256 ^ (n + 1)
      have hb : (UInt8.ofNat v).toNat = v % 256 := UInt8.toNat_ofNat'
      rw [ih, hb, Nat.pow_succ, Nat.mul_comm (256 ^ n) 256, Nat.mod_mul]

/-- A number that fits is read back. -/
theorem leValue_leBytes_of_lt {n v : Nat} (h : v < 256 ^ n) :
    leValue (leBytes n v) = v := by
  rw [leValue_leBytes, Nat.mod_eq_of_lt h]

/-- Reading then writing returns the string. -/
theorem leBytes_leValue (bs : Bytes) : leBytes bs.length (leValue bs) = bs := by
  induction bs with
  | nil => rfl
  | cons b bs ih =>
      have hb : b.toNat < 256 := b.toNat_lt
      show UInt8.ofNat (b.toNat + 256 * leValue bs)
          :: leBytes bs.length ((b.toNat + 256 * leValue bs) / 256) = b :: bs
      have hhead : UInt8.ofNat (b.toNat + 256 * leValue bs) = b := by
        apply UInt8.toNat_inj.mp
        rw [UInt8.toNat_ofNat', Nat.add_mul_mod_self_left, Nat.mod_eq_of_lt hb]
      have htail : (b.toNat + 256 * leValue bs) / 256 = leValue bs := by omega
      rw [hhead, htail, ih]

/-! ## The unsigned widths -/

/-- `u16::to_le_bytes`. -/
def u16Le (v : UInt16) : Bytes := leBytes 2 v.toNat

/-- `u32::to_le_bytes`. -/
def u32Le (v : UInt32) : Bytes := leBytes 4 v.toNat

/-- `u64::to_le_bytes`. -/
def u64Le (v : UInt64) : Bytes := leBytes 8 v.toNat

/-- `u16::from_le_bytes`. -/
def u16FromLe (b : Bytes) : UInt16 := UInt16.ofNat (leValue b)

/-- `u32::from_le_bytes`. -/
def u32FromLe (b : Bytes) : UInt32 := UInt32.ofNat (leValue b)

/-- `u64::from_le_bytes`. -/
def u64FromLe (b : Bytes) : UInt64 := UInt64.ofNat (leValue b)

@[simp] theorem u16Le_length (v : UInt16) : (u16Le v).length = 2 := leBytes_length 2 _
@[simp] theorem u32Le_length (v : UInt32) : (u32Le v).length = 4 := leBytes_length 4 _
@[simp] theorem u64Le_length (v : UInt64) : (u64Le v).length = 8 := leBytes_length 8 _

@[simp] theorem u16FromLe_u16Le (v : UInt16) : u16FromLe (u16Le v) = v := by
  rw [u16FromLe, u16Le, leValue_leBytes_of_lt v.toNat_lt, UInt16.ofNat_toNat]

@[simp] theorem u32FromLe_u32Le (v : UInt32) : u32FromLe (u32Le v) = v := by
  rw [u32FromLe, u32Le, leValue_leBytes_of_lt v.toNat_lt, UInt32.ofNat_toNat]

@[simp] theorem u64FromLe_u64Le (v : UInt64) : u64FromLe (u64Le v) = v := by
  rw [u64FromLe, u64Le, leValue_leBytes_of_lt v.toNat_lt, UInt64.ofNat_toNat]

/-- `u16::from_le_bytes` reads the number. -/
theorem u16FromLe_toNat {b : Bytes} (h : b.length = 2) :
    (u16FromLe b).toNat = leValue b := by
  have hlt := leValue_lt b
  rw [h] at hlt
  exact UInt16.toNat_ofNat_of_lt' (Nat.lt_of_lt_of_eq hlt (by decide))

/-- `u32::from_le_bytes` reads the number. -/
theorem u32FromLe_toNat {b : Bytes} (h : b.length = 4) :
    (u32FromLe b).toNat = leValue b := by
  have hlt := leValue_lt b
  rw [h] at hlt
  exact UInt32.toNat_ofNat_of_lt' (Nat.lt_of_lt_of_eq hlt (by decide))

/-- `u64::from_le_bytes` reads the number. -/
theorem u64FromLe_toNat {b : Bytes} (h : b.length = 8) :
    (u64FromLe b).toNat = leValue b := by
  have hlt := leValue_lt b
  rw [h] at hlt
  exact UInt64.toNat_ofNat_of_lt' (Nat.lt_of_lt_of_eq hlt (by decide))

theorem u16Le_u16FromLe {b : Bytes} (h : b.length = 2) : u16Le (u16FromLe b) = b := by
  rw [u16Le, u16FromLe_toNat h, ← h, leBytes_leValue]

theorem u32Le_u32FromLe {b : Bytes} (h : b.length = 4) : u32Le (u32FromLe b) = b := by
  rw [u32Le, u32FromLe_toNat h, ← h, leBytes_leValue]

theorem u64Le_u64FromLe {b : Bytes} (h : b.length = 8) : u64Le (u64FromLe b) = b := by
  rw [u64Le, u64FromLe_toNat h, ← h, leBytes_leValue]

/-- Reading back `(n as u16).to_le_bytes()` for a length that fits. -/
theorem leValue_u16Le_ofNat {n : Nat} (h : n < 2 ^ 16) :
    leValue (u16Le (UInt16.ofNat n)) = n := by
  rw [u16Le, UInt16.toNat_ofNat', Nat.mod_eq_of_lt h, leValue_leBytes_of_lt h]

/-- Reading back `(n as u32).to_le_bytes()` for a length that fits. -/
theorem leValue_u32Le_ofNat {n : Nat} (h : n < 2 ^ 32) :
    leValue (u32Le (UInt32.ofNat n)) = n := by
  rw [u32Le, UInt32.toNat_ofNat', Nat.mod_eq_of_lt h, leValue_leBytes_of_lt h]

/-- Two bytes determine the number. -/
theorem u16Le_inj {v w : UInt16} (h : u16Le v = u16Le w) : v = w := by
  rw [← u16FromLe_u16Le v, h, u16FromLe_u16Le]

/-- Eight bytes determine the number. -/
theorem u64Le_inj {v w : UInt64} (h : u64Le v = u64Le w) : v = w := by
  rw [← u64FromLe_u64Le v, h, u64FromLe_u64Le]

end LittleEndian
