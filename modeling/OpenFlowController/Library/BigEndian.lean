/-
Module: Library.BigEndian
Purpose: Numbers as big-endian byte strings of a fixed width, and the two directions of
  their round trip.
Trusted boundary: none
-/
import Mathlib

namespace OpenFlowController.Library

open List

/-- The number that a byte string spells, most significant byte first. -/
def netNat (bytes : List UInt8) : Nat :=
  bytes.foldl (fun value byte => 256 * value + byte.toNat) 0

/-- The last `width` bytes of a number, most significant byte first. -/
def netBytes : Nat → Nat → List UInt8
  | 0, _ => []
  | width + 1, value => netBytes width (value / 256) ++ [UInt8.ofNat value]

@[simp] theorem netNat_nil : netNat [] = 0 := rfl

theorem netNat_concat (bytes : List UInt8) (byte : UInt8) :
    netNat (bytes ++ [byte]) = 256 * netNat bytes + byte.toNat := by
  simp [netNat, foldl_append]

variable (width value : Nat)

@[simp] theorem length_netBytes : (netBytes width value).length = width := by
  induction width generalizing value with
  | zero => rfl
  | succ width ih => simp [netBytes, ih]

theorem netNat_lt (bytes : List UInt8) : netNat bytes < 256 ^ bytes.length := by
  induction bytes using List.reverseRecOn with
  | nil => decide
  | append_singleton bytes byte ih =>
  have small : byte.toNat < 256 := byte.toNat_lt
  have grows : 256 ^ (bytes ++ [byte]).length = 256 * 256 ^ bytes.length := by
    rw [length_append, length_singleton, Nat.pow_succ, Nat.mul_comm]
  rw [netNat_concat, grows]
  omega

theorem netNat_append (high low : List UInt8) :
    netNat (high ++ low) = 256 ^ low.length * netNat high + netNat low := by
  induction low using List.reverseRecOn with
  | nil => simp
  | append_singleton low byte ih =>
  rw [← append_assoc, netNat_concat, netNat_concat, ih,
    length_append, length_singleton, Nat.pow_succ]
  ring

theorem netNat_netBytes : netNat (netBytes width value) = value % 256 ^ width := by
  induction width generalizing value with
  | zero => rw [Nat.pow_zero, Nat.mod_one]; rfl
  | succ width ih =>
  have low : (UInt8.ofNat value).toNat = value % 256 := UInt8.toNat_ofNat'
  rw [netBytes, netNat_concat, ih, low, Nat.pow_succ, Nat.mul_comm _ 256, Nat.mod_mul]
  omega

theorem netBytes_netNat (bytes : List UInt8) : netBytes bytes.length (netNat bytes) = bytes := by
  induction bytes using List.reverseRecOn with
  | nil => rfl
  | append_singleton bytes byte ih =>
  have small : byte.toNat < 256 := byte.toNat_lt
  have high : (256 * netNat bytes + byte.toNat) / 256 = netNat bytes := by omega
  have low : UInt8.ofNat (256 * netNat bytes + byte.toNat) = byte := by
    apply UInt8.toNat.inj
    rw [UInt8.toNat_ofNat']
    omega
  rw [netNat_concat, length_append, length_singleton, netBytes, high, low, ih]

theorem netNat_netBytes_of_lt {width value : Nat} (small : value < 256 ^ width) :
    netNat (netBytes width value) = value := by
  rw [netNat_netBytes, Nat.mod_eq_of_lt small]

/-- Only zeros spell 0. -/
theorem netNat_eq_zero_iff (bytes : List UInt8) : netNat bytes = 0 ↔ ∀ byte ∈ bytes, byte = 0 := by
  induction bytes using List.reverseRecOn with
  | nil => simp
  | append_singleton bytes byte ih =>
  rw [netNat_concat]
  constructor
  · intro zero member inside
    rcases mem_append.mp inside with early | last
    · exact ih.mp (by omega) member early
    rw [mem_singleton] at last
    rw [last]
    apply UInt8.toNat.inj
    have same : (0 : UInt8).toNat = 0 := rfl
    omega
  intro zeros
  have early := ih.mpr fun member inside =>
    zeros member (mem_append_left _ inside)
  have last : byte.toNat = 0 := by
    rw [zeros byte (mem_append_right _ (mem_singleton_self byte))]
    rfl
  omega

/-! ## Words of two, four and eight bytes -/

def bytes16 (value : UInt16) : List UInt8 := netBytes 2 value.toNat

def bytes32 (value : UInt32) : List UInt8 := netBytes 4 value.toNat

def bytes64 (value : UInt64) : List UInt8 := netBytes 8 value.toNat

def word16 (bytes : List UInt8) : UInt16 := UInt16.ofNat (netNat bytes)

def word32 (bytes : List UInt8) : UInt32 := UInt32.ofNat (netNat bytes)

def word64 (bytes : List UInt8) : UInt64 := UInt64.ofNat (netNat bytes)

@[simp] theorem length_bytes16 (value : UInt16) : (bytes16 value).length = 2 :=
  length_netBytes _ _

@[simp] theorem length_bytes32 (value : UInt32) : (bytes32 value).length = 4 :=
  length_netBytes _ _

@[simp] theorem length_bytes64 (value : UInt64) : (bytes64 value).length = 8 :=
  length_netBytes _ _

@[simp] theorem word16_bytes16 (value : UInt16) : word16 (bytes16 value) = value := by
  rw [word16, bytes16, netNat_netBytes_of_lt value.toNat_lt, UInt16.ofNat_toNat]

@[simp] theorem word32_bytes32 (value : UInt32) : word32 (bytes32 value) = value := by
  rw [word32, bytes32, netNat_netBytes_of_lt value.toNat_lt, UInt32.ofNat_toNat]

@[simp] theorem word64_bytes64 (value : UInt64) : word64 (bytes64 value) = value := by
  rw [word64, bytes64, netNat_netBytes_of_lt value.toNat_lt, UInt64.ofNat_toNat]

variable {bytes : List UInt8}

theorem bytes16_word16 (two : bytes.length = 2) : bytes16 (word16 bytes) = bytes := by
  have bound := netNat_lt bytes
  rw [two] at bound
  rw [bytes16, word16, UInt16.toNat_ofNat_of_lt' bound]
  have whole := netBytes_netNat bytes
  rwa [two] at whole

theorem bytes32_word32 (four : bytes.length = 4) : bytes32 (word32 bytes) = bytes := by
  have bound := netNat_lt bytes
  rw [four] at bound
  rw [bytes32, word32, UInt32.toNat_ofNat_of_lt' bound]
  have whole := netBytes_netNat bytes
  rwa [four] at whole

theorem bytes64_word64 (eight : bytes.length = 8) : bytes64 (word64 bytes) = bytes := by
  have bound := netNat_lt bytes
  rw [eight] at bound
  rw [bytes64, word64, UInt64.toNat_ofNat_of_lt' bound]
  have whole := netBytes_netNat bytes
  rwa [eight] at whole

theorem word16_eq_zero_iff (short : bytes.length ≤ 2) :
    word16 bytes = 0 ↔ ∀ byte ∈ bytes, byte = 0 := by
  have bound : netNat bytes < 2 ^ 16 :=
    Nat.lt_of_lt_of_le (netNat_lt bytes) (Nat.pow_le_pow_right (by decide) short)
  have zero : (0 : UInt16).toNat = 0 := rfl
  rw [← netNat_eq_zero_iff, ← UInt16.toNat_inj, word16, UInt16.toNat_ofNat', zero,
    Nat.mod_eq_of_lt bound]

theorem word32_eq_zero_iff (short : bytes.length ≤ 4) :
    word32 bytes = 0 ↔ ∀ byte ∈ bytes, byte = 0 := by
  have bound : netNat bytes < 2 ^ 32 :=
    Nat.lt_of_lt_of_le (netNat_lt bytes) (Nat.pow_le_pow_right (by decide) short)
  have zero : (0 : UInt32).toNat = 0 := rfl
  rw [← netNat_eq_zero_iff, ← UInt32.toNat_inj, word32, UInt32.toNat_ofNat', zero,
    Nat.mod_eq_of_lt bound]

end OpenFlowController.Library
