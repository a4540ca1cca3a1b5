/-
Module: Library.MachineInt
Purpose: Unsigned machine counters as natural numbers below a power of two, with
  the wrap-around of C's increment and decrement stated on values below the
  modulus.
Trusted boundary: none
-/
import Mathlib

namespace OpenFlowController.Library

/-- `x++` on a `uint32_t`. -/
def uint32Succ (x : Nat) : Nat := if x = 2 ^ 32 - 1 then 0 else x + 1

/-- `x--` on a `uint32_t`. -/
def uint32Pred (x : Nat) : Nat := if x = 0 then 2 ^ 32 - 1 else x - 1

/-- `a + b` on `uint16_t` values. -/
def uint16Add (a b : Nat) : Nat := if a + b < 2 ^ 16 then a + b else a + b - 2 ^ 16

/-- `a - b` on `uint16_t` values, the result kept in a `uint16_t`. -/
def uint16Sub (a b : Nat) : Nat := if b ≤ a then a - b else a + 2 ^ 16 - b

/-- `a - b`, the result kept in a `uint32_t`. -/
def uint32Sub (a b : Nat) : Nat := if b ≤ a then a - b else a + 2 ^ 32 - b

/-- A `uint32_t` passed as a `uint16_t`. -/
def uint16OfUint32 (x : Nat) : Nat := x % 2 ^ 16

/-- The `uint32_t` a signed 32-bit value becomes when C compares it with an
unsigned one. -/
def uint32OfInt32 (x : Int) : Nat := (if x < 0 then x + 2 ^ 32 else x).toNat

theorem uint32Succ_mod (x : Nat) : uint32Succ (x % 2 ^ 32) = (x + 1) % 2 ^ 32 := by
  unfold uint32Succ
  split <;> omega

theorem uint32Pred_mod (x : Nat) : uint32Pred ((x + 1) % 2 ^ 32) = x % 2 ^ 32 := by
  unfold uint32Pred
  split <;> omega

variable {x : Nat}

theorem uint32Succ_of_lt (small : x + 1 < 2 ^ 32) : uint32Succ x = x + 1 := by
  unfold uint32Succ
  split <;> omega

theorem uint32Pred_of_pos (positive : 0 < x) : uint32Pred x + 1 = x := by
  unfold uint32Pred
  split <;> omega

variable {a b : Nat}

theorem uint16Add_of_lt (small : a + b < 2 ^ 16) : uint16Add a b = a + b := by
  rw [uint16Add, if_pos small]

theorem uint16Sub_of_le (fits : b ≤ a) : uint16Sub a b = a - b := by
  rw [uint16Sub, if_pos fits]

theorem uint32Sub_of_le (fits : b ≤ a) : uint32Sub a b = a - b := by
  rw [uint32Sub, if_pos fits]

theorem uint16OfUint32_of_lt (small : x < 2 ^ 16) : uint16OfUint32 x = x :=
  Nat.mod_eq_of_lt small

theorem uint32OfInt32_of_nonneg {x : Int} (nonneg : 0 ≤ x) : uint32OfInt32 x = x.toNat := by
  rw [uint32OfInt32, if_neg (by omega)]

theorem uint32OfInt32_neg_one : uint32OfInt32 (-1) = 2 ^ 32 - 1 := by
  decide

end OpenFlowController.Library
