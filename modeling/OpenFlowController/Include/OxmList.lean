/-
Module: Include.OxmList
Purpose: A list of OXM fields on the wire: the headers that are met one after the other, when
  they fill the bytes, and when the list is well formed.
Source: ofproto/src/include/openflow.h (OXM_HEADER, enum ofp_oxm_class)
Trusted boundary: none
-/
import OpenFlowController.Include.ActionFormat

namespace OpenFlowController.Include

open Library

/-- The header of a field, with its place and the bytes behind it. -/
structure OxmHead where
  place : Nat
  classHigh : UInt8
  classLow : UInt8
  kind : UInt8
  size : UInt8
  behind : List UInt8
deriving DecidableEq

namespace OxmHead

/-- The number of the field in its class. -/
def number (head : OxmHead) : Nat := head.kind.toNat / 2

def HasMask (head : OxmHead) : Prop := head.kind.toNat % 2 = 1

instance (head : OxmHead) : Decidable head.HasMask :=
  inferInstanceAs (Decidable (_ = _))

/-- The class is `OFPXMC_OPENFLOW_BASIC`. -/
def Basic (head : OxmHead) : Prop := head.classHigh = 0x80 ∧ head.classLow = 0

instance (head : OxmHead) : Decidable head.Basic :=
  inferInstanceAs (Decidable (_ ∧ _))

/-- The bytes of the field with its header. -/
def length (head : OxmHead) : Nat := 4 + head.size.toNat

/-- The bytes of the header, and those behind it. -/
def wire (head : OxmHead) : List UInt8 :=
  head.classHigh :: head.classLow :: head.kind :: head.size :: head.behind

/-- What lies behind the field. -/
def rest (head : OxmHead) : List UInt8 := head.behind.drop head.size.toNat

/-- The head is that of a field of the basic class. -/
def IsOf (head : OxmHead) (field : OxmField) : Prop := head.Basic ∧ head.number = field.code

instance (head : OxmHead) (field : OxmField) : Decidable (head.IsOf field) :=
  inferInstanceAs (Decidable (_ ∧ _))

/-- A field of the basic class has the length of its value, and once more with a mask. -/
def Sized (head : OxmHead) : Prop :=
  ∀ field, head.IsOf field →
    head.size.toNat = if head.HasMask then 2 * field.width else field.width

end OxmHead

/-- The headers that are met from a place on, each behind the field before it. -/
def heads (place : Nat) : List UInt8 → List OxmHead
  | classHigh :: classLow :: kind :: size :: behind =>
    { place := place, classHigh := classHigh, classLow := classLow, kind := kind
      size := size, behind := behind } ::
      heads (place + (4 + size.toNat)) (behind.drop size.toNat)
  | _ => []
termination_by bytes => bytes.length
decreasing_by simp only [List.length_drop, List.length_cons]; omega

/-- The fields fill the bytes. -/
def Tiled (bytes : List UInt8) : Prop :=
  ((heads 0 bytes).map OxmHead.length).sum = bytes.length

instance (bytes : List UInt8) : Decidable (Tiled bytes) :=
  inferInstanceAs (Decidable (_ = _))

/-- The bytes are a list of fields, each of its own length, and none of the basic class
twice. -/
structure WellFormedOxm (bytes : List UInt8) : Prop where
  tiled : Tiled bytes
  sized : ∀ head ∈ heads 0 bytes, head.Sized
  once : (((heads 0 bytes).filter fun head => head.Basic).map OxmHead.number).Nodup

/-! ## Headers -/

theorem heads_wire (head : OxmHead) :
    heads head.place head.wire = head :: heads (head.place + head.length) head.rest := by
  rw [OxmHead.wire, heads, OxmHead.length, OxmHead.rest]

variable {bytes : List UInt8}

theorem heads_short (short : bytes.length < 4) (place : Nat) : heads place bytes = [] := by
  match bytes with
  | [] | [_] | [_, _] | [_, _, _] => rw [heads]; simp
  | _ :: _ :: _ :: _ :: _ => simp only [List.length_cons] at short; omega

theorem exists_header (long : 4 ≤ bytes.length) (place : Nat) :
    ∃ head : OxmHead, head.place = place ∧ head.wire = bytes := by
  match bytes with
  | [] | [_] | [_, _] | [_, _, _] => simp at long
  | classHigh :: classLow :: kind :: size :: behind =>
    exact ⟨{ place, classHigh, classLow, kind, size, behind }, rfl, rfl⟩

namespace OxmHead

variable (head : OxmHead)

theorem size_lt : head.size.toNat < 256 := head.size.toNat_lt

theorem length_wire : head.wire.length = 4 + head.behind.length := by
  simp only [wire, List.length_cons]
  omega

theorem length_rest : head.rest.length = head.behind.length - head.size.toNat :=
  List.length_drop

theorem drop_wire : head.wire.drop head.length = head.rest := by
  rw [length, ← List.drop_drop]
  rfl

end OxmHead

theorem heads_induction {motive : Nat → List UInt8 → Prop}
    (short : ∀ place bytes, bytes.length < 4 → motive place bytes)
    (field : ∀ head : OxmHead, motive (head.place + head.length) head.rest →
      motive head.place head.wire) (place : Nat) (bytes : List UInt8) :
    motive place bytes := by
  induction whole : bytes.length using Nat.strong_induction_on generalizing place bytes with
  | h count ih =>
  by_cases few : bytes.length < 4
  · exact short place bytes few
  · obtain ⟨head, rfl, rfl⟩ := exists_header (Nat.le_of_not_lt few) place
    refine field head (ih _ ?_ _ _ rfl)
    rw [← whole, head.length_wire, head.length_rest]
    omega

theorem WellFormedOxm.find_eq (formed : WellFormedOxm bytes) {head : OxmHead} {field : OxmField}
    (member : head ∈ heads 0 bytes) (isOf : head.IsOf field) :
    (heads 0 bytes).find? (fun head => head.IsOf field) = some head := by
  cases found : (heads 0 bytes).find? fun head => head.IsOf field with
  | none =>
    have other := List.find?_eq_none.mp found head member
    exact absurd (decide_eq_true isOf) other
  | some first =>
  have firstOf : first.IsOf field := by simpa using List.find?_some found
  have inside : ∀ head, head ∈ heads 0 bytes → head.IsOf field →
      head ∈ (heads 0 bytes).filter fun head => head.Basic :=
    fun head member isOf => List.mem_filter.mpr ⟨member, decide_eq_true isOf.1⟩
  rw [List.inj_on_of_nodup_map formed.once
    (inside first (List.mem_of_find?_eq_some found) firstOf) (inside head member isOf)
    (firstOf.2.trans isOf.2.symm)]

end OpenFlowController.Include
