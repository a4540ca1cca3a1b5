/-
Module: Library.ByteMemory
Purpose: A memory of bytes under integer addresses, what it holds at a place, and what
  stores change of it.
Trusted boundary: none
-/
import Mathlib

namespace OpenFlowController.Library

open List

/-- A memory: the byte at every address. -/
abbrev ByteMemory := Int → UInt8

/-- Bytes to be stored from an address on. -/
structure Store where
  start : Int
  bytes : List UInt8

namespace Store

/-- Every byte of the store lies from `first` on and before `last`. -/
def Inside (store : Store) (first last : Int) : Prop :=
  store.bytes = [] ∨ first ≤ store.start ∧ store.start + store.bytes.length ≤ last

instance (store : Store) (first last : Int) : Decidable (store.Inside first last) :=
  inferInstanceAs (Decidable (_ ∨ _))

/-- The address is one that the store writes. -/
def Covers (store : Store) (address : Int) : Prop :=
  store.start ≤ address ∧ address < store.start + store.bytes.length

instance (store : Store) (address : Int) : Decidable (store.Covers address) :=
  inferInstanceAs (Decidable (_ ∧ _))

end Store

namespace ByteMemory

/-! ## What a memory holds -/

/-- The bytes lie in the memory from an address on. -/
def Holds (memory : ByteMemory) : Int → List UInt8 → Prop
  | _, [] => True
  | start, byte :: rest => memory start = byte ∧ Holds memory (start + 1) rest

/-- The bytes that lie in the memory from an address on. -/
def slice (memory : ByteMemory) (start : Int) : Nat → List UInt8
  | 0 => []
  | length + 1 => memory start :: slice memory (start + 1) length

/-- The memories agree from `first` on, before `last`. -/
def Same (memory memory' : ByteMemory) (first last : Int) : Prop :=
  ∀ address, first ≤ address → address < last → memory' address = memory address

variable {memory memory' memory'' : ByteMemory} {start first last : Int}
  {bytes front back : List UInt8}

@[simp] theorem length_slice (memory : ByteMemory) (start : Int) (length : Nat) :
    (memory.slice start length).length = length := by
  induction length generalizing start with
  | zero => rfl
  | succ length ih => simp [slice, ih]

theorem holds_slice (memory : ByteMemory) (start : Int) (length : Nat) :
    memory.Holds start (memory.slice start length) := by
  induction length generalizing start with
  | zero => trivial
  | succ length ih => exact ⟨rfl, ih _⟩

theorem Holds.slice_eq (holds : memory.Holds start bytes) :
    memory.slice start bytes.length = bytes := by
  induction bytes generalizing start with
  | nil => rfl
  | cons byte rest ih =>
    rw [length_cons, slice, holds.1, ih holds.2]

theorem holds_append :
    memory.Holds start (front ++ back) ↔
      memory.Holds start front ∧ memory.Holds (start + front.length) back := by
  induction front generalizing start with
  | nil => simp [Holds]
  | cons byte rest ih =>
  have shift : start + 1 + (rest.length : Int) = start + (rest.length + 1 : Nat) := by
    omega
  simp only [cons_append, Holds, ih, length_cons, shift, and_assoc]

theorem Holds.same (holds : memory.Holds start bytes)
    (same : Same memory memory' start (start + bytes.length)) :
    memory'.Holds start bytes := by
  induction bytes generalizing start with
  | nil => trivial
  | cons byte rest ih =>
  rw [length_cons] at same
  constructor
  case left => rw [same start le_rfl (by omega), holds.1]
  case right =>
    apply ih holds.2
    intro address low high
    exact same address (by omega) (by omega)

theorem holds_replicate {byte : UInt8} {count : Nat} :
    memory.Holds start (replicate count byte) ↔
      ∀ address, start ≤ address → address < start + count → memory address = byte := by
  induction count generalizing start with
  | zero =>
    constructor
    · intro _ address low high
      omega
    · intro _
      trivial
  | succ count ih =>
  rw [replicate_succ, Holds, ih]
  constructor
  · rintro ⟨here, behind⟩ address low high
    by_cases first : address = start
    · rw [first, here]
    · exact behind address (by omega) (by omega)
  · intro all
    exact ⟨all start le_rfl (by omega), fun address low high =>
      all address (by omega) (by omega)⟩

/-! ## Memories that agree -/

theorem Same.refl (memory : ByteMemory) (first last : Int) : Same memory memory first last :=
  fun _ _ _ => rfl

theorem Same.trans (one : Same memory memory' first last)
    (two : Same memory' memory'' first last) : Same memory memory'' first last :=
  fun address low high => (two address low high).trans (one address low high)

/-! ## Stores -/

/-- The memory after a store. -/
def put (memory : ByteMemory) (store : Store) : ByteMemory := fun address =>
  if store.Covers address then store.bytes.getD (address - store.start).toNat 0
  else memory address

/-- The memory after stores, made one after the other. -/
def write (memory : ByteMemory) (stores : List Store) : ByteMemory :=
  stores.foldl put memory

@[simp] theorem write_nil (memory : ByteMemory) : memory.write [] = memory := rfl

@[simp] theorem write_cons (memory : ByteMemory) (store : Store) (stores : List Store) :
    memory.write (store :: stores) = (memory.put store).write stores := rfl

theorem write_append (memory : ByteMemory) (stores stores' : List Store) :
    memory.write (stores ++ stores') = (memory.write stores).write stores' :=
  foldl_append

theorem put_same {store : Store}
    (apart : store.bytes = [] ∨ last ≤ store.start ∨ store.start + store.bytes.length ≤ first) :
    Same memory (memory.put store) first last := by
  intro address low high
  apply if_neg
  rintro ⟨above, below⟩
  rcases apart with empty | behind | before
  · simp only [empty, length_nil] at below
    omega
  · omega
  · omega

theorem write_same {stores : List Store}
    (apart : ∀ store ∈ stores, store.bytes = [] ∨ last ≤ store.start ∨
      store.start + store.bytes.length ≤ first) :
    Same memory (memory.write stores) first last := by
  induction stores generalizing memory with
  | nil => exact .refl _ _ _
  | cons store stores ih =>
  have here := @put_same memory first last store (apart store mem_cons_self)
  apply here.trans
  exact ih fun store member =>
    apart store (mem_cons_of_mem _ member)

/-- Bytes that were put are held. -/
theorem put_holds (memory : ByteMemory) (start : Int) (bytes : List UInt8) :
    (memory.put ⟨start, bytes⟩).Holds start bytes := by
  have tail : ∀ (front back : List UInt8), bytes = front ++ back →
      (memory.put ⟨start, bytes⟩).Holds (start + front.length) back := by
    intro front back is
    induction back generalizing front with
    | nil => trivial
    | cons byte rest ih =>
    have next := ih (front ++ [byte]) (by simp [is])
    rw [length_append, length_singleton, Nat.cast_add, Nat.cast_one, ← add_assoc] at next
    constructor
    case right => exact next
    case left =>
    have covers : Store.Covers ⟨start, bytes⟩ (start + front.length) := by
      have long : bytes.length = front.length + (rest.length + 1) := by simp [is]
      constructor
      · change start ≤ _
        omega
      · change _ < start + (bytes.length : Int)
        omega
    have offset : (start + (front.length : Int) - start).toNat = front.length := by
      omega
    rw [put, if_pos covers, offset, is]
    simp
  have whole := tail [] bytes rfl
  simpa using whole

theorem slice_add (memory : ByteMemory) (start : Int) (one two : Nat) :
    memory.slice start (one + two) =
      memory.slice start one ++ memory.slice (start + one) two := by
  induction one generalizing start with
  | zero => simp [slice]
  | succ one ih =>
    have shift : start + 1 + (one : Int) = start + (one + 1 : Nat) := by omega
    rw [Nat.succ_add, slice, ih, slice, cons_append, shift]

theorem Holds.slice_add (holds : memory.Holds start bytes) (more : Nat) :
    memory.slice start (bytes.length + more) =
      bytes ++ memory.slice (start + bytes.length) more := by
  rw [ByteMemory.slice_add, holds.slice_eq]

theorem Same.slice_eq {length : Nat} (same : Same memory memory' start (start + length)) :
    memory'.slice start length = memory.slice start length := by
  have held := (holds_slice memory start length).same (by rw [length_slice]; exact same)
  have bytes := held.slice_eq
  rw [length_slice] at bytes
  exact bytes

theorem put_zeros {address : Int} {count : Nat} (zero : memory address = 0) :
    memory.put ⟨start, replicate count 0⟩ address = 0 := by
  unfold put
  split
  · rw [getD_eq_getElem?_getD, getElem?_replicate]
    split <;> rfl
  · exact zero

/-! ## Memories that grow -/

/-- Nothing before `place` is changed, and the zeros from `next` on are left. -/
structure Extends (memory memory' : ByteMemory) (place next : Int) : Prop where
  below : ∀ address < place, memory' address = memory address
  zeros : ∀ address ≥ next, memory address = 0 → memory' address = 0

namespace Extends

variable {place next place' further : Int}

theorem refl (memory : ByteMemory) (place : Int) : Extends memory memory place place where
  below _ _ := rfl
  zeros _ _ zero := zero

theorem trans (one : Extends memory memory' place next)
    (two : Extends memory' memory'' place' further) (first : place ≤ place' := by omega)
    (second : next ≤ further := by omega) : Extends memory memory'' place further where
  below address before :=
    (two.below address (by omega)).trans (one.below address before)
  zeros address behind zero :=
    two.zeros address behind (one.zeros address (by omega) zero)

section

variable (grown : Extends memory memory' place next)

include grown

theorem mono {next' : Int} (low : place' ≤ place := by omega) (high : next ≤ next' := by omega) :
    Extends memory memory' place' next' where
  below address before := grown.below address (by omega)
  zeros address behind zero := grown.zeros address (by omega) zero

theorem same (before : last ≤ place) : Same memory memory' first last :=
  fun address _ high => grown.below address (by omega)

theorem holds (held : memory.Holds start bytes) (before : start + bytes.length ≤ place) :
    memory'.Holds start bytes :=
  held.same (grown.same before)

end

end Extends

theorem put_extends (memory : ByteMemory) (start : Int) (bytes : List UInt8) :
    Extends memory (memory.put ⟨start, bytes⟩) start (start + bytes.length) where
  below address before := by
    apply if_neg
    rintro ⟨above, _⟩
    change start ≤ address at above
    omega
  zeros address behind zero := by
    rw [put, if_neg]
    · exact zero
    · rintro ⟨_, inside⟩
      change address < start + (bytes.length : Int) at inside
      omega

end ByteMemory

/-! ## Stores one behind the other -/

/-- Each store begins where the one before it ends. -/
def Contiguous : Int → List Store → Prop
  | _, [] => True
  | place, store :: rest =>
    store.start = place ∧ Contiguous (place + store.bytes.length) rest

namespace ByteMemory

theorem write_contiguous {memory : ByteMemory} {place : Int} {stores : List Store}
    (contiguous : Contiguous place stores) :
    (memory.write stores).Holds place (stores.flatMap Store.bytes) ∧
      Extends memory (memory.write stores) place (place + (stores.flatMap Store.bytes).length) := by
  induction stores generalizing memory place with
  | nil =>
    constructor
    · trivial
    · simpa using Extends.refl memory place
  | cons store rest ih =>
  obtain ⟨rfl, behind⟩ := contiguous
  obtain ⟨held, grown⟩ := @ih (memory.put store) _ behind
  have here := put_holds memory store.start store.bytes
  have first := put_extends memory store.start store.bytes
  rw [flatMap_cons]
  constructor
  · rw [write_cons, holds_append]
    exact ⟨grown.holds here le_rfl, held⟩
  · rw [write_cons, length_append, Nat.cast_add, ← add_assoc]
    exact first.trans grown

end ByteMemory

end OpenFlowController.Library
