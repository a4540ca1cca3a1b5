/-
Module: Utils.MempoolConservation
Purpose: Where the blocks of a memory pool are: every block is on one free list or with
  a caller, and the counters of the pool say how many there are.  What every operation
  keeps of this, and the refills after which it no longer holds.
Trusted boundary: none
-/
import OpenFlowController.Library.Run
import OpenFlowController.Utils.Mempool

namespace OpenFlowController.Utils

open Library List Function Option

variable {β : Type}

theorem uint32_toNat_add {a b : UInt32} (small : a.toNat + b.toNat < 2 ^ 32) :
    (a + b).toNat = a.toNat + b.toNat := by
  rw [UInt32.toNat_add, Nat.mod_eq_of_lt small]

/-! ## The free lists of a pool -/

/-- The free lists: the global one, and one for each thread. -/
def places (maxThreads : Nat) : Finset (Option Nat) :=
  Finset.insertNone (Finset.range maxThreads)

namespace MemoryPool

variable (pool : MemoryPool β)

/-- The head of a free list. -/
def listHead : Option Nat → Option β
  | none => pool.head
  | some index => pool.perThreadList.bind fun nodes => (nodes index).perThreadHead

/-- The counter of a free list. -/
def listCount : Option Nat → UInt32
  | none => pool.freeBlocksCount
  | some index => (pool.perThreadList.map fun nodes => (nodes index).freeCount).getD 0

end MemoryPool

/-- The blocks of the pool and of its callers, when `lists` are the blocks on the free
lists. -/
structure Accounted (maxThreads : Nat) (heap : Heap β) (pool : MemoryPool β)
    (held : List (β × Bool)) (lists : Option Nat → List β) : Prop where
  chain : ∀ place ∈ places maxThreads, Seg heap.next (pool.listHead place) (lists place) none
  count : ∀ place ∈ places maxThreads, (pool.listCount place).toNat = (lists place).length
  nodup : heap.inUse.Nodup
  placed : (heap.inUse : Multiset β) =
    pooled (places maxThreads) lists + (held.map Prod.fst : List β)
  static : pool.staticAllocatedBlocksCount.toNat =
    (pooled (places maxThreads) lists).card + (held.filter fun entry => !entry.2).length

/-- Every block that is not with a caller is on exactly one free list, the counters of
the lists are their lengths, and `static_allocated_blocks_count` is the number of static
blocks on the lists and with callers. -/
def Conserved (maxThreads : Nat) (system : PoolSystem β) : Prop :=
  ∀ pool, system.pool = some pool →
    ∃ lists, Accounted maxThreads system.heap pool system.held lists

/-- The blocks a refill adds. -/
def refillBlocks (pool : MemoryPool β) (supply : List β) : List β :=
  if pool.checkStaticFreecntAndRefill then supply.take pool.memChunk.toNat else []

namespace Accounted

variable {maxThreads : Nat} {heap : Heap β} {pool : MemoryPool β} {held : List (β × Bool)}
  {lists : Option Nat → List β}

section

variable (accounted : Accounted maxThreads heap pool held lists)

include accounted

theorem nodup_all : (pooled (places maxThreads) lists + (held.map Prod.fst : List β)).Nodup := by
  rw [← accounted.placed]
  exact Multiset.coe_nodup.mpr accounted.nodup

theorem nodup_pooled : (pooled (places maxThreads) lists).Nodup :=
  (Multiset.nodup_add.mp accounted.nodup_all).1

variable {place : Option Nat}

theorem list_nodup (inside : place ∈ places maxThreads) : (lists place).Nodup :=
  nodup_of_pooled accounted.nodup_pooled inside

theorem off_others {other : Option Nat} (inside : place ∈ places maxThreads)
    (otherInside : other ∈ places maxThreads) (different : other ≠ place) {block : β}
    (member : block ∈ lists place) : block ∉ lists other :=
  disjoint_of_pooled accounted.nodup_pooled inside otherInside different member

theorem held_off (inside : place ∈ places maxThreads) {block : β}
    (member : block ∈ held.map Prod.fst) : block ∉ lists place := by
  intro onList
  have apart := (Multiset.nodup_add.mp accounted.nodup_all).2.2
  have onSome : block ∈ pooled (places maxThreads) lists :=
    Multiset.mem_of_le (le_pooled inside lists) (Multiset.mem_coe.mpr onList)
  exact Multiset.disjoint_left.mp apart onSome (Multiset.mem_coe.mpr member)

theorem list_inUse (inside : place ∈ places maxThreads) {block : β} (member : block ∈ lists place) :
    block ∈ heap.inUse := by
  rw [← Multiset.mem_coe, accounted.placed]
  refine Multiset.mem_add.mpr (.inl ?_)
  exact Multiset.mem_of_le (le_pooled inside lists) (Multiset.mem_coe.mpr member)

theorem inUse_length :
    heap.inUse.length =
      pool.staticAllocatedBlocksCount.toNat + (held.filter fun entry => entry.2).length := by
  have sizes := congrArg Multiset.card accounted.placed
  rw [Multiset.card_add, Multiset.coe_card, Multiset.coe_card, length_map] at sizes
  have split := length_eq_length_filter_add (l := held) fun entry => entry.2
  have static := accounted.static
  omega

end

end Accounted

/-- What the operations keep: the blocks are accounted for, and the tail of the global list
is its last block. -/
structure Tracked (maxThreads : Nat) (heap : Heap β) (pool : MemoryPool β)
    (held : List (β × Bool)) (lists : Option Nat → List β) : Prop
    extends Accounted maxThreads heap pool held lists where
  tail_eq : pool.tail = (lists none).getLast?

/-- Two pools with the same lists but for one. -/
structure OtherLists (place : Option Nat) (pool pool' : MemoryPool β) : Prop where
  head : ∀ other, other ≠ place → pool'.listHead other = pool.listHead other
  count : ∀ other, other ≠ place → pool'.listCount other = pool.listCount other

namespace OtherLists

variable {pool pool' : MemoryPool β}

theorem global (sameLists : pool'.perThreadList = pool.perThreadList) :
    OtherLists none pool pool' := by
  constructor
  case head =>
    intro other different
    cases other with
    | none => exact absurd rfl different
    | some index => rw [MemoryPool.listHead, MemoryPool.listHead, sameLists]
  case count =>
    intro other different
    cases other with
    | none => exact absurd rfl different
    | some index => rw [MemoryPool.listCount, MemoryPool.listCount, sameLists]

theorem thread {nodes : Nat → PerThreadMemNode β} {index : Nat} {node : PerThreadMemNode β}
    (before : pool.perThreadList = some nodes)
    (after : pool'.perThreadList = setThreadNode nodes index node)
    (sameHead : pool'.head = pool.head)
    (sameCount : pool'.freeBlocksCount = pool.freeBlocksCount) :
    OtherLists (some index) pool pool' := by
  constructor
  case head =>
    intro other different
    cases other with
    | none => exact sameHead
    | some i =>
    have apart : i ≠ index := fun same => different (congrArg some same)
    simp only [MemoryPool.listHead, before, after, setThreadNode, bind_some]
    rw [update_of_ne apart]
  case count =>
    intro other different
    cases other with
    | none => exact sameCount
    | some i =>
    have apart : i ≠ index := fun same => different (congrArg some same)
    simp only [MemoryPool.listCount, before, after, setThreadNode, map_some]
    rw [update_of_ne apart]

end OtherLists

namespace MemoryPool

variable {pool : MemoryPool β} {nodes : Nat → PerThreadMemNode β} {index : Nat}

theorem listHead_some (present : pool.perThreadList = some nodes) :
    pool.listHead (some index) = (nodes index).perThreadHead := by
  rw [listHead, present, bind_some]

theorem listCount_some (present : pool.perThreadList = some nodes) :
    pool.listCount (some index) = (nodes index).freeCount := by
  rw [listCount, present, map_some, getD_some]

variable {node : PerThreadMemNode β}

theorem listHead_set (present : pool.perThreadList = setThreadNode nodes index node) :
    pool.listHead (some index) = node.perThreadHead := by
  rw [listHead_some present, update_self]

theorem listCount_set (present : pool.perThreadList = setThreadNode nodes index node) :
    pool.listCount (some index) = node.freeCount := by
  rw [listCount_some present, update_self]

theorem threadNode_spec {thread maxThreads : Nat} (bound : thread ≤ maxThreads)
    (found : pool.threadNode thread = some (nodes, index)) :
    pool.perThreadList = some nodes ∧ index < maxThreads := by
  unfold threadNode at found
  cases present : pool.perThreadList with
  | none => simp [present] at found
  | some array =>
  by_cases noThread : threadNum thread = 0
  · simp [present, noThread] at found
  · simp only [present, noThread, if_false, Option.some.injEq, Prod.mk.injEq] at found
    rcases found with ⟨rfl, rfl⟩
    have small : threadNum thread ≤ thread := Nat.mod_le _ _
    exact ⟨rfl, by omega⟩

end MemoryPool

@[simp]
theorem none_mem_places (maxThreads : Nat) : none ∈ places maxThreads := by
  simp [places]

@[simp]
theorem some_mem_places {maxThreads index : Nat} :
    some index ∈ places maxThreads ↔ index < maxThreads := by
  simp [places]

namespace Accounted

variable {maxThreads : Nat} {heap heap' : Heap β} {pool pool' : MemoryPool β}
  {held : List (β × Bool)} {lists : Option Nat → List β} {place : Option Nat} {cells : List β}

section

variable (accounted : Accounted maxThreads heap pool held lists)

include accounted

variable {lists' : Option Nat → List β}

theorem placed_of_taken {block : β}
    (total : pooled (places maxThreads) lists' + {block} = pooled (places maxThreads) lists) :
    (heap.inUse : Multiset β) =
      pooled (places maxThreads) lists' + (((block, false) :: held).map Prod.fst : List β) := by
  rw [map_cons, ← Multiset.cons_coe, ← Multiset.singleton_add, ← add_assoc, total]
  exact accounted.placed

theorem static_of_taken {block : β}
    (total : pooled (places maxThreads) lists' + {block} = pooled (places maxThreads) lists) :
    pool.staticAllocatedBlocksCount.toNat = (pooled (places maxThreads) lists').card +
      (((block, false) :: held).filter fun entry => !entry.2).length := by
  have size := congrArg Multiset.card total
  rw [Multiset.card_add, Multiset.card_singleton] at size
  rw [accounted.static, ← size]
  simp only [Bool.not_false, filter_cons_of_pos, length_cons]
  omega

theorem chain_update (others : OtherLists place pool pool')
    (frame : ∀ other ∈ places maxThreads, other ≠ place → ∀ block ∈ lists other,
      heap'.next block = heap.next block) (chain : Seg heap'.next (pool'.listHead place) cells none) :
    ∀ other ∈ places maxThreads,
      Seg heap'.next (pool'.listHead other) (update lists place cells other) none := by
  intro other inside
  by_cases same : other = place
  · subst same
    rw [update_self]
    exact chain
  · rw [update_of_ne same, others.head other same]
    exact (accounted.chain other inside).congr (frame other inside same)

theorem count_update (others : OtherLists place pool pool')
    (count : (pool'.listCount place).toNat = cells.length) :
    ∀ other ∈ places maxThreads,
      (pool'.listCount other).toNat = (update lists place cells other).length := by
  intro other inside
  by_cases same : other = place
  · subst same
    rw [update_self]
    exact count
  · rw [update_of_ne same, others.count other same]
    exact accounted.count other inside

theorem chain_congr (sameLists : pool'.perThreadList = pool.perThreadList)
    (sameHead : pool'.head = pool.head) :
    ∀ place ∈ places maxThreads, Seg heap.next (pool'.listHead place) (lists place) none := by
  intro place inside
  have before := accounted.chain place inside
  cases place with
  | none => rwa [MemoryPool.listHead, ← sameHead] at before
  | some index => rwa [MemoryPool.listHead, ← sameLists] at before

theorem count_congr (sameLists : pool'.perThreadList = pool.perThreadList)
    (sameCount : pool'.freeBlocksCount = pool.freeBlocksCount) :
    ∀ place ∈ places maxThreads, (pool'.listCount place).toNat = (lists place).length := by
  intro place inside
  have before := accounted.count place inside
  cases place with
  | none => rwa [MemoryPool.listCount, ← sameCount] at before
  | some index => rwa [MemoryPool.listCount, ← sameLists] at before

theorem congr (sameLists : pool'.perThreadList = pool.perThreadList)
    (sameHead : pool'.head = pool.head) (sameCount : pool'.freeBlocksCount = pool.freeBlocksCount)
    (sameStatic : pool'.staticAllocatedBlocksCount = pool.staticAllocatedBlocksCount) :
    Accounted maxThreads heap pool' held lists where
  chain := accounted.chain_congr sameLists sameHead
  count := accounted.count_congr sameLists sameCount
  nodup := accounted.nodup
  placed := accounted.placed
  static := sameStatic ▸ accounted.static

end

variable [DecidableEq β]

/-! ## One block moves between a list and a caller -/

section

variable (accounted : Accounted maxThreads heap pool held lists)

include accounted

/-- A block taken from the head of a list is held. -/
theorem takeFirst (inside : place ∈ places maxThreads) {block : β} {rest : List β}
    (split : lists place = block :: rest) (others : OtherLists place pool pool')
    (head : pool'.listHead place = heap.next block)
    (count : pool'.listCount place = pool.listCount place - 1)
    (static : pool'.staticAllocatedBlocksCount = pool.staticAllocatedBlocksCount) :
    Accounted maxThreads (heap.setNext block none) pool' ((block, false) :: held)
      (update lists place rest) := by
  have seg := accounted.chain place inside
  have listNodup := accounted.list_nodup inside
  have sizes := accounted.count place inside
  rw [split] at seg listNodup sizes
  have blockOff : block ∉ rest := (nodup_cons.mp listNodup).1
  have onList : block ∈ lists place := split ▸ mem_cons_self ..
  have pieces : (lists place : Multiset β) = (rest : Multiset β) + {block} := by
    rw [split, ← Multiset.cons_coe, ← Multiset.singleton_add, add_comm]
  have total := pooled_remove inside pieces
  constructor
  case chain =>
    refine accounted.chain_update others ?_ ?_
    · intro other otherInside different cell member
      refine update_of_ne ?_ _ _
      rintro rfl
      exact accounted.off_others inside otherInside different onList member
    · rw [head]
      exact seg.2.update_off blockOff
  case count =>
    refine accounted.count_update others ?_
    rw [count, UInt32.toNat_sub_of_le, sizes]
    · rfl
    · rw [UInt32.le_iff_toNat_le, sizes]
      exact Nat.succ_le_succ (Nat.zero_le _)
  case nodup => exact accounted.nodup
  case placed => exact accounted.placed_of_taken total
  case static => exact static ▸ accounted.static_of_taken total

/-- A held block goes back to the head of a list. -/
theorem putBlock (inside : place ∈ places maxThreads) {block : β} (isHeld : (block, false) ∈ held)
    (others : OtherLists place pool pool') (inUse : heap'.inUse = heap.inUse)
    (frame : ∀ other ∈ places maxThreads, other ≠ place → ∀ cell ∈ lists other,
      heap'.next cell = heap.next cell)
    (same : (cells : Multiset β) = (lists place : Multiset β) + {block}) {start : Option β}
    (head : pool'.listHead place = start) (chain : Seg heap'.next start cells none)
    (count : pool'.listCount place = pool.listCount place + 1)
    (room : (pool.listCount place).toNat + 1 < 2 ^ 32)
    (static : pool'.staticAllocatedBlocksCount = pool.staticAllocatedBlocksCount) :
    Accounted maxThreads heap' pool' (held.erase (block, false)) (update lists place cells) := by
  have total := pooled_add inside same
  have heldPerm := perm_cons_erase isHeld
  constructor
  case chain => exact accounted.chain_update others frame (head ▸ chain)
  case count =>
    refine accounted.count_update others ?_
    have sizes := congrArg Multiset.card same
    rw [Multiset.card_add, Multiset.card_singleton, Multiset.coe_card, Multiset.coe_card] at sizes
    have bound : (pool.listCount place).toNat + (1 : UInt32).toNat < 2 ^ 32 := room
    rw [count, uint32_toNat_add bound, accounted.count place inside, sizes]
    rfl
  case nodup => rw [inUse]; exact accounted.nodup
  case placed =>
    have names : (held.map Prod.fst : Multiset β) =
        {block} + ((held.erase (block, false)).map Prod.fst : List β) :=
      Multiset.coe_eq_coe.mpr (heldPerm.map Prod.fst)
    rw [inUse, accounted.placed, total, names, add_assoc]
  case static =>
    have sizes := congrArg Multiset.card total
    rw [Multiset.card_add, Multiset.card_singleton] at sizes
    have heldSizes := (heldPerm.filter fun entry => !entry.2).length_eq
    rw [static, accounted.static, heldSizes, sizes]
    simp only [Bool.not_false, filter_cons_of_pos, length_cons]
    omega

variable {block : β}

theorem takeHeap (fresh : block ∉ heap.inUse) :
    Accounted maxThreads (heap.calloc block) pool.heapCounted ((block, true) :: held) lists := by
  constructor
  case chain =>
    intro place inside
    refine (accounted.chain place inside).update_off ?_
    exact fun member => fresh (accounted.list_inUse inside member)
  case count => exact fun place inside => accounted.count place inside
  case nodup => exact nodup_cons.mpr ⟨fresh, accounted.nodup⟩
  case placed =>
    have before := accounted.placed
    calc ((heap.calloc block).inUse : Multiset β)
        = {block} + (heap.inUse : Multiset β) := rfl
      _ = pooled (places maxThreads) lists + ({block} + (held.map Prod.fst : List β)) := by
          rw [before, add_left_comm]
  case static => exact accounted.static

/-- A held block of the heap goes back to the heap. -/
theorem freeBlock {entry : β × Bool} (isHeld : entry ∈ held)
    (sameLists : pool'.perThreadList = pool.perThreadList) (sameHead : pool'.head = pool.head)
    (sameCount : pool'.freeBlocksCount = pool.freeBlocksCount)
    (static : pool'.staticAllocatedBlocksCount.toNat + (if entry.2 then 0 else 1) =
      pool.staticAllocatedBlocksCount.toNat) :
    Accounted maxThreads (heap.free entry.1) pool' (held.erase entry) lists := by
  have heldPerm := perm_cons_erase isHeld
  have member : entry.1 ∈ heap.inUse := by
    rw [← Multiset.mem_coe, accounted.placed]
    exact Multiset.mem_add.mpr (.inr (Multiset.mem_coe.mpr (mem_map_of_mem isHeld)))
  constructor
  case chain => exact accounted.chain_congr sameLists sameHead
  case count => exact accounted.count_congr sameLists sameCount
  case nodup => exact accounted.nodup.erase entry.1
  case placed =>
    have names : (held.map Prod.fst : Multiset β) =
        {entry.1} + ((held.erase entry).map Prod.fst : List β) :=
      Multiset.coe_eq_coe.mpr (heldPerm.map Prod.fst)
    have inUse : (heap.inUse : Multiset β) = {entry.1} + ((heap.free entry.1).inUse : List β) :=
      Multiset.coe_eq_coe.mpr (perm_cons_erase member)
    have before := accounted.placed
    rw [names, inUse, add_left_comm] at before
    exact add_left_cancel before
  case static =>
    have heldSizes := (heldPerm.filter fun entry => !entry.2).length_eq
    have before := accounted.static
    rw [heldSizes] at before
    cases flag : entry.2 <;> simp [flag] at static before <;> omega

theorem write (isHeld : block ∈ held.map Prod.fst) (word : Option β) :
    Accounted maxThreads (heap.setNext block word) pool held lists where
  chain := fun place inside =>
    (accounted.chain place inside).update_off (accounted.held_off inside isHeld)
  count := accounted.count
  nodup := accounted.nodup
  placed := accounted.placed
  static := accounted.static

/-! ## Several blocks move -/

/-- Blocks at the head of the global list move to the empty list of a thread, and the first
of them goes to the caller. -/
theorem handToThreadList {nodes : Nat → PerThreadMemNode β} {index : Nat}
    (inside : index < maxThreads) (sameLists : pool.perThreadList = some nodes)
    (empty : lists (some index) = []) {first : β} {moved right : List β} {count : UInt32}
    (split : lists none = first :: moved ++ right) (inUse : heap'.inUse = heap.inUse)
    (frame : ∀ block, block ∉ lists none → heap'.next block = heap.next block)
    (movedSeg : Seg heap'.next (heap'.next first) moved none)
    (rightSeg : Seg heap'.next pool'.head right none) (countEq : count.toNat = moved.length + 1)
    (sameCount : pool'.freeBlocksCount = pool.freeBlocksCount)
    (sameStatic : pool'.staticAllocatedBlocksCount = pool.staticAllocatedBlocksCount) :
    Accounted maxThreads (heap'.setNext first none)
      (Utils.handToThreadList heap' pool' nodes index first count).pool ((first, false) :: held)
      (update (update lists none right) (some index) moved) := by
  have someInside : some index ∈ places maxThreads := some_mem_places.mpr inside
  have noneInside : none ∈ places maxThreads := none_mem_places maxThreads
  have globalNodup := accounted.list_nodup noneInside
  rw [split, cons_append] at globalNodup
  have firstOff := (nodup_cons.mp globalNodup).1
  have firstOffMoved : first ∉ moved := fun member => firstOff (mem_append_left _ member)
  have firstOffRight : first ∉ right := fun member => firstOff (mem_append_right _ member)
  have sizes : pool.freeBlocksCount.toNat = (lists none).length := accounted.count none noneInside
  rw [split] at sizes
  simp only [cons_append, length_cons, length_append] at sizes
  have removed : pooled (places maxThreads) (update lists none right) +
      (first :: moved : List β) = pooled (places maxThreads) lists := by
    apply pooled_remove noneInside
    rw [split, Multiset.coe_add]
    exact Multiset.coe_eq_coe.mpr perm_append_comm
  have added : pooled (places maxThreads)
      (update (update lists none right) (some index) moved) =
        pooled (places maxThreads) (update lists none right) + (moved : Multiset β) := by
    apply pooled_add someInside
    rw [update_of_ne (some_ne_none index), empty, Multiset.coe_nil, zero_add]
  have total : pooled (places maxThreads)
      (update (update lists none right) (some index) moved) + {first} =
        pooled (places maxThreads) lists := by
    rw [added, ← removed, add_assoc, add_comm (moved : Multiset β), Multiset.singleton_add,
      Multiset.cons_coe]
  constructor
  case chain =>
    intro place placeInside
    cases place with
    | none =>
      exact rightSeg.update_off firstOffRight
    | some other =>
    by_cases same : other = index
    · subst same
      rw [update_self, MemoryPool.listHead_set rfl]
      exact movedSeg.update_off firstOffMoved
    have different : some other ≠ some index := fun equal => same (some.inj equal)
    have seg := accounted.chain (some other) placeInside
    rw [update_of_ne different, update_of_ne (some_ne_none other)]
    rw [MemoryPool.listHead_some sameLists] at seg
    rw [MemoryPool.listHead_some rfl, update_of_ne same]
    refine seg.congr fun block member => ?_
    have blockOff : block ∉ lists none :=
      accounted.off_others placeInside noneInside (some_ne_none other).symm member
    have notFirst : block ≠ first := by
      rintro rfl
      exact blockOff (split ▸ mem_cons_self ..)
    exact (update_of_ne notFirst _ _).trans (frame block blockOff)
  case count =>
    intro place placeInside
    cases place with
    | none =>
      have fits : count ≤ pool'.freeBlocksCount := by
        rw [UInt32.le_iff_toNat_le, sameCount]
        omega
      have less := UInt32.toNat_sub_of_le _ _ fits
      rw [sameCount] at less
      change (pool'.freeBlocksCount - count).toNat = right.length
      rw [sameCount, less]
      omega
    | some other =>
    by_cases same : other = index
    · subst same
      rw [update_self, MemoryPool.listCount_set rfl]
      have fits : (1 : UInt32) ≤ count := by
        rw [UInt32.le_iff_toNat_le, countEq]
        exact Nat.le_add_left _ _
      rw [UInt32.toNat_sub_of_le _ _ fits, countEq]
      rfl
    have different : some other ≠ some index := fun equal => same (some.inj equal)
    have counted := accounted.count (some other) placeInside
    rw [update_of_ne different, update_of_ne (some_ne_none other)]
    rw [MemoryPool.listCount_some sameLists] at counted
    rw [MemoryPool.listCount_some rfl, update_of_ne same]
    exact counted
  case nodup => exact inUse ▸ accounted.nodup
  case placed => exact inUse ▸ accounted.placed_of_taken total
  case static => exact sameStatic ▸ accounted.static_of_taken total

end

end Accounted

/-! ## Refilling the global list -/

section Refill

variable [DecidableEq β] {heap : Heap β} {pool : MemoryPool β} {supply : List β}

theorem refillIfLow_nil (noBlocks : refillBlocks pool supply = []) :
    refillIfLow heap pool supply = (heap, pool) := by
  unfold refillIfLow
  by_cases low : pool.checkStaticFreecntAndRefill = true
  · rw [refillBlocks, if_pos low] at noBlocks
    simp [mempoolCheckAndRefill, memoryAllocChainMemchunks, noBlocks]
  · rw [if_neg low]

/-- The pool after a refill that adds blocks, but for the head of its list. -/
def MemoryPool.refilled (pool : MemoryPool β) (cells : List β) : MemoryPool β :=
  { pool with
    freeBlocksCount := pool.freeBlocksCount + UInt32.ofNat cells.length
    staticAllocatedBlocksCount := pool.staticAllocatedBlocksCount + UInt32.ofNat cells.length
    tail := cells.getLast? }

/-- The memory after the chain is allocated. -/
def Heap.chained (heap : Heap β) (cells : List β) : Heap β where
  next := linkCells heap.next cells
  inUse := cells ++ heap.inUse

section

variable (someBlocks : refillBlocks pool supply ≠ [])

include someBlocks

omit [DecidableEq β] in
theorem low_of_blocks :
    pool.checkStaticFreecntAndRefill = true ∧
      refillBlocks pool supply = supply.take pool.memChunk.toNat ∧
      (supply.take pool.memChunk.toNat).head? ≠ none := by
  by_cases low : pool.checkStaticFreecntAndRefill = true
  · have cellsEq : refillBlocks pool supply = supply.take pool.memChunk.toNat := if_pos low
    refine ⟨low, cellsEq, ?_⟩
    rw [← cellsEq]
    exact fun none => someBlocks (head?_eq_none_iff.mp none)
  · exact absurd (if_neg low) someBlocks

theorem refillIfLow_append {tail : β} (tailEq : pool.tail = some tail) :
    refillIfLow heap pool supply =
      ((heap.chained (refillBlocks pool supply)).setNext tail (refillBlocks pool supply).head?,
        pool.refilled (refillBlocks pool supply)) := by
  rcases low_of_blocks someBlocks with ⟨low, cellsEq, headSome⟩
  rw [refillIfLow, if_pos low, cellsEq]
  simp only [mempoolCheckAndRefill, memoryAllocChainMemchunks, if_neg headSome, tailEq]
  rfl

theorem refillIfLow_start (tailEq : pool.tail = none) :
    refillIfLow heap pool supply =
      (heap.chained (refillBlocks pool supply),
        { pool.refilled (refillBlocks pool supply) with
          head := (refillBlocks pool supply).head? }) := by
  rcases low_of_blocks someBlocks with ⟨low, cellsEq, headSome⟩
  rw [refillIfLow, if_pos low, cellsEq]
  simp only [mempoolCheckAndRefill, memoryAllocChainMemchunks, if_neg headSome, tailEq]
  rfl

end

theorem refillIfLow_fields :
    (refillIfLow heap pool supply).1.inUse = refillBlocks pool supply ++ heap.inUse ∧
      (refillIfLow heap pool supply).2.perThreadList = pool.perThreadList := by
  by_cases noBlocks : refillBlocks pool supply = []
  · rw [refillIfLow_nil noBlocks, noBlocks]
    exact ⟨rfl, rfl⟩
  cases tailEq : pool.tail with
  | some tail =>
    rw [refillIfLow_append noBlocks tailEq]
    exact ⟨rfl, rfl⟩
  | none =>
    rw [refillIfLow_start noBlocks tailEq]
    exact ⟨rfl, rfl⟩

omit [DecidableEq β] in
theorem refillBlocks_subset {block : β} (member : block ∈ refillBlocks pool supply) :
    block ∈ supply := by
  unfold refillBlocks at member
  split at member
  · exact mem_of_mem_take member
  · exact absurd member not_mem_nil

omit [DecidableEq β] in
theorem refillBlocks_nodup (nodup : supply.Nodup) : (refillBlocks pool supply).Nodup := by
  unfold refillBlocks
  split
  · exact nodup.sublist (take_sublist _ _)
  · exact nodup_nil

end Refill

namespace Accounted

variable [DecidableEq β] {maxThreads : Nat} {heap heap' : Heap β} {pool pool' : MemoryPool β}
  {held : List (β × Bool)} {lists : Option Nat → List β}

omit [DecidableEq β] in
theorem length_le_static (accounted : Accounted maxThreads heap pool held lists)
    {place : Option Nat} (inside : place ∈ places maxThreads) :
    (lists place).length ≤ pool.staticAllocatedBlocksCount.toNat := by
  have bound := Multiset.card_le_card (le_pooled inside lists)
  rw [Multiset.coe_card] at bound
  have static := accounted.static
  omega

omit [DecidableEq β] in
/-- New blocks are linked behind the global list. -/
theorem refill (accounted : Accounted maxThreads heap pool held lists) {cells : List β}
    (fresh : heap.Fresh cells)
    (fits : pool.staticAllocatedBlocksCount.toNat + cells.length < 2 ^ 32)
    (sameLists : pool'.perThreadList = pool.perThreadList)
    (inUse : heap'.inUse = cells ++ heap.inUse)
    (frame : ∀ block ∈ heap.inUse, block ∉ lists none → heap'.next block = heap.next block)
    (chain : Seg heap'.next pool'.head (lists none ++ cells) none)
    (count : pool'.freeBlocksCount = pool.freeBlocksCount + UInt32.ofNat cells.length)
    (static : pool'.staticAllocatedBlocksCount =
      pool.staticAllocatedBlocksCount + UInt32.ofNat cells.length) :
    Accounted maxThreads heap' pool' held (update lists none (lists none ++ cells)) := by
  have inside : none ∈ places maxThreads := none_mem_places maxThreads
  have asCounter : (UInt32.ofNat cells.length).toNat = cells.length :=
    UInt32.toNat_ofNat_of_lt' (Nat.lt_of_le_of_lt (Nat.le_add_left _ _) fits)
  have total : pooled (places maxThreads) (update lists none (lists none ++ cells)) =
      pooled (places maxThreads) lists + (cells : Multiset β) :=
    pooled_add inside (Multiset.coe_add _ _).symm
  have others : OtherLists none pool pool' := OtherLists.global sameLists
  constructor
  case chain =>
    refine accounted.chain_update others ?_ chain
    intro other otherInside different block member
    refine frame block (accounted.list_inUse otherInside member) ?_
    exact accounted.off_others otherInside inside different.symm member
  case count =>
    refine accounted.count_update others ?_
    have before : pool.freeBlocksCount.toNat = (lists none).length := accounted.count none inside
    have bound := accounted.length_le_static inside
    have small : pool.freeBlocksCount.toNat + (UInt32.ofNat cells.length).toNat < 2 ^ 32 := by
      omega
    change pool'.freeBlocksCount.toNat = _
    rw [count, uint32_toNat_add small, asCounter, before, length_append]
  case nodup =>
    rw [inUse]
    refine nodup_append.mpr ⟨fresh.1, accounted.nodup, ?_⟩
    rintro block member other otherMember rfl
    exact fresh.2 block member otherMember
  case placed =>
    rw [inUse, total, ← Multiset.coe_add, accounted.placed, add_comm (cells : Multiset β),
      add_right_comm]
  case static =>
    have small : pool.staticAllocatedBlocksCount.toNat + (UInt32.ofNat cells.length).toNat <
        2 ^ 32 := by
      omega
    rw [static, uint32_toNat_add small, asCounter, accounted.static, total, Multiset.card_add,
      Multiset.coe_card]
    omega

end Accounted

/-- A refill keeps the blocks tracked. -/
theorem Tracked.refillIfLow [DecidableEq β] {maxThreads : Nat} {heap : Heap β}
    {pool : MemoryPool β} {held : List (β × Bool)} {lists : Option Nat → List β} {supply : List β}
    (tracked : Tracked maxThreads heap pool held lists) (fresh : heap.Fresh supply)
    (fits : pool.staticAllocatedBlocksCount.toNat + (refillBlocks pool supply).length < 2 ^ 32) :
    Tracked maxThreads (refillIfLow heap pool supply).1 (refillIfLow heap pool supply).2 held
      (update lists none (lists none ++ refillBlocks pool supply)) := by
  have inside : none ∈ places maxThreads := none_mem_places maxThreads
  by_cases noBlocks : refillBlocks pool supply = []
  · rw [refillIfLow_nil noBlocks, noBlocks, append_nil, update_eq_self]
    exact tracked
  have cellsFresh : heap.Fresh (refillBlocks pool supply) :=
    ⟨refillBlocks_nodup fresh.1, fun block member =>
      fresh.2 block (refillBlocks_subset member)⟩
  have offCells : ∀ block ∈ heap.inUse, block ∉ refillBlocks pool supply :=
    fun block used member => cellsFresh.2 block member used
  have seg : Seg heap.next pool.head (lists none) none := tracked.chain none inside
  have listInUse : ∀ block ∈ lists none, block ∈ heap.inUse := fun block member =>
    tracked.list_inUse inside member
  have oldSeg : Seg (linkCells heap.next (refillBlocks pool supply)) pool.head (lists none) none :=
    seg.linkCells_off fun block member => offCells block (listInUse block member)
  have newSeg : Seg (linkCells heap.next (refillBlocks pool supply))
      (refillBlocks pool supply).head? (refillBlocks pool supply) none :=
    Seg.linkCells cellsFresh.1
  have lastSome : (lists none ++ refillBlocks pool supply).getLast? =
      (refillBlocks pool supply).getLast? := by
    rw [getLast?_append_of_ne_nil _ noBlocks]
  cases tailEq : pool.tail with
  | some tail =>
    have last := tracked.tail_eq
    rw [tailEq] at last
    rcases getLast?_eq_some_iff.mp last.symm with ⟨front, split⟩
    have tailIn : tail ∈ lists none := split ▸ mem_append_right _ (mem_singleton_self _)
    rw [refillIfLow_append noBlocks tailEq]
    constructor
    case toAccounted =>
      refine tracked.toAccounted.refill cellsFresh fits rfl rfl ?_ ?_ rfl rfl
      · intro block used off
        have notTail : block ≠ tail := by
          rintro rfl
          exact off tailIn
        exact (update_of_ne notTail _ _).trans (linkCells_off (offCells block used))
      · rw [split] at oldSeg ⊢
        refine oldSeg.append_last ?_ newSeg (offCells tail (listInUse tail tailIn))
        exact split ▸ tracked.list_nodup inside
    case tail_eq =>
      rw [update_self, lastSome]
      rfl
  | none =>
  have last := tracked.tail_eq
  rw [tailEq] at last
  have empty : lists none = [] := getLast?_eq_none_iff.mp last.symm
  rw [refillIfLow_start noBlocks tailEq]
  constructor
  case toAccounted =>
    refine tracked.toAccounted.refill cellsFresh fits rfl rfl ?_ ?_ rfl rfl
    · exact fun block used _ => linkCells_off (offCells block used)
    · rw [empty]
      exact newSeg
  case tail_eq =>
    rw [update_self, lastSome]
    rfl

end OpenFlowController.Utils
