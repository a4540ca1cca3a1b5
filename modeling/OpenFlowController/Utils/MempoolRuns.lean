/-
Module: Utils.MempoolRuns
Purpose: Whole runs of a memory pool: which refills keep its blocks and counters
  together, and that they are the only steps on which anything depends.
Trusted boundary: none
-/
import OpenFlowController.Utils.MempoolConservation

namespace OpenFlowController.Utils

open Library List Function Option

variable {β : Type} [DecidableEq β] {maxThreads : Nat} {heap : Heap β} {pool : MemoryPool β}
  {held : List (β × Bool)} {lists : Option Nat → List β}

/-! ## Handing out blocks -/

/-- The pool went through no null pointer, and its blocks are still accounted for. -/
structure GetResult.Kept (maxThreads : Nat) (result : GetResult β) (held : List (β × Bool)) :
    Prop where
  defined : result.status ≠ .nullDereference
  tracked : ∃ lists, Tracked maxThreads result.heap result.pool (result.block.toList ++ held) lists

variable {nodes : Nat → PerThreadMemNode β} {index : Nat}

/-- A get from a thread's list keeps every block in one place. -/
theorem takeFromThreadList_kept (tracked : Tracked maxThreads heap pool held lists)
    (present : pool.perThreadList = some nodes) (inside : index < maxThreads)
    (hasFree : (nodes index).freeCount ≠ 0) :
    (takeFromThreadList heap pool nodes index).Kept maxThreads held := by
  have place : some index ∈ places maxThreads := some_mem_places.mpr inside
  have seg := tracked.chain _ place
  have counted := tracked.count _ place
  rw [MemoryPool.listHead_some present] at seg
  rw [MemoryPool.listCount_some present] at counted
  cases split : lists (some index) with
  | nil =>
    rw [split] at counted
    exact absurd (UInt32.toNat_inj.mp counted) hasFree
  | cons block rest =>
  rw [split] at seg
  have headEq := seg.1
  unfold takeFromThreadList
  rw [headEq]
  constructor
  case defined => exact GetStatus.noConfusion
  case tracked =>
  refine ⟨_, tracked.toAccounted.takeFirst place split
    (OtherLists.thread present rfl rfl rfl) ((MemoryPool.listHead_set rfl).trans rfl) ?_
    rfl, ?_⟩
  · rw [MemoryPool.listCount_some present]
    exact (MemoryPool.listCount_set rfl).trans rfl
  · rw [update_of_ne (some_ne_none index).symm]
    exact tracked.tail_eq

variable {first : β}

theorem takeFromGlobalList_kept (tracked : Tracked maxThreads heap pool held lists)
    (headEq : pool.head = some first) :
    (takeFromGlobalList heap pool first).Kept maxThreads held := by
  have place : none ∈ places maxThreads := none_mem_places maxThreads
  have seg : Seg heap.next pool.head (lists none) none := tracked.chain none place
  rw [headEq] at seg
  rcases seg.eq_cons_of_some with ⟨rest, split, restSeg⟩
  constructor
  case defined => exact GetStatus.noConfusion
  case tracked =>
  refine ⟨_, tracked.toAccounted.takeFirst place split (OtherLists.global rfl) rfl rfl rfl, ?_⟩
  cases rest with
  | nil =>
    have nextNone : heap.next first = none := restSeg
    simp [takeFromGlobalList, GetResult.static, nextNone]
  | cons second more =>
  have nextSome := restSeg.1
  have before := tracked.tail_eq
  rw [split, getLast?_cons_cons] at before
  simp [takeFromGlobalList, GetResult.static, nextSome, before]

variable {heapB : Bool} {heapBlock : Option β}

section

variable (tracked : Tracked maxThreads heap pool held lists)

include tracked

theorem allocateFromHeap_kept (fresh : ∀ block ∈ heapBlock, block ∉ heap.inUse) :
    (allocateFromHeap heap pool heapB heapBlock).Kept maxThreads held := by
  unfold allocateFromHeap
  split
  · cases heapBlock with
    | some block =>
      constructor
      case defined => exact GetStatus.noConfusion
      case tracked =>
        exact ⟨lists, tracked.toAccounted.takeHeap (fresh block rfl), tracked.tail_eq⟩
    | none =>
      constructor
      case defined => exact GetStatus.noConfusion
      case tracked =>
        exact ⟨lists, tracked.toAccounted.congr rfl rfl rfl rfl, tracked.tail_eq⟩
  · constructor
    case defined => exact GetStatus.noConfusion
    case tracked => exact ⟨lists, tracked.toAccounted.congr rfl rfl rfl rfl, tracked.tail_eq⟩

/-- Moving blocks to a thread's list keeps every block in one place. -/
theorem moveSome_kept {block : β} {left right : List β} {count : UInt32}
    (present : pool.perThreadList = some nodes) (inside : index < maxThreads)
    (empty : lists (some index) = []) (headEq : pool.head = some first)
    (split : lists none = left ++ block :: right) (countEq : count.toNat = left.length + 1)
    (rightSome : right ≠ []) :
    (handToThreadList (heap.setNext block none) { pool with head := heap.next block } nodes index
      first count).Kept maxThreads held := by
  have place : none ∈ places maxThreads := none_mem_places maxThreads
  have seg : Seg heap.next pool.head (lists none) none := tracked.chain none place
  have nodup := tracked.list_nodup place
  rw [headEq, split] at seg
  rw [split] at nodup
  rcases seg.cut nodup with ⟨leftSeg, rightSeg⟩
  rcases leftSeg.eq_cons_of_some with ⟨moved, movedEq, movedSeg⟩
  have movedLength := congrArg List.length movedEq
  rw [length_append, length_singleton, length_cons] at movedLength
  constructor
  case defined => exact GetStatus.noConfusion
  case tracked =>
  refine ⟨_, tracked.toAccounted.handToThreadList inside present empty ?_ rfl ?_
    movedSeg rightSeg (countEq.trans movedLength) rfl rfl, ?_⟩
  · rw [split, ← movedEq, append_assoc, singleton_append]
  · intro cell off
    refine update_of_ne ?_ _ _
    rintro rfl
    exact off (split ▸ mem_append_right _ (mem_cons_self ..))
  have before := tracked.tail_eq
  rw [split, getLast?_append_of_ne_nil _ (cons_ne_nil _ _),
    getLast?_cons_of_ne_nil rightSome] at before
  exact before

theorem moveAll_kept (present : pool.perThreadList = some nodes) (inside : index < maxThreads)
    (empty : lists (some index) = []) (headEq : pool.head = some first) :
    (handToThreadList heap { pool with head := none, tail := none } nodes index first
      pool.freeBlocksCount).Kept maxThreads held := by
  have place : none ∈ places maxThreads := none_mem_places maxThreads
  have seg : Seg heap.next pool.head (lists none) none := tracked.chain none place
  have counted : pool.freeBlocksCount.toNat = (lists none).length := tracked.count none place
  rw [headEq] at seg
  rcases seg.eq_cons_of_some with ⟨moved, split, movedSeg⟩
  rw [split, length_cons] at counted
  have splitAll : lists none = first :: moved ++ [] := by
    rw [split, append_nil]
  constructor
  case defined => exact GetStatus.noConfusion
  case tracked =>
    refine ⟨_, tracked.toAccounted.handToThreadList inside present empty splitAll rfl
      (fun _ _ => rfl) movedSeg rfl counted rfl rfl, ?_⟩
    rfl

/-- So does moving as many as are configured. -/
theorem moveToThreadList_kept (present : pool.perThreadList = some nodes)
    (inside : index < maxThreads) (empty : lists (some index) = [])
    (headEq : pool.head = some first) (moves : pool.blockCountForMovingToThreadlist ≠ 0) :
    (moveToThreadList heap pool nodes index first).Kept maxThreads held := by
  have place : none ∈ places maxThreads := none_mem_places maxThreads
  have counted : pool.freeBlocksCount.toNat = (lists none).length := tracked.count none place
  unfold moveToThreadList
  by_cases fewer : pool.blockCountForMovingToThreadlist < pool.freeBlocksCount
  · rw [if_pos fewer]
    have positive : pool.blockCountForMovingToThreadlist.toNat ≠ 0 := fun zero =>
      moves (UInt32.toNat_inj.mp zero)
    have steps : (pool.blockCountForMovingToThreadlist - 1).toNat + 1 =
        pool.blockCountForMovingToThreadlist.toNat := by
      rw [UInt32.toNat_sub_of_le]
      · change _ - 1 + 1 = _
        omega
      · rw [UInt32.le_iff_toNat_le]
        exact Nat.one_le_iff_ne_zero.mpr positive
    have enough : (pool.blockCountForMovingToThreadlist - 1).toNat + 1 < (lists none).length := by
      rw [UInt32.lt_iff_toNat_lt] at fewer
      omega
    have seg : Seg heap.next pool.head (lists none) none := tracked.chain none place
    rw [headEq] at seg
    have found := seg.follow (Nat.lt_of_succ_lt enough)
    dsimp only
    rw [found]
    apply moveSome_kept tracked present inside empty headEq
    · rw [getElem_cons_drop, take_append_drop]
    · rw [length_take, Nat.min_eq_left (Nat.le_of_lt (Nat.lt_of_succ_lt enough)), steps]
    · exact ne_nil_of_length_pos (by rw [length_drop]; omega)
  · rw [if_neg fewer]
    exact moveAll_kept tracked present inside empty headEq

end

variable {own : Option ((Nat → PerThreadMemNode β) × Nat)}

theorem getFromGlobalList_kept (tracked : Tracked maxThreads heap pool held lists)
    (ownSpec : ∀ nodes index, own = some (nodes, index) →
      pool.perThreadList = some nodes ∧ index < maxThreads ∧ (nodes index).freeCount = 0)
    (fresh : ∀ block ∈ heapBlock, block ∉ heap.inUse) :
    (getFromGlobalList heap pool own heapB heapBlock).Kept maxThreads held := by
  unfold getFromGlobalList
  cases headEq : pool.head with
  | none => exact allocateFromHeap_kept tracked fresh
  | some first =>
  cases own with
  | none => exact takeFromGlobalList_kept tracked headEq
  | some pair =>
  rcases pair with ⟨nodes, index⟩
  rcases ownSpec nodes index rfl with ⟨present, inside, noFree⟩
  dsimp only
  split
  case isTrue moves =>
    have counted := tracked.count _ (some_mem_places.mpr inside)
    rw [MemoryPool.listCount_some present, noFree] at counted
    have empty : lists (some index) = [] := length_eq_zero_iff.mp counted.symm
    exact moveToThreadList_kept tracked present inside empty headEq moves
  case isFalse => exact allocateFromHeap_kept tracked fresh

/-- A get keeps every block in one place. -/
theorem mempoolMheapGetMemBlock_kept {thread : Nat} {heapB : Bool} {supply : List β}
    {heapBlock : Option β} (tracked : Tracked maxThreads heap pool held lists)
    (bound : thread ≤ maxThreads) (fresh : heap.Fresh (supply ++ heapBlock.toList))
    (fits : pool.threadHasFree thread = false →
      pool.staticAllocatedBlocksCount.toNat + (refillBlocks pool supply).length < 2 ^ 32) :
    (mempoolMheapGetMemBlock heap pool thread heapB supply heapBlock).Kept maxThreads held := by
  have nodups := nodup_append.mp fresh.1
  have supplyFresh : heap.Fresh supply :=
    ⟨nodups.1, fun block member => fresh.2 block (mem_append_left _ member)⟩
  have fields := @refillIfLow_fields _ _ heap pool supply
  have heapFresh : ∀ block ∈ heapBlock, block ∉ (refillIfLow heap pool supply).1.inUse := by
    intro block member used
    have listed : block ∈ heapBlock.toList := Option.mem_toList.mpr member
    rw [fields.1] at used
    rcases mem_append.mp used with added | before
    · exact nodups.2.2 block (refillBlocks_subset added) block listed rfl
    · exact fresh.2 block (mem_append_right _ listed) before
  unfold mempoolMheapGetMemBlock
  cases own : pool.threadNode thread with
  | none =>
    have noFree : pool.threadHasFree thread = false := by
      rw [MemoryPool.threadHasFree, own]
    refine getFromGlobalList_kept (tracked.refillIfLow supplyFresh (fits noFree)) ?_ heapFresh
    exact fun _ _ impossible => nomatch impossible
  | some pair =>
  rcases pair with ⟨nodes, index⟩
  rcases MemoryPool.threadNode_spec bound own with ⟨present, inside⟩
  dsimp only
  split
  case isTrue hasFree => exact takeFromThreadList_kept tracked present inside hasFree
  case isFalse noFree =>
  have empty : (nodes index).freeCount = 0 := not_not.mp noFree
  have noneFree : pool.threadHasFree thread = false := by
    simp [MemoryPool.threadHasFree, own, empty]
  refine getFromGlobalList_kept (tracked.refillIfLow supplyFresh (fits noneFree)) ?_ heapFresh
  rintro _ _ same
  cases same
  exact ⟨fields.2.trans present, inside, empty⟩

/-! ## Taking blocks back -/

section

variable (tracked : Tracked maxThreads heap pool held lists)

include tracked

variable {block : β}

/-- A release to a thread's list keeps the blocks tracked. -/
theorem releaseToThreadList_tracked (isHeld : (block, false) ∈ held)
    (present : pool.perThreadList = some nodes) (inside : index < maxThreads)
    (room : (nodes index).freeCount < pool.blockCountForMovingToThreadlist) :
    ∃ lists', Tracked maxThreads (releaseToThreadList heap pool nodes index block).1
      (releaseToThreadList heap pool nodes index block).2 (held.erase (block, false)) lists' := by
  have place : some index ∈ places maxThreads := some_mem_places.mpr inside
  have name : block ∈ held.map Prod.fst := mem_map_of_mem isHeld
  have seg := tracked.chain _ place
  rw [MemoryPool.listHead_some present] at seg
  have headEq : (releaseToThreadList heap pool nodes index block).2.listHead (some index) =
      some block := (MemoryPool.listHead_set rfl).trans rfl
  have pushed := seg.push (tracked.held_off place name)
  refine ⟨_, tracked.toAccounted.putBlock place isHeld (OtherLists.thread present rfl rfl rfl)
    rfl ?_ ?_ headEq pushed ?_ ?_ rfl, ?_⟩
  · intro other otherInside _ cell member
    refine update_of_ne ?_ _ _
    rintro rfl
    exact tracked.held_off otherInside name member
  · rw [← Multiset.cons_coe, ← Multiset.singleton_add, add_comm]
  · rw [MemoryPool.listCount_some present]
    exact (MemoryPool.listCount_set rfl).trans rfl
  · rw [MemoryPool.listCount_some present]
    rw [UInt32.lt_iff_toNat_lt] at room
    have bound := UInt32.toNat_lt pool.blockCountForMovingToThreadlist
    omega
  · rw [update_of_ne (some_ne_none index).symm]
    exact tracked.tail_eq

/-- A release to the global list keeps the blocks tracked. -/
theorem releaseToGlobalList_tracked (isHeld : (block, false) ∈ held) :
    ∃ lists', Tracked maxThreads (releaseToGlobalList heap pool block).1
      (releaseToGlobalList heap pool block).2 (held.erase (block, false)) lists' := by
  have place : none ∈ places maxThreads := none_mem_places maxThreads
  have name : block ∈ held.map Prod.fst := mem_map_of_mem isHeld
  have seg : Seg heap.next pool.head (lists none) none := tracked.chain none place
  unfold releaseToGlobalList
  by_cases full : pool.freeBlocksCount ≥ pool.thresholdMax
  · rw [if_pos full]
    refine ⟨lists, tracked.toAccounted.freeBlock isHeld rfl rfl rfl ?_, tracked.tail_eq⟩
    have counted := tracked.static
    have heldStatic : 0 < (held.filter fun entry => !entry.2).length :=
      length_pos_of_mem (mem_filter.mpr ⟨isHeld, rfl⟩)
    have positive : (1 : UInt32) ≤ pool.staticAllocatedBlocksCount := by
      rw [UInt32.le_iff_toNat_le]
      change 1 ≤ _
      omega
    rw [UInt32.toNat_sub_of_le _ _ positive]
    change _ - 1 + 1 = _
    omega
  · rw [if_neg full]
    have room : (pool.listCount none).toNat + 1 < 2 ^ 32 := by
      change pool.freeBlocksCount.toNat + 1 < _
      have bound := UInt32.toNat_lt pool.thresholdMax
      have below := UInt32.lt_iff_toNat_lt.mp (UInt32.not_le.mp full)
      omega
    have same : ((lists none ++ [block] : List β) : Multiset β) =
        (lists none : Multiset β) + {block} := (Multiset.coe_add _ _).symm
    have blockOff := tracked.held_off place name
    have lastEq : (lists none ++ [block]).getLast? = some block := getLast?_concat
    have endSeg : Seg (heap.setNext block none).next (some block) [block] none :=
      ⟨rfl, update_self ..⟩
    cases tailEq : pool.tail with
    | none =>
      have last := tracked.tail_eq
      rw [tailEq] at last
      have empty : lists none = [] := getLast?_eq_none_iff.mp last.symm
      refine ⟨_, tracked.toAccounted.putBlock place isHeld (OtherLists.global rfl) rfl ?_ same rfl
        ?_ rfl room rfl, ?_⟩
      · intro other otherInside _ cell member
        refine update_of_ne ?_ _ _
        rintro rfl
        exact tracked.held_off otherInside name member
      · rw [empty]
        exact endSeg
      · rw [update_self, lastEq]
    | some tail =>
    have last := tracked.tail_eq
    rw [tailEq] at last
    rcases getLast?_eq_some_iff.mp last.symm with ⟨front, split⟩
    have tailIn : tail ∈ lists none := split ▸ mem_append_right _ (mem_singleton_self _)
    have tailOff : tail ∉ [block] := by
      intro member
      exact blockOff (mem_singleton.mp member ▸ tailIn)
    refine ⟨_, tracked.toAccounted.putBlock place isHeld (OtherLists.global rfl) rfl ?_ same rfl
      ?_ rfl room rfl, ?_⟩
    · intro other otherInside different cell member
      have notTail : cell ≠ tail := by
        rintro rfl
        exact tracked.off_others place otherInside different tailIn member
      have notBlock : cell ≠ block := by
        rintro rfl
        exact tracked.held_off otherInside name member
      exact (update_of_ne notTail _ _).trans (update_of_ne notBlock _ _)
    · have ended : Seg (heap.setNext block none).next pool.head (lists none) none :=
        seg.update_off blockOff
      have listNodup := tracked.list_nodup place
      rw [split] at ended listNodup ⊢
      exact ended.append_last listNodup endSeg tailOff
    · rw [update_self, lastEq]

/-- A release of a held block keeps the blocks tracked. -/
theorem mempoolReleaseMemBlock_tracked {thread : Nat} (bound : thread ≤ maxThreads)
    (isHeld : (block, heapB) ∈ held) :
    ∃ lists', Tracked maxThreads (mempoolReleaseMemBlock heap pool thread (some block) heapB).1
      (mempoolReleaseMemBlock heap pool thread (some block) heapB).2
      (held.erase (block, heapB)) lists' := by
  unfold mempoolReleaseMemBlock mempoolMheapReleaseMemBlock
  cases heapB with
  | true =>
    exact ⟨lists, tracked.toAccounted.freeBlock isHeld rfl rfl rfl rfl, tracked.tail_eq⟩
  | false =>
  -- what `memset` writes is a write of the caller's
  have cleared : Tracked maxThreads (if pool.donotMemset then heap else heap.setNext block none)
      pool held lists := by
    split
    · exact tracked
    · exact ⟨tracked.toAccounted.write (mem_map_of_mem isHeld) none, tracked.tail_eq⟩
  simp only [Bool.false_eq_true, if_false]
  unfold releaseStatic
  cases own : pool.threadNode thread with
  | none => exact releaseToGlobalList_tracked cleared isHeld
  | some pair =>
  rcases pair with ⟨nodes, index⟩
  rcases MemoryPool.threadNode_spec bound own with ⟨present, inside⟩
  dsimp only
  split
  case isTrue room =>
    exact releaseToThreadList_tracked cleared isHeld present inside room
  case isFalse => exact releaseToGlobalList_tracked cleared isHeld

end

/-! ## Creating a pool -/

variable {created : MemoryPool β}

omit [DecidableEq β] in
theorem setThresholdValues_fields {low high count : UInt32}
    (accepted : pool.setThresholdValues low high count = some created) :
    created = { pool with thresholdMin := low, replenishCount := count, thresholdMax := high } := by
  unfold MemoryPool.setThresholdValues at accepted
  split at accepted
  · exact absurd accepted.symm (some_ne_none _)
  · exact (some.inj accepted).symm

omit [DecidableEq β] in
theorem setAttributes_fields {wanted noMemset allocated : Bool} {move : UInt32}
    (noLists : pool.perThreadList = none)
    (accepted : pool.setAttributes wanted move noMemset allocated = some created) :
    (∀ index, created.listHead (some index) = none ∧ created.listCount (some index) = 0) ∧
      created.head = pool.head ∧ created.tail = pool.tail ∧
      created.freeBlocksCount = pool.freeBlocksCount ∧
      created.staticAllocatedBlocksCount = pool.staticAllocatedBlocksCount := by
  unfold MemoryPool.setAttributes at accepted
  split at accepted
  · cases some.inj accepted
    simp [MemoryPool.listHead, MemoryPool.listCount, noLists]
  · split at accepted
    · cases some.inj accepted
      simp [MemoryPool.listHead, MemoryPool.listCount, PerThreadMemNode.zeroed]
    · exact absurd accepted.symm (some_ne_none _)

/-- A pool whose only blocks are those of the chain. -/
theorem created_tracked {cells : List β} (nodup : cells.Nodup) (small : cells.length < 2 ^ 32)
    (noThreads : ∀ index, pool.listHead (some index) = none ∧ pool.listCount (some index) = 0)
    (head : pool.head = cells.head?) (tail : pool.tail = cells.getLast?)
    (free : pool.freeBlocksCount = UInt32.ofNat cells.length)
    (static : pool.staticAllocatedBlocksCount = UInt32.ofNat cells.length) :
    Tracked maxThreads { next := linkCells heap.next cells, inUse := cells } pool []
      (update (fun _ => []) none cells) := by
  have asCounter : (UInt32.ofNat cells.length).toNat = cells.length :=
    UInt32.toNat_ofNat_of_lt' small
  have noBlocks : pooled (places maxThreads) (fun _ => ([] : List β)) = 0 :=
    Finset.sum_eq_zero fun _ _ => rfl
  have total : pooled (places maxThreads) (update (fun _ => []) none cells) =
      (cells : Multiset β) := by
    rw [pooled_add (none_mem_places maxThreads) (zero_add (cells : Multiset β)).symm, noBlocks,
      zero_add]
  constructor
  case tail_eq => rw [update_self, tail]
  case toAccounted =>
  constructor
  case chain =>
    intro place _
    cases place with
    | none =>
      rw [update_self, MemoryPool.listHead, head]
      exact Seg.linkCells nodup
    | some index =>
      rw [update_of_ne (some_ne_none index), (noThreads index).1]
      rfl
  case count =>
    intro place _
    cases place with
    | none => rw [update_self, MemoryPool.listCount, free, asCounter]
    | some index =>
      rw [update_of_ne (some_ne_none index), (noThreads index).2]
      rfl
  case nodup => exact nodup
  case placed =>
    rw [total]
    exact (add_zero _).symm
  case static =>
    rw [static, asCounter, total]
    rfl

/-- There is no pool and no block, or the blocks of the pool are accounted for. -/
structure CreatedKept (maxThreads : Nat) (created : Heap β × Option (MemoryPool β)) : Prop where
  absent : created.2 = none → created.1.inUse = []
  present : ∀ pool, created.2 = some pool → ∃ lists, Tracked maxThreads created.1 pool [] lists

omit [DecidableEq β] in
theorem CreatedKept.failed (noBlocks : heap.inUse = []) :
    CreatedKept maxThreads (heap, (none : Option (MemoryPool β))) where
  absent := fun _ => noBlocks
  present := fun _ impossible => nomatch impossible

/-- A new pool has every block in one place. -/
theorem mempoolCreatePool_kept {params : MempoolParams} {poolAllocated listAllocated : Bool}
    {supply : List β} (nodup : supply.Nodup) (noBlocks : heap.inUse = []) :
    CreatedKept maxThreads (mempoolCreatePool heap params poolAllocated supply listAllocated) := by
  unfold mempoolCreatePool mempoolCreateMheapPool
  split
  · exact .failed noBlocks
  split
  · dsimp only
    split
    · exact .failed noBlocks
    split
    case h_1 created createdEq =>
      rcases bind_eq_some_iff.mp createdEq with ⟨limited, limitedEq, attributesEq⟩
      cases setThresholdValues_fields limitedEq
      rcases setAttributes_fields rfl attributesEq with ⟨noThreads, head, tail, free, static⟩
      have small : (supply.take params.thresholdMax.toNat).length < 2 ^ 32 := by
        rw [length_take]
        exact Nat.lt_of_le_of_lt (Nat.min_le_left _ _) (UInt32.toNat_lt _)
      have kept := @created_tracked _ _ maxThreads heap _ _
        (nodup.sublist (take_sublist params.thresholdMax.toNat _)) small noThreads
        head tail (free.trans (UInt32.zero_add _)) (static.trans (UInt32.zero_add _))
      constructor
      case absent => exact fun impossible => nomatch impossible
      case present =>
        rintro _ ⟨⟩
        simp only [memoryAllocChainMemchunks, noBlocks, append_nil]
        exact ⟨_, kept⟩
    case h_2 => exact .failed noBlocks
  · exact .failed noBlocks

/-! ## Blocks in use -/

/-- The blocks in use grow by some blocks and by the block from the heap that is handed
out. -/
def GetResult.Grows (result : GetResult β) (size : Nat) : Prop :=
  result.heap.inUse.length = size + (result.block.toList.filter fun entry => entry.2).length

theorem allocateFromHeap_grows :
    (allocateFromHeap heap pool heapB heapBlock).Grows heap.inUse.length := by
  unfold allocateFromHeap
  split
  · cases heapBlock <;> rfl
  · rfl

theorem moveToThreadList_grows :
    (moveToThreadList heap pool nodes index first).Grows heap.inUse.length := by
  unfold moveToThreadList
  split
  · dsimp only
    split <;> rfl
  · rfl

theorem getFromGlobalList_grows :
    (getFromGlobalList heap pool own heapB heapBlock).Grows heap.inUse.length := by
  unfold getFromGlobalList
  split
  · split
    · exact moveToThreadList_grows
    · exact allocateFromHeap_grows
  · rfl
  · exact allocateFromHeap_grows

theorem mempoolMheapGetMemBlock_grows {thread : Nat} {heapB : Bool} {supply : List β}
    {heapBlock : Option β} (noFree : pool.threadHasFree thread = false) :
    (mempoolMheapGetMemBlock heap pool thread heapB supply heapBlock).Grows
      ((refillBlocks pool supply).length + heap.inUse.length) := by
  have added := congrArg List.length (@refillIfLow_fields _ _ heap pool supply).1
  rw [length_append] at added
  unfold mempoolMheapGetMemBlock
  rw [← added]
  cases own : pool.threadNode thread with
  | none => exact getFromGlobalList_grows
  | some pair =>
  rcases pair with ⟨nodes, index⟩
  have empty : (nodes index).freeCount = 0 := by
    simpa [MemoryPool.threadHasFree, own] using noFree
  dsimp only
  rw [if_neg (not_not.mpr empty)]
  exact getFromGlobalList_grows

/-! ## Runs -/

/-- The refill on the way of an event, if there is one, leaves fewer than `2 ^ 32` static
blocks. -/
def RefillFits (maxThreads : Nat) (system : PoolSystem β) : PoolEvent β → Prop
  | .get thread _ supply heapBlock => ∀ pool, system.pool = some pool → thread ≤ maxThreads →
      system.heap.Fresh (supply ++ heapBlock.toList) → pool.threadHasFree thread = false →
        pool.staticAllocatedBlocksCount.toNat + (refillBlocks pool supply).length < 2 ^ 32
  | _ => True

/-- There is no pool and no block, or the blocks of the pool are accounted for. -/
structure PoolInv (maxThreads : Nat) (system : PoolSystem β) : Prop where
  absent : system.pool = none → system.held = [] ∧ system.heap.inUse = []
  present : ∀ pool, system.pool = some pool →
    ∃ lists, Tracked maxThreads system.heap pool system.held lists

omit [DecidableEq β] in
theorem PoolInv.init (next : β → Option β) : PoolInv maxThreads (PoolSystem.init next) where
  absent := fun _ => ⟨rfl, rfl⟩
  present := fun _ impossible => nomatch impossible

omit [DecidableEq β] in
theorem PoolInv.of_tracked {lists : Option Nat → List β}
    (tracked : Tracked maxThreads heap pool held lists) :
    PoolInv maxThreads { heap := heap, pool := some pool, held := held } where
  absent := fun impossible => nomatch impossible
  present := by
    rintro _ ⟨⟩
    exact ⟨lists, tracked⟩

variable {system : PoolSystem β}

omit [DecidableEq β] in
theorem PoolInv.conserved (inv : PoolInv maxThreads system) : Conserved maxThreads system := by
  intro pool present
  rcases inv.present pool present with ⟨lists, tracked⟩
  exact ⟨lists, tracked.toAccounted⟩

variable {event : PoolEvent β}

section

variable (inv : PoolInv maxThreads system)

include inv

/-- Every event that fits keeps every block in one place. -/
theorem PoolInv.step (fits : RefillFits maxThreads system event) :
    PoolInv maxThreads (system.step maxThreads event) := by
  rcases system with ⟨heap, pool, held⟩
  cases pool with
  | none =>
    rcases inv.absent rfl with ⟨rfl, noBlocks⟩
    cases event with
    | create params poolAllocated supply listAllocated =>
      simp only [PoolSystem.step]
      split
      case isTrue fresh =>
        have kept := @mempoolCreatePool_kept _ _ maxThreads _ params poolAllocated
          listAllocated _ fresh.1 noBlocks
        exact ⟨fun absent => ⟨rfl, kept.absent absent⟩, kept.present⟩
      case isFalse => exact inv
    | get thread heapB supply heapBlock => exact inv
    | release thread block heapB => exact inv
    | releaseNull thread => exact inv
    | write block word => exact inv
  | some pool =>
  rcases inv.present pool rfl with ⟨lists, tracked⟩
  cases event with
  | create params poolAllocated supply listAllocated => exact inv
  | get thread heapB supply heapBlock =>
    simp only [PoolSystem.step]
    split
    case isTrue possible =>
      have kept := @mempoolMheapGetMemBlock_kept _ _ _ _ _ _ _ _ heapB _ _ tracked
        possible.1 possible.2 (fits pool rfl possible.1 possible.2)
      rcases kept.tracked with ⟨lists', tracked'⟩
      exact .of_tracked tracked'
    case isFalse => exact inv
  | release thread block heapB =>
    simp only [PoolSystem.step]
    split
    case isTrue possible =>
      rcases mempoolReleaseMemBlock_tracked tracked possible.1 possible.2 with
        ⟨lists', tracked'⟩
      exact .of_tracked tracked'
    case isFalse => exact inv
  | releaseNull thread =>
    exact .of_tracked ⟨tracked.toAccounted.congr rfl rfl rfl rfl, tracked.tail_eq⟩
  | write block word =>
  simp only [PoolSystem.step]
  split
  case isTrue isHeld =>
    exact .of_tracked ⟨tracked.toAccounted.write isHeld word, tracked.tail_eq⟩
  case isFalse => exact inv

theorem RefillFits.of_conserved (conserved : Conserved maxThreads (system.step maxThreads event)) :
    RefillFits maxThreads system event := by
  cases event with
  | get thread heapB supply heapBlock =>
    intro pool present bound fresh noFree
    rcases system with ⟨heap, _, held⟩
    cases present
    rcases inv.present pool rfl with ⟨lists, tracked⟩
    simp only [PoolSystem.step, if_pos (And.intro bound fresh)] at conserved
    rcases conserved _ rfl with ⟨lists', accounted⟩
    have before := tracked.inUse_length
    have after := accounted.inUse_length
    have grown := @mempoolMheapGetMemBlock_grows _ _ heap pool thread heapB supply heapBlock noFree
    unfold GetResult.Grows at grown
    rw [filter_append, length_append] at after
    have bounded := UInt32.toNat_lt
      (mempoolMheapGetMemBlock heap pool thread heapB supply heapBlock).pool.staticAllocatedBlocksCount
    dsimp only at after before
    omega
  | _ => trivial

theorem PoolInv.refillFits_iff :
    RefillFits maxThreads system event ↔ Conserved maxThreads (system.step maxThreads event) :=
  ⟨fun fits => (inv.step fits).conserved, RefillFits.of_conserved inv⟩

end

/-- A run keeps every block that is not with a caller on exactly one free list, the
counters of the lists equal to their lengths, and `static_allocated_blocks_count` equal to
the static blocks on lists and with callers, exactly when no refill brings the number of
static blocks to `2 ^ 32`. -/
theorem conserved_iff_refillFits (maxThreads : Nat) (next : β → Option β)
    (events : List (PoolEvent β)) :
    Along (PoolSystem.step maxThreads)
        (fun system event => Conserved maxThreads (system.step maxThreads event))
        (PoolSystem.init next) events ↔
      Along (PoolSystem.step maxThreads) (RefillFits maxThreads) (PoolSystem.init next) events := by
  symm
  apply Along.iff_of_invariant (fun _ _ inv fits => inv.step fits) _ (PoolInv.init next)
  exact fun _ _ inv => inv.refillFits_iff

/-! ## A run that wraps the counter -/

/-- A pool that may have `2 ^ 32 - 1` blocks, none of them static, and whose threshold is
`2 ^ 31 - 1` free blocks. -/
def unlimitedParams : MempoolParams where
  blockSize := 64
  maxBlocks := 4294967295
  memsetNotRequired := false
  listPerThreadRequired := true
  noofBlocksToMoveToThreadList := 4294967295
  staticBlocks := 0
  thresholdMin := 0
  thresholdMax := 2147483647
  replenishCount := 0

/-- The pool of these parameters, with `cells` on its global list. -/
def unlimitedPool (nodes : Nat → PerThreadMemNode β) (cells : List β)
    (allocated static : UInt32) : MemoryPool β where
  perThreadList := some nodes
  blockCountForMovingToThreadlist := 4294967295
  head := cells.head?
  tail := cells.getLast?
  donotMemset := false
  freeBlocksCount := UInt32.ofNat cells.length
  allocatedBlocksCount := allocated
  releasedBlocksCount := 0
  allocationFailBlocksCount := 0
  releasedFailBlocksCount := 0
  heapFreeBlocksCount := 4294967295
  heapAllocatedBlocksCount := 0
  heapReleasedBlocksCount := 0
  heapAllocationFailBlocksCount := 0
  heapAllowedBlocksCount := 4294967295
  staticBlocks := 0
  totalBlocksCount := 4294967295
  blockSize := 64
  staticAllocatedBlocksCount := static
  thresholdMax := 2147483647
  thresholdMin := 0
  replenishCount := 0

variable {supply : List β}

theorem unlimited_create (size : supply.length = 2147483647) :
    mempoolCreatePool heap unlimitedParams true supply true =
      ({ next := linkCells heap.next supply, inUse := supply ++ heap.inUse },
        some (unlimitedPool (fun _ => .zeroed) supply 0 2147483647)) := by
  have all : supply.take 2147483647 = supply := take_of_length_le (Nat.le_of_eq size)
  have someHead : supply.head? ≠ none := by
    intro noHead
    rw [head?_eq_none_iff.mp noHead] at size
    exact absurd size (by simp)
  have someBlocks : supply ≠ [] := fun empty => someHead (head?_eq_none_iff.mpr empty)
  simp [mempoolCreatePool, mempoolCreateMheapPool, unlimitedParams, memoryAllocChainMemchunks,
    MemoryPool.setThresholdValues, MemoryPool.setAttributes, all, someBlocks, size, unlimitedPool,
    MemoryPool.zeroed]

variable {allocated static : UInt32}

theorem unlimited_hand {cells : List β} (size : cells.length = 2147483647) :
    ∃ node, (getFromGlobalList heap (unlimitedPool nodes cells allocated static)
      (some (nodes, index)) false none).pool =
        unlimitedPool (update nodes index node) [] (allocated + 2147483647) static := by
  cases cells with
  | nil => simp at size
  | cons first more =>
  refine ⟨{ nodes index with
    perThreadHead := heap.next first
    freeCount := 2147483647 - 1 }, ?_⟩
  simp [getFromGlobalList, moveToThreadList, handToThreadList, GetResult.static,
    setThreadNode, unlimitedPool, size]

theorem unlimited_refill (size : supply.length = 2147483647) :
    (refillIfLow heap (unlimitedPool nodes [] allocated 2147483647) supply).2 =
      unlimitedPool nodes supply allocated 4294967294 := by
  have chunk : (unlimitedPool nodes [] allocated 2147483647).memChunk = 2147483647 := by
    simp [MemoryPool.memChunk, unlimitedPool]
    decide
  have low : (unlimitedPool nodes [] allocated 2147483647).checkStaticFreecntAndRefill = true := by
    rfl
  have blocks : refillBlocks (unlimitedPool nodes [] allocated 2147483647) supply = supply := by
    rw [refillBlocks, if_pos low, chunk]
    exact take_of_length_le (Nat.le_of_eq size)
  have someBlocks : refillBlocks (unlimitedPool nodes [] allocated 2147483647) supply ≠ [] := by
    rw [blocks]
    rintro rfl
    simp at size
  rw [refillIfLow_start someBlocks rfl, blocks]
  simp [MemoryPool.refilled, unlimitedPool, size]

omit [DecidableEq β] in
theorem unlimited_lastChunk {one two : β} :
    refillBlocks (unlimitedPool nodes [] allocated 4294967294) [one, two] = [one, two] := by
  have chunk : (unlimitedPool nodes [] allocated 4294967294).memChunk = 2 := by
    simp [MemoryPool.memChunk, unlimitedPool]
    decide
  have low : (unlimitedPool nodes [] allocated 4294967294).checkStaticFreecntAndRefill = true := by
    rfl
  rw [refillBlocks, if_pos low, chunk]
  rfl

theorem getFromGlobalList_inUse :
    (getFromGlobalList heap pool own false none).heap.inUse = heap.inUse := by
  have fromHeap : (allocateFromHeap heap pool false none).heap.inUse = heap.inUse := rfl
  unfold getFromGlobalList
  split
  · split
    · unfold moveToThreadList
      split
      · dsimp only
        split <;> rfl
      · rfl
    · exact fromHeap
  · rfl
  · exact fromHeap

variable {thread : Nat} {static' : UInt32}

theorem unlimited_get {cells cells' : List β} (number : threadNum thread = index + 1)
    (noFree : (nodes index).freeCount = 0)
    (refilled : (refillIfLow heap (unlimitedPool nodes cells allocated static) supply).2 =
      unlimitedPool nodes cells' allocated static') (size : cells'.length = 2147483647) :
    (∃ node, (mempoolMheapGetMemBlock heap (unlimitedPool nodes cells allocated static) thread
      false supply none).pool = unlimitedPool (update nodes index node) []
        (allocated + 2147483647) static') ∧
      (mempoolMheapGetMemBlock heap (unlimitedPool nodes cells allocated static) thread false
        supply none).heap.inUse =
          refillBlocks (unlimitedPool nodes cells allocated static) supply ++ heap.inUse := by
  have own : (unlimitedPool nodes cells allocated static).threadNode thread =
      some (nodes, index) := by
    simp [MemoryPool.threadNode, unlimitedPool, number]
  have getEq : mempoolMheapGetMemBlock heap (unlimitedPool nodes cells allocated static) thread
      false supply none = getFromGlobalList
        (refillIfLow heap (unlimitedPool nodes cells allocated static) supply).1
        (unlimitedPool nodes cells' allocated static') (some (nodes, index)) false none := by
    simp [mempoolMheapGetMemBlock, own, noFree, refilled]
  rw [getEq]
  constructor
  · exact unlimited_hand size
  · rw [getFromGlobalList_inUse]
    exact refillIfLow_fields.1

theorem PoolSystem.step_create {params : MempoolParams} {poolAllocated listAllocated : Bool}
    (absent : system.pool = none) (fresh : system.heap.Fresh supply) :
    system.step maxThreads (.create params poolAllocated supply listAllocated) =
      { system with
        heap := (mempoolCreatePool system.heap params poolAllocated supply listAllocated).1
        pool := (mempoolCreatePool system.heap params poolAllocated supply listAllocated).2 } := by
  simp only [PoolSystem.step, absent, if_pos fresh]

theorem PoolSystem.step_get (present : system.pool = some pool) (bound : thread ≤ maxThreads)
    (fresh : system.heap.Fresh (supply ++ heapBlock.toList)) :
    system.step maxThreads (.get thread heapB supply heapBlock) =
      { heap := (mempoolMheapGetMemBlock system.heap pool thread heapB supply heapBlock).heap
        pool := some (mempoolMheapGetMemBlock system.heap pool thread heapB supply heapBlock).pool
        held := (mempoolMheapGetMemBlock system.heap pool thread heapB supply heapBlock).block.toList
          ++ system.held } := by
  simp only [PoolSystem.step, present, if_pos (And.intro bound fresh)]

theorem unlimited_step {cells cells' : List β}
    (present : system.pool = some (unlimitedPool nodes cells allocated static))
    (bound : thread ≤ maxThreads) (fresh : system.heap.Fresh supply)
    (number : threadNum thread = index + 1) (noFree : (nodes index).freeCount = 0)
    (refilled : (refillIfLow system.heap (unlimitedPool nodes cells allocated static) supply).2 =
      unlimitedPool nodes cells' allocated static') (size : cells'.length = 2147483647) :
    (∃ node, (system.step maxThreads (.get thread false supply none)).pool =
      some (unlimitedPool (update nodes index node) [] (allocated + 2147483647) static')) ∧
      ∀ block ∈ (system.step maxThreads (.get thread false supply none)).heap.inUse,
        block ∈ supply ∨ block ∈ system.heap.inUse := by
  have fresh' : system.heap.Fresh (supply ++ (none : Option β).toList) := by
    simpa using fresh
  have after := unlimited_get number noFree refilled size
  rw [PoolSystem.step_get present bound fresh']
  constructor
  · rcases after.1 with ⟨node, nodeEq⟩
    exact ⟨node, congrArg some nodeEq⟩
  intro block member
  rw [after.2] at member
  rcases mem_append.mp member with added | before
  · exact .inl (refillBlocks_subset added)
  · exact .inr before

/-- Three threads, one after the other, empty the global list of a pool that may have more
free blocks than `static_blocks`, and its third refill wraps
`static_allocated_blocks_count`. -/
theorem unlimited_wraps {supply' : List β} {one two : β} (size : supply.length = 2147483647)
    (size' : supply'.length = 2147483647) (nodup : (supply ++ supply' ++ [one, two]).Nodup)
    (next : β → Option β) :
    ¬ Along (PoolSystem.step 3) (RefillFits 3) (PoolSystem.init next)
      [.create unlimitedParams true supply true, .get 1 false [] none, .get 2 false supply' none,
        .get 3 false [one, two] none] := by
  have parts := nodup_append.mp nodup
  have parts' := nodup_append.mp parts.1
  intro along
  rcases along with ⟨-, -, -, last, -⟩
  have fresh₁ : (PoolSystem.init next).heap.Fresh supply :=
    ⟨parts'.1, fun _ _ => not_mem_nil⟩
  rw [PoolSystem.step_create rfl fresh₁, unlimited_create size] at last
  generalize created : ({ PoolSystem.init next with
    heap := { next := linkCells (PoolSystem.init next).heap.next supply
              inUse := supply ++ (PoolSystem.init next).heap.inUse }
    pool := some (unlimitedPool (fun _ => .zeroed) supply 0 2147483647) } : PoolSystem β) =
      system₁ at last
  have used₁ : system₁.heap.inUse = supply := by
    rw [← created]
    exact append_nil supply
  have present₁ : system₁.pool =
      some (unlimitedPool (fun _ => .zeroed) supply 0 2147483647) := by
    rw [← created]
  -- thread 1 takes all of it
  have enough : refillIfLow system₁.heap
      (unlimitedPool (fun _ => .zeroed) supply 0 2147483647) [] =
        (system₁.heap, unlimitedPool (fun _ => .zeroed) supply 0 2147483647) := by
    refine refillIfLow_nil ?_
    unfold refillBlocks
    split
    · exact take_nil
    · rfl
  have get₁ := unlimited_step present₁ (by decide : 1 ≤ 3)
    ⟨nodup_nil, fun _ impossible => absurd impossible not_mem_nil⟩ rfl rfl
    (congrArg Prod.snd enough) size
  generalize system₁.step 3 (.get 1 false [] none) = system₂ at last get₁
  rcases get₁ with ⟨⟨node₁, present₂⟩, used₂⟩
  -- thread 2 has the list refilled, and takes all of it
  have fresh₃ : system₂.heap.Fresh supply' := by
    refine ⟨parts'.2.1, fun block member inUse => ?_⟩
    rcases used₂ block inUse with impossible | before
    · exact absurd impossible not_mem_nil
    · exact parts'.2.2 block (used₁ ▸ before) block member rfl
  have get₂ := unlimited_step present₂ (by decide : 2 ≤ 3) fresh₃
    (rfl : threadNum 2 = 1 + 1) rfl (unlimited_refill size') size'
  generalize system₂.step 3 (.get 2 false supply' none) = system₃ at last get₂
  rcases get₂ with ⟨⟨node₂, present₃⟩, used₃⟩
  -- thread 3 has it refilled once more
  have fresh₄ : system₃.heap.Fresh ([one, two] ++ (none : Option β).toList) := by
    refine ⟨parts.2.1, fun block member inUse => ?_⟩
    rcases used₃ block inUse with second | before
    · exact parts.2.2 block (mem_append_right _ second) block member rfl
    · rcases used₂ block before with impossible | first
      · exact absurd impossible not_mem_nil
      · exact parts.2.2 block (mem_append_left _ (used₁ ▸ first)) block member rfl
  have tooMany := last _ present₃ (by decide) fresh₄ rfl
  rw [unlimited_lastChunk] at tooMany
  change (4294967294 : UInt32).toNat + 2 < 2 ^ 32 at tooMany
  exact absurd tooMany (by decide)

/-- The blocks of a pool are not always conserved. -/
theorem not_conserved_unlimited :
    ¬ ∀ events : List (PoolEvent Nat), Along (PoolSystem.step 3)
        (fun system event => Conserved 3 (system.step 3 event))
        (PoolSystem.init fun _ => none) events := by
  intro always
  have size : (List.range' 0 2147483647).length = 2147483647 := length_range'
  have size' : (List.range' 2147483647 2147483647).length = 2147483647 := length_range'
  have blocks : List.range' 0 2147483647 ++ List.range' 2147483647 2147483647 ++
      [4294967294, 4294967295] = List.range' 0 4294967296 := by
    have last : [4294967294, 4294967295] = List.range' 4294967294 2 := rfl
    have first : List.range' 0 2147483647 ++ List.range' 2147483647 2147483647 =
        List.range' 0 4294967294 := by
      have joined := @List.range'_append_1 0 2147483647 2147483647
      rwa [Nat.zero_add] at joined
    have joined := @List.range'_append_1 0 4294967294 2
    rw [first, last, joined]
  refine unlimited_wraps size size' (blocks ▸ nodup_range') (fun _ => none) ?_
  exact (Along.iff_of_invariant (fun _ _ inv fits => inv.step fits)
    (fun _ _ inv => inv.refillFits_iff) (PoolInv.init fun _ => none)).mpr (always _)

end OpenFlowController.Utils
