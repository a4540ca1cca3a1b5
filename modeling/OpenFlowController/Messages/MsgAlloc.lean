/-
Module: Messages.MsgAlloc
Purpose: The pools of message buffers, and the pool from which `ofu_alloc_message` takes the buffer
  of a message.  A counter of what each pool gave has fewer entries than there are pools.
Source: ofproto/src/messages/of_cntlr_msg.c 330-343, 512-574, 637-700; utils/msgpool.c 33, 51-136;
  ofproto/src/include/of_msgpool.h
Trusted boundary: releases, and the `released_count` they count in, come between the calls and
  leave any pools that account for their blocks
-/
import OpenFlowController.Include.ActionFormat
import OpenFlowController.Messages.ReaderSpec
import OpenFlowController.Utils.MempoolQuota

namespace OpenFlowController.Messages

open Include Library Utils

/-! ## The pools -/

def cntlrAppMsgPools : List Nat :=
  [300, 1500, 300, 300, 300, 20, 20, 10, 10, 10, 10, 5, 5, 5, 5, 5, 5, 5, 5, 5, 5, 5,
    3, 3, 3, 3, 3, 3, 3, 3, 3, 3, 3]

/-- `of_msg_pool_init`: what pool `ii` is created with. -/
def msgPoolParams (sizeofOfMsg noOfThreads ii : Nat) : MempoolParams :=
  let numberOfBlocks := cntlrAppMsgPools.getD ii 0 * (noOfThreads + 1)
  let maxStaticMsgs := numberOfBlocks * 3 / 4
  { blockSize := .ofNat (sizeofOfMsg + (msgPoolBlockSize ii).getD 0)
    maxBlocks := .ofNat numberOfBlocks
    memsetNotRequired := false
    listPerThreadRequired := true
    noofBlocksToMoveToThreadList := .ofNat (maxStaticMsgs / 10)
    staticBlocks := .ofNat maxStaticMsgs
    thresholdMin := .ofNat (maxStaticMsgs / 10)
    thresholdMax := .ofNat (maxStaticMsgs / 3)
    replenishCount := .ofNat (maxStaticMsgs / 10) }

/-- The memory pool of an entry of `of_cntlr_msg_pool_g`, and the blocks callers hold. -/
structure MsgbufPool (β : Type) where
  heap : Utils.Heap β
  pool : MemoryPool β
  held : List (β × Bool)

/-- The pools, and `allocated_count`.  `undefined` tells that a counter outside of it was
written. -/
structure MsgPools (β : Type) where
  entry : Nat → MsgbufPool β
  allocatedCount : List UInt32
  undefined : Bool

/-- What a call meets.  `is_heap` is not initialised. -/
structure MsgAllocWorld (β : Type) where
  thread : Nat
  isHeap : Bool
  supply : List β
  heapBlock : Option β

/-- `of_msg_t`: the pool's information, and the descriptor with its places in `data`. -/
structure OfMsg (β : Type) where
  block : β
  refCnt : Nat
  isHeap : Bool
  poolIndex : Nat
  bufLen : Nat
  type : UInt8
  bufferLen : Nat
  dataLen : Nat
  startOfData : Nat
  startOfBuffer : Nat

/-! ## Allocating a message -/

section

variable {β : Type} [DecidableEq β]

/-- `of_msg_alloc`: a block of the pool, which is counted. -/
def ofMsgAlloc (pools : MsgPools β) (poolIndex : Nat) (world : MsgAllocWorld β) :
    MsgPools β × Option (β × Bool) :=
  let entry := pools.entry poolIndex
  let got := mempoolMheapGetMemBlock entry.heap entry.pool world.thread world.isHeap world.supply
    world.heapBlock
  let entries := Function.update pools.entry poolIndex
    { heap := got.heap, pool := got.pool, held := got.block.toList ++ entry.held }
  match got.block with
  | none => ({ pools with entry := entries }, none)
  | some block =>
    ({ entry := entries
       allocatedCount := pools.allocatedCount.modify poolIndex (· + 1)
       undefined := pools.undefined || decide (pools.allocatedCount.length ≤ poolIndex) },
      some block)

def MsgPools.ofuAllocMessage (pools : MsgPools β) (world : MsgAllocWorld β) (type : UInt8)
    (size : UInt16) : MsgPools β × Option (OfMsg β) :=
  let size := uint16OfUint32 (size.toNat + roundUp size.toNat)
  let poolIndex := msgPoolIndex size
  match msgPoolBlockSize poolIndex with
  | none => (pools, none)
  | some blockSize =>
    let allocated := ofMsgAlloc pools poolIndex world
    (allocated.1, allocated.2.map fun (block, isHeap) =>
      { block := block
        isHeap := isHeap
        poolIndex := poolIndex
        bufLen := uint16OfUint32 blockSize
        type := type
        bufferLen := uint16OfUint32 (size + roundUp size)
        refCnt := 1
        dataLen := 0
        startOfData := 0
        startOfBuffer := 0 })

/-! ## What should hold -/

omit [DecidableEq β] in
/-- No static block is left that the thread may take, and the quota of blocks from the heap is
used up, or `calloc` has none. -/
def MsgbufPool.Exhausted (entry : MsgbufPool β) (world : MsgAllocWorld β) : Prop :=
  entry.pool.threadHasFree world.thread = false ∧ ¬ entry.pool.StaticLeft world.supply ∧
    (entry.pool.heapMax ≤ (entry.held.filter fun block => block.2).length ∨
      world.heapBlock = none)

/-- The pool has the smallest blocks of those with room for `size` bytes. -/
def SmallestFit (size poolIndex : Nat) : Prop :=
  ∃ block, msgPoolBlockSize poolIndex = some block ∧ size ≤ block ∧
    ∀ index other, msgPoolBlockSize index = some other → size ≤ other → block ≤ other

/-- A message comes from the smallest pool that has room for its size, with room for that in its
buffer, and nothing outside the counters is written; or that pool is exhausted. -/
def WellSized (pools : MsgPools β) (world : MsgAllocWorld β) (type : UInt8) (size : UInt16) : Prop :=
  1 ≤ size.toNat → ∀ poolIndex, SmallestFit size.toNat poolIndex →
    match pools.ofuAllocMessage world type size with
    | (_, none) => (pools.entry poolIndex).Exhausted world
    | (later, some msg) =>
      later.undefined = false ∧ msg.poolIndex = poolIndex ∧ size.toNat ≤ msg.bufferLen ∧
        msg.bufferLen ≤ msg.bufLen ∧ msgPoolBlockSize poolIndex = some msg.bufLen

omit [DecidableEq β] in
/-- The pool has a block for the call: of the thread's list, a static one the thread is not passed
over for, or one of the heap. -/
def MsgbufPool.Gives (entry : MsgbufPool β) (world : MsgAllocWorld β) : Prop :=
  entry.pool.threadHasFree world.thread = true ∨
    (entry.pool.StaticLeft world.supply ∧ entry.pool.passesOver world.thread = false) ∨
    entry.pool.heapGives world.isHeap world.heapBlock = true

omit [DecidableEq β] in
/-- The pool is one of those that are counted and has a block for the call; or it has none and is
exhausted. -/
def MsgPools.Fits (pools : MsgPools β) (poolIndex : Nat) (world : MsgAllocWorld β) : Prop :=
  ((pools.entry poolIndex).Gives world → poolIndex < pools.allocatedCount.length) ∧
    (¬ (pools.entry poolIndex).Gives world → (pools.entry poolIndex).Exhausted world)

/-- A pool that accounts for its blocks, within the limits `of_msg_pool_init` sets. -/
structure IntactMsgbufPool (β : Type) (maxThreads : Nat) extends MsgbufPool β where
  tracked : ∃ lists, Tracked maxThreads heap pool held lists
  withinStatic : pool.staticAllocatedBlocksCount ≤ pool.staticBlocks
  smallRefill : pool.replenishCount.toNat + pool.staticBlocks.toNat < 2 ^ 32

/-- Such pools with their ten counters. -/
structure IntactMsgPools (β : Type) (maxThreads : Nat) where
  entry : Nat → IntactMsgbufPool β maxThreads
  allocatedCount : List UInt32
  counters : allocatedCount.length = 10

omit [DecidableEq β] in
/-- Nothing outside the counters was written yet. -/
def IntactMsgPools.toMsgPools {maxThreads : Nat} (pools : IntactMsgPools β maxThreads) :
    MsgPools β where
  entry index := (pools.entry index).toMsgbufPool
  allocatedCount := pools.allocatedCount
  undefined := false

/-- What a call of one of the threads meets, where `calloc` returns memory that is not in use. -/
structure FreshMsgAllocWorld (maxThreads : Nat) (pools : IntactMsgPools β maxThreads)
    extends MsgAllocWorld β where
  bound : thread ≤ maxThreads
  fresh : ∀ poolIndex, (pools.entry poolIndex).heap.Fresh (supply ++ heapBlock.toList)

/-! ## The block of a message -/

theorem mempoolMheapGetMemBlock_block {heap : Utils.Heap β} {pool : MemoryPool β} {thread : Nat}
    {heapB : Bool} {supply : List β} {heapBlock : Option β} :
    (mempoolMheapGetMemBlock heap pool thread heapB supply heapBlock).status = .success ↔
      (mempoolMheapGetMemBlock heap pool thread heapB supply heapBlock).block ≠ none := by
  unfold mempoolMheapGetMemBlock takeFromThreadList getFromGlobalList moveToThreadList
    handToThreadList takeFromGlobalList allocateFromHeap
  grind [GetResult.static, GetResult.undefined]

variable {maxThreads : Nat}

/-- A call gets a block exactly where the pool has one for it. -/
theorem IntactMsgbufPool.gives_iff (entry : IntactMsgbufPool β maxThreads)
    {world : MsgAllocWorld β} (bound : world.thread ≤ maxThreads)
    (fresh : entry.heap.Fresh (world.supply ++ world.heapBlock.toList)) :
    (mempoolMheapGetMemBlock entry.heap entry.pool world.thread world.isHeap world.supply
        world.heapBlock).block ≠ none ↔ entry.Gives world := by
  obtain ⟨thread, heapB, supply, heapBlock⟩ := world
  obtain ⟨⟨heap, pool, held⟩, ⟨lists, tracked⟩, within, small⟩ := entry
  have few := Nat.lt_of_le_of_lt (@refillBlocks_fits _ _ supply within small) (UInt32.toNat_lt _)
  have defined := (@mempoolMheapGetMemBlock_kept _ _ _ _ _ _ _ thread heapB supply heapBlock tracked
    bound fresh fun _ => few).defined
  have given := @mempoolMheapGetMemBlock_block _ _ heap pool thread heapB supply heapBlock
  unfold MsgbufPool.Gives
  dsimp only at tracked ⊢
  cases noFree : pool.threadHasFree thread with
  | true =>
    have hands := (@mempoolMheapGetMemBlock_own _ _ heap _ _ heapB supply heapBlock noFree).1
    exact iff_of_true (given.mp (hands.status defined)) (.inl rfl)
  | false =>
  rcases @mempoolMheapGetMemBlock_cases _ _ _ _ _ _ _ thread heapB supply heapBlock tracked noFree
    with ⟨hands, left⟩ | ⟨turned, why⟩
  · exact iff_of_true (given.mp (hands.status defined)) (.inr (.inl left))
  have sameGives : (refillIfLow heap pool supply).2.heapGives heapB heapBlock =
      pool.heapGives heapB heapBlock := by
    rw [MemoryPool.heapGives, refillIfLow_limits.2.1, MemoryPool.heapGives]
  rw [turned]
  by_cases gives : pool.heapGives heapB heapBlock = true
  · obtain ⟨block, taken⟩ := @allocateFromHeap_gives _ _ (refillIfLow heap pool supply).1 _ _ _
      (sameGives.trans gives)
    rw [taken]
    exact iff_of_true (by simp) (.inr (.inr gives))
  · have fails := @allocateFromHeap_fails _ _ (refillIfLow heap pool supply).1
      (refillIfLow heap pool supply).2 heapB heapBlock (by rwa [sameGives])
    refine iff_of_false (fun some => some fails.2.1) ?_
    rintro (own | ⟨left, served⟩ | given)
    · cases own
    · rcases why with none | passed
      · exact none left
      · exact Bool.noConfusion (served.symm.trans passed)
    · exact gives given

/-! ## The pool of a message -/

theorem msgPoolIndex_between {size : Nat} (positive : 1 ≤ size) (small : size ≤ 29568) :
    (msgPoolIndex size < 11 ∧ msgPoolIndex size * 128 < size ∧
        size ≤ (msgPoolIndex size + 1) * 128) ∨
      (11 ≤ msgPoolIndex size ∧ msgPoolIndex size < 22 ∧
        1408 + (msgPoolIndex size - 11) * 512 < size ∧
        size ≤ 1408 + (msgPoolIndex size - 10) * 512) ∨
      (22 ≤ msgPoolIndex size ∧ msgPoolIndex size < 33 ∧
        7040 + (msgPoolIndex size - 22) * 2048 < size ∧
        size ≤ 7040 + (msgPoolIndex size - 21) * 2048) := by
  unfold msgPoolIndex msgPoolIndexIn
  dsimp only
  by_cases third : 7040 ≤ size
  · have numbered : (size - 7040) / 2048 + 22 ≠ 0 := by omega
    rw [if_pos third, if_neg numbered]
    split_ifs <;> omega
  rw [if_neg third]
  by_cases second : 1408 ≤ size
  · have numbered : (size - 1408) / 512 + 11 ≠ 0 := by omega
    rw [if_pos second, if_neg numbered]
    split_ifs <;> omega
  · rw [if_neg second]
    split_ifs <;> omega

theorem msgPoolIndex_smallestFit {size : Nat} (positive : 1 ≤ size) (small : size ≤ 29568) :
    SmallestFit size (msgPoolIndex ((size + 7) / 8 * 8)) := by
  have between := @msgPoolIndex_between ((size + 7) / 8 * 8) (by omega) (by omega)
  generalize msgPoolIndex ((size + 7) / 8 * 8) = poolIndex at between
  have inside : ∃ block, msgPoolBlockSize poolIndex = some block := by
    unfold msgPoolBlockSize
    split_ifs
    case neg => omega
    all_goals exact ⟨_, rfl⟩
  obtain ⟨block, found⟩ := inside
  have sizes := msgPoolBlockSize_eq found
  refine ⟨block, found, by omega, fun index other isOther room => ?_⟩
  have others := msgPoolBlockSize_eq isOther
  omega

theorem SmallestFit.unique {size poolIndex other : Nat} (fit : SmallestFit size poolIndex)
    (fitOther : SmallestFit size other) : poolIndex = other := by
  obtain ⟨block, found, room, smallest⟩ := fit
  obtain ⟨block', found', room', smallest'⟩ := fitOther
  have le := smallest other block' found' room'
  have ge := smallest' poolIndex block found room
  have sizes := msgPoolBlockSize_eq found
  have sizes' := msgPoolBlockSize_eq found'
  omega

/-! ## When the sizing holds -/

/-- A message comes from the smallest pool with room for it and nothing else is written, or that
pool is exhausted, exactly where that pool fits the call. -/
theorem ofuAllocMessage_sized_iff (pools : IntactMsgPools β maxThreads)
    (world : FreshMsgAllocWorld maxThreads pools) (type : UInt8) (size : UInt16) :
    WellSized pools.toMsgPools world.toMsgAllocWorld type size ↔
      (1 ≤ size.toNat → ∀ poolIndex, SmallestFit size.toNat poolIndex →
        pools.toMsgPools.Fits poolIndex world.toMsgAllocWorld) := by
  refine forall_congr' fun positive => forall_congr' fun poolIndex => forall_congr' fun fit => ?_
  obtain ⟨block, found, room, -⟩ := id fit
  have sizes := msgPoolBlockSize_eq found
  have isIndex := fit.unique (msgPoolIndex_smallestFit positive (by omega))
  -- every block is a multiple of eight, so that it has room for the rounded size
  have whole : uint16OfUint32 block = block ∧ (size.toNat + 7) / 8 * 8 ≤ block := by
    unfold uint16OfUint32
    omega
  have rounded : uint16OfUint32 (size.toNat + roundUp size.toNat) = (size.toNat + 7) / 8 * 8 := by
    unfold uint16OfUint32 roundUp
    omega
  have again : uint16OfUint32 ((size.toNat + 7) / 8 * 8 + roundUp ((size.toNat + 7) / 8 * 8)) =
      (size.toNat + 7) / 8 * 8 := by
    unfold uint16OfUint32 roundUp
    omega
  have gives := (pools.entry poolIndex).gives_iff world.bound (world.fresh poolIndex)
  unfold MsgPools.ofuAllocMessage ofMsgAlloc MsgPools.Fits IntactMsgPools.toMsgPools
  rw [rounded]
  dsimp only
  rw [← isIndex, found]
  dsimp only
  rw [again, whole.1]
  cases given : (mempoolMheapGetMemBlock (pools.entry poolIndex).heap (pools.entry poolIndex).pool
    world.thread world.isHeap world.supply world.heapBlock).block with
  | none =>
    have nothing : ¬ (pools.entry poolIndex).Gives world.toMsgAllocWorld :=
      fun has => gives.mpr has given
    exact ⟨fun exhausted => ⟨fun has => absurd has nothing, fun _ => exhausted⟩,
      fun fits => fits.2 nothing⟩
  | some taken =>
    have something : (pools.entry poolIndex).Gives world.toMsgAllocWorld :=
      gives.mp (by simp [given])
    have roomy : size.toNat ≤ (size.toNat + 7) / 8 * 8 := by omega
    simp [roomy, whole.2, something]

/-- The pool of the largest blocks as `of_msg_pool_init` creates it with three threads. -/
def IntactMsgbufPool.unused : IntactMsgbufPool Nat 3 :=
  let created := mempoolCreatePool { next := fun _ => none, inUse := [] } (msgPoolParams 64 3 32)
    true [0, 1, 2] true
  { heap := created.1
    pool := created.2.get rfl
    held := []
    tracked := (mempoolCreatePool_kept (by decide) rfl).present _ (Option.some_get _).symm
    withinStatic := by decide
    smallRefill := by decide }

/-- A thread gets no message although the blocks of the pool are all free. -/
theorem unused_pool_refuses :
    ¬ WellSized ⟨fun _ => IntactMsgbufPool.unused.toMsgbufPool, List.replicate 10 0, false⟩
      ⟨1, false, [], some 3⟩ 0 29568 := by
  intro sized
  have exhausted : IntactMsgbufPool.unused.Exhausted _ :=
    sized (by decide) 32 ⟨29568, by decide, by decide, fun _ _ _ room => room⟩
  exact exhausted.2.1 (.inl (by decide))

end

end OpenFlowController.Messages
