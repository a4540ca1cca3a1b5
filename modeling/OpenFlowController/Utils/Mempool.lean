/-
Module: Utils.Mempool
Purpose: A memory pool on the heap: creating it, handing out blocks from the list of
  the calling thread, from the global list or from the heap, refilling the global
  list, and taking blocks back; and the list of all pools.
Source: utils/memory/mheap/mheapapi.c; utils/memory/mheap/mheapinit.c;
  utils/memory/base/memapi.c; ofproto/src/include/memldef.h
Trusted boundary: every operation is atomic, `calloc` returns memory that is not in use or fails,
  the loop counter of `memory_alloc_chain_memchunks`, an `int32_t`, wraps, and the library of the
  heap is the only one that is registered
-/
import OpenFlowController.Library.FreeList

namespace OpenFlowController.Utils

open Library

variable {β : Type}

/-! ## Memory -/

/-- The blocks that were `calloc`ed for the pool and not freed, and the first word of
every block, which is `next_p` of a `mem_link_node`. -/
structure Heap (β : Type) where
  next : β → Option β
  inUse : List β

section

variable [DecidableEq β]

def Heap.setNext (heap : Heap β) (block : β) (target : Option β) : Heap β :=
  { heap with next := Function.update heap.next block target }

/-- `calloc` of one block. -/
def Heap.calloc (heap : Heap β) (block : β) : Heap β where
  next := Function.update heap.next block none
  inUse := block :: heap.inUse

def Heap.free (heap : Heap β) (block : β) : Heap β :=
  { heap with inUse := heap.inUse.erase block }

end

/-! ## Pools -/

structure PerThreadMemNode (β : Type) where
  perThreadHead : Option β
  allocCount : UInt32
  freeCount : UInt32
  releaseCount : UInt32

/-- A node of the `calloc`ed array. -/
def PerThreadMemNode.zeroed : PerThreadMemNode β where
  perThreadHead := none
  allocCount := 0
  freeCount := 0
  releaseCount := 0

structure MempoolParams where
  blockSize : UInt32
  maxBlocks : UInt32
  memsetNotRequired : Bool
  listPerThreadRequired : Bool
  noofBlocksToMoveToThreadList : UInt32
  staticBlocks : UInt32
  thresholdMin : UInt32
  thresholdMax : UInt32
  replenishCount : UInt32

/-- `memory_pool`.  `donotMemset` is the flag `CNTLR_MEMPOOL_DONOT_MEMSET`. -/
structure MemoryPool (β : Type) where
  perThreadList : Option (Nat → PerThreadMemNode β)
  blockCountForMovingToThreadlist : UInt32
  head : Option β
  tail : Option β
  donotMemset : Bool
  freeBlocksCount : UInt32
  allocatedBlocksCount : UInt32
  releasedBlocksCount : UInt32
  allocationFailBlocksCount : UInt32
  releasedFailBlocksCount : UInt32
  heapFreeBlocksCount : UInt32
  heapAllocatedBlocksCount : UInt32
  heapReleasedBlocksCount : UInt32
  heapAllocationFailBlocksCount : UInt32
  heapAllowedBlocksCount : UInt32
  staticBlocks : UInt32
  totalBlocksCount : UInt32
  blockSize : UInt32
  staticAllocatedBlocksCount : UInt32
  thresholdMax : UInt32
  thresholdMin : UInt32
  replenishCount : UInt32

/-- The pool that `mempool_create_pool` hands to `mempool_create_mheap_pool`. -/
def MemoryPool.zeroed (totalBlocksCount blockSize : UInt32) : MemoryPool β where
  perThreadList := none
  blockCountForMovingToThreadlist := 0
  head := none
  tail := none
  donotMemset := false
  freeBlocksCount := 0
  allocatedBlocksCount := 0
  releasedBlocksCount := 0
  allocationFailBlocksCount := 0
  releasedFailBlocksCount := 0
  heapFreeBlocksCount := 0
  heapAllocatedBlocksCount := 0
  heapReleasedBlocksCount := 0
  heapAllocationFailBlocksCount := 0
  heapAllowedBlocksCount := 0
  staticBlocks := 0
  totalBlocksCount := totalBlocksCount
  blockSize := blockSize
  staticAllocatedBlocksCount := 0
  thresholdMax := 0
  thresholdMin := 0
  replenishCount := 0

section

variable [DecidableEq β]

/-! ## Allocating chains of blocks -/

/-- What `memory_alloc_chain_memchunks` returns. -/
structure MemChain (β : Type) where
  heap : Heap β
  head : Option β
  tail : Option β
  allocCnt : UInt32

/-- `memory_alloc_chain_memchunks`.  `supply` is what the calls of `calloc` return until
the first one that fails. -/
def memoryAllocChainMemchunks (heap : Heap β) (blocks : UInt32) (supply : List β) : MemChain β :=
  let cells := supply.take blocks.toNat
  { heap := { next := linkCells heap.next cells, inUse := cells ++ heap.inUse }
    head := cells.head?
    tail := cells.getLast?
    allocCnt := UInt32.ofNat cells.length }

namespace MemoryPool

variable (pool : MemoryPool β)

omit [DecidableEq β]

/-- The number of blocks `mempool_check_and_refill` asks for, which is `mem_chunk`, or
zero where it returns before that. -/
def memChunk : UInt32 :=
  if pool.freeBlocksCount ≥ pool.thresholdMax then
    0
  else
    let memChunk :=
      if pool.replenishCount + pool.staticAllocatedBlocksCount ≤ pool.staticBlocks then
        pool.replenishCount
      else
        pool.staticBlocks - pool.staticAllocatedBlocksCount
    if memChunk = 0 then
      0
    else if pool.freeBlocksCount + memChunk > pool.thresholdMax then
      pool.thresholdMax - pool.freeBlocksCount
    else
      memChunk

/-- `MEMP_CHECK_STATIC_FREECNT_AND_REFILL`. -/
def checkStaticFreecntAndRefill : Bool :=
  pool.freeBlocksCount ≤ pool.thresholdMin &&
    pool.staticAllocatedBlocksCount < pool.totalBlocksCount

/-- `mempool_set_threshold_values`, which refuses some thresholds. -/
def setThresholdValues (thresholdMin thresholdMax replenishCount : UInt32) :
    Option (MemoryPool β) :=
  if thresholdMax = 0 ∨ thresholdMax < thresholdMin ∨ thresholdMax < replenishCount ∨
      thresholdMax > pool.totalBlocksCount then
    none
  else
    some
      { pool with
        thresholdMin := thresholdMin
        replenishCount := replenishCount
        thresholdMax := thresholdMax }

/-- `set_mempool_attributes`, which fails without memory for the lists of the
threads. -/
def setAttributes (listPerThreadRequired : Bool) (noofBlocksToMove : UInt32)
    (memsetNotRequired listAllocated : Bool) : Option (MemoryPool β) :=
  let flagged := { pool with donotMemset := pool.donotMemset || memsetNotRequired }
  if !listPerThreadRequired then
    some flagged
  else if listAllocated then
    some
      { flagged with
        perThreadList := some fun _ => .zeroed
        blockCountForMovingToThreadlist := noofBlocksToMove }
  else
    none

end MemoryPool

def mempoolCheckAndRefill (heap : Heap β) (pool : MemoryPool β) (supply : List β) :
    Heap β × MemoryPool β :=
  let chain := memoryAllocChainMemchunks heap pool.memChunk supply
  if chain.head = none then
    (heap, pool)
  else
    let counted :=
      { pool with
        freeBlocksCount := pool.freeBlocksCount + chain.allocCnt
        staticAllocatedBlocksCount := pool.staticAllocatedBlocksCount + chain.allocCnt
        tail := chain.tail }
    match pool.tail with
    | some tail => (chain.heap.setNext tail chain.head, counted)
    | none => (chain.heap, { counted with head := chain.head })

/-- The check before a block is taken from the global list. -/
def refillIfLow (heap : Heap β) (pool : MemoryPool β) (supply : List β) : Heap β × MemoryPool β :=
  if pool.checkStaticFreecntAndRefill then mempoolCheckAndRefill heap pool supply
  else (heap, pool)

/-! ## Creating a pool -/

/-- `mempool_create_mheap_pool`.  Where it fails, the blocks of the chain are freed
again, and there is no pool. -/
def mempoolCreateMheapPool (heap : Heap β) (pool : MemoryPool β) (params : MempoolParams)
    (supply : List β) (listAllocated : Bool) : Heap β × Option (MemoryPool β) :=
  if params.blockSize ≤ 8 then
    (heap, none)
  else
    let heapAllowedBlocks := params.maxBlocks - params.staticBlocks
    let chain := memoryAllocChainMemchunks heap params.thresholdMax supply
    if chain.head = none then
      (heap, none)
    else
      let filled :=
        { pool with
          staticBlocks := params.staticBlocks
          heapAllowedBlocksCount := heapAllowedBlocks
          heapFreeBlocksCount := heapAllowedBlocks
          head := chain.head
          tail := chain.tail
          freeBlocksCount := pool.freeBlocksCount + chain.allocCnt
          staticAllocatedBlocksCount := pool.staticAllocatedBlocksCount + chain.allocCnt }
      let created :=
        (filled.setThresholdValues params.thresholdMin params.thresholdMax
          params.replenishCount).bind fun limited =>
            limited.setAttributes params.listPerThreadRequired params.noofBlocksToMoveToThreadList
              params.memsetNotRequired listAllocated
      match created with
      | some created => (chain.heap, some created)
      | none => ({ chain.heap with inUse := heap.inUse }, none)

/-- `mempool_create_pool`.  `poolAllocated` and `listAllocated` tell whether there is
memory for the pool itself and for the lists of the threads. -/
def mempoolCreatePool (heap : Heap β) (params : MempoolParams) (poolAllocated : Bool)
    (supply : List β) (listAllocated : Bool) : Heap β × Option (MemoryPool β) :=
  if params.blockSize ≤ 8 then
    (heap, none)
  else if poolAllocated then
    mempoolCreateMheapPool heap (.zeroed params.maxBlocks params.blockSize) params supply
      listAllocated
  else
    (heap, none)

/-! ## Handing out blocks -/

/-- `nullDereference` is no return value: the code went through a null pointer. -/
inductive GetStatus where
  | success
  | errorMemAllocationFromHeapFailure
  | failure
  | nullDereference

/-- What `mempool_get_mem_block` leaves behind, with the block and `heap_b` in
`block`. -/
structure GetResult (β : Type) where
  heap : Heap β
  pool : MemoryPool β
  block : Option (β × Bool)
  status : GetStatus

/-- The program went through a null pointer. -/
def GetResult.undefined (heap : Heap β) (pool : MemoryPool β) : GetResult β where
  heap := heap
  pool := pool
  block := none
  status := .nullDereference

/-- A static block goes to the caller. -/
def GetResult.static (heap : Heap β) (pool : MemoryPool β) (block : β) : GetResult β where
  heap := heap
  pool := pool
  block := some (block, false)
  status := .success

/-- The node of one thread is replaced. -/
def setThreadNode (nodes : Nat → PerThreadMemNode β) (index : Nat) (node : PerThreadMemNode β) :
    Option (Nat → PerThreadMemNode β) :=
  some (Function.update nodes index node)

/-- `mempool_mheap_get_mem_block`: free blocks are available in the list of the thread.
What follows under the lock, the same check once more, finds the list as empty as
before. -/
def takeFromThreadList (heap : Heap β) (pool : MemoryPool β) (nodes : Nat → PerThreadMemNode β)
    (index : Nat) : GetResult β :=
  match (nodes index).perThreadHead with
  | none => .undefined heap pool
  | some block =>
    .static (heap.setNext block none)
      { pool with
        perThreadList :=
          setThreadNode nodes index
            { nodes index with
              perThreadHead := heap.next block
              freeCount := (nodes index).freeCount - 1
              allocCount := (nodes index).allocCount + 1 } }
      block

/-- `mempool_mheap_get_mem_block`: `count` blocks leave the global list, the first one for
the caller and the others for the list of the thread. -/
def handToThreadList (heap : Heap β) (pool : MemoryPool β) (nodes : Nat → PerThreadMemNode β)
    (index : Nat) (first : β) (count : UInt32) : GetResult β :=
  .static (heap.setNext first none)
    { pool with
      allocatedBlocksCount := pool.allocatedBlocksCount + count
      freeBlocksCount := pool.freeBlocksCount - count
      perThreadList :=
        setThreadNode nodes index
          { nodes index with
            perThreadHead := heap.next first
            freeCount := count - 1 } }
    first

/-- `mempool_mheap_get_mem_block`: no free blocks in the list of the thread.  Static blocks
are moved there, all or as many as the pool is set to move. -/
def moveToThreadList (heap : Heap β) (pool : MemoryPool β) (nodes : Nat → PerThreadMemNode β)
    (index : Nat) (first : β) : GetResult β :=
  if pool.blockCountForMovingToThreadlist < pool.freeBlocksCount then
    let count := pool.blockCountForMovingToThreadlist
    match followLinks heap.next (count - 1).toNat first with
    | none => .undefined heap pool
    | some block =>
      handToThreadList (heap.setNext block none) { pool with head := heap.next block } nodes index
        first count
  else
    handToThreadList heap { pool with head := none, tail := none } nodes index first
      pool.freeBlocksCount

/-- `mempool_mheap_get_mem_block`: the first block of the global list. -/
def takeFromGlobalList (heap : Heap β) (pool : MemoryPool β) (first : β) : GetResult β :=
  .static (heap.setNext first none)
    { pool with
      head := heap.next first
      tail := if heap.next first = none then none else pool.tail
      allocatedBlocksCount := pool.allocatedBlocksCount + 1
      freeBlocksCount := pool.freeBlocksCount - 1 }
    first

omit [DecidableEq β] in
/-- The pool whose free heap blocks are one fewer, counted before `calloc` is called. -/
def MemoryPool.heapCounted (pool : MemoryPool β) : MemoryPool β :=
  { pool with
    heapAllocatedBlocksCount := pool.heapAllocatedBlocksCount + 1
    heapFreeBlocksCount := pool.heapFreeBlocksCount - 1 }

/-- `mempool_mheap_get_mem_block`: a block from the heap, where the caller takes one and the
pool has one left.  The counters are not set back when `calloc` fails. -/
def allocateFromHeap (heap : Heap β) (pool : MemoryPool β) (heapB : Bool)
    (heapBlock : Option β) : GetResult β :=
  if heapB && decide (pool.heapFreeBlocksCount ≠ 0) then
    match heapBlock with
    | some block =>
      { heap := heap.calloc block
        pool := pool.heapCounted
        block := some (block, true)
        status := .success }
    | none =>
      { heap := heap
        pool :=
          { pool.heapCounted with
            heapAllocationFailBlocksCount := pool.heapAllocationFailBlocksCount + 1 }
        block := none
        status := .errorMemAllocationFromHeapFailure }
  else
    { heap := heap
      pool := { pool with allocationFailBlocksCount := pool.allocationFailBlocksCount + 1 }
      block := none
      status := .failure }

/-- `thread_num`: `cntlr_thread_index` in an `uchar8_t`. -/
def threadNum (thread : Nat) : Nat := thread % 256

omit [DecidableEq β] in
/-- The lists of the threads, and the index of the thread's own, where the thread has
one. -/
def MemoryPool.threadNode (pool : MemoryPool β) (thread : Nat) :
    Option ((Nat → PerThreadMemNode β) × Nat) :=
  match pool.perThreadList with
  | some nodes => if threadNum thread = 0 then none else some (nodes, threadNum thread - 1)
  | none => none

/-- The part of `mempool_mheap_get_mem_block` under the lock, after the refill. -/
def getFromGlobalList (heap : Heap β) (pool : MemoryPool β)
    (own : Option ((Nat → PerThreadMemNode β) × Nat)) (heapB : Bool) (heapBlock : Option β) :
    GetResult β :=
  match pool.head, own with
  | some first, some (nodes, index) =>
    if pool.blockCountForMovingToThreadlist ≠ 0 then
      moveToThreadList heap pool nodes index first
    else
      allocateFromHeap heap pool heapB heapBlock
  | some first, none => takeFromGlobalList heap pool first
  | none, _ => allocateFromHeap heap pool heapB heapBlock

omit [DecidableEq β] in
/-- The list of the thread has a free block. -/
def MemoryPool.threadHasFree (pool : MemoryPool β) (thread : Nat) : Bool :=
  match pool.threadNode thread with
  | some (nodes, index) => (nodes index).freeCount ≠ 0
  | none => false

/-- `mempool_mheap_get_mem_block`, on behalf of `mempool_get_mem_block`.  `supply` is what
`calloc` has for a refill, `heapBlock` what it has for a block from the heap. -/
def mempoolMheapGetMemBlock (heap : Heap β) (pool : MemoryPool β) (thread : Nat) (heapB : Bool)
    (supply : List β) (heapBlock : Option β) : GetResult β :=
  let refilled := refillIfLow heap pool supply
  match pool.threadNode thread with
  | some (nodes, index) =>
    if (nodes index).freeCount ≠ 0 then
      takeFromThreadList heap pool nodes index
    else
      getFromGlobalList refilled.1 refilled.2 (some (nodes, index)) heapB heapBlock
  | none => getFromGlobalList refilled.1 refilled.2 none heapB heapBlock

/-! ## Taking blocks back -/

/-- `mempool_mheap_release_mem_block`: a static block goes back to the list of the thread. -/
def releaseToThreadList (heap : Heap β) (pool : MemoryPool β) (nodes : Nat → PerThreadMemNode β)
    (index : Nat) (block : β) : Heap β × MemoryPool β :=
  (heap.setNext block (nodes index).perThreadHead,
    { pool with
      perThreadList :=
        setThreadNode nodes index
          { nodes index with
            perThreadHead := some block
            freeCount := (nodes index).freeCount + 1
            releaseCount := (nodes index).releaseCount + 1 } })

/-- `mempool_mheap_release_mem_block`: a static block goes back to the global list, or to the
heap where the pool has as many free blocks as it may have. -/
def releaseToGlobalList (heap : Heap β) (pool : MemoryPool β) (block : β) : Heap β × MemoryPool β :=
  if pool.freeBlocksCount ≥ pool.thresholdMax then
    (heap.free block,
      { pool with
        staticAllocatedBlocksCount := pool.staticAllocatedBlocksCount - 1
        releasedBlocksCount := pool.releasedBlocksCount + 1 })
  else
    let ended := heap.setNext block none
    let counted :=
      { pool with
        tail := some block
        releasedBlocksCount := pool.releasedBlocksCount + 1
        freeBlocksCount := pool.freeBlocksCount + 1 }
    match pool.tail with
    | some tail => (ended.setNext tail (some block), counted)
    | none => (ended, { counted with head := some block })

/-- `mempool_mheap_release_mem_block`, for a static block after its check. -/
def releaseStatic (heap : Heap β) (pool : MemoryPool β) (thread : Nat) (block : β) :
    Heap β × MemoryPool β :=
  match pool.threadNode thread with
  | some (nodes, index) =>
    if (nodes index).freeCount < pool.blockCountForMovingToThreadlist then
      releaseToThreadList heap pool nodes index block
    else
      releaseToGlobalList heap pool block
  | none => releaseToGlobalList heap pool block

def mempoolMheapReleaseMemBlock (heap : Heap β) (pool : MemoryPool β) (thread : Nat) (block : β)
    (heapB : Bool) : Heap β × MemoryPool β :=
  if heapB then
    (heap.free block,
      { pool with
        heapReleasedBlocksCount := pool.heapReleasedBlocksCount + 1
        heapFreeBlocksCount := pool.heapFreeBlocksCount + 1 })
  else
    releaseStatic (if pool.donotMemset then heap else heap.setNext block none) pool thread block

def mempoolReleaseMemBlock (heap : Heap β) (pool : MemoryPool β) (thread : Nat)
    (block : Option β) (heapB : Bool) : Heap β × MemoryPool β :=
  match block with
  | none =>
    (heap, { pool with releasedFailBlocksCount := pool.releasedFailBlocksCount + 1 })
  | some block => mempoolMheapReleaseMemBlock heap pool thread block heapB

/-! ## A pool and its callers -/

/-- A pool with the blocks its callers hold, each with the `heap_b` it came with. -/
structure PoolSystem (β : Type) where
  heap : Heap β
  pool : Option (MemoryPool β)
  held : List (β × Bool)

/-- Before the pool is created. -/
def PoolSystem.init (next : β → Option β) : PoolSystem β where
  heap := { next := next, inUse := [] }
  pool := none
  held := []

/-- What callers do, and what `calloc` returns meanwhile.  `write` stores into the first
word of a block. -/
inductive PoolEvent (β : Type) where
  | create (params : MempoolParams) (poolAllocated : Bool) (supply : List β) (listAllocated : Bool)
  | get (thread : Nat) (heapB : Bool) (supply : List β) (heapBlock : Option β)
  | release (thread : Nat) (block : β) (heapB : Bool)
  | releaseNull (thread : Nat)
  | write (block : β) (word : Option β)

/-- `calloc` returns memory that is not in use. -/
def Heap.Fresh (heap : Heap β) (blocks : List β) : Prop :=
  blocks.Nodup ∧ ∀ block ∈ blocks, block ∉ heap.inUse

instance (heap : Heap β) (blocks : List β) : Decidable (heap.Fresh blocks) :=
  inferInstanceAs (Decidable (_ ∧ _))

namespace PoolSystem

/-- One event, where `maxThreads` is `mempool_max_threads_g`.  Events that cannot be,
because `calloc` would return memory in use, a thread has no such number, or a caller
releases or writes a block that it does not hold, leave the system as it is. -/
def step (maxThreads : Nat) (system : PoolSystem β) : PoolEvent β → PoolSystem β
  | .create params poolAllocated supply listAllocated =>
    match system.pool with
    | some _ => system
    | none =>
      if system.heap.Fresh supply then
        let created :=
          mempoolCreatePool system.heap params poolAllocated supply listAllocated
        { system with heap := created.1, pool := created.2 }
      else
        system
  | .get thread heapB supply heapBlock =>
    match system.pool with
    | none => system
    | some pool =>
      if thread ≤ maxThreads ∧ system.heap.Fresh (supply ++ heapBlock.toList) then
        let result := mempoolMheapGetMemBlock system.heap pool thread heapB supply heapBlock
        { heap := result.heap
          pool := some result.pool
          held := result.block.toList ++ system.held }
      else
        system
  | .release thread block heapB =>
    match system.pool with
    | none => system
    | some pool =>
      if thread ≤ maxThreads ∧ (block, heapB) ∈ system.held then
        let released := mempoolReleaseMemBlock system.heap pool thread (some block) heapB
        { heap := released.1
          pool := some released.2
          held := system.held.erase (block, heapB) }
      else
        system
  | .releaseNull thread =>
    match system.pool with
    | none => system
    | some pool =>
      let released := mempoolReleaseMemBlock system.heap pool thread none false
      { system with heap := released.1, pool := some released.2 }
  | .write block word =>
    if block ∈ system.held.map Prod.fst then
      { system with heap := system.heap.setNext block word }
    else
      system

end PoolSystem

end

open Option

/-- `mempool_params` with its type; `MEMPOOL_TYPE_HEAP` is 0. -/
structure TypedMempoolParams extends MempoolParams where
  mempoolType : UInt8

/-- A pool in `mempool_list_g`, known by its address. -/
structure ListedPool (β : Type) where
  address : β
  mempoolName : List Char
  pool : MemoryPool β

/-- The global state of `memapi.c`.  `heapRegistered` tells whether the heap is in
`cntlr_instnace.mempool_list`, and `badFrees` counts the calls of `free` with memory that is
not in use. -/
structure PoolRegistry (β : Type) where
  mempoolList : List (ListedPool β)
  mempoolIndex : UInt32
  heapRegistered : Bool
  heap : Heap β
  badFrees : Nat

/-- What the calls of `calloc` return: the pool, the blocks until the first failure, and the
lists of the threads. -/
structure PoolSupply (β : Type) where
  pool : Option β
  blocks : List β
  threadLists : Bool

inductive MempoolStatus where
  | success
  | failure
  | errorBlocksizeTooSmall
  | errorNoMem
  | errorUnableToAllocateMemoryChunk
  | errorSettingThresholdValues
  | errorInvalidParams

namespace PoolRegistry

variable {β : Type} [DecidableEq β]

def free (registry : PoolRegistry β) (address : β) : PoolRegistry β :=
  if address ∈ registry.heap.inUse then
    { registry with heap := registry.heap.free address }
  else
    { registry with badFrees := registry.badFrees + 1 }

/-- `mempool_delete_mheap_pool` of a pool without lists of the threads, with the blocks
that its `head_p` leads to. -/
def deleteMheapPool (registry : PoolRegistry β) (address : β) (blocks : List β) :
    PoolRegistry β :=
  (blocks.foldl free registry).free address

/-- `mempool_create_mheap_pool`.  Where `set_mempool_attributes` fails, it has deleted the
pool with its blocks before the pool is deleted here. -/
def createMheapPool (registry : PoolRegistry β) (address : β) (pool : MemoryPool β)
    (params : MempoolParams) (supply : PoolSupply β) :
    MempoolStatus × PoolRegistry β × MemoryPool β :=
  if params.blockSize ≤ 8 then
    (.errorBlocksizeTooSmall, registry, pool)
  else
    let heapAllowedBlocks := params.maxBlocks - params.staticBlocks
    let chain := memoryAllocChainMemchunks registry.heap params.thresholdMax supply.blocks
    let blocks := supply.blocks.take params.thresholdMax.toNat
    let allocated := { registry with heap := chain.heap }
    if chain.head = none then
      (.errorUnableToAllocateMemoryChunk, allocated.free address, pool)
    else
      let filled :=
        { pool with
          staticBlocks := params.staticBlocks
          heapAllowedBlocksCount := heapAllowedBlocks
          heapFreeBlocksCount := heapAllowedBlocks
          head := chain.head
          tail := chain.tail
          freeBlocksCount := pool.freeBlocksCount + chain.allocCnt
          staticAllocatedBlocksCount := pool.staticAllocatedBlocksCount + chain.allocCnt }
      match filled.setThresholdValues params.thresholdMin params.thresholdMax
          params.replenishCount with
      | none =>
        (.errorSettingThresholdValues, allocated.deleteMheapPool address blocks, filled)
      | some limited =>
        match limited.setAttributes params.listPerThreadRequired
            params.noofBlocksToMoveToThreadList params.memsetNotRequired
            supply.threadLists with
        | none =>
          (.failure, (allocated.deleteMheapPool address blocks).deleteMheapPool address [], limited)
        | some created => (.success, allocated, created)

/-- The name of a new pool.  What `sprintf` writes behind the array of 33 bytes is overwritten
with the type of the pool. -/
def nameFor (registry : PoolRegistry β) (poolName : List Char) : List Char × UInt32 :=
  if registry.mempoolList.any (·.mempoolName = poolName) then
    let index := registry.mempoolIndex + 1
    ((poolName ++ '#' :: Nat.toDigits 10 index.toNat).take 33, index)
  else
    (poolName.take 32, registry.mempoolIndex)

/-- `calloc` of the pool itself. -/
def callocPool (registry : PoolRegistry β) (address : β) (mempoolIndex : UInt32) :
    PoolRegistry β :=
  { registry with
    mempoolIndex := mempoolIndex
    heap := { registry.heap with inUse := address :: registry.heap.inUse } }

/-- The body of `mempool_create_pool`: what it leaves in `status`, and the handle that it
writes.  `none` stands for an access through a null pointer. -/
def createPool (registry : PoolRegistry β) (poolName : Option (List Char))
    (poolParams : Option TypedMempoolParams) (mempoolPp : Bool) (supply : PoolSupply β) :
    Option (MempoolStatus × PoolRegistry β × Option β) :=
  match poolName, poolParams, mempoolPp with
  | some poolName, some params, true =>
    if params.blockSize ≤ 8 then
      some (.errorBlocksizeTooSmall, registry, none)
    else
      match supply.pool with
      | none => some (.errorNoMem, registry, none)
      | some address =>
        let (mempoolName, mempoolIndex) := registry.nameFor poolName
        let named := registry.callocPool address mempoolIndex
        -- `mempool_found_b` is TRUE from the start, and an unknown type ends the scan
        -- with a null `mempool_info`.
        if registry.heapRegistered ∧ params.mempoolType = 0 then
          match named.createMheapPool address (.zeroed params.maxBlocks params.blockSize)
              params.toMempoolParams supply with
          | (.success, after, pool) =>
            let listed :=
              { address := address, mempoolName := mempoolName, pool := pool }
            some
              (.success, { after with mempoolList := after.mempoolList ++ [listed] }, some address)
          | (status, after, _) => some (status, after.free address, none)
        else
          none
  | _, _, _ => some (.errorInvalidParams, registry, none)

/-- `mempool_create_pool`, which returns `MEMPOOL_SUCCESS` whatever `status` is. -/
def mempoolCreatePool (registry : PoolRegistry β) (poolName : Option (List Char))
    (poolParams : Option TypedMempoolParams) (mempoolPp : Bool) (supply : PoolSupply β) :
    Option (MempoolStatus × PoolRegistry β × Option β) :=
  (registry.createPool poolName poolParams mempoolPp supply).map fun
    (_, after, handle) => (.success, after, handle)

end PoolRegistry

/-! ## What a creation promises -/

/-- The parameters that were asked for are those of the pool. -/
structure MemoryPool.Requested {β : Type} (pool : MemoryPool β) (params : MempoolParams) :
    Prop where
  blockSize : pool.blockSize = params.blockSize
  totalBlocksCount : pool.totalBlocksCount = params.maxBlocks
  staticBlocks : pool.staticBlocks = params.staticBlocks
  heapAllowedBlocksCount : pool.heapAllowedBlocksCount = params.maxBlocks - params.staticBlocks
  thresholdMin : pool.thresholdMin = params.thresholdMin
  thresholdMax : pool.thresholdMax = params.thresholdMax
  replenishCount : pool.replenishCount = params.replenishCount
  donotMemset : pool.donotMemset = params.memsetNotRequired
  perThreadList : pool.perThreadList.isSome = params.listPerThreadRequired
  moved :
    params.listPerThreadRequired →
      pool.blockCountForMovingToThreadlist = params.noofBlocksToMoveToThreadList

/-- Every step of `mempool_create_mheap_pool` succeeds. -/
structure MempoolParams.Suits {β : Type} (params : MempoolParams) (supply : PoolSupply β) :
    Prop where
  blocks : supply.blocks ≠ []
  thresholdMax : params.thresholdMax ≠ 0
  thresholdMin : params.thresholdMin ≤ params.thresholdMax
  replenishCount : params.replenishCount ≤ params.thresholdMax
  maxBlocks : params.thresholdMax ≤ params.maxBlocks
  threadLists : params.listPerThreadRequired → supply.threadLists

namespace PoolRegistry

variable {β : Type} [DecidableEq β] (registry : PoolRegistry β) (poolName : Option (List Char))
  (poolParams : Option TypedMempoolParams) (mempoolPp : Bool) (supply : PoolSupply β)

/-- The creation returns, it returns success exactly where a pool as requested is linked and
handed out, it leaves everything as it was where it returns anything else, and it frees
nothing twice. -/
def CreatesTruthfully : Prop :=
  ∃ status after handle,
    registry.mempoolCreatePool poolName poolParams mempoolPp supply =
        some (status, after, handle) ∧
      (status = .success ↔
        ∃ params listed, poolParams = some params ∧
          after.mempoolList = registry.mempoolList ++ [listed] ∧
          listed.pool.Requested params.toMempoolParams ∧ handle = some listed.address) ∧
      (status ≠ .success →
        after.mempoolList = registry.mempoolList ∧
          after.heap.inUse = registry.heap.inUse) ∧
      after.badFrees = registry.badFrees

/-- The inputs are there, and every step of the creation succeeds. -/
def Creatable : Prop :=
  poolName.isSome ∧ mempoolPp ∧ supply.pool.isSome ∧ registry.heapRegistered ∧
    ∃ params, poolParams = some params ∧ params.mempoolType = 0 ∧ ¬ params.blockSize ≤ 8 ∧
      params.toMempoolParams.Suits supply

variable {registry poolName poolParams mempoolPp supply}

@[simp] theorem mempoolList_free (address : β) :
    (registry.free address).mempoolList = registry.mempoolList := by
  unfold free
  split <;> rfl

@[simp] theorem mempoolList_foldl_free (blocks : List β) :
    (blocks.foldl free registry).mempoolList = registry.mempoolList := by
  induction blocks generalizing registry with
  | nil => rfl
  | cons block blocks ih => rw [List.foldl_cons, ih, mempoolList_free]

@[simp] theorem mempoolList_deleteMheapPool (address : β) (blocks : List β) :
    (registry.deleteMheapPool address blocks).mempoolList = registry.mempoolList := by
  simp [deleteMheapPool]

theorem mempoolList_createMheapPool (address : β) (pool : MemoryPool β) (params : MempoolParams) :
    (registry.createMheapPool address pool params supply).2.1.mempoolList =
      registry.mempoolList := by
  unfold createMheapPool
  dsimp only
  repeat' split
  all_goals simp

theorem chain_head_iff (heap : Heap β) (count : UInt32) (blocks : List β) :
    (memoryAllocChainMemchunks heap count blocks).head = none ↔ count = 0 ∨ blocks = [] := by
  simp only [memoryAllocChainMemchunks, List.head?_eq_none_iff, List.take_eq_nil_iff,
    ← UInt32.toNat_inj, UInt32.toNat_zero]

/-- A large pool is created when its parameters suit. -/
theorem createMheapPool_suits (address : β) {params : MempoolParams}
    (large : ¬ params.blockSize ≤ 8) (suits : params.Suits supply) :
    ∃ after created,
      registry.createMheapPool address (.zeroed params.maxBlocks params.blockSize) params supply =
          (.success, after, created) ∧
        created.Requested params ∧ after.badFrees = registry.badFrees := by
  have linked :
      ¬ (memoryAllocChainMemchunks registry.heap params.thresholdMax supply.blocks).head = none :=
    fun missing =>
      ((chain_head_iff _ _ _).mp missing).elim suits.thresholdMax suits.blocks
  have accepted :
      ¬ (params.thresholdMax = 0 ∨ params.thresholdMax < params.thresholdMin ∨
        params.thresholdMax < params.replenishCount ∨ params.thresholdMax > params.maxBlocks) := by
    have low := suits.thresholdMin
    have replenish := suits.replenishCount
    have high := suits.maxBlocks
    rintro (zero | below | below | above)
    · exact suits.thresholdMax zero
    · exact absurd low (UInt32.not_le.mpr below)
    · exact absurd replenish (UInt32.not_le.mpr below)
    · exact absurd high (UInt32.not_le.mpr above)
  have lists := suits.threadLists
  simp only [createMheapPool, large, linked, if_false, MemoryPool.setThresholdValues,
    MemoryPool.zeroed, accepted, MemoryPool.setAttributes]
  cases wanted : params.listPerThreadRequired with
  | false => exact ⟨_, _, rfl, by constructor <;> simp [wanted], rfl⟩
  | true =>
  rw [wanted] at lists
  simp only [lists rfl, if_true]
  exact ⟨_, _, rfl, by constructor <;> simp [wanted], rfl⟩

variable {after : PoolRegistry β}

/-- Only parameters that suit create a pool. -/
theorem suits_of_createMheapPool {address : β} {params : MempoolParams} {created : MemoryPool β}
    (ran : registry.createMheapPool address (.zeroed params.maxBlocks params.blockSize) params
      supply = (.success, after, created)) : params.Suits supply := by
  unfold createMheapPool at ran
  dsimp only at ran
  split at ran
  · cases ran
  split at ran
  · cases ran
  rename_i linked
  rw [chain_head_iff, not_or] at linked
  split at ran
  · cases ran
  rename_i limited accepted
  unfold MemoryPool.setThresholdValues at accepted
  split at accepted
  · cases accepted
  rename_i sound
  simp only [not_or, UInt32.not_lt, MemoryPool.zeroed, gt_iff_lt] at sound
  split at ran
  · cases ran
  rename_i attributed
  refine ⟨linked.2, sound.1, sound.2.1, sound.2.2.1, sound.2.2.2, fun wanted => ?_⟩
  simp only [MemoryPool.setAttributes, wanted] at attributed
  cases lists : supply.threadLists with
  | false => simp [lists] at attributed
  | true => rfl

/-- A pool that can be created is reported truthfully. -/
theorem creatable_truthful (creatable : Creatable registry poolName poolParams mempoolPp supply) :
    CreatesTruthfully registry poolName poolParams mempoolPp supply := by
  obtain ⟨named, given, provided, heap, params, rfl, type, large, suits⟩ := creatable
  obtain ⟨name, rfl⟩ := isSome_iff_exists.mp named
  obtain ⟨address, provided⟩ := isSome_iff_exists.mp provided
  subst given
  obtain ⟨after, created, ran, requested, freed⟩ :=
    @createMheapPool_suits _ _ (registry.callocPool address (registry.nameFor name).2) supply
      address _ large suits
  have listed := congrArg (·.2.1.mempoolList) ran
  rw [mempoolList_createMheapPool] at listed
  let entry : ListedPool β :=
    { address := address, mempoolName := (registry.nameFor name).1, pool := created }
  have created :
      registry.mempoolCreatePool (some name) (some params) true supply =
        some (.success, { after with mempoolList := after.mempoolList ++ [entry] },
          some address) := by
    simp only [mempoolCreatePool, createPool, large, if_false, provided, heap, type, and_self,
      if_true, ran, map_some, entry]
  refine ⟨_, _, _, created, ?_, fun failed => absurd rfl failed, freed⟩
  exact
    ⟨fun _ => ⟨params, entry, rfl, congrArg (· ++ [entry]) listed.symm, requested, rfl⟩,
      fun _ => rfl⟩

/-- A pool that was linked could be created. -/
theorem creatable_of_linked {status : MempoolStatus} {handle : Option β} {listed : ListedPool β}
    (ran : registry.createPool poolName poolParams mempoolPp supply =
      some (status, after, handle)) (linked : after.mempoolList = registry.mempoolList ++ [listed]) :
    Creatable registry poolName poolParams mempoolPp supply := by
  have unlinked : registry.mempoolList ≠ registry.mempoolList ++ [listed] := by simp
  unfold createPool at ran
  split at ran
  case h_2 =>
    cases ran
    exact absurd linked unlinked
  case h_1 name params =>
  split at ran
  · cases ran
    exact absurd linked unlinked
  rename_i large
  split at ran
  · cases ran
    exact absurd linked unlinked
  rename_i address provided
  dsimp only at ran
  split at ran
  · rename_i registered
    split at ran
    · rename_i created
      exact
        ⟨rfl, rfl, by rw [provided]; rfl, registered.1, params, rfl, registered.2, large,
          suits_of_createMheapPool created⟩
    rename_i failed
    cases ran
    have same := congrArg (·.2.1.mempoolList) failed
    rw [mempoolList_createMheapPool] at same
    rw [mempoolList_free, ← same] at linked
    exact absurd linked unlinked
  · cases ran

/-- The creation of a pool reports the truth exactly where its inputs are there and each of its
steps succeeds. -/
theorem mempoolCreatePool_truthful_iff (registry : PoolRegistry β)
    (poolName : Option (List Char)) (poolParams : Option TypedMempoolParams) (mempoolPp : Bool)
    (supply : PoolSupply β) :
    CreatesTruthfully registry poolName poolParams mempoolPp supply ↔
      Creatable registry poolName poolParams mempoolPp supply := by
  constructor
  case mp =>
    rintro ⟨status, after, handle, ran, truth, -⟩
    obtain ⟨⟨_, _, _⟩, body, rest⟩ := map_eq_some_iff.mp ran
    cases rest
    obtain ⟨params, listed, -, linked, -⟩ := truth.mp rfl
    exact creatable_of_linked body linked
  case mpr => exact creatable_truthful

/-- What `mempool_library_init` and the registration of the heap leave behind. -/
def initial : PoolRegistry Nat where
  mempoolList := []
  mempoolIndex := 0
  heapRegistered := true
  heap := { next := fun _ => none, inUse := [] }
  badFrees := 0

def smallBlocks : TypedMempoolParams where
  mempoolType := 0
  blockSize := 4
  maxBlocks := 1
  memsetNotRequired := false
  listPerThreadRequired := false
  noofBlocksToMoveToThreadList := 0
  staticBlocks := 1
  thresholdMin := 0
  thresholdMax := 1
  replenishCount := 1

/-- A pool with blocks of four bytes is refused, and the caller is told that it is there. -/
theorem mempoolCreatePool_smallBlocks :
    ¬ initial.CreatesTruthfully (some ['p']) (some smallBlocks) true
      { pool := some 0, blocks := [1], threadLists := true } := by
  rintro ⟨status, after, handle, ran, truth, -⟩
  cases ran
  obtain ⟨params, listed, -, linked, -⟩ := truth.mp rfl
  cases linked

end PoolRegistry

end OpenFlowController.Utils
