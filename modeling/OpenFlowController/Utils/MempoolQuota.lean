/-
Module: Utils.MempoolQuota
Purpose: The quota of a memory pool over whole runs: how many static blocks and how many
  blocks from the heap exist, how the size of a refill is computed, and when a request
  for a block fails.
Trusted boundary: none
-/
import OpenFlowController.Utils.MempoolRuns

namespace OpenFlowController.Utils

open Library List Option

variable {β : Type}

/-! ## The quota -/

/-- The blocks from the heap that callers hold. -/
def PoolSystem.heapCount (system : PoolSystem β) : Nat :=
  (system.held.filter fun entry => entry.2).length

/-- The other blocks of the pool, on its lists and with callers. -/
def PoolSystem.staticCount (system : PoolSystem β) : Nat :=
  system.heap.inUse.length - system.heapCount

/-- `max_blocks - static_blocks`, the blocks from the heap that the pool may have. -/
def MemoryPool.heapMax (pool : MemoryPool β) : Nat :=
  pool.totalBlocksCount.toNat - pool.staticBlocks.toNat

/-- No more static blocks and no more blocks from the heap exist than the pool was created
for. -/
def PoolSystem.WithinQuota (system : PoolSystem β) : Prop :=
  ∀ pool, system.pool = some pool →
    system.staticCount ≤ pool.staticBlocks.toNat ∧ system.heapCount ≤ pool.heapMax

/-- `mempool_check_and_refill`: where the size of a refill is what is left of the static
blocks, the difference does not underflow. -/
def MemoryPool.RefillComputed (pool : MemoryPool β) : Prop :=
  pool.checkStaticFreecntAndRefill = true → pool.freeBlocksCount < pool.thresholdMax →
    ¬ pool.replenishCount + pool.staticAllocatedBlocksCount ≤ pool.staticBlocks →
      pool.staticAllocatedBlocksCount ≤ pool.staticBlocks

/-- The counters of two pools, but for those of failed requests, are the same. -/
structure SameCounters (pool pool' : MemoryPool β) : Prop where
  free : pool'.freeBlocksCount = pool.freeBlocksCount
  allocated : pool'.allocatedBlocksCount = pool.allocatedBlocksCount
  released : pool'.releasedBlocksCount = pool.releasedBlocksCount
  heapFree : pool'.heapFreeBlocksCount = pool.heapFreeBlocksCount
  heapAllocated : pool'.heapAllocatedBlocksCount = pool.heapAllocatedBlocksCount
  heapReleased : pool'.heapReleasedBlocksCount = pool.heapReleasedBlocksCount
  staticAllocated : pool'.staticAllocatedBlocksCount = pool.staticAllocatedBlocksCount

/-- What the pool is created for. -/
structure SameLimits (pool pool' : MemoryPool β) : Prop where
  staticBlocks : pool'.staticBlocks = pool.staticBlocks
  totalBlocksCount : pool'.totalBlocksCount = pool.totalBlocksCount

section

variable [DecidableEq β]

/-- A request for a block succeeds, or it finds no free static block and the heap quota used
up, or `calloc` failed and the counters are as before. -/
def GetResult.Answered (result : GetResult β) (system : PoolSystem β) (pool : MemoryPool β)
    (thread : Nat) : Prop :=
  result.status = .success ∨
    (pool.threadHasFree thread = false ∧ result.pool.head = none ∧
      pool.heapMax ≤ system.heapCount) ∨
    (result.status = .errorMemAllocationFromHeapFailure ∧ SameCounters pool result.pool)

/-- What a step should do: the quota is kept, the limits are those the pool is created with, the
size of a refill is computed without an underflow, and a request is answered. -/
structure KeepsQuota (maxThreads : Nat) (system : PoolSystem β) (event : PoolEvent β) : Prop where
  within : (system.step maxThreads event).WithinQuota
  limits : ∀ pool pool', system.pool = some pool →
    (system.step maxThreads event).pool = some pool' → SameLimits pool pool'
  created : ∀ params poolAllocated supply listAllocated,
    event = .create params poolAllocated supply listAllocated → system.pool = none →
      ∀ pool, (system.step maxThreads event).pool = some pool →
        pool.staticBlocks = params.staticBlocks ∧ pool.totalBlocksCount = params.maxBlocks
  answered : ∀ thread heapB supply heapBlock, event = .get thread heapB supply heapBlock →
    ∀ pool, system.pool = some pool → thread ≤ maxThreads →
      system.heap.Fresh (supply ++ heapBlock.toList) →
        (pool.threadHasFree thread = false → pool.RefillComputed) ∧
          (mempoolMheapGetMemBlock system.heap pool thread heapB supply heapBlock).Answered system
            pool thread

/-! ## When it is kept -/

omit [DecidableEq β] in
/-- A static block is free once the refill is done. -/
def MemoryPool.StaticLeft (pool : MemoryPool β) (supply : List β) : Prop :=
  pool.head ≠ none ∨ refillBlocks pool supply ≠ []

omit [DecidableEq β] in
/-- A thread with a list of its own, to which the pool is set to move no block, is handed no
block of the global list. -/
def MemoryPool.passesOver (pool : MemoryPool β) (thread : Nat) : Bool :=
  (pool.threadNode thread).isSome && pool.blockCountForMovingToThreadlist = 0

omit [DecidableEq β] in
/-- The heap has a block for the caller, and the pool has one left. -/
def MemoryPool.heapGives (pool : MemoryPool β) (heapB : Bool) (heapBlock : Option β) : Bool :=
  heapB && pool.heapFreeBlocksCount ≠ 0 && heapBlock.isSome

/-- The condition on an event and the state it starts from. -/
def QuotaFits (maxThreads : Nat) (system : PoolSystem β) : PoolEvent β → Prop
  | .create params poolAllocated supply listAllocated => system.pool = none →
      system.heap.Fresh supply →
        (mempoolCreatePool system.heap params poolAllocated supply listAllocated).2 ≠ none →
          (supply.take params.thresholdMax.toNat).length ≤ params.staticBlocks.toNat
  | .get thread heapB supply heapBlock => ∀ pool, system.pool = some pool → thread ≤ maxThreads →
      system.heap.Fresh (supply ++ heapBlock.toList) → pool.threadHasFree thread = false →
        pool.staticAllocatedBlocksCount.toNat + (refillBlocks pool supply).length ≤
            pool.staticBlocks.toNat ∧
          (¬ pool.StaticLeft supply ∨ pool.passesOver thread = true →
            if pool.heapGives heapB heapBlock = true then
              pool.staticBlocks ≤ pool.totalBlocksCount
            else ¬ pool.StaticLeft supply ∧ pool.heapMax ≤ system.heapCount)
  | _ => True

variable {maxThreads : Nat} {heap : Heap β} {pool : MemoryPool β} {system : PoolSystem β}

omit [DecidableEq β] in
theorem SameLimits.refl (pool : MemoryPool β) : SameLimits pool pool :=
  ⟨rfl, rfl⟩

variable {pool' : MemoryPool β}

omit [DecidableEq β] in
theorem SameLimits.heapMax_eq (same : SameLimits pool pool') : pool'.heapMax = pool.heapMax := by
  rw [MemoryPool.heapMax, MemoryPool.heapMax, same.staticBlocks, same.totalBlocksCount]

variable {supply : List β}

omit [DecidableEq β] in
/-- A refill stays within the static blocks. -/
theorem refillBlocks_fits (within : pool.staticAllocatedBlocksCount ≤ pool.staticBlocks)
    (small : pool.replenishCount.toNat + pool.staticBlocks.toNat < 2 ^ 32) :
    pool.staticAllocatedBlocksCount.toNat + (refillBlocks pool supply).length ≤
      pool.staticBlocks.toNat := by
  have bound := UInt32.le_iff_toNat_le.mp within
  have sum : (pool.replenishCount + pool.staticAllocatedBlocksCount).toNat =
      pool.replenishCount.toNat + pool.staticAllocatedBlocksCount.toNat :=
    uint32_toNat_add (by omega)
  have left : (pool.staticBlocks - pool.staticAllocatedBlocksCount).toNat =
      pool.staticBlocks.toNat - pool.staticAllocatedBlocksCount.toNat :=
    UInt32.toNat_sub_of_le _ _ within
  -- what the size starts from
  have start : (if pool.replenishCount + pool.staticAllocatedBlocksCount ≤ pool.staticBlocks then
      pool.replenishCount else pool.staticBlocks - pool.staticAllocatedBlocksCount).toNat ≤
      pool.staticBlocks.toNat - pool.staticAllocatedBlocksCount.toNat := by
    split
    case isTrue fits =>
      have whole := UInt32.le_iff_toNat_le.mp fits
      omega
    case isFalse => exact Nat.le_of_eq left
  have chunk : pool.memChunk.toNat ≤
      pool.staticBlocks.toNat - pool.staticAllocatedBlocksCount.toNat := by
    unfold MemoryPool.memChunk
    generalize (if pool.replenishCount + pool.staticAllocatedBlocksCount ≤ pool.staticBlocks then
      pool.replenishCount else pool.staticBlocks - pool.staticAllocatedBlocksCount) = chunk at start ⊢
    by_cases full : pool.freeBlocksCount ≥ pool.thresholdMax
    · rw [if_pos full]
      exact Nat.zero_le _
    rw [if_neg full]
    by_cases none : chunk = 0
    · rw [if_pos none]
      exact Nat.zero_le _
    rw [if_neg none]
    by_cases above : pool.freeBlocksCount + chunk > pool.thresholdMax
    · -- a sum that wrapped would not be above the threshold
      have high := UInt32.lt_iff_toNat_lt.mp above
      rw [UInt32.toNat_add] at high
      rw [if_pos above, UInt32.toNat_sub_of_le _ _ (UInt32.le_of_lt (UInt32.not_le.mp full))]
      omega
    · rw [if_neg above]
      exact start
  unfold refillBlocks
  split
  · rw [length_take]
    omega
  · rw [length_nil]
    omega

/-! ## Handing out blocks -/

/-- A static block is handed out, or the code went through a null pointer. -/
structure GetResult.HandsStatic (result : GetResult β) (pool : MemoryPool β) : Prop where
  block : (result.block.toList.filter fun entry => entry.2) = []
  status : result.status ≠ .nullDereference → result.status = .success
  limits : SameLimits pool result.pool
  heapFree : result.pool.heapFreeBlocksCount = pool.heapFreeBlocksCount

variable {nodes : Nat → PerThreadMemNode β}

theorem takeFromThreadList_static {index : Nat} :
    (takeFromThreadList heap pool nodes index).HandsStatic pool := by
  unfold takeFromThreadList
  split
  · exact ⟨rfl, fun defined => absurd rfl defined, .refl pool, rfl⟩
  · exact ⟨rfl, fun _ => rfl, ⟨rfl, rfl⟩, rfl⟩

theorem takeFromGlobalList_static {first : β} :
    (takeFromGlobalList heap pool first).HandsStatic pool :=
  ⟨rfl, fun _ => rfl, ⟨rfl, rfl⟩, rfl⟩

theorem moveToThreadList_static {index : Nat} {first : β} :
    (moveToThreadList heap pool nodes index first).HandsStatic pool := by
  unfold moveToThreadList
  split
  · dsimp only
    split
    · exact ⟨rfl, fun defined => absurd rfl defined, .refl pool, rfl⟩
    · exact ⟨rfl, fun _ => rfl, ⟨rfl, rfl⟩, rfl⟩
  · exact ⟨rfl, fun _ => rfl, ⟨rfl, rfl⟩, rfl⟩

theorem getFromGlobalList_cases {own : Option ((Nat → PerThreadMemNode β) × Nat)} {heapB : Bool}
    {heapBlock : Option β} :
    ((getFromGlobalList heap pool own heapB heapBlock).HandsStatic pool ∧ pool.head ≠ none ∧
        (own = none ∨ pool.blockCountForMovingToThreadlist ≠ 0)) ∨
      (getFromGlobalList heap pool own heapB heapBlock =
          allocateFromHeap heap pool heapB heapBlock ∧
        (pool.head = none ∨ (own ≠ none ∧ pool.blockCountForMovingToThreadlist = 0))) := by
  unfold getFromGlobalList
  cases head : pool.head with
  | none => exact .inr ⟨rfl, .inl rfl⟩
  | some first =>
  cases own with
  | none => exact .inl ⟨takeFromGlobalList_static, some_ne_none _, .inl rfl⟩
  | some pair =>
  dsimp only
  by_cases moves : pool.blockCountForMovingToThreadlist = 0
  · rw [if_neg (not_not.mpr moves)]
    exact .inr ⟨rfl, .inr ⟨some_ne_none _, moves⟩⟩
  · rw [if_pos moves]
    exact .inl ⟨moveToThreadList_static, some_ne_none _, .inr moves⟩

attribute [local simp] MemoryPool.heapGives

theorem allocateFromHeap_gives {heapB : Bool} {heapBlock : Option β}
    (gives : pool.heapGives heapB heapBlock = true) :
    ∃ block, allocateFromHeap heap pool heapB heapBlock =
      { heap := heap.calloc block
        pool := pool.heapCounted
        block := some (block, true)
        status := .success } := by
  cases heapBlock with
  | none => simp at gives
  | some block =>
  have left : (heapB && decide (pool.heapFreeBlocksCount ≠ 0)) = true := by
    simpa using gives
  refine ⟨block, ?_⟩
  rw [allocateFromHeap, if_pos left]

/-- The heap gives none: no block is handed out, and where the request was counted before `calloc`
failed, the free heap blocks are one fewer. -/
theorem allocateFromHeap_fails {heapB : Bool} {heapBlock : Option β}
    (gives : ¬ pool.heapGives heapB heapBlock = true) :
    (allocateFromHeap heap pool heapB heapBlock).status ≠ .success ∧
      (allocateFromHeap heap pool heapB heapBlock).block = none ∧
      SameLimits pool (allocateFromHeap heap pool heapB heapBlock).pool ∧
      (allocateFromHeap heap pool heapB heapBlock).pool.head = pool.head ∧
      (((allocateFromHeap heap pool heapB heapBlock).status = .failure ∧
          (allocateFromHeap heap pool heapB heapBlock).pool.heapFreeBlocksCount =
            pool.heapFreeBlocksCount) ∨
        (pool.heapFreeBlocksCount ≠ 0 ∧
          (allocateFromHeap heap pool heapB heapBlock).pool.heapFreeBlocksCount =
            pool.heapFreeBlocksCount - 1)) := by
  unfold allocateFromHeap
  split
  case isTrue left =>
    cases heapBlock with
    | none =>
      have positive : pool.heapFreeBlocksCount ≠ 0 := by
        have both := Bool.and_eq_true_iff.mp left
        exact of_decide_eq_true both.2
      exact ⟨nofun, rfl, ⟨rfl, rfl⟩, rfl, .inr ⟨positive, rfl⟩⟩
    | some block =>
      refine absurd ?_ gives
      simpa using left
  case isFalse => exact ⟨nofun, rfl, ⟨rfl, rfl⟩, rfl, .inl ⟨rfl, rfl⟩⟩

theorem refillIfLow_limits {supply : List β} :
    SameLimits pool (refillIfLow heap pool supply).2 ∧
      (refillIfLow heap pool supply).2.heapFreeBlocksCount = pool.heapFreeBlocksCount ∧
      (refillIfLow heap pool supply).2.blockCountForMovingToThreadlist =
        pool.blockCountForMovingToThreadlist := by
  by_cases noBlocks : refillBlocks pool supply = []
  · rw [refillIfLow_nil noBlocks]
    exact ⟨.refl pool, rfl, rfl⟩
  cases tailEq : pool.tail with
  | some tail =>
    rw [refillIfLow_append noBlocks tailEq]
    exact ⟨⟨rfl, rfl⟩, rfl, rfl⟩
  | none =>
    rw [refillIfLow_start noBlocks tailEq]
    exact ⟨⟨rfl, rfl⟩, rfl, rfl⟩

/-- After a refill a block is there exactly when static blocks are left. -/
theorem refillIfLow_head {held : List (β × Bool)} {lists : Option Nat → List β}
    {supply : List β} (tracked : Tracked maxThreads heap pool held lists) :
    (refillIfLow heap pool supply).2.head ≠ none ↔ pool.StaticLeft supply := by
  rw [MemoryPool.StaticLeft]
  by_cases noBlocks : refillBlocks pool supply = []
  · rw [refillIfLow_nil noBlocks, noBlocks]
    simp
  cases tailEq : pool.tail with
  | some tail =>
    rw [refillIfLow_append noBlocks tailEq]
    refine iff_of_true ?_ (.inr noBlocks)
    intro empty
    have seg : Seg heap.next pool.head (lists none) none :=
      tracked.chain none (none_mem_places maxThreads)
    have noHead : pool.head = none := empty
    have last := tracked.tail_eq
    rw [noHead] at seg
    cases listed : lists none with
    | nil =>
      rw [listed, tailEq] at last
      cases last
    | cons first rest =>
      rw [listed] at seg
      cases seg.1
  | none =>
  rw [refillIfLow_start noBlocks tailEq]
  refine iff_of_true ?_ (.inr noBlocks)
  exact fun empty => noBlocks (head?_eq_none_iff.mp empty)

omit [DecidableEq β] in
theorem GetResult.HandsStatic.congr {result : GetResult β} (hands : result.HandsStatic pool')
    (limits : SameLimits pool pool')
    (heapFree : pool'.heapFreeBlocksCount = pool.heapFreeBlocksCount) :
    result.HandsStatic pool where
  block := hands.block
  status := hands.status
  limits := ⟨hands.limits.staticBlocks.trans limits.staticBlocks,
    hands.limits.totalBlocksCount.trans limits.totalBlocksCount⟩
  heapFree := hands.heapFree.trans heapFree

theorem mempoolMheapGetMemBlock_own {thread : Nat} {heapB : Bool} {supply : List β}
    {heapBlock : Option β} (hasFree : pool.threadHasFree thread = true) :
    (mempoolMheapGetMemBlock heap pool thread heapB supply heapBlock).HandsStatic pool ∧
      (mempoolMheapGetMemBlock heap pool thread heapB supply heapBlock).heap.inUse =
        heap.inUse := by
  unfold mempoolMheapGetMemBlock
  cases own : pool.threadNode thread with
  | none => simp [MemoryPool.threadHasFree, own] at hasFree
  | some pair =>
  obtain ⟨nodes, index⟩ := pair
  have some : (nodes index).freeCount ≠ 0 := by
    simpa [MemoryPool.threadHasFree, own] using hasFree
  dsimp only
  rw [if_pos some]
  refine ⟨takeFromThreadList_static, ?_⟩
  unfold takeFromThreadList
  split <;> rfl

/-- Without a free block of the thread the get hands out a static block, or tries the heap. -/
theorem mempoolMheapGetMemBlock_cases {held : List (β × Bool)} {lists : Option Nat → List β}
    {thread : Nat} {heapB : Bool} {supply : List β} {heapBlock : Option β}
    (tracked : Tracked maxThreads heap pool held lists)
    (noFree : pool.threadHasFree thread = false) :
    ((mempoolMheapGetMemBlock heap pool thread heapB supply heapBlock).HandsStatic pool ∧
        pool.StaticLeft supply ∧ pool.passesOver thread = false) ∨
      (mempoolMheapGetMemBlock heap pool thread heapB supply heapBlock =
          allocateFromHeap (refillIfLow heap pool supply).1 (refillIfLow heap pool supply).2 heapB
            heapBlock ∧
        (¬ pool.StaticLeft supply ∨ pool.passesOver thread = true)) := by
  obtain ⟨limits, heapFree, moves⟩ := @refillIfLow_limits _ _ heap pool supply
  have head := @refillIfLow_head _ _ _ _ _ _ _ supply tracked
  have global : mempoolMheapGetMemBlock heap pool thread heapB supply heapBlock =
      getFromGlobalList (refillIfLow heap pool supply).1 (refillIfLow heap pool supply).2
        (pool.threadNode thread) heapB heapBlock := by
    unfold mempoolMheapGetMemBlock
    cases own : pool.threadNode thread with
    | none => rfl
    | some pair =>
    obtain ⟨nodes, index⟩ := pair
    have empty : (nodes index).freeCount = 0 := by
      simpa [MemoryPool.threadHasFree, own] using noFree
    dsimp only
    rw [if_neg (not_not.mpr empty)]
  rw [global]
  rcases @getFromGlobalList_cases _ _ (refillIfLow heap pool supply).1
    (refillIfLow heap pool supply).2 (pool.threadNode thread) heapB heapBlock with
    ⟨hands, some, taken⟩ | ⟨turned, why⟩
  · refine .inl ⟨hands.congr limits heapFree, head.mp some, ?_⟩
    rw [moves] at taken
    rcases taken with none | moved
    · simp [MemoryPool.passesOver, none]
    · simp [MemoryPool.passesOver, moved]
  refine .inr ⟨turned, ?_⟩
  rw [moves] at why
  rcases why with none | ⟨own, still⟩
  · exact .inl fun left => head.mpr left none
  · exact .inr (by simp [MemoryPool.passesOver, still, isSome_iff_ne_none, own])

/-! ## What every step keeps -/

/-- The blocks are accounted for, within the quota, and the pool counts the blocks from the heap
that are left. -/
structure QuotaInv (maxThreads : Nat) (system : PoolSystem β) : Prop where
  pool : PoolInv maxThreads system
  within : system.WithinQuota
  heapLeft : ∀ pool, system.pool = some pool → pool.staticBlocks ≤ pool.totalBlocksCount →
    pool.heapFreeBlocksCount.toNat + system.heapCount = pool.heapMax

omit [DecidableEq β] in
theorem PoolInv.staticCount_eq (inv : PoolInv maxThreads system)
    (present : system.pool = some pool) :
    system.staticCount = pool.staticAllocatedBlocksCount.toNat := by
  obtain ⟨lists, tracked⟩ := inv.present pool present
  have inUse := tracked.inUse_length
  rw [PoolSystem.staticCount, inUse, PoolSystem.heapCount]
  omega

omit [DecidableEq β] in
theorem PoolInv.heapCount_le (inv : PoolInv maxThreads system)
    (present : system.pool = some pool) : system.heapCount ≤ system.heap.inUse.length := by
  obtain ⟨lists, tracked⟩ := inv.present pool present
  have inUse := tracked.inUse_length
  rw [inUse, PoolSystem.heapCount]
  exact Nat.le_add_left ..

section Get

variable {thread : Nat} {heapB : Bool} {supply : List β} {heapBlock : Option β}

theorem heapCount_get (present : system.pool = some pool) (bound : thread ≤ maxThreads)
    (fresh : system.heap.Fresh (supply ++ heapBlock.toList)) :
    (system.step maxThreads (.get thread heapB supply heapBlock)).heapCount =
      ((mempoolMheapGetMemBlock system.heap pool thread heapB supply
        heapBlock).block.toList.filter fun entry => entry.2).length + system.heapCount := by
  rw [PoolSystem.step_get present bound fresh, PoolSystem.heapCount]
  rw [filter_append, length_append]
  rfl

theorem staticCount_get (inv : PoolInv maxThreads system) (present : system.pool = some pool)
    (bound : thread ≤ maxThreads) (fresh : system.heap.Fresh (supply ++ heapBlock.toList))
    (noFree : pool.threadHasFree thread = false) :
    (system.step maxThreads (.get thread heapB supply heapBlock)).staticCount =
      pool.staticAllocatedBlocksCount.toNat + (refillBlocks pool supply).length := by
  have before := inv.staticCount_eq present
  have fewer := inv.heapCount_le present
  have counted := @heapCount_get _ _ _ _ _ thread heapB supply heapBlock present bound fresh
  have grown := @mempoolMheapGetMemBlock_grows _ _ system.heap pool thread heapB supply heapBlock
    noFree
  rw [GetResult.Grows] at grown
  rw [PoolSystem.staticCount] at before
  rw [PoolSystem.staticCount, counted, PoolSystem.step_get present bound fresh]
  dsimp only
  omega

theorem counts_getOwn (present : system.pool = some pool) (bound : thread ≤ maxThreads)
    (fresh : system.heap.Fresh (supply ++ heapBlock.toList))
    (hasFree : pool.threadHasFree thread = true) :
    (system.step maxThreads (.get thread heapB supply heapBlock)).heapCount = system.heapCount ∧
      (system.step maxThreads (.get thread heapB supply heapBlock)).staticCount =
        system.staticCount := by
  obtain ⟨hands, inUse⟩ := @mempoolMheapGetMemBlock_own _ _ system.heap pool thread heapB supply
    heapBlock hasFree
  have counted := @heapCount_get _ _ _ _ _ thread heapB supply heapBlock present bound fresh
  rw [hands.block, length_nil, Nat.zero_add] at counted
  refine ⟨counted, ?_⟩
  rw [PoolSystem.staticCount, counted, PoolSystem.step_get present bound fresh]
  rw [inUse]
  rfl

omit [DecidableEq β] in
theorem QuotaInv.refillComputed (inv : QuotaInv maxThreads system)
    (present : system.pool = some pool) : pool.RefillComputed := by
  intro _ _ _
  have within := (inv.within pool present).1
  rw [inv.pool.staticCount_eq present] at within
  exact UInt32.le_iff_toNat_le.mpr within

theorem within_get (present : system.pool = some pool) (bound : thread ≤ maxThreads)
    (fresh : system.heap.Fresh (supply ++ heapBlock.toList))
    (limits : SameLimits pool
      (mempoolMheapGetMemBlock system.heap pool thread heapB supply heapBlock).pool) :
    (system.step maxThreads (.get thread heapB supply heapBlock)).WithinQuota ↔
      (system.step maxThreads (.get thread heapB supply heapBlock)).staticCount ≤
          pool.staticBlocks.toNat ∧
        (system.step maxThreads (.get thread heapB supply heapBlock)).heapCount ≤
          pool.heapMax := by
  have after : (system.step maxThreads (.get thread heapB supply heapBlock)).pool =
      some (mempoolMheapGetMemBlock system.heap pool thread heapB supply heapBlock).pool := by
    rw [PoolSystem.step_get present bound fresh]
  constructor
  · intro within
    have kept := within _ after
    rwa [limits.staticBlocks, limits.heapMax_eq] at kept
  · intro kept other isPool
    rw [after] at isPool
    cases isPool
    rwa [limits.staticBlocks, limits.heapMax_eq]

section

variable (inv : QuotaInv maxThreads system)

include inv

theorem QuotaInv.defined (present : system.pool = some pool) (bound : thread ≤ maxThreads)
    (fresh : system.heap.Fresh (supply ++ heapBlock.toList))
    (few : pool.threadHasFree thread = false →
      pool.staticAllocatedBlocksCount.toNat + (refillBlocks pool supply).length ≤
        pool.staticBlocks.toNat) :
    (mempoolMheapGetMemBlock system.heap pool thread heapB supply heapBlock).status ≠
      .nullDereference := by
  obtain ⟨lists, tracked⟩ := inv.pool.present pool present
  refine (mempoolMheapGetMemBlock_kept tracked bound fresh ?_).defined
  intro noFree
  exact Nat.lt_of_le_of_lt (few noFree) (UInt32.toNat_lt _)

theorem QuotaInv.getOwn (present : system.pool = some pool) (bound : thread ≤ maxThreads)
    (fresh : system.heap.Fresh (supply ++ heapBlock.toList))
    (hasFree : pool.threadHasFree thread = true) :
    (system.step maxThreads (.get thread heapB supply heapBlock)).WithinQuota ∧
      (mempoolMheapGetMemBlock system.heap pool thread heapB supply heapBlock).HandsStatic pool ∧
      (mempoolMheapGetMemBlock system.heap pool thread heapB supply heapBlock).status =
        .success := by
  have hands := (@mempoolMheapGetMemBlock_own _ _ system.heap pool thread heapB supply heapBlock
    hasFree).1
  obtain ⟨heapSame, staticSame⟩ := @counts_getOwn _ _ _ _ _ thread heapB supply heapBlock present
    bound fresh hasFree
  refine ⟨?_, hands, hands.status (inv.defined present bound fresh ?_)⟩
  · rw [within_get present bound fresh hands.limits, heapSame, staticSame]
    exact inv.within pool present
  · intro noFree
    rw [hasFree] at noFree
    cases noFree

/-- A request that turns to the heap: it is answered within the quota exactly where the heap gives
a block that is left in it, or neither a static block nor a block from the heap is left. -/
theorem QuotaInv.getFromHeap (present : system.pool = some pool) (bound : thread ≤ maxThreads)
    (fresh : system.heap.Fresh (supply ++ heapBlock.toList))
    (turned : mempoolMheapGetMemBlock system.heap pool thread heapB supply heapBlock =
      allocateFromHeap (refillIfLow system.heap pool supply).1
        (refillIfLow system.heap pool supply).2 heapB heapBlock)
    (noFree : pool.threadHasFree thread = false) :
    SameLimits pool (mempoolMheapGetMemBlock system.heap pool thread heapB supply heapBlock).pool ∧
      ((system.step maxThreads (.get thread heapB supply heapBlock)).heapCount ≤ pool.heapMax ∧
          (mempoolMheapGetMemBlock system.heap pool thread heapB supply heapBlock).Answered system
            pool thread ↔
        if pool.heapGives heapB heapBlock = true then pool.staticBlocks ≤ pool.totalBlocksCount
        else ¬ pool.StaticLeft supply ∧ pool.heapMax ≤ system.heapCount) := by
  obtain ⟨lists, tracked⟩ := inv.pool.present pool present
  obtain ⟨limits, heapFree, -⟩ := @refillIfLow_limits _ _ system.heap pool supply
  have head := @refillIfLow_head _ _ _ _ _ _ _ supply tracked
  have counted := @heapCount_get _ _ _ _ _ thread heapB supply heapBlock present bound fresh
  have sameGives : (refillIfLow system.heap pool supply).2.heapGives heapB heapBlock =
      pool.heapGives heapB heapBlock := by
    rw [MemoryPool.heapGives, MemoryPool.heapGives, heapFree]
  rw [turned] at counted ⊢
  by_cases gives : pool.heapGives heapB heapBlock = true
  · obtain ⟨block, given⟩ := @allocateFromHeap_gives _ _ (refillIfLow system.heap pool supply).1
      (refillIfLow system.heap pool supply).2 heapB heapBlock (sameGives.trans gives)
    rw [given] at counted ⊢
    rw [if_pos gives, counted]
    refine ⟨⟨limits.staticBlocks, limits.totalBlocksCount⟩, ?_⟩
    have positive : pool.heapFreeBlocksCount.toNat ≠ 0 := by
      intro zero
      have isZero : pool.heapFreeBlocksCount = 0 := UInt32.toNat_inj.mp zero
      simp [isZero] at gives
    constructor
    · rintro ⟨few, -⟩
      by_contra above
      have more := UInt32.lt_iff_toNat_lt.mp (UInt32.not_le.mp above)
      have none : pool.heapMax = 0 := Nat.sub_eq_zero_of_le (Nat.le_of_lt more)
      rw [none] at few
      simp at few
    intro quota
    refine ⟨?_, .inl rfl⟩
    have left := inv.heapLeft pool present quota
    change 1 + _ ≤ _
    omega
  · obtain ⟨failed, noBlock, sameLimits, sameHead, counters⟩ :=
      @allocateFromHeap_fails _ _ (refillIfLow system.heap pool supply).1
        (refillIfLow system.heap pool supply).2 heapB heapBlock (by rwa [sameGives])
    rw [noBlock] at counted
    have heapSame : (system.step maxThreads (.get thread heapB supply heapBlock)).heapCount =
        system.heapCount := counted.trans (Nat.zero_add _)
    rw [if_neg gives, heapSame]
    refine ⟨⟨sameLimits.staticBlocks.trans limits.staticBlocks,
      sameLimits.totalBlocksCount.trans limits.totalBlocksCount⟩, ?_⟩
    rw [GetResult.Answered, sameHead]
    constructor
    · rintro ⟨-, succeeded | ⟨-, none, used⟩ | ⟨status, same⟩⟩
      · exact absurd succeeded failed
      · exact ⟨fun left => head.mpr left none, used⟩
      · -- `calloc` failed, and the counter of the free heap blocks is not set back
        rcases counters with ⟨status', -⟩ | ⟨positive, fewer⟩
        · rw [status'] at status
          cases status
        rw [same.heapFree, heapFree] at fewer
        have step := UInt32.toNat_inj.mpr fewer
        rw [heapFree] at positive
        have big : (1 : UInt32) ≤ pool.heapFreeBlocksCount := by
          exact Nat.one_le_iff_ne_zero.mpr fun zero => positive (UInt32.toNat_inj.mp zero)
        rw [UInt32.toNat_sub_of_le _ _ big] at step
        have atLeast := UInt32.le_iff_toNat_le.mp big
        change 1 ≤ _ at atLeast
        change _ = _ - 1 at step
        omega
    · rintro ⟨none, used⟩
      refine ⟨(inv.within pool present).2, .inr (.inl ⟨noFree, ?_, used⟩)⟩
      exact not_not.mp fun some => none (head.mp some)

/-- A get is served from the heap exactly while its quota lasts. -/
theorem QuotaInv.heapLeft_get (present : system.pool = some pool) (bound : thread ≤ maxThreads)
    (fresh : system.heap.Fresh (supply ++ heapBlock.toList))
    (fits : QuotaFits maxThreads system (.get thread heapB supply heapBlock))
    (quota : pool.staticBlocks ≤ pool.totalBlocksCount) :
    (mempoolMheapGetMemBlock system.heap pool thread heapB supply
        heapBlock).pool.heapFreeBlocksCount.toNat +
      (system.step maxThreads (.get thread heapB supply heapBlock)).heapCount = pool.heapMax := by
  obtain ⟨lists, tracked⟩ := inv.pool.present pool present
  have left := inv.heapLeft pool present quota
  have counted := @heapCount_get _ _ _ _ _ thread heapB supply heapBlock present bound fresh
  have same : (mempoolMheapGetMemBlock system.heap pool thread heapB supply
      heapBlock).HandsStatic pool →
      (mempoolMheapGetMemBlock system.heap pool thread heapB supply
          heapBlock).pool.heapFreeBlocksCount.toNat +
        (system.step maxThreads (.get thread heapB supply heapBlock)).heapCount =
          pool.heapMax := by
    intro hands
    rw [counted, hands.block, hands.heapFree, length_nil, Nat.zero_add]
    exact left
  cases noFree : pool.threadHasFree thread with
  | true => exact same (mempoolMheapGetMemBlock_own noFree).1
  | false =>
  rcases @mempoolMheapGetMemBlock_cases _ _ _ _ _ _ _ thread heapB supply heapBlock tracked
    noFree with ⟨hands, -, -⟩ | ⟨turned, why⟩
  · exact same hands
  obtain ⟨-, heapFree, -⟩ := @refillIfLow_limits _ _ system.heap pool supply
  have sameGives : (refillIfLow system.heap pool supply).2.heapGives heapB heapBlock =
      pool.heapGives heapB heapBlock := by
    rw [MemoryPool.heapGives, MemoryPool.heapGives, heapFree]
  have met := (fits pool present bound fresh noFree).2 why
  rw [turned] at counted ⊢
  by_cases gives : pool.heapGives heapB heapBlock = true
  · obtain ⟨block, given⟩ := @allocateFromHeap_gives _ _
      (refillIfLow system.heap pool supply).1 (refillIfLow system.heap pool supply).2 heapB
      heapBlock (sameGives.trans gives)
    rw [given] at counted ⊢
    have big : (1 : UInt32) ≤ pool.heapFreeBlocksCount := by
      refine Nat.one_le_iff_ne_zero.mpr fun zero => ?_
      have isZero : pool.heapFreeBlocksCount = 0 := UInt32.toNat_inj.mp zero
      simp [isZero] at gives
    have atLeast := UInt32.le_iff_toNat_le.mp big
    rw [counted]
    change ((refillIfLow system.heap pool supply).2.heapFreeBlocksCount - 1).toNat + (1 + _) = _
    rw [heapFree, UInt32.toNat_sub_of_le _ _ big]
    change 1 ≤ _ at atLeast
    change _ - 1 + _ = _
    omega
  · obtain ⟨-, noBlock, -, -, counters⟩ :=
      @allocateFromHeap_fails _ _ (refillIfLow system.heap pool supply).1
        (refillIfLow system.heap pool supply).2 heapB heapBlock (by rwa [sameGives])
    rw [if_neg gives] at met
    rw [counted, noBlock, heapFree] at *
    rcases counters with ⟨-, unchanged⟩ | ⟨positive, -⟩
    · rw [unchanged]
      change _ + (0 + _) = _
      rw [Nat.zero_add]
      exact left
    · -- the quota is used up, so that there was no free heap block to count
      refine absurd ?_ positive
      exact UInt32.toNat_inj.mp (show _ = 0 by omega)

end

theorem QuotaInv.limits_get (inv : QuotaInv maxThreads system)
    (present : system.pool = some pool) (bound : thread ≤ maxThreads)
    (fresh : system.heap.Fresh (supply ++ heapBlock.toList)) :
    SameLimits pool
      (mempoolMheapGetMemBlock system.heap pool thread heapB supply heapBlock).pool := by
  obtain ⟨lists, tracked⟩ := inv.pool.present pool present
  cases noFree : pool.threadHasFree thread with
  | true => exact (mempoolMheapGetMemBlock_own noFree).1.limits
  | false =>
  rcases @mempoolMheapGetMemBlock_cases _ _ _ _ _ _ _ thread heapB supply heapBlock tracked
    noFree with ⟨hands, -, -⟩ | ⟨turned, -⟩
  · exact hands.limits
  · exact (inv.getFromHeap present bound fresh turned noFree).1

/-- A request keeps the quota exactly where it fits. -/
theorem QuotaInv.get_iff (inv : QuotaInv maxThreads system) (present : system.pool = some pool)
    (bound : thread ≤ maxThreads) (fresh : system.heap.Fresh (supply ++ heapBlock.toList)) :
    (system.step maxThreads (.get thread heapB supply heapBlock)).WithinQuota ∧
        (mempoolMheapGetMemBlock system.heap pool thread heapB supply heapBlock).Answered system
          pool thread ↔
      QuotaFits maxThreads system (.get thread heapB supply heapBlock) := by
  obtain ⟨lists, tracked⟩ := inv.pool.present pool present
  cases noFree : pool.threadHasFree thread with
  | true =>
    obtain ⟨within, -, success⟩ := inv.getOwn present bound fresh noFree
    refine iff_of_true ⟨within, .inl success⟩ ?_
    intro other isPool _ _ noFree'
    rw [present] at isPool
    cases isPool
    rw [noFree] at noFree'
    cases noFree'
  | false =>
  have static := @staticCount_get _ _ _ _ _ thread heapB supply heapBlock inv.pool present
    bound fresh noFree
  have whole : QuotaFits maxThreads system (.get thread heapB supply heapBlock) ↔
      pool.staticAllocatedBlocksCount.toNat + (refillBlocks pool supply).length ≤
          pool.staticBlocks.toNat ∧
        (¬ pool.StaticLeft supply ∨ pool.passesOver thread = true →
          if pool.heapGives heapB heapBlock = true then
            pool.staticBlocks ≤ pool.totalBlocksCount
          else ¬ pool.StaticLeft supply ∧ pool.heapMax ≤ system.heapCount) := by
    constructor
    · exact fun fits => fits pool present bound fresh noFree
    · intro met other isPool _ _ _
      rw [present] at isPool
      cases isPool
      exact met
  rw [whole]
  rcases @mempoolMheapGetMemBlock_cases _ _ _ _ _ _ _ thread heapB supply heapBlock tracked
    noFree with ⟨hands, left, served⟩ | ⟨turned, why⟩
  · have counted := @heapCount_get _ _ _ _ _ thread heapB supply heapBlock present bound fresh
    rw [hands.block, length_nil, Nat.zero_add] at counted
    rw [within_get present bound fresh hands.limits, static, counted]
    constructor
    · rintro ⟨⟨few, -⟩, -⟩
      refine ⟨few, ?_⟩
      rintro (none | passed)
      · exact absurd left none
      · rw [served] at passed
        cases passed
    · rintro ⟨few, -⟩
      exact ⟨⟨few, (inv.within pool present).2⟩,
        .inl (hands.status (inv.defined present bound fresh fun _ => few))⟩
  · obtain ⟨limits, answered⟩ := inv.getFromHeap present bound fresh turned noFree
    rw [within_get present bound fresh limits, static, and_assoc, answered]
    exact and_congr_right fun _ => ⟨fun met _ => met, fun met => met why⟩

end Get

/-! ## Taking blocks back and creating a pool -/

theorem heapCount_erase {held : List (β × Bool)} {block : β} {heapB : Bool}
    (isHeld : (block, heapB) ∈ held) :
    ((held.erase (block, heapB)).filter fun entry => entry.2).length + heapB.toNat =
      (held.filter fun entry => entry.2).length := by
  rw [← erase_filter]
  cases heapB with
  | true =>
    have member : (block, true) ∈ held.filter fun entry => entry.2 :=
      mem_filter.mpr ⟨isHeld, rfl⟩
    have positive := length_pos_of_mem member
    rw [length_erase_of_mem member]
    change _ - 1 + 1 = _
    omega
  | false =>
  have absent : (block, false) ∉ held.filter fun entry => entry.2 := by
    intro member
    exact absurd (mem_filter.mp member).2 nofun
  rw [erase_of_not_mem absent]
  rfl

/-- A release keeps the limits and counts what it gives back. -/
theorem mempoolReleaseMemBlock_fields {thread : Nat} {block : β} {heapB : Bool} :
    SameLimits pool (mempoolReleaseMemBlock heap pool thread (some block) heapB).2 ∧
      (mempoolReleaseMemBlock heap pool thread (some block) heapB).2.heapFreeBlocksCount =
        (if heapB then pool.heapFreeBlocksCount + 1 else pool.heapFreeBlocksCount) ∧
      (mempoolReleaseMemBlock heap pool thread (some block) heapB).1.inUse.length ≤
        heap.inUse.length ∧
      (heapB = true → (mempoolReleaseMemBlock heap pool thread (some block) heapB).1.inUse =
        heap.inUse.erase block) := by
  unfold mempoolReleaseMemBlock mempoolMheapReleaseMemBlock
  have fewer : ∀ memory : Heap β, (memory.free block).inUse.length ≤ memory.inUse.length :=
    fun memory => length_erase_le
  have global : ∀ memory : Heap β, memory.inUse = heap.inUse →
      SameLimits pool (releaseToGlobalList memory pool block).2 ∧
        (releaseToGlobalList memory pool block).2.heapFreeBlocksCount =
          pool.heapFreeBlocksCount ∧
        (releaseToGlobalList memory pool block).1.inUse.length ≤ heap.inUse.length := by
    intro memory same
    unfold releaseToGlobalList
    rw [← same]
    split
    · exact ⟨⟨rfl, rfl⟩, rfl, fewer memory⟩
    · dsimp only
      split
      · exact ⟨⟨rfl, rfl⟩, rfl, Nat.le_refl _⟩
      · exact ⟨⟨rfl, rfl⟩, rfl, Nat.le_refl _⟩
  cases heapB with
  | true => exact ⟨⟨rfl, rfl⟩, rfl, fewer heap, fun _ => rfl⟩
  | false =>
  simp only [Bool.false_eq_true, if_false]
  have cleared : (if pool.donotMemset then heap else heap.setNext block none).inUse =
      heap.inUse := by
    split <;> rfl
  unfold releaseStatic
  split
  · split
    · exact ⟨⟨rfl, rfl⟩, rfl, Nat.le_of_eq (congrArg List.length cleared),
        fun impossible => nomatch impossible⟩
    · obtain ⟨limits, heapFree, length⟩ := global _ cleared
      exact ⟨limits, heapFree, length, fun impossible => nomatch impossible⟩
  · obtain ⟨limits, heapFree, length⟩ := global _ cleared
    exact ⟨limits, heapFree, length, fun impossible => nomatch impossible⟩

omit [DecidableEq β] in
/-- What a pool is created with. -/
structure CreatedAs (params : MempoolParams) (cells : List β) (before after : Heap β)
    (pool : MemoryPool β) : Prop where
  staticBlocks : pool.staticBlocks = params.staticBlocks
  totalBlocksCount : pool.totalBlocksCount = params.maxBlocks
  heapFree : pool.heapFreeBlocksCount = params.maxBlocks - params.staticBlocks
  replenishCount : pool.replenishCount = params.replenishCount
  staticAllocated : pool.staticAllocatedBlocksCount = 0 + UInt32.ofNat cells.length
  threadLists : params.listPerThreadRequired = false → pool.perThreadList = none
  inUse : after.inUse = cells ++ before.inUse

/-- A pool is created with its parameters. -/
theorem mempoolCreatePool_fields {params : MempoolParams} {poolAllocated listAllocated : Bool}
    (created : (mempoolCreatePool heap params poolAllocated supply listAllocated).2 = some pool) :
    CreatedAs params (supply.take params.thresholdMax.toNat) heap
      (mempoolCreatePool heap params poolAllocated supply listAllocated).1 pool := by
  revert created
  unfold mempoolCreatePool mempoolCreateMheapPool
  split
  · exact fun impossible => nomatch impossible
  split
  case isFalse => exact fun impossible => nomatch impossible
  case isTrue allocated =>
  dsimp only
  split
  · exact fun impossible => nomatch impossible
  split
  case h_2 => exact fun impossible => nomatch impossible
  case h_1 limited accepted =>
  rintro ⟨⟩
  obtain ⟨bounded, boundedEq, attributesEq⟩ := bind_eq_some_iff.mp accepted
  cases setThresholdValues_fields boundedEq
  unfold MemoryPool.setAttributes at attributesEq
  split at attributesEq
  · cases some.inj attributesEq
    exact ⟨rfl, rfl, rfl, rfl, rfl, fun _ => rfl, rfl⟩
  case isFalse wanted =>
    split at attributesEq
    · cases some.inj attributesEq
      refine ⟨rfl, rfl, rfl, rfl, rfl, fun none => ?_, rfl⟩
      rw [none] at wanted
      exact absurd rfl wanted
    · cases attributesEq

section

variable (inv : QuotaInv maxThreads system)

include inv

/-- A new pool is within its quota exactly where the blocks it starts with are. -/
theorem QuotaInv.create_within {params : MempoolParams} {poolAllocated listAllocated : Bool}
    {supply : List β} (absent : system.pool = none) (fresh : system.heap.Fresh supply)
    (created : (mempoolCreatePool system.heap params poolAllocated supply listAllocated).2 =
      some pool) :
    (system.step maxThreads (.create params poolAllocated supply listAllocated)).pool =
        some pool ∧
      (system.step maxThreads (.create params poolAllocated supply listAllocated)).heapCount = 0 ∧
      ((system.step maxThreads (.create params poolAllocated supply listAllocated)).WithinQuota ↔
        (supply.take params.thresholdMax.toNat).length ≤ params.staticBlocks.toNat) := by
  obtain ⟨noHeld, noBlocks⟩ := inv.pool.absent absent
  have fields := mempoolCreatePool_fields created
  rw [PoolSystem.step_create absent fresh]
  have heapCount : PoolSystem.heapCount
      { system with
        heap := (mempoolCreatePool system.heap params poolAllocated supply listAllocated).1
        pool := (mempoolCreatePool system.heap params poolAllocated supply listAllocated).2 } =
      0 := by
    rw [PoolSystem.heapCount, noHeld]
    rfl
  refine ⟨created, heapCount, ?_⟩
  have staticCount : PoolSystem.staticCount
      { system with
        heap := (mempoolCreatePool system.heap params poolAllocated supply listAllocated).1
        pool := (mempoolCreatePool system.heap params poolAllocated supply listAllocated).2 } =
      (supply.take params.thresholdMax.toNat).length := by
    rw [PoolSystem.staticCount, heapCount, fields.inUse, noBlocks, append_nil]
    rfl
  rw [PoolSystem.WithinQuota, heapCount, staticCount, ← fields.staticBlocks]
  constructor
  · exact fun within => (within pool created).1
  · intro few other isPool
    have same : some other = some pool := isPool.symm.trans created
    cases same
    exact ⟨few, Nat.zero_le _⟩

/-- A release of a held block keeps the quota. -/
theorem QuotaInv.release {thread : Nat} {block : β} {heapB : Bool}
    (present : system.pool = some pool)
    (possible : thread ≤ maxThreads ∧ (block, heapB) ∈ system.held) :
    ∃ pool', (system.step maxThreads (.release thread block heapB)).pool = some pool' ∧
      SameLimits pool pool' ∧
      (system.step maxThreads (.release thread block heapB)).WithinQuota ∧
      (pool.staticBlocks ≤ pool.totalBlocksCount →
        pool'.heapFreeBlocksCount.toNat +
          (system.step maxThreads (.release thread block heapB)).heapCount = pool.heapMax) := by
  obtain ⟨limits, heapFree, shorter, erased⟩ := @mempoolReleaseMemBlock_fields _ _ system.heap pool
    thread block heapB
  have counted := heapCount_erase possible.2
  have total := inv.pool.heapCount_le present
  have within := inv.within pool present
  have stepped : system.step maxThreads (.release thread block heapB) =
      { heap := (mempoolReleaseMemBlock system.heap pool thread (some block) heapB).1
        pool := some (mempoolReleaseMemBlock system.heap pool thread (some block) heapB).2
        held := system.held.erase (block, heapB) } := by
    simp only [PoolSystem.step, present, if_pos possible]
  rw [stepped]
  refine ⟨_, rfl, limits, ?_, ?_⟩
  · rintro _ ⟨⟩
    rw [limits.staticBlocks, limits.heapMax_eq]
    rw [PoolSystem.staticCount] at within ⊢
    rw [PoolSystem.heapCount] at within total ⊢
    dsimp only
    cases heapB with
    | false =>
      change _ + 0 = _ at counted
      omega
    | true =>
    change _ + 1 = _ at counted
    obtain ⟨lists, tracked⟩ := inv.pool.present pool present
    have member : block ∈ system.heap.inUse := by
      rw [← Multiset.mem_coe, tracked.placed]
      refine Multiset.mem_add.mpr (.inr (Multiset.mem_coe.mpr ?_))
      exact mem_map_of_mem possible.2
    rw [erased rfl, length_erase_of_mem member]
    omega
  · intro quota
    have left := inv.heapLeft pool present quota
    have bounded : pool.heapMax < 2 ^ 32 :=
      Nat.lt_of_le_of_lt (Nat.sub_le _ _) (UInt32.toNat_lt _)
    rw [PoolSystem.heapCount] at left ⊢
    dsimp only
    rw [heapFree]
    cases heapB with
    | false =>
      change _ + 0 = _ at counted
      rw [if_neg Bool.false_ne_true]
      omega
    | true =>
    change _ + 1 = _ at counted
    have small : pool.heapFreeBlocksCount.toNat + (1 : UInt32).toNat < 2 ^ 32 := by
      change _ + 1 < _
      omega
    rw [if_pos rfl, uint32_toNat_add small]
    change _ + 1 + _ = _
    omega

/-! ## Runs -/

omit [DecidableEq β] in
theorem QuotaInv.idle {after : PoolSystem β} (kept : PoolInv maxThreads after)
    (held : after.held = system.held) (inUse : after.heap.inUse = system.heap.inUse)
    (same : ∀ pool', after.pool = some pool' → ∃ pool, system.pool = some pool ∧
      SameLimits pool pool' ∧ pool'.heapFreeBlocksCount = pool.heapFreeBlocksCount) :
    QuotaInv maxThreads after := by
  have heapCount : after.heapCount = system.heapCount := by
    rw [PoolSystem.heapCount, held]
    rfl
  have staticCount : after.staticCount = system.staticCount := by
    rw [PoolSystem.staticCount, heapCount, inUse]
    rfl
  constructor
  case pool => exact kept
  case within =>
    intro pool' present
    obtain ⟨pool, known, limits, -⟩ := same pool' present
    rw [limits.staticBlocks, limits.heapMax_eq, heapCount, staticCount]
    exact inv.within pool known
  case heapLeft =>
    intro pool' present quota
    obtain ⟨pool, known, limits, heapFree⟩ := same pool' present
    rw [limits.staticBlocks, limits.totalBlocksCount] at quota
    rw [limits.heapMax_eq, heapCount, heapFree]
    exact inv.heapLeft pool known quota

theorem QuotaInv.write (block : β) (word : Option β) :
    QuotaInv maxThreads (system.step maxThreads (.write block word)) := by
  refine inv.idle (inv.pool.step trivial) ?_ ?_ ?_
  · rw [PoolSystem.step]
    split <;> rfl
  · rw [PoolSystem.step]
    split <;> rfl
  · intro pool present
    rw [PoolSystem.step] at present
    refine ⟨pool, ?_, .refl pool, rfl⟩
    split at present <;> exact present

end

variable {event : PoolEvent β}

/-- The limits of a pool never change. -/
theorem QuotaInv.limits (inv : QuotaInv maxThreads system) {pool' : MemoryPool β}
    (present : system.pool = some pool) (after : (system.step maxThreads event).pool = some pool') :
    SameLimits pool pool' := by
  have unchanged : system.pool = some pool' → SameLimits pool pool' := by
    intro same
    rw [present] at same
    cases same
    exact .refl pool
  cases event with
  | create params poolAllocated supply listAllocated =>
    rw [PoolSystem.step, present] at after
    exact unchanged after
  | get thread heapB supply heapBlock =>
    by_cases possible : thread ≤ maxThreads ∧ system.heap.Fresh (supply ++ heapBlock.toList)
    · rw [PoolSystem.step_get present possible.1 possible.2] at after
      cases after
      exact inv.limits_get present possible.1 possible.2
    · rw [PoolSystem.step, present] at after
      dsimp only at after
      rw [if_neg possible] at after
      exact unchanged after
  | release thread block heapB =>
    by_cases possible : thread ≤ maxThreads ∧ (block, heapB) ∈ system.held
    · obtain ⟨other, isOther, limits, -, -⟩ := inv.release present possible
      rw [isOther] at after
      cases after
      exact limits
    · rw [PoolSystem.step, present] at after
      dsimp only at after
      rw [if_neg possible] at after
      exact unchanged after
  | releaseNull thread =>
    rw [PoolSystem.step, present] at after
    cases after
    exact ⟨rfl, rfl⟩
  | write block word =>
  rw [PoolSystem.step] at after
  refine unchanged ?_
  split at after <;> exact after

theorem QuotaFits.refillFits (fits : QuotaFits maxThreads system event) :
    RefillFits maxThreads system event := by
  cases event with
  | get thread heapB supply heapBlock =>
    intro pool present bound fresh noFree
    exact Nat.lt_of_le_of_lt (fits pool present bound fresh noFree).1 (UInt32.toNat_lt _)
  | _ => trivial

/-- An event that fits keeps the quota. -/
theorem QuotaInv.step (inv : QuotaInv maxThreads system) (fits : QuotaFits maxThreads system event) :
    QuotaInv maxThreads (system.step maxThreads event) := by
  have kept : PoolInv maxThreads (system.step maxThreads event) :=
    inv.pool.step fits.refillFits
  cases present : system.pool with
  | none =>
    cases event with
    | create params poolAllocated supply listAllocated =>
      by_cases fresh : system.heap.Fresh supply
      · cases created :
            (mempoolCreatePool system.heap params poolAllocated supply listAllocated).2 with
        | none =>
          have absent : (system.step maxThreads
              (.create params poolAllocated supply listAllocated)).pool = none := by
            rw [PoolSystem.step_create present fresh]
            exact created
          refine ⟨kept, fun pool impossible => ?_, fun pool impossible => ?_⟩
          · rw [absent] at impossible
            cases impossible
          · rw [absent] at impossible
            cases impossible
        | some pool =>
          obtain ⟨isPool, noHeap, within⟩ := inv.create_within present fresh created
          have fields := mempoolCreatePool_fields created
          have few := fits present fresh (by rw [created]; exact some_ne_none _)
          refine ⟨kept, within.mpr few, ?_⟩
          intro other isOther quota
          rw [isPool] at isOther
          cases isOther
          rw [noHeap, fields.heapFree, MemoryPool.heapMax, ← fields.staticBlocks,
            ← fields.totalBlocksCount]
          exact UInt32.toNat_sub_of_le _ _ quota
      · have same : system.step maxThreads
            (.create params poolAllocated supply listAllocated) = system := by
          simp only [PoolSystem.step, present, if_neg fresh]
        rw [same]
        exact inv
    | get thread heapB supply heapBlock =>
      rw [PoolSystem.step, present]
      exact inv
    | release thread block heapB =>
      rw [PoolSystem.step, present]
      exact inv
    | releaseNull thread =>
      rw [PoolSystem.step, present]
      exact inv
    | write block word => exact inv.write block word
  | some pool =>
  cases event with
  | create params poolAllocated supply listAllocated =>
    rw [PoolSystem.step, present]
    exact inv
  | get thread heapB supply heapBlock =>
    by_cases possible : thread ≤ maxThreads ∧
        system.heap.Fresh (supply ++ heapBlock.toList)
    · obtain ⟨bound, fresh⟩ := possible
      have limits := @QuotaInv.limits_get _ _ _ _ _ thread heapB supply heapBlock inv present bound
        fresh
      refine ⟨kept, ((inv.get_iff present bound fresh).mpr fits).1, ?_⟩
      intro other isOther quota
      have after : (system.step maxThreads (.get thread heapB supply heapBlock)).pool =
          some (mempoolMheapGetMemBlock system.heap pool thread heapB supply heapBlock).pool := by
        rw [PoolSystem.step_get present bound fresh]
      rw [after] at isOther
      cases isOther
      rw [limits.heapMax_eq]
      rw [limits.staticBlocks, limits.totalBlocksCount] at quota
      exact inv.heapLeft_get present bound fresh fits quota
    · rw [PoolSystem.step, present]
      dsimp only
      rw [if_neg possible]
      exact inv
  | release thread block heapB =>
    by_cases possible : thread ≤ maxThreads ∧ (block, heapB) ∈ system.held
    · obtain ⟨pool', isPool, limits, within, heapLeft⟩ := inv.release present possible
      refine ⟨kept, within, ?_⟩
      intro other isOther quota
      rw [isPool] at isOther
      cases isOther
      rw [limits.staticBlocks, limits.totalBlocksCount] at quota
      rw [limits.heapMax_eq]
      exact heapLeft quota
    · rw [PoolSystem.step, present]
      dsimp only
      rw [if_neg possible]
      exact inv
  | releaseNull thread =>
    refine inv.idle kept ?_ ?_ ?_
    · rw [PoolSystem.step, present]
    · rw [PoolSystem.step, present]
      rfl
    · intro pool' isPool
      rw [PoolSystem.step, present] at isPool
      cases isPool
      exact ⟨pool, present, ⟨rfl, rfl⟩, rfl⟩
  | write block word => exact inv.write block word

/-- An event keeps the quota exactly when it fits. -/
theorem QuotaInv.keeps_iff (inv : QuotaInv maxThreads system) :
    QuotaFits maxThreads system event ↔ KeepsQuota maxThreads system event := by
  constructor
  · intro fits
    constructor
    case within => exact (inv.step fits).within
    case limits => exact fun _ _ present after => inv.limits present after
    case created =>
      rintro params poolAllocated supply listAllocated rfl absent pool after
      rw [PoolSystem.step, absent] at after
      dsimp only at after
      split at after
      · have fields := mempoolCreatePool_fields after
        exact ⟨fields.staticBlocks, fields.totalBlocksCount⟩
      · rw [absent] at after
        cases after
    case answered =>
      rintro thread heapB supply heapBlock rfl pool present bound fresh
      exact ⟨fun _ => inv.refillComputed present, ((inv.get_iff present bound fresh).mpr fits).2⟩
  · intro keeps
    cases event with
    | create params poolAllocated supply listAllocated =>
      intro absent fresh some
      obtain ⟨pool, created⟩ := ne_none_iff_exists'.mp some
      obtain ⟨-, -, within⟩ := inv.create_within absent fresh created
      exact within.mp keeps.within
    | get thread heapB supply heapBlock =>
      intro pool present bound fresh
      have answered := (keeps.answered _ _ _ _ rfl pool present bound fresh).2
      exact (inv.get_iff present bound fresh).mp ⟨keeps.within, answered⟩ pool present bound fresh
    | release thread block heapB => trivial
    | releaseNull thread => trivial
    | write block word => trivial

omit [DecidableEq β] in
theorem QuotaInv.init (next : β → Option β) : QuotaInv maxThreads (PoolSystem.init next) where
  pool := .init next
  within := fun _ impossible => nomatch impossible
  heapLeft := fun _ impossible => nomatch impossible

/-- A run keeps the quota of its pool exactly when the pool is not created with more static blocks
than it is to have, no refill brings their number above that, and every request that is handed no
static block either is given a block from the heap that the quota has left, or meets a pool without
free static blocks whose heap quota is used up. -/
theorem quota_iff (maxThreads : Nat) (next : β → Option β) (events : List (PoolEvent β)) :
    Along (PoolSystem.step maxThreads) (KeepsQuota maxThreads) (PoolSystem.init next) events ↔
      Along (PoolSystem.step maxThreads) (QuotaFits maxThreads) (PoolSystem.init next) events := by
  symm
  apply Along.iff_of_invariant (fun _ _ inv fits => inv.step fits) _ (QuotaInv.init next)
  exact fun _ _ inv => inv.keeps_iff

end

/-- A pool for two blocks, one of them static, that keeps two free blocks. -/
def eagerParams : MempoolParams where
  blockSize := 64
  maxBlocks := 2
  memsetNotRequired := false
  listPerThreadRequired := false
  noofBlocksToMoveToThreadList := 0
  staticBlocks := 1
  thresholdMin := 0
  thresholdMax := 2
  replenishCount := 1

/-- It starts with more static blocks than it is to have. -/
theorem eager_exceeds_quota :
    ¬ Along (PoolSystem.step 1) (KeepsQuota 1) (PoolSystem.init fun _ : Nat => none)
      [.create eagerParams true [0, 1] false] := by
  rintro ⟨keeps, -⟩
  have within := keeps.within _ rfl
  exact absurd within.1 (by decide)

end OpenFlowController.Utils
