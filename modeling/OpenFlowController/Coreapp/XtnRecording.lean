/-
Module: Coreapp.XtnRecording
Purpose: The recording of a transaction with the pool that its block comes from, the timers
  and the table, and when it is atomic: one new record with its timer, or nothing at all.
Source: ofproto/src/coreapp/cntlr_xtn.c 60-141, 153-274; utils/timer.c 475-637;
  include/mchash.h 291-328; include/memapi.h 49-110
Trusted boundary: a bucket of the table is the sequence of its records, and the handler runs
  without interruption
-/
import OpenFlowController.Coreapp.CntlrXtn
import OpenFlowController.Utils.MempoolQuota
import OpenFlowController.Utils.RefTable
import OpenFlowController.Utils.Timer

namespace OpenFlowController.Coreapp

open Include List Function Library Utils

/-! ## Records in blocks of the pool -/

/-- `cntlr_transactn_rec_t`, as it stands in a block; `hash` is `key` of its table link. -/
structure XtnEntry where
  hash : UInt32
  xid : UInt32
  dpHandle : UInt64
  msgType : UInt8
  msgSubtype : UInt16
  callbackFn : Option Nat
  appPvtArg1 : Nat
  appPvtArg2 : Nat
  isHeap : Bool
  timerSaferef : TmrSaferef
  recSafeRef : MchashNoderef

/-- A message for a datapath, with the callback of the application. -/
structure XtnMessage where
  datapath : XtnDatapath
  type : UInt8
  multipartType : UInt16
  callbackFn : Option Nat
  appPvtArg1 : Nat
  appPvtArg2 : Nat

/-- What a call meets: its thread, the value of `is_heap`, which it does not set, what `calloc`
returns, and what `timer_create_and_start` answers. -/
structure XtnWorld (β : Type) where
  thread : Nat
  isHeap : Bool
  supply : List β
  heapBlock : Option β
  timer : TimerStatus

/-- The globals of `cntlr_xtn.c` with the blocks of the pool that are in use, and the running
timers, each with the record that its callback is given. -/
structure XtnRecords (β : Type) where
  hashTableInitValue : UInt32
  seqNo : UInt32
  heap : Heap β
  pool : MemoryPool β
  held : List (β × Bool)
  timers : Timers β
  table : RefTable β
  records : β → XtnEntry

namespace XtnRecords

section

variable {β : Type} (state : XtnRecords β)

/-- The next transaction id; zero is left out. -/
def nextSeqNo : UInt32 :=
  if state.seqNo + 1 = 0 then 1 else state.seqNo + 1

def hashOf (xid : UInt32) (datapath : XtnDatapath) : UInt32 :=
  ofTransactionTableHash xid datapath.datapathId0 datapath.datapathId1 state.hashTableInitValue

/-- The fields that are filled in before the timer is started. -/
def fill (message : XtnMessage) (isHeap : Bool) (old : XtnEntry) : XtnEntry :=
  { old with
    xid := state.nextSeqNo
    dpHandle := message.datapath.datapathHandle
    msgType := message.type
    msgSubtype :=
      if message.type = Ofpt.multipartRequest then message.multipartType else old.msgSubtype
    callbackFn := message.callbackFn
    appPvtArg1 := message.appPvtArg1
    appPvtArg2 := message.appPvtArg2
    isHeap := isHeap }

end

section

variable {β : Type} [DecidableEq β] (state : XtnRecords β)

/-- The block that is taken from the pool, with the fields that are filled in at once. -/
def takeRecord (message : XtnMessage) (got : GetResult β) (block : β) (isHeap : Bool) :
    XtnRecords β :=
  { state with
    seqNo := state.nextSeqNo
    heap := got.heap
    pool := got.pool
    held := (block, isHeap) :: state.held
    records :=
      Function.update state.records block (state.fill message isHeap (state.records block)) }

/-- `timer_create_and_start` for the record in `block`; on an error no timer is started. -/
def startTimer (world : XtnWorld β) (block : β) : XtnRecords β :=
  match world.timer with
  | .success =>
    let started := state.timers.timerCreateAndStart world.thread false block
    { state with
      timers := started.1
      records :=
        Function.update state.records block { state.records block with timerSaferef := started.2 } }
  | _ => state

/-- `MCHASH_APPEND_NODE` for the record in `block`. -/
def appendRecord (message : XtnMessage) (block : β) : XtnRecords β × Option MchashNoderef :=
  let xid := (state.records block).xid
  match state.table.append block with
  | (_, none) => (state, none)
  | (table, some noderef) =>
    ({ state with
        table := table
        records :=
          Function.update state.records block
            { state.records block with
              hash := state.hashOf xid message.datapath
              recSafeRef := noderef } }, some noderef)

/-- `cntlr_record_xtn_details`; the second component is what it stores at
`p_xtn_rec_saferef`, unless it returns `OF_FAILURE`. -/
def cntlrRecordXtnDetails (message : XtnMessage) (world : XtnWorld β) :
    XtnRecords β × Option MchashNoderef :=
  let got := mempoolMheapGetMemBlock state.heap state.pool world.thread world.isHeap world.supply
    world.heapBlock
  match got.block with
  | none => ({ state with heap := got.heap, pool := got.pool }, none)
  | some (block, isHeap) =>
    let started := (state.takeRecord message got block isHeap).startTimer world block
    -- the other errors of the timer are not `OF_FAILURE`
    if world.timer = .failure then (started, none)
    else started.appendRecord message block

/-- `cntlr_get_xtn_details`: the first record of the bucket with the transaction id. -/
def cntlrGetXtnDetails (xid : UInt32) (datapath : XtnDatapath) : Option β :=
  state.table.nodes.find? fun block =>
    (state.records block).hash = state.hashOf xid datapath ∧ (state.records block).xid = xid

end

end XtnRecords

/-! ## What should hold -/

section

variable {β : Type} [DecidableEq β]

/-- The call left exactly one new record, which its transaction id and the reference lead to, and
whose timer is the only new one. -/
structure Recorded (before after : XtnRecords β) (datapath : XtnDatapath)
    (noderef : MchashNoderef) : Prop where
  record : ∃ block isHeap,
    after.held = (block, isHeap) :: before.held ∧
      block ∉ before.table.nodes ∧
      after.table.linked = before.table.linked ++ [{ noderef := noderef, node := block }] ∧
      (after.records block).xid = before.nextSeqNo ∧
      after.cntlrGetXtnDetails before.nextSeqNo datapath = some block ∧
      before.timers.running (after.records block).timerSaferef = none ∧
      after.timers.running =
        Function.update before.timers.running (after.records block).timerSaferef (some block)
  others : ∀ block ∈ before.table.nodes, after.records block = before.records block

/-- The pool, the running timers and the table are as before. -/
structure LeftAlone (before after : XtnRecords β) : Prop where
  held : after.held = before.held
  inUse : after.heap.inUse = before.heap.inUse
  counters : SameCounters before.pool after.pool
  timers : after.timers.running = before.timers.running
  table : after.table = before.table
  records : ∀ block ∈ before.table.nodes, after.records block = before.records block

/-- `cntlr_record_xtn_details` succeeds with one new record, or fails and leaves all as it was. -/
def XtnRecords.Atomic (state : XtnRecords β) (message : XtnMessage) (world : XtnWorld β) : Prop :=
  match (state.cntlrRecordXtnDetails message world).2 with
  | some noderef =>
    Recorded state (state.cntlrRecordXtnDetails message world).1 message.datapath noderef
  | none => LeftAlone state (state.cntlrRecordXtnDetails message world).1

/-- The pool has a block: on its list, after a refill, or from the heap. -/
def XtnRecords.HasBlock (state : XtnRecords β) (world : XtnWorld β) : Prop :=
  state.pool.StaticLeft world.supply ∨
    state.pool.heapGives world.isHeap world.heapBlock = true

/-- Where the pool has a block, the timer starts, the table has room, and no record of the bucket
has the new transaction id; where it has none, no block is asked of the heap. -/
def XtnRecords.Fits (state : XtnRecords β) (message : XtnMessage) (world : XtnWorld β) : Prop :=
  (state.HasBlock world →
    world.timer = .success ∧ state.table.free ≠ [] ∧
      ∀ block ∈ state.table.nodes,
        (state.records block).hash = state.hashOf state.nextSeqNo message.datapath →
          (state.records block).xid ≠ state.nextSeqNo) ∧
    (¬ state.HasBlock world → world.isHeap = true → state.pool.heapFreeBlocksCount = 0)

end

/-- The pool of the records, as `cntlr_xtn_table_init` creates it, accounts for its blocks, and the
records of the table are in blocks that are in use. -/
structure IntactXtnRecords (β : Type) extends XtnRecords β where
  maxThreads : Nat
  tracked : ∃ lists, Tracked maxThreads heap pool held lists
  noThreadLists : pool.perThreadList = none
  withinStatic : pool.staticAllocatedBlocksCount ≤ pool.staticBlocks
  smallRefill : pool.replenishCount.toNat + pool.staticBlocks.toNat < 2 ^ 32
  inBlocks : ∀ block ∈ table.nodes, block ∈ held.map Prod.fst

/-- What a call meets, where `calloc` returns memory that is not in use. -/
structure FreshXtnWorld {β : Type} [DecidableEq β] (state : XtnRecords β) extends XtnWorld β where
  fresh : state.heap.Fresh (supply ++ heapBlock.toList)

/-! ## The block of a record -/

section

variable {β : Type} [DecidableEq β] {state : IntactXtnRecords β}

theorem IntactXtnRecords.get_eq (state : IntactXtnRecords β) (world : XtnWorld β) :
    mempoolMheapGetMemBlock state.heap state.pool world.thread world.isHeap world.supply
        world.heapBlock =
      getFromGlobalList (refillIfLow state.heap state.pool world.supply).1
        (refillIfLow state.heap state.pool world.supply).2 none world.isHeap world.heapBlock := by
  have own : state.pool.threadNode world.thread = none := by
    rw [MemoryPool.threadNode, state.noThreadLists]
  rw [mempoolMheapGetMemBlock, own]

/-- An intact pool hands out a block that no record uses. -/
theorem IntactXtnRecords.get_block (world : FreshXtnWorld state.toXtnRecords)
    (has : state.HasBlock world.toXtnWorld) :
    ∃ block isHeap,
      (mempoolMheapGetMemBlock state.heap state.pool world.thread world.isHeap world.supply
        world.heapBlock).block = some (block, isHeap) ∧
      block ∉ state.table.nodes := by
  obtain ⟨lists, beforeTracked⟩ := state.tracked
  have few : state.pool.staticAllocatedBlocksCount.toNat +
      (refillBlocks state.pool world.supply).length < 2 ^ 32 :=
    Nat.lt_of_le_of_lt (refillBlocks_fits state.withinStatic state.smallRefill) (UInt32.toNat_lt _)
  have supplyFresh : state.heap.Fresh world.supply :=
    ⟨(nodup_append.mp world.fresh.1).1, fun block member =>
      world.fresh.2 block (mem_append_left _ member)⟩
  have tracked := beforeTracked.refillIfLow supplyFresh few
  obtain ⟨limits, heapFree, -⟩ := @refillIfLow_limits _ _ state.heap state.pool world.supply
  have head := @refillIfLow_head _ _ _ _ _ _ _ world.supply beforeTracked
  rw [state.get_eq]
  unfold getFromGlobalList
  cases listed : (refillIfLow state.heap state.pool world.supply).2.head with
  | some first =>
    refine ⟨first, false, rfl, fun inTable => ?_⟩
    have place : none ∈ places state.maxThreads := none_mem_places _
    have seg := tracked.chain none place
    change Seg _ (refillIfLow state.heap state.pool world.supply).2.head _ _ at seg
    rw [listed] at seg
    obtain ⟨rest, split, -⟩ := seg.eq_cons_of_some
    refine tracked.held_off place (state.inBlocks first inTable) ?_
    rw [split]
    exact mem_cons_self
  | none =>
  have gives : state.pool.heapGives world.isHeap world.heapBlock = true := by
    rcases has with left | gives
    · exact absurd listed (head.mpr left)
    · exact gives
  have sameGives : (refillIfLow state.heap state.pool world.supply).2.heapGives world.isHeap
      world.heapBlock = true := by
    rw [MemoryPool.heapGives, heapFree]
    exact gives
  cases given : world.heapBlock with
  | none => simp [MemoryPool.heapGives, given] at gives
  | some block =>
  have left : (world.isHeap && decide ((refillIfLow state.heap state.pool
      world.supply).2.heapFreeBlocksCount ≠ 0)) = true := by
    simpa [MemoryPool.heapGives, given] using sameGives
  rw [allocateFromHeap, if_pos left]
  refine ⟨block, true, rfl, fun inTable => ?_⟩
  refine world.fresh.2 block ?_ ?_
  · rw [given]
    exact mem_append_right _ (mem_singleton_self _)
  · rw [← Multiset.mem_coe, beforeTracked.placed]
    exact Multiset.mem_add.mpr (.inr (Multiset.mem_coe.mpr (state.inBlocks block inTable)))

/-- Without a block the pool is as before, unless `calloc` was called. -/
theorem IntactXtnRecords.get_none (world : FreshXtnWorld state.toXtnRecords)
    (missing : ¬ state.HasBlock world.toXtnWorld) :
    (mempoolMheapGetMemBlock state.heap state.pool world.thread world.isHeap world.supply
        world.heapBlock).block = none ∧
      (mempoolMheapGetMemBlock state.heap state.pool world.thread world.isHeap world.supply
        world.heapBlock).heap = state.heap ∧
      (SameCounters state.pool (mempoolMheapGetMemBlock state.heap state.pool world.thread
          world.isHeap world.supply world.heapBlock).pool ↔
        (world.isHeap = true → state.pool.heapFreeBlocksCount = 0)) := by
  obtain ⟨noStatic, noHeap⟩ := not_or.mp missing
  obtain ⟨noHead, noRefill⟩ := not_or.mp noStatic
  have turned : getFromGlobalList state.heap state.pool none world.isHeap world.heapBlock =
      allocateFromHeap state.heap state.pool world.isHeap world.heapBlock := by
    unfold getFromGlobalList
    rw [not_not.mp noHead]
  rw [state.get_eq, refillIfLow_nil (not_not.mp noRefill), turned]
  by_cases asked : (world.isHeap && decide (state.pool.heapFreeBlocksCount ≠ 0)) = true
  · unfold allocateFromHeap
    rw [if_pos asked]
    obtain ⟨wanted, left⟩ := Bool.and_eq_true_iff.mp asked
    have left : state.pool.heapFreeBlocksCount ≠ 0 := of_decide_eq_true left
    cases given : world.heapBlock with
    | some block => simp [MemoryPool.heapGives, given, wanted, left] at noHeap
    | none =>
    refine ⟨rfl, rfl, iff_of_false (fun same => ?_) fun empty => left (empty wanted)⟩
    have counted : state.pool.heapFreeBlocksCount - 1 = state.pool.heapFreeBlocksCount :=
      same.heapFree
    have numbers := congrArg UInt32.toNat counted
    rw [UInt32.toNat_sub] at numbers
    change (2 ^ 32 - 1 + _) % 2 ^ 32 = _ at numbers
    omega
  · unfold allocateFromHeap
    rw [if_neg asked]
    refine ⟨rfl, rfl, iff_of_true ⟨rfl, rfl, rfl, rfl, rfl, rfl, rfl⟩ fun wanted => ?_⟩
    by_contra left
    exact asked (by simp [wanted, left])

/-! ## Recording -/

variable {message : XtnMessage} {block : β} {isHeap : Bool} {state : XtnRecords β}
  {world : XtnWorld β} {got : GetResult β}

theorem startTimer_table :
    ((state.takeRecord message got block isHeap).startTimer world block).table = state.table := by
  unfold XtnRecords.startTimer
  split <;> rfl

theorem takeRecord_records {other : β} (different : other ≠ block) :
    (state.takeRecord message got block isHeap).records other = state.records other :=
  update_of_ne different ..

theorem held_of_block {message : XtnMessage} {world : XtnWorld β} {state : XtnRecords β}
    {block : β} {isHeap : Bool}
    (given : (mempoolMheapGetMemBlock state.heap state.pool world.thread world.isHeap world.supply
      world.heapBlock).block = some (block, isHeap)) :
    (state.cntlrRecordXtnDetails message world).1.held = (block, isHeap) :: state.held := by
  rw [XtnRecords.cntlrRecordXtnDetails, given]
  dsimp only
  have started : ((state.takeRecord message (mempoolMheapGetMemBlock state.heap state.pool
      world.thread world.isHeap world.supply world.heapBlock) block isHeap).startTimer world
        block).held = (block, isHeap) :: state.held := by
    unfold XtnRecords.startTimer
    split <;> rfl
  split
  · exact started
  · unfold XtnRecords.appendRecord
    split <;> exact started

/-- What is left of a call whose timer was started and whose table had room. -/
structure Appended (before after : XtnRecords β) (message : XtnMessage) (block : β)
    (isHeap : Bool) (noderef : MchashNoderef) : Prop where
  held : after.held = (block, isHeap) :: before.held
  linked : after.table.linked = before.table.linked ++ [{ noderef := noderef, node := block }]
  sameHash : after.hashTableInitValue = before.hashTableInitValue
  xid : (after.records block).xid = before.nextSeqNo
  hash : (after.records block).hash = before.hashOf before.nextSeqNo message.datapath
  others : ∀ other, other ≠ block → after.records other = before.records other

theorem appendRecord_room {message : XtnMessage} {state started : XtnRecords β} {block : β}
    {isHeap : Bool} (held : started.held = (block, isHeap) :: state.held)
    (sameTable : started.table = state.table)
    (sameHash : started.hashTableInitValue = state.hashTableInitValue)
    (xid : (started.records block).xid = state.nextSeqNo)
    (others : ∀ other, other ≠ block → started.records other = state.records other)
    (room : state.table.free ≠ []) :
    ∃ noderef, (started.appendRecord message block).2 = some noderef ∧
      Appended state (started.appendRecord message block).1 message block isHeap noderef ∧
      (started.appendRecord message block).1.timers = started.timers ∧
      ((started.appendRecord message block).1.records block).timerSaferef =
        (started.records block).timerSaferef := by
  obtain ⟨table, noderef, appended, linked, -⟩ := RefTable.append_free room block
  have appended : started.table.append block = (table, some noderef) := by
    rw [sameTable, appended]
  rw [XtnRecords.appendRecord, appended]
  dsimp only
  refine ⟨noderef, rfl, ⟨held, linked, sameHash, ?_, ?_, ?_⟩, rfl, ?_⟩
  · dsimp only
    rw [update_self]
    exact xid
  · dsimp only
    rw [update_self, xid, XtnRecords.hashOf, sameHash]
    rfl
  · intro other different
    dsimp only
    rw [update_of_ne different]
    exact others other different
  · rw [update_self]

/-- A call that is handed a block, and whose timer is not refused with `OF_FAILURE`, appends the
record, with the timer where one was started. -/
theorem cntlrRecordXtnDetails_given {message : XtnMessage} {world : XtnWorld β}
    {state : XtnRecords β} {block : β} {isHeap : Bool}
    (given : (mempoolMheapGetMemBlock state.heap state.pool world.thread world.isHeap world.supply
      world.heapBlock).block = some (block, isHeap)) (goesOn : world.timer ≠ .failure)
    (room : state.table.free ≠ []) :
    ∃ noderef, (state.cntlrRecordXtnDetails message world).2 = some noderef ∧
      Appended state (state.cntlrRecordXtnDetails message world).1 message block isHeap noderef ∧
      (world.timer = .success →
        ((state.cntlrRecordXtnDetails message world).1.records block).timerSaferef =
            (state.timers.timerCreateAndStart world.thread false block).2 ∧
          (state.cntlrRecordXtnDetails message world).1.timers =
            (state.timers.timerCreateAndStart world.thread false block).1) ∧
      (world.timer ≠ .success →
        (state.cntlrRecordXtnDetails message world).1.timers = state.timers) := by
  rw [XtnRecords.cntlrRecordXtnDetails, given]
  dsimp only
  have filled : ((state.takeRecord message (mempoolMheapGetMemBlock state.heap state.pool
      world.thread world.isHeap world.supply world.heapBlock) block isHeap).records block).xid =
        state.nextSeqNo := by
    rw [XtnRecords.takeRecord]
    dsimp only
    rw [update_self, XtnRecords.fill]
  have others : ∀ other, other ≠ block → (state.takeRecord message (mempoolMheapGetMemBlock
      state.heap state.pool world.thread world.isHeap world.supply world.heapBlock) block
        isHeap).records other = state.records other :=
    fun other different => takeRecord_records different
  generalize taken : state.takeRecord message (mempoolMheapGetMemBlock state.heap state.pool
    world.thread world.isHeap world.supply world.heapBlock) block isHeap = filledIn
    at filled others ⊢
  have held : filledIn.held = (block, isHeap) :: state.held := by rw [← taken]; rfl
  have sameTable : filledIn.table = state.table := by rw [← taken]; rfl
  have sameHash : filledIn.hashTableInitValue = state.hashTableInitValue := by rw [← taken]; rfl
  have sameTimers : filledIn.timers = state.timers := by rw [← taken]; rfl
  cases answer : world.timer with
  | failure => exact absurd answer goesOn
  | otherError =>
    have untimed : filledIn.startTimer world block = filledIn := by
      rw [XtnRecords.startTimer, answer]
    rw [untimed]
    obtain ⟨noderef, returned, appended, timers, -⟩ :=
      @appendRecord_room _ _ message _ _ _ _ held sameTable sameHash filled others room
    exact ⟨noderef, returned, appended, nofun, fun _ => timers.trans sameTimers⟩
  | success =>
  obtain ⟨noderef, returned, appended, timers, saferef⟩ :=
    @appendRecord_room _ _ message state (filledIn.startTimer world block) block isHeap
      (by rw [XtnRecords.startTimer, answer]; exact held)
      (by rw [XtnRecords.startTimer, answer]; exact sameTable)
      (by rw [XtnRecords.startTimer, answer]; exact sameHash)
      (by
        rw [XtnRecords.startTimer, answer]
        dsimp only
        rw [update_self]
        exact filled)
      (by
        intro other different
        rw [XtnRecords.startTimer, answer]
        dsimp only
        rw [update_of_ne different]
        exact others other different)
      room
  refine ⟨noderef, returned, appended, fun _ => ⟨saferef.trans ?_, timers.trans ?_⟩,
    fun other => absurd rfl other⟩
  · rw [XtnRecords.startTimer, answer]
    dsimp only
    rw [update_self, sameTimers]
  · rw [XtnRecords.startTimer, answer]
    rw [sameTimers]

variable {after : XtnRecords β}

omit [DecidableEq β] in
/-- The look-up of the new transaction id finds the new record, unless an older one of the bucket
has that id. -/
theorem Appended.found_iff {noderef : MchashNoderef}
    (appended : Appended state after message block isHeap noderef) (new : block ∉ state.table.nodes) :
    after.cntlrGetXtnDetails state.nextSeqNo message.datapath = some block ↔
      ∀ other ∈ state.table.nodes,
        (state.records other).hash = state.hashOf state.nextSeqNo message.datapath →
          (state.records other).xid ≠ state.nextSeqNo := by
  have different : ∀ other ∈ state.table.nodes, other ≠ block := by
    rintro other member rfl
    exact new member
  have sameHash : after.hashOf state.nextSeqNo message.datapath =
      state.hashOf state.nextSeqNo message.datapath := by
    rw [XtnRecords.hashOf, appended.sameHash]
    rfl
  have nodes : after.table.nodes = state.table.nodes ++ [block] := by
    rw [RefTable.nodes, appended.linked, map_append]
    rfl
  rw [XtnRecords.cntlrGetXtnDetails, nodes, find?_append, sameHash]
  constructor
  · intro found other member hash xid
    cases first : state.table.nodes.find? (fun block =>
        (after.records block).hash = state.hashOf state.nextSeqNo message.datapath ∧
          (after.records block).xid = state.nextSeqNo) with
    | none =>
      have missed := find?_eq_none.mp first other member
      rw [appended.others other (different other member)] at missed
      exact missed (by simp [hash, xid])
    | some older =>
    rw [first] at found
    have same : older = block := by simpa using found
    exact new (same ▸ mem_of_find?_eq_some first)
  · intro unused
    have missed : state.table.nodes.find? (fun block =>
        (after.records block).hash = state.hashOf state.nextSeqNo message.datapath ∧
          (after.records block).xid = state.nextSeqNo) = none := by
      rw [find?_eq_none]
      intro other member
      rw [appended.others other (different other member), decide_eq_true_eq]
      exact fun both => unused other member both.1 both.2
    rw [missed]
    simp [appended.hash, appended.xid]

omit [DecidableEq β] in
theorem not_leftAlone_of_held {before : XtnRecords β}
    (held : after.held = (block, isHeap) :: before.held) : ¬ LeftAlone before after := by
  intro alone
  have same := held.symm.trans alone.held
  exact absurd (congrArg List.length same) (Nat.succ_ne_self _)

omit [DecidableEq β] in
theorem timers_started (saferef : (after.records block).timerSaferef =
      (state.timers.timerCreateAndStart world.thread false block).2)
    (timers : after.timers = (state.timers.timerCreateAndStart world.thread false block).1) :
    state.timers.running (after.records block).timerSaferef = none ∧
      after.timers.running =
        update state.timers.running (after.records block).timerSaferef (some block) := by
  rw [timers, saferef]
  exact ⟨Timers.running_unused (Nat.le_refl _), Timers.running_timerCreateAndStart ..⟩

/-- Recording a transaction is atomic exactly where the state and what the call meets fit. -/
theorem recordXtn_atomic_iff (state : IntactXtnRecords β) (message : XtnMessage)
    (world : FreshXtnWorld state.toXtnRecords) :
    state.toXtnRecords.Atomic message world.toXtnWorld ↔
      state.toXtnRecords.Fits message world.toXtnWorld := by
  by_cases has : state.HasBlock world.toXtnWorld
  · obtain ⟨block, isHeap, given, new⟩ := state.get_block world has
    have held := @held_of_block _ _ message _ _ _ _ given
    have whole : state.toXtnRecords.Fits message world.toXtnWorld ↔
        world.timer = .success ∧ state.table.free ≠ [] ∧
          ∀ other ∈ state.table.nodes,
            (state.records other).hash = state.hashOf state.nextSeqNo message.datapath →
              (state.records other).xid ≠ state.nextSeqNo :=
      ⟨fun fits => fits.1 has, fun fits => ⟨fun _ => fits, fun none => absurd has none⟩⟩
    rw [whole, XtnRecords.Atomic]
    by_cases refused : world.timer = .failure
    · have failed : (state.cntlrRecordXtnDetails message world.toXtnWorld).2 = none := by
        rw [XtnRecords.cntlrRecordXtnDetails, given]
        dsimp only
        rw [if_pos refused]
      rw [failed]
      refine iff_of_false (not_leftAlone_of_held held) fun fits => ?_
      rw [refused] at fits
      cases fits.1
    by_cases room : state.table.free = []
    · have failed : (state.cntlrRecordXtnDetails message world.toXtnWorld).2 = none := by
        rw [XtnRecords.cntlrRecordXtnDetails, given]
        dsimp only
        rw [if_neg refused, XtnRecords.appendRecord, startTimer_table, RefTable.append_full room]
      rw [failed]
      exact iff_of_false (not_leftAlone_of_held held) fun fits => fits.2.1 room
    obtain ⟨noderef, returned, appended, timed, untimed⟩ :=
      @cntlrRecordXtnDetails_given _ _ message _ _ _ _ given refused room
    rw [returned]
    constructor
    · rintro ⟨⟨other, otherHeap, sameHeld, -, linked, -, found, fresh, running⟩, -⟩
      have same : other = block := by
        have heads := List.cons.inj (sameHeld.symm.trans held)
        exact congrArg Prod.fst heads.1
      rw [same] at found fresh running
      refine ⟨?_, room, (appended.found_iff new).mp found⟩
      by_contra notStarted
      rw [untimed notStarted] at running
      have impossible := congrFun running
        ((state.cntlrRecordXtnDetails message world.toXtnWorld).1.records block).timerSaferef
      rw [update_self, fresh] at impossible
      cases impossible
    · rintro ⟨started, -, unused⟩
      obtain ⟨saferef, timers⟩ := timed started
      obtain ⟨fresh, running⟩ := timers_started saferef timers
      exact ⟨⟨block, isHeap, held, new, appended.linked, appended.xid,
        (appended.found_iff new).mpr unused, fresh, running⟩, fun other member =>
          appended.others other fun same => new (same ▸ member)⟩
  · obtain ⟨none, sameHeap, counters⟩ := state.get_none world has
    have failed : state.cntlrRecordXtnDetails message world.toXtnWorld =
        ({ state.toXtnRecords with
            heap := state.heap
            pool := (mempoolMheapGetMemBlock state.heap state.pool world.thread world.isHeap
              world.supply world.heapBlock).pool }, Option.none) := by
      rw [XtnRecords.cntlrRecordXtnDetails, none, sameHeap]
    rw [XtnRecords.Atomic, failed]
    constructor
    · intro alone
      exact ⟨fun some => absurd some has, fun _ => counters.mp alone.counters⟩
    · intro fits
      exact ⟨rfl, rfl, counters.mpr (fits.2 has), rfl, rfl, fun _ _ => rfl⟩

end

/-! ## The table at the start -/

/-- The pool that `cntlr_xtn_table_init` creates. -/
def xtnNodesPoolParams (blockSize : UInt32) : MempoolParams where
  blockSize := blockSize
  maxBlocks := 5000
  memsetNotRequired := false
  listPerThreadRequired := false
  noofBlocksToMoveToThreadList := 0
  staticBlocks := 4000
  thresholdMin := 400
  thresholdMax := 1333
  replenishCount := 400

/-- `cntlr_xtn_table_init`, where it creates the pool. -/
def IntactXtnRecords.init {β : Type} [DecidableEq β] {next : β → Option β} {supply : List β}
    {blockSize : UInt32} {pool : MemoryPool β} (hashTableInitValue : UInt32)
    (records : β → XtnEntry) (nodup : supply.Nodup)
    (created : (mempoolCreatePool { next := next, inUse := [] } (xtnNodesPoolParams blockSize)
      true supply true).2 = some pool) : IntactXtnRecords β where
  hashTableInitValue := hashTableInitValue
  seqNo := 0
  heap := (mempoolCreatePool { next := next, inUse := [] } (xtnNodesPoolParams blockSize) true
    supply true).1
  pool := pool
  held := []
  timers := Timers.init
  table := RefTable.create ⟨5000, by decide⟩
  records := records
  maxThreads := 0
  tracked := (mempoolCreatePool_kept nodup rfl).present pool created
  noThreadLists := (mempoolCreatePool_fields created).threadLists rfl
  withinStatic := by
    have fields := mempoolCreatePool_fields created
    rw [fields.staticBlocks, fields.staticAllocated, UInt32.zero_add, UInt32.le_iff_toNat_le]
    have few : (supply.take 1333).length ≤ 1333 := List.length_take_le ..
    change (UInt32.ofNat (supply.take 1333).length).toNat ≤ 4000
    have small : (supply.take 1333).length < UInt32.size := Nat.lt_of_le_of_lt few (by decide)
    rw [UInt32.toNat_ofNat_of_lt' small]
    omega
  smallRefill := by
    have fields := mempoolCreatePool_fields created
    rw [fields.staticBlocks, fields.replenishCount]
    exact (by decide : 400 + 4000 < 2 ^ 32)
  inBlocks := fun _ member => absurd member List.not_mem_nil

/-- A record whose timer cannot be started keeps its block. -/
theorem unstarted_timer_keeps_block :
    let start : IntactXtnRecords Nat :=
      @IntactXtnRecords.init Nat _ (fun _ => none) [0] 64 _ 0
        (fun _ => ⟨0, 0, 0, 0, 0, none, 0, 0, false, .zeroed, ⟨0, 0⟩⟩) (by decide) rfl
    ¬ start.Atomic ⟨⟨1, 2, 3⟩, Ofpt.barrierRequest, 0, none, 0, 0⟩ ⟨1, true, [], none, .failure⟩ := by
  intro start atomic
  have alone : LeftAlone _ _ := atomic
  have held : [(0, false)] = ([] : List (Nat × Bool)) := alone.held
  cases held

end OpenFlowController.Coreapp
