/-
Module: Utils.MsgQueue
Purpose: The message queue box: for every sender a ring of message pointers with
  signed read and write indexes, an overflow list fed from a memory pool, and a
  lock.
Source: utils/queue.c, ofproto/src/include/cntrl_queue.h
Trusted boundary: none
-/
import OpenFlowController.Library.FifoLedger
import OpenFlowController.Library.MachineInt
import OpenFlowController.Library.Run

namespace OpenFlowController.Utils

open Library List Function

def ofMaxMsgsInRing : Nat := 64

/-- An entry of the overflow list; `bHeap` says where its block came from. -/
structure OfMsgEntry (μ : Type*) where
  pMsgData : μ
  bHeap : Bool

/-- `of_MsgQueue_t`.  The indexes are `int32_t`; `lock` counts the times the lock
was taken and not released, and `msgList` runs from `pHead` to `pTail`. -/
structure OfMsgQueue (μ : Type*) where
  ulWriteIndx : Int
  ulReadIndx : Int
  pMsgData : Nat → Option μ
  lock : Int
  msgList : List (OfMsgEntry μ)
  uiMsgListCnt : Nat

variable {μ : Type*}

namespace OfMsgQueue

/-- A queue as `of_MsgQBoxCreate` leaves it. -/
def create : OfMsgQueue μ where
  ulWriteIndx := -1
  ulReadIndx := -1
  pMsgData := fun _ => none
  lock := 0
  msgList := []
  uiMsgListCnt := 0

def lockTake (queue : OfMsgQueue μ) : OfMsgQueue μ :=
  { queue with lock := queue.lock + 1 }

def lockRelease (queue : OfMsgQueue μ) : OfMsgQueue μ :=
  { queue with lock := queue.lock - 1 }

end OfMsgQueue

/-- The index `of_MsgEnqueue` tries to write at.  All comparisons are between
`uint32_t` values, so a read index of -1 counts as the largest of them. -/
def nextWriteIndex (queue : OfMsgQueue μ) : Nat :=
  let next := uint32OfInt32 (queue.ulWriteIndx + 1)
  if next ≥ ofMaxMsgsInRing ∧ uint32OfInt32 queue.ulReadIndx > next % ofMaxMsgsInRing then
    next % ofMaxMsgsInRing
  else
    next

/-- The ring takes a message at the index `of_MsgEnqueue` tries. -/
def ringAccepts (queue : OfMsgQueue μ) : Bool :=
  nextWriteIndex queue ≠ uint32OfInt32 queue.ulReadIndx && nextWriteIndex queue < ofMaxMsgsInRing

/-- `of_MsgEnqueue`, with the outcome of `mempool_get_mem_block`: no block, or a
block and where it came from.  The result is `OF_SUCCESS` or `OF_FAILURE`. -/
def ofMsgEnqueue (queue : OfMsgQueue μ) (pMsg : μ) (tryLockLess : Bool)
    (block : Option Bool) : OfMsgQueue μ × Bool :=
  let next := nextWriteIndex queue
  let locked : OfMsgQueue μ := if tryLockLess then queue else queue.lockTake
  if ringAccepts queue then
    let written : OfMsgQueue μ :=
      { locked with
        pMsgData := Function.update locked.pMsgData next (some pMsg)
        ulWriteIndx := next }
    (if tryLockLess then written else written.lockRelease, true)
  else
    match block with
    | none => (if tryLockLess then locked else locked.lockRelease, false)
    | some bHeap =>
      let relocked : OfMsgQueue μ := if tryLockLess then locked.lockTake else locked
      let listed : OfMsgQueue μ :=
        { relocked with
          msgList := relocked.msgList ++ [{ pMsgData := pMsg, bHeap := bHeap }]
          uiMsgListCnt := uint32Succ relocked.uiMsgListCnt }
      (listed.lockRelease, true)

/-- What `of_MsgDequeue` reports: `OF_FAILURE`, or `OF_SUCCESS` with a pointer
that may be null. -/
inductive DequeueResult (μ : Type*) where
  | failure
  | success (pMsg : Option μ)

/-- `of_MsgDequeue`.  The second branch is taken only when the write index lies
beyond the ring; its early return keeps the lock. -/
def ofMsgDequeue (queue : OfMsgQueue μ) (tryLockLess : Bool) : OfMsgQueue μ × DequeueResult μ :=
  if queue.ulWriteIndx < ofMaxMsgsInRing ∧ queue.ulWriteIndx = queue.ulReadIndx then
    (queue, .failure)
  else if queue.ulWriteIndx < ofMaxMsgsInRing then
    let locked : OfMsgQueue μ := if tryLockLess then queue else queue.lockTake
    let read := (locked.ulReadIndx + 1).tmod ofMaxMsgsInRing
    let taken : OfMsgQueue μ :=
      { locked with
        ulReadIndx := read
        pMsgData := Function.update locked.pMsgData read.toNat none }
    (if tryLockLess then taken else taken.lockRelease, .success (locked.pMsgData read.toNat))
  else
    let locked := queue.lockTake
    match locked.uiMsgListCnt, locked.msgList with
    | 0, _ => (locked, .failure)
    -- a positive count with an empty list would be a null head
    | _ + 1, [] => (locked, .failure)
    | _ + 1, entry :: rest =>
      let taken : OfMsgQueue μ :=
        { locked with
          msgList := rest
          uiMsgListCnt := uint32Pred locked.uiMsgListCnt }
      (taken.lockRelease, .success (some entry.pMsgData))

/-! ## Histories of a queue box -/

/-- The calls on a queue box of `numQueues` queues. -/
inductive MsgQOp (numQueues : Nat) (μ : Type*) where
  | enqueue (uiQIndex : Fin numQueues) (pMsg : μ) (tryLockLess : Bool)
      (block : Option Bool)
  | dequeue (uiQIndex : Fin numQueues) (tryLockLess : Bool)

/-- The queues of a box, each with the messages whose enqueue reported success
and the messages its dequeues handed out. -/
structure OfMsgQBox (numQueues : Nat) (μ : Type*) where
  msgQueue : Fin numQueues → OfMsgQueue μ
  ledger : Fin numQueues → FifoLedger μ

/-- A box as `of_MsgQBoxCreate` leaves it. -/
def ofMsgQBoxCreate (numQueues : Nat) : OfMsgQBox numQueues μ where
  msgQueue := fun _ => OfMsgQueue.create
  ledger := fun _ => FifoLedger.empty

/-- One call on the box. -/
def msgQStep {numQueues : Nat} (box : OfMsgQBox numQueues μ) :
    MsgQOp numQueues μ → OfMsgQBox numQueues μ
  | .enqueue index pMsg tryLockLess block =>
    let result := ofMsgEnqueue (box.msgQueue index) pMsg tryLockLess block
    { msgQueue := Function.update box.msgQueue index result.1
      ledger :=
        if result.2 then
          Function.update box.ledger index ((box.ledger index).accept pMsg)
        else
          box.ledger }
  | .dequeue index tryLockLess =>
    let result := ofMsgDequeue (box.msgQueue index) tryLockLess
    { msgQueue := Function.update box.msgQueue index result.1
      ledger :=
        match result.2 with
        | .success (some pMsg) =>
          Function.update box.ledger index ((box.ledger index).deliver pMsg)
        | _ => box.ledger }

/-! ## What the ring holds

Between the read index (exclusive) and the write index (inclusive) stand the
messages outstanding.  Before the first dequeue the read index is -1 and all 64
places can fill up; from then on one place stays empty. -/

/-- The ring place of the message number `offset` after the read index. -/
def ringPlace (readIndx : Int) (offset : Nat) : Nat :=
  ((readIndx + 1 + offset) % 64).toNat

structure RingHolds (queue : OfMsgQueue μ) (outstanding : List μ) : Prop where
  read_range : -1 ≤ queue.ulReadIndx ∧ queue.ulReadIndx < 64
  unread : queue.ulReadIndx = -1 →
    queue.ulWriteIndx = outstanding.length - 1 ∧ outstanding.length ≤ 64
  started : 0 ≤ queue.ulReadIndx →
    queue.ulWriteIndx = (queue.ulReadIndx + outstanding.length) % 64 ∧
      outstanding.length ≤ 63
  contents : ∀ offset message, outstanding[offset]? = some message →
    queue.pMsgData (ringPlace queue.ulReadIndx offset) = some message
  noOverflow : queue.msgList = [] ∧ queue.uiMsgListCnt = 0
  unlocked : queue.lock = 0

/-- A queue of 64 messages none of which was ever read: the next write overwrites
the oldest. -/
def UnreadFull (queue : OfMsgQueue μ) : Prop :=
  queue.ulReadIndx = -1 ∧ queue.ulWriteIndx = 63

/-- A ring with one empty place left, which the code keeps empty. -/
def RingFull (queue : OfMsgQueue μ) : Prop :=
  0 ≤ queue.ulReadIndx ∧ (queue.ulWriteIndx + 1) % 64 = queue.ulReadIndx

instance (queue : OfMsgQueue μ) : Decidable (UnreadFull queue) :=
  inferInstanceAs (Decidable (_ ∧ _))

instance (queue : OfMsgQueue μ) : Decidable (RingFull queue) :=
  inferInstanceAs (Decidable (_ ∧ _))

/-- The calls that keep the order of messages: no enqueue on a queue of 64 unread
messages, and no enqueue on a full ring for which the pool has a block. -/
def MsgQOp.Ordered {numQueues : Nat} (box : OfMsgQBox numQueues μ) : MsgQOp numQueues μ → Prop
  | .enqueue index _ _ block =>
    ¬ UnreadFull (box.msgQueue index) ∧
      (RingFull (box.msgQueue index) → block = none)
  | .dequeue _ _ => True

instance {numQueues : Nat} (box : OfMsgQBox numQueues μ) :
    (op : MsgQOp numQueues μ) → Decidable (op.Ordered box)
  | .enqueue _ _ _ _ => inferInstanceAs (Decidable (¬ _ ∧ (_ → _)))
  | .dequeue _ _ => inferInstanceAs (Decidable True)

theorem ringPlace_lt (readIndx : Int) (offset : Nat) : ringPlace readIndx offset < 64 := by
  unfold ringPlace
  omega

theorem ringPlace_injective {readIndx : Int} {offset other : Nat}
    (offsetBound : offset < 64) (otherBound : other < 64)
    (same : ringPlace readIndx offset = ringPlace readIndx other) : offset = other := by
  unfold ringPlace at same
  omega

namespace RingHolds

variable {queue : OfMsgQueue μ} {outstanding : List μ} {message : μ} {rest : List μ}

theorem create : RingHolds (OfMsgQueue.create : OfMsgQueue μ) [] where
  read_range := by simp [OfMsgQueue.create]
  unread := by simp [OfMsgQueue.create]
  started := by simp [OfMsgQueue.create]
  contents := by simp
  noOverflow := ⟨rfl, rfl⟩
  unlocked := rfl

section

variable (holds : RingHolds queue outstanding)

include holds

theorem length_le (notFull : ¬ UnreadFull queue) : outstanding.length ≤ 63 := by
  have range := holds.read_range
  by_contra long
  by_cases unread : queue.ulReadIndx = -1
  · have facts := holds.unread unread
    exact notFull ⟨unread, by omega⟩
  · have facts := holds.started (by omega)
    omega

theorem write_range : -1 ≤ queue.ulWriteIndx ∧ queue.ulWriteIndx < 64 := by
  have range := holds.read_range
  by_cases unread : queue.ulReadIndx = -1
  · have facts := holds.unread unread
    omega
  · have facts := holds.started (by omega)
    omega

theorem notFull_length (started : 0 ≤ queue.ulReadIndx) (notFull : ¬ RingFull queue) :
    outstanding.length ≤ 62 := by
  have range := holds.read_range
  have facts := holds.started started
  by_contra long
  apply notFull
  constructor
  · exact started
  · omega

theorem accepts (notUnread : ¬ UnreadFull queue) (notFull : ¬ RingFull queue) :
    ringAccepts queue = true ∧
      nextWriteIndex queue = ringPlace queue.ulReadIndx outstanding.length := by
  have readRange := holds.read_range
  have writeRange := holds.write_range
  have length := holds.length_le notUnread
  have nextEq : uint32OfInt32 (queue.ulWriteIndx + 1) = (queue.ulWriteIndx + 1).toNat :=
    uint32OfInt32_of_nonneg (by omega)
  rw [ringAccepts, nextWriteIndex, nextEq, ringPlace, ofMaxMsgsInRing]
  by_cases unread : queue.ulReadIndx = -1
  · have facts := holds.unread unread
    rw [unread, uint32OfInt32_neg_one]
    have inRing : ¬ ((queue.ulWriteIndx + 1).toNat ≥ 64 ∧
        2 ^ 32 - 1 > (queue.ulWriteIndx + 1).toNat % 64) := by omega
    simp only [if_neg inRing, Bool.and_eq_true, decide_eq_true_eq]
    omega
  have started : 0 ≤ queue.ulReadIndx := by omega
  have facts := holds.started started
  have room := holds.notFull_length started notFull
  rw [uint32OfInt32_of_nonneg started]
  simp only [Bool.and_eq_true, decide_eq_true_eq]
  split <;> omega

theorem refuses (full : RingFull queue) : ringAccepts queue = false := by
  have writeRange := holds.write_range
  have started := full.1
  have next := full.2
  have nextEq : uint32OfInt32 (queue.ulWriteIndx + 1) = (queue.ulWriteIndx + 1).toNat :=
    uint32OfInt32_of_nonneg (by omega)
  rw [ringAccepts, nextWriteIndex, nextEq, uint32OfInt32_of_nonneg started, ofMaxMsgsInRing]
  simp only [Bool.and_eq_false_iff, decide_eq_false_iff_not]
  split <;> omega

/-- A message written is behind the others. -/
theorem write (notUnread : ¬ UnreadFull queue) (notFull : ¬ RingFull queue) (message : μ) :
    RingHolds
      { queue with
        pMsgData := update queue.pMsgData
          (ringPlace queue.ulReadIndx outstanding.length) (some message)
        ulWriteIndx := ringPlace queue.ulReadIndx outstanding.length }
      (outstanding ++ [message]) where
  read_range := holds.read_range
  unread := by
    intro unread
    have length := holds.length_le notUnread
    simp only [length_append, length_singleton, ringPlace] at unread ⊢
    omega
  started := by
    intro started
    have room := holds.notFull_length started notFull
    simp only [length_append, length_singleton, ringPlace] at started ⊢
    omega
  contents := by
    intro offset other there
    have length := holds.length_le notUnread
    by_cases last : offset = outstanding.length
    · subst last
      have same : message = other := by simpa using there
      subst same
      simp
    have bound : offset < outstanding.length := by
      have inRange := (List.getElem?_eq_some_iff.mp there).1
      rw [length_append, length_singleton] at inRange
      omega
    rw [getElem?_append_left bound] at there
    have apart : ringPlace queue.ulReadIndx offset ≠
        ringPlace queue.ulReadIndx outstanding.length := by
      intro same
      exact last (ringPlace_injective (by omega) (by omega) same)
    dsimp only
    rw [Function.update_of_ne apart]
    exact holds.contents offset other there
  noOverflow := holds.noOverflow
  unlocked := holds.unlocked

theorem enqueue (notUnread : ¬ UnreadFull queue) {block : Option Bool}
    (noBlock : RingFull queue → block = none) (message : μ) (tryLockLess : Bool) :
    let result := ofMsgEnqueue queue message tryLockLess block
    RingHolds result.1 (if result.2 then outstanding ++ [message] else outstanding) := by
  intro result
  by_cases full : RingFull queue
  · have refused := holds.refuses full
    have resultEq : result = (queue, false) := by
      simp only [result, ofMsgEnqueue, refused, noBlock full]
      cases tryLockLess <;> simp [OfMsgQueue.lockTake, OfMsgQueue.lockRelease]
    rw [resultEq]
    exact holds
  obtain ⟨accepted, placeEq⟩ := holds.accepts notUnread full
  have resultEq : result =
      ({ queue with
          pMsgData := update queue.pMsgData
            (ringPlace queue.ulReadIndx outstanding.length) (some message)
          ulWriteIndx := ringPlace queue.ulReadIndx outstanding.length }, true) := by
    simp only [result, ofMsgEnqueue, accepted, placeEq]
    cases tryLockLess <;> simp [OfMsgQueue.lockTake, OfMsgQueue.lockRelease]
  rw [resultEq]
  exact holds.write notUnread full message

end

theorem dequeue_empty (holds : RingHolds queue ([] : List μ)) (tryLockLess : Bool) :
    ofMsgDequeue queue tryLockLess = (queue, .failure) := by
  have readRange := holds.read_range
  have meet : queue.ulWriteIndx = queue.ulReadIndx := by
    by_cases unread : queue.ulReadIndx = -1
    · have facts := holds.unread unread
      simp only [length_nil] at facts
      omega
    · have facts := holds.started (by omega)
      simp only [length_nil] at facts
      omega
  rw [ofMsgDequeue, if_pos ⟨by simp only [ofMaxMsgsInRing]; omega, meet⟩]

/-- A message read was the first. -/
theorem read (holds : RingHolds queue (message :: rest)) :
    RingHolds
      { queue with
        ulReadIndx := ringPlace queue.ulReadIndx 0
        pMsgData := update queue.pMsgData (ringPlace queue.ulReadIndx 0) none }
      rest where
  read_range := by
    have bound := ringPlace_lt queue.ulReadIndx 0
    dsimp only
    omega
  unread := by
    intro unread
    dsimp only at unread
    omega
  started := by
    intro _
    have range := holds.read_range
    by_cases unread : queue.ulReadIndx = -1
    · have facts := holds.unread unread
      simp only [length_cons, ringPlace] at facts ⊢
      omega
    · have facts := holds.started (by omega)
      simp only [length_cons, ringPlace] at facts ⊢
      omega
  contents := by
    intro offset other there
    have range := holds.read_range
    have bound := (List.getElem?_eq_some_iff.mp there).1
    have lengthLe : rest.length ≤ 63 := by
      by_cases unread : queue.ulReadIndx = -1
      · have facts := holds.unread unread
        simp only [length_cons] at facts
        omega
      · have facts := holds.started (by omega)
        simp only [length_cons] at facts
        omega
    have shifted : ringPlace (ringPlace queue.ulReadIndx 0) offset =
        ringPlace queue.ulReadIndx (offset + 1) := by
      unfold ringPlace
      omega
    have apart : ringPlace queue.ulReadIndx (offset + 1) ≠ ringPlace queue.ulReadIndx 0 := by
      intro same
      have equal := ringPlace_injective (by omega) (by omega) same
      omega
    dsimp only
    rw [shifted, Function.update_of_ne apart]
    exact holds.contents (offset + 1) other (by simpa using there)
  noOverflow := holds.noOverflow
  unlocked := holds.unlocked

/-- A dequeue gives the first message. -/
theorem dequeue (holds : RingHolds queue (message :: rest)) (tryLockLess : Bool) :
    (ofMsgDequeue queue tryLockLess).2 = .success (some message) ∧
      RingHolds (ofMsgDequeue queue tryLockLess).1 rest := by
  have readRange := holds.read_range
  have writeRange := holds.write_range
  have apart : queue.ulWriteIndx ≠ queue.ulReadIndx := by
    by_cases unread : queue.ulReadIndx = -1
    · have facts := holds.unread unread
      simp only [length_cons] at facts
      omega
    · have facts := holds.started (by omega)
      simp only [length_cons] at facts
      omega
  have indexEq : (queue.ulReadIndx + 1).tmod 64 = ringPlace queue.ulReadIndx 0 := by
    rw [Int.tmod_eq_emod_of_nonneg (by omega), ringPlace]
    omega
  have first := holds.contents 0 message rfl
  have resultEq : ofMsgDequeue queue tryLockLess =
      ({ queue with
          ulReadIndx := ringPlace queue.ulReadIndx 0
          pMsgData := update queue.pMsgData (ringPlace queue.ulReadIndx 0) none },
        .success (some message)) := by
    have inRing : queue.ulWriteIndx < (ofMaxMsgsInRing : Int) := by
      simp only [ofMaxMsgsInRing]
      omega
    rw [ofMsgDequeue, if_neg (fun both => apart both.2), if_pos inRing]
    cases tryLockLess <;>
      simp [OfMsgQueue.lockTake, OfMsgQueue.lockRelease, ofMaxMsgsInRing, indexEq, first]
  rw [resultEq]
  exact ⟨rfl, holds.read⟩

end RingHolds

/-! ## The box serves every queue in order -/

/-- The service of one queue: the messages handed out are a prefix of those
accepted, the next dequeue hands out the first message not yet handed out and
reports an empty queue exactly when there is none, and no lock is held. -/
structure QueueServes (queue : OfMsgQueue μ) (ledger : FifoLedger μ) : Prop where
  inOrder : ledger.delivered <+: ledger.accepted
  next : ∀ tryLockLess, (ofMsgDequeue queue tryLockLess).2 =
    match ledger.accepted.drop ledger.delivered.length with
    | [] => .failure
    | message :: _ => .success (some message)
  unlocked : queue.lock = 0

/-- The ring of every queue holds what the queue still owes. -/
def BoxOrdered {numQueues : Nat} (box : OfMsgQBox numQueues μ) : Prop :=
  ∀ index, ∃ outstanding, RingHolds (box.msgQueue index) outstanding ∧
    (box.ledger index).Owes outstanding

namespace BoxOrdered

variable {numQueues : Nat} {box : OfMsgQBox numQueues μ}

theorem create : BoxOrdered (ofMsgQBoxCreate numQueues : OfMsgQBox numQueues μ) :=
  fun _ => ⟨[], RingHolds.create, FifoLedger.Owes.empty⟩

section

variable (ordered : BoxOrdered box)

include ordered

attribute [local simp] msgQStep

theorem enqueue {index : Fin numQueues} {block : Option Bool}
    (notUnread : ¬ UnreadFull (box.msgQueue index))
    (noBlock : RingFull (box.msgQueue index) → block = none) (pMsg : μ) (tryLockLess : Bool) :
    BoxOrdered (msgQStep box (.enqueue index pMsg tryLockLess block)) := by
  intro other
  obtain ⟨outstanding, holds, owes⟩ := ordered other
  by_cases same : other = index
  · subst same
    have step := holds.enqueue notUnread noBlock pMsg tryLockLess
    refine ⟨_, by simpa using step, ?_⟩
    cases result : (ofMsgEnqueue (box.msgQueue other) pMsg tryLockLess block).2 with
    | true => simpa [result] using owes.accept pMsg
    | false => simpa [result] using owes
  · refine ⟨outstanding, by simpa [same] using holds, ?_⟩
    cases result : (ofMsgEnqueue (box.msgQueue index) pMsg tryLockLess block).2 with
    | true => simpa [result, same] using owes
    | false => simpa [result] using owes

variable (index : Fin numQueues)

theorem dequeue (tryLockLess : Bool) : BoxOrdered (msgQStep box (.dequeue index tryLockLess)) := by
  intro other
  obtain ⟨outstanding, holds, owes⟩ := ordered other
  by_cases same : other = index
  · subst same
    cases outstanding with
    | nil =>
      have emptied := holds.dequeue_empty tryLockLess
      exact ⟨[], by simpa [emptied] using holds, by simpa [emptied] using owes⟩
    | cons message rest =>
    obtain ⟨handedOut, holds'⟩ := holds.dequeue tryLockLess
    exact ⟨rest, by simpa using holds', by simpa [handedOut] using owes.deliver⟩
  · refine ⟨outstanding, by simpa [same] using holds, ?_⟩
    cases result : (ofMsgDequeue (box.msgQueue index) tryLockLess).2 with
    | failure => simpa [result] using owes
    | success pMsg =>
    cases pMsg with
    | none => simpa [result] using owes
    | some message => simpa [result, same] using owes

theorem step {op : MsgQOp numQueues μ} (allowed : op.Ordered box) :
    BoxOrdered (msgQStep box op) := by
  cases op with
  | enqueue index pMsg tryLockLess block =>
    exact ordered.enqueue allowed.1 allowed.2 pMsg tryLockLess
  | dequeue index tryLockLess => exact ordered.dequeue index tryLockLess

theorem serves : QueueServes (box.msgQueue index) (box.ledger index) := by
  obtain ⟨outstanding, holds, owes⟩ := ordered index
  have rest : (box.ledger index).accepted.drop (box.ledger index).delivered.length =
      outstanding := by
    rw [owes]
    exact drop_left
  refine ⟨⟨outstanding, owes.symm⟩, ?_, holds.unlocked⟩
  intro tryLockLess
  rw [rest]
  cases outstanding with
  | nil => rw [holds.dequeue_empty tryLockLess]
  | cons message rest => exact (holds.dequeue tryLockLess).1

end

end BoxOrdered

/-- Every queue of a box is served in order throughout every sequence of calls
none of which enqueues on 64 unread messages or gets a pool block for a full
ring. -/
theorem msgQBox_serves {numQueues : Nat} (ops : List (MsgQOp numQueues μ))
    (ordered : Along msgQStep (fun box op => op.Ordered box) (ofMsgQBoxCreate numQueues) ops)
    (index : Fin numQueues) :
    QueueServes ((ops.foldl msgQStep (ofMsgQBoxCreate numQueues)).msgQueue index)
      ((ops.foldl msgQStep (ofMsgQBoxCreate numQueues)).ledger index) :=
  (ordered.invariant (fun _ _ invariant allowed => invariant.step allowed)
    BoxOrdered.create).serves index

theorem msgQBox_serves_two :
    let ops : List (MsgQOp 1 Nat) :=
      [.enqueue 0 7 true none, .dequeue 0 true, .enqueue 0 8 false (some true)]
    QueueServes ((ops.foldl msgQStep (ofMsgQBoxCreate 1)).msgQueue 0)
      ((ops.foldl msgQStep (ofMsgQBoxCreate 1)).ledger 0) :=
  msgQBox_serves _ (by decide) 0

/-- Sixty-five enqueues before the first dequeue: the last one reports success and
takes the place of the first message, which is never handed out. -/
theorem unread_queue_overwritten :
    let ops : List (MsgQOp 1 Nat) :=
      (range 65).map (fun pMsg => .enqueue 0 pMsg true none) ++ [.dequeue 0 true]
    let reached := ops.foldl msgQStep (ofMsgQBoxCreate 1)
    (reached.ledger 0).accepted = range 65 ∧ (reached.ledger 0).delivered = [64] ∧
      ¬ QueueServes (reached.msgQueue 0) (reached.ledger 0) := by
  intro ops reached
  have accepted : (reached.ledger 0).accepted = range 65 := by decide +kernel
  have delivered : (reached.ledger 0).delivered = [64] := by decide +kernel
  refine ⟨accepted, delivered, ?_⟩
  intro serves
  have inOrder := serves.inOrder
  rw [accepted, delivered] at inOrder
  exact absurd inOrder (by decide)

end OpenFlowController.Utils
