/-
Module: Messages.ReaderSpec
Purpose: What one read, one drain and one allocation do, by whether the socket holds
  the bytes they ask for.
Trusted boundary: none
-/
import OpenFlowController.Messages.MsgReader

namespace OpenFlowController.Messages

open Include List Library Transport

theorem ntohsLength_lt (header : List UInt8) : ntohsLength header < 2 ^ 16 := by
  have high := (header.getD 2 0).toNat_lt
  have low := (header.getD 3 0).toNat_lt
  unfold ntohsLength
  omega

variable (host : ByteOrder)

theorem rawLength_lt (header : List UInt8) : rawLength host header < 2 ^ 16 := by
  have high := (header.getD 3 0).toNat_lt
  have low := (header.getD 2 0).toNat_lt
  cases host with
  | littleEndian =>
    unfold rawLength
    dsimp only
    omega
  | bigEndian => exact ntohsLength_lt header

/-- A read of `len` bytes finds nothing. -/
def Starved (c : RecvChannel) (len : Nat) : Prop :=
  len ≠ 0 ∧ (c.inbox = [] ∨ c.fsmState = .closeConn)

instance (c : RecvChannel) (len : Nat) : Decidable (Starved c len) :=
  inferInstanceAs (Decidable (_ ∧ _))

/-- The channel after a read that found something, or asked for nothing. -/
@[simps]
def RecvChannel.consume (c : RecvChannel) (room len : Nat) : RecvChannel :=
  { c.access (.request room len) with
    inbox := c.inbox.drop len
    undefined := c.undefined || decide (room < (c.inbox.take len).length) }

section Reads

variable {c : RecvChannel} {len : Nat}

theorem transportRead_starved {room : Nat} (starved : Starved c len) (peek : Bool) :
    transportRead c room len peek = (none, c.access (.request room len)) := by
  unfold transportRead
  rw [if_neg starved.1]
  exact if_pos starved.2

/-- A read that is served takes its bytes from the front. -/
theorem transportRead_served {room : Nat} (served : ¬ Starved c len) :
    transportRead c room len false =
      (some (c.inbox.take len), c.consume room len) := by
  unfold transportRead RecvChannel.consume
  by_cases zero : len = 0
  · subst zero
    simp [RecvChannel.access]
  · have full : ¬ (c.inbox = [] ∨ c.fsmState = .closeConn) := fun empty =>
      served ⟨zero, empty⟩
    simp [zero, full, RecvChannel.access]

variable (host : ByteOrder) (e : ReadEvent) (room : Nat)

theorem cntlrRead_served (served : ¬ Starved c len) :
    cntlrReadMsgRecvdFromDp host e c room len =
      (some (c.inbox.take len), c.consume room len) := by
  unfold cntlrReadMsgRecvdFromDp
  rw [transportRead_served served]

theorem readAfterFailure_served (served : ¬ Starved c len) :
    readAfterFailure host e c room len =
      (some (c.inbox.take len), c.consume room len) := by
  unfold readAfterFailure
  rw [transportRead_served served]

theorem readAfterFailure_starved (starved : Starved c len) :
    (readAfterFailure host e c room len).1 = none := by
  unfold readAfterFailure
  rw [transportRead_starved starved]
  dsimp only
  split <;> rfl

/-- A starved read gives nothing. -/
theorem cntlrRead_starved (starved : Starved c len) :
    (cntlrReadMsgRecvdFromDp host e c room len).1 = none := by
  unfold cntlrReadMsgRecvdFromDp
  rw [transportRead_starved starved]
  dsimp only
  split
  · rfl
  · split
    · rfl
    · split <;> rfl

end Reads

/-! ## What reading and draining leave alone -/

/-- The later channel differs from the first in its socket, its message state, its
drain counter and its log only, unless it was closed. -/
structure ReadFrame (c later : RecvChannel) : Prop where
  msgHdr : later.msgHdr = c.msgHdr
  hdrLenRead : later.hdrLenRead = c.hdrLenRead
  msgLenRead : later.msgLenRead = c.msgLenRead
  msgBuf : later.msgBuf = c.msgBuf
  sentHello : later.sentHello = c.sentHello
  handed : later.handed = c.handed
  fsmState : later.fsmState = c.fsmState ∨ later.fsmState = .closeConn

namespace ReadFrame

variable {c later last : RecvChannel}

theorem refl (c : RecvChannel) : ReadFrame c c :=
  ⟨rfl, rfl, rfl, rfl, rfl, rfl, .inl rfl⟩

theorem trans (first : ReadFrame c later) (second : ReadFrame later last) : ReadFrame c last where
  msgHdr := second.msgHdr.trans first.msgHdr
  hdrLenRead := second.hdrLenRead.trans first.hdrLenRead
  msgLenRead := second.msgLenRead.trans first.msgLenRead
  msgBuf := second.msgBuf.trans first.msgBuf
  sentHello := second.sentHello.trans first.sentHello
  handed := second.handed.trans first.handed
  fsmState := by
    rcases second.fsmState with same | closed
    · rw [same]
      exact first.fsmState
    · exact .inr closed

end ReadFrame

section Frames

variable (host : ByteOrder) (e : ReadEvent) (c : RecvChannel) (room len : Nat)

theorem transportRead_frame (peek : Bool) : ReadFrame c (transportRead c room len peek).2 := by
  unfold transportRead
  dsimp only
  split
  · exact ⟨rfl, rfl, rfl, rfl, rfl, rfl, .inl rfl⟩
  · split <;> exact ⟨rfl, rfl, rfl, rfl, rfl, rfl, .inl rfl⟩

/-- What is done after a failure touches no header. -/
theorem readAfterFailure_frame : ReadFrame c (readAfterFailure host e c room len).2 := by
  unfold readAfterFailure
  have read := transportRead_frame c room len false
  generalize transportRead c room len false = answer at read
  rcases answer with ⟨none | got, later⟩
  · dsimp only
    split
    · exact read.trans ⟨rfl, rfl, rfl, rfl, rfl, rfl, .inr rfl⟩
    · exact read.trans ⟨rfl, rfl, rfl, rfl, rfl, rfl, .inl rfl⟩
  · exact read

/-- A drain touches what its reads touch. -/
theorem drainLoop_frame {read : RecvChannel → Nat → Option (List UInt8) × RecvChannel}
    (frame : ∀ c len, ReadFrame c (read c len).2) (fuel bytesToRead : Nat) :
    ReadFrame c (drainLoop read fuel c bytesToRead).2 := by
  induction fuel generalizing c bytesToRead with
  | zero => exact ReadFrame.refl c
  | succ fuel ih =>
  unfold drainLoop
  split
  · exact ReadFrame.refl c
  have first := frame c (min bytesToRead 256)
  generalize read c (min bytesToRead 256) = answer at first
  rcases answer with ⟨none | got, later⟩
  · exact first.trans ⟨rfl, rfl, rfl, rfl, rfl, rfl, .inl rfl⟩
  apply first.trans
  refine ReadFrame.trans ?_ (ih _ _)
  split
  · exact ⟨rfl, rfl, rfl, rfl, rfl, rfl, .inl rfl⟩
  · exact ReadFrame.refl later

theorem readError_frame : ReadFrame c (fsmXprtProtoChannelReadError host e c) := by
  unfold fsmXprtProtoChannelReadError
  split
  · exact drainLoop_frame c (fun c len => readAfterFailure_frame host e c 256 len) _ _
  · exact ReadFrame.refl c

/-- A read touches no header. -/
theorem cntlrRead_frame : ReadFrame c (cntlrReadMsgRecvdFromDp host e c room len).2 := by
  unfold cntlrReadMsgRecvdFromDp
  have read := transportRead_frame c room len false
  generalize transportRead c room len false = answer at read
  rcases answer with ⟨none | got, later⟩
  · apply read.trans
    dsimp only
    split
    · exact ⟨rfl, rfl, rfl, rfl, rfl, rfl, .inr rfl⟩
    split
    · exact ⟨rfl, rfl, rfl, rfl, rfl, rfl, .inl rfl⟩
    split
    · exact ⟨rfl, rfl, rfl, rfl, rfl, rfl, .inl rfl⟩
    have marked : ReadFrame later
        (setDrainOutBytes host { later with msgState := .drainOutCompleteMsg, readFail := true }) :=
      ⟨rfl, rfl, rfl, rfl, rfl, rfl, .inl rfl⟩
    exact marked.trans (readError_frame host e _)
  · exact read

theorem drain_frame (length : Nat) : ReadFrame c (ofDrainOutSocketBuf host e c length).2 :=
  drainLoop_frame c (fun c len => cntlrRead_frame host e c 256 len) _ _

theorem drainUnbuffered_frame : ReadFrame c (drainUnbuffered host e c) := by
  refine ReadFrame.trans ?_ (drain_frame host e _ _)
  exact ⟨rfl, rfl, rfl, rfl, rfl, rfl, .inl rfl⟩

end Frames

/-! ## The message state after a read or a drain -/

section States

variable (host : ByteOrder) (e : ReadEvent) (c : RecvChannel)

/-- A drain ends in the state it began in, or waits for the next message. -/
theorem drainLoop_state {read : RecvChannel → Nat → Option (List UInt8) × RecvChannel}
    (kept : ∀ c len got, (read c len).1 = some got → (read c len).2.msgState = c.msgState)
    (fuel bytesToRead : Nat) :
    (drainLoop read fuel c bytesToRead).2.msgState = c.msgState ∨
      (drainLoop read fuel c bytesToRead).2.msgState = .waitingForNewMsg := by
  induction fuel generalizing c bytesToRead with
  | zero => exact .inl rfl
  | succ fuel ih =>
  unfold drainLoop
  split
  · exact .inl rfl
  have first := kept c (min bytesToRead 256)
  generalize read c (min bytesToRead 256) = answer at first
  rcases answer with ⟨none | got, later⟩
  · exact .inr rfl
  dsimp only
  split
  · rcases ih { later with msgState := .waitingForNewMsg, drainOutBytes := 0 }
      (bytesToRead - got.length) with same | new
    · exact .inr same
    · exact .inr new
  · rcases ih later (bytesToRead - got.length) with same | new
    · exact .inl (same.trans (first got rfl))
    · exact .inr new

theorem transportRead_msgState (room len : Nat) (peek : Bool) :
    (transportRead c room len peek).2.msgState = c.msgState := by
  unfold transportRead
  dsimp only
  split
  · rfl
  · split <;> rfl

theorem cntlrRead_msgState_some {room len : Nat} {got : List UInt8}
    (read : (cntlrReadMsgRecvdFromDp host e c room len).1 = some got) :
    (cntlrReadMsgRecvdFromDp host e c room len).2.msgState = c.msgState := by
  by_cases starved : Starved c len
  · rw [cntlrRead_starved host e room starved] at read
    cases read
  · rw [cntlrRead_served host e room starved]
    rfl

/-- A failed drain goes on, or waits for the next message. -/
theorem readError_msgState (draining : c.msgState = .drainOutCompleteMsg) :
    (fsmXprtProtoChannelReadError host e c).msgState = .drainOutCompleteMsg ∨
      (fsmXprtProtoChannelReadError host e c).msgState = .waitingForNewMsg := by
  unfold fsmXprtProtoChannelReadError
  rw [if_pos draining, ← draining]
  apply drainLoop_state
  intro c len got read
  by_cases starved : Starved c len
  · rw [readAfterFailure_starved host e 256 starved] at read
    cases read
  · rw [readAfterFailure_served host e 256 starved]
    rfl

/-- A failed read drains, or waits for the next message. -/
theorem cntlrRead_msgState_none {room len : Nat}
    (read : (cntlrReadMsgRecvdFromDp host e c room len).1 = none) :
    (cntlrReadMsgRecvdFromDp host e c room len).2.msgState = .drainOutCompleteMsg ∨
      (cntlrReadMsgRecvdFromDp host e c room len).2.msgState = .waitingForNewMsg := by
  by_cases starved : Starved c len
  · unfold cntlrReadMsgRecvdFromDp
    rw [transportRead_starved starved]
    dsimp only
    split
    · exact .inl rfl
    split
    · exact .inl rfl
    · split
      · exact .inl rfl
      · exact readError_msgState host e _ rfl
  · rw [cntlrRead_served host e room starved] at read
    cases read

theorem drain_msgState (length : Nat) :
    (ofDrainOutSocketBuf host e c length).2.msgState = c.msgState ∨
      (ofDrainOutSocketBuf host e c length).2.msgState = .waitingForNewMsg :=
  drainLoop_state c (fun c _ _ read => cntlrRead_msgState_some host e c read) _ _

end States

/-! ## The pools -/

/-- The index of a size is in its group of pools. -/
theorem msgPoolIndex_group {size : Nat} (nonempty : size ≠ 0) :
    (7040 ≤ size ∧ 21 ≤ msgPoolIndex size ∧
        size ≤ 7040 + (msgPoolIndex size - 21) * 2048) ∨
      (1408 ≤ size ∧ size < 7040 ∧ 10 ≤ msgPoolIndex size ∧ msgPoolIndex size < 22 ∧
        size ≤ 1408 + (msgPoolIndex size - 10) * 512) ∨
      (size < 1408 ∧ msgPoolIndex size < 11 ∧ size ≤ (msgPoolIndex size + 1) * 128) := by
  unfold msgPoolIndex msgPoolIndexIn
  dsimp only
  by_cases third : 7040 ≤ size
  · have numbered : (size - 7040) / 2048 + 22 ≠ 0 := by omega
    rw [if_pos third, if_neg numbered]
    apply Or.inl
    split_ifs <;> omega
  rw [if_neg third]
  apply Or.inr
  by_cases second : 1408 ≤ size
  · have numbered : (size - 1408) / 512 + 11 ≠ 0 := by omega
    rw [if_pos second, if_neg numbered]
    apply Or.inl
    split_ifs <;> omega
  · rw [if_neg second]
    apply Or.inr
    split_ifs <;> omega

/-- The block size of each pool. -/
theorem msgPoolBlockSize_eq {poolIndex room : Nat}
    (block : msgPoolBlockSize poolIndex = some room) :
    poolIndex < 33 ∧
      (poolIndex < 11 → room = (poolIndex + 1) * 128) ∧
      (10 ≤ poolIndex → poolIndex < 22 → room = 1408 + (poolIndex - 10) * 512) ∧
      (21 ≤ poolIndex → room = 7040 + (poolIndex - 21) * 2048) := by
  unfold msgPoolBlockSize at block
  split at block
  · cases block
    omega
  split at block
  · cases block
    omega
  · split at block
    · cases block
      omega
    · cases block

/-- A message that is allocated has room for its size. -/
theorem ofuAllocMessage_room {e : ReadEvent} {size room : Nat} (small : size < 2 ^ 16)
    (block : ofuAllocMessage e size = some room) : size ≤ room := by
  unfold ofuAllocMessage at block
  split at block
  · have rounded : uint16OfUint32 ((size + 7) / 8 * 8) = 0 ∨
        size ≤ uint16OfUint32 ((size + 7) / 8 * 8) := by
      unfold uint16OfUint32
      omega
    generalize uint16OfUint32 ((size + 7) / 8 * 8) = whole at block rounded
    have sizes := msgPoolBlockSize_eq block
    by_cases empty : whole = 0
    · subst empty
      exact absurd sizes.1 (by decide)
    · rcases msgPoolIndex_group empty with ⟨_, _, _⟩ | ⟨_, _, _, _, _⟩ | ⟨_, _, _⟩ <;> omega
  · cases block

/-! ## The first read of a message body

`body` is the number of body bytes, by the length field. -/

/-- The body was there: the message is complete in its buffer. -/
structure Completed (c later : RecvChannel) (room body : Nat) : Prop where
  msgState : later.msgState = .rcvdCompleteMsg
  inbox : later.inbox = c.inbox.drop body
  msgBuf : later.msgBuf = some
    { room := room
      data := c.msgHdr ++ c.inbox.take body
      ptr1 := sizeofOfpHeader
      length1 := sizeofOfpHeader
      dataLen := sizeofOfpHeader + body }
  undefined : later.undefined =
    (c.undefined || decide (room < sizeofOfpHeader + body))
  fsmState : later.fsmState = c.fsmState
  msgHdr : later.msgHdr = c.msgHdr
  msgLenRead : later.msgLenRead = c.msgLenRead
  hdrLenRead : later.hdrLenRead = c.hdrLenRead
  handed : later.handed = c.handed

/-- A part of the body was there. -/
structure PartlyRead (c later : RecvChannel) (room ptr1 msgLenRead : Nat) : Prop where
  msgState : later.msgState = .waitingForCompleteMsg
  inbox : later.inbox = []
  msgBuf : later.msgBuf = some
    { room := room
      data := c.msgHdr ++ c.inbox
      ptr1 := ptr1
      length1 := sizeofOfpHeader + c.inbox.length
      dataLen := sizeofOfpHeader }
  undefined : later.undefined =
    (c.undefined || decide (room < sizeofOfpHeader + c.inbox.length))
  fsmState : later.fsmState = c.fsmState
  msgHdr : later.msgHdr = c.msgHdr
  msgLenRead : later.msgLenRead = msgLenRead
  hdrLenRead : later.hdrLenRead = c.hdrLenRead
  handed : later.handed = c.handed

theorem writeAt_length {memory : List UInt8} {offset : Nat} (behind : memory.length = offset)
    (bytes : List UInt8) : writeAt memory offset bytes = memory ++ bytes := by
  subst behind
  unfold writeAt
  rw [takeD_eq_take 0 (Nat.le_refl _), take_length, drop_of_length_le (by omega), append_nil]

theorem fill_ofHeader {header : List UInt8} (whole : header.length = 8) (room : Nat)
    (bytes : List UInt8) :
    (MsgBuf.ofHeader room header).fill bytes =
      { MsgBuf.ofHeader room header with data := header ++ bytes } := by
  unfold MsgBuf.fill MsgBuf.ofHeader
  rw [writeAt_length (show header.length = sizeofOfpHeader from whole)]

section FirstRead

variable {host : ByteOrder} {e : ReadEvent} {c : RecvChannel} {room body : Nat}

theorem not_starved (live : c.fsmState ≠ .closeConn) {len : Nat}
    (there : len = 0 ∨ c.inbox ≠ []) : ¬ Starved c len := by
  intro starved
  rcases there with nothing | full
  · exact starved.1 nothing
  · rcases starved.2 with empty | closed
    · exact full empty
    · exact live closed

theorem accessPacketInLength_frame (c : RecvChannel) :
    ∃ log, accessPacketInLength c = { c with accesses := log } := by
  unfold accessPacketInLength
  split
  · exact ⟨_, rfl⟩
  · exact ⟨c.accesses, rfl⟩

theorem fits_body {room : Nat} (length : ntohsLength c.msgHdr = sizeofOfpHeader + body)
    (buffer : ofuAllocMessage e (ntohsLength c.msgHdr) = some room) {taken : Nat}
    (some_ : taken ≤ body) (before : Bool) :
    (before || decide (room - sizeofOfpHeader < taken)) =
      (before || decide (room < sizeofOfpHeader + taken)) := by
  have room_ := ofuAllocMessage_room (ntohsLength_lt _) buffer
  have first : ¬ room - sizeofOfpHeader < taken := by omega
  have second : ¬ room < sizeofOfpHeader + taken := by omega
  rw [decide_eq_false first, decide_eq_false second]

/-- A body that has arrived whole is read whole. -/
theorem messageRead_completed (starting : c.msgState = .startReadingMsg)
    (live : c.fsmState ≠ .closeConn) (whole : c.msgHdr.length = 8)
    (length : ntohsLength c.msgHdr = sizeofOfpHeader + body)
    (buffer : ofuAllocMessage e (ntohsLength c.msgHdr) = some room)
    (there : body ≤ c.inbox.length) :
    (ofAllocAndReadMessageFromDp host e c).1 = true ∧
      Completed c (ofAllocAndReadMessageFromDp host e c).2 room body := by
  have rest : uint16Sub (ntohsLength c.msgHdr) sizeofOfpHeader = body := by
    rw [length, uint16Sub_of_le (Nat.le_add_right _ _), Nat.add_sub_cancel_left]
  have fits := fits_body length buffer (Nat.le_refl body)
  unfold ofAllocAndReadMessageFromDp
  rw [if_pos starting]
  dsimp only
  rw [buffer]
  dsimp only
  rw [rest]
  by_cases nothing : body = 0
  · rw [if_pos nothing]
    subst nothing
    constructor
    · rfl
    constructor
    case undefined =>
      rw [← fits]
      simp
    case msgBuf => simp [MsgBuf.ofHeader]
    all_goals rfl
  · rw [if_neg nothing]
    have full : c.inbox ≠ [] := by
      intro empty
      rw [empty] at there
      exact nothing (Nat.le_zero.mp there)
    have taken : (c.inbox.take body).length = body := by
      rw [length_take]
      omega
    rw [cntlrRead_served host e _ (not_starved (by exact live) (.inr (by exact full)))]
    dsimp only
    rw [RecvChannel.access_inbox, taken, if_pos rfl]
    constructor
    · rfl
    constructor
    case undefined =>
      simp only [RecvChannel.consume_undefined, taken]
      exact fits _
    case msgBuf => rw [fill_ofHeader whole]; rfl
    all_goals rfl

/-- A body that has arrived in part is read up to there. -/
theorem messageRead_partly (starting : c.msgState = .startReadingMsg)
    (live : c.fsmState ≠ .closeConn) (whole : c.msgHdr.length = 8)
    (length : ntohsLength c.msgHdr = sizeofOfpHeader + body)
    (buffer : ofuAllocMessage e (ntohsLength c.msgHdr) = some room) (some_ : c.inbox ≠ [])
    (short : c.inbox.length < body) :
    (ofAllocAndReadMessageFromDp host e c).1 = true ∧
      PartlyRead c (ofAllocAndReadMessageFromDp host e c).2 room
        (sizeofOfpHeader + c.inbox.length) c.msgLenRead := by
  have rest : uint16Sub (ntohsLength c.msgHdr) sizeofOfpHeader = body := by
    rw [length, uint16Sub_of_le (Nat.le_add_right _ _), Nat.add_sub_cancel_left]
  have taken : c.inbox.take body = c.inbox := take_of_length_le (by omega)
  have fits := fits_body length buffer (Nat.le_of_lt short)
  unfold ofAllocAndReadMessageFromDp
  rw [if_pos starting]
  dsimp only
  rw [buffer]
  dsimp only
  rw [rest, if_neg (by omega),
    cntlrRead_served host e _ (not_starved (by exact live) (.inr (by exact some_)))]
  dsimp only
  rw [RecvChannel.access_inbox, taken, if_neg (by omega)]
  constructor
  · rfl
  constructor
  case undefined =>
    simp only [RecvChannel.consume_undefined, taken]
    exact fits _
  case msgBuf => rw [fill_ofHeader whole]; rfl
  case inbox => exact drop_of_length_le (by simp only; omega)
  all_goals rfl

/-- A body of which nothing has arrived is waited for. -/
theorem messageRead_starved (starting : c.msgState = .startReadingMsg)
    (length : ntohsLength c.msgHdr = sizeofOfpHeader + body) (longer : body ≠ 0)
    (buffer : ofuAllocMessage e (ntohsLength c.msgHdr) = some room)
    (empty : c.inbox = [] ∨ c.fsmState = .closeConn) :
    (ofAllocAndReadMessageFromDp host e c).1 = false ∧
      (ofAllocAndReadMessageFromDp host e c).2.msgBuf = none ∧
      ((ofAllocAndReadMessageFromDp host e c).2.msgState = .drainOutCompleteMsg ∨
        (ofAllocAndReadMessageFromDp host e c).2.msgState = .waitingForNewMsg) := by
  have rest : uint16Sub (ntohsLength c.msgHdr) sizeofOfpHeader = body := by
    rw [length, uint16Sub_of_le (Nat.le_add_right _ _), Nat.add_sub_cancel_left]
  unfold ofAllocAndReadMessageFromDp
  rw [if_pos starting]
  dsimp only
  rw [buffer]
  dsimp only
  rw [rest, if_neg longer]
  split
  · rename_i equation
    have failed := cntlrRead_msgState_none host e _ (congrArg Prod.fst equation)
    rw [equation] at failed
    exact ⟨rfl, rfl, failed⟩
  rename_i equation
  have failed := @cntlrRead_starved
    { RecvChannel.access c (Access.subtract (ntohsLength c.msgHdr) sizeofOfpHeader) with
      msgBuf := some (MsgBuf.ofHeader room c.msgHdr) }
    body host e (room - sizeofOfpHeader) ⟨longer, empty⟩
  rw [equation] at failed
  cases failed

end FirstRead

/-! ## The macros around the readers -/

section Macros

variable {host : ByteOrder} {e : ReadEvent} {c : RecvChannel}

theorem ofReadAsyncMsg_of_read (starting : c.msgState = .startReadingMsg) :
    ofReadAsyncMsg host e c =
      ((ofAllocAndReadAsyncMessage host e c).1 &&
          decide ((ofAllocAndReadAsyncMessage host e c).2.msgState ≠ .waitingForCompleteMsg),
        (ofAllocAndReadAsyncMessage host e c).2) := by
  unfold ofReadAsyncMsg
  rw [if_neg (by simp [starting])]
  split <;> simp [*]

theorem ofReadCompleteMsg_of_read (starting : c.msgState = .startReadingMsg) :
    ofReadCompleteMsg host e c =
      ((ofAllocAndReadMessageFromDp host e c).1 &&
          decide ((ofAllocAndReadMessageFromDp host e c).2.msgState ≠ .waitingForCompleteMsg),
        (ofAllocAndReadMessageFromDp host e c).2) := by
  unfold ofReadCompleteMsg
  rw [if_neg (by simp [starting])]
  split <;> simp [*]

variable {handler : RecvChannel → RecvChannel}

theorem onDatapath_live (live : c.fsmState ≠ .closeConn) : onDatapath handler c = handler c :=
  if_neg live

theorem onDatapath_closed (closed : c.fsmState = .closeConn) : onDatapath handler c = c.crash :=
  if_pos closed

end Macros

/-! ## The read of a header -/

/-- Where the next header byte goes; past the header once it is complete. -/
def headerOffset (c : RecvChannel) : Nat :=
  match c.msgState with
  | .waitingForNewMsg => 0
  | .waitingForMsgHeader => c.hdrLenRead
  | _ => sizeofOfpHeader

/-- The header with what has arrived of it. -/
def arrivedHeader (c : RecvChannel) (inbox : List UInt8) : List UInt8 :=
  writeAt c.msgHdr (headerOffset c) (inbox.take (sizeofOfpHeader - headerOffset c))

/-- What the read of a header does with lengths. -/
def headerAccess (c : RecvChannel) : RecvChannel :=
  if c.msgState = .waitingForNewMsg then
    c.access (.request sizeofOfpHeader sizeofOfpHeader)
  else
    (c.access (.subtract sizeofOfpHeader c.hdrLenRead)).access
      (.request (sizeofOfpHeader - c.hdrLenRead) (sizeofOfpHeader - c.hdrLenRead))

/-- The channel has read into its header. -/
structure HeaderRead (c later : RecvChannel) (peek : Bool) : Prop where
  msgHdr : later.msgHdr = arrivedHeader c c.inbox
  inbox : later.inbox =
    if peek then c.inbox else c.inbox.drop (sizeofOfpHeader - headerOffset c)
  msgState : later.msgState =
    if sizeofOfpHeader - headerOffset c ≤ c.inbox.length then .startReadingMsg
    else .waitingForMsgHeader
  hdrLenRead : later.hdrLenRead =
    headerOffset c + min (sizeofOfpHeader - headerOffset c) c.inbox.length
  msgLenRead : later.msgLenRead =
    if c.msgState = .waitingForNewMsg then 0 else c.msgLenRead
  fsmState : later.fsmState = c.fsmState
  undefined : later.undefined = c.undefined
  readFail : later.readFail = c.readFail
  handed : later.handed = c.handed
  accesses : later.accesses = (headerAccess c).accesses

variable {c : RecvChannel}

theorem headerOffset_lt (state : c.msgState = .waitingForNewMsg ∨ c.msgState = .waitingForMsgHeader)
    (counting : c.msgState = .waitingForMsgHeader → c.hdrLenRead < sizeofOfpHeader) :
    headerOffset c < sizeofOfpHeader := by
  unfold headerOffset
  rcases state with new | more
  · rw [new]
    exact Nat.zero_lt_succ 7
  · rw [more]
    exact counting more

theorem headerOffset_past
    (past : ¬ (c.msgState = .waitingForNewMsg ∨ c.msgState = .waitingForMsgHeader)) :
    headerOffset c = sizeofOfpHeader := by
  unfold headerOffset
  cases msgState : c.msgState with
  | waitingForNewMsg => exact absurd (.inl msgState) past
  | waitingForMsgHeader => exact absurd (.inr msgState) past
  | _ => rfl

theorem arrivedHeader_past (whole : c.msgHdr.length = 8) (past : headerOffset c = sizeofOfpHeader)
    (inbox : List UInt8) : arrivedHeader c inbox = c.msgHdr := by
  unfold arrivedHeader
  rw [past, Nat.sub_self, take_zero,
    writeAt_length (show c.msgHdr.length = sizeofOfpHeader from whole), append_nil]

theorem writeAt_inside {memory bytes : List UInt8} {offset : Nat}
    (inside : offset + bytes.length ≤ memory.length) :
    (writeAt memory offset bytes).length = memory.length := by
  unfold writeAt
  rw [length_append, length_append, takeD_length, length_drop]
  omega

theorem arrivedHeader_length (whole : c.msgHdr.length = 8)
    (offset : headerOffset c ≤ sizeofOfpHeader) (inbox : List UInt8) :
    (arrivedHeader c inbox).length = 8 := by
  have inside : headerOffset c + (inbox.take (sizeofOfpHeader - headerOffset c)).length ≤
      c.msgHdr.length := by
    rw [length_take, whole]
    unfold sizeofOfpHeader at *
    omega
  unfold arrivedHeader
  rw [writeAt_inside inside, whole]

section Header

variable {host : ByteOrder} {e : ReadEvent} {c : RecvChannel} {peek : Bool}

theorem transportRead_exact {len : Nat} (live : c.fsmState ≠ .closeConn)
    (some_ : c.inbox ≠ []) (asks : len ≠ 0) :
    transportRead c len len peek =
      (some (c.inbox.take len),
        { c.access (.request len len) with
          inbox := if peek then c.inbox else c.inbox.drop len }) := by
  have fits : ¬ len < (c.inbox.take len).length := by
    rw [length_take]
    omega
  unfold transportRead
  simp [asks, live, some_, RecvChannel.access]

/-- The header is read up to its eight bytes. -/
theorem fsmRead_header (state : c.msgState = .waitingForNewMsg ∨ c.msgState = .waitingForMsgHeader)
    (counting : c.msgState = .waitingForMsgHeader → c.hdrLenRead < sizeofOfpHeader)
    (live : c.fsmState ≠ .closeConn) (some_ : c.inbox ≠ []) :
    (fsmXprtProtoChannelRead host e peek c).1 = true ∧
      HeaderRead c (fsmXprtProtoChannelRead host e peek c).2 peek := by
  unfold fsmXprtProtoChannelRead
  rcases state with new | more
  · have offset : headerOffset c = 0 := by rw [headerOffset, new]
    rw [new]
    rw [transportRead_exact live some_ (by decide)]
    dsimp only
    by_cases complete : sizeofOfpHeader ≤ c.inbox.length
    · have taken : (c.inbox.take sizeofOfpHeader).length = sizeofOfpHeader :=
        length_take_of_le complete
      rw [if_pos taken]
      refine ⟨rfl, ?_⟩
      constructor <;> simp [arrivedHeader, headerAccess, offset, complete, new]
    have taken : (c.inbox.take sizeofOfpHeader).length ≠ sizeofOfpHeader := by
      rw [length_take]
      omega
    rw [if_neg taken]
    refine ⟨rfl, ?_⟩
    constructor <;> simp [arrivedHeader, headerAccess, offset, complete, new]
  · have offset : headerOffset c = c.hdrLenRead := by rw [headerOffset, more]
    have left := counting more
    have asks : sizeofOfpHeader - c.hdrLenRead ≠ 0 := by omega
    rw [more]
    rw [transportRead_exact (by exact live) (by exact some_) asks]
    by_cases complete : sizeofOfpHeader - c.hdrLenRead ≤ c.inbox.length
    · have taken : c.hdrLenRead +
          (c.inbox.take (sizeofOfpHeader - c.hdrLenRead)).length = sizeofOfpHeader := by
        rw [length_take_of_le complete]
        omega
      simp only [RecvChannel.access_inbox, RecvChannel.access_hdrLenRead]
      rw [if_pos taken]
      refine ⟨rfl, ?_⟩
      constructor <;> simp [arrivedHeader, headerAccess, offset, complete, more]
    have taken : c.hdrLenRead +
        (c.inbox.take (sizeofOfpHeader - c.hdrLenRead)).length ≠ sizeofOfpHeader := by
      rw [length_take]
      omega
    simp only [RecvChannel.access_inbox, RecvChannel.access_hdrLenRead]
    rw [if_neg taken]
    refine ⟨rfl, ?_⟩
    constructor <;> simp [arrivedHeader, headerAccess, offset, complete, more]

/-- Without bytes the header is waited for. -/
theorem fsmRead_header_empty
    (state : c.msgState = .waitingForNewMsg ∨ c.msgState = .waitingForMsgHeader)
    (counting : c.msgState = .waitingForMsgHeader → c.hdrLenRead < sizeofOfpHeader)
    (empty : c.inbox = []) :
    fsmXprtProtoChannelRead host e peek c =
      (false, headerReadFailed e (headerAccess c)) := by
  unfold fsmXprtProtoChannelRead headerAccess
  rcases state with new | more
  · rw [new, transportRead_starved ⟨by decide, .inl empty⟩]
    rfl
  have left := counting more
  have asks : sizeofOfpHeader - c.hdrLenRead ≠ 0 := by omega
  rw [more]
  have starved : Starved (c.access (.subtract sizeofOfpHeader c.hdrLenRead))
      (sizeofOfpHeader - c.hdrLenRead) := ⟨asks, .inl empty⟩
  rw [transportRead_starved starved, if_neg (by decide)]

end Header

/-! ## The rows of the message table -/

def MsgCbk.ofpType : MsgCbk → UInt8
  | .hello => Ofpt.hello
  | .error => Ofpt.error
  | .echoRequest => Ofpt.echoRequest
  | .echoReply => Ofpt.echoReply
  | .experimenter => Ofpt.experimenter
  | .featuresReply => Ofpt.featuresReply
  | .getConfigReply => Ofpt.getConfigReply
  | .packetIn => Ofpt.packetIn
  | .flowRemoved => Ofpt.flowRemoved
  | .portStatus => Ofpt.portStatus
  | .multipartReply => Ofpt.multipartReply
  | .barrierReply => Ofpt.barrierReply
  | .queueGetConfigReply => Ofpt.queueGetConfigReply
  | .roleReply => Ofpt.roleReply
  | .getAsyncReply => Ofpt.getAsyncReply

theorem cntlrCbk_ofpType (cbk : MsgCbk) : cntlrCbk[cbk.ofpType.toNat]? = some (some cbk) := by
  cases cbk <;> rfl

theorem cntlrCbk_type {type : UInt8} {cbk : MsgCbk}
    (row : cntlrCbk[type.toNat]? = some (some cbk)) : type = cbk.ofpType := by
  apply UInt8.toNat_inj.mp
  have small : type.toNat < 30 := (List.getElem?_eq_some_iff.mp row).1
  generalize type.toNat = index at row small
  interval_cases index <;> simp [cntlrCbk] at row <;> subst row <;> rfl

/-- The loop over bind entries reads nothing new, or crashes. -/
theorem bindEntryLoop_eq (e : ReadEvent) (bytesToRead entries : Nat) (c : RecvChannel)
    (readBytes : Nat) :
    bindEntryLoop host e bytesToRead entries c readBytes = c ∨
      bindEntryLoop host e bytesToRead entries c readBytes = c.crash := by
  cases entries with
  | zero => exact .inl rfl
  | succ entries =>
  have type := (hdrType c.msgHdr).toNat_lt
  have null : (hdrType c.msgHdr).toNat ≠ Ofpmp.experimenter.toNat := by
    simp only [Ofpmp.experimenter, UInt16.reduceToNat]
    omega
  unfold bindEntryLoop
  split
  · exact .inr rfl
  · exact .inl rfl

theorem ofHandleBindEntryStatsResponse_eq (e : ReadEvent) (c : RecvChannel) :
    ofHandleBindEntryStatsResponse host e c =
        c.access (.subtract (ntohsLength c.msgHdr) 24) ∨
      ofHandleBindEntryStatsResponse host e c =
        (c.access (.subtract (ntohsLength c.msgHdr) 24)).crash :=
  bindEntryLoop_eq host e _ _ _ _

end OpenFlowController.Messages
