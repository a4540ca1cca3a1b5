/-
Module: Messages.ReaderInvariant
Purpose: What the receive path keeps true of a channel from one read event to the next:
  how far its header has come, and which messages it can be in the middle of.
Trusted boundary: none
-/
import OpenFlowController.Messages.ReaderSpec

namespace OpenFlowController.Messages

open Include Library Transport

/-- The handlers that receive their message in a buffer. -/
def MsgCbk.Buffered : MsgCbk → Prop
  | .hello | .featuresReply | .barrierReply | .queueGetConfigReply => False
  | _ => True

/-- The header goes on to the message table. -/
def Filtered (header : List UInt8) : Prop :=
  hdrVersion header = 4 ∨
    hdrVersion header = 0x81 ∧ hdrType header = Ofpt.experimenter

/-- A message whose header goes on is processed. -/
theorem processAfterRead_filtered {host : ByteOrder} {e : ReadEvent} {c : RecvChannel}
    (filtered : Filtered c.msgHdr) :
    processAfterRead host e c =
      if c.msgState = .startReadingMsg ∨ c.msgState = .rcvdCompleteMsg then
        ofProcessDpMessage host e c
      else
        c := by
  have known : ¬ (hdrVersion c.msgHdr ≠ 4 ∧ hdrVersion c.msgHdr ≠ 0x81) := by
    rcases filtered with version | ⟨version, _⟩
    · exact fun other => other.1 version
    · exact fun other => other.2 version
  have plain : ¬ (hdrType c.msgHdr ≠ Ofpt.experimenter ∧ hdrVersion c.msgHdr = 0x81) := by
    rcases filtered with version | ⟨_, type⟩
    · rw [version]
      exact fun other => absurd other.2 (by decide)
    · exact fun other => other.1 type
  unfold processAfterRead
  rw [if_neg known, if_neg plain]

/-- A header of a known version and type goes on. -/
theorem filtered_of_known {header : List UInt8}
    (known : ¬ (hdrVersion header ≠ 4 ∧ hdrVersion header ≠ 0x81))
    (plain : ¬ (hdrType header ≠ Ofpt.experimenter ∧ hdrVersion header = 0x81)) :
    Filtered header := by
  by_cases version : hdrVersion header = 4
  · exact .inl version
  have second : hdrVersion header = 0x81 := by
    by_contra other
    exact known ⟨version, other⟩
  refine .inr ⟨second, ?_⟩
  by_contra type
  exact plain ⟨type, second⟩

/-! ## The rest of a message -/

section Remainder

variable {host : ByteOrder} {e : ReadEvent} {c : RecvChannel}

/-- The state after the rest of a message was read: still waiting, complete, or
given up. -/
structure RemainderRead (c later : RecvChannel) (ok : Bool) : Prop where
  msgHdr : later.msgHdr = c.msgHdr
  fsmState : later.fsmState = c.fsmState ∨ later.fsmState = .closeConn
  msgState :
    ok = true ∧ later.msgState = c.msgState ∧ (c.msgLenRead = 0 → later.msgLenRead = 0) ∨
      ok = true ∧ later.msgState = .rcvdCompleteMsg ∧ c.msgLenRead ≠ 0 ∨
      ok = false ∧ (later.msgState = .drainOutCompleteMsg ∨ later.msgState = .waitingForNewMsg)

theorem closeIfInvalid_frame (limit : Nat) :
    ReadFrame c (closeIfInvalid e limit c) ∧
      (closeIfInvalid e limit c).msgState = c.msgState := by
  unfold closeIfInvalid
  split
  · exact ⟨⟨rfl, rfl, rfl, rfl, rfl, rfl, .inr rfl⟩, rfl⟩
  · exact ⟨ReadFrame.refl c, rfl⟩

/-- What a read of the rest leaves. -/
theorem fsmReadRemainder_state (peek : Bool) (buf : MsgBuf) (len2Read : Nat) :
    RemainderRead c (fsmReadRemainder host e peek buf len2Read c).2
      (fsmReadRemainder host e peek buf len2Read c).1 := by
  unfold fsmReadRemainder
  split
  · have frame := @closeIfInvalid_frame e c 10
    refine ⟨frame.1.msgHdr, frame.1.fsmState, .inl ⟨rfl, frame.2, ?_⟩⟩
    intro zero
    exact frame.1.msgLenRead.trans zero
  rename_i counted
  have counted : c.msgLenRead ≠ 0 := fun zero => counted (.inr zero)
  split
  · exact ⟨rfl, .inl rfl, .inr (.inl ⟨rfl, rfl, counted⟩)⟩
  dsimp only
  have read := transportRead_frame c (buf.room - (buf.ptr1 + c.msgLenRead))
    (uint16OfUint32 len2Read) peek
  have state := transportRead_msgState c (buf.room - (buf.ptr1 + c.msgLenRead))
    (uint16OfUint32 len2Read) peek
  generalize transportRead c (buf.room - (buf.ptr1 + c.msgLenRead))
    (uint16OfUint32 len2Read) peek = answer at read state
  rcases answer with ⟨none | got, later⟩
  · dsimp only at read state ⊢
    split
    · exact ⟨read.msgHdr, .inr rfl, .inr (.inr ⟨rfl, .inl rfl⟩)⟩
    have drained := readError_frame host e
      { setDrainOutBytes host { later with msgState := .drainOutCompleteMsg } with
        readFail := true }
    have drainedState := readError_msgState host e
      { setDrainOutBytes host { later with msgState := .drainOutCompleteMsg } with
        readFail := true } rfl
    refine ⟨drained.msgHdr.trans read.msgHdr, ?_, .inr (.inr ⟨rfl, drainedState⟩)⟩
    rcases drained.fsmState with same | closed
    · rcases read.fsmState with sameRead | closedRead
      · exact .inl (same.trans sameRead)
      · exact .inr (same.trans closedRead)
    · exact .inr closed
  · dsimp only at read state ⊢
    split
    · exact ⟨read.msgHdr, read.fsmState, .inr (.inl ⟨rfl, rfl, counted⟩)⟩
    · refine ⟨read.msgHdr, read.fsmState, .inl ⟨rfl, state, ?_⟩⟩
      intro zero
      exact absurd zero counted

/-- A waiting channel reads the rest of its message, or crashes. -/
theorem fsmRead_remainder_state {peek : Bool} (waiting : c.msgState = .waitingForCompleteMsg) :
    ((fsmXprtProtoChannelRead host e peek c).1 = false ∧
        (fsmXprtProtoChannelRead host e peek c).2 = c.crash) ∨
      RemainderRead c (fsmXprtProtoChannelRead host e peek c).2
        (fsmXprtProtoChannelRead host e peek c).1 := by
  unfold fsmXprtProtoChannelRead
  rw [waiting]
  cases c.msgBuf with
  | none => exact .inl ⟨rfl, rfl⟩
  | some buf =>
  have read := @fsmReadRemainder_state host e
    (c.access (.subtract (rawLength host c.msgHdr) buf.length1)) peek buf
    (uint32Sub (rawLength host c.msgHdr) buf.length1)
  exact .inr ⟨read.msgHdr, read.fsmState, read.msgState⟩

end Remainder

/-! ## The invariant -/

/-- What the receive path keeps true of a channel: how far its header has come, and
which messages it can be in the middle of. -/
structure ReaderInv (c : RecvChannel) : Prop where
  hdrLength : c.msgHdr.length = 8
  counting : c.msgState = .waitingForMsgHeader → c.hdrLenRead < sizeofOfpHeader
  unread : c.msgState = .waitingForMsgHeader ∨ c.msgState = .startReadingMsg →
    c.msgLenRead = 0
  handshake : c.fsmState = .waitForHandshake →
    c.msgState ≠ .waitingForCompleteMsg ∧ c.msgState ≠ .rcvdCompleteMsg
  filtered : c.fsmState ≠ .waitForHandshake → c.msgState ≠ .waitingForNewMsg →
    c.msgState ≠ .waitingForMsgHeader → Filtered c.msgHdr
  complete : c.fsmState ≠ .waitForHandshake → c.msgState = .rcvdCompleteMsg →
    ∃ cbk : MsgCbk, hdrType c.msgHdr = cbk.ofpType ∧ cbk.Buffered ∧ cbk ≠ .multipartReply
  partly : c.fsmState ≠ .waitForHandshake → c.msgState = .waitingForCompleteMsg →
    ∃ cbk : MsgCbk, hdrType c.msgHdr = cbk.ofpType ∧ cbk.Buffered ∧
      (cbk = .multipartReply → c.msgLenRead = 0)

theorem ReaderInv.arrive {c : RecvChannel} (inv : ReaderInv c) (e : ReadEvent) :
    ReaderInv (c.arrive e) :=
  ⟨inv.hdrLength, inv.counting, inv.unread, inv.handshake, inv.filtered, inv.complete, inv.partly⟩

/-- What the invariant says of a channel that can still handle an event. -/
def ReaderOk (c : RecvChannel) : Prop :=
  c.undefined = false → c.fsmState ≠ .closeConn → ReaderInv c

/-! ## The invariant along a run -/

/-- What a handler leaves: the header is the one it started on, and the message is
done with, given up, complete in its buffer, or waited for. -/
structure Dispatched (c later : RecvChannel) : Prop where
  msgHdr : later.msgHdr = c.msgHdr
  fsmState : later.fsmState = c.fsmState ∨ later.fsmState = .closeConn
  header : later.msgState ≠ .waitingForMsgHeader
  unread : later.msgState = .startReadingMsg →
    c.msgState = .startReadingMsg ∧ later.msgLenRead = c.msgLenRead
  complete : later.undefined = false → later.msgState = .rcvdCompleteMsg →
    ∃ cbk : MsgCbk, hdrType c.msgHdr = cbk.ofpType ∧ cbk.Buffered ∧ cbk ≠ .multipartReply
  partly : later.msgState = .waitingForCompleteMsg →
    c.msgState = .startReadingMsg ∧ ∃ cbk : MsgCbk, hdrType c.msgHdr = cbk.ofpType ∧ cbk.Buffered ∧
      (cbk = .multipartReply → later.msgLenRead = c.msgLenRead)

/-- What a reader leaves that starts on a header: the message is complete or partly
there, or it was given up. -/
structure FirstRead (c : RecvChannel) (answer : Bool × RecvChannel) : Prop where
  msgHdr : answer.2.msgHdr = c.msgHdr
  fsmState : answer.2.fsmState = c.fsmState ∨ answer.2.fsmState = .closeConn
  read : answer.1 = true →
    answer.2.msgState = .rcvdCompleteMsg ∨ answer.2.msgState = .waitingForCompleteMsg
  failed : answer.1 = false →
    answer.2.msgState = .startReadingMsg ∨ answer.2.msgState = .drainOutCompleteMsg ∨
      answer.2.msgState = .waitingForNewMsg
  unread : answer.2.msgState = .startReadingMsg → answer.2.msgLenRead = c.msgLenRead

/-- What a handler has after it called its reader. -/
structure Received (c : RecvChannel) (answer : Bool × RecvChannel) : Prop where
  msgHdr : answer.2.msgHdr = c.msgHdr
  fsmState : answer.2.fsmState = c.fsmState ∨ answer.2.fsmState = .closeConn
  complete : answer.1 = true → answer.2.msgState = .rcvdCompleteMsg
  missing : answer.1 = false → c.msgState = .startReadingMsg ∧
    answer.2.msgState ≠ .rcvdCompleteMsg ∧ answer.2.msgState ≠ .waitingForMsgHeader
  unread : answer.2.msgState = .startReadingMsg →
    c.msgState = .startReadingMsg ∧ answer.2.msgLenRead = c.msgLenRead

section Invariant

variable {host : ByteOrder} {e : ReadEvent} {c later : RecvChannel}

theorem Received.self (complete : c.msgState = .rcvdCompleteMsg) : Received c (true, c) where
  msgHdr := rfl
  fsmState := .inl rfl
  complete := fun _ => complete
  missing := by
    intro failed
    cases failed
  unread := fun starting => absurd (complete.symm.trans starting) (by decide)

/-- The first read of a message receives it, or waits for its rest. -/
theorem FirstRead.received {answer : Bool × RecvChannel}
    (starting : c.msgState = .startReadingMsg) (first : FirstRead c answer) :
    Received c (answer.1 && decide (answer.2.msgState ≠ .waitingForCompleteMsg), answer.2) := by
  rcases answer with ⟨_ | _, later⟩
  · have gave : later.msgState = .startReadingMsg ∨ later.msgState = .drainOutCompleteMsg ∨
        later.msgState = .waitingForNewMsg := first.failed rfl
    constructor
    case msgHdr => exact first.msgHdr
    case fsmState => exact first.fsmState
    case complete =>
      intro done
      cases done
    case missing =>
      intro _
      refine ⟨starting, ?_⟩
      rcases gave with state | state | state <;> simp [state]
    case unread => exact fun still => ⟨starting, first.unread still⟩
  · have read : later.msgState = .rcvdCompleteMsg ∨ later.msgState = .waitingForCompleteMsg :=
      first.read rfl
    constructor
    case msgHdr => exact first.msgHdr
    case fsmState => exact first.fsmState
    case complete =>
      intro done
      rcases read with state | state
      · exact state
      · simp [state] at done
    case missing =>
      intro waits
      rcases read with state | state
      · simp [state] at waits
      · simp [starting, state]
    case unread => exact fun still => ⟨starting, first.unread still⟩

/-- Without a buffer the message is drained. -/
theorem drainUnbuffered_firstRead (starting : c.msgState = .startReadingMsg) :
    FirstRead c (false, drainUnbuffered host e c) := by
  have frame := drainUnbuffered_frame host e c
  have drained := drain_msgState host e
    (c.access (.subtract (ntohsLength c.msgHdr) sizeofOfpHeader))
    (uint16Sub (ntohsLength c.msgHdr) sizeofOfpHeader)
  constructor
  case msgHdr => exact frame.msgHdr
  case fsmState => exact frame.fsmState
  case read =>
    intro done
    cases done
  case failed =>
    intro _
    rcases drained with same | new
    · exact .inl (same.trans starting)
    · exact .inr (.inr new)
  case unread => exact fun _ => frame.msgLenRead

variable {start : RecvChannel}

/-- A read that fails gives the message up. -/
theorem cntlrRead_firstRead {room len : Nat} {buf : Option MsgBuf}
    (sameHdr : start.msgHdr = c.msgHdr) (sameFsm : start.fsmState = c.fsmState)
    (failed : cntlrReadMsgRecvdFromDp host e start room len = (none, later)) :
    FirstRead c (false, { later with msgBuf := buf }) := by
  have frame := cntlrRead_frame host e start room len
  have state := cntlrRead_msgState_none host e start (congrArg Prod.fst failed)
  rw [failed] at frame state
  constructor
  case msgHdr => exact frame.msgHdr.trans sameHdr
  case fsmState =>
    rw [← sameFsm]
    exact frame.fsmState
  case read =>
    intro done
    cases done
  case failed => exact fun _ => .inr state
  case unread =>
    intro starting
    rcases state with draining | new
    · cases draining.symm.trans starting
    · cases new.symm.trans starting

theorem cntlrRead_some {start : RecvChannel} {room len : Nat} {got : List UInt8}
    (sameHdr : start.msgHdr = c.msgHdr) (sameFsm : start.fsmState = c.fsmState)
    (served : cntlrReadMsgRecvdFromDp host e start room len = (some got, later)) :
    later.msgHdr = c.msgHdr ∧
      (later.fsmState = c.fsmState ∨ later.fsmState = .closeConn) ∧
      later.msgState = start.msgState := by
  have frame := cntlrRead_frame host e start room len
  have state := cntlrRead_msgState_some host e start (congrArg Prod.fst served)
  rw [served] at frame state
  rw [← sameHdr, ← sameFsm]
  exact ⟨frame.msgHdr, frame.fsmState, state⟩

/-- The reader of an asynchronous message starts on its header. -/
theorem asyncRead_firstRead (starting : c.msgState = .startReadingMsg) :
    FirstRead c (ofAllocAndReadAsyncMessage host e c) := by
  rcases accessPacketInLength_frame c with ⟨log, framed⟩
  unfold ofAllocAndReadAsyncMessage
  rw [if_pos starting, framed]
  dsimp only
  split
  · have drained := @drainUnbuffered_firstRead host e { c with accesses := log } starting
    exact ⟨drained.msgHdr, drained.fsmState, drained.read, drained.failed, drained.unread⟩
  split
  · exact ⟨rfl, .inl rfl, fun _ => .inl rfl, by simp, by simp⟩
  split
  · rename_i failed
    exact cntlrRead_firstRead (by rfl) (by rfl) failed
  rename_i served
  have some_ := @cntlrRead_some host e c _ _ _ _ _ (by rfl) (by rfl) served
  have waits : _ = MsgState.waitingForCompleteMsg := some_.2.2
  split
  · exact ⟨some_.1, some_.2.1, fun _ => .inl rfl, by simp, by simp⟩
  · exact ⟨some_.1, some_.2.1, fun _ => .inr waits, by simp, by simp [waits]⟩

/-- So does the reader of other messages. -/
theorem messageRead_firstRead (starting : c.msgState = .startReadingMsg) :
    FirstRead c (ofAllocAndReadMessageFromDp host e c) := by
  unfold ofAllocAndReadMessageFromDp
  rw [if_pos starting]
  dsimp only
  split
  · exact drainUnbuffered_firstRead starting
  split
  · exact ⟨rfl, .inl rfl, fun _ => .inl rfl, by simp, by simp⟩
  split
  · rename_i failed
    exact cntlrRead_firstRead (by rfl) (by rfl) failed
  rename_i served
  have some_ := @cntlrRead_some host e c _ _ _ _ _ (by rfl) (by rfl) served
  split
  · exact ⟨some_.1, some_.2.1, fun _ => .inl rfl, by simp, by simp⟩
  · exact ⟨some_.1, some_.2.1, fun _ => .inr rfl, by simp, by simp⟩

/-- A first read leaves the count of bytes read. -/
theorem messageRead_msgLenRead (starting : c.msgState = .startReadingMsg) :
    (ofAllocAndReadMessageFromDp host e c).2.msgLenRead = c.msgLenRead := by
  unfold ofAllocAndReadMessageFromDp
  rw [if_pos starting]
  dsimp only
  split
  · exact (drainUnbuffered_frame host e c).msgLenRead
  split
  · rfl
  split
  · rename_i failed
    exact (congrArg (fun answer => answer.2.msgLenRead) failed).symm.trans
      (cntlrRead_frame host e _ _ _).msgLenRead
  · rename_i served
    have same := (congrArg (fun answer => answer.2.msgLenRead) served).symm.trans
      (cntlrRead_frame host e _ _ _).msgLenRead
    split <;> exact same

theorem ofReadAsyncMsg_received
    (state : c.msgState = .startReadingMsg ∨ c.msgState = .rcvdCompleteMsg) :
    Received c (ofReadAsyncMsg host e c) := by
  rcases state with starting | complete
  · rw [ofReadAsyncMsg_of_read starting]
    exact (asyncRead_firstRead starting).received starting
  · unfold ofReadAsyncMsg
    rw [if_pos complete]
    exact Received.self complete

theorem ofReadCompleteMsg_received
    (state : c.msgState = .startReadingMsg ∨ c.msgState = .rcvdCompleteMsg) :
    Received c (ofReadCompleteMsg host e c) := by
  rcases state with starting | complete
  · rw [ofReadCompleteMsg_of_read starting]
    exact (messageRead_firstRead starting).received starting
  · unfold ofReadCompleteMsg
    rw [if_pos complete]
    exact Received.self complete

/-! ### The handlers -/

variable {cbk : MsgCbk}

theorem Received.dispatched_missing (received : Received c (false, later))
    (type : hdrType c.msgHdr = cbk.ofpType) (buffered : cbk.Buffered)
    (counted : cbk = .multipartReply → later.msgLenRead = c.msgLenRead) :
    Dispatched c later where
  msgHdr := received.msgHdr
  fsmState := received.fsmState
  header := (received.missing rfl).2.2
  unread := received.unread
  complete := fun _ complete => absurd complete (received.missing rfl).2.1
  partly := fun _ => ⟨(received.missing rfl).1, cbk, type, buffered, counted⟩

theorem dispatched_new (sameHdr : later.msgHdr = c.msgHdr)
    (sameFsm : later.fsmState = c.fsmState ∨ later.fsmState = .closeConn)
    (new : later.msgState = .waitingForNewMsg) : Dispatched c later where
  msgHdr := sameHdr
  fsmState := sameFsm
  header := by simp [new]
  unread := by simp [new]
  complete := by simp [new]
  partly := by simp [new]

theorem dispatched_complete (sameHdr : later.msgHdr = c.msgHdr)
    (sameFsm : later.fsmState = c.fsmState ∨ later.fsmState = .closeConn)
    (complete : later.msgState = .rcvdCompleteMsg) (type : hdrType c.msgHdr = cbk.ofpType)
    (buffered : cbk.Buffered) (single : cbk ≠ .multipartReply) : Dispatched c later where
  msgHdr := sameHdr
  fsmState := sameFsm
  header := by simp [complete]
  unread := by simp [complete]
  complete := fun _ _ => ⟨cbk, type, buffered, single⟩
  partly := by simp [complete]

theorem dispatched_crash (state : c.msgState = .startReadingMsg ∨ c.msgState = .rcvdCompleteMsg) :
    Dispatched c c.crash where
  msgHdr := rfl
  fsmState := .inl rfl
  header := by rcases state with state | state <;> simp [state]
  unread := fun starting => ⟨starting, rfl⟩
  complete := by simp
  partly := by rcases state with state | state <;> simp [state]

@[simp]
theorem handBuffered_msgHdr (c : RecvChannel) : (handBuffered c).msgHdr = c.msgHdr := by
  unfold handBuffered
  split <;> rfl

@[simp]
theorem handBuffered_fsmState (c : RecvChannel) : (handBuffered c).fsmState = c.fsmState := by
  unfold handBuffered
  split <;> rfl

@[simp]
theorem handBuffered_msgState (c : RecvChannel) : (handBuffered c).msgState = c.msgState := by
  unfold handBuffered
  split <;> rfl

section

variable (state : c.msgState = .startReadingMsg ∨ c.msgState = .rcvdCompleteMsg)

include state

/-- The handler of asynchronous events leaves the reader ready. -/
theorem ofHandleAsyncEvent_dispatched (type : hdrType c.msgHdr = cbk.ofpType)
    (buffered : cbk.Buffered) (single : cbk ≠ .multipartReply) :
    Dispatched c (ofHandleAsyncEvent host e c) := by
  have received := @ofReadAsyncMsg_received host e c state
  unfold ofHandleAsyncEvent resetIfComplete
  generalize ofReadAsyncMsg host e c = answer at received
  rcases answer with ⟨_ | _, later⟩
  · dsimp only
    rw [if_neg (received.missing rfl).2.1]
    exact received.dispatched_missing type buffered (fun multipart => absurd multipart single)
  · dsimp only
    rw [if_pos (by simpa using received.complete rfl)]
    exact dispatched_new (by simpa using received.msgHdr) (by simpa using received.fsmState) rfl

/-- The handler of errors leaves the reader ready. -/
theorem ofHandleErrorMsgEvent_dispatched (type : hdrType c.msgHdr = MsgCbk.error.ofpType) :
    Dispatched c (ofHandleErrorMsgEvent host e c) := by
  have received := @ofReadAsyncMsg_received host e c state
  unfold ofHandleErrorMsgEvent resetIfComplete
  generalize ofReadAsyncMsg host e c = answer at received
  rcases answer with ⟨_ | _, later⟩
  · dsimp only
    rw [if_neg (received.missing rfl).2.1]
    exact received.dispatched_missing type trivial (fun multipart => by cases multipart)
  have complete : later.msgState = .rcvdCompleteMsg := received.complete rfl
  have left {last : RecvChannel} (sameHdr : last.msgHdr = later.msgHdr)
      (sameFsm : last.fsmState = later.fsmState) (same : last.msgState = later.msgState) :
      Dispatched c last := by
    apply dispatched_complete (sameHdr.trans received.msgHdr) _ (same.trans complete) type
      trivial (by decide)
    rw [sameFsm]
    exact received.fsmState
  dsimp only
  split
  · exact left rfl rfl rfl
  · split
    · exact left rfl rfl rfl
    · rw [if_pos (by exact complete)]
      exact dispatched_new received.msgHdr received.fsmState rfl

theorem ofEchoHandler_dispatched (type : hdrType c.msgHdr = cbk.ofpType) (buffered : cbk.Buffered)
    (single : cbk ≠ .multipartReply) : Dispatched c (ofEchoHandler host e c) := by
  have received := @ofReadCompleteMsg_received host e c state
  unfold ofEchoHandler
  generalize ofReadCompleteMsg host e c = answer at received
  rcases answer with ⟨_ | _, later⟩
  · exact received.dispatched_missing type buffered (fun multipart => absurd multipart single)
  · exact dispatched_new (by simpa using received.msgHdr) (by simpa using received.fsmState) rfl

end

/-- A reply that was received is finished. -/
theorem finishReply_dispatched (received : Received c (true, later))
    (type : hdrType c.msgHdr = cbk.ofpType) (buffered : cbk.Buffered)
    (single : cbk ≠ .multipartReply) : Dispatched c (finishReply e (handBuffered later)) := by
  have complete : (handBuffered later).msgState = .rcvdCompleteMsg := by
    simpa using received.complete rfl
  have sameHdr : (handBuffered later).msgHdr = c.msgHdr := by simpa using received.msgHdr
  have sameFsm : (handBuffered later).fsmState = c.fsmState ∨
      (handBuffered later).fsmState = .closeConn := by simpa using received.fsmState
  unfold finishReply
  split
  · exact dispatched_complete sameHdr sameFsm complete type buffered single
  · split
    · exact dispatched_new sameHdr sameFsm rfl
    · exact dispatched_complete sameHdr sameFsm complete type buffered single

/-- The handler of role replies leaves the reader ready. -/
theorem ofProcessRoleReplymsg_dispatched
    (state : c.msgState = .startReadingMsg ∨ c.msgState = .rcvdCompleteMsg)
    (type : hdrType c.msgHdr = MsgCbk.roleReply.ofpType) :
    Dispatched c (ofProcessRoleReplymsg host e c) := by
  have received := @ofReadCompleteMsg_received host e c state
  unfold ofProcessRoleReplymsg
  generalize ofReadCompleteMsg host e c = answer at received
  rcases answer with ⟨_ | _, later⟩
  · dsimp only
    split
    · exact dispatched_new received.msgHdr received.fsmState rfl
    · exact received.dispatched_missing type trivial (fun multipart => by cases multipart)
  · exact finishReply_dispatched received type trivial (by decide)

theorem ofProcessAsyncReplymsg_dispatched
    (state : c.msgState = .startReadingMsg ∨ c.msgState = .rcvdCompleteMsg)
    (type : hdrType c.msgHdr = MsgCbk.getAsyncReply.ofpType) :
    Dispatched c (ofProcessAsyncReplymsg host e c) := by
  have received := @ofReadCompleteMsg_received host e c state
  unfold ofProcessAsyncReplymsg
  generalize ofReadCompleteMsg host e c = answer at received
  rcases answer with ⟨_ | _, later⟩
  · exact received.dispatched_missing type trivial (fun multipart => by cases multipart)
  · exact finishReply_dispatched received type trivial (by decide)

/-- The handler of multipart replies leaves the reader ready. -/
theorem ofProcessMultipartReplymsg_dispatched (starting : c.msgState = .startReadingMsg)
    (type : hdrType c.msgHdr = MsgCbk.multipartReply.ofpType) :
    Dispatched c (ofProcessMultipartReplymsg host e c) := by
  have received := @ofReadCompleteMsg_received host e c (.inl starting)
  have counted := @messageRead_msgLenRead host e c starting
  have same : (ofReadCompleteMsg host e c).2 = (ofAllocAndReadMessageFromDp host e c).2 := by
    rw [ofReadCompleteMsg_of_read starting]
  rw [← same] at counted
  unfold ofProcessMultipartReplymsg
  split
  · have drained := (@drainUnbuffered_firstRead host e c starting).received starting
    exact drained.dispatched_missing type trivial
      (fun _ => (drainUnbuffered_frame host e c).msgLenRead)
  generalize ofReadCompleteMsg host e c = answer at received counted
  rcases answer with ⟨_ | _, later⟩
  · exact received.dispatched_missing type trivial (fun _ => counted)
  dsimp only
  split
  · exact
      { msgHdr := received.msgHdr
        fsmState := received.fsmState
        header := by simp [show later.msgState = _ from received.complete rfl]
        unread := received.unread
        complete := by simp
        partly := by simp [show later.msgState = _ from received.complete rfl] }
  rename_i buf _
  have bound := ofHandleBindEntryStatsResponse_eq host e (later.hand buf.message)
  have done {last : RecvChannel} (sameHdr : last.msgHdr = later.msgHdr)
      (sameFsm : last.fsmState = later.fsmState) :
      Dispatched c last.reset2ReadNewMsg := by
    have settled : last.fsmState = c.fsmState ∨ last.fsmState = .closeConn := by
      rw [sameFsm]
      exact received.fsmState
    exact dispatched_new (sameHdr.trans received.msgHdr) settled rfl
  split
  · rcases bound with kept | crashed
    · rw [kept]
      exact done rfl rfl
    · rw [crashed]
      exact done rfl rfl
  · exact done rfl rfl

/-- A handler that read on its own: the message is done with or given up, or nothing
has happened. -/
structure SelfRead (c later : RecvChannel) : Prop where
  msgHdr : later.msgHdr = c.msgHdr
  fsmState : later.fsmState = c.fsmState ∨ later.fsmState = .closeConn
  msgState : later.msgState = .waitingForNewMsg ∨ later.msgState = .drainOutCompleteMsg ∨
    later.msgState = c.msgState ∧ later.hdrLenRead = c.hdrLenRead ∧
      later.msgLenRead = c.msgLenRead

theorem SelfRead.dispatched (starting : c.msgState = .startReadingMsg)
    (read : SelfRead c later) : Dispatched c later where
  msgHdr := read.msgHdr
  fsmState := read.fsmState
  header := by rcases read.msgState with state | state | state <;> simp [state, starting]
  unread := by
    intro still
    rcases read.msgState with state | state | state
    · cases state.symm.trans still
    · cases state.symm.trans still
    · exact ⟨starting, state.2.2⟩
  complete := by rcases read.msgState with state | state | state <;> simp [state, starting]
  partly := by rcases read.msgState with state | state | state <;> simp [state, starting]

/-- A read that fails is a read of the handler's own. -/
theorem cntlrRead_selfRead {room len : Nat} (sameHdr : start.msgHdr = c.msgHdr)
    (sameFsm : start.fsmState = c.fsmState)
    (failed : cntlrReadMsgRecvdFromDp host e start room len = (none, later)) :
    SelfRead c later := by
  have frame := cntlrRead_frame host e start room len
  have state := cntlrRead_msgState_none host e start (congrArg Prod.fst failed)
  rw [failed] at frame state
  constructor
  case msgHdr => exact frame.msgHdr.trans sameHdr
  case fsmState =>
    rw [← sameFsm]
    exact frame.fsmState
  case msgState =>
    rcases state with draining | new
    · exact .inr (.inl draining)
    · exact .inl new

/-- The handler of hellos reads for itself. -/
theorem ofHandleHelloMessage_selfRead : SelfRead c (ofHandleHelloMessage host e c) := by
  unfold ofHandleHelloMessage
  dsimp only
  split
  · exact ⟨rfl, .inl rfl, .inr (.inr ⟨rfl, rfl, rfl⟩)⟩
  split
  · split
    · rename_i failed
      exact cntlrRead_selfRead (by rfl) (by rfl) failed
    · rename_i served
      have some_ := @cntlrRead_some host e c _ _ _ _ _ (by rfl) (by rfl) served
      exact ⟨some_.1, some_.2.1, .inl rfl⟩
  · exact ⟨rfl, .inl rfl, .inl rfl⟩

/-- On a bound channel the handler of features reads its message itself. -/
theorem ofHandleFeatureReplyMessage_selfRead
    (bound : c.fsmState = .boundToDp ∨ c.fsmState = .closeConn) :
    SelfRead c (ofHandleFeatureReplyMessage host e c) := by
  unfold ofHandleFeatureReplyMessage
  split
  · rename_i failed
    exact cntlrRead_selfRead rfl rfl failed
  rename_i served
  have live : ¬ Starved c 24 := by
    intro starved
    have failed := cntlrRead_starved host e 24 starved
    rw [served] at failed
    cases failed
  have read := cntlrRead_served host e 24 live
  rw [served] at read
  have bound : c.fsmState = .boundToDp := by
    rcases bound with bound | closed
    · exact bound
    · exact absurd ⟨by decide, .inr closed⟩ live
  cases read
  unfold ofProcessFeatureReplyMsg
  rw [if_pos (by exact bound)]
  exact ⟨rfl, .inl rfl, .inl rfl⟩

/-- The handler of what is not supported reads for itself. -/
theorem ofMsgNotSupported_selfRead : SelfRead c (ofMsgNotSupported host e c) := by
  unfold ofMsgNotSupported
  dsimp only
  cases read : cntlrReadMsgRecvdFromDp host e c (ntohsLength c.msgHdr) (ntohsLength c.msgHdr) with
  | mk got later =>
  cases got with
  | none => exact cntlrRead_selfRead rfl rfl read
  | some got =>
  have frame := cntlrRead_frame host e c (ntohsLength c.msgHdr) (ntohsLength c.msgHdr)
  have state := cntlrRead_msgState_some host e c (congrArg Prod.fst read)
  rw [read] at frame state
  exact ⟨frame.msgHdr, frame.fsmState, .inr (Or.inr ⟨state, frame.hdrLenRead, frame.msgLenRead⟩)⟩

/-- Every handler leaves the reader ready. -/
theorem handleMsg_dispatched (bound : c.fsmState = .boundToDp ∨ c.fsmState = .closeConn)
    (state : c.msgState = .startReadingMsg ∨
      c.msgState = .rcvdCompleteMsg ∧ cbk.Buffered ∧ cbk ≠ .multipartReply)
    (type : hdrType c.msgHdr = cbk.ofpType) : Dispatched c (handleMsg host e cbk c) := by
  have either : c.msgState = .startReadingMsg ∨ c.msgState = .rcvdCompleteMsg := by
    rcases state with starting | complete
    · exact .inl starting
    · exact .inr complete.1
  have starting (single : ¬ (cbk.Buffered ∧ cbk ≠ .multipartReply)) :
      c.msgState = .startReadingMsg := by
    rcases state with starting | complete
    · exact starting
    · exact absurd complete.2 single
  have aside {handler : RecvChannel → RecvChannel} (handled : Dispatched c (handler c)) :
      Dispatched c (onDatapath handler c) := by
    unfold onDatapath
    split
    · exact dispatched_crash either
    · exact handled
  cases cbk with
  | hello => exact ofHandleHelloMessage_selfRead.dispatched (starting (fun both => both.1))
  | featuresReply =>
    exact (ofHandleFeatureReplyMessage_selfRead bound).dispatched (starting (fun both => both.1))
  | queueGetConfigReply =>
    exact aside (ofMsgNotSupported_selfRead.dispatched (starting (fun both => both.1)))
  | barrierReply =>
    apply aside
    unfold ofProcessBarrierReplymsg
    split
    · exact dispatched_new rfl (.inl rfl) rfl
    · exact dispatched_crash either
  | multipartReply =>
    exact aside (ofProcessMultipartReplymsg_dispatched (starting (fun both => both.2 rfl)) type)
  | roleReply => exact ofProcessRoleReplymsg_dispatched either type
  | getAsyncReply => exact ofProcessAsyncReplymsg_dispatched either type
  | error => exact aside (ofHandleErrorMsgEvent_dispatched either type)
  | experimenter =>
    exact aside (ofHandleAsyncEvent_dispatched either type trivial (by decide))
  | packetIn => exact aside (ofHandleAsyncEvent_dispatched either type trivial (by decide))
  | flowRemoved => exact aside (ofHandleAsyncEvent_dispatched either type trivial (by decide))
  | portStatus => exact aside (ofHandleAsyncEvent_dispatched either type trivial (by decide))
  | echoRequest => exact aside (ofEchoHandler_dispatched either type trivial (by decide))
  | echoReply => exact aside (ofEchoHandler_dispatched either type trivial (by decide))
  | getConfigReply => exact aside (ofEchoHandler_dispatched either type trivial (by decide))

/-! ### One event -/

/-- A message that was dispatched keeps the reader right. -/
theorem Dispatched.ok (left : Dispatched c later) (whole : c.msgHdr.length = 8)
    (unread : c.msgState = .startReadingMsg → c.msgLenRead = 0)
    (filtered : Filtered c.msgHdr)
    (bound : c.fsmState = .boundToDp ∨ c.fsmState = .closeConn) : ReaderOk later := by
  intro defined live
  have stays : later.fsmState = .boundToDp := by
    rcases left.fsmState with same | closed
    · rcases bound with bound | closed
      · exact same.trans bound
      · exact absurd (same.trans closed) live
    · exact absurd closed live
  constructor
  case hdrLength =>
    rw [left.msgHdr]
    exact whole
  case counting => exact fun more => absurd more left.header
  case unread =>
    intro state
    rcases state with more | starting
    · exact absurd more left.header
    · have same := left.unread starting
      exact same.2.trans (unread same.1)
  case handshake =>
    intro waits
    cases stays.symm.trans waits
  case filtered =>
    intro _ _ _
    rw [left.msgHdr]
    exact filtered
  case complete =>
    intro _ complete
    rw [left.msgHdr]
    exact left.complete defined complete
  case partly =>
    intro _ waits
    rcases left.partly waits with ⟨starting, cbk, type, buffered, counted⟩
    rw [left.msgHdr]
    refine ⟨cbk, type, buffered, ?_⟩
    intro multipart
    exact (counted multipart).trans (unread starting)

theorem ReaderOk.of_new (whole : c.msgHdr.length = 8)
    (new : c.msgState = .waitingForNewMsg) : ReaderOk c := by
  intro _ _
  constructor
  case hdrLength => exact whole
  all_goals simp [new]

theorem ReaderOk.of_closed (closed : c.fsmState = .closeConn) : ReaderOk c :=
  fun _ live => absurd closed live

/-- A message of a bound channel keeps the reader right. -/
theorem ofProcessDpMessage_ok (inv : ReaderInv c) (filtered : Filtered c.msgHdr)
    (bound : c.fsmState = .boundToDp ∨ c.fsmState = .closeConn)
    (state : c.msgState = .startReadingMsg ∨ c.msgState = .rcvdCompleteMsg) :
    ReaderOk (ofProcessDpMessage host e c) := by
  have past : c.fsmState ≠ .waitForHandshake := by
    rcases bound with bound | closed <;> simp [*]
  unfold ofProcessDpMessage
  split
  · exact ReaderOk.of_new inv.hdrLength rfl
  · exact fun _ _ => inv
  rename_i cbk row
  have type := cntlrCbk_type row
  have dispatched : Dispatched c (handleMsg host e cbk c) := by
    apply handleMsg_dispatched bound _ type
    rcases state with starting | complete
    · exact .inl starting
    rcases inv.complete past complete with ⟨other, otherType, buffered, single⟩
    have same : some (some cbk) = some (some other) := by
      rw [← row, otherType, cntlrCbk_ofpType]
    cases same
    exact .inr ⟨complete, buffered, single⟩
  exact dispatched.ok inv.hdrLength (fun starting => inv.unread (.inr starting)) filtered bound

/-- The step behind a header keeps the reader right. -/
theorem processAfterRead_ok (inv : Filtered c.msgHdr → ReaderInv c) (whole : c.msgHdr.length = 8)
    (bound : c.fsmState = .boundToDp ∨ c.fsmState = .closeConn) :
    ReaderOk (processAfterRead host e c) := by
  by_cases unknown : hdrVersion c.msgHdr ≠ 4 ∧ hdrVersion c.msgHdr ≠ 0x81
  · unfold processAfterRead
    rw [if_pos unknown]
    exact ReaderOk.of_new whole rfl
  by_cases extension : hdrType c.msgHdr ≠ Ofpt.experimenter ∧ hdrVersion c.msgHdr = 0x81
  · unfold processAfterRead
    rw [if_neg unknown, if_pos extension]
    dsimp only
    split
    · exact ReaderOk.of_new whole rfl
    split
    · exact ReaderOk.of_new whole rfl
    have frame := drain_frame host e
      (c.access (.subtract (rawLength host c.msgHdr) sizeofOfpHeader))
      (uint16Sub (rawLength host c.msgHdr) sizeofOfpHeader)
    apply ReaderOk.of_new _ rfl
    rw [RecvChannel.reset2ReadNewMsg_msgHdr, frame.msgHdr]
    exact whole
  · have filtered := filtered_of_known unknown extension
    rw [processAfterRead_filtered filtered]
    split
    · rename_i state
      exact ofProcessDpMessage_ok (inv filtered) filtered bound state
    · exact fun _ _ => inv filtered

theorem closeIfInvalid_inv (inv : ReaderInv c) (past : c.fsmState ≠ .waitForHandshake)
    (limit : Nat) : ReaderInv (closeIfInvalid e limit c) := by
  unfold closeIfInvalid
  split
  · exact ⟨inv.hdrLength, inv.counting, inv.unread, by simp,
      fun _ => inv.filtered past, fun _ => inv.complete past, fun _ => inv.partly past⟩
  · exact inv

theorem headerReadFailed_ok (inv : ReaderInv c) : ReaderOk (headerReadFailed e c) := by
  unfold headerReadFailed
  split
  · exact ReaderOk.of_closed rfl
  · exact fun _ _ => ⟨inv.hdrLength, inv.counting, inv.unread, inv.handshake, inv.filtered,
      inv.complete, inv.partly⟩

theorem headerAccess_inv (inv : ReaderInv c) : ReaderInv (headerAccess c) := by
  unfold headerAccess
  split <;> exact ⟨inv.hdrLength, inv.counting, inv.unread, inv.handshake, inv.filtered,
    inv.complete, inv.partly⟩

/-- A header read keeps the invariant. -/
theorem HeaderRead.inv {peek : Bool} (read : HeaderRead c later peek) (before : ReaderInv c)
    (reads : c.msgState = .waitingForNewMsg ∨ c.msgState = .waitingForMsgHeader)
    (filtered : c.fsmState ≠ .waitForHandshake → Filtered later.msgHdr) :
    ReaderInv later := by
  have offset := headerOffset_lt reads before.counting
  have state : later.msgState = .startReadingMsg ∨ later.msgState = .waitingForMsgHeader := by
    rw [read.msgState]
    split
    · exact .inl rfl
    · exact .inr rfl
  constructor
  case hdrLength =>
    rw [read.msgHdr]
    exact arrivedHeader_length before.hdrLength (Nat.le_of_lt offset) _
  case counting =>
    intro more
    have short : ¬ sizeofOfpHeader - headerOffset c ≤ c.inbox.length := by
      intro complete
      rw [read.msgState, if_pos complete] at more
      cases more
    rw [read.hdrLenRead]
    omega
  case unread =>
    intro _
    rw [read.msgLenRead]
    split
    · rfl
    · rename_i more
      rcases reads with new | waits
      · exact absurd new more
      · exact before.unread (.inl waits)
  case handshake => intro _; rcases state with state | state <;> simp [state]
  case filtered =>
    intro past _ _
    rw [read.fsmState] at past
    exact filtered past
  case complete => intro _ complete; rcases state with state | state <;> simp [state] at complete
  case partly => intro _ waits; rcases state with state | state <;> simp [state] at waits

/-- A read of the rest keeps the invariant. -/
theorem RemainderRead.inv {done : Bool} (read : RemainderRead c later done)
    (before : ReaderInv c) (bound : c.fsmState = .boundToDp)
    (waiting : c.msgState = .waitingForCompleteMsg) : ReaderInv later := by
  have past : c.fsmState ≠ .waitForHandshake := by simp [bound]
  rcases before.partly past waiting with ⟨cbk, type, buffered, uncounted⟩
  have header : later.msgState ≠ .waitingForMsgHeader ∧
      later.msgState ≠ .startReadingMsg := by
    rcases read.msgState with ⟨_, same, _⟩ | ⟨_, complete, _⟩ | ⟨_, draining | new⟩ <;>
      simp [*]
  constructor
  case hdrLength =>
    rw [read.msgHdr]
    exact before.hdrLength
  case counting => exact fun more => absurd more header.1
  case unread =>
    intro state
    rcases state with more | starting
    · exact absurd more header.1
    · exact absurd starting header.2
  case handshake =>
    intro waits
    rcases read.fsmState with same | closed
    · cases bound.symm.trans (same.symm.trans waits)
    · cases closed.symm.trans waits
  case filtered =>
    intro _ _ _
    rw [read.msgHdr]
    exact before.filtered past (by simp [waiting]) (by simp [waiting])
  case complete =>
    intro _ complete
    rw [read.msgHdr]
    rcases read.msgState with ⟨_, same, _⟩ | ⟨_, _, counted⟩ | ⟨_, draining | new⟩
    · cases waiting.symm.trans (same.symm.trans complete)
    · exact ⟨cbk, type, buffered, fun multipart => counted (uncounted multipart)⟩
    · cases draining.symm.trans complete
    · cases new.symm.trans complete
  case partly =>
    intro _ waits
    rw [read.msgHdr]
    rcases read.msgState with ⟨_, _, zero⟩ | ⟨_, complete, _⟩ | ⟨_, draining | new⟩
    · exact ⟨cbk, type, buffered, fun multipart => zero (uncounted multipart)⟩
    · cases complete.symm.trans waits
    · cases draining.symm.trans waits
    · cases new.symm.trans waits

/-- A read of the bound channel keeps the reader right. -/
theorem ofReadAndProcessMsgFromDp_ok (inv : ReaderInv c) (bound : c.fsmState = .boundToDp) :
    ReaderOk (ofReadAndProcessMsgFromDp host e c) := by
  have past : c.fsmState ≠ .waitForHandshake := by simp [bound]
  have live : c.fsmState ≠ .closeConn := by simp [bound]
  unfold ofReadAndProcessMsgFromDp
  by_cases reads : c.msgState = .waitingForNewMsg ∨ c.msgState = .waitingForMsgHeader
  · by_cases empty : c.inbox = []
    · rw [fsmRead_header_empty reads inv.counting empty]
      exact headerReadFailed_ok (headerAccess_inv inv)
    · have read := @fsmRead_header host e c false reads inv.counting live empty
      generalize fsmXprtProtoChannelRead host e false c = answer at read
      rcases answer with ⟨ok, later⟩
      rcases read with ⟨done, read⟩
      subst done
      apply processAfterRead_ok
      · exact fun filtered => read.inv inv reads (fun _ => filtered)
      · rw [read.msgHdr]
        exact arrivedHeader_length inv.hdrLength
          (Nat.le_of_lt (headerOffset_lt reads inv.counting)) _
      · exact .inl (read.fsmState.trans bound)
  · by_cases waiting : c.msgState = .waitingForCompleteMsg
    · have read := @fsmRead_remainder_state host e c false waiting
      generalize fsmXprtProtoChannelRead host e false c = answer at read
      rcases answer with ⟨ok, later⟩
      rcases read with ⟨failed, crashed⟩ | read
      · dsimp only at failed crashed
        subst failed crashed
        intro undefined_
        cases undefined_
      have after := read.inv inv bound waiting
      cases ok with
      | false => exact fun _ _ => after
      | true =>
      apply processAfterRead_ok (fun _ => after) after.hdrLength
      rcases read.fsmState with same | closed
      · exact .inl (same.trans bound)
      · exact .inr closed
    · have passes : fsmXprtProtoChannelRead host e false c = (true, closeIfInvalid e 5 c) := by
        unfold fsmXprtProtoChannelRead
        cases state : c.msgState with
        | waitingForNewMsg => exact absurd (.inl state) reads
        | waitingForMsgHeader => exact absurd (.inr state) reads
        | waitingForCompleteMsg => exact absurd state waiting
        | _ => rfl
      have after := @closeIfInvalid_inv e c inv past 5
      rw [passes]
      apply processAfterRead_ok (fun _ => after) after.hdrLength
      rcases (@closeIfInvalid_frame e c 5).1.fsmState with same | closed
      · exact .inl (same.trans bound)
      · exact .inr closed

/-! ### The handshake -/

theorem SelfRead.closed (read : SelfRead c later) (closed : c.fsmState = .closeConn) :
    ReaderOk later := by
  apply ReaderOk.of_closed
  rcases read.fsmState with same | closedNow
  · exact same.trans closed
  · exact closedNow

/-- A handler that reads for itself keeps the reader right. -/
theorem SelfRead.ok (read : SelfRead c later) (inv : ReaderInv c)
    (waits : c.fsmState = .waitForHandshake) : ReaderOk later := by
  intro _ live
  have stays : later.fsmState = .waitForHandshake := by
    rcases read.fsmState with same | closed
    · exact same.trans waits
    · exact absurd closed live
  have whole : later.msgHdr.length = 8 := by
    rw [read.msgHdr]
    exact inv.hdrLength
  rcases read.msgState with new | draining | ⟨same, hdrLenRead, msgLenRead⟩
  · constructor
    case hdrLength => exact whole
    all_goals simp [new]
  · constructor
    case hdrLength => exact whole
    all_goals simp [draining, stays]
  constructor
  case hdrLength => exact whole
  case counting =>
    intro more
    rw [hdrLenRead]
    exact inv.counting (same.symm.trans more)
  case unread =>
    rw [same, msgLenRead]
    exact inv.unread
  case handshake =>
    intro _
    rw [same]
    exact inv.handshake waits
  all_goals exact fun past => absurd stays past

/-- A features reply keeps the reader right. -/
theorem ofHandleFeatureReplyMessage_ok (inv : ReaderInv c)
    (waits : c.fsmState = .waitForHandshake) :
    ReaderOk (ofHandleFeatureReplyMessage host e c) := by
  unfold ofHandleFeatureReplyMessage
  split
  · rename_i failed
    exact (cntlrRead_selfRead rfl rfl failed).ok inv waits
  rename_i got later served
  have some_ := @cntlrRead_some host e c _ _ _ _ _ rfl rfl served
  have frame := cntlrRead_frame host e c 24 24
  rw [served] at frame
  have whole : later.msgHdr.length = 8 := by
    rw [some_.1]
    exact inv.hdrLength
  unfold ofProcessFeatureReplyMsg
  split
  · exact ReaderOk.of_new whole rfl
  split
  · exact ReaderOk.of_new whole rfl
  · exact ReaderOk.of_closed rfl
  · exact ReaderOk.of_closed rfl
  · exact ReaderOk.of_closed rfl
  · have kept : SelfRead c (later.hand (later.msgHdr ++ got)) :=
      ⟨some_.1, some_.2.1, .inr (.inr ⟨some_.2.2, frame.hdrLenRead, frame.msgLenRead⟩)⟩
    exact kept.ok inv waits

/-- A message of the handshake keeps the reader right. -/
theorem ofProcessHandshakeMsg_ok
    (inv : c.fsmState = .waitForHandshake ∧ ReaderInv c ∨ c.fsmState = .closeConn) :
    ReaderOk (ofProcessHandshakeMsg host e c) := by
  unfold ofProcessHandshakeMsg
  split
  · exact ReaderOk.of_closed rfl
  split
  · have read := @ofHandleHelloMessage_selfRead host e c
    rcases inv with ⟨waits, inv⟩ | closed
    · exact read.ok inv waits
    · exact read.closed closed
  split
  · rcases inv with ⟨waits, inv⟩ | closed
    · exact ofHandleFeatureReplyMessage_ok inv waits
    · exact (ofHandleFeatureReplyMessage_selfRead (.inr closed)).closed closed
  · split
    · intro undefined_
      cases undefined_
    · exact ReaderOk.of_closed rfl

/-- A read of the handshake keeps the reader right. -/
theorem cntlrTrnsprtHandleHandshake_ok (inv : ReaderInv c)
    (state : c.fsmState = .waitForHandshake) :
    ReaderOk (cntlrTrnsprtHandleHandshake host e c) := by
  have live : c.fsmState ≠ .closeConn := by simp [state]
  unfold cntlrTrnsprtHandleHandshake
  by_cases reads : c.msgState = .waitingForNewMsg ∨ c.msgState = .waitingForMsgHeader
  · by_cases empty : c.inbox = []
    · rw [fsmRead_header_empty reads inv.counting empty]
      exact headerReadFailed_ok (headerAccess_inv inv)
    · have read := @fsmRead_header host e c c.sentHello reads inv.counting live empty
      generalize fsmXprtProtoChannelRead host e c.sentHello c = answer at read
      rcases answer with ⟨ok, later⟩
      rcases read with ⟨done, read⟩
      subst done
      have after := read.inv inv reads (fun past => absurd state past)
      exact ofProcessHandshakeMsg_ok (.inl ⟨read.fsmState.trans state, after⟩)
  · have passes : fsmXprtProtoChannelRead host e c.sentHello c =
        (true, closeIfInvalid e 5 c) := by
      have excluded := inv.handshake state
      unfold fsmXprtProtoChannelRead
      cases msgState : c.msgState with
      | waitingForNewMsg => exact absurd (.inl msgState) reads
      | waitingForMsgHeader => exact absurd (.inr msgState) reads
      | waitingForCompleteMsg => exact absurd msgState excluded.1
      | _ => rfl
    rw [passes]
    apply ofProcessHandshakeMsg_ok
    unfold closeIfInvalid
    split
    · exact .inr rfl
    · exact .inl ⟨state, inv⟩

/-! ### Runs -/

/-- Every read event keeps the reader right. -/
theorem readStep_ok (ok : ReaderOk c) : ReaderOk (readStep host c e) := by
  unfold readStep
  dsimp only
  split
  · rename_i undefined_
    intro defined
    cases undefined_.symm.trans defined
  rename_i defined
  have defined : c.undefined = false := by simpa [RecvChannel.arrive] using defined
  have arrived : c.fsmState ≠ .closeConn → ReaderInv (c.arrive e) := fun live =>
    (ok defined live).arrive e
  split
  · rename_i state
    exact fun _ live => arrived live
  · exact fun _ live => arrived live
  · rename_i state
    have state : c.fsmState = .waitForHandshake := state
    exact cntlrTrnsprtHandleHandshake_ok (arrived (by simp [state])) state
  · rename_i state
    have state : c.fsmState = .boundToDp := state
    exact ofReadAndProcessMsgFromDp_ok (arrived (by simp [state])) state

theorem accepted_ok (sentHello : Bool) : ReaderOk (RecvChannel.accepted sentHello) :=
  ReaderOk.of_new rfl rfl

end Invariant

/-- Whatever a peer sends on a new connection, and in whatever pieces, the receive path keeps count
of the header and is in the middle of a message only where its handler can go on with it. -/
theorem receive_path_consistent (host : ByteOrder) (sentHello : Bool) (events : List ReadEvent) :
    ReaderOk (events.foldl (readStep host) (RecvChannel.accepted sentHello)) :=
  List.foldlRecOn events (readStep host) (accepted_ok sentHello) fun _ ok _ _ => readStep_ok ok

end OpenFlowController.Messages
