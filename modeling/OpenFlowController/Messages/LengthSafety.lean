/-
Module: Messages.LengthSafety
Purpose: When the lengths that a peer sends are safe: in every run of a channel, the
  reads of an event stay within their buffers and its length subtractions do not
  underflow exactly when the header and the bytes that have arrived fit.
Trusted boundary: none
-/
import OpenFlowController.Messages.ReaderInvariant

namespace OpenFlowController.Messages

open Include Library Transport

/-- The read asks for no more than its buffer has room for; the subtraction does not
underflow. -/
def Access.Safe : Access → Prop
  | .request room len => len ≤ room
  | .subtract minuend subtrahend => subtrahend ≤ minuend

instance : DecidablePred Access.Safe := by
  intro done
  cases done <;> unfold Access.Safe <;> infer_instance

def LogSafe (log : List Access) : Prop := ∀ done ∈ log, done.Safe

instance (log : List Access) : Decidable (LogSafe log) :=
  inferInstanceAs (Decidable (∀ done ∈ log, done.Safe))

theorem logSafe_append {log : List Access} {done : Access} :
    LogSafe (log ++ [done]) ↔ LogSafe log ∧ done.Safe := by
  simp [LogSafe, or_imp, forall_and]

/-! ## When the lengths fit

`rest` is what the socket holds behind the header. -/

/-- A read that finds nothing makes the controller compute `drain_out_bytes` from the
length field without `ntohs`. -/
def ReadFits (host : ByteOrder) (header rest : List UInt8) (room len : Nat) : Prop :=
  len ≤ room ∧ (len ≠ 0 → rest = [] → sizeofOfpHeader ≤ rawLength host header)

/-- The same for a drain, which reads until it has drained all. -/
def DrainFits (host : ByteOrder) (header rest : List UInt8) (len : Nat) : Prop :=
  rest.length < len → sizeofOfpHeader ≤ rawLength host header

/-- The two readers, by the room of the buffer they get. -/
def BodyFits (host : ByteOrder) (header rest : List UInt8) (room : Option Nat) : Prop :=
  sizeofOfpHeader ≤ ntohsLength header ∧
    match room with
    | none => DrainFits host header rest (ntohsLength header - sizeofOfpHeader)
    | some room =>
      sizeofOfpHeader < ntohsLength header →
        ReadFits host header rest (room - sizeofOfpHeader) (ntohsLength header - sizeofOfpHeader)

/-- A complete multipart reply that goes to the bind entries: its type is
`OFPMP_EXPERIMENTER`, and the channel's memory behind `msg_hdr` looks like the
subtype. -/
def ReachesBindEntries (e : ReadEvent) (header rest : List UInt8) : Prop :=
  e.fslxSubtype = 1 ∧ ntohsLength header - sizeofOfpHeader ≤ rest.length ∧
    multipartType (header ++ rest.take (ntohsLength header - sizeofOfpHeader)) =
      Ofpmp.experimenter.toNat

/-- The lengths fit the handler of the message. -/
def HandlerFits (host : ByteOrder) (e : ReadEvent) (cbk : MsgCbk)
    (header rest : List UInt8) : Prop :=
  let length := ntohsLength header
  match cbk with
  | .hello =>
    hdrVersion header = 4 → sizeofOfpHeader < length →
      ReadFits host header rest 1024 (length - sizeofOfpHeader)
  | .featuresReply => ReadFits host header rest 24 24
  | .packetIn => 32 ≤ length ∧ BodyFits host header rest (asyncMessageRoom e header)
  | .error | .experimenter | .flowRemoved | .portStatus | .echoRequest | .echoReply
  | .getConfigReply | .roleReply | .getAsyncReply =>
    BodyFits host header rest (ofuAllocMessage e length)
  | .multipartReply =>
    if e.xidKnown then
      BodyFits host header rest (ofuAllocMessage e length) ∧
        ((ofuAllocMessage e length).isSome → ReachesBindEntries e header rest → 24 ≤ length)
    else
      sizeofOfpHeader ≤ length ∧
        DrainFits host header rest (length - sizeofOfpHeader)
  | .barrierReply => True
  | .queueGetConfigReply => ReadFits host header rest length length

/-- The same when the read before closed the channel: nothing can be read, and only
these handlers do not need the datapath first. -/
def ClosedHandlerFits (host : ByteOrder) (e : ReadEvent) (cbk : MsgCbk)
    (header : List UInt8) : Prop :=
  match cbk with
  | .hello | .featuresReply | .roleReply | .getAsyncReply =>
    HandlerFits host e cbk header []
  | _ => True

/-- The message goes through the table to its handler. -/
def DispatchFits (host : ByteOrder) (e : ReadEvent) (closed : Bool)
    (header rest : List UInt8) : Prop :=
  match cntlrCbk[(hdrType header).toNat]? with
  | some (some cbk) =>
    if closed then
      ClosedHandlerFits host e cbk header
    else
      HandlerFits host e cbk header rest
  | _ => True

/-- A bound channel has read into its header. -/
def BoundHeaderFits (host : ByteOrder) (e : ReadEvent) (complete : Prop)
    (header rest : List UInt8) : Prop :=
  if hdrVersion header ≠ 4 ∧ hdrVersion header ≠ 0x81 then
    True
  else if hdrType header ≠ Ofpt.experimenter ∧ hdrVersion header = 0x81 then
    rawLength host header = 0 ∨ sizeofOfpHeader ≤ rawLength host header
  else
    complete → DispatchFits host e false header rest

/-- A channel in the handshake has read into its header. -/
def HandshakeFits (host : ByteOrder) (header rest : List UInt8) : Prop :=
  hdrVersion header = 4 →
    (hdrType header = Ofpt.hello → sizeofOfpHeader < ntohsLength header →
      ReadFits host header rest 1024 (ntohsLength header - sizeofOfpHeader)) ∧
    (hdrType header = Ofpt.featuresReply → ReadFits host header rest 24 24)

/-- The rest of a message whose first part is in a buffer fits: the length field is
used here without `ntohs`, and the room is counted from where the read goes. -/
def RemainderFits (host : ByteOrder) (c : RecvChannel) (inbox : List UInt8) : Prop :=
  match c.msgBuf with
  | none => True
  | some buf =>
    buf.length1 ≤ rawLength host c.msgHdr ∧
      (rawLength host c.msgHdr ≠ buf.length1 → c.msgLenRead ≠ 0 →
        ReadFits host c.msgHdr inbox (buf.room - (buf.ptr1 + c.msgLenRead))
          (rawLength host c.msgHdr - buf.length1))

/-- What a peer sends fits in the state that the channel is in. -/
def EventFits (host : ByteOrder) (c : RecvChannel) (e : ReadEvent) : Prop :=
  let inbox := c.inbox ++ e.arrived
  let header := arrivedHeader c inbox
  let headerBytes := sizeofOfpHeader - headerOffset c
  c.undefined = false →
    match c.fsmState with
    | .init | .closeConn => True
    | .waitForHandshake =>
      if headerBytes = 0 ∧ 5 ≤ e.invalidChannelState + 1 then
        HandshakeFits host header []
      else
        headerBytes = 0 ∨ inbox ≠ [] →
          HandshakeFits host header (if c.sentHello then inbox else inbox.drop headerBytes)
    | .boundToDp =>
      match c.msgState with
      | .waitingForNewMsg | .waitingForMsgHeader =>
        inbox ≠ [] →
          BoundHeaderFits host e (headerBytes ≤ inbox.length) header (inbox.drop headerBytes)
      | .startReadingMsg =>
        DispatchFits host e (decide (5 ≤ e.invalidChannelState + 1)) header inbox
      | .waitingForCompleteMsg => RemainderFits host c inbox
      | .rcvdCompleteMsg | .drainOutCompleteMsg => True

/-! ## Reads and drains -/

section Reads

variable {host : ByteOrder} {e : ReadEvent} {c : RecvChannel} {room len : Nat}

theorem setDrainOutBytes_safe :
    LogSafe (setDrainOutBytes host c).accesses ↔
      LogSafe c.accesses ∧ sizeofOfpHeader ≤ rawLength host c.msgHdr := by
  simp [setDrainOutBytes, logSafe_append, Access.Safe]

theorem drainLoop_safe {read : RecvChannel → Nat → Option (List UInt8) × RecvChannel}
    (safe : ∀ c len, len ≤ 256 → (LogSafe (read c len).2.accesses ↔ LogSafe c.accesses))
    (fuel bytesToRead : Nat) (c : RecvChannel) :
    LogSafe (drainLoop read fuel c bytesToRead).2.accesses ↔ LogSafe c.accesses := by
  induction fuel generalizing c bytesToRead with
  | zero => exact Iff.rfl
  | succ fuel ih =>
  unfold drainLoop
  split
  · exact Iff.rfl
  have first := safe c (min bytesToRead 256) (Nat.min_le_right _ _)
  generalize read c (min bytesToRead 256) = answer at first
  rcases answer with ⟨none | got, later⟩
  · exact first
  · dsimp only
    rw [ih]
    split <;> exact first

theorem readError_safe (open_ : e.peerClosed = false) :
    LogSafe (fsmXprtProtoChannelReadError host e c).accesses ↔ LogSafe c.accesses := by
  unfold fsmXprtProtoChannelReadError
  split
  · apply drainLoop_safe
    intro c len fits
    by_cases starved : Starved c len
    · unfold readAfterFailure
      rw [transportRead_starved starved]
      simp [open_, logSafe_append, Access.Safe, fits]
    · rw [readAfterFailure_served host e 256 starved]
      simp [logSafe_append, Access.Safe, fits]
  · exact Iff.rfl

theorem cntlrRead_safe (reading : c.readFail = false) :
    LogSafe (cntlrReadMsgRecvdFromDp host e c room len).2.accesses ↔
      LogSafe c.accesses ∧ len ≤ room ∧
        (Starved c len → sizeofOfpHeader ≤ rawLength host c.msgHdr) := by
  by_cases starved : Starved c len
  · unfold cntlrReadMsgRecvdFromDp
    rw [transportRead_starved starved]
    dsimp only
    split
    · simp [setDrainOutBytes_safe, logSafe_append, Access.Safe, starved, and_assoc]
    rename_i stays
    rw [if_neg (by simp [reading])]
    split
    · simp [setDrainOutBytes_safe, logSafe_append, Access.Safe, starved, and_assoc]
    rename_i live
    have open_ : e.peerClosed = false := by
      cases closed : e.peerClosed with
      | false => rfl
      | true => exact absurd ⟨closed, live⟩ stays
    simp [readError_safe open_, setDrainOutBytes_safe, logSafe_append, Access.Safe,
      starved, and_assoc]
  · rw [cntlrRead_served host e room starved]
    simp [logSafe_append, Access.Safe, starved]

/-- What a channel can still read. -/
def available (c : RecvChannel) : List UInt8 :=
  if c.fsmState = .closeConn then [] else c.inbox

theorem starved_iff : Starved c len ↔ len ≠ 0 ∧ available c = [] := by
  unfold Starved available
  by_cases closed : c.fsmState = .closeConn <;> simp [closed]

theorem cntlrRead_fits (reading : c.readFail = false) :
    LogSafe (cntlrReadMsgRecvdFromDp host e c room len).2.accesses ↔
      LogSafe c.accesses ∧ ReadFits host c.msgHdr (available c) room len := by
  rw [cntlrRead_safe reading, ReadFits, starved_iff, and_imp]

theorem drain_step_short {inbox : List UInt8} {len : Nat} :
    (inbox.drop (min len 256)).length < len - (inbox.take (min len 256)).length ↔
      inbox.length < len := by
  rw [List.length_drop, List.length_take]
  omega

/-- The drain is safe exactly when each of its reads fits. -/
theorem drainLoop_fits {fuel bytesToRead : Nat} (enough : bytesToRead ≤ fuel)
    (reading : c.readFail = false) :
    LogSafe (drainLoop (fun c len => cntlrReadMsgRecvdFromDp host e c 256 len)
        fuel c bytesToRead).2.accesses ↔
      LogSafe c.accesses ∧ DrainFits host c.msgHdr (available c) bytesToRead := by
  induction fuel generalizing c bytesToRead with
  | zero =>
    have nothing : bytesToRead = 0 := Nat.le_zero.mp enough
    subst nothing
    simp [drainLoop, DrainFits]
  | succ fuel ih =>
  unfold drainLoop
  by_cases nothing : bytesToRead = 0
  · subst nothing
    simp [DrainFits]
  rw [if_neg nothing]
  have small : min bytesToRead 256 ≤ 256 := Nat.min_le_right _ _
  have asks : min bytesToRead 256 ≠ 0 := by omega
  by_cases starved : Starved c (min bytesToRead 256)
  · have safe := @cntlrRead_safe host e c 256 (min bytesToRead 256) reading
    have failed := cntlrRead_starved host e 256 starved
    generalize cntlrReadMsgRecvdFromDp host e c 256 (min bytesToRead 256) = answer
      at safe failed
    rcases answer with ⟨none | got, later⟩
    · have empty := (starved_iff.mp starved).2
      simp only [safe, DrainFits, empty, List.length_nil]
      constructor
      · intro holds
        exact ⟨holds.1, fun _ => holds.2.2 starved⟩
      · intro holds
        exact ⟨holds.1, small, fun _ => holds.2 (by omega)⟩
    · cases failed
  · have served := cntlrRead_served host e 256 starved
    have full : available c ≠ [] := fun empty => starved (starved_iff.mpr ⟨asks, empty⟩)
    have open_ : c.fsmState ≠ .closeConn := by
      intro closed
      simp [available, closed] at full
    have inbox : available c = c.inbox := if_neg open_
    rw [inbox] at full
    rw [served]
    dsimp only
    have progress : bytesToRead - (c.inbox.take (min bytesToRead 256)).length ≤ fuel := by
      have positive := List.length_pos_of_ne_nil full
      rw [List.length_take]
      omega
    have step (later : RecvChannel) (sameLog : later.accesses =
          c.accesses ++ [.request 256 (min bytesToRead 256)])
        (sameHdr : later.msgHdr = c.msgHdr) (sameFail : later.readFail = c.readFail)
        (sameState : later.fsmState = c.fsmState)
        (rest : later.inbox = c.inbox.drop (min bytesToRead 256)) :
        LogSafe (drainLoop (fun c len => cntlrReadMsgRecvdFromDp host e c 256 len) fuel later
            (bytesToRead - (c.inbox.take (min bytesToRead 256)).length)).2.accesses ↔
          LogSafe c.accesses ∧ DrainFits host c.msgHdr (available c) bytesToRead := by
      rw [ih progress (sameFail.trans reading), sameLog, sameHdr, logSafe_append]
      have laterInbox : available later = c.inbox.drop (min bytesToRead 256) := by
        unfold available
        rw [sameState, if_neg open_, rest]
      simp only [DrainFits, laterInbox, drain_step_short, inbox, Access.Safe, small, and_true]
    split
    · exact step _ rfl rfl rfl rfl rfl
    · exact step _ rfl rfl rfl rfl rfl

theorem drain_fits (reading : c.readFail = false) :
    LogSafe (ofDrainOutSocketBuf host e c len).2.accesses ↔
      LogSafe c.accesses ∧ DrainFits host c.msgHdr (available c) len :=
  drainLoop_fits (Nat.le_refl len) reading

theorem drainUnbuffered_fits (reading : c.readFail = false) :
    LogSafe (drainUnbuffered host e c).accesses ↔
      LogSafe c.accesses ∧ sizeofOfpHeader ≤ ntohsLength c.msgHdr ∧
        DrainFits host c.msgHdr (available c) (ntohsLength c.msgHdr - sizeofOfpHeader) := by
  unfold drainUnbuffered
  rw [drain_fits (by simpa using reading)]
  simp only [RecvChannel.access_accesses, RecvChannel.access_msgHdr, logSafe_append,
    Access.Safe, and_assoc]
  refine and_congr_right fun _ => and_congr_right fun fits => ?_
  rw [uint16Sub_of_le fits]
  rfl

end Reads

/-! ## The two readers -/

section Readers

variable {host : ByteOrder} {e : ReadEvent} {c : RecvChannel}

theorem accessPacketInLength_fits :
    LogSafe (accessPacketInLength c).accesses ↔
      LogSafe c.accesses ∧
        (hdrType c.msgHdr = Ofpt.packetIn → 32 ≤ ntohsLength c.msgHdr) := by
  unfold accessPacketInLength
  split <;> simp [*, logSafe_append, Access.Safe]

theorem accessPacketInLength_msgHdr : (accessPacketInLength c).msgHdr = c.msgHdr := by
  unfold accessPacketInLength
  split <;> rfl

theorem accessPacketInLength_readFail : (accessPacketInLength c).readFail = c.readFail := by
  unfold accessPacketInLength
  split <;> rfl

theorem accessPacketInLength_available : available (accessPacketInLength c) = available c := by
  unfold accessPacketInLength
  split <;> rfl

theorem firstRead_fits {room : Nat} (reading : c.readFail = false)
    (nonempty : uint16Sub (ntohsLength c.msgHdr) sizeofOfpHeader ≠ 0)
    {later : RecvChannel}
    (sameLog : later.accesses = c.accesses ++ [.subtract (ntohsLength c.msgHdr) sizeofOfpHeader])
    (sameHdr : later.msgHdr = c.msgHdr) (sameFail : later.readFail = c.readFail)
    (sameRest : available later = available c) :
    LogSafe (cntlrReadMsgRecvdFromDp host e later (room - sizeofOfpHeader)
        (uint16Sub (ntohsLength c.msgHdr) sizeofOfpHeader)).2.accesses ↔
      LogSafe c.accesses ∧ BodyFits host c.msgHdr (available c) (some room) := by
  rw [cntlrRead_fits (sameFail.trans reading), sameLog, sameHdr, sameRest, logSafe_append,
    BodyFits, and_assoc]
  refine and_congr_right fun _ => and_congr_right fun fits => ?_
  rw [uint16Sub_of_le fits] at nonempty ⊢
  have longer : sizeofOfpHeader < ntohsLength c.msgHdr := by omega
  exact ⟨fun holds _ => holds, fun holds => holds longer⟩

theorem noRead_fits {room : Nat} (small : ntohsLength c.msgHdr < 2 ^ 16)
    (empty : uint16Sub (ntohsLength c.msgHdr) sizeofOfpHeader = 0) :
    LogSafe (c.accesses ++ [.subtract (ntohsLength c.msgHdr) sizeofOfpHeader]) ↔
      LogSafe c.accesses ∧ BodyFits host c.msgHdr (available c) (some room) := by
  have exact_ : ntohsLength c.msgHdr = sizeofOfpHeader := by
    unfold uint16Sub sizeofOfpHeader at *
    split at empty <;> omega
  rw [logSafe_append, BodyFits, exact_]
  simp [Access.Safe]

/-- An asynchronous message is read safely exactly when its body fits. -/
theorem ofAllocAndReadAsyncMessage_fits (reading : c.readFail = false)
    (starting : c.msgState = .startReadingMsg) :
    LogSafe (ofAllocAndReadAsyncMessage host e c).2.accesses ↔
      LogSafe c.accesses ∧
        (hdrType c.msgHdr = Ofpt.packetIn → 32 ≤ ntohsLength c.msgHdr) ∧
        BodyFits host c.msgHdr (available c) (asyncMessageRoom e c.msgHdr) := by
  have sameHdr := accessPacketInLength_msgHdr (c := c)
  have sameFail := accessPacketInLength_readFail (c := c)
  have sameRest := accessPacketInLength_available (c := c)
  rw [← and_assoc, ← accessPacketInLength_fits, ← sameHdr, ← sameRest]
  unfold ofAllocAndReadAsyncMessage
  rw [if_pos starting]
  rw [← sameFail] at reading
  dsimp only
  generalize accessPacketInLength c = c at reading
  cases asyncMessageRoom e c.msgHdr with
  | none => exact drainUnbuffered_fits reading
  | some room =>
  dsimp only
  split
  · rename_i empty
    exact noRead_fits (ntohsLength_lt _) empty
  rename_i nonempty
  have first := @firstRead_fits host e c room reading nonempty
    { c.access (.subtract (ntohsLength c.msgHdr) sizeofOfpHeader) with
      msgBuf := some (MsgBuf.ofHeader room c.msgHdr)
      msgState := .waitingForCompleteMsg
      undefined := c.undefined || decide (room < sizeofOfpHeader) } rfl rfl rfl rfl
  rw [← first]
  split
  · rename_i equation
    rw [equation]
  · rename_i equation
    rw [equation]
    split <;> rfl

/-- A message is read safely exactly when its body fits. -/
theorem ofAllocAndReadMessageFromDp_fits (reading : c.readFail = false)
    (starting : c.msgState = .startReadingMsg) :
    LogSafe (ofAllocAndReadMessageFromDp host e c).2.accesses ↔
      LogSafe c.accesses ∧
        BodyFits host c.msgHdr (available c) (ofuAllocMessage e (ntohsLength c.msgHdr)) := by
  unfold ofAllocAndReadMessageFromDp
  rw [if_pos starting]
  dsimp only
  cases ofuAllocMessage e (ntohsLength c.msgHdr) with
  | none => exact drainUnbuffered_fits reading
  | some room =>
  dsimp only
  split
  · rename_i empty
    exact noRead_fits (ntohsLength_lt _) empty
  rename_i nonempty
  have first := @firstRead_fits host e c room reading nonempty
    { c.access (.subtract (ntohsLength c.msgHdr) sizeofOfpHeader) with
      msgBuf := some (MsgBuf.ofHeader room c.msgHdr) } rfl rfl rfl rfl
  rw [← first]
  split
  · rename_i equation
    rw [equation]
  · rename_i equation
    rw [equation]
    split <;> rfl

end Readers

/-! ## The handlers -/

section Handlers

variable {host : ByteOrder} {e : ReadEvent} {c : RecvChannel}

@[simp]
theorem resetIfComplete_accesses : (resetIfComplete c).accesses = c.accesses := by
  unfold resetIfComplete
  split <;> rfl

@[simp]
theorem handBuffered_accesses : (handBuffered c).accesses = c.accesses := by
  unfold handBuffered
  split <;> rfl

@[simp]
theorem finishReply_accesses : (finishReply e c).accesses = c.accesses := by
  unfold finishReply
  split
  · rfl
  · split <;> rfl

theorem ofHandleAsyncEvent_accesses :
    (ofHandleAsyncEvent host e c).accesses = (ofReadAsyncMsg host e c).2.accesses := by
  unfold ofHandleAsyncEvent
  split <;> simp [*]

theorem ofHandleErrorMsgEvent_accesses :
    (ofHandleErrorMsgEvent host e c).accesses = (ofReadAsyncMsg host e c).2.accesses := by
  unfold ofHandleErrorMsgEvent
  split
  · simp [*]
  · split
    · simp [*]
    · dsimp only
      split <;> simp [*]

theorem ofEchoHandler_accesses :
    (ofEchoHandler host e c).accesses = (ofReadCompleteMsg host e c).2.accesses := by
  unfold ofEchoHandler
  split <;> simp [*]

theorem ofProcessRoleReplymsg_accesses :
    (ofProcessRoleReplymsg host e c).accesses = (ofReadCompleteMsg host e c).2.accesses := by
  unfold ofProcessRoleReplymsg
  split
  · split <;> simp [*]
  · simp [*]

theorem ofProcessAsyncReplymsg_accesses :
    (ofProcessAsyncReplymsg host e c).accesses =
      (ofReadCompleteMsg host e c).2.accesses := by
  unfold ofProcessAsyncReplymsg
  split <;> simp [*]

theorem ofHandleBindEntryStatsResponse_accesses :
    (ofHandleBindEntryStatsResponse host e c).accesses =
      c.accesses ++ [.subtract (ntohsLength c.msgHdr) 24] := by
  rcases ofHandleBindEntryStatsResponse_eq host e c with same | crashed
  · rw [same]
    rfl
  · rw [crashed]
    rfl

/-- A hello is handled safely exactly when it fits its handler. -/
theorem ofHandleHelloMessage_fits (reading : c.readFail = false) :
    LogSafe (ofHandleHelloMessage host e c).accesses ↔
      LogSafe c.accesses ∧
        HandlerFits host e .hello c.msgHdr (available c) := by
  unfold ofHandleHelloMessage HandlerFits
  dsimp only
  by_cases version : hdrVersion c.msgHdr = 4
  · rw [if_neg (by simp [version])]
    split
    · rename_i longer
      have fits := @cntlrRead_fits host e
        (c.access (.subtract (ntohsLength c.msgHdr) sizeofOfpHeader)) 1024
        (ntohsLength c.msgHdr - sizeofOfpHeader) reading
      have subtracted : sizeofOfpHeader ≤ ntohsLength c.msgHdr := Nat.le_of_lt longer
      rw [RecvChannel.access_accesses, logSafe_append, RecvChannel.access_msgHdr] at fits
      split
      · rename_i equation
        rw [equation] at fits
        simp only [fits, Access.Safe, subtracted, and_true, version, longer, true_imp_iff]
        rfl
      rename_i equation
      rw [equation] at fits
      simp only [RecvChannel.reset2ReadNewMsg_accesses, RecvChannel.hand_accesses, fits,
        Access.Safe, subtracted, and_true, version, longer, true_imp_iff]
      rfl
    · rename_i short
      simp [short]
  · rw [if_pos version]
    simp [version]

theorem ofProcessFeatureReplyMsg_accesses :
    (ofProcessFeatureReplyMsg e c).accesses = c.accesses := by
  unfold ofProcessFeatureReplyMsg
  split
  · rfl
  · split <;> rfl

theorem ofHandleFeatureReplyMessage_fits (reading : c.readFail = false) :
    LogSafe (ofHandleFeatureReplyMessage host e c).accesses ↔
      LogSafe c.accesses ∧
        HandlerFits host e .featuresReply c.msgHdr (available c) := by
  have fits := @cntlrRead_fits host e c 24 24 reading
  unfold ofHandleFeatureReplyMessage
  split
  · rename_i equation
    rw [equation] at fits
    exact fits
  · rename_i equation
    rw [equation] at fits
    rw [ofProcessFeatureReplyMsg_accesses]
    exact fits

/-- A multipart reply is safe exactly when its read and its type are. -/
theorem ofProcessMultipartReplymsg_accesses (known : e.xidKnown = true) :
    LogSafe (ofProcessMultipartReplymsg host e c).accesses ↔
      LogSafe (ofReadCompleteMsg host e c).2.accesses ∧
        ((ofReadCompleteMsg host e c).1 = true → ∀ buf,
          (ofReadCompleteMsg host e c).2.msgBuf = some buf →
          multipartType buf.data = Ofpmp.experimenter.toNat → e.fslxSubtype = 1 →
          24 ≤ ntohsLength (ofReadCompleteMsg host e c).2.msgHdr) := by
  unfold ofProcessMultipartReplymsg
  rw [if_neg (by simp [known])]
  generalize ofReadCompleteMsg host e c = answer
  rcases answer with ⟨_ | _, later⟩
  · simp
  dsimp only
  cases buffer : later.msgBuf with
  | none => simp
  | some buf =>
  dsimp only
  split
  · rename_i binds
    simp only [RecvChannel.reset2ReadNewMsg_accesses,
      ofHandleBindEntryStatsResponse_accesses, logSafe_append, Access.Safe]
    simp [binds, RecvChannel.hand]
  rename_i passes
  constructor
  · intro safe
    refine ⟨safe, ?_⟩
    intro _ other same experimenter subtype
    cases same
    exact absurd ⟨experimenter, subtype⟩ passes
  · exact fun holds => holds.1

/-- The multipart handler gets to the bind entries when the message is there. -/
theorem multipart_binds (starting : c.msgState = .startReadingMsg)
    (live : c.fsmState ≠ .closeConn) (whole : c.msgHdr.length = 8)
    (header : sizeofOfpHeader ≤ ntohsLength c.msgHdr) :
    ((ofReadCompleteMsg host e c).1 = true → ∀ buf,
        (ofReadCompleteMsg host e c).2.msgBuf = some buf →
        multipartType buf.data = Ofpmp.experimenter.toNat → e.fslxSubtype = 1 →
        24 ≤ ntohsLength (ofReadCompleteMsg host e c).2.msgHdr) ↔
      ((ofuAllocMessage e (ntohsLength c.msgHdr)).isSome →
        ReachesBindEntries e c.msgHdr c.inbox → 24 ≤ ntohsLength c.msgHdr) := by
  rw [ofReadCompleteMsg_of_read starting]
  have length : ntohsLength c.msgHdr =
      sizeofOfpHeader + (ntohsLength c.msgHdr - sizeofOfpHeader) := by omega
  cases buffer : ofuAllocMessage e (ntohsLength c.msgHdr) with
  | none =>
    have refused : (ofAllocAndReadMessageFromDp host e c).1 = false := by
      unfold ofAllocAndReadMessageFromDp
      rw [if_pos starting]
      dsimp only
      rw [buffer]
    simp [refused]
  | some room =>
  by_cases there : ntohsLength c.msgHdr - sizeofOfpHeader ≤ c.inbox.length
  · have completed := @messageRead_completed host e c room _ starting live whole length buffer there
    simp only [completed.1, completed.2.msgState, completed.2.msgBuf, completed.2.msgHdr,
      ReachesBindEntries, there]
    constructor
    · intro holds _ reaches
      exact holds (by decide) _ rfl reaches.2.2 reaches.1
    · intro holds _ buf same experimenter subtype
      cases same
      exact holds rfl ⟨subtype, trivial, experimenter⟩
  · have missing : ¬ ReachesBindEntries e c.msgHdr c.inbox := fun reaches =>
      there reaches.2.1
    have unread : ((ofAllocAndReadMessageFromDp host e c).1 &&
        decide ((ofAllocAndReadMessageFromDp host e c).2.msgState ≠
          .waitingForCompleteMsg)) = false := by
      by_cases empty : c.inbox = []
      · have starved := @messageRead_starved host e c room _ starting length
          (fun nothing => there (by omega)) buffer (.inl empty)
        rw [starved.1, Bool.false_and]
      · have partly := @messageRead_partly host e c room _ starting live whole length buffer
          empty (by omega)
        rw [partly.2.msgState]
        simp
    rw [unread]
    simp [missing]

theorem ofProcessMultipartReplymsg_fits (reading : c.readFail = false)
    (starting : c.msgState = .startReadingMsg) (live : c.fsmState ≠ .closeConn)
    (whole : c.msgHdr.length = 8) :
    LogSafe (ofProcessMultipartReplymsg host e c).accesses ↔
      LogSafe c.accesses ∧ HandlerFits host e .multipartReply c.msgHdr c.inbox := by
  have rest : available c = c.inbox := if_neg live
  unfold HandlerFits
  cases known : e.xidKnown with
  | false =>
    have drained := @drainUnbuffered_fits host e c reading
    rw [rest] at drained
    unfold ofProcessMultipartReplymsg
    rw [if_pos known]
    simpa using drained
  | true =>
  have read := @ofAllocAndReadMessageFromDp_fits host e c reading starting
  rw [rest] at read
  rw [ofProcessMultipartReplymsg_accesses known]
  have same : (ofReadCompleteMsg host e c).2 =
      (ofAllocAndReadMessageFromDp host e c).2 := by
    rw [ofReadCompleteMsg_of_read starting]
  rw [same, read, ← same, and_assoc]
  refine and_congr_right fun _ => and_congr_right fun body => ?_
  exact multipart_binds starting live whole body.1

theorem asyncRead_fits (reading : c.readFail = false) (starting : c.msgState = .startReadingMsg) :
    LogSafe (ofReadAsyncMsg host e c).2.accesses ↔
      LogSafe c.accesses ∧
        (hdrType c.msgHdr = Ofpt.packetIn → 32 ≤ ntohsLength c.msgHdr) ∧
        BodyFits host c.msgHdr (available c) (asyncMessageRoom e c.msgHdr) := by
  rw [ofReadAsyncMsg_of_read starting]
  exact ofAllocAndReadAsyncMessage_fits reading starting

theorem messageRead_fits (reading : c.readFail = false) (starting : c.msgState = .startReadingMsg) :
    LogSafe (ofReadCompleteMsg host e c).2.accesses ↔
      LogSafe c.accesses ∧
        BodyFits host c.msgHdr (available c) (ofuAllocMessage e (ntohsLength c.msgHdr)) := by
  rw [ofReadCompleteMsg_of_read starting]
  exact ofAllocAndReadMessageFromDp_fits reading starting

theorem asyncMessageRoom_eq {cbk : MsgCbk} (type : hdrType c.msgHdr = cbk.ofpType)
    (other : cbk ≠ .packetIn) :
    hdrType c.msgHdr ≠ Ofpt.packetIn ∧
      asyncMessageRoom e c.msgHdr = ofuAllocMessage e (ntohsLength c.msgHdr) := by
  have differs : hdrType c.msgHdr ≠ Ofpt.packetIn := by
    rw [type]
    cases cbk with
    | packetIn => exact absurd rfl other
    | _ => decide
  exact ⟨differs, if_neg differs⟩

attribute [local simp] HandlerFits

/-- A handler that starts on the header just read. -/
theorem handleMsg_fits {cbk : MsgCbk} (reading : c.readFail = false)
    (starting : c.msgState = .startReadingMsg) (whole : c.msgHdr.length = 8)
    (type : hdrType c.msgHdr = cbk.ofpType) :
    LogSafe (handleMsg host e cbk c).accesses ↔
      LogSafe c.accesses ∧
        if c.fsmState = .closeConn then
          ClosedHandlerFits host e cbk c.msgHdr
        else
          HandlerFits host e cbk c.msgHdr c.inbox := by
  have async := @asyncRead_fits host e c reading starting
  have message := @messageRead_fits host e c reading starting
  by_cases closed : c.fsmState = .closeConn
  · have rest : available c = [] := if_pos closed
    rw [if_pos closed]
    cases cbk with
    | hello =>
      have hello := @ofHandleHelloMessage_fits host e c reading
      rw [rest] at hello
      exact hello
    | featuresReply =>
      have features := @ofHandleFeatureReplyMessage_fits host e c reading
      rw [rest] at features
      exact features
    | roleReply =>
      rw [handleMsg, ofProcessRoleReplymsg_accesses, message, rest]
      exact Iff.rfl
    | getAsyncReply =>
      rw [handleMsg, ofProcessAsyncReplymsg_accesses, message, rest]
      exact Iff.rfl
    | _ => simp [handleMsg, onDatapath_closed closed, ClosedHandlerFits]
  · have rest : available c = c.inbox := if_neg closed
    rw [rest] at async message
    rw [if_neg closed]
    cases cbk with
    | hello => exact rest ▸ ofHandleHelloMessage_fits reading
    | featuresReply => exact rest ▸ ofHandleFeatureReplyMessage_fits reading
    | roleReply => rw [handleMsg, ofProcessRoleReplymsg_accesses, message]; exact Iff.rfl
    | getAsyncReply =>
      rw [handleMsg, ofProcessAsyncReplymsg_accesses, message]
      exact Iff.rfl
    | error =>
      have other := @asyncMessageRoom_eq e c _ type (by decide)
      rw [handleMsg, onDatapath_live closed, ofHandleErrorMsgEvent_accesses, async, other.2]
      simp [other.1]
    | packetIn =>
      have same : hdrType c.msgHdr = Ofpt.packetIn := type
      rw [handleMsg, onDatapath_live closed, ofHandleAsyncEvent_accesses, async]
      simp [same]
    | experimenter =>
      have other := @asyncMessageRoom_eq e c _ type (by decide)
      rw [handleMsg, onDatapath_live closed, ofHandleAsyncEvent_accesses, async, other.2]
      simp [other.1]
    | flowRemoved =>
      have other := @asyncMessageRoom_eq e c _ type (by decide)
      rw [handleMsg, onDatapath_live closed, ofHandleAsyncEvent_accesses, async, other.2]
      simp [other.1]
    | portStatus =>
      have other := @asyncMessageRoom_eq e c _ type (by decide)
      rw [handleMsg, onDatapath_live closed, ofHandleAsyncEvent_accesses, async, other.2]
      simp [other.1]
    | echoRequest =>
      rw [handleMsg, onDatapath_live closed, ofEchoHandler_accesses, message]
      exact Iff.rfl
    | echoReply =>
      rw [handleMsg, onDatapath_live closed, ofEchoHandler_accesses, message]
      exact Iff.rfl
    | getConfigReply =>
      rw [handleMsg, onDatapath_live closed, ofEchoHandler_accesses, message]
      exact Iff.rfl
    | multipartReply =>
      rw [handleMsg, onDatapath_live closed]
      exact ofProcessMultipartReplymsg_fits reading starting closed whole
    | barrierReply =>
      rw [handleMsg, onDatapath_live closed, ofProcessBarrierReplymsg]
      split <;> simp
    | queueGetConfigReply =>
    have read := @cntlrRead_fits host e c (ntohsLength c.msgHdr) (ntohsLength c.msgHdr) reading
    rw [rest] at read
    rw [handleMsg, onDatapath_live closed]
    exact read

theorem ofProcessDpMessage_fits (reading : c.readFail = false)
    (starting : c.msgState = .startReadingMsg) (whole : c.msgHdr.length = 8) :
    LogSafe (ofProcessDpMessage host e c).accesses ↔
      LogSafe c.accesses ∧
        DispatchFits host e (decide (c.fsmState = .closeConn)) c.msgHdr c.inbox := by
  unfold ofProcessDpMessage DispatchFits
  split
  · rename_i row
    simp [row]
  · rename_i row
    simp [row]
  · rename_i cbk row
    rw [row]
    have handled := @handleMsg_fits host e c cbk reading starting whole (cntlrCbk_type row)
    simpa using handled

end Handlers

/-! ## A message that is complete in its buffer is not read again -/

/-- A complete message adds no access. -/
theorem handleMsg_complete {host : ByteOrder} {e : ReadEvent} {c : RecvChannel}
    {cbk : MsgCbk} (complete : c.msgState = .rcvdCompleteMsg) (buffered : cbk.Buffered)
    (single : cbk ≠ .multipartReply) :
    (handleMsg host e cbk c).accesses = c.accesses := by
  have async : ofReadAsyncMsg host e c = (true, c) := if_pos complete
  have message : ofReadCompleteMsg host e c = (true, c) := if_pos complete
  have aside (handler : RecvChannel → RecvChannel) (same : (handler c).accesses = c.accesses) :
      (onDatapath handler c).accesses = c.accesses := by
    unfold onDatapath
    split
    · rfl
    · exact same
  cases cbk with
  | hello => exact False.elim buffered
  | featuresReply => exact False.elim buffered
  | barrierReply => exact False.elim buffered
  | queueGetConfigReply => exact False.elim buffered
  | multipartReply => exact absurd rfl single
  | roleReply => rw [handleMsg, ofProcessRoleReplymsg_accesses, message]
  | getAsyncReply => rw [handleMsg, ofProcessAsyncReplymsg_accesses, message]
  | error =>
    apply aside
    rw [ofHandleErrorMsgEvent_accesses, async]
  | echoRequest =>
    apply aside
    rw [ofEchoHandler_accesses, message]
  | echoReply =>
    apply aside
    rw [ofEchoHandler_accesses, message]
  | getConfigReply =>
    apply aside
    rw [ofEchoHandler_accesses, message]
  | experimenter =>
    apply aside
    rw [ofHandleAsyncEvent_accesses, async]
  | packetIn =>
    apply aside
    rw [ofHandleAsyncEvent_accesses, async]
  | flowRemoved =>
    apply aside
    rw [ofHandleAsyncEvent_accesses, async]
  | portStatus =>
    apply aside
    rw [ofHandleAsyncEvent_accesses, async]

/-! ## After the read of the state machine -/

section AfterRead

variable {host : ByteOrder} {e : ReadEvent} {c : RecvChannel}

theorem processAfterRead_dispatch (filtered : Filtered c.msgHdr) (reading : c.readFail = false)
    (starting : c.msgState = .startReadingMsg) (whole : c.msgHdr.length = 8) :
    LogSafe (processAfterRead host e c).accesses ↔
      LogSafe c.accesses ∧
        DispatchFits host e (decide (c.fsmState = .closeConn)) c.msgHdr c.inbox := by
  rw [processAfterRead_filtered filtered, if_pos (.inl starting)]
  exact ofProcessDpMessage_fits reading starting whole

/-- Behind a whole header the step is safe exactly when the message fits. -/
theorem processAfterRead_header (reading : c.readFail = false)
    (live : c.fsmState ≠ .closeConn) (whole : c.msgHdr.length = 8)
    (state : c.msgState = .startReadingMsg ∨ c.msgState = .waitingForMsgHeader) :
    LogSafe (processAfterRead host e c).accesses ↔
      LogSafe c.accesses ∧
        BoundHeaderFits host e (c.msgState = .startReadingMsg) c.msgHdr c.inbox := by
  unfold BoundHeaderFits
  by_cases unknown : hdrVersion c.msgHdr ≠ 4 ∧ hdrVersion c.msgHdr ≠ 0x81
  · unfold processAfterRead
    rw [if_pos unknown, if_pos unknown]
    simp
  rw [if_neg unknown]
  by_cases extension : hdrType c.msgHdr ≠ Ofpt.experimenter ∧ hdrVersion c.msgHdr = 0x81
  · unfold processAfterRead
    rw [if_neg unknown, if_pos extension, if_pos extension]
    by_cases zero : rawLength host c.msgHdr = 0
    · rw [if_pos zero]
      simp [zero]
    rw [if_neg zero]
    split
    · simp [logSafe_append, Access.Safe, zero]
    have drained := @drain_fits host e
      (c.access (.subtract (rawLength host c.msgHdr) sizeofOfpHeader))
      (uint16Sub (rawLength host c.msgHdr) sizeofOfpHeader) reading
    rw [RecvChannel.reset2ReadNewMsg_accesses, drained]
    simp only [RecvChannel.access_accesses, logSafe_append, Access.Safe, zero, false_or,
      RecvChannel.access_msgHdr, DrainFits, and_assoc]
    refine and_congr_right fun _ => ?_
    exact ⟨fun holds => holds.1, fun fits => ⟨fits, fun _ => fits⟩⟩
  · rw [if_neg extension]
    have filtered := filtered_of_known unknown extension
    rcases state with starting | partly
    · rw [processAfterRead_dispatch filtered reading starting whole, decide_eq_false live]
      simp [starting]
    · rw [processAfterRead_filtered filtered]
      simp [partly]

end AfterRead

/-! ## The rest of a message -/

section Remainder

variable {host : ByteOrder} {e : ReadEvent} {c : RecvChannel}

@[simp]
theorem closeIfInvalid_accesses (limit : Nat) :
    (closeIfInvalid e limit c).accesses = c.accesses := by
  unfold closeIfInvalid
  split <;> rfl

/-- The rest of a message is read safely exactly when it fits. -/
theorem fsmReadRemainder_fits {buf : MsgBuf} {len2Read : Nat} (live : c.fsmState ≠ .closeConn) :
    LogSafe (fsmReadRemainder host e false buf len2Read c).2.accesses ↔
      LogSafe c.accesses ∧
        (rawLength host c.msgHdr ≠ 0 → c.msgLenRead ≠ 0 → len2Read ≠ 0 →
          ReadFits host c.msgHdr c.inbox (buf.room - (buf.ptr1 + c.msgLenRead))
            (uint16OfUint32 len2Read)) := by
  unfold fsmReadRemainder
  by_cases still : rawLength host c.msgHdr = 0 ∨ c.msgLenRead = 0
  · rw [if_pos still]
    rcases still with zero | zero <;> simp [zero]
  have counted : c.msgLenRead ≠ 0 := fun zero => still (.inr zero)
  have sized : rawLength host c.msgHdr ≠ 0 := fun zero => still (.inl zero)
  rw [if_neg still]
  by_cases done : len2Read = 0
  · rw [if_pos done]
    simp [done]
  rw [if_neg done]
  dsimp only
  generalize uint16OfUint32 len2Read = len
  by_cases starved : Starved c len
  · have rest := (starved_iff.mp starved).2
    rw [available, if_neg live] at rest
    rw [transportRead_starved starved]
    dsimp only
    split
    · simp [setDrainOutBytes_safe, logSafe_append, Access.Safe, sized, counted, ReadFits,
        done, rest, starved.1, and_assoc]
    rename_i open_
    have error := @readError_safe host e
      { setDrainOutBytes host
        { c.access (.request (buf.room - (buf.ptr1 + c.msgLenRead)) len) with
          msgState := .drainOutCompleteMsg } with
        readFail := true } (by simpa using open_)
    rw [error]
    simp [setDrainOutBytes_safe, logSafe_append, Access.Safe, sized, counted, ReadFits,
      done, rest, starved.1, and_assoc]
  · have fed : len ≠ 0 → c.inbox ≠ [] := fun asks empty => starved ⟨asks, .inl empty⟩
    rw [transportRead_served starved]
    have unread : len ≠ 0 → c.inbox = [] → sizeofOfpHeader ≤ rawLength host c.msgHdr :=
      fun asks empty => absurd empty (fed asks)
    have asked : LogSafe (c.consume (buf.room - (buf.ptr1 + c.msgLenRead)) len).accesses ↔
        LogSafe c.accesses ∧
          (rawLength host c.msgHdr ≠ 0 → c.msgLenRead ≠ 0 → len2Read ≠ 0 →
            ReadFits host c.msgHdr c.inbox (buf.room - (buf.ptr1 + c.msgLenRead)) len) := by
      rw [RecvChannel.consume_accesses, RecvChannel.access_accesses, logSafe_append]
      refine and_congr_right fun _ => ?_
      exact ⟨fun fits _ _ _ => ⟨fits, unread⟩, fun holds => (holds sized counted done).1⟩
    dsimp only
    split <;> exact asked

theorem fsmRead_remainder_fits (waiting : c.msgState = .waitingForCompleteMsg)
    (live : c.fsmState ≠ .closeConn) :
    LogSafe (fsmXprtProtoChannelRead host e false c).2.accesses ↔
      LogSafe c.accesses ∧ RemainderFits host c c.inbox := by
  unfold fsmXprtProtoChannelRead RemainderFits
  rw [waiting]
  cases c.msgBuf with
  | none => simp
  | some buf =>
  have small := rawLength_lt host c.msgHdr
  rw [fsmReadRemainder_fits (by exact live)]
  simp only [RecvChannel.access_accesses, logSafe_append, Access.Safe,
    RecvChannel.access_msgHdr, RecvChannel.access_msgLenRead, RecvChannel.access_inbox,
    and_assoc]
  refine and_congr_right fun _ => and_congr_right fun fits => ?_
  rw [uint32Sub_of_le fits, uint16OfUint32_of_lt (by omega)]
  constructor
  · intro holds more counted
    exact holds (by omega) counted (by omega)
  · intro holds _ counted more
    exact holds (by omega) counted

end Remainder

/-! ## One event -/

section Event

variable {host : ByteOrder} {e : ReadEvent} {c : RecvChannel}

/-- A handshake message is processed safely exactly when it fits. -/
theorem ofProcessHandshakeMsg_fits (reading : c.readFail = false) :
    LogSafe (ofProcessHandshakeMsg host e c).accesses ↔
      LogSafe c.accesses ∧ HandshakeFits host c.msgHdr (available c) := by
  have hello := @ofHandleHelloMessage_fits host e c reading
  have features := @ofHandleFeatureReplyMessage_fits host e c reading
  unfold ofProcessHandshakeMsg HandshakeFits
  by_cases version : hdrVersion c.msgHdr = 4
  · rw [if_neg (by simp [version])]
    by_cases first : hdrType c.msgHdr = Ofpt.hello
    · have second : hdrType c.msgHdr ≠ Ofpt.featuresReply := by
        rw [first]
        decide
      rw [if_pos first, hello]
      refine and_congr_right fun _ => ⟨?_, ?_⟩
      · intro holds _
        exact ⟨fun _ => holds version, fun other => absurd other second⟩
      · intro holds _
        exact (holds version).1 first
    · rw [if_neg first]
      by_cases second : hdrType c.msgHdr = Ofpt.featuresReply
      · rw [if_pos second, features]
        refine and_congr_right fun _ => ⟨?_, ?_⟩
        · intro holds _
          exact ⟨fun other => absurd other first, fun _ => holds⟩
        · intro holds
          exact (holds version).2 second
      · rw [if_neg second]
        split <;> simp [first, second]
  · rw [if_pos version]
    simp [version]

theorem headerAccess_safe (empty : c.accesses = [])
    (counting : c.msgState ≠ .waitingForNewMsg → c.hdrLenRead ≤ sizeofOfpHeader) :
    LogSafe (headerAccess c).accesses := by
  unfold headerAccess
  split
  · simp [empty, LogSafe, Access.Safe]
  · rename_i more
    simp [empty, LogSafe, Access.Safe, counting more]

theorem closeIfInvalid_available (limit : Nat) (live : c.fsmState ≠ .closeConn) :
    available (closeIfInvalid e limit c) =
      if limit ≤ e.invalidChannelState + 1 then [] else c.inbox := by
  unfold closeIfInvalid available
  split
  · rfl
  · simp

/-- The handshake read is safe exactly when its header and message fit. -/
theorem handshake_safe_iff (inv : ReaderInv c) (start : c.accesses = [])
    (reading : c.readFail = false) (state : c.fsmState = .waitForHandshake) :
    LogSafe (cntlrTrnsprtHandleHandshake host e c).accesses ↔
      (if sizeofOfpHeader - headerOffset c = 0 ∧ 5 ≤ e.invalidChannelState + 1 then
        HandshakeFits host (arrivedHeader c c.inbox) []
      else
        sizeofOfpHeader - headerOffset c = 0 ∨ c.inbox ≠ [] →
          HandshakeFits host (arrivedHeader c c.inbox)
            (if c.sentHello then c.inbox
              else c.inbox.drop (sizeofOfpHeader - headerOffset c))) := by
  have live : c.fsmState ≠ .closeConn := by
    rw [state]
    decide
  have counted : c.msgState ≠ .waitingForNewMsg → c.msgState = .waitingForMsgHeader →
      c.hdrLenRead ≤ sizeofOfpHeader := fun _ more => Nat.le_of_lt (inv.counting more)
  by_cases reads : c.msgState = .waitingForNewMsg ∨ c.msgState = .waitingForMsgHeader
  · have left : sizeofOfpHeader - headerOffset c ≠ 0 := by
      have before := headerOffset_lt reads inv.counting
      omega
    have safe : LogSafe (headerAccess c).accesses := by
      apply headerAccess_safe start
      intro other
      rcases reads with new | more
      · exact absurd new other
      · exact counted other more
    rw [if_neg (fun both => left both.1)]
    unfold cntlrTrnsprtHandleHandshake
    by_cases empty : c.inbox = []
    · rw [fsmRead_header_empty reads inv.counting empty]
      have failed : LogSafe (headerReadFailed e (headerAccess c)).accesses := by
        unfold headerReadFailed
        split <;> exact safe
      simp [failed, left, empty]
    have read := @fsmRead_header host e c c.sentHello reads inv.counting live empty
    generalize fsmXprtProtoChannelRead host e c.sentHello c = answer at read
    rcases answer with ⟨ok, later⟩
    rcases read with ⟨done, read⟩
    subst done
    have sameLive : later.fsmState ≠ .closeConn := by
      rw [read.fsmState]
      exact live
    rw [ofProcessHandshakeMsg_fits (read.readFail.trans reading), read.accesses, available,
      if_neg sameLive, read.msgHdr, read.inbox]
    simp [safe, empty]
  · have offset := headerOffset_past reads
    have same := arrivedHeader_past inv.hdrLength offset c.inbox
    have read : fsmXprtProtoChannelRead host e c.sentHello c =
        (true, closeIfInvalid e 5 c) := by
      have excluded := inv.handshake state
      unfold fsmXprtProtoChannelRead
      cases msgState : c.msgState with
      | waitingForNewMsg => exact absurd (.inl msgState) reads
      | waitingForMsgHeader => exact absurd (.inr msgState) reads
      | waitingForCompleteMsg => exact absurd msgState excluded.1
      | _ => rfl
    have closing := @closeIfInvalid_available e c 5 live
    unfold cntlrTrnsprtHandleHandshake
    rw [read]
    have frame : (closeIfInvalid e 5 c).readFail = false ∧
        (closeIfInvalid e 5 c).msgHdr = c.msgHdr := by
      unfold closeIfInvalid
      split <;> exact ⟨reading, rfl⟩
    rw [ofProcessHandshakeMsg_fits frame.1, frame.2, closing, same, offset]
    by_cases closes : 5 ≤ e.invalidChannelState + 1
    · simp [closes, start, LogSafe]
    · simp [closes, start, LogSafe]

/-- The bound read is safe exactly when its header fits. -/
theorem bound_header_safe_iff (inv : ReaderInv c) (start : c.accesses = [])
    (reading : c.readFail = false) (live : c.fsmState ≠ .closeConn)
    (reads : c.msgState = .waitingForNewMsg ∨ c.msgState = .waitingForMsgHeader) :
    LogSafe (ofReadAndProcessMsgFromDp host e c).accesses ↔
      (c.inbox ≠ [] →
        BoundHeaderFits host e (sizeofOfpHeader - headerOffset c ≤ c.inbox.length)
          (arrivedHeader c c.inbox) (c.inbox.drop (sizeofOfpHeader - headerOffset c))) := by
  have safe : LogSafe (headerAccess c).accesses := by
    apply headerAccess_safe start
    intro other
    rcases reads with new | more
    · exact absurd new other
    · exact Nat.le_of_lt (inv.counting more)
  unfold ofReadAndProcessMsgFromDp
  by_cases empty : c.inbox = []
  · rw [fsmRead_header_empty reads inv.counting empty]
    have failed : LogSafe (headerReadFailed e (headerAccess c)).accesses := by
      unfold headerReadFailed
      split <;> exact safe
    simp [failed, empty]
  have read := @fsmRead_header host e c false reads inv.counting live empty
  have offset := headerOffset_lt reads inv.counting
  generalize fsmXprtProtoChannelRead host e false c = answer at read
  rcases answer with ⟨ok, later⟩
  rcases read with ⟨done, read⟩
  subst done
  have sameLive : later.fsmState ≠ .closeConn := by
    rw [read.fsmState]
    exact live
  have whole : later.msgHdr.length = 8 := by
    rw [read.msgHdr]
    exact arrivedHeader_length inv.hdrLength (Nat.le_of_lt offset) _
  have state : later.msgState = .startReadingMsg ∨
      later.msgState = .waitingForMsgHeader := by
    rw [read.msgState]
    split
    · exact .inl rfl
    · exact .inr rfl
  have complete : later.msgState = .startReadingMsg ↔
      sizeofOfpHeader - headerOffset c ≤ c.inbox.length := by
    rw [read.msgState]
    split <;> simp [*]
  rw [processAfterRead_header (read.readFail.trans reading) sameLive whole state,
    read.accesses, propext complete, read.msgHdr, read.inbox]
  simp [safe, empty]

/-- An event of a bound channel that is past the header of its message. -/
theorem bound_past_safe_iff (inv : ReaderInv c) (start : c.accesses = [])
    (reading : c.readFail = false) (bound : c.fsmState = .boundToDp) :
    (c.msgState = .startReadingMsg →
      (LogSafe (ofReadAndProcessMsgFromDp host e c).accesses ↔
        DispatchFits host e (decide (5 ≤ e.invalidChannelState + 1)) c.msgHdr c.inbox)) ∧
    (c.msgState = .waitingForCompleteMsg →
      (LogSafe (ofReadAndProcessMsgFromDp host e c).accesses ↔
        RemainderFits host c c.inbox)) ∧
    (c.msgState = .rcvdCompleteMsg ∨ c.msgState = .drainOutCompleteMsg →
      LogSafe (ofReadAndProcessMsgFromDp host e c).accesses) := by
  have live : c.fsmState ≠ .closeConn := by
    rw [bound]
    decide
  have bound : c.fsmState ≠ .waitForHandshake := by
    rw [bound]
    decide
  have past (state : c.msgState = .startReadingMsg ∨ c.msgState = .rcvdCompleteMsg ∨
      c.msgState = .drainOutCompleteMsg) :
      fsmXprtProtoChannelRead host e false c = (true, closeIfInvalid e 5 c) := by
    unfold fsmXprtProtoChannelRead
    rcases state with state | state | state <;> rw [state]
  have frame := @closeIfInvalid_frame e c 5
  have log : (closeIfInvalid e 5 c).accesses = [] := by
    rw [closeIfInvalid_accesses, start]
  refine ⟨?_, ?_, ?_⟩
  · intro starting
    have filtered := inv.filtered bound (by simp [starting]) (by simp [starting])
    rw [← frame.1.msgHdr] at filtered
    have fail : (closeIfInvalid e 5 c).readFail = false := by
      unfold closeIfInvalid
      split <;> exact reading
    have closing : decide ((closeIfInvalid e 5 c).fsmState = .closeConn) =
          decide (5 ≤ e.invalidChannelState + 1) ∧
        (closeIfInvalid e 5 c).inbox = c.inbox := by
      unfold closeIfInvalid
      split <;> simp [*]
    unfold ofReadAndProcessMsgFromDp
    rw [past (.inl starting)]
    rw [processAfterRead_dispatch filtered fail (frame.2.trans starting)
      (frame.1.msgHdr ▸ inv.hdrLength), closing.1, closing.2, frame.1.msgHdr, log]
    simp [LogSafe]
  · intro waiting
    have filtered := inv.filtered bound (by simp [waiting]) (by simp [waiting])
    have fits := @fsmRead_remainder_fits host e c waiting live
    have read := @fsmRead_remainder_state host e c false waiting
    rcases inv.partly bound waiting with ⟨cbk, type, buffered, uncounted⟩
    rw [start] at fits
    unfold ofReadAndProcessMsgFromDp
    generalize fsmXprtProtoChannelRead host e false c = answer at fits read
    rcases answer with ⟨_ | _, later⟩
    · simpa [LogSafe] using fits
    have done : (processAfterRead host e later).accesses = later.accesses := by
      rcases read with ⟨failed, _⟩ | read
      · cases failed
      rw [processAfterRead_filtered (read.msgHdr ▸ filtered)]
      rcases read.msgState with ⟨_, still, _⟩ | ⟨_, complete, counted⟩ | ⟨failed, _⟩
      · have waits : later.msgState = .waitingForCompleteMsg := still.trans waiting
        rw [if_neg (by simp [waits])]
      · have single : cbk ≠ .multipartReply := fun multipart =>
          counted (uncounted multipart)
        rw [if_pos (.inr complete), ofProcessDpMessage, read.msgHdr, type, cntlrCbk_ofpType]
        exact handleMsg_complete complete buffered single
      · cases failed
    rw [done]
    simpa [LogSafe] using fits
  · intro state
    have filtered : Filtered c.msgHdr := by
      apply inv.filtered bound
      · rcases state with state | state <;> simp [state]
      · rcases state with state | state <;> simp [state]
    rw [← frame.1.msgHdr] at filtered
    unfold ofReadAndProcessMsgFromDp
    rw [past (.inr state)]
    dsimp only
    rw [processAfterRead_filtered filtered]
    rcases state with complete | draining
    · rcases inv.complete bound complete with ⟨cbk, type, buffered, single⟩
      rw [if_pos (.inr (frame.2.trans complete)), ofProcessDpMessage, frame.1.msgHdr, type,
        cntlrCbk_ofpType]
      rw [handleMsg_complete (frame.2.trans complete) buffered single, log]
      simp [LogSafe]
    · rw [if_neg, log]
      · simp [LogSafe]
      · rw [frame.2, draining]
        decide

/-- A read event is safe exactly when it fits. -/
theorem readStep_safe_iff (ok : ReaderOk c) :
    LogSafe (readStep host c e).accesses ↔ EventFits host c e := by
  unfold readStep EventFits
  cases defined : c.undefined with
  | true => simp [RecvChannel.arrive, defined, LogSafe]
  | false =>
  rw [if_neg (by simp [RecvChannel.arrive, defined])]
  simp only [true_imp_iff]
  cases state : c.fsmState with
  | init => simp [RecvChannel.arrive, state, LogSafe]
  | closeConn => simp [RecvChannel.arrive, state, LogSafe]
  | waitForHandshake =>
    have inv := (ok defined (by simp [state])).arrive e
    have arrived : (c.arrive e).fsmState = .waitForHandshake := state
    rw [arrived]
    exact handshake_safe_iff inv rfl rfl state
  | boundToDp =>
  have inv := (ok defined (by simp [state])).arrive e
  have arrived : (c.arrive e).fsmState = .boundToDp := state
  have live : (c.arrive e).fsmState ≠ .closeConn := by simp [arrived]
  have past := @bound_past_safe_iff host e _ inv rfl rfl arrived
  rw [arrived]
  cases msgState : c.msgState with
  | waitingForNewMsg => exact bound_header_safe_iff inv rfl rfl live (.inl msgState)
  | waitingForMsgHeader =>
    exact bound_header_safe_iff inv rfl rfl live (.inr msgState)
  | startReadingMsg =>
    have offset : headerOffset c = sizeofOfpHeader :=
      headerOffset_past (by simp [msgState])
    have whole : c.msgHdr.length = 8 := inv.hdrLength
    rw [past.1 msgState, arrivedHeader_past whole offset]
    exact Iff.rfl
  | waitingForCompleteMsg =>
    rw [past.2.1 msgState]
    exact Iff.rfl
  | rcvdCompleteMsg => simpa using past.2.2 (.inl msgState)
  | drainOutCompleteMsg => simpa using past.2.2 (.inr msgState)

end Event

/-! ## Runs -/

/-- In every run of a channel from its accept, through the handshake and bound, every
event is safe exactly when in every event what has arrived fits. -/
theorem peer_lengths_safe_iff (host : ByteOrder) (sentHello : Bool) (events : List ReadEvent) :
    Along (readStep host) (fun c e => LogSafe (readStep host c e).accesses)
        (RecvChannel.accepted sentHello) events ↔
      Along (readStep host) (EventFits host) (RecvChannel.accepted sentHello) events :=
  Along.iff_of_invariant (fun _ _ ok _ => readStep_ok ok)
    (fun _ _ ok => readStep_safe_iff ok) (accepted_ok sentHello)

/-- A hello of 2000 bytes is read into 1024 bytes. -/
theorem long_hello_overruns_buffer :
    ¬ Along (readStep .littleEndian) (fun c e => LogSafe (readStep .littleEndian c e).accesses)
        (RecvChannel.accepted false)
        [{ arrived := [4, 0, 7, 208, 0, 0, 0, 1] ++ List.replicate 16 0
           peerClosed := false
           invalidChannelState := 0
           poolAvailable := true
           pktbufAlloc := none
           xidKnown := false
           fslxSubtype := 0
           attach := .attached
           handshakeSent := true }] := by
  decide

end OpenFlowController.Messages
