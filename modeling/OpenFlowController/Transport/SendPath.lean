/-
Module: Transport.SendPath
Purpose: The transmit path of a channel: a message is written to the socket at once or queued
  behind others, partial writes are resumed from an offset on writable events, and the message
  buffer is freed on the way.  Whatever the socket takes and refuses, the bytes written are a
  prefix of the accepted messages.  Message buffers are freed once and not touched afterwards as
  long as no writable event finishes a waiting message.
Source: ofproto/src/transport/base/trnsprt_core.c, ofproto/src/include/cntlr_list.h
Trusted boundary: none
-/
import OpenFlowController.Library.MachineInt
import OpenFlowController.Library.Run

namespace OpenFlowController.Transport

open Library

/-- A message buffer.  `id` tells the buffers apart over the life of a channel;
`data` runs from `start_of_data`, and `data_len` is a `uint16_t`. -/
structure OfMsg where
  id : Nat
  data : List UInt8
  dataLen_lt : data.length < 2 ^ 16

def OfMsg.dataLen (msg : OfMsg) : Nat := msg.data.length

/-- `cntlr_send_msg_buf_t`: a message waiting on a channel. -/
structure SendMsgBuf where
  msg : OfMsg
  lengthSent : Nat

/-- The transmit side of a channel, with what happened to its socket and to the
message buffers: the bytes written, the buffers freed in the order of the calls,
the buffers read after they were freed, and whether a list node was freed while
it was linked. -/
structure SendChannel where
  sendMsgList : List SendMsgBuf
  epollWrEnabled : Bool
  written : List UInt8
  freed : List Nat
  readAfterFree : List Nat
  linkedNodeFreed : Bool

/-- What the transport's write call reports: an error after which the code tries
again (`EAGAIN`, `ENOMEM`, `EINTR`), any other error that leaves the connection
open, or a number of bytes taken. -/
inductive SendResult where
  | wouldBlock
  | failed
  | sent (count : Nat)

/-- The outcomes of `of_mem_calloc` for a list node and of
`cntlr_epoll_modify_fd`. -/
structure SendMemory where
  nodeAllocated : Bool
  epollModified : Bool

namespace SendChannel

def create : SendChannel where
  sendMsgList := []
  epollWrEnabled := false
  written := []
  freed := []
  readAfterFree := []
  linkedNodeFreed := false

/-- `of_check_pkt_mbuf_and_free`. -/
def freeMsg (channel : SendChannel) (msg : OfMsg) : SendChannel :=
  { channel with freed := channel.freed ++ [msg.id] }

/-- Any access to the message through its pointer. -/
def readMsg (channel : SendChannel) (msg : OfMsg) : SendChannel :=
  if msg.id ∈ channel.freed then
    { channel with readAfterFree := channel.readAfterFree ++ [msg.id] }
  else
    channel

end SendChannel

/-- The end of `of_add_2_epoll_4_wr_event`: write events are switched on if they
are off; when that fails, the message and a node just linked are freed. -/
def enableWrEvent (channel : SendChannel) (msg : OfMsg) (isNewMsg : Bool)
    (memory : SendMemory) : SendChannel :=
  if channel.epollWrEnabled then
    channel
  else if memory.epollModified then
    { channel with epollWrEnabled := true }
  else
    { channel.freeMsg msg with
      linkedNodeFreed := channel.linkedNodeFreed || isNewMsg }

def ofAdd2Epoll4WrEvent (channel : SendChannel) (msg : OfMsg) (isNewMsg : Bool)
    (lenSentCurrently : Nat) (memory : SendMemory) : SendChannel :=
  if isNewMsg then
    if memory.nodeAllocated then
      enableWrEvent
        { channel with
          sendMsgList := channel.sendMsgList ++ [{ msg := msg, lengthSent := lenSentCurrently }] }
        msg isNewMsg memory
    else
      channel.freeMsg msg
  else
    enableWrEvent channel msg isNewMsg memory

/-- `cntlr_tnsprt_try_2_send_msg_on_line`.  The second component is the length it
stores through its last argument: nothing when it returns `OF_FAILURE`.  What is
sent is compared with the length of the whole message, also when an earlier call
sent the part before `msgOffset`. -/
def cntlrTnsprtTry2SendMsgOnLine (channel : SendChannel) (msg : OfMsg) (isNewMsg : Bool)
    (msgOffset : Nat) (result : SendResult) (memory : SendMemory) :
    SendChannel × Option Nat :=
  let channel := channel.readMsg msg
  match result with
  | .wouldBlock => (ofAdd2Epoll4WrEvent channel msg isNewMsg 0 memory, some 0)
  | .failed => (channel.freeMsg msg, none)
  | .sent count =>
    let bytes := (msg.data.drop msgOffset).take count
    let channel := { channel with written := channel.written ++ bytes }
    if bytes.length < msg.dataLen then
      (ofAdd2Epoll4WrEvent channel msg isNewMsg bytes.length memory, some bytes.length)
    else
      (channel.freeMsg msg, some bytes.length)

/-- `cntlr_tnsprt_send_msg_to_dp_channel` for a new message; the result is
`OF_SUCCESS` or `OF_FAILURE`. -/
def cntlrTnsprtSendMsgToDpChannel (channel : SendChannel) (msg : OfMsg)
    (result : SendResult) (memory : SendMemory) : SendChannel × Bool :=
  if channel.sendMsgList.length > 0 then
    (ofAdd2Epoll4WrEvent channel msg true 0 memory, true)
  else
    let tried := cntlrTnsprtTry2SendMsgOnLine channel msg true 0 result memory
    (tried.1, tried.2.isSome)

/-- The scan of `of_send_all_msgs_waiting_on_chn_to_dp` over the waiting messages;
the socket would block once `results` is used up.  `lenSentCurrently` is the
variable of that name, which keeps its value when a call stores nothing. -/
def sendWaiting (memory : SendMemory) :
    List SendMsgBuf → List SendResult → Nat → SendChannel → SendChannel
  | [], _, _, channel => { channel with sendMsgList := [] }
  | msgBuf :: rest, results, lenSentCurrently, channel =>
    let tried := cntlrTnsprtTry2SendMsgOnLine channel msgBuf.msg false msgBuf.lengthSent
      (results.headD .wouldBlock) memory
    let len := tried.2.getD lenSentCurrently
    -- every branch below looks at `msg_buf->msg->desc.data_len`
    let channel := tried.1.readMsg msgBuf.msg
    if len = 0 then
      if msgBuf.msg.dataLen = 0 then
        sendWaiting memory rest results.tail len channel
      else
        { channel with sendMsgList := msgBuf :: rest }
    else
      let lengthSent := uint16Add msgBuf.lengthSent len
      if msgBuf.msg.dataLen = lengthSent ∨ msgBuf.msg.dataLen = 0 then
        -- the list macro unlinks the head and frees its node
        sendWaiting memory rest results.tail len channel
      else
        { channel with sendMsgList := { msgBuf with lengthSent := lengthSent } :: rest }

def ofSendAllMsgsWaitingOnChnToDp (channel : SendChannel) (results : List SendResult)
    (uninitialised : Nat) (memory : SendMemory) : SendChannel :=
  let scanned := sendWaiting memory channel.sendMsgList results uninitialised channel
  if scanned.sendMsgList.length = 0 then
    { scanned with epollWrEnabled := false }
  else
    scanned

/-! ## Histories of a channel -/

/-- A channel with the messages it accepted, in the order of the calls, and the
number of send calls so far. -/
structure SendHistory where
  channel : SendChannel
  accepted : List OfMsg
  sendCalls : Nat

def SendHistory.create : SendHistory where
  channel := SendChannel.create
  accepted := []
  sendCalls := 0

/-- A message to send, or a writable event; each with what the socket, the
allocator and epoll answer. -/
inductive SendEvent where
  | send (data : List UInt8) (dataLen_lt : data.length < 2 ^ 16) (result : SendResult)
      (memory : SendMemory)
  | writable (results : List SendResult) (uninitialised : Nat) (memory : SendMemory)

/-- The message buffer of the next send call. -/
def SendHistory.newMsg (history : SendHistory) (data : List UInt8)
    (dataLen_lt : data.length < 2 ^ 16) : OfMsg where
  id := history.sendCalls
  data := data
  dataLen_lt := dataLen_lt

/-- One event on the channel. -/
def sendStep (history : SendHistory) : SendEvent → SendHistory
  | .send data dataLen_lt result memory =>
    let msg := history.newMsg data dataLen_lt
    let sent := cntlrTnsprtSendMsgToDpChannel history.channel msg result memory
    { channel := sent.1
      accepted := if sent.2 then history.accepted ++ [msg] else history.accepted
      sendCalls := history.sendCalls + 1 }
  | .writable results uninitialised memory =>
    { history with
      channel :=
        ofSendAllMsgsWaitingOnChnToDp history.channel results uninitialised memory }

open List Option

/-- The bytes the first waiting message has already given to the socket. -/
def waitingBytes : List SendMsgBuf → List UInt8
  | [] => []
  | msgBuf :: _ => msgBuf.msg.data.take msgBuf.lengthSent

/-- Only the first waiting message can be partly sent, and none is complete. -/
def WaitingOk : List SendMsgBuf → Prop
  | [] => True
  | msgBuf :: rest =>
    msgBuf.lengthSent < msgBuf.msg.dataLen ∧
      ∀ later ∈ rest, later.lengthSent = 0 ∧ 0 < later.msg.dataLen

/-- The data of messages, one after the other. -/
def bytesOf (msgs : List OfMsg) : List UInt8 := msgs.flatMap OfMsg.data

@[simp]
theorem bytesOf_append (front back : List OfMsg) :
    bytesOf (front ++ back) = bytesOf front ++ bytesOf back := by
  simp [bytesOf]

@[simp]
theorem bytesOf_singleton (msg : OfMsg) : bytesOf [msg] = msg.data := by
  simp [bytesOf]

@[simp]
theorem bytesOf_nil : bytesOf [] = [] :=
  rfl

/-- The accepted messages are those sent completely and those waiting, and the
bytes written are theirs in that order. -/
structure BytesInOrder (history : SendHistory) (done : List OfMsg) : Prop where
  accepted : history.accepted = done ++ history.channel.sendMsgList.map SendMsgBuf.msg
  written : history.channel.written =
    bytesOf done ++ waitingBytes history.channel.sendMsgList
  waiting : WaitingOk history.channel.sendMsgList
  enabled : history.channel.sendMsgList ≠ [] → history.channel.epollWrEnabled = true

/-- The socket takes the whole message at once. -/
def SendResult.Completes (result : SendResult) (length : Nat) : Prop :=
  ∃ count, result = .sent count ∧ length ≤ count

/-- Events on which the socket takes part of a message or would block, messages
carry at least a byte, and memory and epoll serve a message that has to wait. -/
def SendEvent.Retryable (history : SendHistory) : SendEvent → Prop
  | .send data _ result memory =>
    0 < data.length ∧ result ≠ .failed ∧
      (history.channel.sendMsgList ≠ [] ∨ ¬ result.Completes data.length →
        memory.nodeAllocated = true ∧
          (history.channel.epollWrEnabled = false → memory.epollModified = true))
  | .writable results _ _ => .failed ∉ results

/-! ## Fields the two accesses leave alone -/

namespace SendChannel

variable (channel : SendChannel) (msg : OfMsg)

@[simp]
theorem readMsg_sendMsgList : (channel.readMsg msg).sendMsgList = channel.sendMsgList := by
  unfold readMsg
  split <;> rfl

@[simp]
theorem readMsg_written : (channel.readMsg msg).written = channel.written := by
  unfold readMsg
  split <;> rfl

@[simp]
theorem readMsg_freed : (channel.readMsg msg).freed = channel.freed := by
  unfold readMsg
  split <;> rfl

@[simp]
theorem readMsg_epollWrEnabled : (channel.readMsg msg).epollWrEnabled = channel.epollWrEnabled := by
  unfold readMsg
  split <;> rfl

theorem readMsg_live (live : msg.id ∉ channel.freed) : channel.readMsg msg = channel := by
  rw [readMsg, if_neg live]

end SendChannel

/-! ## One message -/

section OneMessage

variable {channel : SendChannel} {msg : OfMsg} {memory : SendMemory} {offset : Nat}
  {result : SendResult} {isNewMsg : Bool}

theorem enableWrEvent_enabled (enabled : channel.epollWrEnabled = true) :
    enableWrEvent channel msg isNewMsg memory = channel := by
  rw [enableWrEvent, if_pos enabled]

theorem enableWrEvent_served (served : channel.epollWrEnabled = false → memory.epollModified = true) :
    enableWrEvent channel msg isNewMsg memory =
      { channel with epollWrEnabled := true } := by
  cases enabled : channel.epollWrEnabled with
  | true =>
    rw [enableWrEvent_enabled enabled, ← enabled]
  | false =>
    rw [enableWrEvent, if_neg (by simp [enabled]), if_pos (served enabled)]

theorem add_newMsg {length : Nat} (allocated : memory.nodeAllocated = true)
    (served : channel.epollWrEnabled = false → memory.epollModified = true) :
    ofAdd2Epoll4WrEvent channel msg true length memory =
      { channel with
        sendMsgList := channel.sendMsgList ++ [{ msg := msg, lengthSent := length }]
        epollWrEnabled := true } := by
  rw [ofAdd2Epoll4WrEvent, if_pos rfl, if_pos allocated]
  exact enableWrEvent_served served

theorem try_wouldBlock (enabled : channel.epollWrEnabled = true) :
    cntlrTnsprtTry2SendMsgOnLine channel msg false offset .wouldBlock memory =
      (channel.readMsg msg, some 0) := by
  have enabled' : (channel.readMsg msg).epollWrEnabled = true := by simpa using enabled
  simp [cntlrTnsprtTry2SendMsgOnLine, ofAdd2Epoll4WrEvent, enableWrEvent_enabled enabled']

theorem try_sent_partly {count : Nat} (enabled : channel.epollWrEnabled = true)
    (partly : ((msg.data.drop offset).take count).length < msg.dataLen) :
    cntlrTnsprtTry2SendMsgOnLine channel msg false offset (.sent count) memory =
      ({ channel.readMsg msg with
          written := channel.written ++ (msg.data.drop offset).take count },
        some ((msg.data.drop offset).take count).length) := by
  have enabled' : (channel.readMsg msg).epollWrEnabled = true := by simpa using enabled
  simp only [cntlrTnsprtTry2SendMsgOnLine, if_pos partly, ofAdd2Epoll4WrEvent,
    Bool.false_eq_true, if_false, SendChannel.readMsg_written]
  rw [enableWrEvent_enabled]
  exact enabled'

theorem try_sent_whole {count : Nat}
    (whole : ¬ ((msg.data.drop offset).take count).length < msg.dataLen) :
    cntlrTnsprtTry2SendMsgOnLine channel msg isNewMsg offset (.sent count) memory =
      (({ channel.readMsg msg with
            written := channel.written ++ (msg.data.drop offset).take count } :
          SendChannel).freeMsg msg,
        some ((msg.data.drop offset).take count).length) := by
  simp only [cntlrTnsprtTry2SendMsgOnLine, if_neg whole, SendChannel.readMsg_written]

variable {channel : SendChannel}

theorem send_idle_whole (idle : channel.sendMsgList = []) {msg : OfMsg} {result : SendResult}
    (completes : result.Completes msg.dataLen) (memory : SendMemory) :
    cntlrTnsprtSendMsgToDpChannel channel msg result memory =
      (({ channel.readMsg msg with written := channel.written ++ msg.data } :
        SendChannel).freeMsg msg, true) := by
  obtain ⟨count, resultEq, enough⟩ := completes
  subst resultEq
  have wholeTaken : (msg.data.drop 0).take count = msg.data := by
    rw [drop_zero, take_of_length_le enough]
  have whole : ¬ ((msg.data.drop 0).take count).length < msg.dataLen := by
    rw [wholeTaken, OfMsg.dataLen]
    omega
  rw [cntlrTnsprtSendMsgToDpChannel, if_neg (by simp [idle])]
  rw [try_sent_whole whole, wholeTaken]
  rfl

/-- On an idle channel the rest of a message waits. -/
theorem send_idle_partly (idle : channel.sendMsgList = []) {msg : OfMsg} {result : SendResult}
    (nonempty : 0 < msg.dataLen) (notFailed : result ≠ .failed)
    (partly : ¬ result.Completes msg.dataLen) {memory : SendMemory}
    (allocated : memory.nodeAllocated = true)
    (served : channel.epollWrEnabled = false → memory.epollModified = true) :
    ∃ length, length < msg.dataLen ∧
      cntlrTnsprtSendMsgToDpChannel channel msg result memory =
        ({ channel.readMsg msg with
            sendMsgList := [{ msg := msg, lengthSent := length }]
            epollWrEnabled := true
            written := channel.written ++ msg.data.take length }, true) := by
  have notWaiting : ¬ channel.sendMsgList.length > 0 := by simp [idle]
  rw [cntlrTnsprtSendMsgToDpChannel, if_neg notWaiting]
  have served' : (channel.readMsg msg).epollWrEnabled = false → memory.epollModified = true := by
    simpa using served
  cases result with
  | failed => exact absurd rfl notFailed
  | wouldBlock =>
    refine ⟨0, nonempty, ?_⟩
    simp [cntlrTnsprtTry2SendMsgOnLine, add_newMsg allocated served', idle]
  | sent count =>
  have short : count < msg.dataLen := by
    by_contra enough
    exact partly ⟨count, rfl, by omega⟩
  have lengthEq : (msg.data.take count).length = count := by
    rw [length_take]
    exact Nat.min_eq_left (Nat.le_of_lt short)
  refine ⟨count, short, ?_⟩
  simp only [cntlrTnsprtTry2SendMsgOnLine, drop_zero, lengthEq, if_pos short,
    SendChannel.readMsg_written]
  rw [add_newMsg allocated]
  · simp [idle]
  · exact served'

end OneMessage

/-! ## The scan over the waiting messages -/

section Scan

variable {memory : SendMemory}

theorem waitingOk_tail {msgBuf : SendMsgBuf} {rest : List SendMsgBuf}
    (waiting : WaitingOk (msgBuf :: rest)) : WaitingOk rest ∧ waitingBytes rest = [] := by
  cases rest with
  | nil => exact ⟨trivial, rfl⟩
  | cons next later =>
  have untouched := waiting.2 next (by simp)
  constructor
  · constructor
    · omega
    · intro other member
      exact waiting.2 other (by simp [member])
  · simp [waitingBytes, untouched.1]

/-- The first message that waits is sent on from where it stopped. -/
theorem try_first (memory : SendMemory) {channel : SendChannel} {msgBuf : SendMsgBuf}
    {base : List UInt8} {result : SendResult} (notFailed : result ≠ .failed)
    (started : msgBuf.lengthSent < msgBuf.msg.dataLen)
    (enabled : channel.epollWrEnabled = true)
    (written : channel.written = base ++ msgBuf.msg.data.take msgBuf.lengthSent) :
    ∃ after taken, cntlrTnsprtTry2SendMsgOnLine channel msgBuf.msg false msgBuf.lengthSent
        result memory = (after, some taken) ∧
      taken ≤ msgBuf.msg.dataLen - msgBuf.lengthSent ∧
      after.written = base ++ msgBuf.msg.data.take (msgBuf.lengthSent + taken) ∧
      after.epollWrEnabled = true := by
  cases result with
  | failed => exact absurd rfl notFailed
  | wouldBlock =>
    exact ⟨_, 0, try_wouldBlock enabled, Nat.zero_le _, by simpa using written,
      by simpa using enabled⟩
  | sent count =>
  have lengthEq : ((msgBuf.msg.data.drop msgBuf.lengthSent).take count).length =
      min count (msgBuf.msg.dataLen - msgBuf.lengthSent) := by
    rw [length_take, length_drop, OfMsg.dataLen]
  have grown : channel.written ++ (msgBuf.msg.data.drop msgBuf.lengthSent).take count =
      base ++ msgBuf.msg.data.take (msgBuf.lengthSent +
        ((msgBuf.msg.data.drop msgBuf.lengthSent).take count).length) := by
    rw [written, append_assoc, take_add]
    congr 2
    exact take_eq_take_iff.mpr (by simp)
  by_cases partly :
      ((msgBuf.msg.data.drop msgBuf.lengthSent).take count).length < msgBuf.msg.dataLen
  · exact ⟨_, _, try_sent_partly enabled partly, by omega, grown, by simpa using enabled⟩
  · exact ⟨_, _, try_sent_whole partly, by omega, grown,
      by simpa [SendChannel.freeMsg] using enabled⟩

/-- The messages that wait are sent in order. -/
theorem sendWaiting_inOrder {pending : List SendMsgBuf} {results : List SendResult}
    (waiting : WaitingOk pending) (notFailed : .failed ∉ results)
    {channel : SendChannel} (enabled : channel.epollWrEnabled = true) {base : List UInt8}
    (written : channel.written = base ++ waitingBytes pending) (previous : Nat) :
    let after := sendWaiting memory pending results previous channel
    ∃ sent, pending.map SendMsgBuf.msg = sent ++ after.sendMsgList.map SendMsgBuf.msg ∧
      after.written = base ++ bytesOf sent ++ waitingBytes after.sendMsgList ∧
      WaitingOk after.sendMsgList ∧ after.epollWrEnabled = true := by
  induction pending generalizing results channel base previous with
  | nil => exact ⟨[], rfl, by simpa [sendWaiting] using written, trivial, enabled⟩
  | cons msgBuf rest ih =>
  have started : msgBuf.lengthSent < msgBuf.msg.dataLen := waiting.1
  have firstNotFailed : results.headD .wouldBlock ≠ .failed := by
    cases results with
    | nil => simp
    | cons result more => exact fun same => notFailed (by simp [← same])
  have laterNotFailed : .failed ∉ results.tail :=
    fun member => notFailed (mem_of_mem_tail member)
  obtain ⟨tried, taken, tryEq, bound, triedWritten, triedEnabled⟩ :=
    try_first memory firstNotFailed started enabled written
  have notEmpty : msgBuf.msg.dataLen ≠ 0 := by omega
  have small : msgBuf.msg.dataLen < 2 ^ 16 := msgBuf.msg.dataLen_lt
  have sumEq : uint16Add msgBuf.lengthSent taken = msgBuf.lengthSent + taken :=
    uint16Add_of_lt (by omega)
  simp only [sendWaiting, tryEq, getD_some, notEmpty, if_false, or_false, sumEq]
  by_cases nothing : taken = 0
  · subst nothing
    exact ⟨[], rfl, by simpa [waitingBytes] using triedWritten, waiting,
      by simpa using triedEnabled⟩
  rw [if_neg nothing]
  by_cases complete : msgBuf.msg.dataLen = msgBuf.lengthSent + taken
  · rw [if_pos complete]
    obtain ⟨restOk, restBytes⟩ := waitingOk_tail waiting
    have allWritten : (tried.readMsg msgBuf.msg).written =
        (base ++ msgBuf.msg.data) ++ waitingBytes rest := by
      rw [SendChannel.readMsg_written, triedWritten, ← complete, OfMsg.dataLen,
        take_length, restBytes, append_nil]
    obtain ⟨sent, split, sentWritten, sentOk, sentEnabled⟩ :=
      ih restOk laterNotFailed (by simpa using triedEnabled) allWritten taken
    refine ⟨msgBuf.msg :: sent, by rw [map_cons, split]; rfl, ?_, sentOk, sentEnabled⟩
    rw [sentWritten]
    simp [bytesOf]
  · rw [if_neg complete]
    refine ⟨[], rfl, by simpa [waitingBytes] using triedWritten, ?_, by simpa using triedEnabled⟩
    exact ⟨by simp only; omega, waiting.2⟩

end Scan

/-! ## Every event keeps the bytes in order -/

namespace BytesInOrder

variable {history : SendHistory} {done : List OfMsg}

theorem create : BytesInOrder SendHistory.create [] where
  accepted := rfl
  written := rfl
  waiting := trivial
  enabled := fun waits => absurd rfl waits

theorem waitingOk_append {pending : List SendMsgBuf} {msg : OfMsg}
    (waiting : WaitingOk pending) (nonempty : 0 < msg.dataLen) :
    WaitingOk (pending ++ [{ msg := msg, lengthSent := 0 }]) := by
  cases pending with
  | nil => exact ⟨nonempty, by simp⟩
  | cons msgBuf rest =>
  refine ⟨waiting.1, ?_⟩
  intro later member
  rcases mem_append.mp member with old | new
  · exact waiting.2 later old
  · rw [mem_singleton] at new
    subst new
    exact ⟨rfl, nonempty⟩

section

variable (inOrder : BytesInOrder history done)

include inOrder

/-- Behind messages that wait a new one waits. -/
theorem send_behind (waits : history.channel.sendMsgList ≠ []) {msg : OfMsg}
    (nonempty : 0 < msg.dataLen) {result : SendResult} {memory : SendMemory}
    (allocated : memory.nodeAllocated = true) (sendCalls : Nat) :
    cntlrTnsprtSendMsgToDpChannel history.channel msg result memory =
        ({ history.channel with
            sendMsgList := history.channel.sendMsgList ++ [{ msg := msg, lengthSent := 0 }] },
          true) ∧
      BytesInOrder
        { channel :=
            { history.channel with
              sendMsgList :=
                history.channel.sendMsgList ++ [{ msg := msg, lengthSent := 0 }] }
          accepted := history.accepted ++ [msg]
          sendCalls := sendCalls } done := by
  have enabled := inOrder.enabled waits
  have someWait : history.channel.sendMsgList.length > 0 := length_pos_iff.mpr waits
  constructor
  · rw [cntlrTnsprtSendMsgToDpChannel, if_pos someWait, add_newMsg allocated (by simp [enabled]),
      ← enabled]
  constructor
  · simp [inOrder.accepted]
  · have bytesEq : waitingBytes (history.channel.sendMsgList ++
        [{ msg := msg, lengthSent := 0 }]) = waitingBytes history.channel.sendMsgList := by
      cases pending : history.channel.sendMsgList with
      | nil => exact absurd pending waits
      | cons msgBuf rest => rfl
    rw [bytesEq]
    exact inOrder.written
  · exact waitingOk_append inOrder.waiting nonempty
  · exact fun _ => enabled

theorem send_whole (idle : history.channel.sendMsgList = []) (msg : OfMsg) (sendCalls : Nat) :
    BytesInOrder
      { channel := ({ history.channel.readMsg msg with
            written := history.channel.written ++ msg.data } : SendChannel).freeMsg msg
        accepted := history.accepted ++ [msg]
        sendCalls := sendCalls } (done ++ [msg]) where
  accepted := by simp [SendChannel.freeMsg, idle, inOrder.accepted]
  written := by simp [SendChannel.freeMsg, idle, inOrder.written, waitingBytes]
  waiting := by simp [SendChannel.freeMsg, idle, WaitingOk]
  enabled := by simp [SendChannel.freeMsg, idle]

theorem send_partly (idle : history.channel.sendMsgList = []) {msg : OfMsg} {length : Nat}
    (short : length < msg.dataLen) (sendCalls : Nat) :
    BytesInOrder
      { channel :=
          { history.channel.readMsg msg with
            sendMsgList := [{ msg := msg, lengthSent := length }]
            epollWrEnabled := true
            written := history.channel.written ++ msg.data.take length }
        accepted := history.accepted ++ [msg]
        sendCalls := sendCalls } done where
  accepted := by simp [idle, inOrder.accepted]
  written := by simp [idle, inOrder.written, waitingBytes]
  waiting := ⟨short, by simp⟩
  enabled := fun _ => rfl

theorem writable_inOrder {results : List SendResult} (uninitialised : Nat) (memory : SendMemory)
    (notFailed : .failed ∉ results) :
    ∃ done', BytesInOrder (sendStep history (.writable results uninitialised memory)) done' := by
  simp only [sendStep, ofSendAllMsgsWaitingOnChnToDp]
  by_cases idle : history.channel.sendMsgList = []
  · refine ⟨done, ?_⟩
    have accepted := inOrder.accepted
    have written := inOrder.written
    rw [idle] at accepted written ⊢
    exact ⟨accepted, written, trivial, fun waits => absurd rfl waits⟩
  obtain ⟨sent, split, written, waiting, enabled⟩ :=
    sendWaiting_inOrder inOrder.waiting notFailed (inOrder.enabled idle) inOrder.written
      uninitialised
  refine ⟨done ++ sent, ?_⟩
  split
  · next emptied =>
      refine ⟨?_, by simpa using written, waiting, ?_⟩
      · rw [inOrder.accepted, split, append_assoc]
      · exact fun waits => absurd (length_eq_zero_iff.mp emptied) waits
  · refine ⟨?_, by simpa using written, waiting, fun _ => enabled⟩
    rw [inOrder.accepted, split, append_assoc]

theorem written_prefix : history.channel.written <+: bytesOf history.accepted := by
  rw [inOrder.accepted, inOrder.written, bytesOf_append]
  refine (prefix_append_right_inj _).mpr ?_
  cases history.channel.sendMsgList with
  | nil => exact nil_prefix
  | cons msgBuf rest => exact (List.take_prefix _ _).trans (prefix_append _ _)

end

end BytesInOrder

variable {history : SendHistory} {event : SendEvent}

/-! ## Release of the message buffers -/

/-- The promise of the transmit path: the bytes written are a prefix of the
accepted messages in order of acceptance, and a message buffer is released once,
exactly when its last byte was written, and not touched afterwards. -/
structure Transmits (history : SendHistory) : Prop where
  inOrder : history.channel.written <+: bytesOf history.accepted
  freedOnce : history.channel.freed.Nodup
  freed_iff : ∀ before msg after, history.accepted = before ++ msg :: after →
    (msg.id ∈ history.channel.freed ↔
      (bytesOf (before ++ [msg])).length ≤ history.channel.written.length)
  neverRead : history.channel.readAfterFree = []

/-- Events that finish no waiting message: the socket takes less than the rest of
the first one. -/
def SendEvent.LeavesWaiting (history : SendHistory) (event : SendEvent) : Prop :=
  event.Retryable history ∧
    match event, history.channel.sendMsgList with
    | .writable results _ _, msgBuf :: _ =>
      ¬ (results.headD .wouldBlock).Completes (msgBuf.msg.dataLen - msgBuf.lengthSent)
    | _, _ => True

/-- The buffers released are those of the messages sent completely. -/
structure FreedInOrder (history : SendHistory) (done : List OfMsg) : Prop where
  inOrder : BytesInOrder history done
  freed : history.channel.freed = done.map OfMsg.id
  neverRead : history.channel.readAfterFree = []
  distinct : (history.accepted.map OfMsg.id).Nodup
  known : ∀ msg ∈ history.accepted, msg.id < history.sendCalls

namespace FreedInOrder

variable {history : SendHistory} {done : List OfMsg}

theorem create : FreedInOrder SendHistory.create [] where
  inOrder := BytesInOrder.create
  freed := rfl
  neverRead := rfl
  distinct := nodup_nil
  known := by simp [SendHistory.create]

theorem waiting_live (freedInOrder : FreedInOrder history done) {msgBuf : SendMsgBuf}
    (waits : msgBuf ∈ history.channel.sendMsgList) :
    msgBuf.msg.id ∉ history.channel.freed := by
  have distinct := freedInOrder.distinct
  rw [freedInOrder.inOrder.accepted, map_append] at distinct
  rw [freedInOrder.freed]
  intro released
  have waitingId : msgBuf.msg.id ∈ (history.channel.sendMsgList.map SendMsgBuf.msg).map OfMsg.id :=
    mem_map_of_mem (mem_map_of_mem waits)
  exact (nodup_append.mp distinct).2.2 _ released _ waitingId rfl

private theorem waiting_lacks_bytes {pending : List SendMsgBuf} {skipped after : List OfMsg}
    {msg : OfMsg} (waiting : WaitingOk pending)
    (pendingEq : pending.map SendMsgBuf.msg = skipped ++ msg :: after) :
    (waitingBytes pending).length < (bytesOf (skipped ++ [msg])).length := by
  cases pending with
  | nil => simp at pendingEq
  | cons msgBuf rest =>
  have started : msgBuf.lengthSent < msgBuf.msg.dataLen := waiting.1
  have firstLe : msgBuf.msg.data.length ≤ (bytesOf (skipped ++ [msg])).length := by
    cases skipped with
    | nil =>
      have first : msgBuf.msg = msg := by simpa using (List.cons.inj pendingEq).1
      simp [first]
    | cons head more =>
      have first : msgBuf.msg = head := (List.cons.inj pendingEq).1
      simp [bytesOf, first]
  rw [OfMsg.dataLen] at started
  rw [waitingBytes, length_take]
  omega

section

variable (freedInOrder : FreedInOrder history done)

include freedInOrder

theorem freed_iff_waiting {skipped after : List OfMsg} {msg : OfMsg}
    (pendingEq : history.channel.sendMsgList.map SendMsgBuf.msg = skipped ++ msg :: after) :
    msg.id ∈ history.channel.freed ↔
      (bytesOf (done ++ skipped ++ [msg])).length ≤ history.channel.written.length := by
  have lacking := waiting_lacks_bytes freedInOrder.inOrder.waiting pendingEq
  have waits : msg ∈ history.channel.sendMsgList.map SendMsgBuf.msg := by
    rw [pendingEq]
    simp
  obtain ⟨msgBuf, member, rfl⟩ := mem_map.mp waits
  rw [freedInOrder.inOrder.written, append_assoc, bytesOf_append, length_append, length_append]
  exact iff_of_false (freedInOrder.waiting_live member) (by omega)

/-- A message is freed exactly when its last byte is written. -/
theorem freed_iff {before after : List OfMsg} {msg : OfMsg}
    (accepted : history.accepted = before ++ msg :: after) :
    msg.id ∈ history.channel.freed ↔
      (bytesOf (before ++ [msg])).length ≤ history.channel.written.length := by
  rw [freedInOrder.inOrder.accepted] at accepted
  rcases append_eq_append_iff.mp accepted with
    ⟨skipped, beforeEq, pendingEq⟩ | ⟨rest, doneEq, restEq⟩
  · rw [beforeEq]
    exact freedInOrder.freed_iff_waiting pendingEq
  cases rest with
  | nil =>
    have pendingEq : history.channel.sendMsgList.map SendMsgBuf.msg =
        [] ++ msg :: after := by simpa using restEq.symm
    have waiting := freedInOrder.freed_iff_waiting pendingEq
    simpa [doneEq] using waiting
  | cons first more =>
  obtain ⟨firstEq, -⟩ := List.cons.inj restEq
  subst firstEq
  have isDone : msg.id ∈ history.channel.freed := by
    rw [freedInOrder.freed, doneEq]
    simp
  refine iff_of_true isDone ?_
  rw [freedInOrder.inOrder.written, doneEq]
  simp only [bytesOf, flatMap_append, flatMap_cons, flatMap_nil, length_append, length_nil]
  omega

theorem transmits : Transmits history where
  inOrder := freedInOrder.inOrder.written_prefix
  freedOnce := by
    have distinct := freedInOrder.distinct
    rw [freedInOrder.inOrder.accepted, map_append] at distinct
    rw [freedInOrder.freed]
    exact (nodup_append.mp distinct).1
  freed_iff := fun _ _ _ accepted => freedInOrder.freed_iff accepted
  neverRead := freedInOrder.neverRead

end

/-- One attempt that leaves the first waiting message incomplete. -/
theorem sendWaiting_partly {channel : SendChannel} {msgBuf : SendMsgBuf}
    (rest : List SendMsgBuf) {results : List SendResult} (memory : SendMemory)
    (live : msgBuf.msg.id ∉ channel.freed)
    (started : msgBuf.lengthSent < msgBuf.msg.dataLen)
    (enabled : channel.epollWrEnabled = true)
    (notFailed : results.headD .wouldBlock ≠ .failed)
    (partly : ¬ (results.headD .wouldBlock).Completes (msgBuf.msg.dataLen - msgBuf.lengthSent))
    (previous : Nat) :
    ∃ length written, length < msgBuf.msg.dataLen ∧
      sendWaiting memory (msgBuf :: rest) results previous channel =
        { channel with
          sendMsgList := { msgBuf with lengthSent := length } :: rest
          written := written } := by
  have notEmpty : msgBuf.msg.dataLen ≠ 0 := by omega
  cases result : results.headD .wouldBlock with
  | failed => exact absurd result notFailed
  | wouldBlock =>
    refine ⟨msgBuf.lengthSent, channel.written, started, ?_⟩
    simp only [sendWaiting, result, try_wouldBlock enabled,
      SendChannel.readMsg_live _ _ live, getD_some, if_true, if_neg notEmpty]
  | sent count =>
  have short : count < msgBuf.msg.dataLen - msgBuf.lengthSent := by
    by_contra enough
    exact partly ⟨count, result, by omega⟩
  have lengthEq : ((msgBuf.msg.data.drop msgBuf.lengthSent).take count).length = count := by
    rw [length_take, length_drop]
    exact Nat.min_eq_left (Nat.le_of_lt short)
  have small : msgBuf.msg.dataLen < 2 ^ 16 := msgBuf.msg.dataLen_lt
  have stays : ((msgBuf.msg.data.drop msgBuf.lengthSent).take count).length <
      msgBuf.msg.dataLen := by omega
  have sumEq : uint16Add msgBuf.lengthSent count = msgBuf.lengthSent + count :=
    uint16Add_of_lt (by omega)
  have incomplete : ¬ (msgBuf.msg.dataLen = msgBuf.lengthSent + count ∨
      msgBuf.msg.dataLen = 0) := by omega
  have stillLive : ∀ written, ({ channel with written := written } :
      SendChannel).readMsg msgBuf.msg = { channel with written := written } := by
    intro written
    exact SendChannel.readMsg_live _ _ live
  simp only [sendWaiting, result, try_sent_partly enabled stays,
    SendChannel.readMsg_live _ _ live, getD_some, lengthEq, if_neg notEmpty, sumEq,
    if_neg incomplete, stillLive]
  split
  · exact ⟨msgBuf.lengthSent, _, started, rfl⟩
  · exact ⟨msgBuf.lengthSent + count, _, by omega, rfl⟩

section

variable (freedInOrder : FreedInOrder history done)

include freedInOrder

variable {memory : SendMemory}

/-- A writable event that leaves its rest waiting keeps the order. -/
theorem writable {results : List SendResult} {uninitialised : Nat}
    (leaves : (SendEvent.writable results uninitialised memory).LeavesWaiting history) :
    FreedInOrder (sendStep history (.writable results uninitialised memory)) done := by
  obtain ⟨notFailed, stays⟩ := leaves
  cases pending : history.channel.sendMsgList with
  | nil =>
    have stepEq : sendStep history (.writable results uninitialised memory) =
        { history with
          channel := { history.channel with sendMsgList := [], epollWrEnabled := false } } := by
      simp [sendStep, ofSendAllMsgsWaitingOnChnToDp, pending, sendWaiting]
    rw [stepEq]
    have accepted := freedInOrder.inOrder.accepted
    have written := freedInOrder.inOrder.written
    rw [pending] at accepted written
    exact
      ⟨⟨accepted, written, trivial, fun waits => absurd rfl waits⟩, freedInOrder.freed,
        freedInOrder.neverRead, freedInOrder.distinct, freedInOrder.known⟩
  | cons msgBuf rest =>
  have firstNotFailed : results.headD .wouldBlock ≠ .failed := by
    cases results with
    | nil => simp
    | cons result more => exact fun same => notFailed (by simp [← same])
  have member : msgBuf ∈ history.channel.sendMsgList := by simp [pending]
  have waiting := freedInOrder.inOrder.waiting
  rw [pending] at stays waiting
  obtain ⟨length, written, short, scanEq⟩ :=
    sendWaiting_partly rest memory (freedInOrder.waiting_live member) waiting.1
      (freedInOrder.inOrder.enabled (by simp [pending])) firstNotFailed stays uninitialised
  have stepEq : sendStep history (.writable results uninitialised memory) =
      { history with
        channel :=
          { history.channel with
            sendMsgList := { msgBuf with lengthSent := length } :: rest
            written := written } } := by
    simp only [sendStep, ofSendAllMsgsWaitingOnChnToDp, pending, scanEq]
    rfl
  obtain ⟨done', inOrder'⟩ := freedInOrder.inOrder.writable_inOrder uninitialised memory notFailed
  rw [stepEq] at inOrder' ⊢
  have accepted := freedInOrder.inOrder.accepted
  have accepted' := inOrder'.accepted
  rw [pending] at accepted
  have same : done = done' := by
    have both := accepted.symm.trans accepted'
    exact append_cancel_right both
  subst same
  exact
    ⟨inOrder', freedInOrder.freed, freedInOrder.neverRead, freedInOrder.distinct,
      freedInOrder.known⟩

variable (data : List UInt8)

theorem newMsg_live (dataLen_lt : data.length < 2 ^ 16) :
    (history.newMsg data dataLen_lt).id ∉ history.channel.freed := by
  rw [freedInOrder.freed]
  intro released
  obtain ⟨msg, member, idEq⟩ := mem_map.mp released
  have known := freedInOrder.known msg (by rw [freedInOrder.inOrder.accepted]; simp [member])
  rw [idEq] at known
  exact Nat.lt_irrefl _ known

theorem newMsg_distinct (dataLen_lt : data.length < 2 ^ 16) :
    ((history.accepted ++ [history.newMsg data dataLen_lt]).map OfMsg.id).Nodup := by
  rw [map_append]
  refine nodup_append.mpr ⟨freedInOrder.distinct, nodup_singleton _, ?_⟩
  intro id member id' member' same
  obtain ⟨msg, accepted, idEq⟩ := mem_map.mp member
  have known := freedInOrder.known msg accepted
  have newId : id' = history.sendCalls := by simpa [SendHistory.newMsg] using member'
  omega

theorem newMsg_known (dataLen_lt : data.length < 2 ^ 16) :
    ∀ msg ∈ history.accepted ++ [history.newMsg data dataLen_lt],
      msg.id < history.sendCalls + 1 := by
  intro msg member
  rcases mem_append.mp member with old | new
  · exact Nat.lt_succ_of_lt (freedInOrder.known msg old)
  · rw [mem_singleton] at new
    subst new
    exact Nat.lt_succ_self _

/-- A send that can be tried again keeps the order. -/
theorem send {data : List UInt8} {dataLen_lt : data.length < 2 ^ 16} {result : SendResult}
    (retryable : (SendEvent.send data dataLen_lt result memory).Retryable history) :
    ∃ done', FreedInOrder (sendStep history (.send data dataLen_lt result memory)) done' := by
  obtain ⟨nonempty, notFailed, served⟩ := retryable
  have msgNonempty : 0 < (history.newMsg data dataLen_lt).dataLen := nonempty
  have live := freedInOrder.newMsg_live data dataLen_lt
  have distinct := freedInOrder.newMsg_distinct data dataLen_lt
  have known := freedInOrder.newMsg_known data dataLen_lt
  simp only [sendStep]
  by_cases idle : history.channel.sendMsgList = []
  · by_cases completes : result.Completes (history.newMsg data dataLen_lt).dataLen
    · have inOrder := freedInOrder.inOrder.send_whole idle (history.newMsg data dataLen_lt)
        (history.sendCalls + 1)
      rw [SendChannel.readMsg_live _ _ live] at inOrder
      rw [send_idle_whole idle completes, SendChannel.readMsg_live _ _ live]
      refine ⟨_, inOrder, ?_, freedInOrder.neverRead, distinct, known⟩
      simp [SendChannel.freeMsg, freedInOrder.freed]
    · obtain ⟨allocated, modified⟩ := served (.inr completes)
      obtain ⟨length, short, sentEq⟩ :=
        send_idle_partly idle msgNonempty notFailed completes allocated modified
      have inOrder := freedInOrder.inOrder.send_partly idle short (history.sendCalls + 1)
      rw [SendChannel.readMsg_live _ _ live] at inOrder sentEq
      rw [sentEq]
      exact ⟨_, inOrder, freedInOrder.freed, freedInOrder.neverRead, distinct, known⟩
  · have allocated := (served (.inl idle)).1
    obtain ⟨sentEq, inOrder⟩ := freedInOrder.inOrder.send_behind idle msgNonempty allocated
      (history.sendCalls + 1)
    rw [sentEq]
    exact ⟨_, inOrder, freedInOrder.freed, freedInOrder.neverRead, distinct, known⟩

theorem step {event : SendEvent} (leaves : event.LeavesWaiting history) :
    ∃ done', FreedInOrder (sendStep history event) done' := by
  cases event with
  | send data dataLen_lt result memory => exact freedInOrder.send leaves.1
  | writable results uninitialised memory => exact ⟨done, freedInOrder.writable leaves⟩

end

end FreedInOrder

/-- Some of the accepted messages are sent completely and released. -/
def SendHistory.Released (history : SendHistory) : Prop :=
  ∃ done, FreedInOrder history done

theorem SendHistory.Released.step (released : history.Released)
    (leaves : event.LeavesWaiting history) : (sendStep history event).Released := by
  obtain ⟨done, freedInOrder⟩ := released
  exact freedInOrder.step leaves

/-- As long as no writable event finishes a waiting message, the transmit path
keeps its promise. -/
theorem channel_transmits (events : List SendEvent)
    (leaves : Along sendStep (fun history event => event.LeavesWaiting history)
      SendHistory.create events) :
    Transmits (events.foldl sendStep SendHistory.create) := by
  have start : SendHistory.create.Released := ⟨[], FreedInOrder.create⟩
  obtain ⟨done, freedInOrder⟩ :=
    Along.invariant (fun _ _ invariant allowed => invariant.step allowed) start leaves
  exact freedInOrder.transmits

/-- A message sent at once, one cut short, one behind it, and a writable event. -/
theorem channel_transmits_some :
    let memory : SendMemory := { nodeAllocated := true, epollModified := true }
    let events : List SendEvent :=
      [.send [1, 2] (by decide) (.sent 2) memory, .send [3, 4, 5] (by decide) (.sent 1) memory,
        .send [6] (by decide) .wouldBlock memory, .writable [.sent 1] 0 memory]
    Transmits (events.foldl sendStep SendHistory.create) :=
  channel_transmits _ (by
    simp [SendEvent.LeavesWaiting, SendEvent.Retryable, SendResult.Completes, sendStep,
      SendHistory.create, SendChannel.create, cntlrTnsprtSendMsgToDpChannel,
      cntlrTnsprtTry2SendMsgOnLine, SendHistory.newMsg, OfMsg.dataLen, SendChannel.readMsg,
      SendChannel.freeMsg, ofAdd2Epoll4WrEvent, enableWrEvent])

/-- A message that could not be sent at once and goes out whole on the next
writable event is released and then looked at again. -/
theorem finished_waiting_message_read_after_free :
    let memory : SendMemory := { nodeAllocated := true, epollModified := true }
    let events : List SendEvent :=
      [.send [1, 2] (by decide) .wouldBlock memory, .writable [.sent 2] 0 memory]
    let reached := events.foldl sendStep SendHistory.create
    reached.channel.written = [1, 2] ∧ reached.channel.freed = [0] ∧
      reached.channel.readAfterFree = [0] ∧ ¬ Transmits reached := by
  intro memory events reached
  have readAgain : reached.channel.readAfterFree = [0] := by decide
  refine ⟨by decide, by decide, readAgain, ?_⟩
  intro transmits
  have never := transmits.neverRead
  exact absurd never (by decide)

end OpenFlowController.Transport
