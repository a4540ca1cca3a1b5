/-
Module: Messages.MsgReader
Purpose: The bytes that a channel reads from its socket: the message pools, the two readers that
  fill the buffer of the message the channel is receiving, the handlers of the message table as
  far as they read, and the events that a channel handles during the handshake and when bound.
Source: ofproto/src/messages/of_cntlr_msg.c, ofproto/src/include/cntlr_transprt.h,
  ofproto/src/transport/base/channel_fsm.c, ofproto/src/transport/base/trnsprt_epoll.c,
  ofproto/src/transport/base/trnsprt_msg.c, ofproto/src/transport/tcp/tcp_api.c,
  src/include/pktmbuf.h
Trusted boundary: bytes arrive between the read events of a channel, a buffer is the list of bytes
  written into it, a write beyond its room or a null pointer leaves the channel undefined, and
  callbacks do not touch the receive state
-/
import OpenFlowController.Include.Openflow
import OpenFlowController.Library.MachineInt
import OpenFlowController.Transport.DpChannel

namespace OpenFlowController.Messages

open Include Library Transport

/-! ## `struct ofp_header` as it stands on the wire -/

def hdrVersion (header : List UInt8) : UInt8 := header.getD 0 0

def hdrType (header : List UInt8) : UInt8 := header.getD 1 0

/-- `ntohs(msg_hdr.length)`. -/
def ntohsLength (header : List UInt8) : Nat :=
  256 * (header.getD 2 0).toNat + (header.getD 3 0).toNat

/-- `msg_hdr.length` without `ntohs`. -/
def rawLength (host : ByteOrder) (header : List UInt8) : Nat :=
  match host with
  | .littleEndian => 256 * (header.getD 3 0).toNat + (header.getD 2 0).toNat
  | .bigEndian => ntohsLength header

/-- `sizeof(struct ofp_header)`. -/
def sizeofOfpHeader : Nat := 8

/-- The memory after bytes are copied to an offset of it. -/
def writeAt (memory : List UInt8) (offset : Nat) (bytes : List UInt8) : List UInt8 :=
  memory.takeD offset 0 ++ bytes ++ memory.drop (offset + bytes.length)

/-! ## The channel -/

/-- `OF_CHN_*`, the state of the message that a channel receives. -/
inductive MsgState where
  | waitingForNewMsg
  | waitingForMsgHeader
  | startReadingMsg
  | waitingForCompleteMsg
  | rcvdCompleteMsg
  | drainOutCompleteMsg
deriving DecidableEq

/-- The descriptor of a `struct of_msg` that is being received.  `ptr1` is kept as
an offset from `start_of_data`, and `room` is what the buffer holds from there. -/
structure MsgBuf where
  room : Nat
  data : List UInt8
  ptr1 : Nat
  length1 : Nat
  dataLen : Nat

/-- The message a handler finds in the buffer, which was allocated with zeros. -/
def MsgBuf.message (buf : MsgBuf) : List UInt8 := buf.data.takeD buf.dataLen 0

/-- What a step does with a length: it asks the transport for `len` bytes into a
buffer that has room for `room`, or subtracts. -/
inductive Access where
  | request (room len : Nat)
  | subtract (minuend subtrahend : Nat)

/-- The part of `cntlr_channel_info_t` that its receive path uses.  `readFail` tells
that `fsm_event` is the read-fail event and `sentHello` that `state` is
`OF_TRNSPRT_CHN_SENT_HELLO_TO_DP`.  `inbox` is what the socket holds, `accesses`
what the current event does with lengths, and `handed` the messages that
handlers were given. -/
structure RecvChannel where
  fsmState : ChannelFsmState
  sentHello : Bool
  msgState : MsgState
  msgHdr : List UInt8
  hdrLenRead : Nat
  msgLenRead : Nat
  msgBuf : Option MsgBuf
  drainOutBytes : Nat
  readFail : Bool
  inbox : List UInt8
  undefined : Bool
  accesses : List Access
  handed : List (List UInt8)

/-- How `of_add_channel_to_dp` and the configuration after it end. -/
inductive AttachOutcome where
  | attached
  | notConfigured
  | failed
  | dpInvalid
  | other

/-- One read event: the bytes that arrived since the last one, whether the peer
closed behind them, the value of `invalid_channel_state_g`, which all channels
share, and what the rest of the controller answers inside the event.
`pktbufAlloc` is the room that a registered `pktbuf_alloc` gives for so many
bytes; `fslxSubtype` is `ntohs` of the word that lies 12 bytes behind the start
of `msg_hdr` in the channel. -/
structure ReadEvent where
  arrived : List UInt8
  peerClosed : Bool
  invalidChannelState : Nat
  poolAvailable : Bool
  pktbufAlloc : Option (Nat → Option Nat)
  xidKnown : Bool
  fslxSubtype : UInt16
  attach : AttachOutcome
  handshakeSent : Bool

namespace RecvChannel

@[simps]
def access (c : RecvChannel) (done : Access) : RecvChannel :=
  { c with accesses := c.accesses ++ [done] }

/-- `OF_TRNSPRT_CHN_RESET_2_READ_NEW_MSG`. -/
@[simps]
def reset2ReadNewMsg (c : RecvChannel) : RecvChannel :=
  { c with msgBuf := none, msgState := .waitingForNewMsg, hdrLenRead := 0 }

/-- The close event, which detaches the channel and closes its socket. -/
@[simps]
def close (c : RecvChannel) : RecvChannel :=
  { c with fsmState := .closeConn }

@[simps]
def crash (c : RecvChannel) : RecvChannel :=
  { c with undefined := true }

@[simps]
def hand (c : RecvChannel) (message : List UInt8) : RecvChannel :=
  { c with handed := c.handed ++ [message] }

end RecvChannel

/-! ## Reading and draining -/

/-- `tcp_transport_read_data` into a buffer with so much room: `none` when the
socket has nothing. -/
def transportRead (c : RecvChannel) (room len : Nat) (peek : Bool) :
    Option (List UInt8) × RecvChannel :=
  let c := c.access (.request room len)
  if len = 0 then
    (some [], c)
  else if c.inbox = [] ∨ c.fsmState = .closeConn then
    (none, c)
  else
    let got := c.inbox.take len
    (some got,
      { c with
        inbox := if peek then c.inbox else c.inbox.drop len
        undefined := c.undefined || decide (room < got.length) })

/-- `drain_out_bytes = msg_hdr.length - sizeof(struct ofp_header)`. -/
def setDrainOutBytes (host : ByteOrder) (c : RecvChannel) : RecvChannel :=
  { c.access (.subtract (rawLength host c.msgHdr) sizeofOfpHeader) with
    drainOutBytes := uint32Sub (rawLength host c.msgHdr) sizeofOfpHeader }

/-- The loop of `of_drain_out_socket_buf` over a read into its buffer. -/
def drainLoop (read : RecvChannel → Nat → Option (List UInt8) × RecvChannel) :
    Nat → RecvChannel → Nat → Bool × RecvChannel
  | 0, c, _ => (true, c)
  | fuel + 1, c, bytesToRead =>
    if bytesToRead = 0 then
      (true, c)
    else
      match read c (min bytesToRead 256) with
      | (none, c) =>
        (false, { c with msgState := .waitingForNewMsg, drainOutBytes := 0 })
      | (some got, c) =>
        let left := bytesToRead - got.length
        let c := if left = 0 then
            { c with msgState := .waitingForNewMsg, drainOutBytes := 0 }
          else
            c
        drainLoop read fuel c left

/-- `cntlr_read_msg_recvd_from_dp` while `fsm_event` already is the read-fail
event: it fails without another drain. -/
def readAfterFailure (host : ByteOrder) (e : ReadEvent) (c : RecvChannel) (room len : Nat) :
    Option (List UInt8) × RecvChannel :=
  match transportRead c room len false with
  | (some got, c) => (some got, c)
  | (none, c) =>
    let c := { c with msgState := .drainOutCompleteMsg }
    if e.peerClosed ∧ c.fsmState ≠ .closeConn then
      (none, (setDrainOutBytes host { c with readFail := false }).close)
    else
      (none, c)

def fsmXprtProtoChannelReadError (host : ByteOrder) (e : ReadEvent) (c : RecvChannel) :
    RecvChannel :=
  if c.msgState = .drainOutCompleteMsg then
    let bytes := uint16OfUint32 c.drainOutBytes
    (drainLoop (fun c len => readAfterFailure host e c 256 len) bytes c bytes).2
  else
    c

/-- `cntlr_read_msg_recvd_from_dp`, which is
`fsm_xprt_proto_channel_read_msg_from_dp`.  A closed channel has no handler that
drains. -/
def cntlrReadMsgRecvdFromDp (host : ByteOrder) (e : ReadEvent) (c : RecvChannel)
    (room len : Nat) : Option (List UInt8) × RecvChannel :=
  match transportRead c room len false with
  | (some got, c) => (some got, c)
  | (none, c) =>
    let c := { c with msgState := .drainOutCompleteMsg }
    if e.peerClosed ∧ c.fsmState ≠ .closeConn then
      (none, (setDrainOutBytes host { c with readFail := false }).close)
    else if c.readFail then
      (none, c)
    else
      let c := setDrainOutBytes host { c with readFail := true }
      if c.fsmState = .closeConn then
        (none, c)
      else
        (none, fsmXprtProtoChannelReadError host e c)

/-- `of_drain_out_socket_buf`, with its buffer of 256 bytes. -/
def ofDrainOutSocketBuf (host : ByteOrder) (e : ReadEvent) (c : RecvChannel)
    (length : Nat) : Bool × RecvChannel :=
  drainLoop (fun c len => cntlrReadMsgRecvdFromDp host e c 256 len) length c length

/-! ## The message pools -/

/-- The pool for a message that is `newSize` bytes above the start of a group of pools
with block sizes `granularity` apart.  The index is a `uint8_t`. -/
def msgPoolIndexIn (newSize granularity firstPool : Nat) : Nat :=
  let poolIndex := newSize / granularity + firstPool
  if newSize % granularity = 0 then
    if poolIndex = 0 then 255 else poolIndex - 1
  else
    poolIndex

/-- The pool that `ofu_alloc_message` takes a message of so many bytes from. -/
def msgPoolIndex (size : Nat) : Nat :=
  if 7040 ≤ size then
    msgPoolIndexIn (size - 7040) 2048 22
  else if 1408 ≤ size then
    msgPoolIndexIn (size - 1408) 512 11
  else
    msgPoolIndexIn size 128 0

/-- `block_size` as `of_cntlr_msg_init` sets it: 11 pools in each of three groups. -/
def msgPoolBlockSize (poolIndex : Nat) : Option Nat :=
  if poolIndex < 11 then
    some ((poolIndex + 1) * 128)
  else if poolIndex < 22 then
    some (1408 + (poolIndex - 10) * 512)
  else if poolIndex < 33 then
    some (7040 + (poolIndex - 21) * 2048)
  else
    none

/-- `ofu_alloc_message`: the room of the block it returns. -/
def ofuAllocMessage (e : ReadEvent) (size : Nat) : Option Nat :=
  if e.poolAvailable then
    msgPoolBlockSize (msgPoolIndex (uint16OfUint32 ((size + 7) / 8 * 8)))
  else
    none

/-- The room of the buffer that `of_alloc_and_read_async_message` allocates without
configured memory primitives: a packet-in gets a buffer for what follows its
fixed part. -/
def asyncMessageRoom (e : ReadEvent) (header : List UInt8) : Option Nat :=
  let length := ntohsLength header
  if hdrType header = Ofpt.packetIn then
    let size := uint16Sub length 32
    match e.pktbufAlloc with
    | some alloc => alloc size
    | none => ofuAllocMessage e size
  else
    ofuAllocMessage e length

/-- The subtraction in the allocation for a packet-in. -/
def accessPacketInLength (c : RecvChannel) : RecvChannel :=
  if hdrType c.msgHdr = Ofpt.packetIn then
    c.access (.subtract (ntohsLength c.msgHdr) 32)
  else
    c

/-! ## The two readers -/

/-- A buffer that holds the header of the message. -/
def MsgBuf.ofHeader (room : Nat) (header : List UInt8) : MsgBuf :=
  { room := room
    data := header
    ptr1 := sizeofOfpHeader
    length1 := sizeofOfpHeader
    dataLen := sizeofOfpHeader }

/-- No buffer could be had: the body is drained. -/
def drainUnbuffered (host : ByteOrder) (e : ReadEvent) (c : RecvChannel) : RecvChannel :=
  let length := ntohsLength c.msgHdr
  (ofDrainOutSocketBuf host e (c.access (.subtract length sizeofOfpHeader))
    (uint16Sub length sizeofOfpHeader)).2

/-- The bytes `[ptr1, ptr1 + bytes)` of the buffer. -/
def MsgBuf.fill (buf : MsgBuf) (bytes : List UInt8) : MsgBuf :=
  { buf with data := writeAt buf.data buf.ptr1 bytes }

/-- A read that goes on with a message, in the readers' branch for a message whose
first part was read before. -/
def readOn (host : ByteOrder) (e : ReadEvent) (c : RecvChannel) : Bool × RecvChannel :=
  match c.msgBuf with
  | none => (true, c.crash)
  | some buf =>
    let length := ntohsLength c.msgHdr
    let len := uint16OfUint32 (uint32Sub length buf.length1)
    match cntlrReadMsgRecvdFromDp host e (c.access (.subtract length buf.length1))
        (buf.room - buf.ptr1) len with
    | (none, c) => (false, c)
    | (some got, c) =>
      if got.length = len then
        (true,
          { c with
            msgState := .rcvdCompleteMsg
            msgBuf := some { buf.fill got with dataLen := buf.length1 + got.length } })
      else
        (true,
          { c with
            msgBuf := some
              { buf.fill got with
                ptr1 := buf.ptr1 + got.length
                length1 := buf.length1 + got.length } })

/-- `of_alloc_and_read_async_message`.  A first read that is short leaves `ptr1` at
the start of the body and its length in `msg_len_read`, a `uint8_t`. -/
def ofAllocAndReadAsyncMessage (host : ByteOrder) (e : ReadEvent) (c : RecvChannel) :
    Bool × RecvChannel :=
  if c.msgState = .startReadingMsg then
    let c := accessPacketInLength c
    match asyncMessageRoom e c.msgHdr with
    | none => (false, drainUnbuffered host e c)
    | some room =>
      let length := ntohsLength c.msgHdr
      let buf := MsgBuf.ofHeader room c.msgHdr
      let len := uint16Sub length sizeofOfpHeader
      let c :=
        { c.access (.subtract length sizeofOfpHeader) with
          msgBuf := some buf
          msgState := .waitingForCompleteMsg
          undefined := c.undefined || decide (room < sizeofOfpHeader) }
      if len = 0 then
        (true, { c with msgState := .rcvdCompleteMsg })
      else
        match cntlrReadMsgRecvdFromDp host e c (room - sizeofOfpHeader) len with
        | (none, c) => (false, { c with msgBuf := none })
        | (some got, c) =>
          if got.length = len then
            (true,
              { c with
                msgState := .rcvdCompleteMsg
                msgBuf := some
                  { buf.fill got with dataLen := buf.length1 + got.length } })
          else
            (true,
              { c with
                msgBuf := some { buf.fill got with length1 := buf.length1 + got.length }
                msgLenRead := got.length % 256 })
  else if c.msgState = .waitingForCompleteMsg ∨ c.msgState = .waitingForMsgHeader then
    match readOn host e c with
    | (false, c) => (false, { c with msgBuf := none })
    | (true, c) => (true, c)
  else
    (true, c)

/-- `of_alloc_and_read_message_from_dp`.  A first read that is short moves `ptr1` and
leaves `msg_len_read` as it was. -/
def ofAllocAndReadMessageFromDp (host : ByteOrder) (e : ReadEvent) (c : RecvChannel) :
    Bool × RecvChannel :=
  if c.msgState = .startReadingMsg then
    let length := ntohsLength c.msgHdr
    match ofuAllocMessage e length with
    | none => (false, drainUnbuffered host e c)
    | some room =>
      let buf := MsgBuf.ofHeader room c.msgHdr
      let len := uint16Sub length sizeofOfpHeader
      let c :=
        { c.access (.subtract length sizeofOfpHeader) with msgBuf := some buf }
      if len = 0 then
        (true, { c with msgState := .rcvdCompleteMsg })
      else
        match cntlrReadMsgRecvdFromDp host e c (room - sizeofOfpHeader) len with
        | (none, c) => (false, { c with msgBuf := none })
        | (some got, c) =>
          if got.length = len then
            (true,
              { c with
                msgState := .rcvdCompleteMsg
                msgBuf := some
                  { buf.fill got with dataLen := buf.length1 + got.length } })
          else
            (true,
              { c with
                msgState := .waitingForCompleteMsg
                msgBuf := some
                  { buf.fill got with
                    ptr1 := buf.ptr1 + got.length
                    length1 := buf.length1 + got.length } })
  else if c.msgState = .waitingForCompleteMsg then
    readOn host e c
  else
    (true, c)

/-! ## The message table -/

/-- The handlers in `cntlr_cbk`. -/
inductive MsgCbk where
  | hello
  | error
  | echoRequest
  | echoReply
  | experimenter
  | featuresReply
  | getConfigReply
  | packetIn
  | flowRemoved
  | portStatus
  | multipartReply
  | barrierReply
  | queueGetConfigReply
  | roleReply
  | getAsyncReply
deriving DecidableEq

def cntlrCbk : List (Option MsgCbk) :=
  [some .hello, some .error, some .echoRequest, some .echoReply, some .experimenter,
    none, some .featuresReply, none, some .getConfigReply, none,
    some .packetIn, some .flowRemoved, some .portStatus, none, none,
    none, none, none, none, some .multipartReply,
    none, some .barrierReply, none, some .queueGetConfigReply, none,
    some .roleReply, none, some .getAsyncReply, none, none]

/-! ## Handlers of asynchronous messages -/

/-- `OF_READ_ASYNC_MSG`: whether the handler goes on with a complete message. -/
def ofReadAsyncMsg (host : ByteOrder) (e : ReadEvent) (c : RecvChannel) : Bool × RecvChannel :=
  if c.msgState = .rcvdCompleteMsg then
    (true, c)
  else
    match ofAllocAndReadAsyncMessage host e c with
    | (false, c) => (false, c)
    | (true, c) => (decide (c.msgState ≠ .waitingForCompleteMsg), c)

/-- The handler uses the message in the buffer. -/
def handBuffered (c : RecvChannel) : RecvChannel :=
  match c.msgBuf with
  | some buf => c.hand buf.message
  | none => c.crash

/-- The end of the handlers of asynchronous messages. -/
def resetIfComplete (c : RecvChannel) : RecvChannel :=
  if c.msgState = .rcvdCompleteMsg then c.reset2ReadNewMsg else c

/-- `of_handle_experimenter_event`, `of_handle_pkt_in_msg`,
`of_handle_flow_removed_event` and `of_handle_port_status_msg_event`. -/
def ofHandleAsyncEvent (host : ByteOrder) (e : ReadEvent) (c : RecvChannel) : RecvChannel :=
  match ofReadAsyncMsg host e c with
  | (false, c) => resetIfComplete c
  | (true, c) => resetIfComplete (handBuffered c)

/-- Whether `of_handle_error_msg_event` looks up the transaction of this error: by
the type of the message that the error carries, unless its error type is
`OFPET_EXPERIMENTER`. -/
def errorLooksUp (message : List UInt8) : Bool :=
  let inner := message.getD 13 0
  !(message.getD 8 0 == 0xff && message.getD 9 0 == 0xff) &&
    (inner == Ofpt.echoRequest || inner == Ofpt.multipartRequest ||
      inner == Ofpt.barrierRequest || inner == Ofpt.groupMod ||
      inner == Ofpt.getConfigRequest)

/-- `of_handle_error_msg_event`.  It returns at once when the transaction that it
looks up is unknown. -/
def ofHandleErrorMsgEvent (host : ByteOrder) (e : ReadEvent) (c : RecvChannel) :
    RecvChannel :=
  match ofReadAsyncMsg host e c with
  | (false, c) => resetIfComplete c
  | (true, c) =>
    match c.msgBuf with
    | none => c.crash
    | some buf =>
      let c := c.hand buf.message
      if errorLooksUp buf.data ∧ e.xidKnown = false then
        c
      else
        resetIfComplete c

/-! ## Handlers of symmetric messages and replies -/

/-- The read at the start of these handlers, also as `OF_READ_COMPLETE_MSG`. -/
def ofReadCompleteMsg (host : ByteOrder) (e : ReadEvent) (c : RecvChannel) : Bool × RecvChannel :=
  if c.msgState = .rcvdCompleteMsg then
    (true, c)
  else
    match ofAllocAndReadMessageFromDp host e c with
    | (false, c) => (false, c)
    | (true, c) => (decide (c.msgState ≠ .waitingForCompleteMsg), c)

/-- `of_echo_req_handler`, `of_echo_reply_handler` and `of_cfg_reply_handler`, which
reset the channel whether the transaction is known or not. -/
def ofEchoHandler (host : ByteOrder) (e : ReadEvent) (c : RecvChannel) : RecvChannel :=
  match ofReadCompleteMsg host e c with
  | (false, c) => c
  | (true, c) => (handBuffered c).reset2ReadNewMsg

/-- The end of a handler that needs the transaction of the reply, from the datapath
that a closed channel lacks. -/
def finishReply (e : ReadEvent) (c : RecvChannel) : RecvChannel :=
  if c.fsmState = .closeConn then
    c.crash
  else if e.xidKnown then
    c.reset2ReadNewMsg
  else
    c

/-- `of_process_role_replymsg`: a message that is not complete is given up. -/
def ofProcessRoleReplymsg (host : ByteOrder) (e : ReadEvent) (c : RecvChannel) :
    RecvChannel :=
  match ofReadCompleteMsg host e c with
  | (false, c) => if c.msgState = .waitingForCompleteMsg then c.reset2ReadNewMsg else c
  | (true, c) => finishReply e (handBuffered c)

def ofProcessAsyncReplymsg (host : ByteOrder) (e : ReadEvent) (c : RecvChannel) :
    RecvChannel :=
  match ofReadCompleteMsg host e c with
  | (false, c) => c
  | (true, c) => finishReply e (handBuffered c)

/-- One bind entry: its fixed part goes into a message of its own, the rest, by the
entry's length field, into a buffer of 1024 bytes.  `none` when a read fails. -/
def readBindEntry (host : ByteOrder) (e : ReadEvent) (c : RecvChannel) (readBytes : Nat) :
    Option Nat × RecvChannel :=
  match ofuAllocMessage e 48 with
  | none => (none, c)
  | some room =>
    match cntlrReadMsgRecvdFromDp host e c room 48 with
    | (none, c) => (none, c)
    | (some entry, c) =>
      let entryLength := 256 * (entry.getD 46 0).toNat + (entry.getD 47 0).toNat
      let length := uint16Sub entryLength entry.length
      let c := c.access (.subtract entryLength entry.length)
      if length = 0 then
        (some (readBytes + entry.length), c)
      else
        match cntlrReadMsgRecvdFromDp host e c 1024 length with
        | (none, c) => (none, c)
        | (some rest, c) => (some (readBytes + entry.length + rest.length), c)

/-- The loop of `of_handle_bind_entry_stats_response`.  Its message is allocated by
the `subtype` of `fsl_msg_hdr`, which is set only when the 8-bit type of the
message is `OFPMP_EXPERIMENTER`. -/
def bindEntryLoop (host : ByteOrder) (e : ReadEvent) (bytesToRead : Nat) :
    Nat → RecvChannel → Nat → RecvChannel
  | 0, c, _ => c
  | entries + 1, c, readBytes =>
    if bytesToRead < readBytes ∨ 48 ≤ bytesToRead - readBytes then
      if (hdrType c.msgHdr).toNat = Ofpmp.experimenter.toNat then
        match readBindEntry host e c readBytes with
        | (none, c) => c
        | (some readBytes, c) =>
          bindEntryLoop host e bytesToRead entries c (readBytes % 2 ^ 16)
      else
        c.crash
    else
      c

/-- `of_handle_bind_entry_stats_response`.  The number of entries is computed in
`size_t` and kept in a `uint32_t`. -/
def ofHandleBindEntryStatsResponse (host : ByteOrder) (e : ReadEvent) (c : RecvChannel) :
    RecvChannel :=
  let length := ntohsLength c.msgHdr
  let c := c.access (.subtract length 24)
  let noOfBindstats :=
    (if 24 ≤ length then length - 24 else length + 2 ^ 64 - 24) / 48 % 2 ^ 32
  bindEntryLoop host e (if noOfBindstats = 0 then 0 else uint16Sub length 24) noOfBindstats c 0

/-- The type in the `of_multipart_reply_hdr_t` of a buffered message. -/
def multipartType (message : List UInt8) : Nat :=
  256 * (message.getD 8 0).toNat + (message.getD 9 0).toNat

/-- `of_process_multipart_replymsg`.  A reply with an unknown transaction is
drained. -/
def ofProcessMultipartReplymsg (host : ByteOrder) (e : ReadEvent) (c : RecvChannel) :
    RecvChannel :=
  if e.xidKnown = false then
    drainUnbuffered host e c
  else
    match ofReadCompleteMsg host e c with
    | (false, c) => c
    | (true, c) =>
      match c.msgBuf with
      | none => c.crash
      | some buf =>
        let c := c.hand buf.message
        let c :=
          if multipartType buf.data = Ofpmp.experimenter.toNat ∧
              e.fslxSubtype = 1 then
            ofHandleBindEntryStatsResponse host e c
          else
            c
        c.reset2ReadNewMsg

/-- `of_process_barrier_replymsg` reads nothing; without a transaction it goes on
with a record that was never set. -/
def ofProcessBarrierReplymsg (e : ReadEvent) (c : RecvChannel) : RecvChannel :=
  if e.xidKnown then
    (c.hand c.msgHdr).reset2ReadNewMsg
  else
    c.crash

/-- `of_msg_not_supported` with `of_flush_msg_buf`. -/
def ofMsgNotSupported (host : ByteOrder) (e : ReadEvent) (c : RecvChannel) : RecvChannel :=
  let length := ntohsLength c.msgHdr
  (cntlrReadMsgRecvdFromDp host e c length length).2

/-! ## Handlers of the handshake -/

/-- `of_handle_hello_message`, with its buffer of 1024 bytes. -/
def ofHandleHelloMessage (host : ByteOrder) (e : ReadEvent) (c : RecvChannel) : RecvChannel :=
  if hdrVersion c.msgHdr ≠ 4 then
    c
  else
    let length := ntohsLength c.msgHdr
    let answer := fun (c : RecvChannel) (message : List UInt8) =>
      { (c.hand message).reset2ReadNewMsg with sentHello := !e.handshakeSent }
    if sizeofOfpHeader < length then
      match cntlrReadMsgRecvdFromDp host e
          (c.access (.subtract length sizeofOfpHeader)) 1024 (length - sizeofOfpHeader) with
      | (none, c) => c
      | (some got, c) => answer c (c.msgHdr ++ got)
    else
      answer c c.msgHdr

/-- `of_process_feature_reply_msg`.  A bound channel already belongs to its
datapath. -/
def ofProcessFeatureReplyMsg (e : ReadEvent) (c : RecvChannel) : RecvChannel :=
  if c.fsmState = .boundToDp then
    c.reset2ReadNewMsg
  else
    match e.attach with
    | .attached => { c with fsmState := .boundToDp }.reset2ReadNewMsg
    | .notConfigured => ({ c with fsmState := .boundToDp }.reset2ReadNewMsg).close
    | .failed => c.close
    | .dpInvalid => c.reset2ReadNewMsg.close
    | .other => c

/-- `of_handle_feature_reply_message`: 24 bytes are read, whatever the length
field. -/
def ofHandleFeatureReplyMessage (host : ByteOrder) (e : ReadEvent) (c : RecvChannel) :
    RecvChannel :=
  match cntlrReadMsgRecvdFromDp host e c 24 24 with
  | (none, c) => c
  | (some got, c) => ofProcessFeatureReplyMsg e (c.hand (c.msgHdr ++ got))

/-! ## Dispatch -/

/-- A handler that uses the datapath of the channel before it reads; a closed channel
has none. -/
def onDatapath (handler : RecvChannel → RecvChannel) (c : RecvChannel) : RecvChannel :=
  if c.fsmState = .closeConn then c.crash else handler c

/-- A handler of the message table. -/
def handleMsg (host : ByteOrder) (e : ReadEvent) (cbk : MsgCbk) (c : RecvChannel) :
    RecvChannel :=
  match cbk with
  | .hello => ofHandleHelloMessage host e c
  | .featuresReply => ofHandleFeatureReplyMessage host e c
  | .roleReply => ofProcessRoleReplymsg host e c
  | .getAsyncReply => ofProcessAsyncReplymsg host e c
  | .error => onDatapath (ofHandleErrorMsgEvent host e) c
  | .experimenter | .packetIn | .flowRemoved | .portStatus =>
    onDatapath (ofHandleAsyncEvent host e) c
  | .echoRequest | .echoReply | .getConfigReply => onDatapath (ofEchoHandler host e) c
  | .multipartReply => onDatapath (ofProcessMultipartReplymsg host e) c
  | .barrierReply => onDatapath (ofProcessBarrierReplymsg e) c
  | .queueGetConfigReply => onDatapath (ofMsgNotSupported host e) c

def ofProcessDpMessage (host : ByteOrder) (e : ReadEvent) (c : RecvChannel) : RecvChannel :=
  match cntlrCbk[(hdrType c.msgHdr).toNat]? with
  | none => c.reset2ReadNewMsg
  | some none => c
  | some (some cbk) => handleMsg host e cbk c

/-! ## The read of the channel's state machine -/

/-- The failure of a header read: the peer is gone, or there is nothing to read. -/
def headerReadFailed (e : ReadEvent) (c : RecvChannel) : RecvChannel :=
  if e.peerClosed then c.close else { c with readFail := true }

/-- `invalid_channel_state_g` was incremented and is compared with a limit. -/
def closeIfInvalid (e : ReadEvent) (limit : Nat) (c : RecvChannel) : RecvChannel :=
  if limit ≤ e.invalidChannelState + 1 then c.close else c

/-- `fsm_xprt_proto_channel_read` in `OF_CHN_WAITING_FOR_COMPLETE_MSG`, once it has
computed `len_2_read`: it reads on from `ptr1` and `msg_len_read`. -/
def fsmReadRemainder (host : ByteOrder) (e : ReadEvent) (peek : Bool) (buf : MsgBuf)
    (len2Read : Nat) (c : RecvChannel) : Bool × RecvChannel :=
  if rawLength host c.msgHdr = 0 ∨ c.msgLenRead = 0 then
    (true, closeIfInvalid e 10 c)
  else if len2Read = 0 then
    (true, { c with msgState := .rcvdCompleteMsg })
  else
    let offset := buf.ptr1 + c.msgLenRead
    match transportRead c (buf.room - offset) (uint16OfUint32 len2Read) peek with
    | (none, c) =>
      let c := setDrainOutBytes host { c with msgState := .drainOutCompleteMsg }
      let c :=
        if e.peerClosed then
          c.close
        else
          fsmXprtProtoChannelReadError host e { c with readFail := true }
      (false, { c with msgBuf := none })
    | (some got, c) =>
      let data := writeAt buf.data offset got
      if got.length = len2Read then
        (true,
          { c with
            msgState := .rcvdCompleteMsg
            msgBuf := some
              { buf with data := data, dataLen := buf.length1 + got.length } })
      else
        (true,
          { c with
            msgBuf := some
              { buf with data := data, length1 := buf.length1 + got.length }
            msgLenRead := (c.msgLenRead + got.length) % 256 })

/-- `fsm_xprt_proto_channel_read`: `false` when it fails. -/
def fsmXprtProtoChannelRead (host : ByteOrder) (e : ReadEvent) (peek : Bool)
    (c : RecvChannel) : Bool × RecvChannel :=
  match c.msgState with
  | .waitingForNewMsg =>
    match transportRead c sizeofOfpHeader sizeofOfpHeader peek with
    | (none, c) => (false, headerReadFailed e c)
    | (some got, c) =>
      let c :=
        { c with
          msgHdr := writeAt c.msgHdr 0 got
          msgLenRead := 0
          hdrLenRead := got.length }
      if got.length = sizeofOfpHeader then
        (true, { c with msgState := .startReadingMsg, msgBuf := none })
      else
        (true, { c with msgState := .waitingForMsgHeader })
  | .waitingForMsgHeader =>
    match transportRead (c.access (.subtract sizeofOfpHeader c.hdrLenRead))
        (sizeofOfpHeader - c.hdrLenRead) (sizeofOfpHeader - c.hdrLenRead) peek with
    | (none, c) => (false, headerReadFailed e c)
    | (some got, c) =>
      let c :=
        { c with
          msgHdr := writeAt c.msgHdr c.hdrLenRead got
          hdrLenRead := c.hdrLenRead + got.length }
      if c.hdrLenRead = sizeofOfpHeader then
        (true, { c with msgState := .startReadingMsg, msgBuf := none })
      else
        (true, c)
  | .waitingForCompleteMsg =>
    match c.msgBuf with
    | none => (false, c.crash)
    | some buf =>
      -- the length field is in network byte order here
      let rawLen := rawLength host c.msgHdr
      fsmReadRemainder host e peek buf (uint32Sub rawLen buf.length1)
        (c.access (.subtract rawLen buf.length1))
  | .startReadingMsg | .rcvdCompleteMsg | .drainOutCompleteMsg =>
    (true, closeIfInvalid e 5 c)

/-! ## Events -/

/-- `of_read_and_process_msg_from_dp` after the read: the version, the message types
of the extension version, and the dispatch of a message whose header or body is
complete. -/
def processAfterRead (host : ByteOrder) (e : ReadEvent) (c : RecvChannel) : RecvChannel :=
  if hdrVersion c.msgHdr ≠ 4 ∧ hdrVersion c.msgHdr ≠ 0x81 then
    c.reset2ReadNewMsg
  else if hdrType c.msgHdr ≠ Ofpt.experimenter ∧ hdrVersion c.msgHdr = 0x81 then
    let rawLen := rawLength host c.msgHdr
    if rawLen = 0 then
      c.reset2ReadNewMsg
    else
      let c := c.access (.subtract rawLen sizeofOfpHeader)
      if rawLen = sizeofOfpHeader then
        c.reset2ReadNewMsg
      else
        (ofDrainOutSocketBuf host e c (uint16Sub rawLen sizeofOfpHeader)).2.reset2ReadNewMsg
  else if c.msgState = .startReadingMsg ∨ c.msgState = .rcvdCompleteMsg then
    ofProcessDpMessage host e c
  else
    c

def ofReadAndProcessMsgFromDp (host : ByteOrder) (e : ReadEvent) (c : RecvChannel) :
    RecvChannel :=
  match fsmXprtProtoChannelRead host e false c with
  | (false, c) => c
  | (true, c) => processAfterRead host e c

/-- `of_process_handshake_msg`, whose channel has no datapath yet. -/
def ofProcessHandshakeMsg (host : ByteOrder) (e : ReadEvent) (c : RecvChannel) :
    RecvChannel :=
  if hdrVersion c.msgHdr ≠ 4 then
    c.close
  else if hdrType c.msgHdr = Ofpt.hello then
    ofHandleHelloMessage host e c
  else if hdrType c.msgHdr = Ofpt.featuresReply then
    ofHandleFeatureReplyMessage host e c
  else if hdrType c.msgHdr = Ofpt.echoRequest then
    c.crash
  else
    c.close

/-- `cntlr_trnsprt_handle_handshake`: the header is only peeked at until the peer's
hello has been seen. -/
def cntlrTrnsprtHandleHandshake (host : ByteOrder) (e : ReadEvent) (c : RecvChannel) :
    RecvChannel :=
  match fsmXprtProtoChannelRead host e c.sentHello c with
  | (false, c) => c
  | (true, c) => ofProcessHandshakeMsg host e c

/-- The bytes of an event have arrived, and `fsm_event` is the read event. -/
def RecvChannel.arrive (c : RecvChannel) (e : ReadEvent) : RecvChannel :=
  { c with inbox := c.inbox ++ e.arrived, accesses := [], readFail := false }

/-- One read event of a channel. -/
def readStep (host : ByteOrder) (c : RecvChannel) (e : ReadEvent) : RecvChannel :=
  let c := c.arrive e
  if c.undefined then
    c
  else
    match c.fsmState with
    | .init | .closeConn => c
    | .waitForHandshake => cntlrTrnsprtHandleHandshake host e c
    | .boundToDp => ofReadAndProcessMsgFromDp host e c

/-- A channel that has sent its hello, or not. -/
def RecvChannel.accepted (sentHello : Bool) : RecvChannel :=
  { fsmState := .waitForHandshake
    sentHello := sentHello
    msgState := .waitingForNewMsg
    msgHdr := List.replicate 8 0
    hdrLenRead := 0
    msgLenRead := 0
    msgBuf := none
    drainOutBytes := 0
    readFail := false
    inbox := []
    undefined := false
    accesses := []
    handed := [] }

/-- A channel that was just bound to its datapath. -/
def RecvChannel.bound : RecvChannel :=
  { RecvChannel.accepted false with fsmState := .boundToDp }

end OpenFlowController.Messages
