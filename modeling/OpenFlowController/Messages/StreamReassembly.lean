/-
Module: Messages.StreamReassembly
Purpose: The byte stream of a channel that is bound to its datapath: what arrives is handed to the
  handlers message by message, whatever pieces the headers come in.
Source: ofproto/src/transport/base/channel_fsm.c, ofproto/src/messages/of_cntlr_msg.c
Trusted boundary: none
-/
import OpenFlowController.Library.Framing
import OpenFlowController.Library.Run
import OpenFlowController.Messages.ReaderInvariant

namespace OpenFlowController.Messages

open Include Library

/-- The message that starts with this header is received in one piece: the rest of it is there, a
buffer of a pool takes it, and what its handler asks the datapath is answered. -/
structure Undivided (e : ReadEvent) (header rest : List UInt8) : Prop where
  row : ∃ cbk : MsgCbk, hdrType header = cbk.ofpType ∧ cbk.Buffered ∧
    (cbk = .error ∨ cbk = .roleReply ∨ cbk = .getAsyncReply ∨ cbk = .multipartReply →
      e.xidKnown = true) ∧ (cbk = .multipartReply → e.fslxSubtype ≠ 1)
  length : sizeofOfpHeader ≤ ntohsLength header
  body : ntohsLength header - sizeofOfpHeader ≤ rest.length
  room : ∃ room, asyncMessageRoom e header = some room ∧ ntohsLength header ≤ room

/-- What an event has to bring: a header that goes on to the message table, in any pieces, and
with its last piece the message. -/
def Arrives (c : RecvChannel) (e : ReadEvent) : Prop :=
  let inbox := c.inbox ++ e.arrived
  let missing := sizeofOfpHeader - headerOffset c
  inbox ≠ [] →
    Filtered (arrivedHeader c inbox) ∧
      (missing ≤ inbox.length → Undivided e (arrivedHeader c inbox) (inbox.drop missing))

/-- The message behind a complete header was handed over, and the channel waits for the next. -/
structure Delivered (c later : RecvChannel) (body : Nat) : Prop where
  handed : later.handed = c.handed ++ [c.msgHdr ++ c.inbox.take body]
  inbox : later.inbox = c.inbox.drop body
  msgState : later.msgState = .waitingForNewMsg
  undefined : later.undefined = c.undefined
  fsmState : later.fsmState = c.fsmState
  msgHdr : later.msgHdr = c.msgHdr

variable {host : ByteOrder} {e : ReadEvent} {c later : RecvChannel} {room body : Nat}

/-- An asynchronous message that has arrived is read whole. -/
theorem asyncRead_completed (starting : c.msgState = .startReadingMsg)
    (live : c.fsmState ≠ .closeConn) (whole : c.msgHdr.length = 8)
    (length : ntohsLength c.msgHdr = sizeofOfpHeader + body)
    (buffer : asyncMessageRoom e c.msgHdr = some room) (fits : sizeofOfpHeader + body ≤ room)
    (there : body ≤ c.inbox.length) :
    (ofAllocAndReadAsyncMessage host e c).1 = true ∧
      Completed c (ofAllocAndReadAsyncMessage host e c).2 room body := by
  obtain ⟨log, framed⟩ := accessPacketInLength_frame c
  have rest : uint16Sub (ntohsLength c.msgHdr) sizeofOfpHeader = body := by
    rw [length, uint16Sub_of_le (Nat.le_add_right _ _), Nat.add_sub_cancel_left]
  have header : ¬ room < sizeofOfpHeader := by omega
  have behind : ¬ room - sizeofOfpHeader < body := by omega
  have enough : ¬ room < sizeofOfpHeader + body := by omega
  unfold ofAllocAndReadAsyncMessage
  rw [if_pos starting, framed]
  dsimp only
  rw [buffer]
  dsimp only
  rw [rest]
  by_cases nothing : body = 0
  · subst nothing
    simp only [if_true, true_and]
    constructor
    case msgBuf => simp [MsgBuf.ofHeader]
    all_goals simp [header]
  · have full : c.inbox ≠ [] := by
      intro empty
      rw [empty] at there
      exact nothing (Nat.le_zero.mp there)
    have taken : (c.inbox.take body).length = body := by simpa using there
    rw [if_neg nothing,
      cntlrRead_served host e _ (not_starved (by exact live) (.inr (by exact full)))]
    dsimp only
    rw [RecvChannel.access_inbox, taken, if_pos rfl]
    constructor
    · rfl
    constructor
    case undefined => simp [taken, header, behind, enough]
    case msgBuf => rw [fill_ofHeader whole]; rfl
    all_goals rfl

theorem asyncMessageRoom_of_ne (other : hdrType c.msgHdr ≠ Ofpt.packetIn) :
    asyncMessageRoom e c.msgHdr = ofuAllocMessage e (ntohsLength c.msgHdr) := by
  simp [asyncMessageRoom, other]

/-- A handler hands over what is complete in its buffer and resets the channel. -/
theorem Completed.delivered (completed : Completed c later room body) (whole : c.msgHdr.length = 8)
    (there : body ≤ c.inbox.length) (enough : sizeofOfpHeader + body ≤ room) :
    Delivered c (handBuffered later).reset2ReadNewMsg body := by
  have taken : (c.msgHdr ++ c.inbox.take body).length = sizeofOfpHeader + body := by
    simp [whole, sizeofOfpHeader, there]
  have short : ¬ room < sizeofOfpHeader + body := by omega
  constructor
  case handed =>
    simp [handBuffered, completed.msgBuf, completed.handed, MsgBuf.message, ← taken,
      List.takeD_eq_take]
  all_goals
    simp [handBuffered, completed.msgBuf, completed.inbox, completed.undefined,
      completed.fsmState, completed.msgHdr, short]

section Handlers

variable (starting : c.msgState = .startReadingMsg) (live : c.fsmState ≠ .closeConn)
  (whole : c.msgHdr.length = 8) (undivided : Undivided e c.msgHdr c.inbox)

include starting live whole undivided

theorem asyncMsg_delivered :
    (ofReadAsyncMsg host e c).1 = true ∧ (ofReadAsyncMsg host e c).2.msgState = .rcvdCompleteMsg ∧
      (∃ buf, (ofReadAsyncMsg host e c).2.msgBuf = some buf) ∧
      Delivered c (handBuffered (ofReadAsyncMsg host e c).2).reset2ReadNewMsg
        (ntohsLength c.msgHdr - sizeofOfpHeader) := by
  obtain ⟨room, buffer, enough⟩ := undivided.room
  have length : ntohsLength c.msgHdr =
      sizeofOfpHeader + (ntohsLength c.msgHdr - sizeofOfpHeader) :=
    (Nat.add_sub_cancel' undivided.length).symm
  rw [length] at enough
  obtain ⟨done, completed⟩ := @asyncRead_completed host _ _ _ _ starting live whole length buffer
    enough undivided.body
  rw [ofReadAsyncMsg_of_read starting]
  simp only [done, completed.msgState]
  exact ⟨rfl, trivial, ⟨_, completed.msgBuf⟩,
    completed.delivered whole undivided.body enough⟩

theorem completeMsg_delivered (other : hdrType c.msgHdr ≠ Ofpt.packetIn) :
    (ofReadCompleteMsg host e c).1 = true ∧
      (ofReadCompleteMsg host e c).2.fsmState = c.fsmState ∧
      (∃ buf, (ofReadCompleteMsg host e c).2.msgBuf = some buf) ∧
      Delivered c (handBuffered (ofReadCompleteMsg host e c).2).reset2ReadNewMsg
        (ntohsLength c.msgHdr - sizeofOfpHeader) := by
  obtain ⟨room, buffer, enough⟩ := undivided.room
  rw [asyncMessageRoom_of_ne other] at buffer
  have length : ntohsLength c.msgHdr =
      sizeofOfpHeader + (ntohsLength c.msgHdr - sizeofOfpHeader) :=
    (Nat.add_sub_cancel' undivided.length).symm
  rw [length] at enough
  obtain ⟨done, completed⟩ := @messageRead_completed host _ _ _ _ starting live whole length
    buffer undivided.body
  rw [ofReadCompleteMsg_of_read starting]
  simp only [done, completed.msgState]
  exact ⟨rfl, completed.fsmState, ⟨_, completed.msgBuf⟩,
    completed.delivered whole undivided.body enough⟩

/-- A message that has arrived is delivered to its handler. -/
theorem handleMsg_delivered :
    ∃ cbk : MsgCbk, hdrType c.msgHdr = cbk.ofpType ∧
      Delivered c (handleMsg host e cbk c) (ntohsLength c.msgHdr - sizeofOfpHeader) := by
  obtain ⟨cbk, type, buffered, known, plain⟩ := undivided.row
  have async := @asyncMsg_delivered host _ _ starting live whole undivided
  have complete := @completeMsg_delivered host _ _ starting live whole undivided
  rw [type] at complete
  refine ⟨cbk, type, ?_⟩
  generalize readAsync : ofReadAsyncMsg host e c = answer at async
  generalize readComplete : ofReadCompleteMsg host e c = answer' at complete
  obtain ⟨done, later⟩ := answer
  obtain ⟨done', later'⟩ := answer'
  dsimp only at async complete
  obtain ⟨rfl, received, ⟨buf, buffer⟩, handedAsync⟩ := async
  have reset (c : RecvChannel) (complete : c.msgState = .rcvdCompleteMsg) :
      resetIfComplete c = c.reset2ReadNewMsg := if_pos complete
  cases cbk with
  | hello => cases buffered
  | featuresReply => cases buffered
  | barrierReply => cases buffered
  | queueGetConfigReply => cases buffered
  | error =>
    simp only [handBuffered, buffer] at handedAsync
    simpa [handleMsg, onDatapath_live live, ofHandleErrorMsgEvent, readAsync, reset, received,
      buffer, known] using handedAsync
  | experimenter | packetIn | flowRemoved | portStatus =>
    simpa [handleMsg, onDatapath_live live, ofHandleAsyncEvent, readAsync, reset, received]
      using handedAsync
  | echoRequest | echoReply | getConfigReply =>
    obtain ⟨rfl, _, _, handed⟩ := complete (by decide)
    simpa [handleMsg, onDatapath_live live, ofEchoHandler, readComplete] using handed
  | roleReply | getAsyncReply =>
    obtain ⟨rfl, same, _, handed⟩ := complete (by decide)
    simpa [handleMsg, ofProcessRoleReplymsg, ofProcessAsyncReplymsg, readComplete, finishReply,
      same, live, known] using handed
  | multipartReply =>
    obtain ⟨rfl, _, ⟨buf, buffer⟩, handed⟩ := complete (by decide)
    simp only [handBuffered, buffer] at handed
    simpa [handleMsg, onDatapath_live live, ofProcessMultipartReplymsg, readComplete, buffer,
      known, plain] using handed

end Handlers

/-! ## The stream -/

theorem readsHeader_ntohsLength : ReadsHeader ntohsLength sizeofOfpHeader := by
  intro frame rest header
  have third : 2 < frame.length := Nat.lt_of_lt_of_le (by decide) header
  have fourth : 3 < frame.length := Nat.lt_of_lt_of_le (by decide) header
  rw [ntohsLength, ntohsLength, List.getD_append _ _ _ _ third, List.getD_append _ _ _ _ fourth]

/-- The messages handed over, the part of a header and what the socket holds make up what
arrived. -/
structure Streaming (arrived : List UInt8) (c : RecvChannel) : Prop where
  state : c.msgState = .waitingForNewMsg ∨ c.msgState = .waitingForMsgHeader
  counting : c.msgState = .waitingForMsgHeader → c.hdrLenRead < sizeofOfpHeader
  whole : c.msgHdr.length = 8
  defined : c.undefined = false
  fsmState : c.fsmState = .boundToDp ∨ c.fsmState = .closeConn
  framed : ∀ message ∈ c.handed, Frame ntohsLength sizeofOfpHeader message
  bytes : c.handed.flatten ++ c.msgHdr.take (headerOffset c) ++ c.inbox = arrived

theorem arrivedHeader_take (whole : c.msgHdr.length = 8) (offset : headerOffset c < sizeofOfpHeader)
    (inbox : List UInt8) :
    (arrivedHeader c inbox).take
        (headerOffset c + min (sizeofOfpHeader - headerOffset c) inbox.length) =
      c.msgHdr.take (headerOffset c) ++ inbox.take (sizeofOfpHeader - headerOffset c) := by
  have inside : headerOffset c ≤ c.msgHdr.length := by rw [whole]; exact Nat.le_of_lt offset
  have length : (c.msgHdr.take (headerOffset c) ++
      inbox.take (sizeofOfpHeader - headerOffset c)).length =
        headerOffset c + min (sizeofOfpHeader - headerOffset c) inbox.length := by
    simp [inside]
  unfold arrivedHeader writeAt
  rw [List.takeD_eq_take 0 inside, ← length, List.take_left]

namespace Streaming

variable {arrived : List UInt8}

theorem arrive (streaming : Streaming arrived c) (e : ReadEvent) :
    Streaming (arrived ++ e.arrived) (c.arrive e) :=
  { streaming with
    bytes := by
      rw [← streaming.bytes, List.append_assoc _ c.inbox]
      rfl }

variable (streaming : Streaming arrived c)

include streaming

theorem offset : headerOffset c < sizeofOfpHeader :=
  headerOffset_lt streaming.state streaming.counting

theorem headerReadFailed : Streaming arrived (headerReadFailed e (headerAccess c)) := by
  have same : ∃ log, headerAccess c = { c with accesses := log } := by
    unfold headerAccess
    split <;> exact ⟨_, rfl⟩
  obtain ⟨log, same⟩ := same
  unfold Messages.headerReadFailed
  rw [same]
  split
  · exact { streaming with fsmState := .inr rfl, bytes := streaming.bytes }
  · exact { streaming with bytes := streaming.bytes }

/-- Part of a header keeps the stream. -/
theorem partHeader (read : HeaderRead c later false)
    (part : ¬ sizeofOfpHeader - headerOffset c ≤ c.inbox.length) : Streaming arrived later := by
  have offset := streaming.offset
  have waiting : later.msgState = .waitingForMsgHeader := by rw [read.msgState, if_neg part]
  have short : c.inbox.length ≤ sizeofOfpHeader - headerOffset c := Nat.le_of_not_le part
  have count : headerOffset later = later.hdrLenRead := by rw [headerOffset, waiting]
  constructor
  case state => exact .inr waiting
  case counting =>
    intro _
    rw [read.hdrLenRead, Nat.min_eq_right short]
    omega
  case whole =>
    rw [read.msgHdr]
    exact arrivedHeader_length streaming.whole (Nat.le_of_lt offset) _
  case defined => rw [read.undefined, streaming.defined]
  case fsmState => rw [read.fsmState]; exact streaming.fsmState
  case framed => rw [read.handed]; exact streaming.framed
  case bytes =>
    rw [count, read.hdrLenRead, read.msgHdr, arrivedHeader_take streaming.whole offset, read.handed,
      read.inbox, ← streaming.bytes]
    simp [List.take_of_length_le short, List.drop_of_length_le short]

/-- A message that is delivered keeps the stream. -/
theorem message (read : HeaderRead c later false)
    (complete : sizeofOfpHeader - headerOffset c ≤ c.inbox.length)
    (undivided : Undivided e later.msgHdr later.inbox) {last : RecvChannel}
    (delivered : Delivered later last (ntohsLength later.msgHdr - sizeofOfpHeader)) :
    Streaming arrived last := by
  have offset := streaming.offset
  have whole : later.msgHdr.length = 8 := by
    rw [read.msgHdr]
    exact arrivedHeader_length streaming.whole (Nat.le_of_lt offset) _
  have header : later.msgHdr = c.msgHdr.take (headerOffset c) ++
      c.inbox.take (sizeofOfpHeader - headerOffset c) := by
    rw [← arrivedHeader_take streaming.whole offset, Nat.min_eq_left complete, ← read.msgHdr,
      Nat.add_sub_cancel' (Nat.le_of_lt offset),
      List.take_of_length_le (show later.msgHdr.length ≤ sizeofOfpHeader from Nat.le_of_eq whole)]
  constructor
  case state => exact .inl delivered.msgState
  case counting => simp [delivered.msgState]
  case whole => rw [delivered.msgHdr, whole]
  case defined => rw [delivered.undefined, read.undefined, streaming.defined]
  case fsmState => rw [delivered.fsmState, read.fsmState]; exact streaming.fsmState
  case framed =>
    intro message member
    rw [delivered.handed, read.handed] at member
    rcases List.mem_append.mp member with earlier | last
    · exact streaming.framed message earlier
    · rw [List.mem_singleton] at last
      have length := undivided.length
      have body := undivided.body
      subst last
      have size := readsHeader_ntohsLength later.msgHdr
        (later.inbox.take (ntohsLength later.msgHdr - sizeofOfpHeader)) (Nat.le_of_eq whole.symm)
      refine ⟨?_, ?_⟩
      · simp [whole, sizeofOfpHeader]
      · rw [size, List.length_append, whole, List.length_take_of_le body]
        exact (Nat.add_sub_cancel' length).symm
  case bytes =>
    have nothing : headerOffset last = 0 := by rw [headerOffset, delivered.msgState]
    rw [nothing, delivered.handed, delivered.inbox, read.handed, header, read.inbox,
      ← streaming.bytes]
    simp

/-- A read event keeps the stream together, and hands a message over when its header is there. -/
theorem readStep (arrives : Arrives c e) :
    Streaming (arrived ++ e.arrived) (readStep host c e) ∧
      (c.fsmState = .boundToDp →
        sizeofOfpHeader - headerOffset c ≤ (c.inbox ++ e.arrived).length →
          ∃ message, (Messages.readStep host c e).handed = c.handed ++ [message]) := by
  have start := streaming.arrive e
  have missing : 0 < sizeofOfpHeader - headerOffset c := Nat.sub_pos_of_lt streaming.offset
  unfold Messages.readStep
  dsimp only
  rw [if_neg (by simp [start.defined])]
  rcases start.fsmState with bound | closed
  · have live : (c.arrive e).fsmState ≠ .closeConn := by simp [bound]
    rw [bound]
    dsimp only
    unfold ofReadAndProcessMsgFromDp
    by_cases empty : (c.arrive e).inbox = []
    · rw [fsmRead_header_empty start.state start.counting empty]
      refine ⟨start.headerReadFailed, fun _ there => absurd there ?_⟩
      have nothing : (c.inbox ++ e.arrived).length = 0 := congrArg List.length empty
      omega
    obtain ⟨filtered, undivided⟩ := arrives empty
    have read := @fsmRead_header host e (c.arrive e) false start.state start.counting live empty
    generalize fsmXprtProtoChannelRead host e false (c.arrive e) = answer at read
    obtain ⟨done, later⟩ := answer
    obtain ⟨done, read⟩ := read
    dsimp only at done read
    subst done
    have filtered : Filtered later.msgHdr := by rw [read.msgHdr]; exact filtered
    dsimp only
    rw [processAfterRead_filtered filtered]
    by_cases complete :
        sizeofOfpHeader - headerOffset (c.arrive e) ≤ (c.arrive e).inbox.length
    · have starting : later.msgState = .startReadingMsg := by rw [read.msgState, if_pos complete]
      have undivided : Undivided e later.msgHdr later.inbox := by
        rw [read.msgHdr, read.inbox]
        exact undivided complete
      have whole : later.msgHdr.length = 8 := by
        rw [read.msgHdr]
        exact arrivedHeader_length start.whole (Nat.le_of_lt start.offset) _
      obtain ⟨cbk, type, delivered⟩ := @handleMsg_delivered host _ _ starting
        (by rw [read.fsmState]; exact live) whole undivided
      rw [if_pos (.inl starting), ofProcessDpMessage, type, cntlrCbk_ofpType]
      have handed := delivered.handed
      rw [read.handed] at handed
      exact ⟨start.message read complete undivided delivered, fun _ _ => ⟨_, handed⟩⟩
    · have waiting : later.msgState = .waitingForMsgHeader := by rw [read.msgState, if_neg complete]
      rw [if_neg (by simp [waiting])]
      exact ⟨start.partHeader read complete, fun _ there => absurd there complete⟩
  · rw [closed]
    exact ⟨start, fun bound => absurd (closed.symm.trans bound) (by decide)⟩

end Streaming

theorem streaming_run (events : List ReadEvent) {arrived : List UInt8}
    (streaming : Streaming arrived c) (arrives : Along (readStep host) Arrives c events) :
    Streaming (arrived ++ (events.map (·.arrived)).flatten) (events.foldl (readStep host) c) := by
  induction events generalizing c arrived with
  | nil => simpa using streaming
  | cons e rest ih =>
    obtain ⟨first, later⟩ := arrives
    simpa using ih (streaming.readStep first).1 later

/-- The messages that a peer sends on a bound channel reach the handlers unchanged, in order and
once; every other byte that arrived is still to be read; and where the next header is there, the
next read event hands its message over. -/
theorem messages_handed_in_order (host : ByteOrder) (events : List ReadEvent)
    (messages : List (List UInt8))
    (framed : ∀ message ∈ messages, Frame ntohsLength sizeofOfpHeader message)
    (sent : (events.map (·.arrived)).flatten <+: messages.flatten)
    (arrives : Along (readStep host) Arrives .bound events) :
    let c := events.foldl (readStep host) .bound
    c.handed <+: messages ∧
      (∃ part, c.handed.flatten ++ part ++ c.inbox = (events.map (·.arrived)).flatten ∧
        part.length = headerOffset c ∧ headerOffset c < sizeofOfpHeader) ∧
      ∀ e, Arrives c e → c.fsmState = .boundToDp →
        sizeofOfpHeader - headerOffset c ≤ (c.inbox ++ e.arrived).length →
          ∃ message, (readStep host c e).handed = c.handed ++ [message] := by
  have start : Streaming [] RecvChannel.bound := by
    constructor <;> simp [RecvChannel.bound, RecvChannel.accepted, headerOffset]
  have run := streaming_run events start arrives
  rw [List.nil_append] at run
  intro c
  refine ⟨?_, ⟨c.msgHdr.take (headerOffset c), run.bytes, ?_, run.offset⟩,
    fun e next => (run.readStep next).2⟩
  · have front : c.handed.flatten <+: messages.flatten := by
      refine List.IsPrefix.trans ⟨c.msgHdr.take (headerOffset c) ++ c.inbox, ?_⟩ sent
      rw [← run.bytes, List.append_assoc]
    exact frames_prefix readsHeader_ntohsLength (by decide) run.framed framed front
  · rw [List.length_take_of_le]
    rw [run.whole]
    exact Nat.le_of_lt run.offset

/-- A read event in which only bytes arrive. -/
def plainRead (arrived : List UInt8) : ReadEvent where
  arrived := arrived
  peerClosed := false
  invalidChannelState := 0
  poolAvailable := true
  pktbufAlloc := none
  xidKnown := false
  fslxSubtype := 0
  attach := .other
  handshakeSent := true

/-- An echo request in two pieces. -/
theorem messages_handed_in_order_echo :
    let c := [plainRead [4, 2, 0], plainRead [8, 0, 0, 0, 1]].foldl
      (readStep .littleEndian) .bound
    c.handed <+: [[4, 2, 0, 8, 0, 0, 0, 1]] ∧
      (∃ part, c.handed.flatten ++ part ++ c.inbox = [4, 2, 0, 8, 0, 0, 0, 1] ∧
        part.length = headerOffset c ∧ headerOffset c < sizeofOfpHeader) ∧
      ∀ e, Arrives c e → c.fsmState = .boundToDp →
        sizeofOfpHeader - headerOffset c ≤ (c.inbox ++ e.arrived).length →
          ∃ message, (readStep .littleEndian c e).handed = c.handed ++ [message] := by
  apply messages_handed_in_order .littleEndian
    [plainRead [4, 2, 0], plainRead [8, 0, 0, 0, 1]]
    [[4, 2, 0, 8, 0, 0, 0, 1]]
  · decide
  · decide
  · refine ⟨fun _ => ⟨.inl rfl, fun whole => absurd whole (by decide)⟩,
      fun _ => ⟨.inl rfl, fun _ => ⟨⟨.echoRequest, rfl, trivial, by simp, by simp⟩, ?_, ?_, ?_⟩⟩,
      trivial⟩
    · decide
    · decide
    · exact ⟨128, rfl, by decide⟩

end OpenFlowController.Messages
