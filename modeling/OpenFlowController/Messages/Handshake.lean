/-
Module: Messages.Handshake
Purpose: The exchange of hellos on a new channel: our hello, which the transport may
  send before or after bytes of the peer arrive, the peer's hello, and the deliveries
  for which the exchange takes exactly that hello from the stream.
Source: ofproto/src/transport/base/trnsprt_epoll.c, ofproto/src/transport/base/trnsprt_msg.c,
  ofproto/src/transport/base/channel_fsm.c
Trusted boundary: a read event and the sending of our hello by `fsm_xprt_proto_channel_learn` do
  not overlap
-/
import OpenFlowController.Messages.ReaderSpec

namespace OpenFlowController.Messages

open Include List Library Transport

/-! ## The exchange -/

/-- `OF_TRNSPRT_CHN_*`, as far as the exchange of hellos goes. -/
inductive HandshakeState where
  | connEstbd
  | sentHelloToDp
  | connReqHandshakeWithDp
deriving DecidableEq

/-- A channel with its `state`, the number of our hellos that left, and all bytes that
arrived. -/
structure HandshakeChannel where
  recv : RecvChannel
  state : HandshakeState
  hellosSent : Nat
  arrived : List UInt8

/-- `fsm_xprt_proto_channel_learn` sends our hello, or a read event comes.  `sent` tells
whether a hello that is sent in it really leaves. -/
inductive HandshakeEvent where
  | sendHello (sent : Bool)
  | read (e : ReadEvent) (sent : Bool)

/-- `cntlr_trnsprt_send_handshake_msg` returns success whatever happens. -/
def ReadEvent.withHandshake (e : ReadEvent) : ReadEvent :=
  { e with handshakeSent := true }

namespace HandshakeChannel

/-- A new channel. -/
def start : HandshakeChannel where
  recv := RecvChannel.accepted false
  state := .connEstbd
  hellosSent := 0
  arrived := []

/-- One event.  `cntlr_trnsprt_send_hello_msg` returns success also when nothing left. -/
def step (host : ByteOrder) (channel : HandshakeChannel) : HandshakeEvent → HandshakeChannel
  | .sendHello sent =>
    { channel with
      recv := { channel.recv with sentHello := true }
      state := .sentHelloToDp
      hellosSent := channel.hellosSent + sent.toNat }
  | .read e sent =>
    let recv := readStep host channel.recv e.withHandshake
    let answered := recv.handed.length ≠ channel.recv.handed.length ∧
      hdrType recv.msgHdr = Ofpt.hello
    { recv := recv
      state := if answered then .connReqHandshakeWithDp else channel.state
      hellosSent :=
        if answered ∧ channel.state ≠ .sentHelloToDp then channel.hellosSent + sent.toNat
        else channel.hellosSent
      arrived := channel.arrived ++ e.arrived }

/-- What the channel took from the stream and still has: the part of a header that it
holds, or the messages it handed over. -/
def held (channel : HandshakeChannel) : List UInt8 :=
  if channel.recv.msgState = .waitingForMsgHeader then
    channel.recv.msgHdr.take channel.recv.hdrLenRead
  else
    channel.recv.handed.flatten

end HandshakeChannel

/-- The exchange took exactly bytes of the hello from the stream: a part of its header,
or the whole hello, which it handed over once, so that the next message starts behind it.
It is past the exchange of hellos if and only if ours left and the peer's was handed
over. -/
structure Framed (hello : List UInt8) (channel : HandshakeChannel) : Prop where
  open_ : channel.recv.fsmState = .waitForHandshake
  defined : channel.recv.undefined = false
  bytes : channel.arrived = channel.held ++ channel.recv.inbox
  once : channel.recv.handed = [] ∨
    channel.recv.handed = [hello] ∧ channel.recv.msgState = .waitingForNewMsg
  advanced : channel.state = .connReqHandshakeWithDp ↔
    0 < channel.hellosSent ∧ channel.recv.handed ≠ []

/-- A hello message. -/
structure IsHello (hello : List UInt8) : Prop where
  version : hdrVersion hello = 4
  type : hdrType hello = Ofpt.hello
  length : ntohsLength hello = hello.length
  whole : sizeofOfpHeader ≤ hello.length

/-- The bytes that events bring. -/
def arrivedBytes (events : List HandshakeEvent) : List UInt8 :=
  events.flatMap fun event =>
    match event with
    | .sendHello _ => []
    | .read e _ => e.arrived

/-- After other events, a read event brings the rest of the hello, and maybe more, from a
peer that did not leave before. -/
structure Delivers (hello rest : List UInt8) (front : List HandshakeEvent) (e : ReadEvent) :
    Prop where
  stream : arrivedBytes front ++ e.arrived = hello ++ rest
  last : (arrivedBytes front).length < hello.length
  stays : ∀ e sent, .read e sent ∈ front → e.arrived = [] → e.peerClosed = false

/-- No hello of ours was sent before, the peer's hello is there as a whole at the first
read that finds anything, fits in the buffer for it, and is answered by a hello that
leaves.  None of ours is sent after it. -/
structure HelloWhole (hello : List UInt8) (front : List HandshakeEvent) (sent : Bool)
    (later : List Bool) : Prop where
  notSent : ∀ sent, .sendHello sent ∉ front
  nothing : arrivedBytes front = []
  fits : hello.length ≤ sizeofOfpHeader + 1024
  answered : sent = true
  notLater : later = []

/-! ## Reading an empty socket -/

section Empty

variable {host : ByteOrder} {e : ReadEvent} {c : RecvChannel}

theorem transportRead_inbox_nil (empty : c.inbox = []) (room len : Nat) (peek : Bool) :
    (transportRead c room len peek).2.inbox = [] := by
  unfold transportRead
  split
  · exact empty
  · rw [if_pos (.inl (by exact empty))]
    exact empty

theorem readAfterFailure_inbox_nil (empty : c.inbox = []) (room len : Nat) :
    (readAfterFailure host e c room len).2.inbox = [] := by
  have read := transportRead_inbox_nil empty room len false
  unfold readAfterFailure
  generalize transportRead c room len false = answer at read
  rcases answer with ⟨none | got, later⟩
  · dsimp only
    split
    · exact read
    · exact read
  · exact read

theorem drainLoop_inbox_nil {read : RecvChannel → Nat → Option (List UInt8) × RecvChannel}
    (kept : ∀ c len, c.inbox = [] → (read c len).2.inbox = []) (empty : c.inbox = [])
    (fuel bytesToRead : Nat) : (drainLoop read fuel c bytesToRead).2.inbox = [] := by
  induction fuel generalizing c bytesToRead with
  | zero => exact empty
  | succ fuel ih =>
  unfold drainLoop
  split
  · exact empty
  have first := kept c (min bytesToRead 256) empty
  generalize read c (min bytesToRead 256) = answer at first
  rcases answer with ⟨none | got, later⟩
  · exact first
  · apply ih
    split
    · exact first
    · exact first

theorem readError_inbox_nil (empty : c.inbox = []) :
    (fsmXprtProtoChannelReadError host e c).inbox = [] := by
  unfold fsmXprtProtoChannelReadError
  split
  · exact drainLoop_inbox_nil
      (fun _ len nothing => readAfterFailure_inbox_nil nothing 256 len) empty _ _
  · exact empty

theorem cntlrRead_inbox_nil (empty : c.inbox = []) (room len : Nat) :
    (cntlrReadMsgRecvdFromDp host e c room len).2.inbox = [] := by
  have read := transportRead_inbox_nil empty room len false
  unfold cntlrReadMsgRecvdFromDp
  generalize transportRead c room len false = answer at read
  rcases answer with ⟨none | got, later⟩
  · dsimp only
    split
    · exact read
    split
    · exact read
    · split
      · exact read
      · exact readError_inbox_nil read
  · exact read

end Empty

/-! ## The handler of a hello -/

section Handler

variable {host : ByteOrder} {e : ReadEvent} {c : RecvChannel}

/-- What the handler reads behind the header. -/
def helloBody (c : RecvChannel) : List UInt8 :=
  c.inbox.take (ntohsLength c.msgHdr - sizeofOfpHeader)

/-- The hello was handed over and answered. -/
structure HelloAnswered (e : ReadEvent) (c later : RecvChannel) : Prop where
  msgHdr : later.msgHdr = c.msgHdr
  handed : later.handed = c.handed ++ [c.msgHdr ++ helloBody c]
  inbox : later.inbox = c.inbox.drop (ntohsLength c.msgHdr - sizeofOfpHeader)
  msgState : later.msgState = .waitingForNewMsg
  fsmState : later.fsmState = c.fsmState
  undefined : later.undefined = (c.undefined || decide (1024 < (helloBody c).length))
  sentHello : later.sentHello = !e.handshakeSent

/-- Nothing was there of the body of the hello. -/
structure HelloMissed (c later : RecvChannel) : Prop where
  handed : later.handed = c.handed
  inbox : later.inbox = []
  msgState : later.msgState ≠ .waitingForMsgHeader

theorem ofHandleHelloMessage_answered (version : hdrVersion c.msgHdr = 4)
    (served : ¬ Starved c (ntohsLength c.msgHdr - sizeofOfpHeader)) :
    HelloAnswered e c (ofHandleHelloMessage host e c) := by
  unfold ofHandleHelloMessage
  rw [if_neg (not_not.mpr version)]
  by_cases body : sizeofOfpHeader < ntohsLength c.msgHdr
  · rw [if_pos body, cntlrRead_served host e 1024 (by exact served)]
    constructor <;> rfl
  · have nothing : ntohsLength c.msgHdr - sizeofOfpHeader = 0 := by omega
    rw [if_neg body]
    constructor <;> simp [helloBody, nothing]

/-- A hello whose body is starved is missed. -/
theorem ofHandleHelloMessage_missed (version : hdrVersion c.msgHdr = 4) (empty : c.inbox = [])
    (starved : Starved c (ntohsLength c.msgHdr - sizeofOfpHeader)) :
    HelloMissed c (ofHandleHelloMessage host e c) := by
  have body : sizeofOfpHeader < ntohsLength c.msgHdr := by
    have asks := starved.1
    omega
  have starved' : Starved (c.access (.subtract (ntohsLength c.msgHdr) sizeofOfpHeader))
      (ntohsLength c.msgHdr - sizeofOfpHeader) := starved
  have failed := cntlrRead_starved host e 1024 starved'
  have frame := cntlrRead_frame host e
    (c.access (.subtract (ntohsLength c.msgHdr) sizeofOfpHeader)) 1024
    (ntohsLength c.msgHdr - sizeofOfpHeader)
  have state := cntlrRead_msgState_none host e _ failed
  have nothing := @cntlrRead_inbox_nil host e
    (c.access (.subtract (ntohsLength c.msgHdr) sizeofOfpHeader)) empty 1024
    (ntohsLength c.msgHdr - sizeofOfpHeader)
  unfold ofHandleHelloMessage
  rw [if_neg (not_not.mpr version)]
  rw [if_pos body]
  generalize cntlrReadMsgRecvdFromDp host e _ 1024 _ = answer at failed frame state nothing
  rcases answer with ⟨none | got, later⟩
  · constructor
    case handed => exact frame.handed
    case inbox => exact nothing
    case msgState =>
      rcases state with draining | new
      · exact fun header => nomatch draining.symm.trans header
      · exact fun header => nomatch new.symm.trans header
  · cases failed

end Handler

/-! ## Before the hello -/

attribute [local simp] RecvChannel.arrive

variable {host : ByteOrder}

theorem readStep_waiting {e : ReadEvent} {c : RecvChannel}
    (waiting : c.fsmState = .waitForHandshake) (defined : c.undefined = false) :
    readStep host c e = cntlrTrnsprtHandleHandshake host e (c.arrive e) := by
  have notUndefined : (c.arrive e).undefined ≠ true := by
    simp [defined]
  have still : (c.arrive e).fsmState = .waitForHandshake := waiting
  unfold readStep
  rw [if_neg notUndefined, still]

/-- Nothing has arrived yet. -/
structure Quiet (channel : HandshakeChannel) : Prop where
  open_ : channel.recv.fsmState = .waitForHandshake
  defined : channel.recv.undefined = false
  new : channel.recv.msgState = .waitingForNewMsg
  header : channel.recv.msgHdr = List.replicate 8 0
  empty : channel.recv.inbox = []
  handed : channel.recv.handed = []
  arrived : channel.arrived = []
  state : channel.state ≠ .connReqHandshakeWithDp
  sentHello : channel.recv.sentHello = decide (channel.state = .sentHelloToDp)
  notSent : channel.state = .connEstbd → channel.hellosSent = 0

namespace Quiet

variable {host : ByteOrder} {hello : List UInt8} {channel : HandshakeChannel}

theorem start : Quiet HandshakeChannel.start := by
  constructor <;> decide

theorem framed (quiet : Quiet channel) : Framed hello channel where
  open_ := quiet.open_
  defined := quiet.defined
  bytes := by
    rw [quiet.arrived, quiet.empty, HandshakeChannel.held, quiet.new, quiet.handed]
    rfl
  once := .inl quiet.handed
  advanced := by
    constructor
    · exact fun past => absurd past quiet.state
    · exact fun both => absurd quiet.handed both.2

theorem sendHello (quiet : Quiet channel) (sent : Bool) :
    Quiet (channel.step host (.sendHello sent)) where
  open_ := quiet.open_
  defined := quiet.defined
  new := quiet.new
  header := quiet.header
  empty := quiet.empty
  handed := quiet.handed
  arrived := quiet.arrived
  state := HandshakeState.noConfusion
  sentHello := rfl
  notSent := fun impossible => nomatch impossible

/-- A read of nothing leaves the channel quiet. -/
theorem read_nothing (quiet : Quiet channel) {e : ReadEvent} {sent : Bool}
    (nothing : e.arrived = []) (stays : e.peerClosed = false) :
    Quiet (channel.step host (.read e sent)) := by
  have empty : (channel.recv.arrive e.withHandshake).inbox = [] := by
    simp [ReadEvent.withHandshake, quiet.empty, nothing]
  have read := @fsmRead_header_empty host e.withHandshake
    (channel.recv.arrive e.withHandshake) channel.recv.sentHello
    (.inl quiet.new) (fun header => nomatch quiet.new.symm.trans header) empty
  have recvEq : readStep host channel.recv e.withHandshake =
      { headerAccess (channel.recv.arrive e.withHandshake) with readFail := true } := by
    rw [readStep_waiting quiet.open_ quiet.defined]
    unfold cntlrTrnsprtHandleHandshake
    rw [show (channel.recv.arrive e.withHandshake).sentHello = channel.recv.sentHello from rfl,
      read]
    simp [headerReadFailed, ReadEvent.withHandshake, stays]
  have access : headerAccess (channel.recv.arrive e.withHandshake) =
      (channel.recv.arrive e.withHandshake).access (.request sizeofOfpHeader sizeofOfpHeader) :=
    if_pos quiet.new
  rw [access] at recvEq
  have stepEq : channel.step host (.read e sent) =
      { channel with
        recv := { (channel.recv.arrive e.withHandshake).access
          (.request sizeofOfpHeader sizeofOfpHeader) with readFail := true }
        arrived := channel.arrived ++ e.arrived } := by
    simp [HandshakeChannel.step, recvEq]
  rw [stepEq]
  exact
    { open_ := quiet.open_
      defined := quiet.defined
      new := quiet.new
      header := quiet.header
      empty := empty
      handed := quiet.handed
      arrived := by simp [quiet.arrived, nothing]
      state := quiet.state
      sentHello := quiet.sentHello
      notSent := quiet.notSent }

end Quiet

/-! ## The read that finds the hello -/

theorem arrivedHeader_new {c : RecvChannel} (new : c.msgState = .waitingForNewMsg)
    (header : c.msgHdr = replicate 8 0) (inbox : List UInt8) :
    arrivedHeader c inbox =
      inbox.take 8 ++ (replicate 8 0).drop (inbox.take 8).length := by
  unfold arrivedHeader writeAt headerOffset
  rw [new, header]
  simp [sizeofOfpHeader]

variable {hello rest tail bytes : List UInt8}

theorem header_of_prefix (isHello : IsHello hello) (stream : bytes ++ tail = hello ++ rest)
    (some_ : bytes ≠ []) :
    hdrVersion (bytes.take 8 ++ (replicate 8 0).drop (bytes.take 8).length) = 4 ∧
      hdrType (bytes.take 8 ++ (replicate 8 0).drop (bytes.take 8).length) =
        Ofpt.hello := by
  have whole := isHello.whole
  rcases bytes with _ | ⟨first, more⟩
  · exact absurd rfl some_
  rcases hello with _ | ⟨version, _ | ⟨type, others⟩⟩
  · exact absurd whole (by decide)
  · exact absurd whole (by simp [sizeofOfpHeader])
  have sameFirst : first = version := (List.cons.inj stream).1
  have isVersion : version = 4 := isHello.version
  constructor
  · exact sameFirst.trans isVersion
  · rcases more with _ | ⟨second, more⟩
    · rfl
    · have sameSecond : second = type := (List.cons.inj (List.cons.inj stream).2).1
      exact sameSecond.trans isHello.type

/-- What the read made of the bytes that arrived. -/
structure HelloRead (host : ByteOrder) (e : ReadEvent) (channel : HandshakeChannel)
    (headed : RecvChannel) : Prop where
  msgHdr : headed.msgHdr =
    e.arrived.take 8 ++ (List.replicate 8 0).drop (e.arrived.take 8).length
  inbox : headed.inbox =
    if channel.recv.sentHello then e.arrived else e.arrived.drop 8
  handed : headed.handed = []
  fsmState : headed.fsmState = .waitForHandshake
  undefined : headed.undefined = false
  result : readStep host channel.recv e.withHandshake =
    ofHandleHelloMessage host e.withHandshake headed

/-- The first bytes of a hello are read as such. -/
theorem Quiet.helloRead {host : ByteOrder} {channel : HandshakeChannel} (quiet : Quiet channel)
    {e : ReadEvent} {hello rest tail : List UInt8} (isHello : IsHello hello)
    (stream : e.arrived ++ tail = hello ++ rest) (some_ : e.arrived ≠ []) :
    ∃ headed, HelloRead host e channel headed := by
  have inboxEq : (channel.recv.arrive e.withHandshake).inbox = e.arrived := by
    simp [ReadEvent.withHandshake, quiet.empty]
  have new : (channel.recv.arrive e.withHandshake).msgState = .waitingForNewMsg := quiet.new
  have offset : sizeofOfpHeader - headerOffset (channel.recv.arrive e.withHandshake) = 8 := by
    rw [headerOffset, new]
    rfl
  have live : (channel.recv.arrive e.withHandshake).fsmState ≠ .closeConn := by
    intro closed
    cases quiet.open_.symm.trans closed
  rcases @fsmRead_header host e.withHandshake (channel.recv.arrive e.withHandshake)
    channel.recv.sentHello (.inl new) (fun header => by cases new.symm.trans header) live
    (by rw [inboxEq]; exact some_) with ⟨done, read⟩
  refine ⟨(fsmXprtProtoChannelRead host e.withHandshake channel.recv.sentHello
    (channel.recv.arrive e.withHandshake)).2, ?_⟩
  have header := read.msgHdr
  rw [inboxEq, arrivedHeader_new new quiet.header] at header
  rcases header_of_prefix isHello stream some_ with ⟨version, type⟩
  rw [← header] at version type
  constructor
  case msgHdr => exact header
  case inbox =>
    have inbox := read.inbox
    rw [inboxEq, offset] at inbox
    exact inbox
  case handed => exact read.handed.trans quiet.handed
  case fsmState => exact read.fsmState.trans quiet.open_
  case undefined => exact read.undefined.trans quiet.defined
  case result =>
    rw [readStep_waiting quiet.open_ quiet.defined]
    unfold cntlrTrnsprtHandleHandshake
    rw [show (channel.recv.arrive e.withHandshake).sentHello = channel.recv.sentHello from rfl]
    generalize fsmXprtProtoChannelRead host e.withHandshake channel.recv.sentHello
      (channel.recv.arrive e.withHandshake) = answer at done version type
    rcases answer with ⟨answered, headed⟩
    cases done
    dsimp only at version type ⊢
    unfold ofProcessHandshakeMsg
    rw [if_neg (not_not.mpr version), if_pos type]

theorem take_of_stream {size : Nat} (stream : bytes ++ tail = hello ++ rest)
    (here : size ≤ bytes.length) (inside : size ≤ hello.length) :
    bytes.take size = hello.take size := by
  have taken := congrArg (List.take size) stream
  rwa [take_append_of_le_length here, take_append_of_le_length inside] at taken

/-- A hello that has arrived whole has its length read. -/
theorem HelloRead.whole {e : ReadEvent} {channel : HandshakeChannel} {headed : RecvChannel}
    (read : HelloRead host e channel headed) {hello rest tail : List UInt8}
    (isHello : IsHello hello) (stream : e.arrived ++ tail = hello ++ rest)
    (notSent : channel.recv.sentHello = false) (here : hello.length ≤ e.arrived.length) :
    ntohsLength headed.msgHdr = hello.length ∧ headed.msgHdr = hello.take 8 ∧
      helloBody headed = hello.drop 8 ∧
      headed.inbox = hello.drop 8 ++ e.arrived.drop hello.length := by
  have long : 8 ≤ hello.length := isHello.whole
  have taken : e.arrived.take 8 = hello.take 8 :=
    take_of_stream stream (Nat.le_trans long here) long
  have header : headed.msgHdr = hello.take 8 := by
    rw [read.msgHdr, taken, length_take_of_le long]
    simp
  have size : ntohsLength headed.msgHdr = hello.length := by
    rw [header, ← isHello.length]
    unfold ntohsLength
    rcases hello with _ | ⟨a, _ | ⟨b, _ | ⟨c, _ | ⟨d, more⟩⟩⟩⟩ <;> simp at long ⊢
  have front : e.arrived.take hello.length = hello := by
    rw [take_of_stream stream here (Nat.le_refl _), take_length]
  have inbox : headed.inbox = hello.drop 8 ++ e.arrived.drop hello.length := by
    rw [read.inbox, notSent, if_neg Bool.false_ne_true]
    rw [← drop_append_of_le_length long]
    congr 1
    rw [← front, length_take_of_le here, take_append_drop]
  refine ⟨size, header, ?_, inbox⟩
  unfold helloBody
  rw [size, inbox]
  apply take_left'
  rw [length_drop]
  rfl

/-- The state after a hello that was there as a whole and is answered. -/
structure Exchanged (hello : List UInt8) (channel : HandshakeChannel) : Prop where
  framed : Framed hello channel
  handed : channel.recv.handed = [hello]
  advanced : channel.state = .connReqHandshakeWithDp

section First

variable {host : ByteOrder} {channel : HandshakeChannel} {e : ReadEvent}
  {hello rest tail : List UInt8} {sent : Bool}

/-- A whole hello that fits is answered and the exchange is done. -/
theorem Quiet.exchanged (quiet : Quiet channel) (isHello : IsHello hello)
    (stream : e.arrived ++ tail = hello ++ rest) (notSent : channel.recv.sentHello = false)
    (here : hello.length ≤ e.arrived.length) (fits : hello.length ≤ sizeofOfpHeader + 1024)
    (answered : sent = true) : Exchanged hello (channel.step host (.read e sent)) := by
  have long : 8 ≤ hello.length := isHello.whole
  have some_ : e.arrived ≠ [] := by
    rintro empty
    rw [empty] at here
    exact absurd (Nat.le_trans long here) (by decide)
  rcases @Quiet.helloRead host _ quiet _ _ _ _ isHello stream some_ with ⟨headed, read⟩
  rcases read.whole isHello stream notSent here with ⟨size, header, body, inbox⟩
  rcases header_of_prefix isHello stream some_ with ⟨version, type⟩
  rw [← read.msgHdr] at version type
  have served : ¬ Starved headed (ntohsLength headed.msgHdr - sizeofOfpHeader) := by
    rintro ⟨asks, empty | closed⟩
    · rw [inbox, append_eq_nil_iff, drop_eq_nil_iff] at empty
      unfold sizeofOfpHeader at asks
      omega
    · exact nomatch read.fsmState.symm.trans closed
  have later := @ofHandleHelloMessage_answered host e.withHandshake headed version served
  rw [← read.result] at later
  have handed : (readStep host channel.recv e.withHandshake).handed = [hello] := by
    rw [later.handed, read.handed, header, body, take_append_drop]
    rfl
  have answers : (readStep host channel.recv e.withHandshake).handed.length ≠
      channel.recv.handed.length ∧
        hdrType (readStep host channel.recv e.withHandshake).msgHdr = Ofpt.hello := by
    rw [handed, quiet.handed, later.msgHdr]
    exact ⟨by simp, type⟩
  have notSentState : channel.state ≠ .sentHelloToDp := by
    have flag := quiet.sentHello
    rw [notSent] at flag
    exact of_decide_eq_false flag.symm
  have state : (channel.step host (.read e sent)).state = .connReqHandshakeWithDp :=
    if_pos answers
  have hellos : (channel.step host (.read e sent)).hellosSent = channel.hellosSent + 1 := by
    have counted : (channel.step host (.read e sent)).hellosSent =
        channel.hellosSent + sent.toNat := if_pos ⟨answers, notSentState⟩
    rw [counted, answered]
    rfl
  have remaining : (readStep host channel.recv e.withHandshake).inbox =
      e.arrived.drop hello.length := by
    rw [later.inbox, size, inbox]
    apply drop_left'
    rw [length_drop]
    rfl
  constructor
  case handed => exact handed
  case advanced => exact state
  case framed =>
    constructor
    case open_ => exact later.fsmState.trans read.fsmState
    case defined =>
      have small : ¬ 1024 < (helloBody headed).length := by
        rw [body, length_drop]
        unfold sizeofOfpHeader at fits
        omega
      refine later.undefined.trans ?_
      rw [read.undefined, decide_eq_false small]
      rfl
    case bytes =>
      have held : (channel.step host (.read e sent)).held = hello := by
        refine (if_neg ?_).trans ?_
        · exact fun header => nomatch later.msgState.symm.trans header
        · exact (congrArg List.flatten handed).trans (append_nil hello)
      rw [held]
      change channel.arrived ++ e.arrived =
        hello ++ (readStep host channel.recv e.withHandshake).inbox
      rw [remaining, quiet.arrived, nil_append]
      have front : e.arrived.take hello.length = hello := by
        rw [take_of_stream stream here (Nat.le_refl _), take_length]
      exact (take_append_drop hello.length e.arrived).symm.trans (by rw [front])
    case once => exact .inr ⟨handed, later.msgState⟩
    case advanced =>
      rw [hellos]
      constructor
      · intro _
        refine ⟨Nat.succ_pos _, ?_⟩
        exact fun empty => cons_ne_nil _ _ (handed.symm.trans empty)
      · exact fun _ => state

/-- A hello that was framed had arrived whole and fit its buffer. -/
theorem Quiet.of_framed (quiet : Quiet channel) (isHello : IsHello hello)
    (stream : e.arrived ++ tail = hello ++ rest) (some_ : e.arrived ≠ [])
    (framed : Framed hello (channel.step host (.read e sent))) :
    channel.recv.sentHello = false ∧ hello.length ≤ e.arrived.length ∧
      hello.length ≤ sizeofOfpHeader + 1024 ∧ sent = true := by
  rcases @Quiet.helloRead host _ quiet _ _ _ _ isHello stream some_ with ⟨headed, read⟩
  rcases header_of_prefix isHello stream some_ with ⟨version, type⟩
  rw [← read.msgHdr] at version type
  have whole : headed.msgHdr.length = 8 := by
    rw [read.msgHdr, length_append, length_drop, length_take, length_replicate]
    omega
  have bytes := framed.bytes
  change channel.arrived ++ e.arrived =
    (channel.step host (.read e sent)).held ++
      (readStep host channel.recv e.withHandshake).inbox at bytes
  rw [quiet.arrived, nil_append] at bytes
  by_cases starved : Starved headed (ntohsLength headed.msgHdr - sizeofOfpHeader)
  · -- the header was taken from the stream, and the body was not there
    have empty : headed.inbox = [] := by
      rcases starved.2 with empty | closed
      · exact empty
      · exact nomatch read.fsmState.symm.trans closed
    have later := @ofHandleHelloMessage_missed host e.withHandshake headed version empty starved
    rw [← read.result] at later
    have held : (channel.step host (.read e sent)).held = [] := by
      refine (if_neg later.msgState).trans ?_
      exact congrArg List.flatten (later.handed.trans read.handed)
    rw [held, later.inbox] at bytes
    exact absurd bytes some_
  · have later := @ofHandleHelloMessage_answered host e.withHandshake headed version starved
    rw [← read.result] at later
    have message : (readStep host channel.recv e.withHandshake).handed =
        [headed.msgHdr ++ helloBody headed] := by
      rw [later.handed, read.handed]
      rfl
    have same : headed.msgHdr ++ helloBody headed = hello := by
      rcases framed.once with none | one
      · exact nomatch message.symm.trans none
      · exact singleton_inj.mp (message.symm.trans one.1)
    have held : (channel.step host (.read e sent)).held = hello := by
      refine (if_neg ?_).trans ?_
      · exact fun header => nomatch later.msgState.symm.trans header
      · rw [← same]
        exact (congrArg List.flatten message).trans (append_nil _)
    have sizes := congrArg List.length bytes
    have parts := congrArg List.length same
    rw [length_append, held, later.inbox, length_drop] at sizes
    rw [length_append, whole] at parts
    have bodySize : (helloBody headed).length =
        min (ntohsLength headed.msgHdr - sizeofOfpHeader) headed.inbox.length :=
      length_take
    have inboxSize := congrArg List.length read.inbox
    have notSent : channel.recv.sentHello = false := by
      cases flag : channel.recv.sentHello with
      | false => rfl
      | true =>
        rw [flag, if_pos rfl] at inboxSize
        omega
    have defined := framed.defined
    have overrun := later.undefined.symm.trans defined
    rw [read.undefined, Bool.false_or] at overrun
    have small := of_decide_eq_false overrun
    have answers : (readStep host channel.recv e.withHandshake).handed.length ≠
        channel.recv.handed.length ∧
          hdrType (readStep host channel.recv e.withHandshake).msgHdr = Ofpt.hello := by
      rw [message, quiet.handed, later.msgHdr]
      exact ⟨by simp, type⟩
    have estbd : channel.state = .connEstbd := by
      have flag := quiet.sentHello
      rw [notSent] at flag
      have notSentState := of_decide_eq_false flag.symm
      have notPast := quiet.state
      cases state : channel.state with
      | connEstbd => rfl
      | sentHelloToDp => exact absurd state notSentState
      | connReqHandshakeWithDp => exact absurd state notPast
    have state : (channel.step host (.read e sent)).state = .connReqHandshakeWithDp :=
      if_pos answers
    have hellos : (channel.step host (.read e sent)).hellosSent =
        channel.hellosSent + sent.toNat :=
      if_pos ⟨answers, by rw [estbd]; exact HandshakeState.noConfusion⟩
    have left := (framed.advanced.mp state).1
    rw [hellos, quiet.notSent estbd, Nat.zero_add] at left
    refine ⟨notSent, ?_, ?_, ?_⟩
    · omega
    · unfold sizeofOfpHeader
      omega
    · cases sent with
      | true => rfl
      | false => exact absurd left (by decide)

end First

/-! ## Whole runs -/

section Runs

variable {host : ByteOrder} {channel : HandshakeChannel} {hello rest tail : List UInt8}

theorem Quiet.run {front : List HandshakeEvent} (quiet : Quiet channel)
    (nothing : arrivedBytes front = [])
    (stays : ∀ e sent, .read e sent ∈ front → e.arrived = [] → e.peerClosed = false) :
    Quiet (front.foldl (HandshakeChannel.step host) channel) ∧
      Along (HandshakeChannel.step host)
        (fun channel event => Framed hello (channel.step host event)) channel front := by
  induction front generalizing channel with
  | nil => exact ⟨quiet, trivial⟩
  | cons event front ih =>
  have stays' : ∀ e sent, .read e sent ∈ front → e.arrived = [] →
      e.peerClosed = false :=
    fun e sent mem => stays e sent (mem_cons_of_mem _ mem)
  cases event with
  | sendHello sent =>
    have next := @Quiet.sendHello host channel quiet sent
    have later := ih next nothing stays'
    exact ⟨later.1, next.framed, later.2⟩
  | read e sent =>
  have both : e.arrived ++ arrivedBytes front = [] := nothing
  rcases append_eq_nil_iff.mp both with ⟨here, there⟩
  have next := @Quiet.read_nothing host channel quiet e sent here (stays e sent mem_cons_self here)
  have later := ih next there stays'
  exact ⟨later.1, next.framed, later.2⟩

theorem Quiet.state_read {e : ReadEvent} {sent : Bool}
    (next : Quiet (channel.step host (.read e sent))) :
    (channel.step host (.read e sent)).state = channel.state := by
  rcases ite_eq_or_eq
    ((readStep host channel.recv e.withHandshake).handed.length ≠
      channel.recv.handed.length ∧
      hdrType (readStep host channel.recv e.withHandshake).msgHdr = Ofpt.hello)
    HandshakeState.connReqHandshakeWithDp channel.state with past | same
  · exact absurd past next.state
  · exact same

/-- The state tells whether the own hello was sent. -/
theorem Quiet.state_run {front : List HandshakeEvent} (quiet : Quiet channel)
    (nothing : arrivedBytes front = [])
    (stays : ∀ e sent, .read e sent ∈ front → e.arrived = [] → e.peerClosed = false) :
    (front.foldl (HandshakeChannel.step host) channel).state = .sentHelloToDp ↔
      channel.state = .sentHelloToDp ∨ ∃ sent, .sendHello sent ∈ front := by
  induction front generalizing channel with
  | nil => simp
  | cons event front ih =>
  have stays' : ∀ e sent, .read e sent ∈ front → e.arrived = [] →
      e.peerClosed = false :=
    fun e sent mem => stays e sent (mem_cons_of_mem _ mem)
  cases event with
  | sendHello other =>
    have next := @Quiet.sendHello host channel quiet other
    constructor
    · exact fun _ => .inr ⟨other, mem_cons_self⟩
    · exact fun _ => (ih next nothing stays').mpr (.inl rfl)
  | read e other =>
  have both : e.arrived ++ arrivedBytes front = [] := nothing
  rcases append_eq_nil_iff.mp both with ⟨here, there⟩
  have next := @Quiet.read_nothing host channel quiet e other here
    (stays e other mem_cons_self here)
  refine (ih next there stays').trans ?_
  rw [next.state_read]
  simp

/-- Nothing of a hello arrives before the read that frames it. -/
theorem Quiet.nothing_of_framed {front : List HandshakeEvent} (quiet : Quiet channel)
    (isHello : IsHello hello) (stream : arrivedBytes front ++ tail = hello ++ rest)
    (last : (arrivedBytes front).length < hello.length)
    (stays : ∀ e sent, .read e sent ∈ front → e.arrived = [] → e.peerClosed = false)
    (framed : Along (HandshakeChannel.step host)
      (fun channel event => Framed hello (channel.step host event)) channel front) :
    arrivedBytes front = [] := by
  induction front generalizing channel with
  | nil => rfl
  | cons event front ih =>
  have stays' : ∀ e sent, .read e sent ∈ front → e.arrived = [] →
      e.peerClosed = false :=
    fun e sent mem => stays e sent (mem_cons_of_mem _ mem)
  cases event with
  | sendHello sent =>
    exact ih (@Quiet.sendHello host channel quiet sent) stream last stays' framed.2
  | read e sent =>
  have split : arrivedBytes (.read e sent :: front) =
      e.arrived ++ arrivedBytes front := rfl
  rw [split] at stream last ⊢
  by_cases here : e.arrived = []
  · rw [here, nil_append] at stream last ⊢
    exact ih (@Quiet.read_nothing host channel quiet e sent here
      (stays e sent mem_cons_self here)) stream last stays' framed.2
  -- the first bytes would have to be the whole hello
  rw [append_assoc] at stream
  have whole := (quiet.of_framed isHello stream here framed.1).2.1
  rw [length_append] at last
  omega

theorem Exchanged.not_sendHello (exchanged : Exchanged hello channel) (sent : Bool) :
    ¬ Framed hello (channel.step host (.sendHello sent)) := by
  intro framed
  have hellos := (exchanged.framed.advanced.mp exchanged.advanced).1
  have past := framed.advanced.mpr
    ⟨Nat.lt_of_lt_of_le hellos (Nat.le_add_right _ _), by
      change channel.recv.handed ≠ []
      rw [exchanged.handed]
      exact cons_ne_nil _ _⟩
  cases past

end Runs

/-- Events before the peer's hello is complete, the read event that completes it, and
sendings of our hello after it. -/
def helloRun (front : List HandshakeEvent) (e : ReadEvent) (sent : Bool)
    (later : List Bool) : List HandshakeEvent :=
  front ++ .read e sent :: later.map .sendHello

/-- The exchange of hellos takes exactly the peer's hello from the stream, once, and is
past it exactly when both hellos are exchanged, if and only if the hello is found whole, in
time and answered. -/
theorem framed_iff_helloWhole (host : ByteOrder) {hello rest : List UInt8}
    {front : List HandshakeEvent} {e : ReadEvent} {sent : Bool} {later : List Bool}
    (isHello : IsHello hello) (delivers : Delivers hello rest front e) :
    (Along (HandshakeChannel.step host)
        (fun channel event => Framed hello (channel.step host event)) HandshakeChannel.start
        (helloRun front e sent later) ∧
      ((helloRun front e sent later).foldl (HandshakeChannel.step host)
        HandshakeChannel.start).recv.handed = [hello]) ↔
      HelloWhole hello front sent later := by
  rcases delivers with ⟨stream, last, stays⟩
  have long : 0 < hello.length := Nat.lt_of_lt_of_le (by decide) isHello.whole
  constructor
  · rintro ⟨framed, -⟩
    rw [helloRun, Along.append_iff, Along.cons_iff] at framed
    rcases framed with ⟨before, at_, after⟩
    have nothing := Quiet.start.nothing_of_framed isHello stream last stays before
    have quiet := (@Quiet.run host _ hello front Quiet.start nothing stays).1
    rw [nothing, nil_append] at stream
    have stream' : e.arrived ++ [] = hello ++ rest := by
      rw [append_nil]
      exact stream
    have some_ : e.arrived ≠ [] := by
      rw [stream]
      intro empty
      have none := (append_eq_nil_iff.mp empty).1
      rw [none] at long
      exact absurd long (Nat.lt_irrefl 0)
    rcases quiet.of_framed isHello stream' some_ at_ with ⟨notSent, here, fits, answered⟩
    have exchanged := @Quiet.exchanged host _ _ _ _ _ sent quiet isHello stream' notSent here
      fits answered
    constructor
    case notSent =>
      intro other mem
      have state := (@Quiet.state_run host _ front Quiet.start nothing stays).mpr
        (.inr ⟨other, mem⟩)
      have flag := quiet.sentHello
      rw [notSent, state] at flag
      cases flag
    case nothing => exact nothing
    case fits => exact fits
    case answered => exact answered
    case notLater =>
      cases later with
      | nil => rfl
      | cons other others => exact absurd after.1 (exchanged.not_sendHello other)
  · rintro ⟨notSent, nothing, fits, answered, notLater⟩
    rcases @Quiet.run host _ hello front Quiet.start nothing stays with ⟨quiet, before⟩
    rw [nothing, nil_append] at stream
    have stream' : e.arrived ++ [] = hello ++ rest := by
      rw [append_nil]
      exact stream
    have here : hello.length ≤ e.arrived.length := by
      rw [stream, length_append]
      exact Nat.le_add_right _ _
    have unsent : (front.foldl (HandshakeChannel.step host)
        HandshakeChannel.start).recv.sentHello = false := by
      refine quiet.sentHello.trans (decide_eq_false ?_)
      intro state
      rcases (@Quiet.state_run host _ front Quiet.start nothing stays).mp state with
        impossible | ⟨other, mem⟩
      · cases impossible
      · exact notSent other mem
    have exchanged := @Quiet.exchanged host _ _ _ _ _ sent quiet isHello stream' unsent here
      fits answered
    subst notLater
    rw [helloRun, Along.append_iff, foldl_append]
    exact ⟨⟨before, exchanged.framed, trivial⟩, exchanged.handed⟩

/-- A read event that brings bytes. -/
def helloEvent (arrived : List UInt8) : ReadEvent where
  arrived := arrived
  peerClosed := false
  invalidChannelState := 0
  poolAvailable := true
  pktbufAlloc := none
  xidKnown := false
  fslxSubtype := 0
  attach := .other
  handshakeSent := true

/-- A hello with a version bitmap element. -/
def bitmapHello : List UInt8 :=
  [4, 0, 0, 16, 0, 0, 0, 1, 0, 1, 0, 8, 0, 0, 0, 16]

/-- After an empty read, a hello with an element and the header of the next message
arrive. -/
theorem framed_bitmapHello :
    Along (HandshakeChannel.step .littleEndian)
        (fun channel event => Framed bitmapHello (channel.step .littleEndian event))
        HandshakeChannel.start
        (helloRun [.read (helloEvent []) true]
          (helloEvent (bitmapHello ++ [4, 2, 0, 8, 0, 0, 0, 2])) true []) ∧
      ((helloRun [.read (helloEvent []) true]
          (helloEvent (bitmapHello ++ [4, 2, 0, 8, 0, 0, 0, 2])) true []).foldl
        (HandshakeChannel.step .littleEndian) HandshakeChannel.start).recv.handed =
          [bitmapHello] := by
  have isHello : IsHello bitmapHello := by
    constructor <;> decide
  have delivers : Delivers bitmapHello [4, 2, 0, 8, 0, 0, 0, 2] [.read (helloEvent []) true]
      (helloEvent (bitmapHello ++ [4, 2, 0, 8, 0, 0, 0, 2])) := by
    constructor
    case stream => rfl
    case last => decide
    case stays =>
      intro e sent mem _
      rcases mem_singleton.mp mem with ⟨⟩
      rfl
  apply (framed_iff_helloWhole .littleEndian isHello delivers).mpr
  constructor
  case notSent => simp
  case nothing => rfl
  case fits => decide
  case answered => rfl
  case notLater => rfl

/-- When our hello is sent first, the header of the peer's hello stays in the stream. -/
theorem not_framed_after_sendHello :
    ¬ ∀ (hello rest : List UInt8) (front : List HandshakeEvent) (e : ReadEvent)
        (sent : Bool) (later : List Bool), IsHello hello → Delivers hello rest front e →
      Along (HandshakeChannel.step .littleEndian)
        (fun channel event => Framed hello (channel.step .littleEndian event))
        HandshakeChannel.start (helloRun front e sent later) := by
  intro framed
  have isHello : IsHello [4, 0, 0, 8, 0, 0, 0, 1] := by
    constructor <;> decide
  have delivers : Delivers [4, 0, 0, 8, 0, 0, 0, 1] [] [.sendHello true]
      (helloEvent [4, 0, 0, 8, 0, 0, 0, 1]) := by
    constructor
    case stream => rfl
    case last => decide
    case stays =>
      intro e sent mem _
      exact nomatch mem_singleton.mp mem
  have taken := (framed [4, 0, 0, 8, 0, 0, 0, 1] [] [.sendHello true]
    (helloEvent [4, 0, 0, 8, 0, 0, 0, 1]) true [] isHello delivers).2.1.bytes
  exact absurd taken (by decide)

end OpenFlowController.Messages
