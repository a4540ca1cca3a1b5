/-
Module: Coreapp.EchoReply
Purpose: The echo request hook, which turns the received message into the reply and hands it to
  the transmit path of the main channel of the datapath, and the runs in which every request on a
  bound channel is answered once on that channel.
Source: ofproto/src/coreapp/cntlr_app.c 470-516; ofproto/src/messages/of_cntlr_msg.c 3478-3523;
  ofproto/src/transport/base/trnsprt_core.c 287-335; ofproto/src/include/cntlr_transprt.h 375-381
Trusted boundary: an access through a NULL datapath or a NULL connection table is undefined
-/
import OpenFlowController.Include.Openflow
import OpenFlowController.Transport.SecondaryClose
import OpenFlowController.Transport.SendPath

namespace OpenFlowController.Coreapp

open Include List Function Library Transport

/-! ## The hook -/

/-- An echo request that a channel received, with what the socket, the allocator and epoll answer
while it is handled. -/
structure EchoRequest where
  channel : Nat
  msg : OfMsg
  header_le : 8 ≤ msg.dataLen
  isRequest : msg.data[1]? = some Ofpt.echoRequest
  result : SendResult
  memory : SendMemory

/-- The bindings, the transmit side of each channel, and whether the hook is registered in the
domain of a datapath. -/
structure EchoState where
  binding : Binding
  transmit : Nat → SendChannel
  hooked : Nat → Bool

structure EchoOutcome where
  transmit : Nat → SendChannel
  undefined : Bool

/-- `msg_hdr->type = OFPT_ECHO_REPLY` on the received message. -/
def setEchoReply (msg : OfMsg) : OfMsg where
  id := msg.id
  data := msg.data.set 1 Ofpt.echoReply
  dataLen_lt := by
    rw [List.length_set]
    exact msg.dataLen_lt

/-- `cntlr_transprt_send_to_dp_locally`; the second component is `status == OF_SUCCESS`. -/
def cntlrTransprtSendToDpLocally (binding : Binding) (transmit : Nat → SendChannel)
    (channel : Nat) (msg : OfMsg) (result : SendResult) (memory : SendMemory) :
    (Nat → SendChannel) × Bool :=
  if (binding.channels channel).isChnAdded2HashTbl then
    let sent := cntlrTnsprtSendMsgToDpChannel (transmit channel) msg result memory
    (Function.update transmit channel sent.1, sent.2)
  else
    (transmit, false)

namespace EchoState

variable (state : EchoState)

/-- `of_handle_echo_request_msg`.  It is told the datapath and not the channel, and takes the main
channel of the datapath.  Where it fails, the message stays with nobody. -/
def ofHandleEchoRequestMsg (datapath : Nat) (msg : OfMsg) (result : SendResult)
    (memory : SendMemory) : EchoOutcome :=
  match state.binding.datapaths datapath with
  | none => { transmit := state.transmit, undefined := false }
  | some entry =>
    match entry.mainChannel.connSafeRef with
    -- `main_channel` was cleared, and `conn_table` with it
    | none => { transmit := state.transmit, undefined := true }
    | some main =>
      { transmit := (cntlrTransprtSendToDpLocally state.binding state.transmit main
          (setEchoReply msg) result memory).1
        undefined := false }

/-- `of_echo_req_handler` once the message is complete. -/
def ofEchoReqHandler (request : EchoRequest) : EchoOutcome :=
  match (state.binding.channels request.channel).datapath with
  | none => { transmit := state.transmit, undefined := true }
  | some datapath =>
    if state.hooked datapath then
      state.ofHandleEchoRequestMsg datapath request.msg request.result request.memory
    else
      { transmit := Function.update state.transmit request.channel
          ((state.transmit request.channel).freeMsg request.msg)
        undefined := false }

end EchoState

/-! ## What should hold -/

/-- The same buffer with the same version, length, transaction id and payload. -/
structure IsEchoReply (reply msg : OfMsg) : Prop where
  buffer : reply.id = msg.id
  dataLen : reply.dataLen = msg.dataLen
  version : reply.data.take 1 = msg.data.take 1
  type : reply.data[1]? = some Ofpt.echoReply
  rest : reply.data.drop 2 = msg.data.drop 2

/-- The reply was written and its buffer released once, or it waits once behind the bytes of it
that went out, with its buffer kept. -/
def Replied (before after : SendChannel) (reply : OfMsg) : Prop :=
  (after.written = before.written ++ reply.data ∧ after.freed = before.freed ++ [reply.id] ∧
      after.sendMsgList = before.sendMsgList) ∨
    ∃ length, length < reply.dataLen ∧
      after.written = before.written ++ reply.data.take length ∧ after.freed = before.freed ∧
        after.sendMsgList = before.sendMsgList ++ [{ msg := reply, lengthSent := length }] ∧
          after.epollWrEnabled = true

namespace EchoState

/-- The channel is bound to the datapath. -/
structure Bound (state : EchoState) (channel datapath : Nat) (entry : DatapathEntry) : Prop where
  added : (state.binding.channels channel).isChnAddedToDp = true
  attached : (state.binding.channels channel).datapath = some datapath
  stored : state.binding.datapaths datapath = some entry

/-- One reply goes to the channel that the request came from, and nothing to any other. -/
structure AnsweredOnce (state : EchoState) (request : EchoRequest) : Prop where
  defined : (state.ofEchoReqHandler request).undefined = false
  replied : ∃ reply, IsEchoReply reply request.msg ∧
    Replied (state.transmit request.channel)
      ((state.ofEchoReqHandler request).transmit request.channel) reply
  others : ∀ other, other ≠ request.channel →
    (state.ofEchoReqHandler request).transmit other = state.transmit other

end EchoState

/-! ## When it does -/

/-- The socket does not fail on a message that it is offered, and one that has to wait gets its
list node and its write event. -/
def CanReply (channel : SendChannel) (length : Nat) (result : SendResult)
    (memory : SendMemory) : Prop :=
  (channel.sendMsgList = [] → result ≠ .failed) ∧
    (channel.sendMsgList ≠ [] ∨ ¬ result.Completes length →
      memory.nodeAllocated = true ∧
        (channel.epollWrEnabled = false → memory.epollModified = true))

/-- The request came on the main channel of its datapath, the hook is registered there, and the
reply can be sent or queued. -/
structure EchoState.FitsRequest (state : EchoState) (request : EchoRequest) (datapath : Nat)
    (entry : DatapathEntry) : Prop where
  hooked : state.hooked datapath = true
  main : entry.mainChannel.connSafeRef = some request.channel
  listed : (state.binding.channels request.channel).isChnAdded2HashTbl = true
  sendable : CanReply (state.transmit request.channel) request.msg.dataLen request.result
    request.memory

/-! ## Runs -/

/-- What happens to the bindings, the registration of the hook, another message for a channel, a
writable event of a channel, and an echo request. -/
inductive EchoEvent where
  | bind (event : BindingEvent)
  | registerHook (datapath : Nat)
  | send (channel : Nat) (msg : OfMsg) (result : SendResult) (memory : SendMemory)
  | writable (channel : Nat) (results : List SendResult) (uninitialised : Nat)
      (memory : SendMemory)
  | request (request : EchoRequest)

def echoStep (state : EchoState) : EchoEvent → EchoState
  | .bind event => { state with binding := bindingStep state.binding event }
  | .registerHook datapath =>
    { state with hooked := Function.update state.hooked datapath true }
  | .send channel msg result memory =>
    { state with
      transmit := (cntlrTransprtSendToDpLocally state.binding state.transmit channel msg result
        memory).1 }
  | .writable channel results uninitialised memory =>
    { state with
      transmit := Function.update state.transmit channel
        (ofSendAllMsgsWaitingOnChnToDp (state.transmit channel) results uninitialised memory) }
  | .request request => { state with transmit := (state.ofEchoReqHandler request).transmit }

/-- Each request on a bound channel is answered. -/
def EchoState.Answered (state : EchoState) : EchoEvent → Prop
  | .request request => ∀ datapath entry, state.Bound request.channel datapath entry →
      state.AnsweredOnce request
  | .bind _ | .registerHook _ | .send .. | .writable .. => True

def EchoState.Fits (state : EchoState) : EchoEvent → Prop
  | .request request => ∀ datapath entry, state.Bound request.channel datapath entry →
      state.FitsRequest request datapath entry
  | .bind _ | .registerHook _ | .send .. | .writable .. => True

/-! ## The reply -/

@[simp]
theorem setEchoReply_dataLen (msg : OfMsg) : (setEchoReply msg).dataLen = msg.dataLen :=
  length_set

theorem EchoRequest.setEchoReply_isEchoReply (request : EchoRequest) :
    IsEchoReply (setEchoReply request.msg) request.msg := by
  have inside : 1 < request.msg.data.length := by
    have header := request.header_le
    rw [OfMsg.dataLen] at header
    omega
  constructor
  case buffer => rfl
  case dataLen => exact setEchoReply_dataLen _
  case version => exact take_set_of_le (Nat.le_refl 1)
  case type => exact getElem?_set_self inside
  case rest => exact drop_set_of_lt (Nat.lt_succ_self 1)

/-! ## Sending it -/

section Sending

variable {channel : SendChannel} {msg reply : OfMsg} {result : SendResult} {memory : SendMemory}

attribute [local simp] SendChannel.freeMsg

theorem add_unserved {length : Nat}
    (unserved : ¬ (memory.nodeAllocated = true ∧
      (channel.epollWrEnabled = false → memory.epollModified = true))) :
    (ofAdd2Epoll4WrEvent channel msg true length memory).written = channel.written ∧
      (ofAdd2Epoll4WrEvent channel msg true length memory).freed = channel.freed ++ [msg.id] := by
  cases allocated : memory.nodeAllocated with
  | false => simp [ofAdd2Epoll4WrEvent, allocated]
  | true =>
  have blocked : channel.epollWrEnabled = false ∧ memory.epollModified = false := by
    simpa [allocated] using unserved
  simp [ofAdd2Epoll4WrEvent, enableWrEvent, allocated, blocked.1, blocked.2]

attribute [local simp] cntlrTnsprtTry2SendMsgOnLine

/-- Of a reply that cannot be sent less than the message is written, and it is freed. -/
theorem send_unserved (nonempty : 0 < msg.dataLen)
    (cannot : ¬ CanReply channel msg.dataLen result memory) :
    ∃ bytes : List UInt8, bytes.length < msg.dataLen ∧
      (cntlrTnsprtSendMsgToDpChannel channel msg result memory).1.written =
          channel.written ++ bytes ∧
        (cntlrTnsprtSendMsgToDpChannel channel msg result memory).1.freed =
          channel.freed ++ [msg.id] := by
  by_cases idle : channel.sendMsgList = []
  · have direct : cntlrTnsprtSendMsgToDpChannel channel msg result memory =
        ((cntlrTnsprtTry2SendMsgOnLine channel msg true 0 result memory).1,
          (cntlrTnsprtTry2SendMsgOnLine channel msg true 0 result memory).2.isSome) := by
      rw [cntlrTnsprtSendMsgToDpChannel, if_neg (by simp [idle])]
    rw [direct]
    cases result with
    | failed =>
      refine ⟨[], nonempty, ?_, ?_⟩
      · simp
      · simp
    | wouldBlock =>
      have unserved : ¬ (memory.nodeAllocated = true ∧
          ((channel.readMsg msg).epollWrEnabled = false → memory.epollModified = true)) := by
        rw [SendChannel.readMsg_epollWrEnabled]
        exact fun served => cannot ⟨fun _ => by simp, fun _ => served⟩
      have released := @add_unserved _ msg _ 0 unserved
      refine ⟨[], nonempty, ?_, ?_⟩
      · simpa using released.1
      · simpa using released.2
    | sent count =>
    have short : count < msg.dataLen := by
      by_contra enough
      refine cannot ⟨fun _ => by simp, ?_⟩
      rintro (waiting | partly)
      · exact absurd idle waiting
      · exact absurd ⟨count, rfl, by omega⟩ partly
    have lengthEq : (msg.data.take count).length = count := by
      rw [length_take]
      exact Nat.min_eq_left (Nat.le_of_lt short)
    have unserved : ¬ (memory.nodeAllocated = true ∧
        ((channel.readMsg msg).epollWrEnabled = false → memory.epollModified = true)) := by
      rw [SendChannel.readMsg_epollWrEnabled]
      exact fun served => cannot ⟨fun _ => by simp, fun _ => served⟩
    have released := @add_unserved { channel.readMsg msg with
      written := channel.written ++ msg.data.take count } msg _ count unserved
    refine ⟨msg.data.take count, by omega, ?_, ?_⟩
    · simpa [lengthEq, short] using released.1
    · simpa [lengthEq, short] using released.2
  · have queued : cntlrTnsprtSendMsgToDpChannel channel msg result memory =
        (ofAdd2Epoll4WrEvent channel msg true 0 memory, true) := by
      rw [cntlrTnsprtSendMsgToDpChannel, if_pos (length_pos_iff.mpr idle)]
    rw [queued]
    have released := @add_unserved channel msg memory 0 fun served =>
      cannot ⟨fun empty => absurd empty idle, fun _ => served⟩
    exact ⟨[], nonempty, by rw [append_nil]; exact released.1, released.2⟩

theorem send_replied (nonempty : 0 < msg.dataLen)
    (can : CanReply channel msg.dataLen result memory) :
    Replied channel (cntlrTnsprtSendMsgToDpChannel channel msg result memory).1 msg := by
  by_cases idle : channel.sendMsgList = []
  · by_cases completes : result.Completes msg.dataLen
    · rw [send_idle_whole idle completes]
      left
      simp
    · obtain ⟨allocated, served⟩ := can.2 (.inr completes)
      obtain ⟨length, short, sent⟩ :=
        send_idle_partly idle nonempty (can.1 idle) completes allocated served
      rw [sent]
      right
      exact ⟨length, short, rfl, SendChannel.readMsg_freed _ _, by rw [idle]; rfl, rfl⟩
  · obtain ⟨allocated, served⟩ := can.2 (.inl idle)
    have queued : cntlrTnsprtSendMsgToDpChannel channel msg result memory =
        (ofAdd2Epoll4WrEvent channel msg true 0 memory, true) := by
      rw [cntlrTnsprtSendMsgToDpChannel, if_pos (length_pos_iff.mpr idle)]
    rw [queued, add_newMsg allocated served]
    right
    exact ⟨0, nonempty, by simp, rfl, rfl, rfl⟩

theorem not_replied_of_released {after : SendChannel} {bytes : List UInt8} {id : Nat}
    (short : bytes.length < reply.dataLen) (written : after.written = channel.written ++ bytes)
    (freed : after.freed = channel.freed ++ [id]) : ¬ Replied channel after reply := by
  rintro (⟨whole, -, -⟩ | ⟨length, -, -, kept, -⟩)
  · rw [written] at whole
    have same : bytes = reply.data := append_cancel_left whole
    rw [same] at short
    exact Nat.lt_irrefl _ short
  · rw [freed] at kept
    simp at kept

theorem not_replied_self : ¬ Replied channel channel reply := by
  rintro (⟨-, freed, -⟩ | ⟨length, -, -, -, queued, -⟩)
  · simp at freed
  · simp at queued

end Sending

/-! ## One request -/

section OneRequest

variable {state : EchoState} {request : EchoRequest} {datapath : Nat} {entry : DatapathEntry}

/-- A request that fits is answered once. -/
theorem EchoState.FitsRequest.answered (fits : state.FitsRequest request datapath entry)
    (bound : state.Bound request.channel datapath entry) : state.AnsweredOnce request := by
  have handled : state.ofEchoReqHandler request =
      { transmit := update state.transmit request.channel
          (cntlrTnsprtSendMsgToDpChannel (state.transmit request.channel)
            (setEchoReply request.msg) request.result request.memory).1
        undefined := false } := by
    simp only [EchoState.ofEchoReqHandler, bound.attached, fits.hooked,
      EchoState.ofHandleEchoRequestMsg, bound.stored, fits.main, cntlrTransprtSendToDpLocally,
      fits.listed, if_true]
  constructor
  case defined => rw [handled]
  case replied =>
    refine ⟨setEchoReply request.msg, request.setEchoReply_isEchoReply, ?_⟩
    rw [handled]
    dsimp only
    rw [update_self]
    have sendable := fits.sendable
    rw [← setEchoReply_dataLen] at sendable
    have header := request.header_le
    exact send_replied (by rw [setEchoReply_dataLen]; omega) sendable
  case others =>
    intro other apart
    rw [handled]
    exact update_of_ne apart _ _

/-- A request that is answered once fits. -/
theorem EchoState.AnsweredOnce.fits (answered : state.AnsweredOnce request)
    (bound : state.Bound request.channel datapath entry) :
    state.FitsRequest request datapath entry := by
  obtain ⟨defined, ⟨reply, isReply, replied⟩, others⟩ := answered
  have header := request.header_le
  cases hooked : state.hooked datapath with
  | false =>
    have handled : state.ofEchoReqHandler request =
        { transmit := update state.transmit request.channel
            ((state.transmit request.channel).freeMsg request.msg)
          undefined := false } := by
      simp [EchoState.ofEchoReqHandler, bound.attached, hooked]
    rw [handled] at replied
    dsimp only at replied
    rw [update_self] at replied
    refine absurd replied (@not_replied_of_released _ _ _ [] request.msg.id ?_ ?_ rfl)
    · rw [isReply.dataLen, length_nil]
      omega
    · rw [append_nil]
      rfl
  | true =>
  cases main : entry.mainChannel.connSafeRef with
  | none =>
    simp [EchoState.ofEchoReqHandler, bound.attached, hooked,
      EchoState.ofHandleEchoRequestMsg, bound.stored, main] at defined
  | some channel =>
  have handled : (state.ofEchoReqHandler request).transmit =
      (cntlrTransprtSendToDpLocally state.binding state.transmit channel
        (setEchoReply request.msg) request.result request.memory).1 := by
    simp only [EchoState.ofEchoReqHandler, bound.attached, hooked,
      EchoState.ofHandleEchoRequestMsg, bound.stored, main, if_true]
  rw [handled] at replied
  cases listed : (state.binding.channels channel).isChnAdded2HashTbl with
  | false =>
    simp only [cntlrTransprtSendToDpLocally, listed, Bool.false_eq_true, if_false] at replied
    exact absurd replied not_replied_self
  | true =>
  simp only [cntlrTransprtSendToDpLocally, listed, if_true] at replied
  -- the reply is on the channel of the request only where that is the main one
  have same : request.channel = channel := by
    by_contra apart
    rw [update_of_ne apart] at replied
    exact not_replied_self replied
  subst same
  rw [update_self] at replied
  refine ⟨hooked, main, listed, ?_⟩
  by_contra cannot
  rw [← setEchoReply_dataLen] at cannot
  obtain ⟨bytes, short, written, freed⟩ :=
    send_unserved (by rw [setEchoReply_dataLen]; omega) cannot
  refine not_replied_of_released ?_ written freed replied
  rw [isReply.dataLen, ← setEchoReply_dataLen]
  exact short

end OneRequest

/-! ## Every run -/

theorem EchoState.answered_iff (state : EchoState) (event : EchoEvent) :
    state.Answered event ↔ state.Fits event := by
  cases event with
  | request request =>
    constructor
    · intro answered datapath entry bound
      exact (answered datapath entry bound).fits bound
    · intro fits datapath entry bound
      exact (fits datapath entry bound).answered bound
  | bind _ => exact Iff.rfl
  | registerHook _ => exact Iff.rfl
  | send _ _ _ _ => exact Iff.rfl
  | writable _ _ _ _ => exact Iff.rfl

/-- Along a run every echo request is answered once, on its channel, exactly where each comes on
the main channel of its datapath and can be sent or queued. -/
theorem echo_replies_iff (state : EchoState) (events : List EchoEvent) :
    Along echoStep EchoState.Answered state events ↔
      Along echoStep EchoState.Fits state events := by
  constructor
  · exact Along.mono fun state event => (state.answered_iff event).mp
  · exact Along.mono fun state event => (state.answered_iff event).mpr

/-! ### A request on an auxiliary channel -/

/-- An echo request of a header only, which the socket takes whole. -/
def auxiliaryEchoRequest : EchoRequest where
  channel := 1
  msg := ⟨0, [4, 2, 0, 8, 0, 0, 0, 9], by decide⟩
  header_le := by decide
  isRequest := rfl
  result := .sent 8
  memory := ⟨true, true⟩

/-- The hook is registered, a datapath gets a main and an auxiliary connection, and the auxiliary
one brings an echo request: the answer goes to the main one. -/
theorem auxiliary_echo_not_answered :
    ¬ Along echoStep EchoState.Answered ⟨mainAndAuxiliary, fun _ => SendChannel.create,
      fun _ => true⟩ [.request auxiliaryEchoRequest] := by
  intro along
  have answered : EchoState.AnsweredOnce ⟨mainAndAuxiliary, fun _ => SendChannel.create,
      fun _ => true⟩ auxiliaryEchoRequest :=
    along.1 0 ⟨true, ⟨0, some 0, some 0⟩, [⟨1, some 1, some 0⟩], 1⟩
      ⟨by decide, by decide, by decide⟩
  have wrongChannel := congrArg SendChannel.freed (answered.others 0 (by decide))
  exact absurd wrongChannel (by decide)

end OpenFlowController.Coreapp
