/-
Module: Transport.KeepAlive
Purpose: The two keep-alive timers of a channel: who starts and stops them, what
  their callbacks do, and the keep-alive state by which the detaching of a channel
  decides which of them to stop.
Source: ofproto/src/transport/base/trnsprt_msg.c,
  ofproto/src/transport/base/channel_fsm.c,
  ofproto/src/messages/of_cntlr_msg.c,
  ofproto/src/messages/of_symmetric_msgapi.c, ofproto/src/coreapp/cntlr_app.c
Trusted boundary: an event is atomic, the closing of the auxiliary channels of a datapath comes as
  close events of their own, the tables of the datapaths only appear as outcomes, and nothing is
  said about what a callback does to memory that was released
-/
import OpenFlowController.Utils.Timer
import OpenFlowController.Transport.DpChannel

namespace OpenFlowController.Transport

open Utils

/-! ## Channels and their timers -/

/-- `OF_TRNSPRT_CHN_CONN_KEEP_ALIVE_*`. -/
def keepAliveNotReady : UInt8 := 0

def keepAliveMsgReadToSend : UInt8 := 1

def keepAliveMsgSent : UInt8 := 2

def keepAliveMsgRespRcvd : UInt8 := 4

/-- The part of `cntlr_channel_info_t` that the keep-alive timers read and write. -/
structure KeepAliveChannel where
  info : ChannelInfo
  keepAliveState : UInt8
  keepaliveTimer : TmrSaferef
  keepaliveResptimer : TmrSaferef
  uiKeepAliveCount : UInt32

/-- The channel in zeroed memory, before `fsm_xprt_proto_channel_learn`. -/
def KeepAliveChannel.zeroed : KeepAliveChannel where
  info :=
    { fsmState := .init
      auxiliaryId := 0
      isChnAddedToDp := false
      isChnAdded2HashTbl := false
      datapath := none }
  keepAliveState := keepAliveNotReady
  keepaliveTimer := TmrSaferef.zeroed
  keepaliveResptimer := TmrSaferef.zeroed
  uiKeepAliveCount := 0

/-- The two timer callbacks. -/
inductive KeepAliveRoutine where
  | ofTransprtSendKeepAliveMsg
  | ofTransprtCheckKeepaliveResponseMsg
deriving DecidableEq

/-- `routine_p` and `arg1` of a keep-alive timer. -/
structure KeepAliveCallback where
  routine : KeepAliveRoutine
  channel : Nat
deriving DecidableEq

/-- A call of a timer callback, and whether the channel it was given had been
released. -/
structure KeepAliveDelivery where
  callback : KeepAliveCallback
  released : Bool

/-- The channels by the order of their creation, the timers, and the callbacks
called so far. -/
structure KeepAlive where
  channels : Nat → KeepAliveChannel
  numberOfChannels : Nat
  released : Nat → Bool
  timers : Timers KeepAliveCallback
  deliveries : List KeepAliveDelivery

/-- The outcomes of detaching and closing a channel: whether there is a block for a
stop request to another thread, whether the descriptor is polled again, and
whether the transport closed. -/
structure DetachOutcomes where
  stopAllocated : Bool
  epollReAdded : Bool
  transportClosed : Bool

/-- What `timer_create_and_start` answers: no error, `OF_FAILURE`, or one of the
other errors. -/
inductive TimerStart where
  | started
  | failed
  | refused

/-- A channel that a failed write finds closed by its peer. -/
abbrev LostChannel := Nat × DetachOutcomes

/-- The outcomes of `of_add_channel_to_dp`, of the requests to the switch, of the
start of the timer, and of the closing when one of them fails. -/
structure FeatureReplyOutcomes where
  added : Bool
  switchConfigured : Bool
  lost : Option LostChannel
  timer : TimerStart
  closing : DetachOutcomes

/-- The outcome of `of_send_echo_msg_on_channel`.  An echo that is sent is counted on
the main channel of the datapath. -/
inductive EchoOutcome where
  | notSent (lost : Option LostChannel)
  | sent (main : Nat) (timer : TimerStart)

/-- The outcomes of a timer callback. -/
structure CallbackOutcomes where
  echo : EchoOutcome
  closing : DetachOutcomes

namespace KeepAlive

def create : KeepAlive where
  channels := fun _ => KeepAliveChannel.zeroed
  numberOfChannels := 0
  released := fun _ => false
  timers := Timers.init
  deliveries := []

def setChannel (system : KeepAlive) (channel : Nat) (info : KeepAliveChannel) : KeepAlive :=
  { system with channels := Function.update system.channels channel info }

def setTimers (system : KeepAlive) (timers : Timers KeepAliveCallback) : KeepAlive :=
  { system with timers := timers }

/-! ## Detaching and closing -/

def stopTmr (system : KeepAlive) (thread : Nat) (ref : TmrSaferef) (allocated : Bool) :
    KeepAlive :=
  system.setTimers (system.timers.timerStopTmr thread ref allocated).1

/-- What `fsm_xprt_proto_channel_detach_dp` does for a main connection: the response
timer is stopped in one keep-alive state only, and the state stays. -/
def stopKeepAliveTimers (system : KeepAlive) (channel thread : Nat)
    (outcomes : DetachOutcomes) : KeepAlive :=
  let info := system.channels channel
  let stopped :=
    if info.keepAliveState = keepAliveMsgSent then
      system.stopTmr thread info.keepaliveResptimer outcomes.stopAllocated
    else
      system
  if keepAliveMsgReadToSend ≤ info.keepAliveState then
    stopped.stopTmr thread info.keepaliveTimer outcomes.stopAllocated
  else
    stopped

def fsmXprtProtoChannelDetachDp (system : KeepAlive) (channel thread : Nat)
    (outcomes : DetachOutcomes) : KeepAlive :=
  let info := system.channels channel
  if info.info.isChnAddedToDp then
    let stopped :=
      if info.info.auxiliaryId = 0 then
        system.stopKeepAliveTimers channel thread outcomes
      else
        system
    if outcomes.epollReAdded then
      stopped.setChannel channel { info with info := info.info.unbound }
    else
      stopped
  else
    system

/-- The detach event. -/
def dispatchDetach (system : KeepAlive) (channel thread : Nat) (outcomes : DetachOutcomes) :
    KeepAlive :=
  match cntlrXprtProtoChannelFsmHandler (system.channels channel).info.fsmState .dpDetach with
  | some .detachDp => system.fsmXprtProtoChannelDetachDp channel thread outcomes
  | _ => system

def xprtProtoChannelClose (system : KeepAlive) (channel thread : Nat)
    (outcomes : DetachOutcomes) : KeepAlive :=
  let detached := system.dispatchDetach channel thread outcomes
  if outcomes.transportClosed then
    let info := detached.channels channel
    detached.setChannel channel { info with info := info.info.closed }
  else
    detached

/-- The close event. -/
def dispatchClose (system : KeepAlive) (channel thread : Nat) (outcomes : DetachOutcomes) :
    KeepAlive :=
  match cntlrXprtProtoChannelFsmHandler (system.channels channel).info.fsmState .close with
  | some .close => system.xprtProtoChannelClose channel thread outcomes
  | _ => system

/-- A write to a channel that is found by its safe reference, and whose peer has
closed. -/
def writeFailed (system : KeepAlive) (thread : Nat) (lost : Option LostChannel) : KeepAlive :=
  match lost with
  | none => system
  | some (channel, outcomes) =>
    if (system.channels channel).info.isChnAdded2HashTbl then
      (system.dispatchDetach channel thread outcomes).dispatchClose channel thread outcomes
    else
      system

/-! ## Attaching -/

/-- The attach event. -/
def dispatchAttach (system : KeepAlive) (channel : Nat) : KeepAlive :=
  let info := system.channels channel
  match cntlrXprtProtoChannelFsmHandler info.info.fsmState .learn with
  | some .learnDp =>
    system.setChannel channel
      { info with info := { info.info with isChnAddedToDp := true, fsmState := .boundToDp } }
  | _ => system

/-- `timer_create_and_start` for a timer of the channel, and where its reference is
stored. -/
def startTimer (system : KeepAlive) (channel thread : Nat) (periodic : Bool)
    (routine : KeepAliveRoutine) (store : TmrSaferef → KeepAliveChannel → KeepAliveChannel) :
    KeepAlive :=
  let started :=
    system.timers.timerCreateAndStart thread periodic { routine := routine, channel := channel }
  (system.setTimers started.1).setChannel channel (store started.2 (system.channels channel))

def startKeepaliveTimer (system : KeepAlive) (channel thread : Nat) : KeepAlive :=
  system.startTimer channel thread true .ofTransprtSendKeepAliveMsg
    fun ref info => { info with keepaliveTimer := ref }

/-- The reference that is overwritten may still be in use. -/
def startKeepaliveResptimer (system : KeepAlive) (channel thread : Nat) : KeepAlive :=
  system.startTimer channel thread false .ofTransprtCheckKeepaliveResponseMsg
    fun ref info => { info with keepaliveResptimer := ref }

def setKeepAliveState (system : KeepAlive) (channel : Nat) (state : UInt8) : KeepAlive :=
  system.setChannel channel { system.channels channel with keepAliveState := state }

/-- The end of `of_process_feature_reply_msg` for a main connection. -/
def startKeepAlive (system : KeepAlive) (channel thread : Nat)
    (outcomes : FeatureReplyOutcomes) : KeepAlive :=
  let ready := system.setKeepAliveState channel keepAliveMsgReadToSend
  match outcomes.timer with
  | .started => ready.startKeepaliveTimer channel thread
  | .failed => ready.dispatchClose channel thread outcomes.closing
  | .refused => ready

/-- The channel takes the auxiliary id of the reply, and the datapath when it was
added to it. -/
def storeReply (system : KeepAlive) (channel : Nat) (auxiliaryId : UInt8)
    (datapath : Option Nat) : KeepAlive :=
  let info := system.channels channel
  system.setChannel channel
    { info with
      info :=
        { info.info with
          auxiliaryId := auxiliaryId.toUInt32
          datapath := datapath } }

/-- `of_process_feature_reply_msg`.  Whether the requests found the channel closed is
not looked at unless the switch could not be configured. -/
def ofProcessFeatureReplyMsg (system : KeepAlive) (channel thread datapath : Nat)
    (auxiliaryId : UInt8) (outcomes : FeatureReplyOutcomes) : KeepAlive :=
  let info := (system.channels channel).info
  if info.isChnAddedToDp then
    system
  else if outcomes.added then
    let attached :=
      (system.storeReply channel auxiliaryId (some datapath)).dispatchAttach channel
    if auxiliaryId = 0 then
      let requested := attached.writeFailed thread outcomes.lost
      if outcomes.switchConfigured then
        requested.startKeepAlive channel thread outcomes
      else
        requested.dispatchClose channel thread outcomes.closing
    else
      attached
  else
    (system.storeReply channel auxiliaryId info.datapath).dispatchClose channel thread
      outcomes.closing

/-! ## Receiving -/

/-- `of_process_dp_message`, for a message that has a handler. -/
def ofProcessDpMessage (system : KeepAlive) (channel : Nat) : KeepAlive :=
  let state := (system.channels channel).keepAliveState
  if state = keepAliveMsgSent then
    system.setKeepAliveState channel (state ||| keepAliveMsgRespRcvd)
  else
    system

/-- `cntlr_echo_reply_clbk_fn`, which finds the channel by its safe reference. -/
def cntlrEchoReplyClbkFn (system : KeepAlive) (channel : Nat) : KeepAlive :=
  let info := system.channels channel
  if info.info.isChnAdded2HashTbl then
    system.setKeepAliveState channel (info.keepAliveState ||| keepAliveMsgRespRcvd)
  else
    system

/-! ## The callbacks -/

/-- `ofp_prepare_and_send_echo_request` counts an echo on the channel it was sent on. -/
def countEcho (system : KeepAlive) (channel : Nat) : KeepAlive :=
  let info := system.channels channel
  system.setChannel channel { info with uiKeepAliveCount := info.uiKeepAliveCount + 1 }

/-- `of_transprt_send_keep_alive_msg`.  A channel without datapath has handle zero,
which no datapath has. -/
def ofTransprtSendKeepAliveMsg (system : KeepAlive) (channel thread : Nat)
    (echo : EchoOutcome) : KeepAlive :=
  match (system.channels channel).info.datapath, echo with
  | none, _ => system
  | some _, .notSent lost => system.writeFailed thread lost
  | some _, .sent main timer =>
    let sent := (system.countEcho main).setKeepAliveState channel keepAliveMsgSent
    match timer with
    | .started => sent.startKeepaliveResptimer channel thread
    | .failed | .refused => sent

end KeepAlive

/-- `of_transprt_check_keepalive_response_msg` gives the channel up. -/
def KeepAliveChannel.keepAliveFailed (info : KeepAliveChannel) : Bool :=
  info.keepAliveState &&& keepAliveMsgRespRcvd = 0 &&
    info.keepAliveState &&& keepAliveMsgSent ≠ 0 && 4 < info.uiKeepAliveCount

/-- The channel is ready for the next keep-alive message; an answered one starts the
count anew. -/
def KeepAliveChannel.checked (info : KeepAliveChannel) : KeepAliveChannel :=
  { info with
    keepAliveState := keepAliveMsgReadToSend
    uiKeepAliveCount :=
      if info.keepAliveState &&& keepAliveMsgRespRcvd ≠ 0 then 0 else info.uiKeepAliveCount }

namespace KeepAlive

/-- `of_transprt_check_keepalive_response_msg`.  The timer it stops is the one whose
reference the channel has, as a rule the one that is just expiring. -/
def ofTransprtCheckKeepaliveResponseMsg (system : KeepAlive) (channel thread : Nat)
    (outcomes : DetachOutcomes) : KeepAlive :=
  let info := system.channels channel
  if info.keepAliveFailed then
    system.dispatchClose channel thread outcomes
  else
    let stopped :=
      system.timers.timerStopTmr thread info.keepaliveResptimer outcomes.stopAllocated
    if stopped.2 = .failure then
      system.setTimers stopped.1
    else
      (system.setTimers stopped.1).setChannel channel info.checked

/-- The callback of an expiring timer is called.  The channel it was given may have
been released. -/
def callCallback (system : KeepAlive) (callback : KeepAliveCallback) (thread : Nat)
    (outcomes : CallbackOutcomes) : KeepAlive :=
  let released := system.released callback.channel
  let called :=
    { system with
      deliveries := system.deliveries ++ [{ callback := callback, released := released }] }
  if released then
    called
  else
    match callback.routine with
    | .ofTransprtSendKeepAliveMsg =>
      called.ofTransprtSendKeepAliveMsg callback.channel thread outcomes.echo
    | .ofTransprtCheckKeepaliveResponseMsg =>
      called.ofTransprtCheckKeepaliveResponseMsg callback.channel thread outcomes.closing

/-- The body of the loop of `timer_process_timers` over the bucket that is due.  A node
leaves its bucket before its callback is called, and only a periodic one comes back. -/
def expire (system : KeepAlive) (ref : TmrSaferef) (outcomes : CallbackOutcomes) : KeepAlive :=
  match system.timers.nodes ref with
  | none => system
  | some node =>
    if node.inExpiry && (node.periodic || !node.timerExpired) then
      let begun := system.setTimers (system.timers.beforeCallback ref)
      let called :=
        if node.timerStopped then
          begun
        else
          begun.callCallback node.callback ref.threadId outcomes
      called.setTimers (called.timers.afterCallback ref node)
    else
      system

/-! ## Events -/

/-- The channel was created and its memory not released. -/
def Live (system : KeepAlive) (channel : Nat) : Prop :=
  channel < system.numberOfChannels ∧ system.released channel = false

instance (system : KeepAlive) (channel : Nat) : Decidable (system.Live channel) :=
  inferInstanceAs (Decidable (_ ∧ _))

/-- `fsm_xprt_proto_channel_learn` for a new channel. -/
def connect (system : KeepAlive) : KeepAlive :=
  { system.setChannel system.numberOfChannels
      { KeepAliveChannel.zeroed with
        info :=
          { KeepAliveChannel.zeroed.info with
            fsmState := .waitForHandshake
            isChnAdded2HashTbl := true } } with
    numberOfChannels := system.numberOfChannels + 1 }

/-- `cntlr_trnsprt_conn_close`, for a channel that left the connection table. -/
def cntlrTrnsprtConnClose (system : KeepAlive) (channel : Nat) : KeepAlive :=
  if (system.channels channel).info.isChnAdded2HashTbl then
    system
  else
    { system with released := Function.update system.released channel true }

end KeepAlive

/-- What happens to channels and timers, and on which thread.  A pass of a thread over
its timers is `passBegins`, `bucketDue`, and `expires` for each timer of the
bucket. -/
inductive KeepAliveEvent where
  | connect
  | featureReply (channel thread datapath : Nat) (auxiliaryId : UInt8)
      (outcomes : FeatureReplyOutcomes)
  | received (channel : Nat)
  | echoReplied (channel : Nat)
  | detach (channel thread : Nat) (outcomes : DetachOutcomes)
  | close (channel thread : Nat) (outcomes : DetachOutcomes)
  | release (channel : Nat)
  | passBegins (thread : Nat)
  | bucketDue (thread : Nat) (bucket : List TmrSaferef)
  | expires (ref : TmrSaferef) (outcomes : CallbackOutcomes)

/-- One event. -/
def keepAliveStep (system : KeepAlive) : KeepAliveEvent → KeepAlive
  | .connect => system.connect
  | .featureReply channel thread datapath auxiliaryId outcomes =>
    if system.Live channel then
      system.ofProcessFeatureReplyMsg channel thread datapath auxiliaryId outcomes
    else
      system
  | .received channel =>
    if system.Live channel then system.ofProcessDpMessage channel else system
  | .echoReplied channel =>
    if system.Live channel then system.cntlrEchoReplyClbkFn channel else system
  | .detach channel thread outcomes =>
    if system.Live channel then system.dispatchDetach channel thread outcomes else system
  | .close channel thread outcomes =>
    if system.Live channel then system.dispatchClose channel thread outcomes else system
  | .release channel =>
    if system.Live channel then system.cntlrTrnsprtConnClose channel else system
  | .passBegins thread => system.setTimers (system.timers.tmrDequeStop thread)
  | .bucketDue thread bucket => system.setTimers (system.timers.bucketInExpiry thread bucket)
  | .expires ref outcomes => system.expire ref outcomes

end OpenFlowController.Transport
