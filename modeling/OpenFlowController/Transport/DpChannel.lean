/-
Module: Transport.DpChannel
Purpose: The binding of channels to datapaths: attaching a channel after its features reply,
  detaching it, closing it with the auxiliary channels of its datapath, and deleting a
  datapath; and the state and event table of a channel, with every place that looks a handler
  up in it and what the handlers do to the state of the channel.
Source: ofproto/src/transport/base/trnsprt_channel.c, channel_fsm.c, trnsprt_fsm.c,
  trnsprt_epoll.c, trnsprt_msg.c; ofproto/src/dprm/dprmapi.c
Trusted boundary: a safe reference is the number of the channel it was made for, and is honoured
  while that channel is in the connection table; an event is atomic, applications raise no channel
  event from inside the detach notification, and nothing is said about what follows a call through
  an empty cell
-/
import OpenFlowController.Library.Run

namespace OpenFlowController.Transport

/-- `OF_XPRT_PROTO_CHANNEL_STATE_*`. -/
inductive ChannelFsmState where
  | init
  | waitForHandshake
  | boundToDp
  | closeConn
deriving DecidableEq

/-- The part of `cntlr_channel_info_t` that binds it to a datapath.  `datapath`
stands for both the pointer of that name and `dp_handle`, which are set and
cleared together. -/
structure ChannelInfo where
  fsmState : ChannelFsmState
  auxiliaryId : UInt32
  isChnAddedToDp : Bool
  isChnAdded2HashTbl : Bool
  datapath : Option Nat

/-- `dprm_dp_channel_entry_t`.  The reference of a zeroed entry is `none`: the
connection table honours no reference whose magic number is zero. -/
structure DpChannelEntry where
  auxiliaryId : UInt32
  connSafeRef : Option Nat
  dpHandle : Option Nat
deriving DecidableEq

/-- The entry after `memset`. -/
def DpChannelEntry.zeroed : DpChannelEntry where
  auxiliaryId := 0
  connSafeRef := none
  dpHandle := none

/-- The channels of a `dprm_datapath_entry`.  `auxChannels` is the circular list
from `aux_channels` to `aux_chn_tail`. -/
structure DatapathEntry where
  isMainConnPresent : Bool
  mainChannel : DpChannelEntry
  auxChannels : List DpChannelEntry
  currNoOfAuxChanels : UInt8
deriving DecidableEq

/-- `cntlr_datapath_init`. -/
def DatapathEntry.create : DatapathEntry where
  isMainConnPresent := false
  mainChannel := DpChannelEntry.zeroed
  auxChannels := []
  currNoOfAuxChanels := 0

/-- The controller's channels and datapaths, by the order of their creation. -/
structure Binding where
  channels : Nat → ChannelInfo
  datapaths : Nat → Option DatapathEntry
  numberOfChannels : Nat
  numberOfDatapaths : Nat

/-- What `cntlr_epoll_add_fd_to_thread` and `transport_close` answer for each
channel. -/
structure ChannelOutcomes where
  epollReAdded : Nat → Bool
  transportClosed : Nat → Bool

/-- The outcomes of the allocations in `of_add_channel_to_dp`, and whether the
switch is configured and the keep-alive timer started afterwards. -/
structure AttachOutcomes where
  entryAllocated : Bool
  tableInitialised : Bool
  switchConfigured : Bool

namespace Binding

def create : Binding where
  channels := fun _ =>
    { fsmState := .init
      auxiliaryId := 0
      isChnAddedToDp := false
      isChnAdded2HashTbl := false
      datapath := none }
  datapaths := fun _ => none
  numberOfChannels := 0
  numberOfDatapaths := 0

def setChannel (binding : Binding) (channel : Nat) (info : ChannelInfo) : Binding :=
  { binding with channels := Function.update binding.channels channel info }

/-- A write to a datapath entry; one to a deleted entry reaches no datapath. -/
def modifyDatapath (binding : Binding) (datapath : Nat)
    (change : DatapathEntry → DatapathEntry) : Binding :=
  { binding with
    datapaths :=
      Function.update binding.datapaths datapath ((binding.datapaths datapath).map change) }

end Binding

/-! ## Attaching -/

def DatapathEntry.appendAux (entry : DatapathEntry) (dpChannel : DpChannelEntry) :
    DatapathEntry :=
  { entry with
    auxChannels := entry.auxChannels ++ [dpChannel]
    currNoOfAuxChanels := entry.currNoOfAuxChanels + 1 }

def DatapathEntry.setMain (entry : DatapathEntry) (dpChannel : DpChannelEntry) :
    DatapathEntry :=
  { entry with
    isMainConnPresent := true
    mainChannel := dpChannel }

/-- `of_add_channel_to_dp`: a datapath with a main connection takes the channel
as an auxiliary one, whatever its auxiliary id.  The second component is
`status == OF_SUCCESS`. -/
def ofAddChannelToDp (binding : Binding) (channel datapath : Nat) (auxiliaryId : UInt8)
    (outcomes : AttachOutcomes) : Binding × Bool :=
  match binding.datapaths datapath with
  | none => (binding, false)
  | some entry =>
    let isMainConn := !entry.isMainConnPresent
    if auxiliaryId ≠ 0 ∧ isMainConn then
      (binding, false)
    else if !isMainConn then
      if outcomes.entryAllocated then
        (binding.modifyDatapath datapath fun entry =>
          entry.appendAux
            { auxiliaryId := auxiliaryId.toUInt32
              connSafeRef := some channel
              dpHandle := some datapath }, true)
      else
        (binding, false)
    else if outcomes.tableInitialised then
      (binding.modifyDatapath datapath fun entry =>
        entry.setMain
          { auxiliaryId := 0
            connSafeRef := some channel
            dpHandle := some datapath }, true)
    else
      (binding, false)

/-- `fsm_xprt_proto_channel_learn_dp`, as far as the binding goes. -/
def fsmChannelLearnDp (binding : Binding) (channel : Nat) : Binding :=
  binding.setChannel channel
    { binding.channels channel with
      isChnAddedToDp := true
      fsmState := .boundToDp }

/-- The attach event.  A bound channel has no handler for it, and is kept from
here by `is_chn_added_to_dp`. -/
def fsmAttachEvent (binding : Binding) (channel : Nat) : Binding :=
  match (binding.channels channel).fsmState with
  | .waitForHandshake => fsmChannelLearnDp binding channel
  | .init | .boundToDp | .closeConn => binding

/-! ## Detaching and closing -/

def DatapathEntry.clearMain (entry : DatapathEntry) : DatapathEntry :=
  { entry with
    isMainConnPresent := false
    mainChannel := DpChannelEntry.zeroed }

def ChannelInfo.unbound (info : ChannelInfo) : ChannelInfo :=
  { info with
    datapath := none
    isChnAddedToDp := false
    fsmState := .waitForHandshake }

/-- `fsm_xprt_proto_channel_detach_dp`: the main connection of the datapath is
cleared also when the channel is an auxiliary one. -/
def fsmChannelDetachDp (binding : Binding) (channel : Nat) (outcomes : ChannelOutcomes) :
    Binding :=
  let info := binding.channels channel
  if info.isChnAddedToDp = false then
    binding
  else if outcomes.epollReAdded channel = false then
    binding
  else
    match info.datapath with
    | none => binding
    | some datapath =>
      (binding.modifyDatapath datapath DatapathEntry.clearMain).setChannel channel info.unbound

/-- The detach event: the channel's state picks the handler. -/
def fsmDetachEvent (binding : Binding) (channel : Nat) (outcomes : ChannelOutcomes) :
    Binding :=
  match (binding.channels channel).fsmState with
  | .waitForHandshake | .boundToDp => fsmChannelDetachDp binding channel outcomes
  | .init | .closeConn => binding

def ChannelInfo.closed (info : ChannelInfo) : ChannelInfo :=
  { info with
    fsmState := .closeConn
    isChnAdded2HashTbl := false }

def xprtProtoChannelClose (binding : Binding) (channel : Nat) (outcomes : ChannelOutcomes) :
    Binding × Bool :=
  let binding := fsmDetachEvent binding channel outcomes
  if outcomes.transportClosed channel then
    (binding.setChannel channel (binding.channels channel).closed, true)
  else
    (binding, false)

/-- The tail is unlinked and freed; the list is dropped when the count is zero. -/
def DatapathEntry.removeTail (entry : DatapathEntry) : DatapathEntry :=
  let count := entry.currNoOfAuxChanels - 1
  { entry with
    auxChannels := if count = 0 then [] else entry.auxChannels.dropLast
    currNoOfAuxChanels := count }

/-- The `while` loop of `fsm_xprt_proto_channel_close`, which runs while
`curr_no_of_aux_chanels`, here its argument, is positive. -/
def closeAuxChannels (datapath : Nat) (outcomes : ChannelOutcomes) : Nat → Binding → Binding
  | 0, binding => binding
  | count + 1, binding =>
    match (binding.datapaths datapath).bind fun entry => entry.auxChannels.getLast? with
    | none => binding
    | some dpChannel =>
      match dpChannel.connSafeRef with
      | none => binding
      | some auxChannel =>
        if (binding.channels auxChannel).isChnAdded2HashTbl then
          let closed := xprtProtoChannelClose binding auxChannel outcomes
          if closed.2 then
            closeAuxChannels datapath outcomes count
              (closed.1.modifyDatapath datapath DatapathEntry.removeTail)
          else
            closed.1
        else
          binding

/-- The auxiliary channels that the closing of a main channel closes first. -/
def closeAuxChannelsOf (binding : Binding) (channel : Nat) (outcomes : ChannelOutcomes) :
    Binding :=
  let info := binding.channels channel
  if info.auxiliaryId = 0 ∧ info.isChnAddedToDp = true then
    match info.datapath with
    | none => binding
    | some datapath =>
      match binding.datapaths datapath with
      | none => binding
      | some entry =>
        if entry.auxChannels = [] then
          binding
        else
          closeAuxChannels datapath outcomes entry.currNoOfAuxChanels.toNat binding
  else
    binding

/-- `fsm_xprt_proto_channel_close`. -/
def fsmChannelClose (binding : Binding) (channel : Nat) (outcomes : ChannelOutcomes) :
    Binding :=
  (xprtProtoChannelClose (closeAuxChannelsOf binding channel outcomes) channel outcomes).1

/-- The close event. -/
def fsmCloseEvent (binding : Binding) (channel : Nat) (outcomes : ChannelOutcomes) :
    Binding :=
  match (binding.channels channel).fsmState with
  | .waitForHandshake | .boundToDp => fsmChannelClose binding channel outcomes
  | .init | .closeConn => binding

/-! ## Events -/

/-- The channel takes the auxiliary id of the reply, before anything is checked. -/
def Binding.storeAuxiliaryId (binding : Binding) (channel : Nat) (auxiliaryId : UInt8) :
    Binding :=
  binding.setChannel channel { binding.channels channel with auxiliaryId := auxiliaryId.toUInt32 }

/-- The channel after `of_add_channel_to_dp` was called with the address of its
`datapath`. -/
def Binding.storeDatapath (binding : Binding) (channel datapath : Nat) : Binding :=
  binding.setChannel channel { binding.channels channel with datapath := some datapath }

/-- `of_process_feature_reply_msg` for a reply whose datapath id is that of
`datapath`. -/
def ofProcessFeatureReplyMsg (binding : Binding) (channel datapath : Nat)
    (auxiliaryId : UInt8) (attach : AttachOutcomes) (outcomes : ChannelOutcomes) : Binding :=
  if (binding.channels channel).isChnAddedToDp then
    binding
  else
    let binding := binding.storeAuxiliaryId channel auxiliaryId
    let added := ofAddChannelToDp binding channel datapath auxiliaryId attach
    if added.2 then
      let binding := fsmAttachEvent (added.1.storeDatapath channel datapath) channel
      if auxiliaryId = 0 ∧ attach.switchConfigured = false then
        fsmCloseEvent binding channel outcomes
      else
        binding
    else
      fsmCloseEvent added.1 channel outcomes

/-- `fsm_xprt_proto_channel_learn`: a new channel, in the connection table. -/
def fsmChannelLearn (binding : Binding) : Binding :=
  { binding.setChannel binding.numberOfChannels
      { fsmState := .waitForHandshake
        auxiliaryId := 0
        isChnAddedToDp := false
        isChnAdded2HashTbl := true
        datapath := none } with
    numberOfChannels := binding.numberOfChannels + 1 }

def dprmRegisterDatapath (binding : Binding) : Binding :=
  { binding with
    datapaths :=
      Function.update binding.datapaths binding.numberOfDatapaths (some DatapathEntry.create)
    numberOfDatapaths := binding.numberOfDatapaths + 1 }

/-- `dprm_free_datapath_channels`: only the main channel is detached. -/
def dprmFreeDatapathChannels (binding : Binding) (entry : DatapathEntry)
    (outcomes : ChannelOutcomes) : Binding :=
  if entry.isMainConnPresent then
    match entry.mainChannel.connSafeRef with
    | none => binding
    | some channel =>
      if (binding.channels channel).isChnAdded2HashTbl then
        let binding := fsmDetachEvent binding channel outcomes
        binding.setChannel channel { binding.channels channel with fsmState := .waitForHandshake }
      else
        binding
  else
    binding

/-- `dprm_unregister_datapath`.  `removable` says that the datapath has no ports
and attributes left and that its switch and domain are found. -/
def dprmUnregisterDatapath (binding : Binding) (datapath : Nat) (removable : Bool)
    (outcomes : ChannelOutcomes) : Binding :=
  match binding.datapaths datapath with
  | none => binding
  | some entry =>
    if removable then
      let binding := dprmFreeDatapathChannels binding entry outcomes
      { binding with datapaths := Function.update binding.datapaths datapath none }
    else
      binding

/-- What happens to the channels and datapaths. -/
inductive BindingEvent where
  | connect
  | registerDatapath
  | featureReply (channel datapath : Nat) (auxiliaryId : UInt8) (attach : AttachOutcomes)
      (outcomes : ChannelOutcomes)
  | detach (channel : Nat) (outcomes : ChannelOutcomes)
  | close (channel : Nat) (outcomes : ChannelOutcomes)
  | unregisterDatapath (datapath : Nat) (removable : Bool) (outcomes : ChannelOutcomes)

/-- One event.  A channel that has left the connection table receives none. -/
def bindingStep (binding : Binding) : BindingEvent → Binding
  | .connect => fsmChannelLearn binding
  | .registerDatapath => dprmRegisterDatapath binding
  | .featureReply channel datapath auxiliaryId attach outcomes =>
    if (binding.channels channel).isChnAdded2HashTbl then
      ofProcessFeatureReplyMsg binding channel datapath auxiliaryId attach outcomes
    else
      binding
  | .detach channel outcomes =>
    if (binding.channels channel).isChnAdded2HashTbl then
      fsmDetachEvent binding channel outcomes
    else
      binding
  | .close channel outcomes =>
    if (binding.channels channel).isChnAdded2HashTbl then
      fsmCloseEvent binding channel outcomes
    else
      binding
  | .unregisterDatapath datapath removable outcomes =>
    dprmUnregisterDatapath binding datapath removable outcomes

/-! ## The table -/

/-- `OF_XPRT_PROTO_CHANNEL_*_EVENT`.  The attach event has the number of the learn
event. -/
inductive ChannelEvent where
  | learn
  | dpDetach
  | read
  | write
  | readFail
  | writeFail
  | error
  | close
deriving DecidableEq

/-- The functions `fsm_xprt_proto_channel_*` that stand in the table. -/
inductive FsmHandler where
  | learn
  | learnDp
  | detachDp
  | read
  | write
  | readError
  | writeError
  | error
  | close
deriving DecidableEq

/-- `cntlr_xprt_proto_channel_fsm_handler`; an empty cell is `none`. -/
def cntlrXprtProtoChannelFsmHandler : ChannelFsmState → ChannelEvent → Option FsmHandler
  | .init, .learn => some .learn
  | .init, _ => none
  | .waitForHandshake, .learn => some .learnDp
  | .boundToDp, .learn => none
  | .closeConn, _ => some .error
  | _, .dpDetach => some .detachDp
  | _, .read => some .read
  | _, .write => some .write
  | _, .readFail => some .readError
  | _, .writeFail => some .writeError
  | _, .error => some .error
  | _, .close => some .close

/-! ## The channels and those who point to them -/

/-- `OF_TRANSPORT_PROTO_FD_TYPE_*`. -/
inductive FdType where
  | sharedAndDedicated
  | dedicated
  | shared
deriving DecidableEq

/-- Who was given a pointer to the channel: the callbacks that are polled for its
socket and for its message queue, and its keep-alive timers. -/
structure ChannelHolders where
  handshake : Bool
  ctrlThreadMsgs : Bool
  keepAlive : Bool

/-- The holders of a channel nobody was told about. -/
def ChannelHolders.nobody : ChannelHolders where
  handshake := false
  ctrlThreadMsgs := false
  keepAlive := false

/-- The channels with the cells of the table that were looked up so far, in
order. -/
structure ChannelFsm where
  binding : Binding
  fdType : Nat → FdType
  holders : Nat → ChannelHolders
  dispatched : List (ChannelFsmState × ChannelEvent)

/-- The outcomes of `fsm_xprt_proto_channel_learn`: those of
`cntlr_trnsprt_channel_init` and of adding the socket to the poll, and, when the
hello is not sent, whether the peer had closed. -/
structure LearnOutcomes where
  initialised : Bool
  epollAdded : Bool
  helloNotSent : Option Bool
  closing : ChannelOutcomes

namespace ChannelFsm

def create : ChannelFsm where
  binding := Binding.create
  fdType := fun _ => .sharedAndDedicated
  holders := fun _ => ChannelHolders.nobody
  dispatched := []

def stateOf (fsm : ChannelFsm) (channel : Nat) : ChannelFsmState :=
  (fsm.binding.channels channel).fsmState

/-- The cell of the channel's state and of `channel->fsm_event`. -/
def handlerOf (fsm : ChannelFsm) (channel : Nat) (event : ChannelEvent) : Option FsmHandler :=
  cntlrXprtProtoChannelFsmHandler (fsm.stateOf channel) event

def lookUp (fsm : ChannelFsm) (channel : Nat) (event : ChannelEvent) : ChannelFsm :=
  { fsm with dispatched := fsm.dispatched ++ [(fsm.stateOf channel, event)] }

def setHolders (fsm : ChannelFsm) (channel : Nat) (holders : ChannelHolders) : ChannelFsm :=
  { fsm with holders := Function.update fsm.holders channel holders }

/-! ## Detaching and closing -/

/-- `fsm_xprt_proto_channel_detach_dp`: a socket of its own is polled by the
handshake callback again. -/
def fsmXprtProtoChannelDetachDp (fsm : ChannelFsm) (channel : Nat)
    (outcomes : ChannelOutcomes) : ChannelFsm :=
  let detached := { fsm with binding := fsmChannelDetachDp fsm.binding channel outcomes }
  if (fsm.binding.channels channel).isChnAddedToDp = true ∧ fsm.fdType channel ≠ .shared then
    detached.setHolders channel
      { fsm.holders channel with handshake := outcomes.epollReAdded channel }
  else
    detached

/-- The detach event.  The handler of a closed channel does nothing. -/
def dispatchDetach (fsm : ChannelFsm) (channel : Nat) (outcomes : ChannelOutcomes) :
    ChannelFsm :=
  let called := fsm.lookUp channel .dpDetach
  match fsm.handlerOf channel .dpDetach with
  | some .detachDp => called.fsmXprtProtoChannelDetachDp channel outcomes
  | _ => called

/-- `xprt_proto_channel_close`.  The second component is
`status == OF_SUCCESS`. -/
def xprtProtoChannelClose (fsm : ChannelFsm) (channel : Nat) (outcomes : ChannelOutcomes) :
    ChannelFsm × Bool :=
  let detached := fsm.dispatchDetach channel outcomes
  if outcomes.transportClosed channel then
    ({ detached with
        binding :=
          detached.binding.setChannel channel (detached.binding.channels channel).closed }, true)
  else
    (detached, false)

/-- The `while` loop of `fsm_xprt_proto_channel_close`. -/
def closeAuxChannels (datapath : Nat) (outcomes : ChannelOutcomes) : Nat → ChannelFsm → ChannelFsm
  | 0, fsm => fsm
  | count + 1, fsm =>
    match (fsm.binding.datapaths datapath).bind fun entry => entry.auxChannels.getLast? with
    | none => fsm
    | some dpChannel =>
      match dpChannel.connSafeRef with
      | none => fsm
      | some auxChannel =>
        if (fsm.binding.channels auxChannel).isChnAdded2HashTbl then
          let closed := fsm.xprtProtoChannelClose auxChannel outcomes
          if closed.2 then
            closeAuxChannels datapath outcomes count
              { closed.1 with
                binding :=
                  closed.1.binding.modifyDatapath datapath DatapathEntry.removeTail }
          else
            closed.1
        else
          fsm

/-- The auxiliary channels that the closing of a main channel closes first. -/
def closeAuxChannelsOf (fsm : ChannelFsm) (channel : Nat) (outcomes : ChannelOutcomes) :
    ChannelFsm :=
  let info := fsm.binding.channels channel
  if info.auxiliaryId = 0 ∧ info.isChnAddedToDp = true then
    match info.datapath with
    | none => fsm
    | some datapath =>
      match fsm.binding.datapaths datapath with
      | none => fsm
      | some entry =>
        if entry.auxChannels = [] then
          fsm
        else
          closeAuxChannels datapath outcomes entry.currNoOfAuxChanels.toNat fsm
  else
    fsm

def fsmXprtProtoChannelClose (fsm : ChannelFsm) (channel : Nat) (outcomes : ChannelOutcomes) :
    ChannelFsm :=
  ((fsm.closeAuxChannelsOf channel outcomes).xprtProtoChannelClose channel outcomes).1

/-- The close event. -/
def dispatchClose (fsm : ChannelFsm) (channel : Nat) (outcomes : ChannelOutcomes) :
    ChannelFsm :=
  let called := fsm.lookUp channel .close
  match fsm.handlerOf channel .close with
  | some .close => called.fsmXprtProtoChannelClose channel outcomes
  | _ => called

/-! ## Failed reads and writes -/

/-- The read-fail event.  `fsm_xprt_proto_channel_read_error` drains the message,
and only a peer that closed meanwhile makes it raise another event. -/
def dispatchReadFail (fsm : ChannelFsm) (channel : Nat) (closedInDrain : Bool)
    (outcomes : ChannelOutcomes) : ChannelFsm :=
  let called := fsm.lookUp channel .readFail
  match fsm.handlerOf channel .readFail with
  | some .readError => if closedInDrain then called.dispatchClose channel outcomes else called
  | _ => called

/-- A header that `fsm_xprt_proto_channel_read` cannot read. -/
def headerReadFailed (fsm : ChannelFsm) (channel : Nat) (peerClosed closedInDrain : Bool)
    (outcomes : ChannelOutcomes) : ChannelFsm :=
  if peerClosed then
    (fsm.dispatchDetach channel outcomes).dispatchClose channel outcomes
  else
    fsm.dispatchReadFail channel closedInDrain outcomes

/-- A body that `fsm_xprt_proto_channel_read_msg_from_dp` cannot read. -/
def bodyReadFailed (fsm : ChannelFsm) (channel : Nat) (peerClosed closedInDrain : Bool)
    (outcomes : ChannelOutcomes) : ChannelFsm :=
  if peerClosed then
    fsm.dispatchClose channel outcomes
  else
    fsm.dispatchReadFail channel closedInDrain outcomes

/-- A failed write of `fsm_xprt_proto_channel_write_msg_to_dp`. -/
def writeFailed (fsm : ChannelFsm) (channel : Nat) (peerClosed : Bool)
    (outcomes : ChannelOutcomes) : ChannelFsm :=
  if peerClosed then
    (fsm.dispatchDetach channel outcomes).dispatchClose channel outcomes
  else
    fsm.lookUp channel .writeFail

/-- A failed write to a channel that is found by its safe reference. -/
def sendFailed (fsm : ChannelFsm) (channel : Nat) (peerClosed : Bool)
    (outcomes : ChannelOutcomes) : ChannelFsm :=
  if (fsm.binding.channels channel).isChnAdded2HashTbl then
    fsm.writeFailed channel peerClosed outcomes
  else
    fsm

/-! ## Learning and attaching -/

/-- The channel after `cntlr_trnsprt_channel_init`, waiting for the handshake on its
socket. -/
def addChannel (fsm : ChannelFsm) (fdType : FdType) (epollAdded : Bool) : ChannelFsm :=
  { fsm with
    binding := fsmChannelLearn fsm.binding
    fdType := Function.update fsm.fdType fsm.binding.numberOfChannels fdType
    holders :=
      Function.update fsm.holders fsm.binding.numberOfChannels
        { handshake := decide (fdType ≠ .shared) && epollAdded
          ctrlThreadMsgs := true
          keepAlive := false } }

/-- `fsm_xprt_proto_channel_learn` for a new channel: what
`cntlr_trnsprt_channel_init` set up is given up again when it fails. -/
def fsmXprtProtoChannelLearn (fsm : ChannelFsm) (fdType : FdType) (outcomes : LearnOutcomes) :
    ChannelFsm :=
  let channel := fsm.binding.numberOfChannels
  if outcomes.initialised then
    let learned := fsm.addChannel fdType outcomes.epollAdded
    match fdType, outcomes.epollAdded, outcomes.helloNotSent with
    | .sharedAndDedicated, true, some peerClosed =>
      learned.writeFailed channel peerClosed outcomes.closing
    | _, _, _ => learned
  else
    { fsm with
      binding := { fsm.binding with numberOfChannels := channel + 1 } }

/-- The learn event of a new channel, which is in its initial state. -/
def dispatchLearn (fsm : ChannelFsm) (fdType : FdType) (outcomes : LearnOutcomes) :
    ChannelFsm :=
  let called := fsm.lookUp fsm.binding.numberOfChannels .learn
  match fsm.handlerOf fsm.binding.numberOfChannels .learn with
  | some .learn => called.fsmXprtProtoChannelLearn fdType outcomes
  | _ => called

/-- `fsm_xprt_proto_channel_learn_dp`: a socket of its own is handed over to
`of_handle_dp_msg`, which finds the channel by its safe reference. -/
def fsmXprtProtoChannelLearnDp (fsm : ChannelFsm) (channel : Nat) : ChannelFsm :=
  let learned := { fsm with binding := fsmChannelLearnDp fsm.binding channel }
  if fsm.fdType channel = .shared then
    learned
  else
    learned.setHolders channel { fsm.holders channel with handshake := false }

/-- The attach event. -/
def dispatchAttach (fsm : ChannelFsm) (channel : Nat) : ChannelFsm :=
  let called := fsm.lookUp channel .learn
  match fsm.handlerOf channel .learn with
  | some .learnDp => called.fsmXprtProtoChannelLearnDp channel
  | _ => called

/-- `of_process_feature_reply_msg`.  `sends` are the failed writes while the switch
is configured. -/
def ofProcessFeatureReplyMsg (fsm : ChannelFsm) (channel datapath : Nat)
    (auxiliaryId : UInt8) (attach : AttachOutcomes)
    (sends : List (Nat × Bool × ChannelOutcomes)) (outcomes : ChannelOutcomes) :
    ChannelFsm :=
  if (fsm.binding.channels channel).isChnAddedToDp then
    fsm
  else
    let stored := fsm.binding.storeAuxiliaryId channel auxiliaryId
    let added := ofAddChannelToDp stored channel datapath auxiliaryId attach
    if added.2 then
      let attached :=
        { fsm with binding := added.1.storeDatapath channel datapath }.dispatchAttach channel
      if auxiliaryId = 0 then
        let sent :=
          sends.foldl (fun fsm send => fsm.sendFailed send.1 send.2.1 send.2.2) attached
        if attach.switchConfigured then
          sent.setHolders channel { sent.holders channel with keepAlive := true }
        else
          sent.dispatchClose channel outcomes
      else
        attached
    else
      { fsm with binding := added.1 }.dispatchClose channel outcomes

end ChannelFsm

/-! ## Events -/

/-- What the code that reads a channel and answers its messages raises. -/
inductive Raised where
  | headerReadFailed (peerClosed closedInDrain : Bool)
  | bodyReadFailed (peerClosed closedInDrain : Bool)
  | writeFailed (peerClosed : Bool)
  | sendFailed (other : Nat) (peerClosed : Bool)
  | unsupportedHello
  | malformed
  | featuresReply (datapath : Nat) (auxiliaryId : UInt8) (attach : AttachOutcomes)
      (sends : List (Nat × Bool × ChannelOutcomes))

namespace ChannelFsm

def raise (channel : Nat) (fsm : ChannelFsm) (raised : Raised × ChannelOutcomes) :
    ChannelFsm :=
  match raised.1 with
  | .headerReadFailed peerClosed closedInDrain =>
    fsm.headerReadFailed channel peerClosed closedInDrain raised.2
  | .bodyReadFailed peerClosed closedInDrain =>
    fsm.bodyReadFailed channel peerClosed closedInDrain raised.2
  | .writeFailed peerClosed => fsm.writeFailed channel peerClosed raised.2
  | .sendFailed other peerClosed => fsm.sendFailed other peerClosed raised.2
  | .unsupportedHello => fsm.lookUp channel .error
  | .malformed => fsm.dispatchClose channel raised.2
  | .featuresReply datapath auxiliaryId attach sends =>
    fsm.ofProcessFeatureReplyMsg channel datapath auxiliaryId attach sends raised.2

/-- The read event, and what is raised until its message is answered.  The
handshake callback answers the last message also when the channel is closed. -/
def dispatchRead (fsm : ChannelFsm) (channel : Nat)
    (raised : List (Raised × ChannelOutcomes)) : ChannelFsm :=
  match fsm.handlerOf channel .read with
  | some _ => raised.foldl (raise channel) (fsm.lookUp channel .read)
  | none => fsm.lookUp channel .read

/-- `dprm_free_datapath_channels`: `fsm_send_channel_event` makes the channel wait
for a handshake, whatever the handler of the detach event did. -/
def dprmFreeDatapathChannels (fsm : ChannelFsm) (datapath : Nat) (outcomes : ChannelOutcomes) :
    ChannelFsm :=
  match fsm.binding.datapaths datapath with
  | none => fsm
  | some entry =>
    if entry.isMainConnPresent then
      match entry.mainChannel.connSafeRef with
      | none => fsm
      | some channel =>
        if (fsm.binding.channels channel).isChnAdded2HashTbl then
          let detached := fsm.dispatchDetach channel outcomes
          { detached with
            binding :=
              detached.binding.setChannel channel
                { detached.binding.channels channel with
                  fsmState := .waitForHandshake } }
        else
          fsm
    else
      fsm

def dprmUnregisterDatapath (fsm : ChannelFsm) (datapath : Nat) (removable : Bool)
    (outcomes : ChannelOutcomes) : ChannelFsm :=
  if removable then
    let freed := fsm.dprmFreeDatapathChannels datapath outcomes
    { freed with
      binding :=
        { freed.binding with
          datapaths := Function.update freed.binding.datapaths datapath none } }
  else
    fsm

/-- What `fsm_xprt_proto_close` does to one channel of the connection table. -/
def closeOfTransport (outcomes : ChannelOutcomes) (fsm : ChannelFsm) (channel : Nat) :
    ChannelFsm :=
  if (fsm.binding.channels channel).isChnAdded2HashTbl then
    (fsm.dispatchDetach channel outcomes).dispatchClose channel outcomes
  else
    fsm

end ChannelFsm

/-- What the transport layer, the timers and the applications do to channels.
`accept` stands for `fsm_xprt_proto_open` and for the channel of a dedicated
descriptor; a datagram reaches the channel of its peer, which is made when it is
not in the connection table. -/
inductive FsmEvent where
  | registerDatapath
  | accept (fdType : FdType) (learn : LearnOutcomes)
  | datagram (channel : Nat) (raised : List (Raised × ChannelOutcomes))
  | datagramOfNewPeer (learn : LearnOutcomes) (raised : List (Raised × ChannelOutcomes))
  | handshakeReadable (channel : Nat) (raised : List (Raised × ChannelOutcomes))
  | dpReadable (channel : Nat) (raised : List (Raised × ChannelOutcomes))
  | dpHangup (channel : Nat) (outcomes : ChannelOutcomes)
  | dpNotWritten (channel : Nat) (peerClosed : Bool) (outcomes : ChannelOutcomes)
  | ctrlThreadMsgNotSent (channel : Nat) (peerClosed : Bool) (outcomes : ChannelOutcomes)
  | keepAliveNotSent (channel other : Nat) (peerClosed : Bool) (outcomes : ChannelOutcomes)
  | keepAliveNotAnswered (channel : Nat) (outcomes : ChannelOutcomes)
  | unregisterDatapath (datapath : Nat) (removable : Bool) (outcomes : ChannelOutcomes)
  | closeTransport (channels : List Nat) (outcomes : ChannelOutcomes)

/-- One event.  Callbacks and timers use the pointer they were given; everybody
else finds the channel in the connection table. -/
def fsmStep (fsm : ChannelFsm) : FsmEvent → ChannelFsm
  | .registerDatapath => { fsm with binding := dprmRegisterDatapath fsm.binding }
  | .accept fdType learn => fsm.dispatchLearn fdType learn
  | .datagram channel raised =>
    if (fsm.binding.channels channel).isChnAdded2HashTbl then
      fsm.dispatchRead channel raised
    else
      fsm
  | .datagramOfNewPeer learn raised =>
    -- The answer of the learn event is not looked at.
    (fsm.dispatchLearn .shared learn).dispatchRead fsm.binding.numberOfChannels raised
  | .handshakeReadable channel raised =>
    if (fsm.holders channel).handshake then fsm.dispatchRead channel raised else fsm
  | .dpReadable channel raised =>
    if (fsm.binding.channels channel).isChnAdded2HashTbl ∧
        fsm.stateOf channel ≠ .closeConn then
      fsm.dispatchRead channel raised
    else
      fsm
  | .dpHangup channel outcomes =>
    if (fsm.binding.channels channel).isChnAdded2HashTbl then
      fsm.dispatchClose channel outcomes
    else
      fsm
  | .dpNotWritten channel peerClosed outcomes => fsm.sendFailed channel peerClosed outcomes
  | .ctrlThreadMsgNotSent channel peerClosed outcomes =>
    if (fsm.holders channel).ctrlThreadMsgs then
      fsm.writeFailed channel peerClosed outcomes
    else
      fsm
  | .keepAliveNotSent channel other peerClosed outcomes =>
    if (fsm.holders channel).keepAlive then
      fsm.sendFailed other peerClosed outcomes
    else
      fsm
  | .keepAliveNotAnswered channel outcomes =>
    if (fsm.holders channel).keepAlive then fsm.dispatchClose channel outcomes else fsm
  | .unregisterDatapath datapath removable outcomes =>
    fsm.dprmUnregisterDatapath datapath removable outcomes
  | .closeTransport channels outcomes =>
    channels.foldl (ChannelFsm.closeOfTransport outcomes) fsm

end OpenFlowController.Transport
